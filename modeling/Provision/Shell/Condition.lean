import Provision.Shell.Reach

set_option autoImplicit false

namespace Provision.Shell

def compared (op : String) (m n : Int) : Bool :=
  match op with
  | "-eq" => m == n
  | "-ne" => m != n
  | "-lt" => decide (m < n)
  | "-le" => decide (m ≤ n)
  | "-gt" => decide (m > n)
  | _ => decide (m ≥ n)

namespace Reach

def matched (expression : Marked) (text : List Char) (s : State) : Bool × State :=
  let cs := expression.flatMap fun (c, isPlain) => if isPlain && !(c.isAlphanum || c = ' ') then ['\\', c] else [c]
  match Text.Regex.Classic.read ⟨true, false⟩ cs with
  | .ok r =>
    match r.find? text.toArray 0 with
    | some (start, hit) =>
      let part (a b : Nat) : List Char := (text.drop a).take (b - a)
      let groups := hit.spans.map fun (n, a, b) => (n, part a b)
      (true, s.put "BASH_REMATCH".toList (.list (((0, part start hit.pos) :: groups).mergeSort fun a b => decide (a.1 ≤ b.1))))
    | none => (false, s)
  | .error _ => (false, s)

def judge (r : Reach) (f : Frame) : Check → State → Bool × State
  | .not a, s => let (b, s) := r.judge f a s; (!b, s)
  | .both a b, s =>
    let (yes, s) := r.judge f a s
    if yes then r.judge f b s else (false, s)
  | .either a b, s =>
    let (yes, s) := r.judge f a s
    if yes then (true, s) else r.judge f b s
  | .unary op a, s =>
    let (cs, s) := r.whole f false a s
    let name := cs.map (·.1)
    if op = "-v" then ((s.value? f name).isSome || !(s.items f name).isEmpty, s)
    else match Tool.unary .rich s.desk op cs.text with
      | .ok b => (b, s)
      | .error e => (false, s.complain f ("[[: " ++ e))
  | .binary a op b, s =>
    let (left, s) := r.whole f false a s
    let (right, s) := r.whole f false b s
    let text := left.map (·.1)
    if op = "=" || op = "==" then (Glob.fits (Glob.ofMarked true right) text, s)
    else if op = "!=" then (!Glob.fits (Glob.ofMarked true right) text, s)
    else if op = "=~" then matched right text s
    else if ["-eq", "-ne", "-lt", "-le", "-gt", "-ge"].contains op then
      match Builtin.calculate s f text with
      | .error e => (false, s.complain f ("[[: " ++ e))
      | .ok (m, s) =>
        match Builtin.calculate s f (right.map (·.1)) with
        | .error e => (false, s.complain f ("[[: " ++ e))
        | .ok (n, s) => (compared op m n, s)
    else match Tool.binary .rich s.desk left.text op right.text with
      | .ok b => (b, s)
      | .error e => (false, s.complain f ("[[: " ++ e))

end Reach

end Provision.Shell
