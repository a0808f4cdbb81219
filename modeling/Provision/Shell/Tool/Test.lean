import Provision.Shell.Tool.Files
import Provision.Shell.Tool.Lines
import Provision.Shell.Word

set_option autoImplicit false

namespace Provision.Shell.Tool

inductive OpKind where
  | not
  | unary
  | binary
  | join
  | paren
  deriving DecidableEq

def opKind? (k : Dialect) (s : String) : Option OpKind :=
  if s = "!" then some .not
  else if s = "(" || s = ")" then some .paren
  else if s = "-a" || s = "-o" then some .join
  else if ["=", "!=", "<", ">", "-eq", "-ne", "-ge", "-gt", "-le", "-lt", "-nt", "-ot", "-ef"].contains s
    || (k.isRich && s = "==") then some .binary
  else if ["-r", "-w", "-x", "-e", "-f", "-d", "-c", "-b", "-p", "-u", "-g", "-k", "-s", "-t", "-z", "-n", "-h", "-O", "-G", "-L", "-S"].contains s
    || (k.isRich && (s = "-v" || s = "-N" || s = "-R")) then some .unary
  else none

def testNumber (k : Dialect) (s : String) : Except String Int :=
  let bad : Except String Int := .error (if k.isRich then s ++ ": integer expression expected" else "Illegal number: " ++ s)
  let isGap (c : Char) : Bool := c = ' ' || c = '\t' || c = '\n'
  let body := (((s.toList.dropWhile isGap).reverse.dropWhile isGap).reverse)
  match integer? (String.ofList body) with
  | some n => if n > Nat.pow 2 63 - 1 || n < -(Nat.pow 2 63) then bad else .ok n
  | none => bad

def unary (k : Dialect) (d : Desk) (op a : String) : Except String Bool :=
  let kind := d.disk.inspect d.cwd a
  let mode := match d.disk.find d.cwd a with
    | .ok (_, .file _ mode _) => mode
    | .ok (_, .dir) => 0o755
    | .ok (_, .tool _) => 0o755
    | _ => 0
  match op with
  | "-n" => .ok (a ≠ "")
  | "-z" => .ok (a = "")
  | "-f" => .ok (kind.toOption = some .file)
  | "-d" => .ok (kind.toOption = some .dir)
  | "-c" => .ok (kind.toOption = some .other)
  | "-p" | "-b" | "-S" => .ok false
  | "-t" => if k.isRich then .ok false else (testNumber k a).map fun _ => false
  | "-s" => .ok (match d.disk.find d.cwd a with
    | .ok (_, .file _ _ data) => data.size > 0
    | .ok (_, .dir) => true
    | .ok (_, .tool _) => true
    | _ => false)
  | "-x" => .ok (mode &&& 0o111 ≠ 0)
  | "-u" => .ok (mode &&& 0o4000 ≠ 0)
  | "-g" => .ok (mode &&& 0o2000 ≠ 0)
  | "-k" => .ok (mode &&& 0o1000 ≠ 0)
  | "-L" | "-h" => .ok (match lying? d a with
    | some (_, .link _) => true
    | _ => false)
  | _ => .ok kind.isOk

def age? (d : Desk) (p : String) : Option Nat :=
  match d.disk.find d.cwd p with
  | .ok (_, .file serial _ _) => some serial
  | .ok _ => some 0
  | .error _ => none

def binary (k : Dialect) (d : Desk) (a op b : String) : Except String Bool :=
  let numbers (f : Int → Int → Bool) : Except String Bool := do
    return f (← testNumber k a) (← testNumber k b)
  let isNewer (a b : String) : Bool :=
    match age? d a, age? d b with
    | some x, some y => x > y
    | some _, none => k.isRich
    | none, _ => false
  match op with
  | "=" | "==" => .ok (a = b)
  | "!=" => .ok (a ≠ b)
  | "<" => .ok (a < b)
  | ">" => .ok (b < a)
  | "-eq" => numbers (· == ·)
  | "-ne" => numbers (· != ·)
  | "-lt" => numbers fun x y => x < y
  | "-le" => numbers fun x y => x ≤ y
  | "-gt" => numbers fun x y => x > y
  | "-ge" => numbers fun x y => x ≥ y
  | "-nt" => .ok (isNewer a b)
  | "-ot" => .ok (isNewer b a)
  | _ => .ok (match d.disk.resolve d.cwd a, d.disk.resolve d.cwd b with
    | .ok p, .ok q => p = q
    | _, _ => false)

def opAt (k : Dialect) (ws : List String) : Option OpKind :=
  match ws with
  | [] => none
  | s :: rest =>
    let isOperand : Bool := match rest with
      | [] => true
      | [_] => false
      | next :: _ => opKind? k next = some .binary
    match opKind? k s with
    | some .unary => if isOperand then none else some .unary
    | some .paren => if s = "(" && rest.isEmpty then none else some .paren
    | r => r

abbrev Judged := Except String (Bool × List String)

mutual

def anyOf (k : Dialect) (d : Desk) : Nat → Option OpKind → List String → Judged
  | 0, _, _ => .error "too many arguments"
  | fuel + 1, op, ws => do
    let (a, ws) ← allOf k d fuel op ws
    match ws.drop 1 with
    | "-o" :: more =>
      if opAt k ("-o" :: more) = some .join then
        let (b, ws) ← anyOf k d fuel (opAt k more) more
        return (a || b, ws)
      else return (a, ws)
    | _ => return (a, ws)

def allOf (k : Dialect) (d : Desk) : Nat → Option OpKind → List String → Judged
  | 0, _, _ => .error "too many arguments"
  | fuel + 1, op, ws => do
    let (a, ws) ← single k d fuel op ws
    match ws.drop 1 with
    | "-a" :: more =>
      let (b, ws) ← allOf k d fuel (opAt k more) more
      return (a && b, ws)
    | _ => return (a, ws)

def single (k : Dialect) (d : Desk) : Nat → Option OpKind → List String → Judged
  | 0, _, _ => .error "too many arguments"
  | fuel + 1, op, ws =>
    match op, ws with
    | _, [] => .ok (false, [])
    | some .not, _ :: rest =>
      if rest.isEmpty then .ok (true, ws)
      else (single k d fuel (opAt k rest) rest).map fun r => (!r.1, r.2)
    | some .paren, "(" :: rest =>
      if rest.head? = some ")" then .ok (false, rest)
      else do
        let (a, ws) ← anyOf k d fuel (opAt k rest) rest
        match ws.drop 1 with
        | ")" :: more => return (a, ")" :: more)
        | _ => throw "closing paren expected"
    | some .unary, o :: a :: rest => (unary k d o a).map fun r => (r, a :: rest)
    | some .unary, o :: [] => .error (o ++ ": argument expected")
    | _, a :: rest =>
      match rest with
      | o :: more =>
        if opKind? k o = some .binary then
          match more with
          | b :: after => (binary k d a o b).map fun r => (r, b :: after)
          | [] => .error (o ++ ": argument expected")
        else .ok (a ≠ "", ws)
      | [] => .ok (a ≠ "", ws)

end

def judged (k : Dialect) (d : Desk) (ws : List String) : Except String Bool :=
  let misfit : String :=
    match ws with
    | [a, _] => a ++ ": unary operator expected"
    | [a, b, c] => if a = "!" then b ++ ": unary operator expected" else if c = "" then "too many arguments" else b ++ ": binary operator expected"
    | _ => "too many arguments"
  let fuel := 4 * ws.length + 4
  let isBinary := ws.length = 3 && (ws[1]?.bind (opKind? k)) = some .binary
  if ws.isEmpty then .ok false
  else
    let ws' := if !isBinary && (ws.length = 3 || ws.length = 4) && ws.head? = some "(" && ws.getLast? = some ")" then (ws.drop 1).dropLast else ws
    match anyOf k d fuel (if isBinary then none else opAt k ws') ws' with
    | .ok (r, rest) =>
      if rest.length > 1 then .error (if k.isRich then misfit else rest.headD "" ++ ": unexpected operator") else .ok r
    | .error e => .error (if k.isRich && (e.endsWith "argument expected" || e = "closing paren expected") then misfit else e)

def testAs (k : Dialect) (name : String) : Tool := fun args d =>
  match judged k d args with
  | .ok true => (0, d)
  | .ok false => (1, d)
  | .error e => (2, d.complain (name ++ ": " ++ e))

def test (k : Dialect) : Tool := testAs k "test"

def bracket (k : Dialect) : Tool := fun args d =>
  if args.getLast? = some "]" then testAs k "[" args.dropLast d
  else (2, d.complain (if k.isRich then "[: missing " ++ String.singleton (Char.ofNat 96) ++ "]" ++ apostrophe else "[: missing ]"))

end Provision.Shell.Tool
