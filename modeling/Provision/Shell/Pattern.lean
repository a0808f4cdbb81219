import Provision.Text.Regex.Reader

set_option autoImplicit false

namespace Provision.Shell

/-- Text whose characters are marked: some stand for themselves, others may be part of a pattern. -/
abbrev Marked := List (Char × Bool)

def Marked.text (cs : Marked) : String := String.ofList (cs.map (·.1))

def mark (isPlain : Bool) (cs : List Char) : Marked := cs.map fun c => (c, isPlain)

inductive Glob where
  | literal (c : Char)
  | one
  | many
  | among (kind : Char → Bool)

namespace Glob

/-- The characters between brackets, and what follows them; `isFirst` says that no bracket can close yet. -/
def members : Nat → Bool → Marked → Option ((Char → Bool) × Marked)
  | 0, _, _ => none
  | _, _, [] => none
  | fuel + 1, isFirst, (c, isPlain) :: rest =>
    let with_ (p : Char → Bool) (rest : Marked) : Option ((Char → Bool) × Marked) :=
      (members fuel false rest).map fun r => (fun d => p d || r.1 d, r.2)
    if c = ']' && !isPlain && !isFirst then some (fun _ => false, rest)
    else match c, isPlain, rest with
      | '[', false, (':', _) :: more =>
        let name := more.takeWhile fun m => m.1.isAlpha
        match more.drop name.length, Text.Regex.asciiClass? (Marked.text name) with
        | (':', _) :: (']', _) :: after, some p => with_ p after
        | _, _ => with_ (· = c) rest
      | '\\', false, (e, _) :: more => with_ (· = e) more
      | _, _, ('-', false) :: (hi, hiPlain) :: more =>
        if hi = ']' && !hiPlain then with_ (· = c) rest
        else with_ (fun d => c ≤ d && d ≤ hi) more
      | _, _, _ => with_ (· = c) rest

/-- Reads a pattern. Each character comes with a mark that says whether it stands for itself; `isRich` lets
brackets also be turned around by a caret. -/
def read (isRich : Bool) : Nat → Marked → List Glob
  | 0, _ => []
  | _, [] => []
  | fuel + 1, (c, isPlain) :: rest =>
    if isPlain then .literal c :: read isRich fuel rest
    else if c = '*' then .many :: read isRich fuel rest
    else if c = '?' then .one :: read isRich fuel rest
    else if c = '\\' then
      match rest with
      | (e, _) :: more => .literal e :: read isRich fuel more
      | [] => [.literal c]
    else if c = '[' then
      let (wanted, inside) := match rest with
        | ('!', false) :: more => (false, more)
        | ('^', false) :: more => if isRich then (false, more) else (true, rest)
        | _ => (true, rest)
      match members (inside.length + 1) true inside with
      | some (p, after) => .among (fun d => p d = wanted) :: read isRich fuel after
      | none => .literal c :: read isRich fuel rest
    else .literal c :: read isRich fuel rest

def ofMarked (isRich : Bool) (cs : Marked) : List Glob := read isRich (cs.length + 1) cs

def fits : List Glob → List Char → Bool
  | [], [] => true
  | .literal c :: ps, d :: ds => c = d && fits ps ds
  | .one :: ps, _ :: ds => fits ps ds
  | .among kind :: ps, d :: ds => kind d && fits ps ds
  | .many :: ps, [] => fits ps []
  | .many :: ps, d :: ds => fits ps (d :: ds) || fits (.many :: ps) ds
  | _, _ => false
termination_by ps ds => ps.length + ds.length

def isWild (cs : Marked) : Bool :=
  cs.any fun (c, isPlain) => !isPlain && (c = '*' || c = '?' || c = '[')

def front? (longest : Bool) (ps : List Glob) (cs : List Char) : Option Nat :=
  let sizes := List.range (cs.length + 1)
  (if longest then sizes.reverse else sizes).find? fun n => fits ps (cs.take n)

def withoutFront (longest : Bool) (ps : List Glob) (cs : List Char) : List Char :=
  ((front? longest ps cs).map cs.drop).getD cs

def withoutBack (longest : Bool) (ps : List Glob) (cs : List Char) : List Char :=
  let sizes := List.range (cs.length + 1)
  match (if longest then sizes else sizes.reverse).find? fun n => fits ps (cs.drop n) with
  | some n => cs.take n
  | none => cs

def replaced (all : Bool) (ps : List Glob) (other : List Char) : Nat → List Char → List Char
  | 0, cs => cs
  | _, [] => []
  | fuel + 1, c :: cs =>
    match (front? true ps (c :: cs)).filter (· > 0) with
    | some n =>
      let rest := (c :: cs).drop n
      other ++ (if all then replaced all ps other fuel rest else rest)
    | none => c :: replaced all ps other fuel cs

end Glob

end Provision.Shell
