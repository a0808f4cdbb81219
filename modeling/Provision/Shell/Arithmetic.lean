import Provision.Shell.Word
import Provision.Text.Decimal

set_option autoImplicit false

namespace Provision.Shell.Arithmetic

inductive Expr where
  | number (n : Int)
  | name (n : List Char)
  | item (n : List Char) (index : Expr)
  | unary (op : String) (a : Expr)
  | binary (op : String) (a b : Expr)
  | choice (test yes no : Expr)
  /-- Gives a name the value of an operator, or just a value if there is none. -/
  | assign (n : List Char) (op : Option String) (a : Expr)
  /-- Changes a name by one; the value is the one before if `after`. -/
  | step (n : List Char) (by_ : Int) (after : Bool)
  deriving Repr

inductive Problem where
  | primary
  | colon
  | paren
  | ending
  | zero
  | number (text : List Char)
  deriving DecidableEq, Repr

abbrev Result (α : Type) := Except Problem α

def ranks : List (List String) :=
  [["||"], ["&&"], ["|"], ["^"], ["&"], ["==", "!="], ["<=", ">=", "<", ">"], ["<<", ">>"], ["+", "-"], ["*", "/", "%"]]

def assignments : List String := ["=", "+=", "-=", "*=", "/=", "%=", "<<=", ">>=", "&=", "|=", "^="]

def truth (b : Bool) : Int := if b then 1 else 0

def wrapped (n : Int) : Int := Int.bmod n (Nat.pow 2 64)

def bits (n : Int) : Nat := (n % Nat.pow 2 64).toNat

def largest : Int := Nat.pow 2 63 - 1

def apply (op : String) (a b : Int) : Option Int :=
  wrapped <$> match op with
  | "||" => some (truth (a ≠ 0 || b ≠ 0))
  | "&&" => some (truth (a ≠ 0 && b ≠ 0))
  | "|" => some (Int.ofNat (bits a ||| bits b))
  | "^" => some (Int.ofNat (bits a ^^^ bits b))
  | "&" => some (Int.ofNat (bits a &&& bits b))
  | "==" => some (truth (a = b))
  | "!=" => some (truth (a ≠ b))
  | "<=" => some (truth (a ≤ b))
  | ">=" => some (truth (a ≥ b))
  | "<" => some (truth (a < b))
  | ">" => some (truth (a > b))
  | "<<" => some (a * Nat.pow 2 (bits b % 64))
  | ">>" => some (a / Nat.pow 2 (bits b % 64))
  | "+" => some (a + b)
  | "-" => some (a - b)
  | "*" => some (a * b)
  | "/" => if b = 0 then none else some (a.tdiv b)
  | "%" => if b = 0 then none else some (a.tmod b)
  | "**" => some (a.pow b.toNat)
  | "," => some b
  | _ => none

def skip (cs : List Char) : List Char := cs.dropWhile fun c => c = ' ' || c = '\t' || c = '\n'

def digitValue? (c : Char) : Option Nat :=
  if c.isDigit then some (c.toNat - 48)
  else if c.isLower then some (c.toNat - 87)
  else if c.isUpper then some (c.toNat - 55)
  else none

def digits (base : Nat) (cs : List Char) : Option (Nat × List Char) :=
  let ds := cs.takeWhile fun c => (digitValue? c).any (· < base)
  if ds.isEmpty then none
  else some (ds.foldl (fun n c => n * base + (digitValue? c).getD 0) 0, cs.drop ds.length)

/-- A number at the front: in base sixteen behind `0x`, in base eight behind `0`, else in base ten. -/
def numeral (d : Dialect) (cs : List Char) : Option (Int × List Char) :=
  let clamped (r : Nat × List Char) : Int × List Char :=
    (if d.isRich then wrapped r.1 else min r.1 largest, r.2)
  match cs with
  | '0' :: x :: rest =>
    match (if x = 'x' || x = 'X' then digits 16 rest else none) with
    | some r => some (clamped r)
    | none => (digits 8 cs).map clamped
  | _ =>
    match digits 10 cs with
    | some (base, '#' :: rest) =>
      if d.isRich && 2 ≤ base && base ≤ 36 then (digits base rest).map clamped else some (clamped (base, '#' :: rest))
    | r => r.map clamped

def operator? (d : Dialect) (cs : List Char) : Option (String × List Char) :=
  let known := assignments ++ ranks.flatten ++ ["?", ":", ")", "!", "~"] ++ (if d.isRich then ["**", "++", "--", ","] else [])
  let at_ (n : Nat) : Option (String × List Char) :=
    let op := String.ofList (cs.take n)
    if cs.length ≥ n && known.contains op then some (op, cs.drop n) else none
  (at_ 3).or ((at_ 2).or (at_ 1))

def nameOf (cs : List Char) : List Char :=
  match cs with
  | c :: _ => if isNameStart c then cs.takeWhile isNameChar else []
  | [] => []

mutual

def whole (d : Dialect) : Nat → List Char → Result (Expr × List Char)
  | 0, _ => .error .primary
  | fuel + 1, cs => do
    let (a, rest) ← assigned d fuel cs
    match operator? d (skip rest) with
    | some (",", rest) =>
      let (b, rest) ← whole d fuel rest
      return (.binary "," a b, rest)
    | _ => return (a, rest)

def assigned (d : Dialect) : Nat → List Char → Result (Expr × List Char)
  | 0, _ => .error .primary
  | fuel + 1, cs =>
    let cs := skip cs
    let name := nameOf cs
    match name, operator? d (skip (cs.drop name.length)) with
    | _ :: _, some (op, rest) =>
      if assignments.contains op then do
        let (a, rest) ← assigned d fuel rest
        return (.assign name (if op = "=" then none else some (String.ofList op.toList.dropLast)) a, rest)
      else chosen d fuel cs
    | _, _ => chosen d fuel cs

def chosen (d : Dialect) : Nat → List Char → Result (Expr × List Char)
  | 0, _ => .error .primary
  | fuel + 1, cs => do
    let (test, rest) ← joined d fuel ranks cs
    match operator? d (skip rest) with
    | some ("?", rest) =>
      let (yes, rest) ← assigned d fuel rest
      match operator? d (skip rest) with
      | some (":", rest) =>
        let (no, rest) ← chosen d fuel rest
        return (.choice test yes no, rest)
      | _ => throw .colon
    | _ => return (test, rest)

def joined (d : Dialect) : Nat → List (List String) → List Char → Result (Expr × List Char)
  | 0, _, _ => .error .primary
  | fuel + 1, [], cs => do
    let (a, rest) ← single d fuel (skip cs)
    match operator? d (skip rest) with
    | some ("**", rest) =>
      let (b, rest) ← joined d fuel [] rest
      return (.binary "**" a b, rest)
    | _ => return (a, rest)
  | fuel + 1, ops :: tighter, cs => do
    let (a, rest) ← joined d fuel tighter cs
    further d fuel ops tighter a rest

def further (d : Dialect) : Nat → List String → List (List String) → Expr → List Char → Result (Expr × List Char)
  | 0, _, _, _, _ => .error .primary
  | fuel + 1, ops, tighter, a, cs =>
    match operator? d (skip cs) with
    | some (op, rest) =>
      if ops.contains op then do
        let (b, rest) ← joined d fuel tighter rest
        further d fuel ops tighter (.binary op a b) rest
      else .ok (a, cs)
    | none => .ok (a, cs)

def single (d : Dialect) : Nat → List Char → Result (Expr × List Char)
  | 0, _ => .error .primary
  | fuel + 1, cs =>
    let stepped (by_ : Int) (rest : List Char) : Result (Expr × List Char) :=
      let rest := skip rest
      let name := nameOf rest
      if name.isEmpty then .error .primary else .ok (.step name by_ false, rest.drop name.length)
    match d, cs with
    | .rich, '+' :: '+' :: rest => stepped 1 rest
    | .rich, '-' :: '-' :: rest => stepped (-1) rest
    | _, '(' :: rest => do
      let (a, rest) ← whole d fuel rest
      match skip rest with
      | ')' :: rest => return (a, rest)
      | _ => throw .paren
    | _, c :: rest =>
      if ['-', '+', '!', '~'].contains c then do
        let (a, rest) ← single d fuel (skip rest)
        return (.unary (String.singleton c) a, rest)
      else match numeral d cs with
        | some (n, rest) => .ok (.number n, rest)
        | none =>
          let name := nameOf cs
          if name.isEmpty then .error .primary
          else
            let rest := cs.drop name.length
            match d, rest with
            | .rich, '[' :: more => do
              let (i, rest) ← whole d fuel more
              match skip rest with
              | ']' :: rest => return (.item name i, rest)
              | _ => throw .primary
            | .rich, _ =>
              match skip rest with
              | '+' :: '+' :: rest => .ok (.step name 1 true, rest)
              | '-' :: '-' :: rest => .ok (.step name (-1) true, rest)
              | _ => .ok (.name name, rest)
            | .plain, _ => .ok (.name name, rest)
    | _, [] => .error .primary

end

def parse (d : Dialect) (cs : List Char) : Result Expr := do
  if d.isRich && (skip cs).isEmpty then return .number 0
  let (e, rest) ← whole d (20 * cs.length + 20) cs
  if (skip rest).isEmpty then return e else throw .ending

/-- Names and the values that they were given, and how names are looked up. -/
structure Scope where
  given : List (List Char × Int)
  value : List Char → List Char
  item : List Char → Int → List Char

def trimmed (cs : List Char) : List Char := ((skip cs).reverse.dropWhile fun c => c = ' ' || c = '\t' || c = '\n').reverse

mutual

def numberOf (d : Dialect) : Nat → Scope → List Char → Result Int
  | 0, _, _ => .error .primary
  | fuel + 1, s, text =>
    let text := trimmed text
    if text.isEmpty then .ok 0
    else
      let (sign, body) : Int × List Char := match text with
        | '-' :: rest => (-1, rest)
        | '+' :: rest => (1, rest)
        | _ => (1, text)
      match numeral d body with
      | some (n, []) => .ok (sign * n)
      | _ =>
        if !d.isRich then .error (.number text)
        else do
          let e ← parse d text
          return (← evaluate d fuel s e).1

def evaluate (d : Dialect) : Nat → Scope → Expr → Result (Int × Scope)
  | 0, _, _ => .error .primary
  | fuel + 1, s, e =>
    let lookup (n : List Char) : Result Int :=
      match s.given.lookup n with
      | some v => .ok v
      | none => numberOf d fuel s (s.value n)
    match e with
    | .number n => .ok (n, s)
    | .name n => do return (← lookup n, s)
    | .item n i => do
      let (i, s) ← evaluate d fuel s i
      return (← numberOf d fuel s (s.item n i), s)
    | .unary op a => do
      let (v, s) ← evaluate d fuel s a
      return (wrapped (match op with
        | "-" => -v
        | "!" => truth (v = 0)
        | "~" => -v - 1
        | _ => v), s)
    | .binary op a b => do
      let (v, s) ← evaluate d fuel s a
      if op = "||" && v ≠ 0 then return (1, s)
      if op = "&&" && v = 0 then return (0, s)
      let (w, s) ← evaluate d fuel s b
      match apply op v w with
      | some r => return (r, s)
      | none => throw .zero
    | .choice test yes no => do
      let (v, s) ← evaluate d fuel s test
      evaluate d fuel s (if v ≠ 0 then yes else no)
    | .assign n op a => do
      let (v, s) ← evaluate d fuel s a
      let v ← match op with
        | none => pure v
        | some op =>
          match apply op (← lookup n) v with
          | some r => pure r
          | none => throw .zero
      return (v, { s with given := (n, v) :: s.given })
    | .step n by_ after => do
      let v ← lookup n
      return (if after then v else v + by_, { s with given := (n, v + by_) :: s.given })

end

def value (d : Dialect) (value : List Char → List Char) (item : List Char → Int → List Char) (cs : List Char) :
    Result (Int × List (List Char × Int)) := do
  let e ← parse d cs
  let (n, s) ← evaluate d (20 * cs.length + 200) ⟨[], value, item⟩ e
  return (n, s.given)

def Problem.message (text : List Char) : Problem → String
  | .number bad => "Illegal number: " ++ String.ofList bad
  | p => "arithmetic expression: " ++ (match p with
      | .colon => "expecting ':'"
      | .paren => "expecting ')'"
      | .ending => "expecting EOF"
      | .zero => "division by zero"
      | _ => "expecting primary") ++ ": \"" ++ String.ofList text ++ "\""

def Problem.messageRich (text : List Char) (p : Problem) : String :=
  let text := String.ofList (trimmed text)
  let last := ((text.splitOn " ").getLastD text)
  match p with
  | .zero => text ++ ": division by 0 (error token is \"" ++ String.ofList ((last.toList.reverse.takeWhile Char.isAlphanum).reverse) ++ "\")"
  | .ending => text ++ ": syntax error in expression (error token is \"" ++ last ++ "\")"
  | _ => text ++ ": syntax error: operand expected (error token is \"" ++ String.ofList (last.toList.drop (last.length - 1)) ++ "\")"

end Provision.Shell.Arithmetic
