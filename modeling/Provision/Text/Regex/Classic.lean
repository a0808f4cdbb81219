import Provision.Text.Regex.Reader

set_option autoImplicit false

namespace Provision.Text.Regex.Classic

inductive Flaw where
  | bracket
  | openEnd
  | paren
  | closingParen
  | brace
  | bounds
  | boundsOrder
  | preceding
  | reference
  | trailing
  | className
  | range
  deriving DecidableEq, Repr

def Flaw.message : Flaw → String
  | .bracket => "Unmatched [, [^, [:, [., or [="
  | .openEnd => "Invalid regular expression"
  | .paren => "Unmatched ( or \\("
  | .closingParen => "Unmatched ) or \\)"
  | .brace => "Unmatched \\\x7b"
  | .bounds => "Invalid content of \\\x7b\\\x7d"
  | .boundsOrder => "Invalid content of \\\x7b\\\x7d"
  | .preceding => "Invalid preceding regular expression"
  | .reference => "Invalid back reference"
  | .trailing => "Trailing backslash"
  | .className => "Invalid character class name"
  | .range => "Invalid range end"

abbrev Read (α : Type) := Except Flaw α

structure Form where
  extended : Bool
  anyCase : Bool
  deriving DecidableEq, Repr

def Form.kind (f : Form) (p : Kind) : Kind :=
  if f.anyCase then fun c => p c || p c.toLower || p c.toUpper else p

def Form.char (f : Form) (c : Char) : Regex := .one (f.kind (· = c))

/-! Characters between brackets. -/

/-- One member of a class, which may be written as `[.x.]` or `[=x=]`, or a class by name. -/
def member (cs : List Char) : Read ((Option Char × Kind) × List Char) :=
  match cs with
  | '[' :: ':' :: rest =>
    let name := rest.takeWhile (·.isAlpha)
    match rest.drop name.length with
    | ':' :: ']' :: after =>
      match asciiClass? (String.ofList name) with
      | some p => .ok ((none, p), after)
      | none => .error .className
    | _ => .error .bracket
  | '[' :: '.' :: c :: '.' :: ']' :: after => .ok ((some c, (· = c)), after)
  | '[' :: '=' :: c :: '=' :: ']' :: after => .ok ((some c, (· = c)), after)
  | c :: rest => .ok ((some c, (· = c)), rest)
  | [] => .error .bracket

def membersFrom : Nat → Bool → List Char → Read (Kind × List Char)
  | 0, _, _ => .error .bracket
  | fuel + 1, isFirst, cs =>
    match cs with
    | [] => .error (if isFirst then .openEnd else .bracket)
    | ']' :: rest => if isFirst then go fuel cs else .ok (fun _ => false, rest)
    | _ => go fuel cs
where
  go (fuel : Nat) (cs : List Char) : Read (Kind × List Char) := do
    let ((lo, p), rest) ← member cs
    match lo, rest with
    | some lo, '-' :: more =>
      if more.head? = some ']' then
        let (q, after) ← membersFrom fuel false rest
        return (fun c => p c || q c, after)
      else
        let ((hi, _), rest) ← member more
        match hi with
        | some hi =>
          if hi < lo then throw .range
          let (q, after) ← membersFrom fuel false rest
          return (fun c => (lo ≤ c && c ≤ hi) || q c, after)
        | none => throw .range
    | _, _ =>
      let (q, after) ← membersFrom fuel false rest
      return (fun c => p c || q c, after)

def bracket (f : Form) (cs : List Char) : Read (Regex × List Char) := do
  let (wanted, inside) := match cs with
    | '^' :: rest => (false, rest)
    | _ => (true, cs)
  let (p, rest) ← membersFrom (inside.length + 1) true inside
  return (.one fun c => f.kind p c = wanted, rest)

/-! The expressions. -/

def letter? : Char → Option Regex
  | 'w' => some (.one fun c => c.isAlphanum || c = '_')
  | 'W' => some (.one fun c => !(c.isAlphanum || c = '_'))
  | 's' => some (.one fun c => c = ' ' || within '\t' '\r' c)
  | 'S' => some (.one fun c => !(c = ' ' || within '\t' '\r' c))
  | 'b' => some (wordEdge (fun c => c.isAlphanum || c = '_') true)
  | 'B' => some (wordEdge (fun c => c.isAlphanum || c = '_') false)
  | '<' => some (wordStart fun c => c.isAlphanum || c = '_')
  | '>' => some (wordEnd fun c => c.isAlphanum || c = '_')
  | c => if c = Char.ofNat 96 then some textStart else if c = Char.ofNat 39 then some textEnd else none

def boundsFrom (close : List Char) (cs : List Char) : Read (Nat × Option Nat × List Char) := do
  let lo := cs.takeWhile Char.isDigit
  let rest := cs.drop lo.length
  let (hi, rest) : Option Nat × List Char := match rest with
    | ',' :: more =>
      let hi := more.takeWhile Char.isDigit
      (if hi.isEmpty then none else some (Decimal.value hi), more.drop hi.length)
    | _ => (some (Decimal.value lo), rest)
  if lo.isEmpty && rest = cs then throw .bounds
  if rest.take close.length ≠ close then
    if rest.isEmpty then throw .brace else throw .bounds
  if hi.any (· < Decimal.value lo) then throw .boundsOrder
  return (Decimal.value lo, hi, rest.drop close.length)

def repeatedFrom (f : Form) : Nat → Regex → List Char → Read (Regex × List Char)
  | 0, r, cs => .ok (r, cs)
  | fuel + 1, r, cs =>
    match f.extended, cs with
    | _, '*' :: rest => repeatedFrom f fuel (.many r 0 none) rest
    | true, '+' :: rest => repeatedFrom f fuel (.many r 1 none) rest
    | true, '?' :: rest => repeatedFrom f fuel (.many r 0 (some 1)) rest
    | true, '\x7b' :: rest =>
      if rest.head?.any fun c => c.isDigit || c = ',' then do
        let (lo, hi, rest) ← boundsFrom ['\x7d'] rest
        repeatedFrom f fuel (.many r lo hi) rest
      else .ok (r, cs)
    | false, '\\' :: '+' :: rest => repeatedFrom f fuel (.many r 1 none) rest
    | false, '\\' :: '?' :: rest => repeatedFrom f fuel (.many r 0 (some 1)) rest
    | false, '\\' :: '\x7b' :: rest => do
      let (lo, hi, rest) ← boundsFrom ['\\', '\x7d'] rest
      repeatedFrom f fuel (.many r lo hi) rest
    | _, _ => .ok (r, cs)

def sign? (f : Form) : List Char → Option (Char × List Char)
  | '\\' :: c :: rest => if !f.extended && (c = '|' || c = '(' || c = ')') then some (c, rest) else none
  | c :: rest => if f.extended && (c = '|' || c = '(' || c = ')') then some (c, rest) else none
  | [] => none

mutual

/-- Alternatives, up to the end or a closing parenthesis, with the number of groups so far. -/
def alternatives (f : Form) : Nat → Nat → Nat → List Char → Read (Regex × Nat × List Char)
  | 0, _, _, _ => .error .paren
  | fuel + 1, depth, n, cs => do
    let (a, n, rest) ← parts f fuel depth n true cs
    match sign? f rest with
    | some ('|', rest) =>
      let (b, n, rest) ← alternatives f fuel depth n rest
      return (.alt a b, n, rest)
    | _ => return (a, n, rest)

def parts (f : Form) : Nat → Nat → Nat → Bool → List Char → Read (Regex × Nat × List Char)
  | 0, _, _, _, _ => .error .paren
  | fuel + 1, depth, n, isFirst, cs =>
    let go (r : Regex) (n : Nat) (rest : List Char) : Read (Regex × Nat × List Char) := do
      let (r, rest) ← repeatedFrom f (rest.length + 1) r rest
      let (more, n, rest) ← parts f fuel depth n false rest
      return (.seq r more, n, rest)
    let atEnd (rest : List Char) : Bool :=
      rest.isEmpty || ((sign? f rest).any fun s => s.1 = '|' || s.1 = ')')
    match sign? f cs with
    | some ('(', rest) => do
      let (r, m, rest) ← alternatives f fuel (depth + 1) (n + 1) rest
      match sign? f rest with
      | some (')', rest) => go (.group (n + 1) r) m rest
      | _ => throw .paren
    | some (')', rest) =>
      if depth = 0 then (if f.extended then go (f.char ')') n rest else .error .closingParen) else .ok (.empty, n, cs)
    | some _ => .ok (.empty, n, cs)
    | none =>
      match cs with
      | [] => .ok (.empty, n, [])
      | '[' :: rest => do
        let (r, rest) ← bracket f rest
        go r n rest
      | '.' :: rest => go (.one fun _ => true) n rest
      | '^' :: rest =>
        if f.extended then go textStart n rest
        else if isFirst then do
          -- a star behind the start of a line stands for itself
          match rest with
          | '*' :: more => (go (f.char '*') n more).map fun r => (.seq textStart r.1, r.2)
          | _ => (parts f fuel depth n false rest).map fun r => (.seq textStart r.1, r.2)
        else go (f.char '^') n rest
      | '$' :: rest => if f.extended || atEnd rest then go textEnd n rest else go (f.char '$') n rest
      | ['\\'] => .error .trailing
      | '\\' :: c :: rest =>
        match letter? c with
        | some r => go r n rest
        | none =>
          if c.isDigit && c ≠ '0' then
            (if c.toNat - 48 > n then .error .reference else go (.again (c.toNat - 48)) n rest)
          else if c = 'n' then go (f.char '\n') n rest
          else if c = 't' then go (f.char '\t') n rest
          else go (f.char c) n rest
      | c :: rest =>
        if isFirst && c = '*' then go (f.char '*') n rest
        else if isFirst && f.extended && (c = '+' || c = '?') then parts f fuel depth n isFirst rest
        else if isFirst && f.extended && c = '\x7b' then .error .preceding
        else go (f.char c) n rest

end

def read (f : Form) (cs : List Char) : Read Regex := do
  let (r, _, _) ← alternatives f (4 * cs.length + 4) 0 0 cs
  return r

end Provision.Text.Regex.Classic
