import Provision.Text.Blank
import Provision.Text.Folding
import Provision.Text.Regex

set_option autoImplicit false

namespace Provision.Text.Regex

/-- Switches: letters in any case, a point for every character, lines with ends of their own, and blanks and
comments between the parts. -/
structure Modes where
  anyCase : Bool := false
  dotAll : Bool := false
  lines : Bool := false
  spaced : Bool := false
  deriving DecidableEq, Repr

abbrev Kind := Char → Bool

def caseless (c : Char) : Char :=
  match Folding.fold? c with
  | some [d] => d
  | _ => c

def Modes.kind (m : Modes) (p : Kind) : Kind :=
  if m.anyCase then fun c => p c || p c.toLower || p c.toUpper || p (caseless c) else p

def Modes.char (m : Modes) (c : Char) : Regex :=
  if m.anyCase then .one fun d => caseless d = caseless c else .char c

def within (lo hi : Char) : Kind := fun c => lo ≤ c && c ≤ hi

def asciiClass? : String → Option Kind
  | "alnum" => some Char.isAlphanum
  | "alpha" => some Char.isAlpha
  | "ascii" => some fun c => c.toNat < 128
  | "blank" => some fun c => c = ' ' || c = '\t'
  | "cntrl" => some fun c => c.toNat < 32 || c.toNat = 127
  | "digit" => some Char.isDigit
  | "graph" => some (within '!' '~')
  | "lower" => some Char.isLower
  | "print" => some (within ' ' '~')
  | "punct" => some fun c => within '!' '~' c && !c.isAlphanum
  | "space" => some fun c => c = ' ' || within '\t' '\r' c
  | "upper" => some Char.isUpper
  | "word" => some fun c => c.isAlphanum || c = '_'
  | "xdigit" => some fun c => c.isDigit || within 'a' 'f' c || within 'A' 'F' c
  | _ => none

def isCapital (c : Char) : Bool := Letter.isWord c && Folding.fold? c ≠ some [c]

def property? : String → Option Kind
  | "L" | "Letter" | "Alphabetic" | "alpha" => some fun c => Letter.isWord c && !Letter.isDigit c && c ≠ '_'
  | "Lu" | "Uppercase" | "upper" => some isCapital
  | "Ll" | "Lowercase" | "lower" => some fun c => Letter.isWord c && !Letter.isDigit c && c ≠ '_' && !isCapital c
  | "N" | "Nd" | "digit" => some Letter.isDigit
  | "P" | "Punctuation" | "punct" => some fun c => within '!' '~' c && !c.isAlphanum && !"$+<=>^|~".toList.contains c && c ≠ Char.ofNat 96
  | "S" | "Symbol" => some fun c => "$+<=>^|~".toList.contains c || c = Char.ofNat 96
  | "Z" | "Zs" | "space" | "White_Space" => some Blank.isBlank
  | _ => none

/-- What a backslash and what follows it stand for. -/
inductive Escaped where
  | char (c : Char)
  | kind (p : Kind)
  | place (r : Regex)

def hexNumber? (cs : List Char) : Option Nat :=
  if cs.isEmpty then none
  else cs.foldl (fun n c => do
    let lower := c.toLower
    if lower.isDigit || within 'a' 'f' lower then return (← n) * 16 + hexValue lower else none) (some 0)

/-- A character by its number in so many digits, or in any number of them between braces. -/
def numbered (width : Nat) (cs : List Char) : Option (Escaped × List Char) := do
  let (digits, rest) ← match cs with
    | '\x7b' :: more =>
      match more.dropWhile (· ≠ '\x7d') with
      | _ :: rest => some (more.takeWhile (· ≠ '\x7d'), rest)
      | [] => none
    | _ => if cs.length < width then none else some (cs.take width, cs.drop width)
  let n ← hexNumber? digits
  if n < 0xD800 || (0xE000 ≤ n && n < 0x110000) then some (.char (Char.ofNat n), rest) else none

def propertyFrom (wanted : Bool) (cs : List Char) : Option (Escaped × List Char) := do
  let (name, rest) ← match cs with
    | '\x7b' :: more =>
      match more.dropWhile (· ≠ '\x7d') with
      | _ :: rest => some (more.takeWhile (· ≠ '\x7d'), rest)
      | [] => none
    | c :: rest => some ([c], rest)
    | [] => none
  let (wanted, name) := match name with
    | '^' :: name => (!wanted, name)
    | _ => (wanted, name)
  let p ← property? (String.ofList name)
  return (.kind fun c => p c = wanted, rest)

def isEscapable (c : Char) : Bool := c.toNat < 128 && !c.isAlphanum && c ≠ '<' && c ≠ '>'

def escaped : List Char → Option (Escaped × List Char)
  | 'd' :: rest => some (.kind Letter.isDigit, rest)
  | 'D' :: rest => some (.kind fun c => !Letter.isDigit c, rest)
  | 's' :: rest => some (.kind Blank.isBlank, rest)
  | 'S' :: rest => some (.kind fun c => !Blank.isBlank c, rest)
  | 'w' :: rest => some (.kind Letter.isWord, rest)
  | 'W' :: rest => some (.kind fun c => !Letter.isWord c, rest)
  | 'p' :: rest => propertyFrom true rest
  | 'P' :: rest => propertyFrom false rest
  | 'b' :: '\x7b' :: rest =>
    let name := rest.takeWhile (· ≠ '\x7d')
    let after := rest.drop (name.length + 1)
    match String.ofList name with
    | "start" => some (.place (wordStart Letter.isWord), after)
    | "end" => some (.place (wordEnd Letter.isWord), after)
    | "start-half" => some (.place (.place fun before _ => !before.any Letter.isWord), after)
    | "end-half" => some (.place (.place fun _ next => !next.any Letter.isWord), after)
    | _ => none
  | 'b' :: rest => some (.place (wordEdge Letter.isWord true), rest)
  | 'B' :: rest => some (.place (wordEdge Letter.isWord false), rest)
  | '<' :: rest => some (.place (wordStart Letter.isWord), rest)
  | '>' :: rest => some (.place (wordEnd Letter.isWord), rest)
  | 'A' :: rest => some (.place textStart, rest)
  | 'z' :: rest => some (.place textEnd, rest)
  | 'a' :: rest => some (.char (Char.ofNat 7), rest)
  | 'f' :: rest => some (.char (Char.ofNat 12), rest)
  | 't' :: rest => some (.char '\t', rest)
  | 'n' :: rest => some (.char '\n', rest)
  | 'r' :: rest => some (.char '\r', rest)
  | 'v' :: rest => some (.char (Char.ofNat 11), rest)
  | 'x' :: rest => numbered 2 rest
  | 'u' :: rest => numbered 4 rest
  | 'U' :: rest => numbered 8 rest
  | c :: rest => if isEscapable c then some (.char c, rest) else none
  | [] => none

/-! Classes between brackets. -/

def named (cs : List Char) : Option (Kind × List Char) :=
  match cs with
  | ':' :: rest =>
    let (wanted, rest) := match rest with
      | '^' :: more => (false, more)
      | _ => (true, rest)
    let name := rest.takeWhile (·.isAlpha)
    match rest.drop name.length, asciiClass? (String.ofList name) with
    | ':' :: ']' :: after, some p => some (fun c => p c = wanted, after)
    | _, _ => none
  | _ => none

def bound (cs : List Char) : Option (Char × List Char) :=
  match cs with
  | '\\' :: rest =>
    match escaped rest with
    | some (.char c, rest) => some (c, rest)
    | _ => none
  | c :: rest => some (c, rest)
  | [] => none

def rangeFrom (cs : List Char) : Option (Kind × List Char) := do
  let (lo, rest) ← bound cs
  match rest with
  | '-' :: ']' :: _ => some ((· = lo), rest)
  | '-' :: '-' :: _ => some ((· = lo), rest)
  | '-' :: more =>
    let (hi, rest) ← bound more
    if hi < lo then none else some (within lo hi, rest)
  | _ => some ((· = lo), rest)

mutual

def classFrom (m : Modes) : Nat → List Char → Option (Kind × List Char)
  | 0, _ => none
  | fuel + 1, cs => do
    let (wanted, cs) := match cs with
      | '^' :: rest => (false, rest)
      | _ => (true, cs)
    -- a bracket that closes nothing and hyphens in front stand for themselves
    let (front, cs) : Kind × List Char := match cs with
      | ']' :: rest => ((· = ']'), rest)
      | _ =>
        let hyphens := cs.takeWhile (· = '-')
        if hyphens.isEmpty then (fun _ => false, cs) else ((· = '-'), cs.drop hyphens.length)
    let (p, rest) ← classItems m fuel front cs
    return (fun c => m.kind p c = wanted, rest)

def classItems (m : Modes) : Nat → Kind → List Char → Option (Kind × List Char)
  | 0, _, _ => none
  | fuel + 1, p, cs =>
    let both (q : Kind) (rest : List Char) := classItems m fuel (fun c => p c || q c) rest
    match cs with
    | [] => none
    | ']' :: rest => some (p, rest)
    | '&' :: '&' :: rest => do
      let (q, rest) ← classItems m fuel (fun _ => false) rest
      return (fun c => p c && q c, rest)
    | '-' :: '-' :: rest => do
      let (q, rest) ← classItems m fuel (fun _ => false) rest
      return (fun c => p c && !q c, rest)
    | '~' :: '~' :: rest => do
      let (q, rest) ← classItems m fuel (fun _ => false) rest
      return (fun c => p c != q c, rest)
    | '[' :: rest =>
      match named rest with
      | some (q, rest) => both q rest
      | none => do
        let (q, rest) ← classFrom m fuel rest
        both q rest
    | '\\' :: rest =>
      match escaped rest with
      | some (.kind q, rest) => both q rest
      | some (.char _, _) => do
        let (q, rest) ← rangeFrom cs
        both q rest
      | _ => none
    | c :: rest =>
      if m.spaced && Blank.isBlank c then classItems m fuel p rest
      else do
        let (q, rest) ← rangeFrom cs
        both q rest

end

/-! The expressions themselves. -/

def switches : Bool → Modes → List Char → Option (Modes × List Char)
  | _, m, [] => some (m, [])
  | _, m, ')' :: rest => some (m, ')' :: rest)
  | _, m, ':' :: rest => some (m, ':' :: rest)
  | true, m, '-' :: rest => switches false m rest
  | on, m, 'i' :: rest => switches on { m with anyCase := on } rest
  | on, m, 's' :: rest => switches on { m with dotAll := on } rest
  | on, m, 'm' :: rest => switches on { m with lines := on } rest
  | on, m, 'x' :: rest => switches on { m with spaced := on } rest
  | on, m, c :: rest => if ['u', 'U', 'R'].contains c then switches on m rest else none

def decimal? (cs : List Char) : Option Nat :=
  if cs.isEmpty || !cs.all Char.isDigit then none else some (Decimal.value cs)

def bounds (cs : List Char) : Option (Nat × Option Nat × List Char) := do
  let inside := cs.takeWhile (· ≠ '\x7d')
  let rest ← match cs.drop inside.length with
    | _ :: rest => some rest
    | [] => none
  let trim (cs : List Char) : List Char := Blank.trim cs
  match inside.dropWhile (· ≠ ',') with
  | [] =>
    let n ← decimal? (trim inside)
    return (n, some n, rest)
  | _ :: after =>
    let lo := trim (inside.takeWhile (· ≠ ','))
    let lo ← if lo.isEmpty then some 0 else decimal? lo
    if (trim after).isEmpty then return (lo, none, rest)
    let hi ← decimal? (trim after)
    if hi < lo then none else return (lo, some hi, rest)

def largest : Nat := 1000

/-- The repetitions behind an expression; a question mark behind one only says which way is tried first. -/
def repeated (m : Modes) : Nat → Regex → List Char → Option (Regex × List Char)
  | 0, _, _ => none
  | fuel + 1, r, cs =>
    let go (least : Nat) (most : Option Nat) (rest : List Char) :=
      let rest := match rest with
        | '?' :: rest => rest
        | _ => rest
      if least > largest || most.any (· > largest) then none else repeated m fuel (.many r least most) rest
    match (if m.spaced then cs.dropWhile Blank.isBlank else cs) with
    | '*' :: rest => go 0 none rest
    | '+' :: rest => go 1 none rest
    | '?' :: rest => go 0 (some 1) rest
    | '\x7b' :: rest =>
      match bounds rest with
      | some (least, most, rest) => go least most rest
      | none => none
    | _ => some (r, cs)

mutual

def alternatives : Nat → Modes → List Char → Option (Regex × List Char)
  | 0, _, _ => none
  | fuel + 1, m, cs => do
    let (a, m, rest) ← parts fuel m cs
    match rest with
    | '|' :: rest =>
      let (b, rest) ← alternatives fuel m rest
      return (.alt a b, rest)
    | _ => return (a, rest)

def parts : Nat → Modes → List Char → Option (Regex × Modes × List Char)
  | 0, _, _ => none
  | fuel + 1, m, cs =>
    let go (r : Regex) (rest : List Char) : Option (Regex × Modes × List Char) := do
      let (r, rest) ← repeated m (rest.length + 1) r rest
      let (more, m, rest) ← parts fuel m rest
      return (.seq r more, m, rest)
    match cs with
    | [] => some (.empty, m, [])
    | '|' :: _ => some (.empty, m, cs)
    | ')' :: _ => some (.empty, m, cs)
    | '(' :: '?' :: rest =>
      match rest with
      | 'P' :: '<' :: rest => do
        let (r, rest) ← grouped fuel m (rest.dropWhile (· ≠ '>') |>.drop 1)
        go r rest
      | '<' :: c :: rest =>
        if c = '=' || c = '!' then none
        else do
          let (r, rest) ← grouped fuel m (rest.dropWhile (· ≠ '>') |>.drop 1)
          go r rest
      | _ => do
        let (inner, rest) ← switches true m rest
        match rest with
        | ':' :: rest =>
          let (r, rest) ← grouped fuel inner rest
          go r rest
        | ')' :: rest => parts fuel inner rest
        | _ => none
    | '(' :: rest => do
      let (r, rest) ← grouped fuel m rest
      go r rest
    | '[' :: rest => do
      let (p, rest) ← classFrom m (rest.length + 1) rest
      go (.one p) rest
    | '\\' :: rest => do
      match ← escaped rest with
      | (.char c, rest) => go (m.char c) rest
      | (.kind p, rest) => go (.one (m.kind p)) rest
      | (.place r, rest) => go r rest
    | '.' :: rest => go (.one fun c => m.dotAll || c ≠ '\n') rest
    | '^' :: rest => go (if m.lines then lineStart else textStart) rest
    | '$' :: rest => go (if m.lines then lineEnd else textEnd) rest
    | c :: rest =>
      if c = '*' || c = '+' || c = '?' || c = '\x7b' then none
      else if m.spaced && Blank.isBlank c then parts fuel m rest
      else if m.spaced && c = '#' then parts fuel m (rest.dropWhile (· ≠ '\n'))
      else go (m.char c) rest

def grouped : Nat → Modes → List Char → Option (Regex × List Char)
  | 0, _, _ => none
  | fuel + 1, m, cs => do
    let (r, rest) ← alternatives fuel m cs
    match rest with
    | ')' :: rest => return (r, rest)
    | _ => none

end

def read? (cs : List Char) : Option Regex := do
  let (r, rest) ← alternatives (3 * cs.length + 3) {} cs
  if rest.isEmpty then some r else none

end Provision.Text.Regex
