import Provision.Toml
import Provision.Json.Reader

set_option autoImplicit false

namespace Provision.Toml

def isControl (c : Char) : Bool := (c.toNat < 32 && c ≠ '\t') || c.toNat = 127

def apostrophe : Char := Char.ofNat 39

def hexChar (width : Nat) (cs : List Char) : Option (Char × List Char) := do
  let ds := cs.take width
  if ds.length < width then none
  else
    let values ← ds.mapM Json.hexValue?
    let n := values.foldl (fun n v => n * 16 + v) 0
    if n < 0xD800 || (0xE000 ≤ n && n < 0x110000) then some (Char.ofNat n, cs.drop width) else none

def escape : List Char → Option (Char × List Char)
  | 'b' :: rest => some (Char.ofNat 8, rest)
  | 't' :: rest => some ('\t', rest)
  | 'n' :: rest => some ('\n', rest)
  | 'f' :: rest => some (Char.ofNat 12, rest)
  | 'r' :: rest => some ('\r', rest)
  | 'e' :: rest => some (Char.ofNat 27, rest)
  | '"' :: rest => some ('"', rest)
  | '\\' :: rest => some ('\\', rest)
  | 'x' :: rest => hexChar 2 rest
  | 'u' :: rest => hexChar 4 rest
  | 'U' :: rest => hexChar 8 rest
  | _ => none

def lineFrom : Nat → List Char → Option (List Char × List Char)
  | 0, _ => none
  | _, [] => none
  | _ + 1, '"' :: rest => some ([], rest)
  | fuel + 1, '\\' :: rest => do
    let (c, rest) ← escape rest
    let (cs, after) ← lineFrom fuel rest
    return (c :: cs, after)
  | fuel + 1, c :: rest =>
    if isControl c then none
    else do
      let (cs, after) ← lineFrom fuel rest
      return (c :: cs, after)

def literalLine (cs : List Char) : Option (List Char × List Char) :=
  let inside := cs.takeWhile (· ≠ apostrophe)
  match cs.dropWhile (· ≠ apostrophe) with
  | _ :: after => if inside.any isControl then none else some (inside, after)
  | [] => none

def quotes (q : Char) (cs : List Char) : Nat := (cs.takeWhile (· = q)).length

def skipSpacing : List Char → List Char
  | '\r' :: '\n' :: rest => skipSpacing rest
  | c :: rest => if c = ' ' || c = '\t' || c = '\n' then skipSpacing rest else c :: rest
  | [] => []

def joinedLine (cs : List Char) : Option (List Char) :=
  match cs.dropWhile fun c => c = ' ' || c = '\t' with
  | '\n' :: rest => some (skipSpacing rest)
  | '\r' :: '\n' :: rest => some (skipSpacing rest)
  | _ => none

def linesFrom (q : Char) (escapes : Bool) : Nat → List Char → Option (List Char × List Char)
  | 0, _ => none
  | _, [] => none
  | fuel + 1, c :: rest =>
    if c = q then
      let n := quotes q (c :: rest)
      if n < 3 then do
        let (cs, after) ← linesFrom q escapes fuel rest
        return (c :: cs, after)
      -- two quotes may stand in front of the closing three
      else if n ≤ 5 then some (List.replicate (n - 3) q, (c :: rest).drop n)
      else none
    else if c = '\\' && escapes then
      match joinedLine rest with
      | some rest => linesFrom q escapes fuel rest
      | none => do
        let (d, rest) ← escape rest
        let (cs, after) ← linesFrom q escapes fuel rest
        return (d :: cs, after)
    else if c = '\r' then
      match rest with
      | '\n' :: rest => do
        let (cs, after) ← linesFrom q escapes fuel rest
        return ('\r' :: '\n' :: cs, after)
      | _ => none
    else if isControl c && c ≠ '\n' then none
    else do
      let (cs, after) ← linesFrom q escapes fuel rest
      return (c :: cs, after)

def skipLineEnd : List Char → List Char
  | '\n' :: rest => rest
  | '\r' :: '\n' :: rest => rest
  | cs => cs

def quotedLine : List Char → Option (List Char × List Char)
  | '"' :: rest => lineFrom (rest.length + 1) rest
  | c :: rest => if c = apostrophe then literalLine rest else none
  | [] => none

def quotedText (cs : List Char) : Option (List Char × List Char) :=
  if quotes '"' cs ≥ 3 then linesFrom '"' true (cs.length + 1) (skipLineEnd (cs.drop 3))
  else if quotes apostrophe cs ≥ 3 then linesFrom apostrophe false (cs.length + 1) (skipLineEnd (cs.drop 3))
  else quotedLine cs

end Provision.Toml
