import Provision.Text.Decimal

/-!
Values of the JSON format as they are read. Numbers keep their text. A text whose escapes name half a
character is well-formed but holds no text, which matters only to those who want it.
-/

set_option autoImplicit false

namespace Provision

inductive Json where
  | null
  | bool (b : Bool)
  | number (text : List Char)
  | string (s : Option (List Char))
  | array (items : List Json)
  | object (members : List (Option (List Char) × Json))
  deriving Repr

namespace Json

def hexDigit (n : Nat) : Char :=
  if n < 10 then Char.ofNat (48 + n) else Char.ofNat (87 + n)

def escaped (c : Char) : List Char :=
  if c = '"' then ['\\', '"']
  else if c = '\\' then ['\\', '\\']
  else if c = '\n' then ['\\', 'n']
  else if c = '\r' then ['\\', 'r']
  else if c = '\t' then ['\\', 't']
  else if c = Char.ofNat 8 then ['\\', 'b']
  else if c = Char.ofNat 12 then ['\\', 'f']
  else if c.toNat < 32 then ['\\', 'u', '0', '0', hexDigit (c.toNat / 16), hexDigit (c.toNat % 16)]
  else [c]

def quoted (cs : List Char) : List Char := '"' :: cs.flatMap escaped ++ ['"']

def word? : Json → Option UInt64
  | .number cs =>
    if cs ≠ [] && cs.all Decimal.isDigit && Decimal.value cs < UInt64.size then some (Decimal.value cs).toUInt64
    else none
  | _ => none

def text? : Json → Option String
  | .string (some cs) => some (String.ofList cs)
  | _ => none

def optional? {α : Type} (f : Json → Option α) : Json → Option (Option α)
  | .null => some none
  | j => (f j).map some

/-- The members of a record by name. An object gives each name at most once, names that are not asked
for are skipped if they are texts; an array gives the members in order and none besides. -/
def members? (names : List String) : Json → Option (List (Option Json))
  | .object ms =>
    if ms.any fun m => m.1.isNone then none
    else
      let named (n : String) := ms.filter fun m => m.1 = some n.toList
      if names.any fun n => (named n).length > 1 then none
      else some (names.map fun n => ((named n).head?).map (·.2))
  | .array items =>
    if items.length > names.length then none
    else some ((items.map some) ++ List.replicate (names.length - items.length) none)
  | _ => none

end Json

end Provision
