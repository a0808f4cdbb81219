set_option autoImplicit false

namespace Provision.Utf8

-- Preferred, so that bytes are compared by one instance wherever a type that holds them is read.
instance (priority := high) instDecidableEqBytes : DecidableEq ByteArray := ByteArray.instDecidableEq

/-- What a first byte asks for: a whole character, or further bytes whose first must lie between
two bounds. -/
inductive Lead where
  | whole (c : Char)
  | open_ (owed low high seen : Nat)
  | stray

def Lead.of (b : Nat) : Lead :=
  if b < 0x80 then .whole (Char.ofNat b)
  else if b < 0xC2 then .stray
  else if b < 0xE0 then .open_ 1 0x80 0xBF (b - 0xC0)
  else if b = 0xE0 then .open_ 2 0xA0 0xBF 0
  else if b = 0xED then .open_ 2 0x80 0x9F 0xD
  else if b < 0xF0 then .open_ 2 0x80 0xBF (b - 0xE0)
  else if b = 0xF0 then .open_ 3 0x90 0xBF 0
  else if b < 0xF4 then .open_ 3 0x80 0xBF (b - 0xF0)
  else if b = 0xF4 then .open_ 3 0x80 0x8F 4
  else .stray

def replacement : Char := Char.ofNat 0xFFFD

/-- Decodes bytes; `owed` bytes are still to come for the character that was begun, the next of them
between `low` and `high`. -/
def decode : Nat → Nat → Nat → Nat → List UInt8 → List Char
  | owed, _, _, _, [] => if owed = 0 then [] else [replacement]
  | owed, low, high, seen, byte :: rest =>
    let b := byte.toNat
    let fresh := match Lead.of b with
      | .whole c => c :: decode 0 0 0 0 rest
      | .open_ owed low high seen => decode owed low high seen rest
      | .stray => replacement :: decode 0 0 0 0 rest
    if owed = 0 then fresh
    else if low ≤ b && b ≤ high then
      let seen := seen * 64 + (b - 0x80)
      if owed = 1 then Char.ofNat seen :: decode 0 0 0 0 rest
      else decode (owed - 1) 0x80 0xBF seen rest
    else replacement :: fresh

def lossy (data : ByteArray) : String := String.ofList (decode 0 0 0 0 data.toList)

end Provision.Utf8
