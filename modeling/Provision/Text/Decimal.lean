set_option autoImplicit false

namespace Provision.Decimal

def isDigit (c : Char) : Bool := '0' ≤ c && c ≤ '9'

def digitValue (c : Char) : Nat := c.toNat - 48

def digitChar (n : Nat) : Char := Char.ofNat (48 + n % 10)

def write (n : Nat) : List Char :=
  if n < 10 then [digitChar n] else write (n / 10) ++ [digitChar n]
termination_by n
decreasing_by omega

def value (cs : List Char) : Nat := cs.foldl (fun n c => n * 10 + digitValue c) 0

theorem toNat_digitChar (n : Nat) : (digitChar n).toNat = 48 + n % 10 := by
  have h : n % 10 < 10 := Nat.mod_lt n (by decide)
  have hv : (48 + n % 10).isValidChar := Or.inl (by omega)
  rw [digitChar, Char.ofNat, dif_pos hv]
  rfl

theorem digitValue_digitChar (n : Nat) : digitValue (digitChar n) = n % 10 := by
  simp [digitValue, toNat_digitChar]

theorem value_append (cs : List Char) (c : Char) : value (cs ++ [c]) = value cs * 10 + digitValue c := by
  simp [value]

theorem value_write (n : Nat) : value (write n) = n := by
  induction n using Nat.strongRecOn with
  | ind n ih =>
    rw [write]
    split
    · rename_i h
      simp [value, digitValue_digitChar, Nat.mod_eq_of_lt h]
    · rename_i h
      rw [value_append, ih (n / 10) (by omega), digitValue_digitChar]
      omega

def padded (width n : Nat) : List Char :=
  let ds := write n
  List.replicate (width - ds.length) '0' ++ ds

end Provision.Decimal
