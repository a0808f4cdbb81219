import Provision.Instant.Text
import Mathlib.Algebra.Order.Ring.Nat
import Mathlib.Data.List.TakeWhile

set_option autoImplicit false

namespace Provision

namespace Decimal

def Digits (cs : List Char) : Prop := ∀ c ∈ cs, isDigit c = true

theorem isDigit_iff (c : Char) : isDigit c = true ↔ 48 ≤ c.toNat ∧ c.toNat ≤ 57 := by
  have h₀ : '0' ≤ c ↔ 48 ≤ c.toNat := Char.le_def
  have h₉ : c ≤ '9' ↔ c.toNat ≤ 57 := Char.le_def
  simp only [isDigit, Bool.and_eq_true, decide_eq_true_eq, h₀, h₉]

theorem isDigit_digitChar (n : Nat) : isDigit (digitChar n) = true := by
  rw [isDigit_iff, toNat_digitChar]
  omega

theorem digits_write (n : Nat) : Digits (write n) := by
  induction n using Nat.strongRecOn with
  | ind n ih =>
    rw [write]
    split
    · intro c hc
      rw [List.mem_singleton.mp hc]
      exact isDigit_digitChar n
    · intro c hc
      obtain hc | hc := List.mem_append.mp hc
      · exact ih (n / 10) (by omega) c hc
      · rw [List.mem_singleton.mp hc]
        exact isDigit_digitChar n

theorem write_ne_nil (n : Nat) : write n ≠ [] := by
  rw [write]
  split <;> simp

theorem length_write_le {n k : Nat} (hk : 0 < k) (h : n < 10 ^ k) : (write n).length ≤ k := by
  induction k generalizing n with
  | zero => omega
  | succ k ih =>
    rw [write]
    split
    · simp
    · rename_i hn
      have hk : k ≠ 0 := by
        rintro rfl
        simp at h
        omega
      have hd : n / 10 < 10 ^ k := by
        rw [Nat.pow_succ] at h
        omega
      have hl := ih (by omega) hd
      simp only [List.length_append, List.length_singleton]
      omega

theorem head?_write {n : Nat} (hn : n ≠ 0) : (write n).head? ≠ some '0' := by
  induction n using Nat.strongRecOn with
  | ind n ih =>
    rw [write]
    split
    · rename_i h
      intro he
      have hv := digitValue_digitChar n
      simp only [List.head?_cons, Option.some.injEq] at he
      rw [he, Nat.mod_eq_of_lt h] at hv
      exact hn hv.symm
    · rename_i h
      have hw := write_ne_nil (n / 10)
      have hh := ih (n / 10) (by omega) (by omega)
      cases hs : write (n / 10) with
      | nil => exact absurd hs hw
      | cons c cs => simpa [hs] using hh

theorem foldl_zeros (k : Nat) (cs : List Char) : value (List.replicate k '0' ++ cs) = value cs := by
  induction k with
  | zero => rfl
  | succ k ih =>
    rw [List.replicate_succ, List.cons_append, ← ih]
    rfl

theorem value_padded (width n : Nat) : value (padded width n) = n := by
  rw [padded, foldl_zeros, value_write]

theorem digits_padded (width n : Nat) : Digits (padded width n) := by
  intro c hc
  obtain hc | hc := List.mem_append.mp hc
  · rw [(List.mem_replicate.mp hc).2]
    decide
  · exact digits_write n c hc

theorem padded_ne_nil (width n : Nat) : padded width n ≠ [] := by
  simp [padded, write_ne_nil]

theorem length_padded {width n : Nat} (hw : 0 < width) (h : n < 10 ^ width) : (padded width n).length = width := by
  have hl := length_write_le hw h
  simp only [padded, List.length_append, List.length_replicate]
  omega

theorem takeWhile_digits {ds tail : List Char} (hds : Digits ds) (ht : ∀ c ∈ tail.head?, isDigit c = false) :
    (ds ++ tail).takeWhile isDigit = ds := by
  rw [List.takeWhile_append_of_pos hds]
  cases tail with
  | nil => simp
  | cons c tail =>
    have hc : isDigit c = false := ht c rfl
    simp [hc]

theorem dropWhile_digits {ds tail : List Char} (hds : Digits ds) (ht : ∀ c ∈ tail.head?, isDigit c = false) :
    (ds ++ tail).dropWhile isDigit = tail := by
  rw [List.dropWhile_append_of_pos hds]
  cases tail with
  | nil => rfl
  | cons c tail =>
    have hc : isDigit c = false := ht c rfl
    simp [hc]

end Decimal

namespace Instant

open Decimal

theorem isBlank_digit {c : Char} (h : isDigit c = true) : Blank.isBlank c = false := by
  obtain ⟨h₀, h₉⟩ := (isDigit_iff c).mp h
  simp only [Blank.isBlank, Bool.or_eq_false_iff, Bool.and_eq_false_iff, decide_eq_false_iff_not]
  omega

theorem skipBlanks_digits {ds : List Char} (hds : Digits ds) (hne : ds ≠ []) (tail : List Char) :
    skipBlanks (ds ++ tail) = ds ++ tail := by
  cases ds with
  | nil => exact absurd rfl hne
  | cons d ds =>
    have hd := isBlank_digit (hds d (List.mem_cons_self ..))
    simp [skipBlanks, hd]

theorem number_append {width : Nat} {ds tail : List Char} (hds : Digits ds) (hne : ds ≠ [])
    (hl : ds.length ≤ width) (ht : ∀ c ∈ tail.head?, isDigit c = false) :
    number width (ds ++ tail) = some (value ds, tail) := by
  have htake : (ds ++ tail).take width = ds ++ tail.take (width - ds.length) := by
    rw [List.take_append, List.take_of_length_le hl]
  have hhead : ∀ c ∈ (tail.take (width - ds.length)).head?, isDigit c = false := by
    intro c hc
    cases tail with
    | nil => simp at hc
    | cons d tail =>
      cases hw : width - ds.length with
      | zero => simp [hw] at hc
      | succ k =>
        rw [hw, List.take_succ_cons, List.head?_cons] at hc
        exact ht c (by simpa using hc)
  have hempty : ds.isEmpty = false := by simpa using hne
  unfold number
  simp only [htake, takeWhile_digits hds hhead, hempty]
  simp

theorem spaced_padded {width n : Nat} (hw : 0 < width) (h : n < 10 ^ width) {tail : List Char}
    (ht : ∀ c ∈ tail.head?, isDigit c = false) : spaced width (padded width n ++ tail) = some (n, tail) := by
  rw [spaced, skipBlanks_digits (digits_padded _ _) (padded_ne_nil _ _),
    number_append (digits_padded _ _) (padded_ne_nil _ _) (length_padded hw h).le ht, value_padded]

theorem mark_cons {c : Char} (h : Blank.isBlank c = false) (rest : List Char) : mark c (c :: rest) = some rest := by
  simp [mark, skipBlanks, h]

theorem spaced_field {n : Nat} (h : n < 10 ^ 2) {c : Char} (hc : isDigit c = false) (rest : List Char) :
    spaced 2 (padded 2 n ++ c :: rest) = some (n, c :: rest) := by
  refine spaced_padded (by omega) h ?_
  rintro d ⟨⟩
  exact hc

theorem readYear_digits {ds tail : List Char} (hds : Digits ds) (hne : ds ≠ []) :
    readYear (ds ++ tail) = (number 4 (ds ++ tail)).map fun r => ((r.1 : Int), r.2) := by
  unfold readYear
  rw [skipBlanks_digits hds hne]
  obtain ⟨d, ds, rfl⟩ := List.exists_cons_of_ne_nil hne
  have hd := hds d (List.mem_cons_self ..)
  split
  · rename_i he
    cases he
    cases hd
  · rename_i he
    cases he
    cases hd
  · rfl

theorem readYear_writeYear (year : Int) (rest : List Char) :
    readYear (writeYear year ++ '-' :: rest) = some (year, '-' :: rest) := by
  have ht : ∀ c ∈ ('-' :: rest).head?, isDigit c = false := by
    rintro c ⟨⟩
    rfl
  have hminus : Blank.isBlank '-' = false := by decide
  have hplus : Blank.isBlank '+' = false := by decide
  have hsigned : ∀ n : Nat, number (padded 4 n ++ '-' :: rest).length (padded 4 n ++ '-' :: rest) =
      some (n, '-' :: rest) := by
    intro n
    rw [number_append (digits_padded _ _) (padded_ne_nil _ _) (by simp) ht, value_padded]
  unfold writeYear
  split
  · rename_i h
    simp only [Bool.and_eq_true, decide_eq_true_eq] at h
    have hy : (year.toNat : Int) = year := by omega
    rw [readYear_digits (digits_padded _ _) (padded_ne_nil _ _), number_append (digits_padded _ _) (padded_ne_nil _ _)
      (length_padded (by omega) (by omega)).le ht, value_padded]
    simp [hy]
  · by_cases hneg : year < 0
    · have hy : -(year.natAbs : Int) = year := by omega
      simp only [hneg, if_true, List.cons_append]
      simp only [readYear, skipBlanks, List.dropWhile_cons, hminus, Bool.false_eq_true, if_false, hsigned, Option.map_some, hy]
    · rename_i h
      simp only [Bool.and_eq_true, decide_eq_true_eq] at h
      have hy : (year.natAbs : Int) = year := by omega
      simp only [hneg, if_false, List.cons_append]
      simp only [readYear, skipBlanks, List.dropWhile_cons, hplus, Bool.false_eq_true, if_false, hsigned, Option.map_some, hy]

theorem readFraction_padded {width n : Nat} (hw : 0 < width) (hw' : width ≤ 9) (h : n < 10 ^ width)
    {tail : List Char} (ht : ∀ c ∈ tail.head?, isDigit c = false) :
    readFraction ('.' :: padded width n ++ tail) = some (n * 10 ^ (9 - width), tail) := by
  have hl := length_padded hw h
  have htake : (padded width n).take 9 = padded width n := List.take_of_length_le (by omega)
  have hempty : (padded width n).isEmpty = false := by simpa using padded_ne_nil width n
  simp only [readFraction, List.cons_append, takeWhile_digits (digits_padded _ _) ht, hempty, htake, value_padded, hl]
  simp [hl]

theorem readFraction_writeFraction {nano : Nat} (h : nano < 1000000000) {tail : List Char}
    (ht : ∀ c ∈ tail.head?, isDigit c = false ∧ c ≠ '.') :
    readFraction (writeFraction nano ++ tail) = some (nano, tail) := by
  have hdigit : ∀ c ∈ tail.head?, isDigit c = false := fun c hc => (ht c hc).1
  unfold writeFraction
  split
  · rename_i hz
    subst hz
    cases tail with
    | nil => rfl
    | cons c tail =>
      have hc := (ht c rfl).2
      simp only [List.nil_append]
      unfold readFraction
      split
      · rename_i he
        cases he
        exact absurd rfl hc
      · rfl
  · split
    · rw [readFraction_padded (by omega) (by omega) (by omega) hdigit]
      have hn : nano / 1000000 * 10 ^ (9 - 3) = nano := by omega
      rw [hn]
    · split
      · rw [readFraction_padded (by omega) (by omega) (by omega) hdigit]
        have hn : nano / 1000 * 10 ^ (9 - 6) = nano := by omega
        rw [hn]
      · rw [readFraction_padded (by omega) (by omega) (by omega) hdigit]
        simp

theorem daysIn_le (year : Int) (month : Nat) : Calendar.daysIn year month ≤ 31 := by
  unfold Calendar.daysIn
  split
  · split <;> omega
  all_goals omega

theorem head?_writeFraction (nano : Nat) {c : Char} (h : c ∈ (writeFraction nano ++ ['Z']).head?) : c = '.' ∨ c = 'Z' := by
  unfold writeFraction at h
  split at h
  · exact .inr (by simpa [eq_comm] using h)
  · split at h
    · exact .inl (by simpa [eq_comm] using h)
    · split at h <;> exact .inl (by simpa [eq_comm] using h)

theorem ofLocal?_zero (t : Instant) : ofLocal? 0 t = some t := by
  have hh := t.valid.hours
  have hm := t.valid.minutes
  have hneg : ¬ ((t.hour : Int) * 60 + t.minute - 0 < 0) := by omega
  have hlt : (t.hour : Int) * 60 + t.minute - 0 < 1440 := by omega
  have hdiv : (((t.hour : Int) * 60 + t.minute - 0) % 1440).toNat / 60 = t.hour := by omega
  have hmod : (((t.hour : Int) * 60 + t.minute - 0) % 1440).toNat % 60 = t.minute := by omega
  simp only [ofLocal?, hneg, hlt, if_false, if_true, hdiv, hmod, of?, dif_pos t.valid]

section Written

variable (t : Instant)

theorem month_lt : t.month < 10 ^ 2 := by
  have h := t.valid.months
  omega

theorem day_lt : t.day < 10 ^ 2 := by
  have h := t.valid.days.2
  have hmax := daysIn_le t.year t.month
  omega

theorem hour_lt : t.hour < 10 ^ 2 := by
  have h := t.valid.hours
  omega

theorem minute_lt : t.minute < 10 ^ 2 := by
  have h := t.valid.minutes
  omega

theorem leap_cases : t.nano / 1000000000 = 0 ∨ (t.nano / 1000000000 = 1 ∧ t.second = 59) := by
  have h := t.valid.nanos
  omega

theorem second_lt : t.second + t.nano / 1000000000 < 10 ^ 2 := by
  have h := t.valid.seconds
  obtain hleap | ⟨hleap, -⟩ := t.leap_cases <;> omega

theorem clock_eq :
    (if t.second + t.nano / 1000000000 = 60 then (59, t.nano % 1000000000 + 1000000000)
      else (t.second + t.nano / 1000000000, t.nano % 1000000000)) = (t.second, t.nano) := by
  have hseconds := t.valid.seconds
  obtain hleap | ⟨hleap, hs⟩ := t.leap_cases
  · rw [if_neg (by omega), hleap, Nat.add_zero, Nat.mod_eq_of_lt (by omega)]
  · rw [if_pos (by omega), hs]
    congr 1
    omega

theorem write_eq : t.write = writeYear t.year ++ '-' :: (padded 2 t.month ++ '-' :: (padded 2 t.day ++ 'T' ::
    (padded 2 t.hour ++ ':' :: (padded 2 t.minute ++ ':' ::
      (padded 2 (t.second + t.nano / 1000000000) ++ (writeFraction (t.nano % 1000000000) ++ ['Z'])))))) := by
  simp [write]

theorem read?_write : read? t.write = some t := by
  have hdash : Blank.isBlank '-' = false := by decide
  have hcolon : Blank.isBlank ':' = false := by decide
  have hbetween : ∀ rest, between ('T' :: rest) = some rest := fun _ => rfl
  have hsecond : spaced 2 (padded 2 (t.second + t.nano / 1000000000) ++ (writeFraction (t.nano % 1000000000) ++ ['Z'])) =
      some (t.second + t.nano / 1000000000, writeFraction (t.nano % 1000000000) ++ ['Z']) := by
    refine spaced_padded (by omega) t.second_lt fun c hc => ?_
    obtain rfl | rfl := head?_writeFraction _ hc <;> decide
  have hfraction : readFraction (writeFraction (t.nano % 1000000000) ++ ['Z']) = some (t.nano % 1000000000, ['Z']) := by
    refine readFraction_writeFraction (Nat.mod_lt _ (by omega)) ?_
    rintro c ⟨⟩
    decide
  have hoffset : readOffset (skipBlanks ['Z']) = some (0, []) := by decide
  have hend : ¬ skipBlanks [] ≠ [] := by decide
  have hof : of? t.year t.month t.day t.hour t.minute t.second t.nano = some t := dif_pos t.valid
  -- the reader takes the parts in the order in which they are written
  rw [write_eq]
  unfold read?
  refine Option.bind_eq_some_iff.mpr ⟨_, readYear_writeYear _ _, ?_⟩
  refine Option.bind_eq_some_iff.mpr ⟨_, mark_cons hdash _, ?_⟩
  refine Option.bind_eq_some_iff.mpr ⟨_, spaced_field t.month_lt rfl _, ?_⟩
  refine Option.bind_eq_some_iff.mpr ⟨_, mark_cons hdash _, ?_⟩
  refine Option.bind_eq_some_iff.mpr ⟨_, spaced_field t.day_lt rfl _, ?_⟩
  refine Option.bind_eq_some_iff.mpr ⟨_, hbetween _, ?_⟩
  refine Option.bind_eq_some_iff.mpr ⟨_, spaced_field t.hour_lt rfl _, ?_⟩
  refine Option.bind_eq_some_iff.mpr ⟨_, mark_cons hcolon _, ?_⟩
  refine Option.bind_eq_some_iff.mpr ⟨_, spaced_field t.minute_lt rfl _, ?_⟩
  refine Option.bind_eq_some_iff.mpr ⟨_, mark_cons hcolon _, ?_⟩
  refine Option.bind_eq_some_iff.mpr ⟨_, hsecond, ?_⟩
  refine Option.bind_eq_some_iff.mpr ⟨_, hfraction, ?_⟩
  refine Option.bind_eq_some_iff.mpr ⟨_, hoffset, ?_⟩
  rw [clock_eq]
  refine (if_neg hend).trans ?_
  exact Option.bind_eq_some_iff.mpr ⟨t, hof, ofLocal?_zero t⟩

end Written

end Instant

end Provision
