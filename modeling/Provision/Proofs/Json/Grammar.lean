import Provision.Proofs.Record

set_option autoImplicit false

namespace Provision.Json

def Gap (cs : List Char) : Prop := ∀ c ∈ cs, isGap c = true

namespace Unit16

/-- How a unit of a text is written between quotes. -/
inductive Written : Unit16 → List Char → Prop where
  | plain {c : Char} (visible : 32 ≤ c.toNat) (quote : c ≠ '"') (slash : c ≠ '\\') : Written (.char c) [c]
  | escape {e c : Char} (h : escape? e = some c) : Written (.char c) ['\\', e]
  | hex {a b c d : Char} {w x y z : Nat} (ha : hexValue? a = some w) (hb : hexValue? b = some x) (hc : hexValue? c = some y)
      (hd : hexValue? d = some z) : Written (.unit (w * 4096 + x * 256 + y * 16 + z)) ['\\', 'u', a, b, c, d]

end Unit16

/-- What stands between the quotes of a text. -/
inductive Units : List Unit16 → List Char → Prop where
  | nil : Units [] []
  | cons {u : Unit16} {us : List Unit16} {w cs : List Char} (head : u.Written w) (tail : Units us cs) :
      Units (u :: us) (w ++ cs)

structure Figures (cs : List Char) : Prop where
  digits : Decimal.Digits cs
  nonempty : cs ≠ []

inductive Whole : List Char → Prop where
  | zero : Whole ['0']
  | digits {cs : List Char} (h : Figures cs) (lead : cs.head? ≠ some '0') : Whole cs

inductive Fraction : List Char → Prop where
  | absent : Fraction []
  | digits {cs : List Char} (h : Figures cs) : Fraction ('.' :: cs)

inductive Exponent : List Char → Prop where
  | absent : Exponent []
  | digits {e : Char} (sign : List Char) {cs : List Char} (he : e = 'e' ∨ e = 'E') (hs : sign ∈ [[], ['+'], ['-']])
      (h : Figures cs) : Exponent (e :: sign ++ cs)

inductive Numeral : List Char → Prop where
  | mk {sign w f e : List Char} (hs : sign ∈ [[], ['-']]) (hw : Whole w) (hf : Fraction f) (he : Exponent e) :
      Numeral (sign ++ w ++ f ++ e)

/-! The values, with a function that gives the text of units. An element is a value with blanks around it. -/

mutual

inductive Value (text : List Unit16 → Option (List Char)) : Json → List Char → Prop where
  | null : Value text .null "null".toList
  | yes : Value text (.bool true) "true".toList
  | no : Value text (.bool false) "false".toList
  | number {cs : List Char} (h : Numeral cs) : Value text (.number cs) cs
  | string {us : List Unit16} {cs : List Char} (h : Units us cs) : Value text (.string (text us)) ('"' :: cs ++ ['"'])
  | emptyArray {g : List Char} (h : Gap g) : Value text (.array []) ('[' :: g ++ [']'])
  | array {js : List Json} {cs : List Char} (h : Elements text js cs) : Value text (.array js) ('[' :: cs ++ [']'])
  | emptyObject {g : List Char} (h : Gap g) : Value text (.object []) ('\x7b' :: g ++ ['\x7d'])
  | object {ms : List (Option (List Char) × Json)} {cs : List Char} (h : Members text ms cs) :
      Value text (.object ms) ('\x7b' :: cs ++ ['\x7d'])

inductive Element (text : List Unit16 → Option (List Char)) : Json → List Char → Prop where
  | mk {j : Json} {g w g' : List Char} (hg : Gap g) (h : Value text j w) (hg' : Gap g') : Element text j (g ++ w ++ g')

inductive Elements (text : List Unit16 → Option (List Char)) : List Json → List Char → Prop where
  | one {j : Json} {w : List Char} (h : Element text j w) : Elements text [j] w
  | more {j : Json} {js : List Json} {w cs : List Char} (h : Element text j w) (rest : Elements text js cs) :
      Elements text (j :: js) (w ++ ',' :: cs)

inductive Member (text : List Unit16 → Option (List Char)) : Option (List Char) × Json → List Char → Prop where
  | mk {us : List Unit16} {j : Json} {g n g' w : List Char} (hg : Gap g) (hn : Units us n) (hg' : Gap g')
      (h : Element text j w) : Member text (text us, j) (g ++ '"' :: n ++ '"' :: g' ++ ':' :: w)

inductive Members (text : List Unit16 → Option (List Char)) : List (Option (List Char) × Json) → List Char → Prop where
  | one {m : Option (List Char) × Json} {w : List Char} (h : Member text m w) : Members text [m] w
  | more {m : Option (List Char) × Json} {ms : List (Option (List Char) × Json)} {w cs : List Char}
      (h : Member text m w) (rest : Members text ms cs) : Members text (m :: ms) (w ++ ',' :: cs)

end

section Gaps

variable {g cs : List Char}

theorem skipGaps_append (h : Gap g) (cs : List Char) : skipGaps (g ++ cs) = skipGaps cs :=
  List.dropWhile_append_of_pos h

def Flush (cs : List Char) : Prop := ∀ c ∈ cs.head?, isGap c = false

theorem Flush.skipGaps (h : Flush cs) : skipGaps cs = cs := by
  cases cs with
  | nil => rfl
  | cons c cs => simp [Json.skipGaps, h c rfl]

theorem flush_skipGaps (cs : List Char) : Flush (skipGaps cs) := by
  intro c hc
  have h := List.head?_dropWhile_not isGap cs
  rw [show (cs.dropWhile isGap).head? = some c from hc] at h
  exact h

theorem exists_gap (cs : List Char) : ∃ g, Gap g ∧ cs = g ++ skipGaps cs := by
  refine ⟨cs.takeWhile isGap, fun c hc => ?_, List.takeWhile_append_dropWhile.symm⟩
  exact List.mem_takeWhile_imp hc

theorem skipGaps_of_flush (h : Gap g) (hc : Flush cs) : skipGaps (g ++ cs) = cs := by
  rw [skipGaps_append h, hc.skipGaps]

end Gaps

section Units

variable {us : List Unit16} {cs rest : List Char}

theorem units_sound (h : units cs = some (us, rest)) : ∃ w, Units us w ∧ cs = w ++ '"' :: rest := by
  -- along the reader: the closing quote, an escape by number, one by letter, a character as it stands
  induction cs using units.induct generalizing us rest with
  | case1 => simp [units] at h
  | case2 cs =>
    simp only [units, Option.some.injEq, Prod.mk.injEq] at h
    obtain ⟨rfl, rfl⟩ := h
    exact ⟨[], .nil, rfl⟩
  | case3 a b c d cs ih =>
    simp only [units, Option.bind_eq_bind, Option.bind_eq_some_iff, Prod.exists, Option.pure_def, Option.some.injEq,
      Prod.mk.injEq] at h
    obtain ⟨w, ha, x, hb, y, hc, z, hd, vs, after, hu, rfl, rfl⟩ := h
    obtain ⟨t, ht, rfl⟩ := ih hu
    exact ⟨_, .cons (.hex ha hb hc hd) ht, rfl⟩
  | case4 e cs hu ih =>
    rw [units] at h
    · simp only [Option.bind_eq_bind, Option.bind_eq_some_iff, Prod.exists, Option.pure_def, Option.some.injEq,
        Prod.mk.injEq] at h
      obtain ⟨c, he, vs, after, hr, rfl, rfl⟩ := h
      obtain ⟨t, ht, rfl⟩ := ih hr
      exact ⟨_, .cons (.escape he) ht, rfl⟩
    · exact hu
  | case5 c cs hquote hhex hslash hbad =>
    rw [units] at h
    · rw [if_pos hbad] at h
      cases h
    · exact hquote
    · exact hhex
    · exact hslash
  | case6 c cs hquote hhex hslash hgood ih =>
    rw [units] at h
    · rw [if_neg hgood] at h
      simp only [Option.bind_eq_bind, Option.bind_eq_some_iff, Prod.exists, Option.pure_def, Option.some.injEq,
        Prod.mk.injEq] at h
      obtain ⟨vs, after, hr, rfl, rfl⟩ := h
      obtain ⟨t, ht, rfl⟩ := ih hr
      simp only [Bool.or_eq_true, decide_eq_true_eq, not_or, Nat.not_lt] at hgood
      exact ⟨_, .cons (.plain hgood.1 hquote hgood.2) ht, rfl⟩
    · exact hquote
    · exact hhex
    · exact hslash

theorem units_written {u : Unit16} {w : List Char} (h : u.Written w) (cs : List Char) :
    units (w ++ cs) = (units cs).map fun r => (u :: r.1, r.2) := by
  cases h with
  | escape h =>
    refine units_escape h ?_ cs
    rintro rfl
    cases h
  | hex ha hb hc hd => exact units_hex ha hb hc hd cs
  | plain visible quote slash => exact units_plain quote slash visible cs

theorem units_complete (h : Units us cs) (rest : List Char) : units (cs ++ '"' :: rest) = some (us, rest) := by
  induction h with
  | nil => rfl
  | cons head tail ih =>
    rw [List.append_assoc, units_written head, ih]
    rfl

end Units

section Numerals

variable {n cs rest : List Char}

def Closed (cs : List Char) : Prop := ∀ c ∈ cs.head?, Decimal.isDigit c = false ∧ c ≠ '.' ∧ c ≠ 'e' ∧ c ≠ 'E'

theorem someDigits_sound (h : someDigits cs = some (n, rest)) : Figures n ∧ cs = n ++ rest := by
  simp only [someDigits] at h
  split at h
  · cases h
  · rename_i hne
    simp only [Option.some.injEq, Prod.mk.injEq] at h
    obtain ⟨rfl, rfl⟩ := h
    exact ⟨⟨fun c hc => List.mem_takeWhile_imp hc, by simpa using hne⟩, List.takeWhile_append_dropWhile.symm⟩

theorem Figures.reads (h : Figures n) (hrest : ∀ c ∈ rest.head?, Decimal.isDigit c = false) :
    someDigits (n ++ rest) = some (n, rest) := someDigits_append h.digits h.nonempty hrest

theorem whole_sound (h : whole cs = some (n, rest)) : Whole n ∧ cs = n ++ rest := by
  unfold whole at h
  split at h
  · simp only [Option.some.injEq, Prod.mk.injEq] at h
    obtain ⟨rfl, rfl⟩ := h
    exact ⟨.zero, rfl⟩
  · rename_i hzero
    obtain ⟨hn, rfl⟩ := someDigits_sound h
    refine ⟨.digits hn fun hlead => ?_, rfl⟩
    obtain ⟨ds, rfl⟩ := List.head?_eq_some_iff.mp hlead
    exact hzero _ rfl

theorem Whole.reads (h : Whole n) (hrest : ∀ c ∈ rest.head?, Decimal.isDigit c = false) :
    whole (n ++ rest) = some (n, rest) := by
  cases h with
  | zero => rfl
  | digits h lead =>
    unfold whole
    split
    · rename_i he
      obtain ⟨c, cs, rfl⟩ := List.exists_cons_of_ne_nil h.nonempty
      cases he
      exact absurd rfl lead
    · exact h.reads hrest

theorem fraction_sound (h : fraction cs = some (n, rest)) : Fraction n ∧ cs = n ++ rest := by
  unfold fraction at h
  split at h
  · obtain ⟨⟨ds, more⟩, hd, he⟩ := Option.map_eq_some_iff.mp h
    cases he
    obtain ⟨hn, rfl⟩ := someDigits_sound hd
    exact ⟨.digits hn, rfl⟩
  · cases h
    exact ⟨.absent, rfl⟩

theorem Fraction.reads (h : Fraction n) (hrest : ∀ c ∈ rest.head?, Decimal.isDigit c = false ∧ c ≠ '.') :
    fraction (n ++ rest) = some (n, rest) := by
  cases h with
  | absent =>
    unfold fraction
    split
    · rename_i he
      exact absurd rfl (hrest '.' (by rw [show rest = _ from he]; rfl)).2
    · rfl
  | digits h =>
    have hd := h.reads fun c hc => (hrest c hc).1
    simp [fraction, hd]

theorem exponent_sound (h : exponent cs = some (n, rest)) : Exponent n ∧ cs = n ++ rest := by
  unfold exponent at h
  split at h
  · split at h
    · rename_i hletter
      have he : ∀ c : Char, (c = 'e' || c = 'E') = true → c = 'e' ∨ c = 'E' := by simp
      split at h
      · obtain ⟨⟨ds, more⟩, hd, heq⟩ := Option.map_eq_some_iff.mp h
        cases heq
        obtain ⟨hn, rfl⟩ := someDigits_sound hd
        exact ⟨.digits ['+'] (he _ hletter) (by simp) hn, rfl⟩
      · obtain ⟨⟨ds, more⟩, hd, heq⟩ := Option.map_eq_some_iff.mp h
        cases heq
        obtain ⟨hn, rfl⟩ := someDigits_sound hd
        exact ⟨.digits ['-'] (he _ hletter) (by simp) hn, rfl⟩
      · obtain ⟨⟨ds, more⟩, hd, heq⟩ := Option.map_eq_some_iff.mp h
        cases heq
        obtain ⟨hn, rfl⟩ := someDigits_sound hd
        exact ⟨.digits [] (he _ hletter) (by simp) hn, rfl⟩
    · cases h
      exact ⟨.absent, rfl⟩
  · cases h
    exact ⟨.absent, rfl⟩

theorem Exponent.reads (h : Exponent n) (hrest : Closed rest) : exponent (n ++ rest) = some (n, rest) := by
  cases h with
  | absent =>
    cases rest with
    | nil => rfl
    | cons c rest =>
      obtain ⟨-, -, h₁, h₂⟩ := hrest c rfl
      simp [exponent, h₁, h₂]
  | @digits e sign cs he hs h =>
    have hd := h.reads fun c hc => (hrest c hc).1
    have hletter : (e = 'e' || e = 'E') = true := by simpa using he
    simp only [List.mem_cons, List.not_mem_nil, or_false] at hs
    obtain rfl | rfl | rfl := hs
    · obtain ⟨c, cs, rfl⟩ := List.exists_cons_of_ne_nil h.nonempty
      have hc := h.digits c (List.mem_cons_self ..)
      have hplus : c ≠ '+' := by rintro rfl; cases hc
      have hminus : c ≠ '-' := by rintro rfl; cases hc
      simp only [List.cons_append, List.nil_append, exponent, hletter, if_true] at hd ⊢
      split
      · rename_i he'
        cases he'
        exact absurd rfl hplus
      · rename_i he'
        cases he'
        exact absurd rfl hminus
      · rw [hd]
        rfl
    · simp [exponent, hletter, hd]
    · simp [exponent, hletter, hd]

theorem Exponent.stops (h : Exponent n) (hrest : Closed rest) :
    ∀ c ∈ (n ++ rest).head?, Decimal.isDigit c = false ∧ c ≠ '.' := by
  intro c hc
  cases h with
  | absent =>
    obtain ⟨h₁, h₂, -⟩ := hrest c hc
    exact ⟨h₁, h₂⟩
  | digits sign he hs h =>
    obtain rfl : _ = c := by simpa using hc
    obtain rfl | rfl := he <;> decide

theorem Fraction.stops (h : Fraction n) (hrest : ∀ c ∈ rest.head?, Decimal.isDigit c = false ∧ c ≠ '.') :
    ∀ c ∈ (n ++ rest).head?, Decimal.isDigit c = false := by
  intro c hc
  cases h with
  | absent => exact (hrest c hc).1
  | digits h =>
    obtain rfl : _ = c := by simpa using hc
    rfl

theorem Whole.head (h : Whole n) : ∃ c ds, n = c :: ds ∧ Decimal.isDigit c = true := by
  cases h with
  | zero => exact ⟨'0', [], rfl, rfl⟩
  | digits h lead =>
    obtain ⟨c, ds, rfl⟩ := List.exists_cons_of_ne_nil h.nonempty
    exact ⟨c, ds, rfl, h.digits c (List.mem_cons_self ..)⟩

theorem numeral_sound (h : numeral cs = some (n, rest)) : Numeral n ∧ cs = n ++ rest := by
  unfold numeral at h
  split at h
  rename_i sign body hsign
  have hcs : sign ∈ [[], ['-']] ∧ cs = sign ++ body := by
    split at hsign
    · cases hsign
      exact ⟨by simp, rfl⟩
    · cases hsign
      exact ⟨by simp, rfl⟩
  simp only [Option.bind_eq_bind, Option.bind_eq_some_iff, Prod.exists, Option.pure_def, Option.some.injEq,
    Prod.mk.injEq] at h
  obtain ⟨w, more, hw, f, more', hf, e, after, he, rfl, rfl⟩ := h
  obtain ⟨hw', rfl⟩ := whole_sound hw
  obtain ⟨hf', rfl⟩ := fraction_sound hf
  obtain ⟨he', rfl⟩ := exponent_sound he
  exact ⟨.mk hcs.1 hw' hf' he', by simp [hcs.2]⟩

theorem Numeral.reads (h : Numeral n) (hrest : Closed rest) : numeral (n ++ rest) = some (n, rest) := by
  obtain @⟨sign, w, f, e, hs, hw, hf, he⟩ := h
  have h₃ := he.reads hrest
  have h₂ := hf.reads (he.stops hrest)
  have h₁ := hw.reads (hf.stops (he.stops hrest))
  simp only [List.append_assoc] at h₁ h₂ h₃ ⊢
  obtain rfl | rfl : sign = [] ∨ sign = ['-'] := by simpa using hs
  · obtain ⟨c, ds, rfl, hc⟩ := hw.head
    unfold numeral
    split
    rename_i sign body hsign
    split at hsign
    · rename_i hminus
      cases hminus
      cases hc
    · cases hsign
      rw [List.cons_append] at h₁
      simp [h₁, h₂, h₃]
  · simp [numeral, h₁, h₂, h₃]

theorem Numeral.head (h : Numeral n) : ∃ c ds, n = c :: ds ∧ (c = '-' ∨ Decimal.isDigit c = true) := by
  obtain @⟨sign, w, f, e, hs, hw, -, -⟩ := h
  obtain ⟨c, ds, rfl, hc⟩ := hw.head
  obtain rfl | rfl : sign = [] ∨ sign = ['-'] := by simpa using hs
  · exact ⟨c, ds ++ f ++ e, rfl, .inr hc⟩
  · exact ⟨'-', c :: ds ++ f ++ e, rfl, .inl rfl⟩

end Numerals

end Provision.Json
