import Provision.Url
import Mathlib.Data.List.Flatten

set_option autoImplicit false

namespace Provision

namespace Utf8

theorem toList_loop (b : ByteArray) (i : Nat) (back : List UInt8) :
    ByteArray.toList.loop b i back = back.reverse ++ b.data.toList.drop i := by
  fun_induction ByteArray.toList.loop b i back with
  | case1 i back h ih =>
    have hi : i < b.data.toList.length := by simpa using h
    rw [ih, List.drop_eq_getElem_cons hi]
    simp [ByteArray.get!, h]
  | case2 i back h =>
    rw [List.drop_eq_nil_of_le (by simpa using Nat.le_of_not_lt h)]
    simp

def bytes (cs : List Char) : List UInt8 := cs.flatMap String.utf8EncodeChar

theorem toUTF8_toList (s : String) : s.toUTF8.toList = bytes s.toList := by
  obtain ⟨cs, rfl⟩ : ∃ cs, s = String.ofList cs := ⟨s.toList, s.ofList_toList.symm⟩
  rw [ByteArray.toList, toList_loop, String.toUTF8_eq_toByteArray, String.toByteArray_ofList]
  simp [List.utf8Encode, bytes]

theorem singleton_toList (c : Char) : (String.singleton c).toUTF8.toList = String.utf8EncodeChar c :=
  (toUTF8_toList _).trans (by simp [bytes])

@[simp] theorem bytes_cons (c : Char) (cs : List Char) : bytes (c :: cs) = String.utf8EncodeChar c ++ bytes cs := rfl

theorem bytes_injective {cs cs' : List Char} (h : bytes cs = bytes cs') : cs = cs' := by
  have hbytes : (String.ofList cs).toByteArray = (String.ofList cs').toByteArray := by
    simp only [String.toByteArray_ofList, List.utf8Encode]
    exact congrArg List.toByteArray h
  simpa using congrArg String.toList (String.toByteArray_inj.mp hbytes)

theorem eq_of_sublist {cs cs' : List Char} (h : cs.Sublist cs') (hlength : (bytes cs').length ≤ (bytes cs).length) :
    cs = cs' := by
  induction h with
  | slnil => rfl
  | @cons cs cs' c hs ih =>
    have hle : (bytes cs).length ≤ (bytes cs').length := (hs.flatMap _).length_le
    have hpos := c.utf8Size_pos
    simp [String.length_utf8EncodeChar] at hlength
    omega
  | @cons_cons cs cs' c hs ih =>
    simp at hlength
    rw [ih hlength]

end Utf8

namespace Url

open Utf8 (bytes bytes_cons)

section Hex

theorem hexValue?_hexDigit {n : Nat} (h : n < 16) : hexValue? (hexDigit n) = some n := by
  have hall : ∀ n < 16, hexValue? (hexDigit n) = some n := by decide
  exact hall n h

theorem hexValue?_unprintable {c : Char} (h : isUnprintable c = true) : hexValue? c = none := by
  simp only [isUnprintable, Bool.or_eq_true, decide_eq_true_eq] at h
  simp only [hexValue?, Bool.and_eq_true, decide_eq_true_eq, Char.le_def, UInt32.le_iff_toNat_le]
  have hc : c.toNat = c.val.toNat := rfl
  have h0 : ('0' : Char).val.toNat = 48 := rfl
  have h9 : ('9' : Char).val.toNat = 57 := rfl
  have ha : ('a' : Char).val.toNat = 97 := rfl
  have hf : ('f' : Char).val.toNat = 102 := rfl
  have hA : ('A' : Char).val.toNat = 65 := rfl
  have hF : ('F' : Char).val.toNat = 70 := rfl
  rw [if_neg (by omega), if_neg (by omega), if_neg (by omega)]

end Hex

def startsEscape : List Char → Bool
  | '%' :: a :: b :: _ => (hexValue? a).isSome && (hexValue? b).isSome
  | _ => false

def hasEscape : List Char → Bool
  | [] => false
  | c :: cs => startsEscape (c :: cs) || hasEscape cs

theorem startsEscape_iff {cs : List Char} : startsEscape cs = true ↔
    ∃ a b rest x y, cs = '%' :: a :: b :: rest ∧ hexValue? a = some x ∧ hexValue? b = some y := by
  unfold startsEscape
  split
  next a b rest =>
    simp only [Bool.and_eq_true, Option.isSome_iff_exists]
    constructor
    · rintro ⟨⟨x, hx⟩, y, hy⟩
      exact ⟨a, b, rest, x, y, rfl, hx, hy⟩
    · rintro ⟨_, _, _, x, y, heq, hx, hy⟩
      cases heq
      exact ⟨⟨x, hx⟩, y, hy⟩
  next hne =>
    refine ⟨nofun, ?_⟩
    rintro ⟨a, b, rest, x, y, rfl, -, -⟩
    exact absurd rfl (hne a b rest)

theorem startsEscape_cons (c a b : Char) (cs : List Char) :
    startsEscape (c :: a :: b :: cs) = (c == '%' && (hexValue? a).isSome && (hexValue? b).isSome) := by
  by_cases hc : c = '%'
  · subst hc
    simp [startsEscape]
  · simp [startsEscape, hc]

theorem startsEscape_short (c a : Char) : startsEscape [c, a] = false := by simp [startsEscape]

theorem startsEscape_of_none {a : Char} (ha : hexValue? a = none) (c : Char) (cs : List Char) :
    startsEscape (c :: a :: cs) = false := by
  cases cs with
  | nil => exact startsEscape_short c a
  | cons b cs => simp [startsEscape_cons, ha]

theorem text_induction {P : List Char → Prop} (hnil : P [])
    (hescape : ∀ a b rest x y, hexValue? a = some x → hexValue? b = some y → P rest → P ('%' :: a :: b :: rest))
    (hchar : ∀ c cs, startsEscape (c :: cs) = false → P cs → P (c :: cs)) (cs : List Char) : P cs := by
  -- on the length, as an escape is three characters
  induction h : cs.length using Nat.strongRecOn generalizing cs with
  | ind n ih =>
    subst h
    cases cs with
    | nil => exact hnil
    | cons c cs =>
      cases hstart : startsEscape (c :: cs) with
      | true =>
        obtain ⟨a, b, rest, x, y, heq, ha, hb⟩ := startsEscape_iff.mp hstart
        cases heq
        exact hescape a b rest x y ha hb (ih rest.length (by simp only [List.length_cons]; omega) rest rfl)
      | false => exact hchar c cs hstart (ih cs.length (by simp) cs rfl)

theorem unescape_escape_cons {a b : Char} {x y : Nat} (ha : hexValue? a = some x) (hb : hexValue? b = some y)
    (cs : List Char) : unescape ('%' :: a :: b :: cs) = (x * 16 + y).toUInt8 :: unescape cs := by
  simp [unescape, ha, hb]

theorem unescape_cons {c : Char} {cs : List Char} (h : startsEscape (c :: cs) = false) :
    unescape (c :: cs) = String.utf8EncodeChar c ++ unescape cs := by
  rw [unescape.eq_def]
  split
  next heq => cases heq
  next a b rest heq =>
    cases heq
    split
    next x y hx hy => simp [startsEscape, hx, hy] at h
    next => rfl
  next c' rest hne heq =>
    cases heq
    rw [Utf8.singleton_toList]

theorem percent_eq (c : Char) : ∃ rest, percent c = '%' :: rest := by
  have hlength : (String.utf8EncodeChar c).length = c.utf8Size := String.length_utf8EncodeChar c
  rw [percent, Utf8.singleton_toList]
  cases h : String.utf8EncodeChar c with
  | nil =>
    have hpos := c.utf8Size_pos
    rw [h] at hlength
    exact absurd hlength (by simp; omega)
  | cons b bs => exact ⟨_, rfl⟩

theorem unescape_percent (c : Char) (cs : List Char) :
    unescape (percent c ++ cs) = String.utf8EncodeChar c ++ unescape cs := by
  rw [percent, Utf8.singleton_toList]
  generalize String.utf8EncodeChar c = bs
  induction bs with
  | nil => rfl
  | cons b bs ih =>
    have hb : b.toNat < 256 := b.toNat_lt
    have hbyte : (b.toNat / 16 * 16 + b.toNat % 16).toUInt8 = b := by
      rw [Nat.div_add_mod']
      exact UInt8.ofNat_toNat
    simp only [List.flatMap_cons, List.cons_append, List.nil_append]
    rw [unescape_escape_cons (hexValue?_hexDigit (by omega)) (hexValue?_hexDigit (Nat.mod_lt _ (by decide))), ih, hbyte]

section Sets

def Apart (set : List Char) : Prop := ∀ c ∈ set, c ≠ '%' ∧ hexValue? c = none

/-- It is told from the characters of the set, not from all there are. -/
instance (set : List Char) : Decidable (Apart set) := List.decidableBAll (fun c => c ≠ '%' ∧ hexValue? c = none) set

theorem apart_path : Apart pathSet := by decide

theorem apart_query : Apart specialQuerySet := by decide

variable {set : List Char} (hset : Apart set)

theorem escape_cons (c : Char) (cs : List Char) :
    escape set (c :: cs) = (if escapedIn set c then percent c else [c]) ++ escape set cs := rfl

theorem escape_append (cs cs' : List Char) : escape set (cs ++ cs') = escape set cs ++ escape set cs' :=
  List.flatMap_append

theorem escape_of_plain {cs : List Char} (h : ∀ c ∈ cs, escapedIn set c = false) : escape set cs = cs := by
  induction cs with
  | nil => rfl
  | cons c cs ih =>
    rw [escape_cons, h c (List.mem_cons_self ..), ih fun c hc => h c (List.mem_cons_of_mem _ hc)]
    rfl

theorem mem_escape {c : Char} {cs : List Char} (h : c ∈ escape set cs) :
    (c ∈ cs ∧ escapedIn set c = false) ∨ c = '%' ∨ ∃ x, hexValue? c = some x := by
  obtain ⟨a, ha, hc⟩ := List.mem_flatMap.mp h
  split at hc
  · obtain ⟨b, -, hc⟩ := List.mem_flatMap.mp hc
    have hb : b.toNat < 256 := b.toNat_lt
    simp only [List.mem_cons, List.not_mem_nil, or_false] at hc
    obtain rfl | rfl | rfl := hc
    · exact .inr (.inl rfl)
    · exact .inr (.inr ⟨_, hexValue?_hexDigit (by omega)⟩)
    · exact .inr (.inr ⟨_, hexValue?_hexDigit (Nat.mod_lt _ (by decide))⟩)
  next hplain =>
    rw [List.mem_singleton.mp hc]
    exact .inl ⟨ha, Bool.eq_false_iff.mpr hplain⟩

theorem escape_ne_nil {cs : List Char} (h : cs ≠ []) : escape set cs ≠ [] := by
  cases cs with
  | nil => exact absurd rfl h
  | cons c cs =>
    obtain ⟨rest, hrest⟩ := percent_eq c
    rw [escape_cons, hrest]
    split <;> simp

include hset

theorem hexValue?_escaped {c : Char} (h : escapedIn set c = true) : hexValue? c = none := by
  simp only [escapedIn, Bool.or_eq_true, List.contains_iff_mem] at h
  exact h.elim hexValue?_unprintable fun hc => (hset c hc).2

theorem escapedIn_of_value {c : Char} {x : Nat} (h : hexValue? c = some x) : escapedIn set c = false := by
  cases hesc : escapedIn set c with
  | false => rfl
  | true => cases (hexValue?_escaped hset hesc).symm.trans h

theorem percent_plain : escapedIn set '%' = false := by
  have h : '%' ∉ set := fun h => (hset _ h).1 rfl
  simp only [escapedIn, Bool.or_eq_false_iff, List.contains_eq_mem, decide_eq_false_iff_not]
  exact ⟨rfl, h⟩

theorem startsEscape_escape (c : Char) (cs : List Char) : startsEscape (c :: escape set cs) = startsEscape (c :: cs) := by
  -- whether it begins one is told from the next two characters; a percent sign in their place is no digit
  have hstop : ∀ {a : Char} (cs : List Char), escapedIn set a = true → ∃ rest, escape set (a :: cs) = '%' :: rest := by
    intro a cs ha
    obtain ⟨rest, hrest⟩ := percent_eq a
    exact ⟨rest ++ escape set cs, by rw [escape_cons, if_pos ha, hrest, List.cons_append]⟩
  have hkeep : ∀ {a : Char} {cs : List Char}, escapedIn set a = false → escape set (a :: cs) = a :: escape set cs := by
    intro a cs ha
    rw [escape_cons, ha]
    rfl
  cases cs with
  | nil => rfl
  | cons a cs =>
    cases ha : escapedIn set a with
    | true =>
      obtain ⟨rest, hrest⟩ := hstop cs ha
      rw [hrest, startsEscape_of_none rfl, startsEscape_of_none (hexValue?_escaped hset ha)]
    | false =>
      rw [hkeep ha]
      cases cs with
      | nil => rfl
      | cons b cs =>
        cases hb : escapedIn set b with
        | true =>
          obtain ⟨rest, hrest⟩ := hstop cs hb
          rw [hrest, startsEscape_cons, startsEscape_cons, hexValue?_escaped hset hb]
          rfl
        | false => rw [hkeep hb, startsEscape_cons, startsEscape_cons]

theorem unescape_escape (cs : List Char) : unescape (escape set cs) = unescape cs := by
  induction cs using text_induction with
  | hnil => rfl
  | hescape a b rest x y ha hb ih =>
    rw [escape_cons, percent_plain hset, escape_cons, escapedIn_of_value hset ha, escape_cons,
      escapedIn_of_value hset hb]
    show unescape ('%' :: a :: b :: escape set rest) = _
    rw [unescape_escape_cons ha hb, unescape_escape_cons ha hb, ih]
  | hchar c cs hstart ih =>
    rw [unescape_cons hstart, escape_cons, ← ih]
    split
    · exact unescape_percent c _
    · exact unescape_cons ((startsEscape_escape hset c cs).trans hstart)

theorem escapedIn_escape {cs : List Char} : ∀ c ∈ escape set cs, escapedIn set c = false := by
  intro c hc
  obtain ⟨-, hc⟩ | rfl | ⟨x, hc⟩ := mem_escape hc
  · exact hc
  · exact percent_plain hset
  · exact escapedIn_of_value hset hc

end Sets

theorem length_unescape (cs : List Char) : (unescape cs).length ≤ (bytes cs).length ∧
    (hasEscape cs = true → (unescape cs).length < (bytes cs).length) := by
  induction cs using text_induction with
  | hnil => exact ⟨Nat.le_refl _, nofun⟩
  | hescape a b rest x y ha hb ih =>
    have hpercent := ('%' : Char).utf8Size_pos
    have hapos := a.utf8Size_pos
    have hbpos := b.utf8Size_pos
    simp only [unescape_escape_cons ha hb, bytes_cons, List.length_cons, List.length_append,
      String.length_utf8EncodeChar]
    omega
  | hchar c cs hstart ih =>
    simp only [unescape_cons hstart, bytes_cons, List.length_append, hasEscape, hstart, Bool.false_or]
    exact ⟨Nat.add_le_add_left ih.1 _, fun h => Nat.add_lt_add_left (ih.2 h) _⟩

theorem unescape_eq_bytes {cs : List Char} : unescape cs = bytes cs ↔ hasEscape cs = false := by
  constructor
  · intro h
    cases hesc : hasEscape cs with
    | false => rfl
    | true => exact absurd (congrArg List.length h) (Nat.ne_of_lt ((length_unescape cs).2 hesc))
  · intro h
    induction cs with
    | nil => rfl
    | cons c cs ih =>
      obtain ⟨hstart, hrest⟩ := Bool.or_eq_false_iff.mp h
      rw [unescape_cons hstart, ih hrest, bytes_cons]

end Url

end Provision
