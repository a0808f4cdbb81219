import Provision.Record
import Provision.Proofs.Instant

/-!
The record is read back as it was written: quoted texts with their escapes, numbers, dates, and the object
that has one of each.
-/

set_option autoImplicit false

namespace Provision

namespace Json

theorem hexValue?_hexDigit {n : Nat} (h : n < 16) : hexValue? (hexDigit n) = some n := by
  have hall : ∀ n < 16, hexValue? (hexDigit n) = some n := by decide
  exact hall n h

/-- The units that one character stands for when it is read back. -/
def Stands (us : List Unit16) (c : Char) : Prop := ∀ rest, paired (us ++ rest) = (paired rest).map (c :: ·)

theorem stands_char (c : Char) : Stands [.char c] c := fun _ => rfl

theorem stands_unit (c : Char) (h : c.toNat < 32) : Stands [.unit c.toNat] c := by
  intro rest
  have hlow : ¬ (0xD800 ≤ c.toNat) := by omega
  have hhigh : ¬ (0xDC00 ≤ c.toNat) := by omega
  cases rest with
  | nil => simp [paired, hlow]
  | cons u rest =>
    cases u with
    | char d => simp [paired, hlow]
    | unit n => simp [paired, hlow, hhigh]

theorem units_escape {e c : Char} (h : escape? e = some c) (hu : e ≠ 'u') (rest : List Char) :
    units ('\\' :: e :: rest) = (units rest).map fun r => (.char c :: r.1, r.2) := by
  rw [units]
  · simp only [h]
    cases units rest <;> rfl
  · intro a b c d more he
    exact absurd he hu

theorem units_hex {a b c d : Char} {w x y z : Nat} (ha : hexValue? a = some w) (hb : hexValue? b = some x)
    (hc : hexValue? c = some y) (hd : hexValue? d = some z) (rest : List Char) :
    units ('\\' :: 'u' :: a :: b :: c :: d :: rest) =
      (units rest).map fun r => (.unit (w * 4096 + x * 256 + y * 16 + z) :: r.1, r.2) := by
  simp only [units, ha, hb, hc, hd]
  cases units rest <;> rfl

theorem units_plain {c : Char} (quote : c ≠ '"') (slash : c ≠ '\\') (visible : 32 ≤ c.toNat) (rest : List Char) :
    units (c :: rest) = (units rest).map fun r => (.char c :: r.1, r.2) := by
  rw [units]
  · have hv : ¬ c.toNat < 32 := by omega
    simp only [hv, slash]
    cases units rest <;> rfl
  · exact quote
  · intro a b x d more he
    exact absurd he slash
  · intro e more he
    exact absurd he slash

theorem escaped_cases (c : Char) :
    (∃ e, escaped c = ['\\', e] ∧ escape? e = some c) ∨
      (escaped c = ['\\', 'u', '0', '0', hexDigit (c.toNat / 16), hexDigit (c.toNat % 16)] ∧ c.toNat < 32) ∨
      (escaped c = [c] ∧ c ≠ '"' ∧ c ≠ '\\' ∧ 32 ≤ c.toNat) := by
  by_cases hletter : c ∈ ['"', '\\', '\n', '\r', '\t', Char.ofNat 8, Char.ofNat 12]
  · refine .inl ?_
    simp only [List.mem_cons, List.not_mem_nil, or_false] at hletter
    obtain rfl | rfl | rfl | rfl | rfl | rfl | rfl := hletter <;> exact ⟨_, rfl, rfl⟩
  · simp only [List.mem_cons, List.not_mem_nil, or_false, not_or] at hletter
    obtain ⟨hquote, hslash, hnamed⟩ := hletter
    by_cases hcontrol : c.toNat < 32
    · exact .inr (.inl ⟨by simp [escaped, hquote, hslash, hnamed, hcontrol], hcontrol⟩)
    · exact .inr (.inr ⟨by simp [escaped, hquote, hslash, hnamed, hcontrol], hquote, hslash, by omega⟩)

theorem units_escaped (c : Char) :
    ∃ us, Stands us c ∧ ∀ rest, units (escaped c ++ rest) = (units rest).map fun r => (us ++ r.1, r.2) := by
  obtain ⟨e, hc, he⟩ | ⟨hc, hcontrol⟩ | ⟨hc, hquote, hslash, hvisible⟩ := escaped_cases c
  · rw [hc]
    refine ⟨_, stands_char c, units_escape he ?_⟩
    rintro rfl
    cases he
  · rw [hc]
    have hzero : hexValue? '0' = some 0 := by decide
    have hhigh := hexValue?_hexDigit (show c.toNat / 16 < 16 by omega)
    have hlow := hexValue?_hexDigit (show c.toNat % 16 < 16 by omega)
    have hnumber : 0 * 4096 + 0 * 256 + c.toNat / 16 * 16 + c.toNat % 16 = c.toNat := by omega
    refine ⟨_, stands_unit c hcontrol, fun rest => (units_hex hzero hzero hhigh hlow rest).trans ?_⟩
    rw [hnumber]
    rfl
  · rw [hc]
    exact ⟨_, stands_char c, units_plain hquote hslash hvisible⟩

theorem units_quoted (cs rest : List Char) :
    ∃ us, units (cs.flatMap escaped ++ '"' :: rest) = some (us, rest) ∧ paired us = some cs := by
  have h : ∃ us, units (cs.flatMap escaped ++ '"' :: rest) = some (us, rest) ∧
      ∀ more, paired (us ++ more) = (paired more).map (cs ++ ·) := by
    induction cs with
    | nil => exact ⟨[], rfl, fun more => by simp⟩
    | cons c cs ih =>
      obtain ⟨us, hu, hp⟩ := ih
      obtain ⟨vs, hv, he⟩ := units_escaped c
      refine ⟨vs ++ us, ?_, fun more => ?_⟩
      · rw [List.flatMap_cons, List.append_assoc, he, hu]
        rfl
      · rw [List.append_assoc, hv, hp]
        cases paired more <;> rfl
  obtain ⟨us, hu, hp⟩ := h
  exact ⟨us, hu, by simpa [paired] using hp []⟩

/-- A text from which a value is read, in front of the end of a line. -/
def Reads (cs : List Char) (j : Json) : Prop :=
  ∀ fuel rest, rest.head? = some ',' ∨ rest.head? = some '\n' →
    valueFrom paired (fuel + 1) (' ' :: (cs ++ rest)) = some (j, rest)

theorem skipGaps_space (cs : List Char) : skipGaps (' ' :: cs) = skipGaps cs := rfl

theorem reads_null : Reads "null".toList .null := fun _ _ _ => rfl

theorem reads_quoted (cs : List Char) : Reads (quoted cs) (.string (some cs)) := by
  intro fuel rest _
  obtain ⟨us, hu, hp⟩ := units_quoted cs rest
  have hs : skipGaps (' ' :: (quoted cs ++ rest)) = '"' :: (cs.flatMap escaped ++ '"' :: rest) := by
    simp [skipGaps, isGap, quoted]
  rw [valueFrom, hs]
  simp [hu, hp]

theorem isGap_digit {c : Char} (h : Decimal.isDigit c = true) : isGap c = false := by
  have hd := (Decimal.isDigit_iff c).mp h
  have hne : ∀ d : Char, d.toNat < 48 → c ≠ d := by
    rintro d hlt rfl
    omega
  simp [isGap, hne ' ' (by decide), hne '\n' (by decide), hne '\t' (by decide), hne '\r' (by decide)]

theorem someDigits_append {ds tail : List Char} (hds : Decimal.Digits ds) (hne : ds ≠ [])
    (ht : ∀ c ∈ tail.head?, Decimal.isDigit c = false) : someDigits (ds ++ tail) = some (ds, tail) := by
  have hempty : ds.isEmpty = false := by simpa using hne
  simp [someDigits, Decimal.takeWhile_digits hds ht, Decimal.dropWhile_digits hds ht, hempty]

theorem ends_number {rest : List Char} (hr : rest.head? = some ',' ∨ rest.head? = some '\n') :
    (∀ c ∈ rest.head?, Decimal.isDigit c = false) ∧ fraction rest = some ([], rest) ∧
      exponent rest = some ([], rest) := by
  cases rest with
  | nil => simp at hr
  | cons c rest =>
    have hc : c = ',' ∨ c = '\n' := by simpa using hr
    refine ⟨?_, ?_, ?_⟩
    · rintro d ⟨⟩
      obtain rfl | rfl := hc <;> decide
    · obtain rfl | rfl := hc <;> rfl
    · obtain rfl | rfl := hc <;> rfl

theorem whole_write (n : Nat) {rest : List Char} (hr : ∀ c ∈ rest.head?, Decimal.isDigit c = false) :
    whole (Decimal.write n ++ rest) = some (Decimal.write n, rest) := by
  by_cases hn : n = 0
  · subst hn
    have hw : Decimal.write 0 = ['0'] := by
      rw [Decimal.write]
      rfl
    rw [hw]
    rfl
  · have hh := Decimal.head?_write hn
    have hs := someDigits_append (Decimal.digits_write n) (Decimal.write_ne_nil n) hr
    cases hw : Decimal.write n with
    | nil => exact absurd hw (Decimal.write_ne_nil n)
    | cons d ds =>
      rw [hw] at hh hs
      have hd : d ≠ '0' := by simpa using hh
      rw [List.cons_append, whole]
      · exact hs
      · rintro rest' ⟨⟩
        exact hd rfl

theorem numeral_write (n : Nat) {rest : List Char} (hr : rest.head? = some ',' ∨ rest.head? = some '\n') :
    numeral (Decimal.write n ++ rest) = some (Decimal.write n, rest) := by
  obtain ⟨hd, hf, he⟩ := ends_number hr
  have hw := whole_write n hd
  have hdigits := Decimal.digits_write n
  unfold numeral
  cases hs : Decimal.write n with
  | nil => exact absurd hs (Decimal.write_ne_nil n)
  | cons d ds =>
    rw [hs] at hw hdigits
    have hdigit := hdigits d (List.mem_cons_self ..)
    rw [List.cons_append] at hw ⊢
    split
    rename_i sign cs hsign
    split at hsign
    · rename_i he
      cases he
      cases hdigit
    · cases hsign
      simp [hw, hf, he]

theorem reads_number (n : Nat) : Reads (Decimal.write n) (.number (Decimal.write n)) := by
  intro fuel rest hr
  have hn := numeral_write n hr
  have hdigits := Decimal.digits_write n
  cases hs : Decimal.write n with
  | nil => exact absurd hs (Decimal.write_ne_nil n)
  | cons d ds =>
    rw [hs, List.cons_append] at hn
    rw [hs] at hdigits
    have hdigit := hdigits d (List.mem_cons_self ..)
    have hgap := isGap_digit hdigit
    have hskip : skipGaps (' ' :: (d :: ds ++ rest)) = d :: (ds ++ rest) := by
      rw [skipGaps_space]
      simp [skipGaps, hgap]
    have hne : ∀ c cs, Decimal.isDigit c = false → d :: (ds ++ rest) ≠ c :: cs := by
      rintro c cs hc ⟨⟩
      rw [hc] at hdigit
      cases hdigit
    -- every other kind of value begins with what is no digit
    rw [valueFrom, hskip]
    split
    · rename_i he
      exact absurd he (hne 'n' _ (by decide))
    · rename_i he
      exact absurd he (hne 't' _ (by decide))
    · rename_i he
      exact absurd he (hne 'f' _ (by decide))
    · rename_i he
      exact absurd he (hne '"' _ (by decide))
    · rename_i he
      exact absurd he (hne '[' _ (by decide))
    · rename_i he
      exact absurd he (hne '\x7b' _ (by decide))
    · simp [hn]

theorem membersFrom_comma {text cs more : List Char} {name : String} {j : Json} (h : Reads cs j)
    (ht : skipGaps text = quoted name.toList ++ ':' :: ' ' :: (cs ++ ',' :: more)) (fuel : Nat) :
    membersFrom paired (fuel + 2) text =
      (membersFrom paired (fuel + 1) more).map fun r => ((some name.toList, j) :: r.1, r.2) := by
  obtain ⟨us, hu, hp⟩ := units_quoted name.toList (':' :: ' ' :: (cs ++ ',' :: more))
  have hs : skipGaps text = '"' :: (name.toList.flatMap escaped ++ '"' :: ':' :: ' ' :: (cs ++ ',' :: more)) := by
    rw [ht]
    simp [quoted]
  have hcolon : skipGaps (':' :: ' ' :: (cs ++ ',' :: more)) = ':' :: ' ' :: (cs ++ ',' :: more) := rfl
  have hcomma : skipGaps (',' :: more) = ',' :: more := rfl
  have hv := h fuel (',' :: more) (.inl rfl)
  rw [membersFrom, hs]
  simp only [hu, Option.bind_eq_bind, Option.bind_some, hcolon, hv, hcomma, hp]
  cases membersFrom paired (fuel + 1) more <;> rfl

theorem membersFrom_last {text cs after : List Char} {name : String} {j : Json} (h : Reads cs j)
    (ht : skipGaps text = quoted name.toList ++ ':' :: ' ' :: (cs ++ '\n' :: '\x7d' :: after)) (fuel : Nat) :
    membersFrom paired (fuel + 2) text = some ([(some name.toList, j)], after) := by
  obtain ⟨us, hu, hp⟩ := units_quoted name.toList (':' :: ' ' :: (cs ++ '\n' :: '\x7d' :: after))
  have hs : skipGaps text =
      '"' :: (name.toList.flatMap escaped ++ '"' :: ':' :: ' ' :: (cs ++ '\n' :: '\x7d' :: after)) := by
    rw [ht]
    simp [quoted]
  have hcolon : skipGaps (':' :: ' ' :: (cs ++ '\n' :: '\x7d' :: after)) =
      ':' :: ' ' :: (cs ++ '\n' :: '\x7d' :: after) := rfl
  have hbrace : skipGaps ('\n' :: '\x7d' :: after) = '\x7d' :: after := rfl
  have hv := h fuel ('\n' :: '\x7d' :: after) (.inr rfl)
  rw [membersFrom, hs]
  simp only [hu, Option.bind_eq_bind, Option.bind_some, hcolon, hv, hbrace, hp]
  rfl

theorem valueFrom_object {text cs : List Char} (h : skipGaps text = '"' :: cs) (fuel : Nat) :
    valueFrom paired (fuel + 1) ('\x7b' :: text) =
      (membersFrom paired fuel ('"' :: cs)).map fun r => (.object r.1, r.2) := by
  have hb : skipGaps ('\x7b' :: text) = '\x7b' :: text := rfl
  rw [valueFrom, hb]
  simp only [h]
  split
  · rename_i he
    cases he
  · cases membersFrom paired fuel ('"' :: cs) <;> rfl

end Json

namespace Utf8

theorem fromUTF8?_eq_some {data : ByteArray} {text : String} : String.fromUTF8? data = some text ↔ text.toUTF8 = data := by
  unfold String.fromUTF8?
  constructor
  · intro h
    split at h
    · cases h
      rfl
    · cases h
  · rintro rfl
    have hvalid : text.toUTF8.IsValidUTF8 := text.isValidUTF8
    rw [dif_pos hvalid]
    rfl

theorem fromUTF8?_eq_none {data : ByteArray} : String.fromUTF8? data = none ↔ ∀ text : String, text.toUTF8 ≠ data := by
  rw [Option.eq_none_iff_forall_ne_some]
  exact forall_congr' fun text => not_congr fromUTF8?_eq_some

end Utf8

namespace Record

def optionJson {α : Type} (f : α → Json) : Option α → Json
  | none => .null
  | some a => f a

theorem reads_option {α : Type} {f : α → List Char} {g : α → Json} (h : ∀ a, Json.Reads (f a) (g a)) (o : Option α) :
    Json.Reads (writeOption f o) (optionJson g o) := by
  cases o with
  | none => exact Json.reads_null
  | some a => exact h a

theorem optional?_optionJson {α β : Type} {f : α → Json} {g : Json → Option β} {b : α → β} (h : ∀ a, g (f a) = some (b a))
    (hn : ∀ a, f a ≠ .null) (o : Option α) : (optionJson f o).optional? g = some (o.map b) := by
  cases o with
  | none => rfl
  | some a =>
    have ha := h a
    have hna := hn a
    simp only [optionJson]
    cases hf : f a <;> simp_all [Json.optional?]

def json (r : Record) : Json := .object
  [(some "lastCheck".toList, optionJson (fun t : Instant => .string (some t.write)) r.lastCheck),
   (some "releaseId".toList, optionJson (fun n : UInt64 => .number (Decimal.write n.toNat)) r.releaseId),
   (some "serverVersion".toList, optionJson (fun v : String => .string (some v.toList)) r.serverVersion)]

theorem json_read?_write (r : Record) : Json.read? r.write = some r.json := by
  obtain ⟨lastCheck, releaseId, serverVersion⟩ := r
  have h₁ := reads_option (fun t : Instant => Json.reads_quoted t.write) lastCheck
  have h₂ := reads_option (fun n : UInt64 => Json.reads_number n.toNat) releaseId
  have h₃ := reads_option (fun v : String => Json.reads_quoted v.toList) serverVersion
  generalize hv₁ : writeOption (fun t : Instant => Json.quoted t.write) lastCheck = v₁ at h₁
  generalize hv₂ : writeOption (fun n : UInt64 => Decimal.write n.toNat) releaseId = v₂ at h₂
  generalize hv₃ : writeOption (fun v : String => Json.quoted v.toList) serverVersion = v₃ at h₃
  have hlong : 3 ≤ (write ⟨lastCheck, releaseId, serverVersion⟩).length := by
    simp [write, writeMember]
  obtain ⟨fuel, hfuel⟩ : ∃ fuel, 2 * (write ⟨lastCheck, releaseId, serverVersion⟩).length + 2 = fuel + 5 :=
    ⟨2 * (write ⟨lastCheck, releaseId, serverVersion⟩).length - 3, by omega⟩
  -- the text of each member and what follows it, blanks in front left out
  let text₃ := Json.quoted "serverVersion".toList ++ ':' :: ' ' :: (v₃ ++ ['\n', '\x7d'])
  let text₂ := Json.quoted "releaseId".toList ++ ':' :: ' ' :: (v₂ ++ ',' :: '\n' :: ' ' :: ' ' :: text₃)
  let text₁ := Json.quoted "lastCheck".toList ++ ':' :: ' ' :: (v₁ ++ ',' :: '\n' :: ' ' :: ' ' :: text₂)
  have hwrite : write ⟨lastCheck, releaseId, serverVersion⟩ = '\x7b' :: '\n' :: ' ' :: ' ' :: text₁ := by
    simp [write, writeMember, hv₁, hv₂, hv₃, text₁, text₂, text₃]
  let j₁ := optionJson (fun t : Instant => .string (some t.write)) lastCheck
  let j₂ := optionJson (fun n : UInt64 => .number (Decimal.write n.toNat)) releaseId
  let j₃ := optionJson (fun v : String => .string (some v.toList)) serverVersion
  have hm₃ : Json.membersFrom Json.paired (fuel + 2) ('\n' :: ' ' :: ' ' :: text₃) =
      some ([(some "serverVersion".toList, j₃)], []) := Json.membersFrom_last h₃ rfl fuel
  have hm₂ : Json.membersFrom Json.paired (fuel + 3) ('\n' :: ' ' :: ' ' :: text₂) =
      some ([(some "releaseId".toList, j₂), (some "serverVersion".toList, j₃)], []) := by
    rw [Json.membersFrom_comma h₂ rfl (fuel + 1), hm₃]
    rfl
  have hm₁ : Json.membersFrom Json.paired (fuel + 4) text₁ =
      some ([(some "lastCheck".toList, j₁), (some "releaseId".toList, j₂), (some "serverVersion".toList, j₃)], []) := by
    rw [Json.membersFrom_comma h₁ rfl (fuel + 2), hm₂]
    rfl
  have hv : Json.valueFrom Json.paired (fuel + 5) ('\x7b' :: '\n' :: ' ' :: ' ' :: text₁) =
      (Json.membersFrom Json.paired (fuel + 4) text₁).map fun r => (.object r.1, r.2) :=
    Json.valueFrom_object rfl (fuel + 4)
  unfold Json.read? Json.wholeFrom?
  rw [hfuel, hwrite, hv, hm₁]
  rfl

theorem ofJson?_json (r : Record) : ofJson? r.json = some r := by
  obtain ⟨lastCheck, releaseId, serverVersion⟩ := r
  have h₁ : member? instant? (some (optionJson (fun t : Instant => .string (some t.write)) lastCheck)) = some lastCheck := by
    refine (optional?_optionJson (b := id) (fun t => ?_) (fun t => by simp) lastCheck).trans (by simp)
    simp [instant?, Json.text?, Instant.ofText?, Instant.read?_write]
  have h₂ : member? Json.word? (some (optionJson (fun n : UInt64 => .number (Decimal.write n.toNat)) releaseId)) =
      some releaseId := by
    refine (optional?_optionJson (b := id) (fun n => ?_) (fun n => by simp) releaseId).trans (by simp)
    have hall : (Decimal.write n.toNat).all Decimal.isDigit = true := List.all_eq_true.mpr (Decimal.digits_write _)
    have hlt := n.toNat_lt
    simp [Json.word?, Decimal.write_ne_nil, hall, Decimal.value_write, hlt]
  have h₃ : member? Json.text? (some (optionJson (fun v : String => .string (some v.toList)) serverVersion)) =
      some serverVersion := by
    refine (optional?_optionJson (b := id) (fun v => ?_) (fun v => by simp) serverVersion).trans (by simp)
    simp [Json.text?]
  have hm : (json ⟨lastCheck, releaseId, serverVersion⟩).members? names =
      some [some (optionJson (fun t : Instant => .string (some t.write)) lastCheck),
        some (optionJson (fun n : UInt64 => .number (Decimal.write n.toNat)) releaseId),
        some (optionJson (fun v : String => .string (some v.toList)) serverVersion)] := rfl
  rw [ofJson?, hm]
  simp only [Option.bind_eq_bind, Option.bind_some, h₁, h₂, h₃]
  rfl

theorem read?_write (r : Record) : read? r.write = some r := by
  rw [read?, json_read?_write]
  exact ofJson?_json r

theorem fromUTF8?_text (r : Record) : String.fromUTF8? r.text.toUTF8 = some r.text := Utf8.fromUTF8?_eq_some.mpr rfl

/-- The bytes that are written for a record are text, the text is an object with the three members, and
reading it gives the record again. -/
theorem read_back_written (r : Record) :
    Json.read? r.text.toList = some r.json ∧
      (String.fromUTF8? r.text.toUTF8).bind (fun text => read? text.toList) = some r := by
  have ht : r.text.toList = r.write := by simp [text]
  constructor
  · rw [ht, json_read?_write]
  · rw [fromUTF8?_text, Option.bind_some, ht, read?_write]

end Record

end Provision
