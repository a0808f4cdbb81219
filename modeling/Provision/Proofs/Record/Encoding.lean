import Provision.Proofs.Json.Reader

set_option autoImplicit false

namespace Provision

namespace Json

variable {ms : List (Option (List Char) × Json)} {name : String} {v : Option Json}

/-- The value of the member with a name in an object that has it once at most. -/
inductive Given (ms : List (Option (List Char) × Json)) (name : String) : Option Json → Prop where
  | missing (h : ∀ m ∈ ms, m.1 ≠ some name.toList) : Given ms name none
  | once {before after : List (Option (List Char) × Json)} {j : Json} (h : ms = before ++ (some name.toList, j) :: after)
      (others : ∀ m ∈ before ++ after, m.1 ≠ some name.toList) : Given ms name (some j)

theorem given_iff : Given ms name v ↔ (ms.filter fun m => m.1 = some name.toList).length ≤ 1 ∧
    ((ms.filter fun m => m.1 = some name.toList).head?).map (·.2) = v := by
  constructor
  · rintro (h | ⟨rfl, others⟩)
    · have hnone : ms.filter (fun m => m.1 = some name.toList) = [] := by simpa [List.filter_eq_nil_iff] using h
      simp [hnone]
    · rename_i before after j
      have hbefore : before.filter (fun m => m.1 = some name.toList) = [] := by
        simpa [List.filter_eq_nil_iff] using fun m hm => others m (List.mem_append_left _ hm)
      have hafter : after.filter (fun m => m.1 = some name.toList) = [] := by
        simpa [List.filter_eq_nil_iff] using fun m hm => others m (List.mem_append_right _ hm)
      simp [List.filter_append, hbefore, hafter]
  · rintro ⟨hfew, rfl⟩
    cases hf : ms.filter (fun m => m.1 = some name.toList) with
    | nil =>
      refine .missing fun m hm he => ?_
      have hmem : m ∈ ms.filter fun m => m.1 = some name.toList := List.mem_filter.mpr ⟨hm, by simpa using he⟩
      rw [hf] at hmem
      cases hmem
    | cons m more =>
      obtain rfl : more = [] := by
        rw [hf] at hfew
        simpa using hfew
      obtain ⟨before, after, rfl, hbefore, hm, hafter⟩ := List.filter_eq_cons_iff.mp hf
      obtain ⟨key, j⟩ := m
      obtain rfl : key = some name.toList := by simpa using hm
      refine .once rfl fun m hm he => ?_
      obtain hm | hm := List.mem_append.mp hm
      · exact hbefore m hm (by simpa using he)
      · exact List.filter_eq_nil_iff.mp hafter m hm (by simpa using he)

/-- What is told by a value that may be missing or `null`. -/
inductive Optional {α : Type} (means : Json → α → Prop) : Option Json → Option α → Prop where
  | missing : Optional means none none
  | null : Optional means (some .null) none
  | value {j : Json} {a : α} (h : means j a) : Optional means (some j) (some a)

def MeansWord (j : Json) (n : UInt64) : Prop := ∃ cs, j = .number cs ∧ Figures cs ∧ Decimal.value cs = n.toNat

def MeansText (j : Json) (s : String) : Prop := j = .string (some s.toList)

theorem text?_eq_some {j : Json} {s : String} : j.text? = some s ↔ MeansText j s := by
  unfold text? MeansText
  split
  · rename_i cs
    simp only [Option.some.injEq, string.injEq]
    constructor
    · rintro rfl
      simp
    · rintro rfl
      simp
  · rename_i h
    refine ⟨nofun, ?_⟩
    rintro rfl
    exact absurd rfl (h _)

theorem word?_eq_some {j : Json} {n : UInt64} : j.word? = some n ↔ MeansWord j n := by
  unfold word? MeansWord
  split
  · rename_i cs
    constructor
    · intro h
      split at h
      · rename_i hcs
        cases h
        simp only [Bool.and_eq_true, decide_eq_true_eq, List.all_eq_true] at hcs
        obtain ⟨⟨hne, hdigits⟩, hlt⟩ := hcs
        exact ⟨cs, rfl, ⟨hdigits, hne⟩, by simp [Nat.mod_eq_of_lt hlt]⟩
      · cases h
    · rintro ⟨_, ⟨⟩, hcs, hvalue⟩
      have hall : cs.all Decimal.isDigit = true := List.all_eq_true.mpr hcs.digits
      simp [hcs.nonempty, hall, hvalue, n.toNat_lt]
  · rename_i h
    refine ⟨nofun, ?_⟩
    rintro ⟨cs, rfl, -⟩
    exact absurd rfl (h _)

end Json

namespace Record

open Json (Given Optional MeansWord MeansText)

def MeansInstant (j : Json) (t : Instant) : Prop := ∃ cs, j = .string (some cs) ∧ Instant.read? cs = some t

theorem instant?_eq_some {j : Json} {t : Instant} : instant? j = some t ↔ MeansInstant j t := by
  simp only [instant?, Option.bind_eq_bind, Option.bind_eq_some_iff, Json.text?_eq_some, MeansText, MeansInstant,
    Instant.ofText?]
  constructor
  · rintro ⟨s, rfl, h⟩
    exact ⟨s.toList, rfl, h⟩
  · rintro ⟨cs, rfl, h⟩
    exact ⟨String.ofList cs, by simp, by simpa using h⟩

/-- The members of a record, each of which may be missing or `null`. -/
structure Fits (lastCheck releaseId serverVersion : Option Json) (r : Record) : Prop where
  lastCheck : Optional MeansInstant lastCheck r.lastCheck
  releaseId : Optional MeansWord releaseId r.releaseId
  serverVersion : Optional MeansText serverVersion r.serverVersion

inductive Shown : Json → Record → Prop where
  | object {ms : List (Option (List Char) × Json)} {a b c : Option Json} {r : Record} (texts : ∀ m ∈ ms, m.1 ≠ none)
      (lastCheck : Given ms "lastCheck" a) (releaseId : Given ms "releaseId" b) (serverVersion : Given ms "serverVersion" c)
      (h : Fits a b c r) : Shown (.object ms) r
  | array {items : List Json} {r : Record} (few : items.length ≤ 3) (h : Fits items[0]? items[1]? items[2]? r) :
      Shown (.array items) r

def Encodes (cs : List Char) (r : Record) : Prop := ∃ j, Json.Element Json.paired j cs ∧ Shown j r

theorem member?_eq_some {α : Type} {f : Json → Option α} {means : Json → α → Prop} (hf : ∀ {j a}, f j = some a ↔ means j a)
    (hnull : ∀ a, ¬ means .null a) {v : Option Json} {o : Option α} : member? f v = some o ↔ Optional means v o := by
  cases v with
  | none =>
    simp only [member?, Option.some.injEq]
    constructor
    · rintro rfl
      exact .missing
    · rintro ⟨⟩
      rfl
  | some j =>
    by_cases hj : j = .null
    · subst hj
      simp only [member?, Json.optional?, Option.some.injEq]
      constructor
      · rintro rfl
        exact .null
      · rintro (_ | _ | h)
        · rfl
        · exact absurd h (hnull _)
    · have ho : j.optional? f = (f j).map some := by cases j <;> first | rfl | exact absurd rfl hj
      simp only [member?, ho, Option.map_eq_some_iff, hf]
      constructor
      · rintro ⟨a, h, rfl⟩
        exact .value h
      · rintro (_ | _ | h)
        · exact absurd rfl hj
        · exact ⟨_, h, rfl⟩

theorem fits_iff {a b c : Option Json} {r : Record} : Fits a b c r ↔
    member? instant? a = some r.lastCheck ∧ member? Json.word? b = some r.releaseId ∧
      member? Json.text? c = some r.serverVersion := by
  rw [member?_eq_some instant?_eq_some (by rintro t ⟨cs, ⟨⟩, -⟩), member?_eq_some Json.word?_eq_some (by rintro n ⟨cs, ⟨⟩, -⟩),
    member?_eq_some Json.text?_eq_some (by rintro s ⟨⟩)]
  exact ⟨fun h => ⟨h.1, h.2, h.3⟩, fun ⟨h₁, h₂, h₃⟩ => ⟨h₁, h₂, h₃⟩⟩

theorem ofJson?_eq_some_iff {j : Json} {r : Record} :
    ofJson? j = some r ↔ ∃ a b c, j.members? names = some [a, b, c] ∧ Fits a b c r := by
  simp only [ofJson?, Option.bind_eq_bind, Option.bind_eq_some_iff, fits_iff]
  constructor
  · rintro ⟨vs, hvs, h⟩
    split at h
    · simp only [Option.bind_eq_some_iff, Option.pure_def, Option.some.injEq] at h
      obtain ⟨x, hx, y, hy, z, hz, rfl⟩ := h
      exact ⟨_, _, _, hvs, hx, hy, hz⟩
    · cases h
  · rintro ⟨a, b, c, hvs, hx, hy, hz⟩
    exact ⟨_, hvs, by simp [hx, hy, hz]⟩

theorem members?_object {ms : List (Option (List Char) × Json)} {a b c : Option Json} :
    (Json.object ms).members? names = some [a, b, c] ↔
      (∀ m ∈ ms, m.1 ≠ none) ∧ Given ms "lastCheck" a ∧ Given ms "releaseId" b ∧ Given ms "serverVersion" c := by
  have htexts : ms.any (fun m => m.1.isNone) = true ↔ ¬ ∀ m ∈ ms, m.1 ≠ none := by simp
  have hnames : ∀ p : String → Bool,
      names.any p = true ↔ p "lastCheck" = true ∨ p "releaseId" = true ∨ p "serverVersion" = true := by
    simp [names]
  rw [Json.given_iff, Json.given_iff, Json.given_iff]
  simp only [Json.members?, htexts, hnames, decide_eq_true_eq]
  split
  · rename_i h
    exact ⟨nofun, fun h' => absurd h'.1 h⟩
  · rename_i h
    split
    · rename_i hmany
      refine ⟨nofun, fun h' => ?_⟩
      omega
    · rename_i hfew
      simp only [names, List.map_cons, List.map_nil, Option.some.injEq, List.cons.injEq, and_true]
      constructor
      · rintro ⟨ha, hb, hc⟩
        exact ⟨Classical.not_not.mp h, ⟨by omega, ha⟩, ⟨by omega, hb⟩, by omega, hc⟩
      · rintro ⟨-, ⟨-, ha⟩, ⟨-, hb⟩, -, hc⟩
        exact ⟨ha, hb, hc⟩

theorem members?_array {items : List Json} {a b c : Option Json} :
    (Json.array items).members? names = some [a, b, c] ↔
      items.length ≤ 3 ∧ a = items[0]? ∧ b = items[1]? ∧ c = items[2]? := by
  have hlength : names.length = 3 := rfl
  simp only [Json.members?, hlength]
  match items with
  | [] => simp [eq_comm]
  | [_] => simp [eq_comm]
  | [_, _] => simp [eq_comm]
  | [_, _, _] => simp [eq_comm]
  | _ :: _ :: _ :: _ :: _ => simp

theorem ofJson?_eq_some {j : Json} {r : Record} : ofJson? j = some r ↔ Shown j r := by
  rw [ofJson?_eq_some_iff]
  constructor
  · rintro ⟨a, b, c, hm, hfits⟩
    cases j with
    | object ms =>
      obtain ⟨htexts, ha, hb, hc⟩ := members?_object.mp hm
      exact .object htexts ha hb hc hfits
    | array items =>
      obtain ⟨hfew, rfl, rfl, rfl⟩ := members?_array.mp hm
      exact .array hfew hfits
    | _ => cases hm
  · rintro (⟨htexts, ha, hb, hc, hfits⟩ | ⟨hfew, hfits⟩)
    · exact ⟨_, _, _, members?_object.mpr ⟨htexts, ha, hb, hc⟩, hfits⟩
    · exact ⟨_, _, _, members?_array.mpr ⟨hfew, rfl, rfl, rfl⟩, hfits⟩

theorem read?_eq_some {cs : List Char} {r : Record} : read? cs = some r ↔ Encodes cs r := by
  simp only [read?, Option.bind_eq_bind, Option.bind_eq_some_iff, Json.read?, Json.wholeFrom?_eq_some, ofJson?_eq_some, Encodes]

theorem Encodes.unique {cs : List Char} {r r' : Record} (h : Encodes cs r) (h' : Encodes cs r') : r = r' :=
  Option.some.inj ((read?_eq_some.mpr h).symm.trans (read?_eq_some.mpr h'))

end Record

end Provision
