import Provision.Proofs.Json.Grammar

set_option autoImplicit false

namespace Provision.Json

variable {text : List Unit16 → Option (List Char)} {fuel : Nat} {g g' w cs rest : List Char} {j : Json} {js : List Json}
  {m : Option (List Char) × Json} {ms : List (Option (List Char) × Json)}

theorem Gap.append (h : Gap g) (h' : Gap g') : Gap (g ++ g') := by
  intro c hc
  obtain hc | hc := List.mem_append.mp hc
  · exact h c hc
  · exact h' c hc

section Sound

/-! Blanks in front of a part belong to it. -/

theorem Element.indent (h : Element text j w) (hg : Gap g) : Element text j (g ++ w) := by
  obtain ⟨hg₁, hw, hg₂⟩ := h
  have hpart := Element.mk (hg.append hg₁) hw hg₂
  simpa using hpart

theorem Elements.indent (h : Elements text js w) (hg : Gap g) : Elements text js (g ++ w) := by
  cases h with
  | one h => exact .one (h.indent hg)
  | more h rest =>
    have hparts := Elements.more (h.indent hg) rest
    simpa using hparts

theorem Member.indent (h : Member text m w) (hg : Gap g) : Member text m (g ++ w) := by
  obtain ⟨hg₁, hn, hg₂, hw⟩ := h
  have hpart := Member.mk (hg.append hg₁) hn hg₂ hw
  simpa using hpart

theorem Members.indent (h : Members text ms w) (hg : Gap g) : Members text ms (g ++ w) := by
  cases h with
  | one h => exact .one (h.indent hg)
  | more h rest =>
    have hparts := Members.more (h.indent hg) rest
    simpa using hparts

/-- What is read with so much fuel is well-formed. -/
structure Sound (text : List Unit16 → Option (List Char)) (fuel : Nat) : Prop where
  value : ∀ {cs j rest}, valueFrom text fuel cs = some (j, rest) → ∃ w, Value text j w ∧ skipGaps cs = w ++ rest
  elements : ∀ {cs js rest}, itemsFrom text fuel cs = some (js, rest) → ∃ w, Elements text js w ∧ cs = w ++ ']' :: rest
  members : ∀ {cs ms rest}, membersFrom text fuel cs = some (ms, rest) → ∃ w, Members text ms w ∧ cs = w ++ '\x7d' :: rest

namespace Sound

theorem element (h : Sound text fuel) (hv : valueFrom text fuel cs = some (j, rest)) :
    ∃ w, Element text j w ∧ cs = w ++ skipGaps rest := by
  obtain ⟨w, hw, he⟩ := h.value hv
  obtain ⟨g, hg, hcs⟩ := exists_gap cs
  obtain ⟨g', hg', hrest⟩ := exists_gap rest
  refine ⟨g ++ w ++ g', .mk hg hw hg', ?_⟩
  rw [hcs, he, List.append_assoc, List.append_assoc, ← hrest]

theorem array (h : Sound text fuel) (hi : itemsFrom text fuel (skipGaps cs) = some (js, rest)) :
    ∃ w, Value text (.array js) w ∧ '[' :: cs = w ++ rest := by
  obtain ⟨w, hw, he⟩ := h.elements hi
  obtain ⟨g, hg, hcs⟩ := exists_gap cs
  exact ⟨_, .array (hw.indent hg), by rw [hcs, he]; simp⟩

theorem object (h : Sound text fuel) (hi : membersFrom text fuel (skipGaps cs) = some (ms, rest)) :
    ∃ w, Value text (.object ms) w ∧ '\x7b' :: cs = w ++ rest := by
  obtain ⟨w, hw, he⟩ := h.members hi
  obtain ⟨g, hg, hcs⟩ := exists_gap cs
  exact ⟨_, .object (hw.indent hg), by rw [hcs, he]; simp⟩

theorem value_succ (h : Sound text fuel) (hv : valueFrom text (fuel + 1) cs = some (j, rest)) :
    ∃ w, Value text j w ∧ skipGaps cs = w ++ rest := by
  -- one case for each mark that a value can begin with
  rw [valueFrom] at hv
  split at hv
  · rename_i he
    cases hv
    exact ⟨_, .null, he⟩
  · rename_i he
    cases hv
    exact ⟨_, .yes, he⟩
  · rename_i he
    cases hv
    exact ⟨_, .no, he⟩
  · rename_i he
    simp only [Option.bind_eq_bind, Option.bind_eq_some_iff, Prod.exists, Option.pure_def, Option.some.injEq,
      Prod.mk.injEq] at hv
    obtain ⟨us, after, hu, rfl, rfl⟩ := hv
    obtain ⟨w, hw, rfl⟩ := units_sound hu
    exact ⟨_, .string hw, by rw [he]; simp⟩
  · rename_i body he
    split at hv
    · rename_i after hclose
      cases hv
      obtain ⟨g, hg, hbody⟩ := exists_gap body
      exact ⟨_, .emptyArray hg, by rw [he, hbody, hclose]; simp⟩
    · simp only [Option.bind_eq_bind, Option.bind_eq_some_iff, Prod.exists, Option.pure_def, Option.some.injEq,
        Prod.mk.injEq] at hv
      obtain ⟨js, after, hi, rfl, rfl⟩ := hv
      rw [he]
      exact h.array hi
  · rename_i body he
    split at hv
    · rename_i after hclose
      cases hv
      obtain ⟨g, hg, hbody⟩ := exists_gap body
      exact ⟨_, .emptyObject hg, by rw [he, hbody, hclose]; simp⟩
    · simp only [Option.bind_eq_bind, Option.bind_eq_some_iff, Prod.exists, Option.pure_def, Option.some.injEq,
        Prod.mk.injEq] at hv
      obtain ⟨ms, after, hi, rfl, rfl⟩ := hv
      rw [he]
      exact h.object hi
  · simp only [Option.bind_eq_bind, Option.bind_eq_some_iff, Prod.exists, Option.pure_def, Option.some.injEq,
      Prod.mk.injEq] at hv
    obtain ⟨n, after, hn, rfl, rfl⟩ := hv
    obtain ⟨hn', he⟩ := numeral_sound hn
    exact ⟨_, .number hn', he⟩

theorem elements_succ (h : Sound text fuel) (hi : itemsFrom text (fuel + 1) cs = some (js, rest)) :
    ∃ w, Elements text js w ∧ cs = w ++ ']' :: rest := by
  simp only [itemsFrom, Option.bind_eq_bind, Option.bind_eq_some_iff, Prod.exists] at hi
  obtain ⟨j, more, hv, hi⟩ := hi
  obtain ⟨w, hw, rfl⟩ := h.element hv
  split at hi
  · rename_i hclose
    cases hi
    exact ⟨w, .one hw, by rw [hclose]⟩
  · rename_i hcomma
    simp only [Option.bind_eq_some_iff, Prod.exists, Option.pure_def, Option.some.injEq, Prod.mk.injEq] at hi
    obtain ⟨js, after, hi, rfl, rfl⟩ := hi
    obtain ⟨w', hw', rfl⟩ := h.elements hi
    exact ⟨_, .more hw hw', by rw [hcomma]; simp⟩
  · cases hi

theorem members_succ (h : Sound text fuel) (hi : membersFrom text (fuel + 1) cs = some (ms, rest)) :
    ∃ w, Members text ms w ∧ cs = w ++ '\x7d' :: rest := by
  obtain ⟨g, hg, hcs⟩ := exists_gap cs
  rw [membersFrom] at hi
  split at hi
  · rename_i hquote
    simp only [Option.bind_eq_bind, Option.bind_eq_some_iff, Prod.exists] at hi
    obtain ⟨us, behind, hu, hi⟩ := hi
    obtain ⟨n, hn, rfl⟩ := units_sound hu
    obtain ⟨g', hg', hbehind⟩ := exists_gap behind
    split at hi
    · rename_i hcolon
      simp only [Option.bind_eq_some_iff, Prod.exists] at hi
      obtain ⟨j, more, hv, hi⟩ := hi
      obtain ⟨w, hw, rfl⟩ := h.element hv
      have hm := Member.mk hg hn hg' hw
      split at hi
      · rename_i hclose
        cases hi
        exact ⟨_, .one hm, by rw [hcs, hquote, hbehind, hcolon, hclose]; simp⟩
      · rename_i hcomma
        simp only [Option.bind_eq_some_iff, Prod.exists, Option.pure_def, Option.some.injEq, Prod.mk.injEq] at hi
        obtain ⟨ms, after, hi, rfl, rfl⟩ := hi
        obtain ⟨w', hw', rfl⟩ := h.members hi
        exact ⟨_, .more hm hw', by rw [hcs, hquote, hbehind, hcolon, hcomma]; simp⟩
      · cases hi
    · cases hi
  · cases hi

theorem holds (text : List Unit16 → Option (List Char)) (fuel : Nat) : Sound text fuel := by
  induction fuel with
  | zero => exact ⟨nofun, nofun, nofun⟩
  | succ fuel ih => exact ⟨ih.value_succ, ih.elements_succ, ih.members_succ⟩

end Sound

end Sound

section Complete

structure Stops (cs : List Char) : Prop where
  flush : Flush cs
  closed : Closed cs

theorem stops_mark (c : Char) (hc : c ∈ [',', ']', '\x7d']) (cs : List Char) : Stops (c :: cs) := by
  simp only [List.mem_cons, List.not_mem_nil, or_false] at hc
  constructor
  · rintro d ⟨⟩
    obtain rfl | rfl | rfl := hc <;> rfl
  · rintro d ⟨⟩
    obtain rfl | rfl | rfl := hc <;> decide

theorem stops_nil : Stops [] := ⟨nofun, nofun⟩

theorem Stops.behind (h : Stops rest) (hg : Gap g) : Closed (g ++ rest) := by
  cases g with
  | nil => exact h.closed
  | cons c g =>
    rintro d ⟨⟩
    have hc := hg c (List.mem_cons_self ..)
    refine ⟨?_, ?_, ?_, ?_⟩
    · cases hd : Decimal.isDigit c with
      | false => rfl
      | true =>
        rw [isGap_digit hd] at hc
        cases hc
    all_goals
      rintro rfl
      cases hc

theorem Value.head (h : Value text j w) : ∃ c cs, w = c :: cs ∧ isGap c = false ∧ c ≠ ']' := by
  cases h with
  | number h =>
    obtain ⟨c, ds, rfl, rfl | hc⟩ := h.head
    · exact ⟨'-', ds, rfl, rfl, by decide⟩
    · refine ⟨c, ds, rfl, isGap_digit hc, ?_⟩
      rintro rfl
      cases hc
  | null => exact ⟨_, _, rfl, rfl, by decide⟩
  | yes => exact ⟨_, _, rfl, rfl, by decide⟩
  | no => exact ⟨_, _, rfl, rfl, by decide⟩
  | _ => exact ⟨_, _, rfl, rfl, by decide⟩

theorem Elements.head (h : Elements text js w) (cs : List Char) : ∀ more, skipGaps (w ++ cs) ≠ ']' :: more := by
  have helement : ∀ {j w cs}, Element text j w → ∀ more, skipGaps (w ++ cs) ≠ ']' :: more := by
    rintro j w cs ⟨hg, hw, hg'⟩ more he
    obtain ⟨c, ds, rfl, hc, hne⟩ := hw.head
    rw [List.append_assoc, List.append_assoc, skipGaps_append hg, List.cons_append, skipGaps,
      List.dropWhile_cons_of_neg (by simp [hc])] at he
    cases he
    exact hne rfl
  cases h with
  | one h => exact helement h
  | more h rest =>
    rw [List.append_assoc]
    exact helement h

theorem Member.begins (h : Member text m w) (cs : List Char) : ∃ more, skipGaps (w ++ cs) = '"' :: more := by
  obtain ⟨hg, hn, hg', hw⟩ := h
  simp only [List.append_assoc]
  rw [skipGaps_append hg]
  exact ⟨_, rfl⟩

theorem Members.begins (h : Members text ms w) (cs : List Char) : ∃ more, skipGaps (w ++ cs) = '"' :: more := by
  cases h with
  | one h => exact h.begins cs
  | more h rest =>
    rw [List.append_assoc]
    exact h.begins _

/-! Blanks in front make no difference to the reader. -/

theorem skipGaps_skipGaps (cs : List Char) : skipGaps (skipGaps cs) = skipGaps cs := (flush_skipGaps cs).skipGaps

theorem valueFrom_skipGaps (text : List Unit16 → Option (List Char)) (fuel : Nat) (cs : List Char) :
    valueFrom text fuel (skipGaps cs) = valueFrom text fuel cs := by
  cases fuel with
  | zero => rfl
  | succ fuel => rw [valueFrom, valueFrom, skipGaps_skipGaps]

theorem itemsFrom_skipGaps (text : List Unit16 → Option (List Char)) (fuel : Nat) (cs : List Char) :
    itemsFrom text fuel (skipGaps cs) = itemsFrom text fuel cs := by
  cases fuel with
  | zero => rfl
  | succ fuel => rw [itemsFrom, itemsFrom, valueFrom_skipGaps]

theorem membersFrom_skipGaps (text : List Unit16 → Option (List Char)) (fuel : Nat) (cs : List Char) :
    membersFrom text fuel (skipGaps cs) = membersFrom text fuel cs := by
  cases fuel with
  | zero => rfl
  | succ fuel => rw [membersFrom, membersFrom, skipGaps_skipGaps]

/-- What is well-formed and no longer than half of the fuel is read. -/
structure Complete (text : List Unit16 → Option (List Char)) (fuel : Nat) : Prop where
  value : ∀ {j w rest}, Value text j w → Closed rest → 2 * w.length ≤ fuel → valueFrom text fuel (w ++ rest) = some (j, rest)
  elements : ∀ {js w} (rest), Elements text js w → 2 * w.length < fuel →
    itemsFrom text fuel (w ++ ']' :: rest) = some (js, rest)
  members : ∀ {ms w} (rest), Members text ms w → 2 * w.length < fuel →
    membersFrom text fuel (w ++ '\x7d' :: rest) = some (ms, rest)

namespace Complete

theorem element (h : Complete text fuel) (hw : Element text j w) (hrest : Stops rest) (hlen : 2 * w.length ≤ fuel) :
    ∃ after, valueFrom text fuel (w ++ rest) = some (j, after) ∧ skipGaps after = rest := by
  obtain @⟨_, g, v, g', hg, hv, hg'⟩ := hw
  refine ⟨g' ++ rest, ?_, skipGaps_of_flush hg' hrest.flush⟩
  simp only [List.length_append] at hlen
  rw [List.append_assoc, List.append_assoc, ← valueFrom_skipGaps, skipGaps_append hg, valueFrom_skipGaps]
  exact h.value hv (hrest.behind hg') (by omega)

theorem elements_succ (h : Complete text fuel) (rest : List Char) (hw : Elements text js w) (hlen : 2 * w.length < fuel + 1) :
    itemsFrom text (fuel + 1) (w ++ ']' :: rest) = some (js, rest) := by
  cases hw with
  | one hw =>
    obtain ⟨after, hv, hafter⟩ := h.element hw (stops_mark ']' (by simp) rest) (by omega)
    simp [itemsFrom, hv, hafter]
  | @more j js w cs hw hjs =>
    simp only [List.length_append, List.length_cons] at hlen
    obtain ⟨after, hv, hafter⟩ := h.element hw (stops_mark ',' (by simp) (cs ++ ']' :: rest)) (by omega)
    have hi := h.elements rest hjs (by omega)
    simp [itemsFrom, hv, hafter, hi]

theorem members_first (h : Complete text fuel) (hm : Member text m w) (hrest : Stops rest) (hlen : 2 * w.length ≤ fuel) :
    (∀ after, rest = '\x7d' :: after → membersFrom text (fuel + 1) (w ++ rest) = some ([m], after)) ∧
      ∀ more, rest = ',' :: more → membersFrom text (fuel + 1) (w ++ rest) =
        (membersFrom text fuel more).map fun r => (m :: r.1, r.2) := by
  obtain @⟨us, j, g, n, g', v, hg, hn, hg', hv⟩ := hm
  simp only [List.length_append, List.length_cons] at hlen
  obtain ⟨after, hv, hafter⟩ := h.element hv hrest (by omega)
  have hquote : skipGaps (g ++ '"' :: n ++ '"' :: g' ++ ':' :: v ++ rest) =
      '"' :: (n ++ '"' :: (g' ++ ':' :: (v ++ rest))) := by
    simp only [List.append_assoc, List.cons_append]
    exact skipGaps_of_flush hg (by simp [Flush, isGap])
  have hcolon : skipGaps (g' ++ ':' :: (v ++ rest)) = ':' :: (v ++ rest) := skipGaps_of_flush hg' (by simp [Flush, isGap])
  rw [membersFrom, hquote]
  simp only [units_complete hn, Option.bind_eq_bind, Option.bind_some, hcolon, hv, hafter]
  constructor
  · rintro after rfl
    rfl
  · rintro more rfl
    simp [Option.map_eq_bind]

theorem members_succ (h : Complete text fuel) (rest : List Char) (hw : Members text ms w) (hlen : 2 * w.length < fuel + 1) :
    membersFrom text (fuel + 1) (w ++ '\x7d' :: rest) = some (ms, rest) := by
  cases hw with
  | one hm => exact (h.members_first hm (stops_mark '\x7d' (by simp) rest) (by omega)).1 rest rfl
  | @more m ms w cs hm hms =>
    simp only [List.length_append, List.length_cons] at hlen
    have hfirst := (h.members_first hm (stops_mark ',' (by simp) (cs ++ '\x7d' :: rest)) (by omega)).2 _ rfl
    rw [h.members rest hms (by omega)] at hfirst
    simpa using hfirst

theorem value_succ (h : Complete text fuel) (hw : Value text j w) (hrest : Closed rest) (hlen : 2 * w.length ≤ fuel + 1) :
    valueFrom text (fuel + 1) (w ++ rest) = some (j, rest) := by
  have hflush : skipGaps (w ++ rest) = w ++ rest := by
    obtain ⟨c, cs, rfl, hgap, -⟩ := hw.head
    refine Flush.skipGaps ?_
    rintro d ⟨⟩
    exact hgap
  rw [valueFrom, hflush]
  cases hw with
  | null => rfl
  | yes => rfl
  | no => rfl
  | string hu => simp [units_complete hu]
  | @emptyArray g hg =>
    have hclose : skipGaps (g ++ ']' :: rest) = ']' :: rest := skipGaps_of_flush hg (stops_mark ']' (by simp) rest).flush
    simp [hclose]
  | @array js cs hjs =>
    simp only [List.length_append, List.length_cons, List.length_nil] at hlen
    have hi := h.elements rest hjs (by omega)
    have hopen := hjs.head (']' :: rest)
    simp only [List.cons_append, List.append_assoc, List.nil_append]
    rw [itemsFrom_skipGaps, hi]
    rfl
  | @emptyObject g hg =>
    have hclose : skipGaps (g ++ '\x7d' :: rest) = '\x7d' :: rest :=
      skipGaps_of_flush hg (stops_mark '\x7d' (by simp) rest).flush
    simp [hclose]
  | @object ms cs hms =>
    simp only [List.length_append, List.length_cons, List.length_nil] at hlen
    have hi := h.members rest hms (by omega)
    have hopen : ∀ more, skipGaps (cs ++ '\x7d' :: rest) ≠ '\x7d' :: more := by
      obtain ⟨more, hquote⟩ := hms.begins ('\x7d' :: rest)
      rw [hquote]
      simp
    simp only [List.cons_append, List.append_assoc, List.nil_append]
    rw [membersFrom_skipGaps, hi]
    rfl
  | number hn =>
    have hread := hn.reads hrest
    obtain ⟨c, ds, rfl, hc⟩ := hn.head
    have hne : ∀ {d : Char} {more : List Char}, c :: ds ++ rest = d :: more → d ≠ '-' → Decimal.isDigit d = true := by
      rintro d more ⟨⟩ hd
      exact hc.resolve_left hd
    split
    case h_7 =>
      rw [hread]
      rfl
    -- every other kind of value begins with a mark or a letter
    all_goals
      rename_i he
      cases hne he (by decide)

theorem holds (text : List Unit16 → Option (List Char)) (fuel : Nat) : Complete text fuel := by
  induction fuel with
  | zero =>
    refine ⟨fun hw _ hlen => ?_, fun _ _ hlen => absurd hlen (Nat.not_lt_zero _),
      fun _ _ hlen => absurd hlen (Nat.not_lt_zero _)⟩
    obtain ⟨c, cs, rfl, -⟩ := hw.head
    simp at hlen
  | succ fuel ih => exact ⟨ih.value_succ, ih.elements_succ, ih.members_succ⟩

end Complete

end Complete

theorem wholeFrom?_eq_some : wholeFrom? text cs = some j ↔ Element text j cs := by
  simp only [wholeFrom?, Option.bind_eq_bind, Option.bind_eq_some_iff, Prod.exists, Option.ite_none_right_eq_some,
    Option.some.injEq]
  constructor
  · rintro ⟨j, rest, hv, hrest, rfl⟩
    obtain ⟨w, hw, rfl⟩ := (Sound.holds text _).element hv
    rw [hrest, List.append_nil]
    exact hw
  · intro h
    obtain ⟨after, hv, hafter⟩ := (Complete.holds text (2 * cs.length + 2)).element h stops_nil (by omega)
    rw [List.append_nil] at hv
    exact ⟨j, after, hv, hafter, rfl⟩

end Provision.Json
