import Provision.Url.Reader
import Mathlib.Data.List.Basic

set_option autoImplicit false

namespace Provision.Url

section Segments

variable {special : Bool} {cs cs' s : List Char}

theorem segmentsOf_slash_cons {c : Char} (h : isSlash special c = true) :
    segmentsOf special (c :: cs) = [] :: segmentsOf special cs := by
  simp [segmentsOf, h]

theorem segmentsOf_cons (cs : List Char) {c : Char} (h : isSlash special c = false) :
    ∃ s rest, segmentsOf special cs = s :: rest ∧ segmentsOf special (c :: cs) = (c :: s) :: rest := by
  induction cs generalizing c with
  | nil => exact ⟨[], [], rfl, by simp [segmentsOf, h]⟩
  | cons d cs ih =>
    cases hd : isSlash special d with
    | true => exact ⟨[], _, segmentsOf_slash_cons hd, by simp [segmentsOf, h, hd]⟩
    | false =>
      obtain ⟨s, rest, -, heq⟩ := ih hd
      exact ⟨d :: s, rest, heq, by rw [segmentsOf, h, heq]; rfl⟩

theorem segmentsOf_ne_nil : segmentsOf special cs ≠ [] := by
  cases cs with
  | nil => simp [segmentsOf]
  | cons c cs =>
    cases hc : isSlash special c with
    | true => simp [segmentsOf_slash_cons hc]
    | false =>
      obtain ⟨s, rest, -, heq⟩ := segmentsOf_cons cs hc
      simp [heq]

theorem segmentsOf_append : segmentsOf special (cs ++ '/' :: cs') = segmentsOf special cs ++ segmentsOf special cs' := by
  induction cs with
  | nil => exact segmentsOf_slash_cons rfl
  | cons c cs ih =>
    rw [List.cons_append]
    cases hc : isSlash special c with
    | true => rw [segmentsOf_slash_cons hc, segmentsOf_slash_cons hc, ih, List.cons_append]
    | false =>
      obtain ⟨s, rest, hs, heq⟩ := segmentsOf_cons cs hc
      obtain ⟨s', rest', hs', heq'⟩ := segmentsOf_cons (cs ++ '/' :: cs') hc
      rw [ih, hs, List.cons_append] at hs'
      cases hs'
      rw [heq, heq', List.cons_append]

theorem segmentsOf_undivided (h : ∀ c ∈ cs, isSlash special c = false) : segmentsOf special cs = [cs] := by
  induction cs with
  | nil => rfl
  | cons c cs ih =>
    obtain ⟨s, rest, hs, heq⟩ := segmentsOf_cons cs (h c (List.mem_cons_self ..))
    rw [ih fun c hc => h c (List.mem_cons_of_mem _ hc)] at hs
    cases hs
    exact heq

theorem mem_segmentsOf (h : s ∈ segmentsOf special cs) : s.Sublist cs ∧ ∀ c ∈ s, isSlash special c = false := by
  induction cs generalizing s with
  | nil =>
    cases List.mem_singleton.mp h
    exact ⟨.refl _, nofun⟩
  | cons c cs ih =>
    cases hc : isSlash special c with
    | true =>
      rw [segmentsOf_slash_cons hc] at h
      obtain rfl | h := List.mem_cons.mp h
      · exact ⟨List.nil_sublist _, nofun⟩
      · exact ⟨(ih h).1.cons c, (ih h).2⟩
    | false =>
      obtain ⟨t, rest, ht, heq⟩ := segmentsOf_cons cs hc
      rw [heq] at h
      rw [ht] at ih
      obtain rfl | h := List.mem_cons.mp h
      · obtain ⟨hsub, hall⟩ := ih (List.mem_cons_self ..)
        exact ⟨hsub.cons_cons c, List.forall_mem_cons.mpr ⟨hc, hall⟩⟩
      · obtain ⟨hsub, hall⟩ := ih (List.mem_cons_of_mem _ h)
        exact ⟨hsub.cons c, hall⟩

theorem segmentsOf_special (h : ∀ c ∈ cs, c ≠ '\\') : segmentsOf true cs = segmentsOf false cs := by
  induction cs with
  | nil => rfl
  | cons c cs ih =>
    have hc : isSlash true c = isSlash false c := by simp [isSlash, h c (List.mem_cons_self ..)]
    rw [segmentsOf, segmentsOf, hc, ih fun c hc => h c (List.mem_cons_of_mem _ hc)]

theorem flatMap_segmentsOf : (segmentsOf false cs).flatMap (fun s => '/' :: s) = '/' :: cs := by
  induction cs with
  | nil => rfl
  | cons c cs ih =>
    cases hc : isSlash false c with
    | true =>
      have hslash : c = '/' := by simpa [isSlash] using hc
      rw [segmentsOf_slash_cons hc, List.flatMap_cons, ih, hslash]
      rfl
    | false =>
      obtain ⟨s, rest, hs, heq⟩ := segmentsOf_cons cs hc
      rw [hs, List.flatMap_cons, List.cons_append] at ih
      rw [heq, List.flatMap_cons, List.cons_append, List.cons_append, List.tail_eq_of_cons_eq ih]

theorem segmentsOf_flatMap {back : List (List Char)} (h : ∀ s ∈ back, '/' ∉ s)
    (htext : back.flatMap (fun s => '/' :: s) = '/' :: cs) : segmentsOf false cs = back := by
  induction back generalizing cs with
  | nil => cases htext
  | cons s back ih =>
    have hs : ∀ c ∈ s, isSlash false c = false := by
      intro c hc
      have hne : c ≠ '/' := fun heq => h s (List.mem_cons_self ..) (heq ▸ hc)
      simp [isSlash, hne]
    rw [List.flatMap_cons, List.cons_append, List.cons.injEq] at htext
    obtain ⟨-, rfl⟩ := htext
    cases back with
    | nil => simpa using segmentsOf_undivided hs
    | cons t back =>
      have hrest : segmentsOf false (t ++ back.flatMap fun s => '/' :: s) = t :: back :=
        ih (fun s hs => h s (List.mem_cons_of_mem _ hs)) rfl
      rw [List.flatMap_cons, List.cons_append, segmentsOf_append, hrest, segmentsOf_undivided hs]
      rfl

end Segments

section Walk

/-- A segment is a name: it does not stand for a directory by its place. -/
def Proper (s : List Char) : Prop := isDot s = false ∧ isDotDot s = false

instance (s : List Char) : Decidable (Proper s) := inferInstanceAs (Decidable (_ ∧ _))

variable {file : Bool} {kept : List (List Char)} {s : List Char}

def stepInto (file : Bool) (kept : List (List Char)) (s : List Char) : List (List Char) :=
  if isDotDot s then above kept else if isDot s then kept else segment file kept s :: kept

def stepLast (file : Bool) (kept : List (List Char)) (s : List Char) : List (List Char) :=
  if isDotDot s then [] :: above kept else if isDot s then [] :: kept else segment file kept s :: kept

theorem walk_append (front : List (List Char)) (s : List Char) :
    walk file kept (front ++ [s]) = stepLast file (front.foldl (stepInto file) kept) s := by
  induction front generalizing kept with
  | nil => rfl
  | cons t front ih =>
    have hwalk : walk file kept (t :: (front ++ [s])) = walk file (stepInto file kept t) (front ++ [s]) := by
      cases front with
      | nil =>
        simp only [List.nil_append, walk, stepInto]
        split
        · rfl
        · split <;> rfl
      | cons u front =>
        simp only [List.cons_append, walk, stepInto]
        split
        · rfl
        · split <;> rfl
    rw [List.cons_append, hwalk, ih]
    rfl

theorem segment_eq : segment false kept s = escape pathSet s := by
  simp [segment]

theorem stepInto_proper (h : Proper s) : stepInto false kept s = escape pathSet s :: kept := by
  simp [stepInto, h.1, h.2, segment_eq]

theorem stepLast_proper (h : Proper s) : stepLast false kept s = escape pathSet s :: kept := by
  simp [stepLast, h.1, h.2, segment_eq]

theorem stepLast_improper (file : Bool) (kept : List (List Char)) (h : ¬ Proper s) : ∃ kept', stepLast file kept s = [] :: kept' := by
  unfold stepLast
  split
  · exact ⟨_, rfl⟩
  next hdotdot =>
    have hdot : isDot s = true := by
      by_contra hdot
      exact h ⟨Bool.eq_false_iff.mpr hdot, Bool.eq_false_iff.mpr hdotdot⟩
    rw [if_pos hdot]
    exact ⟨_, rfl⟩

theorem foldl_proper {front : List (List Char)} (h : ∀ s ∈ front, Proper s) :
    front.foldl (stepInto false) kept = (front.map (escape pathSet)).reverse ++ kept := by
  induction front generalizing kept with
  | nil => rfl
  | cons s front ih =>
    rw [List.foldl_cons, stepInto_proper (h s (List.mem_cons_self ..)), ih fun s hs => h s (List.mem_cons_of_mem _ hs)]
    simp

theorem length_above : (above kept).length ≤ kept.length := by
  unfold above
  split
  · exact Nat.le_refl _
  · split
    · exact Nat.le_refl _
    · simp

theorem mem_above {s : List Char} (h : s ∈ above kept) : s ∈ kept := by
  unfold above at h
  split at h
  · exact h
  · split at h
    · exact h
    · exact List.mem_cons_of_mem _ h

theorem walk_forall {P : List Char → Prop} {segments : List (List Char)} (hescape : ∀ s ∈ segments, P (escape pathSet s))
    (hnil : P []) (hkept : ∀ s ∈ kept, P s) : ∀ s ∈ walk false kept segments, P s := by
  induction segments generalizing kept with
  | nil => exact hkept
  | cons s rest ih =>
    have habove : ∀ t ∈ above kept, P t := fun t ht => hkept t (mem_above ht)
    have hs : ∀ t ∈ escape pathSet s :: kept, P t := List.forall_mem_cons.mpr ⟨hescape s (List.mem_cons_self ..), hkept⟩
    have hrest : ∀ t ∈ rest, P (escape pathSet t) := fun t ht => hescape t (List.mem_cons_of_mem _ ht)
    cases rest with
    | nil =>
      simp only [walk, segment_eq]
      split
      · exact List.forall_mem_cons.mpr ⟨hnil, habove⟩
      · split
        · exact List.forall_mem_cons.mpr ⟨hnil, hkept⟩
        · exact hs
    | cons t rest =>
      simp only [walk, segment_eq]
      split
      · exact ih hrest habove
      · split
        · exact ih hrest hkept
        · exact ih hrest hs

theorem length_foldl (kept front : List (List Char)) : (front.foldl (stepInto false) kept).length ≤ kept.length + front.length ∧
    (kept.length + front.length ≤ (front.foldl (stepInto false) kept).length → ∀ s ∈ front, Proper s) := by
  induction front generalizing kept with
  | nil => exact ⟨Nat.le_refl _, by simp⟩
  | cons s front ih =>
    rw [List.foldl_cons, List.length_cons]
    obtain ⟨hle, hall⟩ := ih (stepInto false kept s)
    by_cases hs : Proper s
    · rw [stepInto_proper hs] at hle hall ⊢
      rw [List.length_cons] at hle hall
      exact ⟨by omega, fun h => List.forall_mem_cons.mpr ⟨hs, hall (by omega)⟩⟩
    · have hshort : (stepInto false kept s).length ≤ kept.length := by
        unfold stepInto
        split
        · exact length_above
        · split
          · exact Nat.le_refl _
          · exact absurd ⟨Bool.eq_false_iff.mpr ‹_›, Bool.eq_false_iff.mpr ‹_›⟩ hs
      exact ⟨by omega, fun h => by omega⟩

end Walk

end Provision.Url
