import Provision.Proofs.Path.Components
import Mathlib.Data.List.Infix

set_option autoImplicit false

namespace Provision.Path

/-- The first segments of a path, up to one that is not blank. -/
def Front (l : List Name) (p : Path) : Prop :=
  l <+: segments (parted p.chars).2 ∧ ∀ s, l.getLast? = some s → isBlank s = false

variable {p q : Path} {l : List Name}

theorem joined_mono {l m : List Name} (h : l <+: m) : joined l <+: joined m := by
  obtain ⟨t, rfl⟩ := h
  induction l with
  | nil => exact List.nil_prefix
  | cons s l ih =>
    cases l with
    | nil => cases t <;> simp [joined]
    | cons x l => simpa [joined] using ih

theorem Front.whole (h : Front l p) : ∀ s ∈ l, '/' ∉ s := fun _ hs => whole_of_mem_segments (h.1.subset hs)

theorem parted_front (h : Front l p) :
    parted ((parted p.chars).1.chars ++ joined l) = ((parted p.chars).1, joined l) := by
  cases hs : (parted p.chars).1 with
  | root => rfl
  | here =>
    obtain rfl | hhead := (opens_parted p.chars).mono h.1 hs
    · rfl
    · obtain ⟨t, rfl⟩ := List.head?_eq_some_iff.mp hhead
      cases t with
      | nil => exact absurd (h.2 [] rfl) (by simp [isBlank])
      | cons x t => rfl
  -- a front that begins as the whole path does has no start either, unless it is a single dot
  | bare =>
    obtain ⟨htail, hroot⟩ := parted_bare hs
    obtain ⟨rest, hrest⟩ := joined_mono h.1
    rw [joined_segments, htail] at hrest
    have hp : parted (joined l ++ rest) = (.bare, joined l ++ rest) := by
      rw [hrest]
      exact Prod.ext hs htail
    have hdot : joined l ≠ ['.'] := by
      intro hdot
      have hsegs : segments (joined l) = l := by
        refine segments_joined ?_ h.whole
        rintro rfl
        cases hdot
      rw [hdot] at hsegs
      exact absurd (h.2 ['.'] (by rw [← hsegs]; rfl)) (by simp [isBlank])
    show parted (joined l) = _
    generalize joined l = cs at hp hdot
    unfold parted
    split
    · simp [parted] at hp
    · exact absurd rfl hdot
    · simp [parted] at hp
    · rfl

theorem backward_front (h : Front l p) : (⟨(parted p.chars).1.chars ++ joined l⟩ : Path).backward = l.reverse := by
  rw [backward, parted_front h]
  by_cases hl : l = []
  · subst hl
    rfl
  rw [segments_joined hl h.whole]
  obtain ⟨before, s, rfl⟩ := (List.eq_nil_or_concat' l).resolve_left hl
  have hs := h.2 s (by simp)
  simp [hs]

theorem names_front (h : Front l p) :
    (⟨(parted p.chars).1.chars ++ joined l⟩ : Path).names = l.filter fun s => !isBlank s := by
  rw [names, parted_front h]
  by_cases hl : l = []
  · subst hl
    rfl
  · rw [segments_joined hl h.whole]

theorem front_dropWhile {back : List Name} (h : back <:+ p.backward) : Front (back.dropWhile isBlank).reverse p := by
  refine ⟨?_, fun s hs => ?_⟩
  · have hsuffix : back.dropWhile isBlank <:+ (segments (parted p.chars).2).reverse :=
      (List.dropWhile_suffix _).trans (h.trans (List.dropWhile_suffix _))
    simpa using List.reverse_prefix.mpr hsuffix
  · have hhead := List.head?_dropWhile_not isBlank back
    rw [List.getLast?_reverse] at hs
    simpa [hs] using hhead

section Rebuilt

variable {back : List Name}

theorem start_rebuilt (h : back <:+ p.backward) :
    (parted (rebuilt (parted p.chars).1 back).chars).1 = (parted p.chars).1 := by
  have hparted := congrArg Prod.fst (parted_front (front_dropWhile h))
  exact hparted

theorem backward_rebuilt (h : back <:+ p.backward) :
    (rebuilt (parted p.chars).1 back).backward = back.dropWhile isBlank := by
  rw [rebuilt, backward_front (front_dropWhile h), List.reverse_reverse]

theorem rebuilt_chars (h : back <:+ p.backward) : (rebuilt (parted p.chars).1 back).chars <+: p.chars := by
  have hchars := (List.prefix_append_right_inj (parted p.chars).1.chars).mpr (joined_mono (front_dropWhile h).1)
  rwa [joined_segments, parted_chars] at hchars

end Rebuilt

theorem parentsOf_dropWhile (start : Start) (back : List Name) :
    parentsOf start (back.dropWhile isBlank) = parentsOf start back := by
  induction back with
  | nil => rfl
  | cons s back ih =>
    by_cases hs : isBlank s = true
    · simp [hs, parentsOf, ih]
    · simp [hs]

theorem backward_head {s : Name} {rest : List Name} (h : p.backward = s :: rest) : isBlank s = false := by
  have hhead := List.head?_dropWhile_not isBlank (segments (parted p.chars).2).reverse
  rw [← backward, h] at hhead
  simpa using hhead

theorem parent?_cases (p : Path) :
    (∃ s rest, p.backward = s :: rest ∧ p.parent? = some (rebuilt (parted p.chars).1 rest)) ∨
      (p.backward = [] ∧ p.parent? = if (parted p.chars).1 = .here then some ⟨[]⟩ else none) := by
  unfold parent?
  cases hb : p.backward with
  | nil => exact .inr ⟨rfl, rfl⟩
  | cons s rest => exact .inl ⟨s, rest, rfl, rfl⟩

theorem ancestors_eq (p : Path) : p.ancestors = p :: p.parent?.elim [] ancestors := by
  obtain ⟨s, rest, hb, hparent⟩ | ⟨hb, hparent⟩ := parent?_cases p
  · have hrest : rest <:+ p.backward := hb ▸ List.suffix_cons s rest
    rw [hparent]
    simp only [Option.elim, ancestors, hb, start_rebuilt hrest, backward_rebuilt hrest, parentsOf, backward_head hb,
      parentsOf_dropWhile]
    rfl
  · rw [hparent]
    unfold ancestors
    rw [hb]
    by_cases hs : (parted p.chars).1 = .here
    · simp only [hs, if_true]
      rfl
    · simp only [hs, if_false]
      rfl

theorem parent?_shorter (h : p.parent? = some q) : q.chars <+: p.chars ∧ q.chars.length < p.chars.length := by
  obtain ⟨s, rest, hb, hparent⟩ | ⟨hb, hparent⟩ := parent?_cases p
  · obtain rfl : rebuilt (parted p.chars).1 rest = q := Option.some.inj (hparent.symm.trans h)
    have hrest : rest <:+ p.backward := hb ▸ List.suffix_cons s rest
    have hfront := rebuilt_chars hrest
    refine ⟨hfront, lt_of_le_of_ne hfront.length_le fun hlen => ?_⟩
    -- the same text would have the same names
    have hsame : rebuilt (parted p.chars).1 rest = p := congrArg Path.mk (hfront.eq_of_length hlen)
    have hback := backward_rebuilt hrest
    rw [hsame, hb] at hback
    have hshort := (List.dropWhile_suffix (l := rest) isBlank).length_le
    rw [← hback, List.length_cons] at hshort
    omega
  · rw [hparent] at h
    split at h
    · rename_i hs
      obtain rfl : (⟨[]⟩ : Path) = q := Option.some.inj h
      refine ⟨List.nil_prefix, List.length_pos_iff.mpr fun hempty => ?_⟩
      rw [hempty] at hs
      cases hs
    · cases h

section Names

theorem filter_dropWhile_blank (l : List Name) :
    (l.dropWhile isBlank).filter (fun s => !isBlank s) = l.filter fun s => !isBlank s := by
  induction l with
  | nil => rfl
  | cons s l ih => by_cases hs : isBlank s = true <;> simp [hs, ih]

theorem reverse_names (p : Path) : p.names.reverse = p.backward.filter fun s => !isBlank s := by
  rw [backward, filter_dropWhile_blank, names, List.filter_reverse]

theorem map_names_parentsOf {back : List Name} (h : back <:+ p.backward) :
    (parentsOf (parted p.chars).1 back).map names = (back.filter fun s => !isBlank s).tails.tail.map List.reverse := by
  induction back with
  | nil => rfl
  | cons s back ih =>
    have hback : back <:+ p.backward := (List.suffix_cons s back).trans h
    by_cases hs : isBlank s = true
    · simp only [parentsOf, hs, if_true, List.filter_cons, Bool.not_true, Bool.false_eq_true, if_false, ih hback]
    · have hnames : (rebuilt (parted p.chars).1 back).names = (back.filter fun s => !isBlank s).reverse := by
        rw [rebuilt, names_front (front_dropWhile hback), List.filter_reverse, filter_dropWhile_blank]
      simp only [parentsOf, hs, List.filter_cons, Bool.not_false, if_true, List.map_cons, ih hback, hnames,
        Bool.false_eq_true, if_false, List.tails, List.tail_cons]
      cases back.filter fun s => !isBlank s <;> simp

theorem map_names_ancestors (p : Path) :
    p.ancestors.map names =
      p.names.reverse.tails.map List.reverse ++ if (parted p.chars).1 = .here then [[]] else [] := by
  have hhere : (if (parted p.chars).1 = .here then [(⟨[]⟩ : Path)] else []).map names =
      if (parted p.chars).1 = .here then [[]] else [] := by
    split <;> rfl
  have htails : ∀ l : List Name, l.tails = l :: l.tails.tail := fun l => by cases l <;> rfl
  rw [ancestors, List.map_append, List.map_cons, hhere, map_names_parentsOf List.suffix_rfl, ← reverse_names,
    htails p.names.reverse, List.map_cons, List.reverse_reverse, List.tail_cons]

theorem parentsOf_suffix (start : Start) (l back : List Name) :
    parentsOf start back <:+ parentsOf start (l ++ back) := by
  induction l with
  | nil => exact List.suffix_rfl
  | cons s l ih =>
    rw [List.cons_append, parentsOf]
    split
    · exact ih
    · exact ih.trans (List.suffix_cons ..)

theorem ancestors_suffix {p q : Path} (hp : p.chars ≠ []) (hq : q.isAbsolute = false) :
    p.ancestors.tail <:+ (p / q).ancestors := by
  have hparents : parentsOf (parted p.chars).1 p.backward <:+ parentsOf (parted p.chars).1 (p / q).backward := by
    obtain ⟨c, -, hc, h⟩ := join_eq p hp
    by_cases hne : c = []
    -- the path is the root, above which there is nothing
    · have hroot : p.backward = [] := by
        obtain hc | hc := hc <;> simp [backward, hc, hne, parted, segments, isBlank]
      rw [hroot]
      exact List.nil_suffix
    · have hback : p.backward = (segments (parted c).2).reverse.dropWhile isBlank := by
        obtain hc | hc := hc
        · rw [backward, hc]
        · rw [backward, hc, parted_behind hne, segments_append]
          simp [segments, isBlank]
      rw [hback, h q hq, backward, parted_behind hne, segments_append, parentsOf_dropWhile, parentsOf_dropWhile,
        List.reverse_append]
      exact parentsOf_suffix ..
  rw [ancestors, ancestors, start_join hp hq, List.cons_append, List.tail_cons]
  obtain ⟨t, ht⟩ := hparents
  exact ⟨(p / q) :: t, by rw [← ht, List.cons_append, List.cons_append, List.append_assoc]⟩

/-- The paths above a path behind another are, by their names, those above it behind the other, and then those above the
other. -/
theorem ancestors_join {p q : Path} (hp : p.chars ≠ []) (hq : q.isAbsolute = false) :
    ∃ inner, (p / q).ancestors = inner ++ p.parent?.elim [] ancestors ∧
      inner.map names = q.names.reverse.tails.map fun l => p.names ++ l.reverse := by
  obtain ⟨inner, h⟩ := ancestors_suffix hp hq
  have htail : p.ancestors.tail = p.parent?.elim [] ancestors := by rw [ancestors_eq p, List.tail_cons]
  refine ⟨inner, by rw [← h, htail], ?_⟩
  have hnames := congrArg (List.map names) h
  rw [List.map_append, List.map_tail, map_names_ancestors, map_names_ancestors, start_join hp hq, names_join p hq,
    List.reverse_append, List.tails_append, List.map_append, List.map_map, List.append_assoc,
    List.tail_append_of_ne_nil (List.ne_nil_of_length_pos (by simp)), List.map_tail] at hnames
  have hinner := List.append_cancel_right hnames
  rw [hinner]
  refine List.map_congr_left fun l _ => ?_
  simp

end Names

def ascend (p : Path) : Nat → Option Path
  | 0 => some p
  | k + 1 => p.parent?.bind (ascend · k)

theorem ascend_eq (p : Path) (k : Nat) : p.ascend k = p.ancestors[k]? := by
  induction k generalizing p with
  | zero => rw [ancestors_eq]; rfl
  | succ k ih =>
    rw [ancestors_eq, ascend]
    cases p.parent? with
    | none => rfl
    | some q => exact ih q

theorem ascend_add (p : Path) (j k : Nat) : p.ascend (j + k) = (p.ascend j).bind (ascend · k) := by
  induction j generalizing p with
  | zero => rw [Nat.zero_add]; rfl
  | succ j ih =>
    rw [Nat.succ_add, ascend, ascend]
    cases p.parent? with
    | none => rfl
    | some q => exact ih q

theorem ascend_shorter {k : Nat} (h : p.ascend k = some q) :
    q.chars <+: p.chars ∧ q.chars.length + k ≤ p.chars.length := by
  induction k generalizing p with
  | zero =>
    obtain rfl : p = q := Option.some.inj h
    exact ⟨List.prefix_rfl, le_rfl⟩
  | succ k ih =>
    obtain ⟨parent, hparent, hrest⟩ := Option.bind_eq_some_iff.mp h
    obtain ⟨hfront, hlt⟩ := parent?_shorter hparent
    obtain ⟨hfront', hle⟩ := ih hrest
    exact ⟨hfront'.trans hfront, by omega⟩

theorem ascend_injective {j k : Nat} (hj : p.ascend j = some q) (hk : p.ascend k = some q) : j = k := by
  have haux : ∀ {j k : Nat}, p.ascend j = some q → p.ascend k = some q → k ≤ j := by
    intro j k hj hk
    by_contra hlt
    -- the path would be met again above itself, where all texts are shorter
    have hadd := ascend_add p j (k - j)
    rw [Nat.add_sub_cancel' (by omega), hj, hk] at hadd
    have hle := (ascend_shorter (hadd.symm : q.ascend (k - j) = some q)).2
    omega
  exact le_antisymm (haux hk hj) (haux hj hk)

theorem mem_ancestors_iff : q ∈ p.ancestors ↔ ∃ j, p.ascend j = some q := by
  rw [List.mem_iff_getElem?]
  exact exists_congr fun j => by rw [ascend_eq]

theorem relative_of_mem_ancestors (h : q ∈ p.ancestors) (hp : p.isAbsolute = false) : q.isAbsolute = false := by
  obtain ha | ⟨-, ha⟩ := above_of_mem_ancestors h
  · simp [isAbsolute, ha]
  · exact ha.trans hp

theorem absolute_of_mem_ancestors (h : q ∈ p.ancestors) (hp : p.isAbsolute = true) : q.isAbsolute = true := by
  have hroot : (parted p.chars).1 = .root := by
    obtain ⟨cs, hcs⟩ := List.head?_eq_some_iff.mp (by simpa [isAbsolute] using hp)
    rw [hcs]
    rfl
  rw [ancestors, hroot] at h
  simp only [reduceCtorEq, if_false, List.append_nil, List.mem_cons] at h
  obtain rfl | h := h
  · exact hp
  · obtain ⟨rest, -, rfl⟩ := mem_parentsOf h
    rfl

end Provision.Path
