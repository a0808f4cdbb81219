import Provision.Path
import Mathlib.Data.List.Infix

set_option autoImplicit false

namespace Provision.Path

def steps (p : Path) : List Name := (segments p.chars).filter (· ≠ [])

/-- A name that a path can end with and that is no step of its own kind. -/
structure Plain (n : Name) : Prop where
  filled : n ≠ []
  whole : '/' ∉ n
  notHere : n ≠ ['.']
  notUp : n ≠ ['.', '.']

instance (n : Name) : Decidable (Plain n) :=
  decidable_of_iff (n ≠ [] ∧ '/' ∉ n ∧ n ≠ ['.'] ∧ n ≠ ['.', '.'])
    ⟨fun ⟨a, b, c, d⟩ => ⟨a, b, c, d⟩, fun ⟨a, b, c, d⟩ => ⟨a, b, c, d⟩⟩

theorem segments_append (a b : List Char) : segments (a ++ '/' :: b) = segments a ++ segments b := by
  induction a with
  | nil => simp [segments]
  | cons c a ih =>
    simp only [List.cons_append, segments, ih]
    split
    · simp
    · cases h : segments a with
      | nil => exact absurd h (segments_ne_nil a)
      | cons s rest => simp

theorem segments_whole {n : List Char} (h : '/' ∉ n) : segments n = [n] := by
  induction n with
  | nil => rfl
  | cons c n ih =>
    have hc : c ≠ '/' := fun e => h (by simp [e])
    have hn := ih (fun hm => h (by simp [hm]))
    simp [segments, hc, hn]

theorem whole_of_mem_segments {cs : List Char} {s : Name} (h : s ∈ segments cs) : '/' ∉ s := by
  induction cs generalizing s with
  | nil =>
    simp only [segments, List.mem_singleton] at h
    simp [h]
  | cons c cs ih =>
    simp only [segments] at h
    split at h
    · obtain rfl | h := List.mem_cons.mp h
      · simp
      · exact ih h
    · rename_i hc
      cases hs : segments cs with
      | nil => exact absurd hs (segments_ne_nil cs)
      | cons t rest =>
        rw [hs] at h ih
        obtain rfl | h := List.mem_cons.mp h
        · have ht := ih (s := t) (by simp)
          simp [ht, Ne.symm hc]
        · exact ih (by simp [h])

theorem segments_joined {l : List Name} (hl : l ≠ []) (h : ∀ s ∈ l, '/' ∉ s) : segments (joined l) = l := by
  induction l with
  | nil => exact absurd rfl hl
  | cons s rest ih =>
    have hs := segments_whole (h s (by simp))
    cases rest with
    | nil => simpa [joined] using hs
    | cons t rest =>
      have ht := ih (by simp) (fun x hx => h x (by simp [hx]))
      simp [joined, segments_append, hs, ht]

section Join

variable {n : Name}

theorem join_empty (q : Path) : (⟨[]⟩ : Path) / q = q := by
  show Path.join _ _ = _
  unfold join
  split <;> simp

theorem isAbsolute_plain (hn : Plain n) : (⟨n⟩ : Path).isAbsolute = false := by
  cases n with
  | nil => rfl
  | cons x n =>
    have hx : x ≠ '/' := fun e => hn.whole (by simp [e])
    simp [isAbsolute, hx]

theorem join_eq (p : Path) (hp : p.chars ≠ []) :
    ∃ c, steps ⟨c⟩ = steps p ∧ (p.chars = c ∨ p.chars = c ++ ['/']) ∧
      ∀ q : Path, q.isAbsolute = false → p / q = ⟨c ++ '/' :: q.chars⟩ := by
  by_cases hl : p.chars.getLast? = some '/'
  · obtain ⟨c, hc⟩ := List.getLast?_eq_some_iff.mp hl
    refine ⟨c, by simp [steps, hc, segments_append, segments], .inr hc, fun q hq => ?_⟩
    show Path.join p q = _
    simp [join, hq, hc]
  · refine ⟨p.chars, rfl, .inl rfl, fun q hq => ?_⟩
    show Path.join p q = _
    simp [join, hq, hp, hl]

theorem join_cases (p : Path) : p = ⟨[]⟩ ∨ p.chars ≠ [] ∧
    ∃ c, steps ⟨c⟩ = steps p ∧ (p.chars = c ∨ p.chars = c ++ ['/']) ∧
      ∀ q : Path, q.isAbsolute = false → p / q = ⟨c ++ '/' :: q.chars⟩ := by
  by_cases hp : p.chars = []
  · exact .inl (congrArg Path.mk hp)
  · exact .inr ⟨hp, join_eq p hp⟩

theorem steps_behind (p : Path) {q : Path} (hq : q.isAbsolute = false) : steps (p / q) = steps p ++ steps q := by
  obtain rfl | ⟨-, c, hc, -, h⟩ := join_cases p
  · rw [join_empty]
    rfl
  · rw [h q hq, ← hc]
    simp [steps, segments_append]

theorem steps_join (p : Path) (hn : Plain n) : steps (p / ⟨n⟩) = steps p ++ [n] := by
  rw [steps_behind p (isAbsolute_plain hn)]
  simp [steps, segments_whole hn.whole, hn.filled]

theorem join_ne_nil (p : Path) (hn : Plain n) : (p / ⟨n⟩).chars ≠ [] := by
  intro h
  have hs := steps_join p hn
  rw [steps, h] at hs
  simp [segments] at hs

theorem isAbsolute_behind (p : Path) {q : Path} (hq : q.isAbsolute = false) : (p / q).isAbsolute = p.isAbsolute := by
  obtain rfl | ⟨hp, c, -, hc, h⟩ := join_cases p
  · rw [join_empty, hq]
    rfl
  · rw [h q hq]
    obtain hc | hc := hc <;> cases c <;> simp_all [isAbsolute]

theorem isAbsolute_join (p : Path) (hn : Plain n) : (p / ⟨n⟩).isAbsolute = p.isAbsolute :=
  isAbsolute_behind p (isAbsolute_plain hn)

theorem getLast?_behind (p : Path) {q : Path} (hne : q.chars ≠ []) (hq : q.isAbsolute = false) :
    (p / q).chars.getLast? = q.chars.getLast? := by
  obtain rfl | ⟨-, c, -, -, h⟩ := join_cases p
  · rw [join_empty]
  · obtain ⟨x, hx⟩ := Option.ne_none_iff_exists'.mp (mt List.getLast?_eq_none_iff.mp hne)
    simp [h q hq, List.getLast?_append, List.getLast?_cons, hx]

theorem getLast?_join (p : Path) (hn : Plain n) : (p / ⟨n⟩).chars.getLast? ≠ some '/' := by
  rw [getLast?_behind p hn.filled (isAbsolute_plain hn)]
  exact fun h => hn.whole (List.mem_of_getLast? h)

theorem suffixed_join (p : Path) (hn : Plain n) (s : String) (hs : Plain (n ++ s.toList)) :
    (p / ⟨n⟩).suffixed s = p / ⟨n ++ s.toList⟩ := by
  obtain rfl | ⟨-, c, -, -, h⟩ := join_cases p
  · rw [join_empty, join_empty]
    rfl
  · rw [h _ (isAbsolute_plain hn), h _ (isAbsolute_plain hs)]
    simp [suffixed]

theorem join_injective (p : Path) {m : Name} (hn : Plain n) (hm : Plain m)
    (h : (p / ⟨n⟩ : Path) = p / ⟨m⟩) : n = m := by
  have hs := congrArg steps h
  rw [steps_join p hn, steps_join p hm] at hs
  simpa using hs

end Join

def Start.steps : Start → List Name
  | .here => [['.']]
  | _ => []

/-- A path that starts with `.` goes on with a slash, if it goes on. -/
def Start.Opens (start : Start) (l : List Name) : Prop := start = .here → l = [] ∨ l.head? = some []

theorem Start.Opens.mono {start : Start} {l l' : List Name} (h : start.Opens l) (hl : l' <+: l) :
    start.Opens l' := by
  intro hs
  obtain ⟨t, rfl⟩ := hl
  cases l' with
  | nil => exact .inl rfl
  | cons x l' => simpa using h hs

theorem opens_parted (cs : List Char) : (parted cs).1.Opens (segments (parted cs).2) := by
  intro h
  unfold parted at h ⊢
  split at h <;> simp_all [segments]

theorem steps_start (start : Start) {l : List Name} (hl : ∀ s ∈ l, '/' ∉ s) (ho : start.Opens l) :
    steps ⟨start.chars ++ joined l⟩ = start.steps ++ l.filter (· ≠ []) := by
  have hseg : (segments (joined l)).filter (· ≠ []) = l.filter (· ≠ []) := by
    by_cases h : l = []
    · simp [h, joined, segments]
    · rw [segments_joined h hl]
  cases start with
  | bare => simpa [steps, Start.steps, Start.chars] using hseg
  | root => simpa [steps, Start.steps, Start.chars, segments] using hseg
  | here =>
    obtain rfl | h := ho rfl
    · simp [steps, Start.steps, Start.chars, segments, joined]
    · obtain ⟨t, rfl⟩ := List.head?_eq_some_iff.mp h
      cases t with
      | nil => simp [steps, Start.steps, Start.chars, segments, joined]
      | cons x t =>
        have hx := segments_joined (l := x :: t) (by simp) (fun s hs => hl s (by simp [hs]))
        simp [steps, Start.steps, Start.chars, segments, joined, hx]

theorem steps_eq (p : Path) :
    steps p = (parted p.chars).1.steps ++ (segments (parted p.chars).2).filter (· ≠ []) := by
  have h := steps_start (parted p.chars).1 (fun _ => whole_of_mem_segments) (opens_parted p.chars)
  rwa [joined_segments, parted_chars] at h

theorem parted_bare {cs : List Char} (h : (parted cs).1 = .bare) :
    (parted cs).2 = cs ∧ ∀ ds, cs ≠ '/' :: ds := by
  unfold parted at h ⊢
  split at h <;> simp_all

theorem isAbsolute_start (p : Path) {l : List Name} (hl : l <+: segments (parted p.chars).2) :
    (parted p.chars).1.chars ++ joined l = [] ∨
      (⟨(parted p.chars).1.chars ++ joined l⟩ : Path).isAbsolute = p.isAbsolute := by
  have hp := parted_chars p.chars
  cases hs : (parted p.chars).1 with
  | root =>
    rw [hs] at hp
    exact .inr (by rw [isAbsolute, isAbsolute, ← hp]; rfl)
  | here =>
    rw [hs] at hp
    exact .inr (by rw [isAbsolute, isAbsolute, ← hp]; rfl)
  | bare =>
    obtain ⟨htail, hfirst⟩ := parted_bare hs
    rw [htail] at hl
    cases l with
    | nil => exact .inl rfl
    | cons s l =>
      obtain ⟨t, ht⟩ := hl
      cases hc : p.chars with
      | nil =>
        rw [hc] at ht
        obtain ⟨rfl, rfl, -⟩ : s = [] ∧ l = [] ∧ t = [] := by simpa [segments] using ht
        exact .inl rfl
      | cons c cs =>
        have hne : c ≠ '/' := fun e => hfirst cs (by rw [hc, e])
        cases hseg : segments cs with
        | nil => exact absurd hseg (segments_ne_nil cs)
        | cons u rest =>
          have hsu : s = c :: u := by
            rw [hc] at ht
            simp only [segments, hne, hseg, List.cons_append, if_false, List.cons.injEq] at ht
            exact ht.1
          refine .inr ?_
          cases l <;> simp [joined, hsu, isAbsolute, hc, hne, Start.chars]

/-- A path above another takes the first of its steps, from the same start. -/
def Above (a p : Path) : Prop := a.chars = [] ∨ (steps a <+: steps p ∧ a.isAbsolute = p.isAbsolute)

theorem Above.trans {a b p : Path} (hab : a.Above b) (hbp : steps b <+: steps p)
    (habs : b.isAbsolute = p.isAbsolute) : a.Above p := by
  obtain h | ⟨h, ha⟩ := hab
  · exact .inl h
  · exact .inr ⟨h.trans hbp, ha.trans habs⟩

theorem rebuilt_above (p : Path) {back : List Name} (h : back.reverse <+: segments (parted p.chars).2) :
    (rebuilt (parted p.chars).1 back).chars = [] ∨
      steps (rebuilt (parted p.chars).1 back) <+:
          (parted p.chars).1.steps ++ back.reverse.filter (· ≠ []) ∧
        (rebuilt (parted p.chars).1 back).isAbsolute = p.isAbsolute := by
  have hback : (back.dropWhile isBlank).reverse <+: back.reverse :=
    List.reverse_prefix.mpr (List.dropWhile_suffix isBlank)
  have hl := hback.trans h
  obtain he | ha := isAbsolute_start p hl
  · exact .inl he
  · refine .inr ⟨?_, ha⟩
    rw [rebuilt, steps_start _ (fun s hs => whole_of_mem_segments (hl.subset hs)) ((opens_parted p.chars).mono hl)]
    exact (List.prefix_append_right_inj _).mpr (hback.filter _)

theorem above_rebuilt (p : Path) {back : List Name} (h : back.reverse <+: segments (parted p.chars).2) :
    (rebuilt (parted p.chars).1 back).Above p := by
  obtain he | ⟨hs, ha⟩ := rebuilt_above p h
  · exact .inl he
  · refine .inr ⟨hs.trans ?_, ha⟩
    rw [steps_eq p]
    exact (List.prefix_append_right_inj _).mpr (h.filter _)

theorem mem_parentsOf {start : Start} {back : List Name} {a : Path} (h : a ∈ parentsOf start back) :
    ∃ rest, rest <:+ back ∧ a = rebuilt start rest := by
  induction back with
  | nil => simp [parentsOf] at h
  | cons s back ih =>
    simp only [parentsOf] at h
    split at h
    · obtain ⟨rest, hr, ha⟩ := ih h
      exact ⟨rest, hr.trans (List.suffix_cons s back), ha⟩
    · obtain rfl | h := List.mem_cons.mp h
      · exact ⟨back, List.suffix_cons s back, rfl⟩
      · obtain ⟨rest, hr, ha⟩ := ih h
        exact ⟨rest, hr.trans (List.suffix_cons s back), ha⟩

theorem above_of_mem_ancestors {a p : Path} (h : a ∈ p.ancestors) : a.Above p := by
  simp only [ancestors, List.cons_append, List.mem_cons, List.mem_append] at h
  obtain rfl | h | h := h
  · exact .inr ⟨List.prefix_rfl, rfl⟩
  · obtain ⟨rest, hr, rfl⟩ := mem_parentsOf h
    apply above_rebuilt
    have hb : rest <:+ (segments (parted p.chars).2).reverse := hr.trans (List.dropWhile_suffix isBlank)
    simpa using List.reverse_prefix.mpr hb
  · split at h
    · obtain rfl := List.mem_singleton.mp h
      exact .inl rfl
    · simp at h

section Last

variable {n : Name}

theorem Plain.notBlank (hn : Plain n) : isBlank n = false := by
  simp [isBlank, hn.filled, hn.notHere]

theorem parted_slash (cs : List Char) :
    ∃ start before, (∀ s ∈ before, '/' ∉ s) ∧
      ∀ m, '/' ∉ m → parted (cs ++ '/' :: m) = (start, joined (before ++ [m])) := by
  have hj : ∀ ds m : List Char, '/' ∉ m → ds ++ '/' :: m = joined (segments ds ++ [m]) := by
    intro ds m hm
    rw [← joined_segments (ds ++ '/' :: m), segments_append, segments_whole hm]
  rcases cs with _ | ⟨a, cs⟩
  · exact ⟨.root, [], by simp, fun m hm => rfl⟩
  by_cases ha : a = '/'
  · subst ha
    exact ⟨.root, segments cs, fun _ => whole_of_mem_segments, fun m hm => by simp [parted, ← hj cs m hm]⟩
  have hbare : ∀ ds, (∀ m : List Char, parted (a :: ds ++ '/' :: m) = (.bare, a :: ds ++ '/' :: m)) →
      ∃ start before, (∀ s ∈ before, '/' ∉ s) ∧
        ∀ m, '/' ∉ m → parted (a :: ds ++ '/' :: m) = (start, joined (before ++ [m])) := by
    intro ds h
    exact ⟨.bare, segments (a :: ds), fun _ => whole_of_mem_segments, fun m hm => by rw [h, hj (a :: ds) m hm]⟩
  by_cases hd : a = '.'
  · subst hd
    rcases cs with _ | ⟨b, cs⟩
    · exact ⟨.here, [[]], by simp, fun m hm => rfl⟩
    by_cases hb : b = '/'
    · subst hb
      refine ⟨.here, segments ('/' :: cs), fun _ => whole_of_mem_segments, fun m hm => ?_⟩
      rw [← hj ('/' :: cs) m hm]
      rfl
    · exact hbare (b :: cs) (fun m => by simp [parted, hb])
  · exact hbare cs (fun m => by simp [parted, ha, hd])

theorem parted_join (p : Path) :
    ∃ start before, (∀ s ∈ before, '/' ∉ s) ∧
      ∀ m, Plain m → parted (p / ⟨m⟩).chars = (start, joined (before ++ [m])) := by
  obtain rfl | ⟨-, c, -, -, hc⟩ := join_cases p
  · refine ⟨.bare, [], by simp, fun m hm => ?_⟩
    rw [join_empty]
    have hw := hm.whole
    have hd := hm.notHere
    unfold parted
    split <;> simp_all [joined]
  · obtain ⟨start, before, hb, h⟩ := parted_slash c
    exact ⟨start, before, hb, fun m hm => by rw [hc ⟨m⟩ (isAbsolute_plain hm), h m hm.whole]⟩

theorem segments_before {before : List Name} (hb : ∀ s ∈ before, '/' ∉ s) (hn : Plain n) :
    segments (joined (before ++ [n])) = before ++ [n] := by
  apply segments_joined (by simp)
  intro s hs
  obtain hs | hs := List.mem_append.mp hs
  · exact hb s hs
  · obtain rfl := List.mem_singleton.mp hs
    exact hn.whole

theorem backward_join {p : Path} {start : Start} {before : List Name} (hb : ∀ s ∈ before, '/' ∉ s)
    (hn : Plain n) (h : parted (p / ⟨n⟩).chars = (start, joined (before ++ [n]))) :
    (p / ⟨n⟩).backward = n :: before.reverse := by
  simp [backward, h, segments_before hb hn, hn.notBlank]

theorem withExtension_join (p : Path) (hn : Plain n) {ext : Name} (he : Plain (stem n ++ '.' :: ext)) :
    (p / ⟨n⟩).withExtension ext = p / ⟨stem n ++ '.' :: ext⟩ := by
  obtain ⟨start, before, hb, h⟩ := parted_join p
  have hp := parted_chars (p / (⟨stem n ++ '.' :: ext⟩ : Path)).chars
  rw [h _ he] at hp
  simp only [withExtension, backward_join hb hn (h n hn), hn.notUp, if_false, h n hn]
  simp only [List.reverse_cons, List.reverse_reverse, hp]

theorem parent?_join (p : Path) (hn : Plain n) :
    ∃ dir, (p / ⟨n⟩).parent? = some dir ∧ ∀ a ∈ dir.ancestors, a.Above p := by
  obtain ⟨start, before, hb, h⟩ := parted_join p
  refine ⟨rebuilt start before.reverse, by simp [parent?, backward_join hb hn (h n hn), h n hn], ?_⟩
  intro a ha
  have hq := h n hn
  have hsteps : steps p = start.steps ++ before.filter (· ≠ []) := by
    have hs := steps_eq (p / ⟨n⟩)
    rw [steps_join p hn, hq, segments_before hb hn] at hs
    simpa [List.filter_append, hn.filled, ← List.append_assoc] using hs
  have hback : before.reverse.reverse <+: segments (parted (p / ⟨n⟩).chars).2 := by
    rw [hq, segments_before hb hn, List.reverse_reverse]
    exact List.prefix_append _ _
  have hd := rebuilt_above (p / ⟨n⟩) hback
  rw [hq, List.reverse_reverse, isAbsolute_join p hn] at hd
  obtain he | ⟨hp, habs⟩ := hd
  · obtain hd : rebuilt start before.reverse = ⟨[]⟩ := by
      cases hr : rebuilt start before.reverse
      simpa [hr] using he
    rw [hd] at ha
    obtain rfl : a = ⟨[]⟩ := by simpa [ancestors, parted, backward, segments, isBlank, parentsOf] using ha
    exact .inl rfl
  · exact (above_of_mem_ancestors ha).trans (hsteps ▸ hp) habs

end Last

end Provision.Path
