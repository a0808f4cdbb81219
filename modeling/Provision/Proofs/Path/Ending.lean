import Provision.Proofs.Path
import Mathlib.Data.List.TakeWhile

set_option autoImplicit false

namespace Provision.Path

/-- What stands behind the last dot of a name, if that is not the dot in front. -/
def extension? (name : Name) : Option Name :=
  match name.reverse.dropWhile (· ≠ '.') with
  | [] => none
  | _ :: before => if before.isEmpty then none else some (name.reverse.takeWhile (· ≠ '.')).reverse

theorem extension?_of_eq {n ext : Name} (hext : '.' ∉ ext) (h : n = stem n ++ '.' :: ext) : extension? n = some ext := by
  have hback : n.reverse = ext.reverse ++ '.' :: (stem n).reverse := by
    conv_lhs => rw [h]
    simp
  have hpos : ∀ c ∈ ext.reverse, (decide (c ≠ '.')) = true := by
    intro c hc
    have hne : c ≠ '.' := fun e => hext (e ▸ List.mem_reverse.mp hc)
    simpa using hne
  have htake : n.reverse.takeWhile (· ≠ '.') = ext.reverse := by
    rw [hback, List.takeWhile_append_of_pos hpos]
    simp
  have hdrop : n.reverse.dropWhile (· ≠ '.') = '.' :: (stem n).reverse := by
    rw [hback, List.dropWhile_append_of_pos hpos]
    simp
  -- without a stem the name would be its own stem
  have hstem : stem n ≠ [] := by
    intro he
    have hn : stem n = n := by
      rw [he] at hdrop
      rw [stem, hdrop]
      rfl
    rw [he] at hn
    rw [← hn] at h
    simp at h
  rw [extension?, hdrop, htake]
  simp [hstem]

theorem joined_append {l m : List Name} (hl : l ≠ []) (hm : m ≠ []) : joined (l ++ m) = joined l ++ '/' :: joined m := by
  induction l with
  | nil => exact absurd rfl hl
  | cons s l ih =>
    cases l with
    | nil =>
      cases m with
      | nil => exact absurd rfl hm
      | cons t m => rfl
    | cons t l =>
      have h := ih (by simp)
      simp only [List.cons_append] at h
      simp [joined, h]

theorem segments_suffixed {cs s : List Char} {l : List Name} {m : Name} (h : segments cs = l ++ [m]) (hs : '/' ∉ s) :
    segments (cs ++ s) = l ++ [m ++ s] := by
  have hwhole : ∀ x ∈ l ++ [m], '/' ∉ x := by
    intro x hx
    exact whole_of_mem_segments (h ▸ hx)
  have hjoined : cs ++ s = joined (l ++ [m ++ s]) := by
    rw [← joined_segments cs, h]
    cases l with
    | nil => rfl
    | cons x l =>
      rw [joined_append (by simp) (by simp), joined_append (by simp) (by simp)]
      simp [joined]
  rw [hjoined]
  refine segments_joined (by simp) fun x hx => ?_
  obtain hx | hx := List.mem_append.mp hx
  · exact hwhole x (List.mem_append_left _ hx)
  · obtain rfl := List.mem_singleton.mp hx
    have hm := hwhole m (by simp)
    simp [hm, hs]

theorem steps_suffixed {p : Path} {s : String} {before : List Name} {n : Name} (h : p.steps = before ++ [n])
    (hlast : p.chars.getLast? ≠ some '/') (hs : '/' ∉ s.toList) : (p.suffixed s).steps = before ++ [n ++ s.toList] := by
  obtain ⟨l, m, hsegs⟩ : ∃ l m, segments p.chars = l ++ [m] := by
    rcases List.eq_nil_or_concat (segments p.chars) with hnil | ⟨l, m, hl⟩
    · exact absurd hnil (segments_ne_nil p.chars)
    · exact ⟨l, m, by simpa using hl⟩
  have hm : m ≠ [] := by
    rintro rfl
    cases l with
    | nil => simp [steps, hsegs] at h
    | cons x l =>
      have hchars := joined_segments p.chars
      rw [hsegs, joined_append (by simp) (by simp)] at hchars
      rw [← hchars] at hlast
      simp [joined] at hlast
  have hsteps : l.filter (· ≠ []) ++ [m] = before ++ [n] := by
    rw [← h, steps, hsegs]
    simp [hm]
  obtain ⟨hl, hn⟩ := List.append_inj' hsteps rfl
  obtain rfl : m = n := by simpa using hn
  rw [steps, suffixed, segments_suffixed hsegs hs, List.filter_append, hl]
  simp [hm]

theorem isAbsolute_suffixed {p : Path} {s : String} (hp : p.chars ≠ []) : (p.suffixed s).isAbsolute = p.isAbsolute := by
  obtain ⟨cs⟩ := p
  cases cs with
  | nil => exact absurd rfl hp
  | cons c cs => rfl

def AsksDir (p : Path) : Prop := p.chars.getLast? = some '/' ∨ p.steps.getLast? = some ['.']

variable {p : Path} {n : Name}

theorem segments_of_fileName? (h : p.fileName? = some n) :
    Plain n ∧ ∃ before blanks, segments (parted p.chars).2 = before ++ n :: blanks ∧
      (∀ s ∈ blanks, isBlank s = true) ∧ p.backward = n :: before.reverse := by
  unfold fileName? at h
  cases hb : p.backward with
  | nil => simp [hb] at h
  | cons m rest =>
    rw [hb] at h
    by_cases hup : m = ['.', '.']
    · simp [hup] at h
    obtain rfl : m = n := by simpa [hup] using h
    have hsplit := List.takeWhile_append_dropWhile (p := isBlank) (l := (segments (parted p.chars).2).reverse)
    rw [← backward, hb] at hsplit
    have hsegs : segments (parted p.chars).2 =
        rest.reverse ++ m :: ((segments (parted p.chars).2).reverse.takeWhile isBlank).reverse := by
      simpa using (congrArg List.reverse hsplit).symm
    have hblank : isBlank m = false := by
      have hhead := List.head?_dropWhile_not isBlank (segments (parted p.chars).2).reverse
      rw [← backward, hb] at hhead
      simpa using hhead
    have hparts : m ≠ [] ∧ m ≠ ['.'] := by simpa [isBlank] using hblank
    refine ⟨⟨hparts.1, ?_, hparts.2, hup⟩, rest.reverse, _, hsegs, ?_, by simp⟩
    · have hmem : m ∈ segments (parted p.chars).2 := by
        rw [hsegs]
        simp
      exact whole_of_mem_segments hmem
    · intro s hs
      have hs' := List.mem_reverse.mp hs
      exact List.mem_takeWhile_imp hs'

theorem whole_before {before blanks : List Name} (hsegs : segments (parted p.chars).2 = before ++ n :: blanks) :
    ∀ s ∈ before, '/' ∉ s := by
  intro s hs
  have hmem : s ∈ segments (parted p.chars).2 := by
    rw [hsegs]
    simp [hs]
  exact whole_of_mem_segments hmem

theorem parted_upto {before blanks : List Name} (hn : Plain n)
    (hsegs : segments (parted p.chars).2 = before ++ n :: blanks) :
    parted ((parted p.chars).1.chars ++ joined (before ++ [n])) = ((parted p.chars).1, joined (before ++ [n])) := by
  have hchars := parted_chars p.chars
  have hwhole := whole_before hsegs
  have htail : ∃ rest, (parted p.chars).2 = joined (before ++ [n]) ++ rest := by
    rw [← joined_segments (parted p.chars).2, hsegs]
    cases blanks with
    | nil => exact ⟨[], by simp⟩
    | cons s blanks =>
      refine ⟨'/' :: joined (s :: blanks), ?_⟩
      rw [← joined_append (by simp) (by simp)]
      simp
  obtain ⟨rest, htail⟩ := htail
  have hsegs' := segments_before hwhole hn
  cases hs : (parted p.chars).1 with
  | root => rfl
  | here =>
    obtain h | h := opens_parted p.chars hs
    · exact absurd h (segments_ne_nil _)
    rw [hsegs] at h
    cases before with
    | nil => exact absurd (by simpa using h) hn.filled
    | cons s before =>
      obtain rfl : s = [] := by simpa using h
      rw [List.cons_append, show [] :: (before ++ [n]) = [[]] ++ (before ++ [n]) from rfl,
        joined_append (by simp) (by simp)]
      rfl
  -- without a start the text must not begin like one; it begins as the whole path does
  | bare =>
    rw [hs] at hchars
    simp only [Start.chars, List.nil_append] at hchars ⊢
    have hp : parted (joined (before ++ [n]) ++ rest) = (.bare, joined (before ++ [n]) ++ rest) := by
      rw [← htail, hchars]
      exact Prod.ext hs hchars
    generalize joined (before ++ [n]) = q at hp hsegs'
    unfold parted
    split
    · simp [parted] at hp
    · have he : ([] ++ [['.']] : List Name) = before ++ [n] := by simpa [segments] using hsegs'
      obtain ⟨-, he⟩ := List.append_inj' he rfl
      exact absurd (by simpa using he.symm) hn.notHere
    · simp [parted] at hp
    · rfl

def front (p : Path) : Path :=
  match p.backward with
  | [] => p
  | [_] => ⟨(parted p.chars).1.chars⟩
  | _ :: rest => ⟨(parted p.chars).1.chars ++ joined rest.reverse ++ ['/']⟩

theorem front_join {before blanks : List Name} (hn : Plain n)
    (hsegs : segments (parted p.chars).2 = before ++ n :: blanks) (hback : p.backward = n :: before.reverse) :
    p.front / ⟨n⟩ = ⟨(parted p.chars).1.chars ++ joined (before ++ [n])⟩ := by
  show Path.join _ _ = _
  cases before with
  | nil =>
    have hfront : p.front = ⟨(parted p.chars).1.chars⟩ := by simp [front, hback]
    rw [hfront]
    cases hs : (parted p.chars).1 with
    | bare => simp [join, isAbsolute_plain hn, Start.chars, joined]
    | root => simp [join, isAbsolute_plain hn, Start.chars, joined]
    | here =>
      obtain h | h := opens_parted p.chars hs
      · exact absurd h (segments_ne_nil _)
      · exact absurd (by simpa [hsegs] using h) hn.filled
  | cons s before =>
    have hfront : p.front = ⟨(parted p.chars).1.chars ++ joined (s :: before) ++ ['/']⟩ := by
      cases hr : (s :: before).reverse with
      | nil => simp at hr
      | cons t rest =>
        rw [hr] at hback
        rw [← List.reverse_reverse (s :: before), hr]
        simp only [front, hback]
    rw [hfront, joined_append (by simp) (by simp)]
    simp [join, isAbsolute_plain hn, joined]

/-- A path with a last name is that name in a directory, up to what stands behind it: that changes neither the
directory nor the names beside it. -/
theorem ending (h : p.fileName? = some n) :
    Plain n ∧ p.parent? = (p.front / ⟨n⟩).parent? ∧
      (∀ ext, p.withExtension ext = (p.front / ⟨n⟩).withExtension ext) ∧ (p = p.front / ⟨n⟩ ∨ p.AsksDir) := by
  obtain ⟨hn, before, blanks, hsegs, hblanks, hback⟩ := segments_of_fileName? h
  have hfront := front_join hn hsegs hback
  have hparted : parted (p.front / ⟨n⟩).chars = ((parted p.chars).1, joined (before ++ [n])) := by
    rw [hfront, parted_upto hn hsegs]
  have hback' := backward_join (whole_before hsegs) hn hparted
  refine ⟨hn, ?_, fun ext => ?_, ?_⟩
  · simp only [parent?, hback, hback', hparted]
  · simp only [withExtension, hback, hback', hn.notUp, if_false, hparted]
  · rcases List.eq_nil_or_concat blanks with rfl | ⟨blanks, s, rfl⟩
    · refine .inl ?_
      rw [hfront, ← hsegs, joined_segments, parted_chars]
    · refine .inr ?_
      have hs := hblanks s (by simp)
      simp only [isBlank, Bool.or_eq_true, decide_eq_true_eq] at hs
      rw [List.concat_eq_append, ← List.cons_append, ← List.append_assoc] at hsegs
      obtain rfl | rfl := hs
      · refine .inl ?_
        rw [← parted_chars p.chars, ← joined_segments (parted p.chars).2, hsegs, joined_append (by simp) (by simp)]
        simp [joined]
      · refine .inr ?_
        rw [steps_eq, hsegs]
        simp

theorem stem_subset (n : Name) : stem n ⊆ n := by
  unfold stem
  split
  · exact List.Subset.refl n
  · rename_i c before hdrop
    split
    · exact List.Subset.refl n
    · intro x hx
      have hmem : x ∈ c :: before := List.mem_cons_of_mem c (List.mem_reverse.mp hx)
      rw [← hdrop] at hmem
      exact List.mem_reverse.mp ((List.dropWhile_suffix _).subset hmem)

theorem Plain.extended (hn : Plain n) {ext : Name} (hext : '/' ∉ ext) (hne : ext ≠ []) (hdot : ext ≠ ['.']) :
    Plain (stem n ++ '.' :: ext) where
  filled := by simp
  whole := by
    intro h
    obtain h | h := List.mem_append.mp h
    · exact hn.whole (stem_subset n h)
    · obtain h | h := List.mem_cons.mp h
      · cases h
      · exact hext h
  notHere := by
    intro h
    have hlen := congrArg List.length h
    have hpos : 0 < ext.length := List.length_pos_iff.mpr hne
    simp only [List.length_append, List.length_cons, List.length_nil] at hlen
    omega
  notUp := by
    intro h
    have hlen := congrArg List.length h
    have hpos : 0 < ext.length := List.length_pos_iff.mpr hne
    simp only [List.length_append, List.length_cons, List.length_nil] at hlen
    have hstem : stem n = [] := List.length_eq_zero_iff.mp (by omega)
    rw [hstem] at h
    exact hdot (by simpa using h)

end Provision.Path
