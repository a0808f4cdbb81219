import Provision.Proofs.Url.Escape
import Provision.Proofs.Url.Path
import Provision.Proofs.Fetch.Address

set_option autoImplicit false

namespace Provision.Fetch

open Url
open Utf8 (bytes)

def Names (path repo tag : List Char) : Prop :=
  ∃ part, path = route repo part ∧ part ≠ [] ∧ '/' ∉ part ∧ unescape part = bytes tag

/-- A repository that stands in a path as it is written. -/
structure Plain (repo : List Char) : Prop where
  literal : ∀ c ∈ repo, escapedIn pathSet c = false ∧ c ≠ '\\'
  proper : ∀ s ∈ segmentsOf false repo, Proper s

/-- A tag of which nothing is taken for more than a part of a name. -/
structure Faithful (tag : List Char) : Prop where
  nonempty : tag ≠ []
  undivided : ∀ c ∈ tag, c ∉ ['/', '\\', '?', '#', '\t', '\n', '\r']
  ending : ∀ h : tag ≠ [], isEdge (tag.getLast h) = false
  literal : hasEscape tag = false
  proper : Proper tag

def asked (repo tag : List Char) : List Char := route (straight repo) (straight (tag.rdropWhile isEdge))

section Segments

variable {special : Bool} {repo tag : List Char}

def front (special : Bool) (repo : List Char) : List (List Char) := repos :: segmentsOf special repo ++ [releases, tags]

theorem segmentsOf_route : segmentsOf special (route repo tag).tail = front special repo ++ segmentsOf special tag := by
  have hrepos : segmentsOf special repos = [repos] := by cases special <;> decide
  have hreleases : segmentsOf special releases = [releases] := by cases special <;> decide
  have htags : segmentsOf special tags = [tags] := by cases special <;> decide
  simp only [route, List.tail_cons, segmentsOf_append, hrepos, hreleases, htags, front, List.cons_append, List.nil_append,
    List.append_assoc]

theorem pathText_front {part : List Char} : pathText (part :: (front false repo).reverse) = route repo part := by
  simp only [pathText, List.reverse_cons, List.reverse_reverse, List.flatMap_append]
  simp only [front, List.cons_append, List.flatMap_cons, List.flatMap_append, flatMap_segmentsOf, List.flatMap_nil, route,
    List.append_assoc, List.append_nil]

theorem before_route (tag : List Char) (h : ∀ c ∈ repo, c ≠ '#' ∧ c ≠ '?') : before (route repo tag) = route repo (before tag) := by
  have hfront : ∀ tag, route repo tag = ('/' :: (repos ++ '/' :: (repo ++ '/' :: (releases ++ '/' :: (tags ++ ['/']))))) ++ tag := by
    intro tag
    simp only [route, List.cons_append, List.append_assoc, List.nil_append]
  have hmarks : ∀ {cs : List Char}, '#' ∉ cs → '?' ∉ cs → ∀ c ∈ cs, c ≠ '#' ∧ c ≠ '?' :=
    fun h h' c hc => ⟨fun heq => h (heq ▸ hc), fun heq => h' (heq ▸ hc)⟩
  have hrepos : ∀ c ∈ repos, c ≠ '#' ∧ c ≠ '?' := hmarks (by decide) (by decide)
  have hreleases : ∀ c ∈ releases, c ≠ '#' ∧ c ≠ '?' := hmarks (by decide) (by decide)
  have htags : ∀ c ∈ tags, c ≠ '#' ∧ c ≠ '?' := hmarks (by decide) (by decide)
  have hslash : ('/' : Char) ≠ '#' ∧ ('/' : Char) ≠ '?' := by decide
  rw [hfront, hfront, before_append]
  simp only [List.forall_mem_cons, List.forall_mem_append]
  exact ⟨hslash, hrepos, hslash, h, hslash, hreleases, hslash, htags, hslash, List.forall_mem_nil _⟩

theorem path_placed (cs : List Char) : (placed ('/' :: cs)).path = pathText (walk false [] (segmentsOf true (before cs))) := rfl

theorem path_route (h : ∀ c ∈ repo, c ≠ '#' ∧ c ≠ '?') :
    (placed (route repo tag)).path = pathText (walk false [] (front true repo ++ segmentsOf true (before tag))) := by
  have hbefore : before (route repo tag).tail = (route repo (before tag)).tail := congrArg List.tail (before_route tag h)
  rw [← segmentsOf_route, ← hbefore]
  exact path_placed _

end Segments

section Faithful

variable {repo tag : List Char}

theorem literal_ne {c : Char} (h : escapedIn pathSet c = false) :
    (c ≠ '#' ∧ c ≠ '?') ∧ c ≠ '\t' ∧ c ≠ '\n' ∧ c ≠ '\r' := by
  refine ⟨⟨?_, ?_⟩, ?_, ?_, ?_⟩ <;> · rintro rfl; exact absurd h (by decide)

theorem Plain.straight_eq (h : Plain repo) : straight repo = repo :=
  straight_eq_self.mpr fun c hc => (literal_ne (h.literal c hc).1).2

theorem Plain.segments_eq (h : Plain repo) : segmentsOf true repo = segmentsOf false repo :=
  segmentsOf_special fun c hc => (h.literal c hc).2

theorem Faithful.trimmed_eq (h : Faithful tag) : straight (tag.rdropWhile isEdge) = tag := by
  have hend : tag.rdropWhile isEdge = tag := List.rdropWhile_eq_self_iff.mpr fun hne => by simp [h.ending hne]
  rw [hend]
  refine straight_eq_self.mpr fun c hc => ?_
  have hall := h.undivided c hc
  simp only [List.mem_cons, List.not_mem_nil, or_false, not_or] at hall
  exact hall.2.2.2.2

theorem Faithful.before_eq (h : Faithful tag) : before tag = tag := by
  refine before_eq_self.mpr fun c hc => ?_
  have hall := h.undivided c hc
  simp only [List.mem_cons, List.not_mem_nil, or_false, not_or] at hall
  exact ⟨hall.2.2.2.1, hall.2.2.1⟩

theorem Faithful.segments_eq (h : Faithful tag) : segmentsOf true tag = [tag] := by
  refine segmentsOf_undivided fun c hc => ?_
  have hall := h.undivided c hc
  simp only [List.mem_cons, List.not_mem_nil, or_false, not_or] at hall
  simp [isSlash, hall.1, hall.2.1]

theorem Plain.front_kept (h : Plain repo) : (front true repo).foldl (stepInto false) [] = (front false repo).reverse := by
  have hproper : ∀ s ∈ front true repo, Proper s := by
    simp only [front, h.segments_eq, List.cons_append, List.forall_mem_cons, List.forall_mem_append]
    exact ⟨by decide, h.proper, by decide, by decide, nofun⟩
  have hescape : (front true repo).map (escape pathSet) = front false repo := by
    have hrepo : (segmentsOf false repo).map (escape pathSet) = segmentsOf false repo := by
      refine (List.map_congr_left fun s hs => ?_).trans (List.map_id _)
      exact escape_of_plain fun c hc => (h.literal c ((mem_segmentsOf hs).1.subset hc)).1
    simp only [front, h.segments_eq, List.cons_append, List.map_cons, List.map_append, List.map_nil, hrepo]
    have hrepos : escape pathSet repos = repos := by decide
    have hreleases : escape pathSet releases = releases := by decide
    have htags : escape pathSet tags = tags := by decide
    rw [hrepos, hreleases, htags]
  rw [foldl_proper hproper, hescape, List.append_nil]

theorem path_faithful (hrepo : Plain repo) (htag : Faithful tag) :
    (placed (asked repo tag)).path = route repo (escape pathSet tag) := by
  have hends : ∀ c ∈ repo, c ≠ '#' ∧ c ≠ '?' := fun c hc => (literal_ne (hrepo.literal c hc).1).1
  rw [asked, hrepo.straight_eq, htag.trimmed_eq, path_route hends, htag.before_eq, htag.segments_eq, walk_append,
    hrepo.front_kept, stepLast_proper htag.proper]
  exact pathText_front

theorem slash_mem_escape {set : List Char} (h : '/' ∈ escape set tag) : '/' ∈ tag := by
  obtain ⟨h, -⟩ | h | ⟨x, h⟩ := mem_escape h
  · exact h
  · cases h
  · cases h

theorem names_faithful (hrepo : Plain repo) (htag : Faithful tag) : Names (placed (asked repo tag)).path repo tag := by
  refine ⟨escape pathSet tag, path_faithful hrepo htag, escape_ne_nil htag.nonempty, fun h => ?_, ?_⟩
  · exact htag.undivided _ (slash_mem_escape h) (by simp)
  · rw [unescape_escape apart_path, unescape_eq_bytes.mpr htag.literal]

end Faithful

section Named

variable {repo tag part s : List Char}

theorem kept_literal {cs : List Char} : ∀ s ∈ walk false [] (segmentsOf true cs),
    ∀ c ∈ s, escapedIn pathSet c = false ∧ c ≠ '\\' ∧ c ≠ '/' := by
  refine walk_forall (fun s hs c hc => ⟨escapedIn_escape apart_path c hc, ?_⟩) nofun nofun
  obtain ⟨hc, -⟩ | rfl | ⟨x, hx⟩ := mem_escape hc
  · have hslash := (mem_segmentsOf hs).2 c hc
    simp only [isSlash, Bool.true_and, Bool.or_eq_false_iff, decide_eq_false_iff_not] at hslash
    exact hslash.symm
  · decide
  · refine ⟨?_, ?_⟩ <;> · rintro rfl; cases hx

theorem faithful_of_segment (hs : s ∈ segmentsOf true (before (straight (tag.rdropWhile isEdge)))) (hproper : Proper s)
    (hne : s ≠ []) (hbytes : unescape s = bytes tag) : Faithful tag := by
  obtain ⟨hpart, hundivided⟩ := mem_segmentsOf hs
  have htrimmed : (tag.rdropWhile isEdge).Sublist tag := (List.rdropWhile_prefix isEdge tag).sublist
  -- a segment is a part of the tag, and it stands for no more bytes than it has
  have hlength : (bytes tag).length ≤ (bytes s).length := hbytes ▸ (length_unescape s).1
  obtain rfl : s = tag :=
    Utf8.eq_of_sublist (((hpart.trans before_sublist).trans straight_sublist).trans htrimmed) hlength
  have hdrop : s.rdropWhile isEdge = s := htrimmed.antisymm ((hpart.trans before_sublist).trans straight_sublist)
  rw [hdrop] at hpart
  have hstraight : straight s = s := straight_sublist.antisymm (hpart.trans before_sublist)
  rw [hstraight] at hpart
  have hbefore : before s = s := before_sublist.antisymm hpart
  refine ⟨hne, fun c hc => ?_, fun h => ?_, unescape_eq_bytes.mp hbytes, hproper⟩
  · obtain ⟨hhash, hquestion⟩ := before_eq_self.mp hbefore c hc
    obtain ⟨htab, hline, hreturn⟩ := straight_eq_self.mp hstraight c hc
    have hslash := hundivided c hc
    simp only [isSlash, Bool.true_and, Bool.or_eq_false_iff, decide_eq_false_iff_not] at hslash
    simp only [List.mem_cons, List.not_mem_nil, or_false, not_or]
    exact ⟨hslash.1, hslash.2, hquestion, hhash, htab, hline, hreturn⟩
  · exact Bool.eq_false_iff.mpr (List.rdropWhile_eq_self_iff.mp hdrop h)

theorem literal_of_path {cs : List Char} (h : (placed ('/' :: cs)).path = route repo part) :
    ∀ c ∈ repo, escapedIn pathSet c = false ∧ c ≠ '\\' := by
  intro c hc
  have hmem : c ∈ (placed ('/' :: cs)).path := by
    rw [h]
    simp [route, hc]
  obtain ⟨s, hs, hcs⟩ := List.mem_flatMap.mp hmem
  obtain rfl | hcs := List.mem_cons.mp hcs
  · decide
  · obtain ⟨hliteral, hback, -⟩ := kept_literal s (List.mem_reverse.mp hs) c hcs
    exact ⟨hliteral, hback⟩

theorem kept_of_path (hpart : '/' ∉ part)
    (h : pathText (walk false [] (front true repo ++ segmentsOf true (before tag))) = route repo part) :
    walk false [] (front true repo ++ segmentsOf true (before tag)) = part :: (front false repo).reverse := by
  have hundivided : ∀ s ∈ (walk false [] (front true repo ++ segmentsOf true (before tag))).reverse, '/' ∉ s := by
    intro s hs hslash
    rw [← segmentsOf_route] at hs
    exact (kept_literal s (List.mem_reverse.mp hs) '/' hslash).2.2 rfl
  have hone : segmentsOf false part = [part] := by
    refine segmentsOf_undivided fun c hc => ?_
    have hne : c ≠ '/' := fun heq => hpart (heq ▸ hc)
    simp [isSlash, hne]
  have hsegments := segmentsOf_flatMap hundivided h
  have hroute : segmentsOf false (route repo part).tail = front false repo ++ [part] := by rw [segmentsOf_route, hone]
  rw [← List.reverse_reverse (walk _ _ _), ← hsegments]
  exact (congrArg List.reverse hroute).trans (by simp)

theorem names_iff : Names (placed (asked repo tag)).path repo tag ↔ Plain repo ∧ Faithful tag := by
  refine ⟨?_, fun h => names_faithful h.1 h.2⟩
  rintro ⟨part, hpath, hne, hslash, hbytes⟩
  have hliteral := literal_of_path hpath
  have hstraight : straight repo = repo := straight_eq_self.mpr fun c hc => (literal_ne (hliteral c hc).1).2
  have hsegments : segmentsOf true repo = segmentsOf false repo := segmentsOf_special fun c hc => (hliteral c hc).2
  rw [asked, hstraight, path_route fun c hc => (literal_ne (hliteral c hc).1).1] at hpath
  -- the path is that of a walk over segments; its last one must be the part that stands for the tag
  have hkept := kept_of_path hslash hpath
  obtain ⟨init, s, hinit⟩ : ∃ init s, segmentsOf true (before (straight (tag.rdropWhile isEdge))) = init ++ [s] :=
    ⟨_, _, (List.dropLast_append_getLast segmentsOf_ne_nil).symm⟩
  rw [hinit, ← List.append_assoc, walk_append] at hkept
  have hproper : Proper s := by
    by_contra himproper
    obtain ⟨kept, hnil⟩ := stepLast_improper false ((front true repo ++ init).foldl (stepInto false) [])
      himproper
    rw [hnil] at hkept
    exact hne (List.cons.inj hkept).1.symm
  rw [stepLast_proper hproper] at hkept
  obtain ⟨hpart, hfront⟩ := List.cons.inj hkept
  have hs : s ≠ [] := by
    rintro rfl
    exact hne hpart.symm
  have htag : Faithful tag := by
    refine faithful_of_segment (s := s) (hinit ▸ List.mem_append_right _ (List.mem_singleton_self s)) hproper hs ?_
    rw [← unescape_escape apart_path, hpart, hbytes]
  rw [htag.trimmed_eq, htag.before_eq, htag.segments_eq] at hinit
  obtain rfl : init = [] := by simpa using congrArg List.length hinit
  refine ⟨⟨hliteral, ?_⟩, htag⟩
  -- as many segments are kept as the repository has, so none of them was taken for a place
  rw [List.append_nil] at hfront
  have hall := (length_foldl [] (front true repo)).2 (by rw [hfront]; simp [front, hsegments])
  rw [← hsegments]
  exact fun s hs => hall s (by simp [front, hs])

end Named

end Provision.Fetch
