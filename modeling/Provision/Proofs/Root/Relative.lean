import Provision.Program
import Provision.Proofs.Root
import Provision.Proofs.Disk.Linkless

/-!
What is printed for a relative path, and for the same path behind the current directory. The paths above a relative path
end at the current directory. Where a marker is found there or below, both answers name the same directory; what stands
above the current directory is seen from the absolute path only.
-/

set_option autoImplicit false

namespace Provision.Root

open Disk (admits admits_iff byteLength pathLimit startOf stepsOf walkPlain)

variable {m : Machine} {d : Disk} {cwd s a : Path} {markers : List String} {here home : Place} {front names : List Name}

/-- The markers that are looked for: those that are given, or the usual ones. -/
def asked (markers : List String) : List String := if markers.isEmpty then defaultMarkers else markers

def printed (m : Machine) (start : Path) (markers : List String) : Except (List String) String :=
  (m.run (Program.root start markers).plan).1

theorem printed_eq (m : Machine) (start : Path) (markers : List String) : printed m start markers =
    match (m.run (find start (asked markers))).1 with
    | some dir => .ok dir.text
    | none => .error ["No repository root found above " ++ start.text] := by
  have hplan : (Program.root start markers).plan = (find start (asked markers)).bind fun
      | some dir => .done (.ok dir.text)
      | none => .done (.error ["No repository root found above " ++ start.text]) := by
    show Plan.bind (Plan.bind _ _) _ = _
    rw [Plan.bind_bind]
    congr 1
  rw [printed, hplan]
  simp only [Machine.run, Plan.run_bind]
  cases (Plan.run Machine.serve (find start (asked markers)) m).1 <;> rfl

theorem byteLength_above {p k : Path} (ha : a ∈ p.ancestors) (hk : k.isAbsolute = false) :
    byteLength (a / k).chars ≤ byteLength (p / k).chars := by
  obtain ⟨j, hj⟩ := Path.mem_ancestors_iff.mp ha
  obtain ⟨⟨t, ht⟩, hlen⟩ := Path.ascend_shorter hj
  cases j with
  | zero =>
    obtain rfl : p = a := Option.some.inj hj
    exact le_rfl
  | succ j =>
    -- what is left out is at least the slash that is written in its place
    have hone : 1 ≤ byteLength t := by
      cases t with
      | nil =>
        rw [← ht] at hlen
        simp at hlen
      | cons c t => exact (Char.utf8Size_pos c).trans_le (Nat.le_add_right ..)
    have hp : byteLength p.chars = byteLength a.chars + byteLength t := by rw [← ht, Disk.byteLength_append]
    have hup := (Disk.byteLength_behind a hk).2
    have hdown := (Disk.byteLength_behind p hk).1
    omega

/-- Names lead from a place to a directory in which one of the markers leads on to something. -/
def Marked (d : Disk) (here : Place) (markers : List String) (names : List Name) : Prop :=
  (∀ n ∈ names, Char.ofNat 0 ∉ n) ∧ ∃ k ∈ markers, Char.ofNat 0 ∉ k.toList ∧
    ∃ home, d.Leads here names home ∧ ∃ place v, walkPlain d home (stepsOf (Path.ofString k)) = .ok (.there place) ∧
      d.get? place = some v

theorem marked_behind (linkless : d.Linkless) (h : d.Leads here front home) (hfront : ∀ n ∈ front, Char.ofNat 0 ∉ n) :
    Marked d here markers (front ++ names) ↔ Marked d home markers names := by
  have hleads : ∀ place, d.Leads here (front ++ names) place ↔ d.Leads home names place := by
    intro place
    rw [Disk.leads_append linkless]
    constructor
    · rintro ⟨q, hq, hplace⟩
      exact hq.unique h ▸ hplace
    · exact fun hplace => ⟨home, h, hplace⟩
  have hclean : (∀ n ∈ front ++ names, Char.ofNat 0 ∉ n) ↔ ∀ n ∈ names, Char.ofNat 0 ∉ n :=
    ⟨fun hall n hn => hall n (List.mem_append_right _ hn),
      fun hall n hn => (List.mem_append.mp hn).elim (hfront n) (hall n)⟩
  simp only [Marked, hclean, hleads]

/-- Markers that are relative and not empty, and none too long to be looked for from a path. -/
structure Fits (markers : List String) (p : Path) : Prop where
  relative : ∀ k ∈ markers, k ≠ "" ∧ (Path.ofString k).isAbsolute = false
  short : ∀ k ∈ markers, byteLength (p / Path.ofString k).chars ≤ pathLimit

theorem Fits.above {p : Path} (h : Fits markers p) (ha : a ∈ p.ancestors) : Fits markers a where
  relative := h.relative
  short k hk := (byteLength_above ha (h.relative k hk).2).trans (h.short k hk)

theorem Fits.relative_part (h : Fits markers (cwd / s)) (hcwd : cwd.chars ≠ []) (hs : s.isAbsolute = false) :
    Fits markers s where
  relative := h.relative
  short k hk := by
    have hone : 1 ≤ byteLength cwd.chars := by
      obtain ⟨c, cs, hc⟩ := List.exists_cons_of_ne_nil hcwd
      rw [hc]
      exact (Char.utf8Size_pos c).trans_le (Nat.le_add_right ..)
    have hk' := (h.relative k hk).2
    have hup := (Disk.byteLength_behind s hk').2
    have hjoin := (Disk.byteLength_behind cwd hs).1
    have hdown := (Disk.byteLength_behind (cwd / s) hk').1
    have hshort := h.short k hk
    omega

/-- The current directory is reached by an absolute path, on a disk without links. -/
structure Stands (m : Machine) (cwd : Path) : Prop where
  linkless : m.disk.Linkless
  absolute : cwd.isAbsolute = true
  found : m.disk.find m.cwd cwd = .ok (m.cwd, .dir)

namespace Stands

variable (h : Stands m cwd)

include h

theorem filled : cwd.chars ≠ [] := by
  intro he
  simpa [Path.isAbsolute, he] using h.absolute

theorem leads : m.disk.Leads [] cwd.names m.cwd := by
  have hleads := ((Disk.find_dir_iff h.linkless).mp h.found).2
  rwa [startOf, h.absolute] at hleads

theorem clean : ∀ n ∈ cwd.names, Char.ofNat 0 ∉ n := by
  intro n hn hzero
  have hadmits := ((Disk.find_dir_iff h.linkless).mp h.found).1
  exact (admits_iff.mp hadmits).1 ((Path.mem_chars_iff (by decide) (by decide)).mpr ⟨n, hn, hzero⟩)

end Stands

theorem holds_iff (linkless : m.disk.Linkless) (h : Fits markers a) :
    Holds (sight Machine.serve m) markers a ↔ Marked m.disk (startOf m.cwd a) markers a.names := by
  -- where a marker is found, but for names that no call takes
  have hfind : ∀ k ∈ markers, (∃ kind, sight Machine.serve m (a / Path.ofString k) = .ok kind) ↔
      admits (a / Path.ofString k) = .ok () ∧ ∃ home, m.disk.Leads (startOf m.cwd a) a.names home ∧
        ∃ place v, walkPlain m.disk home (stepsOf (Path.ofString k)) = .ok (.there place) ∧
          m.disk.get? place = some v := by
    intro k hk
    obtain ⟨hne, hrel⟩ := h.relative k hk
    have hne' : (Path.ofString k).chars ≠ [] := fun he => hne (String.toList_inj.mp he)
    have hsight : (∃ kind, sight Machine.serve m (a / Path.ofString k) = .ok kind) ↔
        ∃ place v, m.disk.find m.cwd (a / Path.ofString k) = .ok (place, v) := by
      show (∃ kind, Except.map _ _ = _) ↔ _
      cases m.disk.find m.cwd (a / Path.ofString k) <;> simp [Except.map, Prod.exists.symm]
    rw [hsight]
    simp only [Disk.find_behind linkless hne' hrel]
    constructor
    · rintro ⟨place, v, hadmits, home, hl, hw, hv⟩
      exact ⟨hadmits, home, hl, place, v, hw, hv⟩
    · rintro ⟨hadmits, home, hl, place, v, hw, hv⟩
      exact ⟨place, v, hadmits, home, hl, hw, hv⟩
  -- a path is refused for what is in its names, or for its length
  have hadmits : ∀ k ∈ markers, admits (a / Path.ofString k) = .ok () ↔
      (∀ n ∈ a.names, Char.ofNat 0 ∉ n) ∧ Char.ofNat 0 ∉ k.toList := by
    intro k hk
    obtain ⟨hne, hrel⟩ := h.relative k hk
    have hk0 : Char.ofNat 0 ∈ k.toList ↔ ∃ n ∈ (Path.ofString k).names, Char.ofNat 0 ∈ n :=
      Path.mem_chars_iff (p := Path.ofString k) (by decide) (by decide)
    have hnil : (a / Path.ofString k).chars ≠ [] :=
      Path.behind_ne_nil a fun he => hne (String.toList_inj.mp he)
    rw [admits_iff, and_iff_left ⟨hnil, h.short k hk⟩, Path.mem_chars_iff (by decide) (by decide),
      Path.names_join a hrel, hk0]
    simp only [List.mem_append, or_and_right, exists_or, not_or, not_exists, not_and]
  constructor
  · rintro ⟨k, hk, hkind⟩
    obtain ⟨hok, hrest⟩ := (hfind k hk).mp hkind
    obtain ⟨hclean, hk0⟩ := (hadmits k hk).mp hok
    exact ⟨hclean, k, hk, hk0, hrest⟩
  · rintro ⟨hclean, k, hk, hk0, hrest⟩
    exact ⟨k, hk, (hfind k hk).mpr ⟨(hadmits k hk).mpr ⟨hclean, hk0⟩, hrest⟩⟩

def meets (m : Machine) (markers : List String) (p : Path) : Bool := ((holdsAny p markers).run Machine.serve m).1

theorem meets_iff (linkless : m.disk.Linkless) (h : Fits markers a) :
    meets m markers a = true ↔ Marked m.disk (startOf m.cwd a) markers a.names :=
  (run_holdsAny (fun _ => rfl) a markers).1.trans (holds_iff linkless h)

section Search

open Classical in
noncomputable def marks (d : Disk) (here : Place) (markers : List String) (names : List Name) : Bool :=
  decide (Marked d here markers names)

theorem meets_eq (linkless : m.disk.Linkless) (h : Fits markers a) :
    meets m markers a = marks m.disk (startOf m.cwd a) markers a.names := by
  rw [Bool.eq_iff_iff, meets_iff linkless h]
  simp [marks]

theorem map_find? {α β : Type} {f : α → β} {P : α → Bool} {Q : β → Bool} {l : List α} (h : ∀ a ∈ l, P a = Q (f a)) :
    (l.find? P).map f = (l.map f).find? Q := by
  rw [List.find?_map]
  congr 1
  induction l with
  | nil => rfl
  | cons a l ih =>
    rw [List.find?_cons, List.find?_cons, h a (List.mem_cons_self ..), Function.comp_apply,
      ih fun b hb => h b (List.mem_cons_of_mem _ hb)]

theorem find?_relative (linkless : m.disk.Linkless) (hrel : s.isAbsolute = false) (hfits : Fits markers s) :
    (s.ancestors.find? (meets m markers)).map Path.names =
      (s.names.reverse.tails.map List.reverse).find? (marks m.disk m.cwd markers) := by
  have hmeets : ∀ a ∈ s.ancestors, meets m markers a = marks m.disk m.cwd markers a.names := by
    intro a ha
    rw [meets_eq linkless (hfits.above ha), startOf, Path.relative_of_mem_ancestors ha hrel]
    rfl
  rw [map_find? hmeets, Path.map_names_ancestors, List.find?_append]
  -- the empty path has no other names than the last of the others
  cases hfind : (s.names.reverse.tails.map List.reverse).find? (marks m.disk m.cwd markers) with
  | some names => rfl
  | none =>
    have hnil : marks m.disk m.cwd markers [] = false := by
      have hmem : ([] : List Name) ∈ s.names.reverse.tails.map List.reverse :=
        List.mem_map.mpr ⟨[], (List.mem_tails _ _).mpr List.nil_suffix, rfl⟩
      simpa using List.find?_eq_none.mp hfind [] hmem
    split <;> simp [hnil]

theorem Stands.find?_inner (h : Stands m cwd) (hrel : s.isAbsolute = false) (hfits : Fits markers (cwd / s))
    {inner : List Path} (hinner : ∀ b ∈ inner, b ∈ (cwd / s).ancestors)
    (hnames : inner.map Path.names = s.names.reverse.tails.map fun l => cwd.names ++ l.reverse) :
    (inner.find? (meets m markers)).map Path.names =
      (s.ancestors.find? (meets m markers)).map fun a => cwd.names ++ a.names := by
  have hmeets : ∀ b ∈ inner, meets m markers b = marks m.disk [] markers b.names := by
    intro b hb
    have habs : b.isAbsolute = true :=
      Path.absolute_of_mem_ancestors (hinner b hb) ((Path.isAbsolute_behind cwd hrel).trans h.absolute)
    rw [meets_eq h.linkless (hfits.above (hinner b hb)), startOf, habs]
    rfl
  have hbehind : marks m.disk [] markers ∘ (cwd.names ++ ·) = marks m.disk m.cwd markers := by
    funext names
    exact decide_eq_decide.mpr (marked_behind h.linkless h.leads h.clean)
  have hfronts : (s.names.reverse.tails.map fun l => cwd.names ++ l.reverse) =
      (s.names.reverse.tails.map List.reverse).map (cwd.names ++ ·) := by
    rw [List.map_map]
    rfl
  calc (inner.find? (meets m markers)).map Path.names
      = ((s.names.reverse.tails.map List.reverse).find? (marks m.disk m.cwd markers)).map (cwd.names ++ ·) := by
        rw [map_find? hmeets, hnames, hfronts, List.find?_map, hbehind]
    _ = ((s.ancestors.find? (meets m markers)).map Path.names).map (cwd.names ++ ·) := by
        rw [find?_relative h.linkless hrel (hfits.relative_part h.filled hrel)]
    _ = (s.ancestors.find? (meets m markers)).map fun a => cwd.names ++ a.names := Option.map_map ..

end Search

theorem leads_of_meets (linkless : m.disk.Linkless) (hfits : Fits markers a) (h : meets m markers a = true) :
    ∃ home, m.disk.Leads (startOf m.cwd a) a.names home ∧ (a.chars ≠ [] → m.disk.find m.cwd a = .ok (home, .dir)) := by
  obtain ⟨hclean, k, hk, -, home, hleads, -⟩ := (meets_iff linkless hfits).mp h
  refine ⟨home, hleads, fun hne => (Disk.find_dir_iff linkless).mpr ⟨admits_iff.mpr ⟨fun hzero => ?_, hne, ?_⟩, hleads⟩⟩
  · obtain ⟨n, hn, hzero⟩ := (Path.mem_chars_iff (by decide) (by decide)).mp hzero
    exact hclean n hn hzero
  · have hshort := hfits.short k hk
    have hdown := (Disk.byteLength_behind a (hfits.relative k hk).2).1
    omega

/-- A path above a relative one, and the one with its names above the same path behind the current directory, lead to the
same directory if both are found. The empty path leads nowhere; it is found in the place of the current directory. -/
theorem Stands.found_alike (h : Stands m cwd) (hrel : s.isAbsolute = false) (hfits : Fits markers (cwd / s)) {b : Path}
    (ha : a ∈ s.ancestors) (hb : b ∈ (cwd / s).ancestors) (hnames : b.names = cwd.names ++ a.names)
    (hma : meets m markers a = true) (hmb : meets m markers b = true) :
    ∃ home, m.disk.find m.cwd b = .ok (home, .dir) ∧
      if a.text = "" then home = m.cwd else m.disk.find m.cwd a = .ok (home, .dir) := by
  have habs : b.isAbsolute = true := Path.absolute_of_mem_ancestors hb ((Path.isAbsolute_behind cwd hrel).trans h.absolute)
  obtain ⟨home, hleads, hfound⟩ := leads_of_meets h.linkless ((hfits.relative_part h.filled hrel).above ha) hma
  obtain ⟨home', hleads', hfound'⟩ := leads_of_meets h.linkless (hfits.above hb) hmb
  rw [startOf, Path.relative_of_mem_ancestors ha hrel] at hleads
  rw [startOf, habs, hnames] at hleads'
  obtain rfl : home' = home := hleads'.unique ((Disk.leads_append h.linkless).mpr ⟨m.cwd, h.leads, hleads⟩)
  refine ⟨home', hfound' fun hempty => ?_, ?_⟩
  · simp [Path.isAbsolute, hempty] at habs
  · split
    · rename_i hempty
      obtain rfl : a = ⟨[]⟩ := (Path.ofString_text a).symm.trans (congrArg Path.ofString hempty)
      exact hleads.unique ⟨rfl, h.leads.2⟩
    · rename_i hne
      refine hfound fun hempty => hne ?_
      simp [Path.text, hempty]

theorem run_find (m : Machine) (start : Path) (markers : List String) :
    ((find start markers).run Machine.serve m).1 = start.ancestors.find? (meets m markers) := by
  rw [find, run_firstOf fun _ => rfl]
  rfl

theorem printed_ok_iff {start : Path} {text : String} :
    printed m start markers = .ok text ↔
      ∃ dir, start.ancestors.find? (meets m (asked markers)) = some dir ∧ dir.text = text := by
  rw [printed_eq, Machine.run, run_find]
  cases start.ancestors.find? (meets m (asked markers)) <;> simp

theorem printed_iff_nearest (start : Path) (text : String) : printed m start markers = .ok text ↔
    ∃ k dir, Nearest (sight Machine.serve m) start (asked markers) k dir ∧ dir.text = text := by
  rw [printed_ok_iff]
  constructor
  · rintro ⟨dir, hfind, rfl⟩
    obtain ⟨k, hk⟩ := (find_eq_some (fun _ => rfl) start (asked markers) dir).mp (by rw [run_find, hfind])
    exact ⟨k, dir, hk, rfl⟩
  · rintro ⟨k, dir, hk, rfl⟩
    exact ⟨dir, by rw [← run_find, (find_eq_some (fun _ => rfl) start (asked markers) dir).mpr ⟨k, hk⟩], rfl⟩

/-- What is printed is the nearest path above the start that holds a marker. For a relative path it names the directory
that is printed for the same path behind the current one; an empty line stands for the current directory itself. Where
nothing is found for the relative path, what is found for the absolute one is what is found from the directory above the
current one, which the relative path never comes to. -/
theorem printed_relative (h : Stands m cwd) (hrel : s.isAbsolute = false) (hfits : Fits (asked markers) (cwd / s)) :
    (∀ start text, printed m start markers = .ok text ↔
      ∃ k dir, Nearest (sight Machine.serve m) start (asked markers) k dir ∧ dir.text = text) ∧
    (∀ text, printed m s markers = .ok text → ∃ text' home, printed m (cwd / s) markers = .ok text' ∧
      m.disk.find m.cwd text' = .ok (home, .dir) ∧
        if text = "" then home = m.cwd else m.disk.find m.cwd text = .ok (home, .dir)) ∧
    ∀ e, printed m s markers = .error e → ∀ text, printed m (cwd / s) markers = .ok text ↔
      ∃ up, cwd.parent? = some up ∧ printed m up markers = .ok text := by
  obtain ⟨inner, hancestors, hnames⟩ := Path.ancestors_join h.filled hrel
  have hinner : ∀ b ∈ inner, b ∈ (cwd / s).ancestors := fun b hb => hancestors ▸ List.mem_append_left _ hb
  have hsame := h.find?_inner hrel hfits hinner hnames
  -- the paths above the absolute one are those inside of the current directory, and then those above it
  refine ⟨printed_iff_nearest, fun text htext => ?_, fun e he text => ?_⟩
  · obtain ⟨a, ha, rfl⟩ := printed_ok_iff.mp htext
    rw [ha] at hsame
    obtain ⟨b, hb, hbnames⟩ := Option.map_eq_some_iff.mp hsame
    obtain ⟨home, hhome, halike⟩ := h.found_alike hrel hfits (List.mem_of_find?_eq_some ha)
      (hinner b (List.mem_of_find?_eq_some hb)) hbnames (List.find?_some ha) (List.find?_some hb)
    refine ⟨b.text, home, printed_ok_iff.mpr ⟨b, ?_, rfl⟩, ?_, ?_⟩
    · rw [hancestors, List.find?_append, hb]
      rfl
    · rwa [Path.ofString_text]
    · rwa [Path.ofString_text]
  · have hnone : s.ancestors.find? (meets m (asked markers)) = none := by
      by_contra hsome
      obtain ⟨a, ha⟩ := Option.ne_none_iff_exists'.mp hsome
      rw [printed_ok_iff.mpr ⟨a, ha, rfl⟩] at he
      cases he
    have hnone' : inner.find? (meets m (asked markers)) = none := by
      rw [hnone] at hsame
      simpa using hsame
    rw [printed_ok_iff, hancestors, List.find?_append, hnone', Option.none_or]
    cases hup : cwd.parent? with
    | none => simp
    | some up => simp [printed_ok_iff]

section Concrete

def work : Machine := {
  disk := ⟨[(["a".toList, "w".toList], .dir), (["w".toList], .dir), ([".git".toList], .dir)], 0⟩
  cwd := ["w".toList]
  env := []
  answers := []
  requests := []
  journal := [] }

theorem stands_work : Stands work "/w" where
  linkless := Disk.linkless_of_entries (by simp [work])
  absolute := rfl
  found := by decide +kernel

theorem fits_work {marker : String} (h : marker = "a" ∨ marker = ".git") : Fits (asked [marker]) ("/w" / "a" : Path) := by
  constructor
  · obtain rfl | rfl := h <;> decide +kernel
  · obtain rfl | rfl := h <;> decide +kernel

/-- A marker in the current directory is found from both paths, the repository around it from the absolute one. -/
theorem printed_relative_work :
    (∃ text', printed work ("/w" / "a" : Path) ["a"] = .ok text' ∧
      work.disk.find work.cwd text' = .ok (["w".toList], .dir)) ∧
    printed work ("/w" / "a" : Path) [".git"] = .ok "/" := by
  constructor
  · obtain ⟨text', home, htext', hfound, hhome⟩ :=
      (printed_relative stands_work (s := "a") rfl (fits_work (.inl rfl))).2.1 "" (by decide +kernel)
    obtain rfl : home = ["w".toList] := hhome
    exact ⟨text', htext', hfound⟩
  · have habove := (printed_relative stands_work (s := "a") rfl (fits_work (.inr rfl))).2.2 _ rfl "/"
    exact habove.mpr ⟨"/", rfl, by decide +kernel⟩

/-- The repository around the current directory is found for the absolute path and not for the relative one. -/
theorem repository_unseen : Stands work "/w" ∧ (Path.ofString "a").isAbsolute = false ∧
    Fits (asked [".git"]) ("/w" / "a" : Path) ∧ printed work ("/w" / "a" : Path) [".git"] = .ok "/" ∧
    printed work "a" [".git"] = .error ["No repository root found above a"] :=
  ⟨stands_work, rfl, fits_work (.inr rfl), by decide +kernel, by decide +kernel⟩

end Concrete

end Provision.Root
