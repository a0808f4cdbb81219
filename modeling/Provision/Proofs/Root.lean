import Provision.Root
import Provision.Machine
import Provision.Proofs.Course
import Provision.Proofs.Path.Ancestors

/-!
The nearest path above a start at which a marker is found. Where what is found does not change while one looks, the
search finds just the nearest one; two lists of markers together find the nearer of what each finds.
-/

set_option autoImplicit false

namespace Provision.Root

variable {σ : Type} {serve : (c : kernel.Call) → σ → kernel.Reply c × σ} {x : σ}

def sight (serve : (c : kernel.Call) → σ → kernel.Reply c × σ) (x : σ) (p : Path) : Except Fault Kind :=
  (serve (.inspect p) x).1

/-- Something is found at one of the markers, taken from a path. -/
def Holds (look : Path → Except Fault Kind) (markers : List String) (dir : Path) : Prop :=
  ∃ m ∈ markers, ∃ kind, look (dir / Path.ofString m) = .ok kind

/-- So many steps above the start a marker is found, and none before. -/
structure Nearest (look : Path → Except Fault Kind) (start : Path) (markers : List String) (k : Nat) (dir : Path) :
    Prop where
  above : start.ascend k = some dir
  holds : Holds look markers dir
  first : ∀ j < k, ∀ a, start.ascend j = some a → ¬ Holds look markers a

theorem holdsAny_cons (dir : Path) (m : String) (markers : List String) :
    holdsAny dir (m :: markers) = .ask (I := kernel) (.inspect (dir / Path.ofString m)) fun
      | .ok _ => .done true
      | .error _ => holdsAny dir markers := by
  show Plan.ask _ _ = _
  congr 1
  funext r
  cases r <;> rfl

theorem firstOf_cons (markers : List String) (dir : Path) (dirs : List Path) :
    firstOf markers (dir :: dirs) = (holdsAny dir markers).bind fun
      | true => .done (some dir)
      | false => firstOf markers dirs := by
  show Plan.bind _ _ = _
  congr 1
  funext r
  cases r <;> rfl

section Holds

variable {look : Path → Except Fault Kind} {start dir : Path} {markers markers' : List String}

theorem Holds.mono (h : Holds look markers dir) (hm : markers ⊆ markers') : Holds look markers' dir := by
  obtain ⟨m, hmem, hkind⟩ := h
  exact ⟨m, hm hmem, hkind⟩

theorem holds_append : Holds look (markers ++ markers') dir ↔ Holds look markers dir ∨ Holds look markers' dir := by
  constructor
  · rintro ⟨m, hm, hkind⟩
    exact (List.mem_append.mp hm).imp (fun hm => ⟨m, hm, hkind⟩) (fun hm => ⟨m, hm, hkind⟩)
  · rintro (h | h)
    · exact h.mono (List.subset_append_left ..)
    · exact h.mono (List.subset_append_right ..)

theorem Nearest.congr {k : Nat} (h : Nearest look start markers k dir)
    (same : ∀ j a, start.ascend j = some a → (Holds look markers a ↔ Holds look markers' a)) :
    Nearest look start markers' k dir where
  above := h.above
  holds := (same k dir h.above).mp h.holds
  first j hj a ha hholds := h.first j hj a ha ((same j a ha).mpr hholds)

end Holds

section Search

variable (still : ∀ p, (serve (.inspect p) x).2 = x)

include still

theorem run_holdsAny (dir : Path) (markers : List String) :
    (((holdsAny dir markers).run serve x).1 = true ↔ Holds (sight serve x) markers dir) ∧
      ((holdsAny dir markers).run serve x).2 = x := by
  induction markers with
  | nil => exact ⟨by simp [holdsAny, Plan.run, Holds, pure], rfl⟩
  | cons m markers ih =>
    rw [holdsAny_cons, Plan.run, still]
    cases hm : (serve (.inspect (dir / Path.ofString m)) x).1 with
    | ok kind =>
      refine ⟨⟨fun _ => ⟨m, List.mem_cons_self .., kind, hm⟩, fun _ => rfl⟩, rfl⟩
    | error e =>
      refine ⟨ih.1.trans ⟨?_, ?_⟩, ih.2⟩
      · rintro ⟨m', hm', hkind⟩
        exact ⟨m', List.mem_cons_of_mem _ hm', hkind⟩
      · rintro ⟨m', hm', kind, hkind⟩
        obtain rfl | hm' := List.mem_cons.mp hm'
        · cases hm.symm.trans hkind
        · exact ⟨m', hm', kind, hkind⟩

theorem run_firstOf (markers : List String) (dirs : List Path) :
    (firstOf markers dirs).run serve x = (dirs.find? fun dir => ((holdsAny dir markers).run serve x).1, x) := by
  induction dirs with
  | nil => rfl
  | cons dir dirs ih =>
    rw [firstOf_cons, Plan.run_bind, (run_holdsAny still dir markers).2, List.find?_cons]
    cases ((holdsAny dir markers).run serve x).1 with
    | true => rfl
    | false => exact ih

theorem find_eq_some (start : Path) (markers : List String) (dir : Path) :
    ((find start markers).run serve x).1 = some dir ↔
      ∃ k, Nearest (sight serve x) start markers k dir := by
  have hholds := fun dir => (run_holdsAny still dir markers).1
  rw [find, run_firstOf still, List.find?_eq_some_iff_getElem]
  constructor
  · rintro ⟨hdir, k, hk, rfl, hfirst⟩
    refine ⟨k, ?_, (hholds _).mp hdir, fun j hj a ha => ?_⟩
    · rw [Path.ascend_eq, List.getElem?_eq_getElem hk]
    · rw [Path.ascend_eq, List.getElem?_eq_getElem (hj.trans hk)] at ha
      obtain rfl := Option.some.inj ha
      intro h
      simpa [(hholds _).mpr h] using hfirst j hj
  · rintro ⟨k, habove, hdir, hfirst⟩
    rw [Path.ascend_eq] at habove
    obtain ⟨hk, hget⟩ := List.getElem?_eq_some_iff.mp habove
    refine ⟨(hholds _).mpr hdir, k, hk, hget, fun j hj => ?_⟩
    have hnot := hfirst j hj start.ancestors[j] (by rw [Path.ascend_eq, List.getElem?_eq_getElem])
    simpa using fun h => hnot ((hholds _).mp h)

theorem find_eq_none (start : Path) (markers : List String) :
    ((find start markers).run serve x).1 = none ↔
      ∀ k a, start.ascend k = some a → ¬ Holds (sight serve x) markers a := by
  have hholds := fun dir => (run_holdsAny still dir markers).1
  rw [find, run_firstOf still, List.find?_eq_none]
  constructor
  · intro h k a ha hholds'
    rw [Path.ascend_eq] at ha
    exact h a (List.mem_of_getElem? ha) ((hholds a).mpr hholds')
  · intro h a ha hfound
    obtain ⟨k, hk⟩ := List.mem_iff_getElem?.mp ha
    exact h k a (by rw [Path.ascend_eq, hk]) ((hholds a).mp hfound)

theorem find_congr {start : Path} {markers markers' : List String}
    (same : ∀ k a, start.ascend k = some a → (Holds (sight serve x) markers a ↔
      Holds (sight serve x) markers' a)) :
    ((find start markers).run serve x).1 = ((find start markers').run serve x).1 := by
  refine Option.ext fun dir => ?_
  rw [find_eq_some still, find_eq_some still]
  constructor
  · rintro ⟨k, h⟩
    exact ⟨k, h.congr same⟩
  · rintro ⟨k, h⟩
    exact ⟨k, h.congr fun j a ha => (same j a ha).symm⟩

theorem find_either {start : Path} {markers markers' both : List String} {j : Nat} {a : Path}
    (hboth : ∀ d, Holds (sight serve x) both d ↔
      Holds (sight serve x) markers d ∨ Holds (sight serve x) markers' d)
    (hfound : Nearest (sight serve x) start markers j a)
    (hother : ∀ i < j, ∀ b, start.ascend i = some b → ¬ Holds (sight serve x) markers' b) :
    ((find start both).run serve x).1 = some a := by
  refine (find_eq_some still start both a).mpr ⟨j, hfound.above, (hboth a).mpr (.inl hfound.holds), fun i hi b hb h => ?_⟩
  obtain h | h := (hboth b).mp h
  · exact hfound.first i hi b hb h
  · exact hother i hi b hb h

theorem find_append (start : Path) (markers markers' : List String) :
    let found (ms : List String) := ((find start ms).run serve x).1
    (found markers = none → found (markers ++ markers') = found markers') ∧
    (found markers' = none → found (markers ++ markers') = found markers) ∧
    ∀ j k a b, found markers = some a → found markers' = some b → start.ascend j = some a → start.ascend k = some b →
      found (markers ++ markers') = some (if j ≤ k then a else b) := by
  intro found
  refine ⟨fun hnone => find_congr still fun k a ha => ?_, fun hnone => find_congr still fun k a ha => ?_, ?_⟩
  · rw [holds_append]
    exact or_iff_right ((find_eq_none still start markers).mp hnone k a ha)
  · rw [holds_append]
    exact or_iff_left ((find_eq_none still start markers').mp hnone k a ha)
  · intro j k a b hfound hfound' hj hk
    obtain ⟨j', hnearest⟩ := (find_eq_some still start markers a).mp hfound
    obtain ⟨k', hnearest'⟩ := (find_eq_some still start markers' b).mp hfound'
    -- each list finds its own at just one height, so the heights can be compared
    obtain rfl := Path.ascend_injective hnearest.above hj
    obtain rfl := Path.ascend_injective hnearest'.above hk
    split
    · refine find_either still (fun d => holds_append) hnearest fun i hi => ?_
      exact hnearest'.first i (by omega)
    · refine find_either still (fun d => holds_append.trans or_comm) hnearest' fun i hi => ?_
      exact hnearest.first i (by omega)

end Search

/-- Where what is found does not change while one looks, the search finds the nearest path above the start that holds a
marker, and nothing just if none does. Of two lists of markers together it finds the nearer of what each finds, so that
neither their order nor their number counts; and from what it has found it finds the same again. -/
theorem find_nearest (still : ∀ p, (serve (.inspect p) x).2 = x) (start : Path) :
    let look := sight serve x
    let found (start : Path) (markers : List String) := ((find start markers).run serve x).1
    (∀ markers dir, found start markers = some dir ↔ ∃ k, Nearest look start markers k dir) ∧
    (∀ markers, found start markers = none ↔ ∀ k a, start.ascend k = some a → ¬ Holds look markers a) ∧
    (∀ markers markers',
      (found start markers = none → found start (markers ++ markers') = found start markers') ∧
      (found start markers' = none → found start (markers ++ markers') = found start markers) ∧
      ∀ j k a b, found start markers = some a → found start markers' = some b →
        start.ascend j = some a → start.ascend k = some b →
        found start (markers ++ markers') = some (if j ≤ k then a else b)) ∧
    (∀ markers markers', (∀ m, m ∈ markers ↔ m ∈ markers') → found start markers = found start markers') ∧
    (∀ markers dir, found start markers = some dir → found dir markers = some dir) ∧
    ∀ markers, ((find start markers).run serve x).2 = x := by
  intro look found
  refine ⟨fun markers dir => find_eq_some still start markers dir, fun markers => find_eq_none still start markers,
    fun markers markers' => find_append still start markers markers', fun markers markers' h => ?_,
    fun markers dir h => ?_, fun markers => ?_⟩
  · refine find_congr still fun k a ha => ⟨fun hholds => ?_, fun hholds => ?_⟩
    · exact hholds.mono fun m hm => (h m).mp hm
    · exact hholds.mono fun m hm => (h m).mpr hm
  · obtain ⟨k, hnearest⟩ := (find_eq_some still start markers dir).mp h
    exact (find_eq_some still dir markers dir).mpr ⟨0, rfl, hnearest.holds, by simp⟩
  · rw [find, run_firstOf still]

section Concrete

/-- A project in a project, whose inner one has a file in the place of the usual directory. -/
def projects : Machine := {
  disk := ⟨[(["src".toList, "in".toList, "out".toList], .dir),
    ([".git".toList, "in".toList, "out".toList], .file 0 0o644 ByteArray.empty),
    (["in".toList, "out".toList], .dir), ([".git".toList, "out".toList], .dir), (["out".toList], .dir)], 1⟩
  cwd := []
  env := []
  answers := []
  requests := []
  journal := [] }

/-- The nearest of two projects. -/
theorem find_nearest_inner : (projects.run (find "/out/in/src/" [".git"])).1 = some "/out/in" ∧
    (projects.run (find "/out/in/src/" ["in", ".git"])).1 = some "/out/in" ∧
    (projects.run (find "/out/in" [".git"])).1 = some "/out/in" := by
  have still : ∀ p, (Machine.serve (.inspect p) projects).2 = projects := fun _ => rfl
  obtain ⟨hsome, -, happend, -, hagain, -⟩ := find_nearest still "/out/in/src/"
  have hin : (projects.run (find "/out/in/src/" [".git"])).1 = some "/out/in" := by decide +kernel
  have hout : (projects.run (find "/out/in/src/" ["in"])).1 = some "/out" := by decide +kernel
  exact ⟨hin, (happend ["in"] [".git"]).2.2 2 1 "/out" "/out/in" hout hin rfl rfl, hagain _ _ hin⟩

end Concrete

end Provision.Root
