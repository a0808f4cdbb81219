import Provision.Proofs.Disk.Reopened

/-!
Directories that are made on the way of a path. A `..` behind one of them would bring to light what is there already.
Without such a `..` a path leads to nothing behind a new directory, and a file that is created by it is a new one.
-/

set_option autoImplicit false

namespace Provision.Disk

variable {d d' : Disk} {cwd : Place} {p : Path}

/-- Every `..` of a path stands behind directories that are there. -/
def Footed (d : Disk) (cwd : Place) (p : Path) : Prop :=
  ∃ a b, p.steps = a ++ b ∧ ['.', '.'] ∉ b ∧ (a = [] ∨ ∃ place,
    walkFrom d (linkLimit + 1) (startOf cwd p) a = .ok place ∧ d.get? place = some .dir)

theorem Footed.keep (hf : d.Footed cwd p) (roads : Roads d d') : d'.Footed cwd p := by
  obtain ⟨front, behind, hsplit, hup, hfront⟩ := hf
  refine ⟨front, behind, hsplit, hup, hfront.imp_right ?_⟩
  rintro ⟨q, hq, hdir⟩
  exact ⟨q, roads.walkFrom hq hdir, roads q .dir hdir (.inl rfl)⟩

theorem walkPlain_empty {x : Place} {names : List Name} {halt : Halt} (hx : ∀ n, d.get? (n :: x) = none)
    (hup : ['.', '.'] ∉ names) (h : walkPlain d x names = .ok halt) : halt = .there x := by
  induction names with
  | nil => simpa [walkPlain, eq_comm] using h
  | cons n rest ih =>
    have hn : n ≠ ['.', '.'] := fun e => hup (by simp [e])
    have hrest : ['.', '.'] ∉ rest := fun hm => hup (by simp [hm])
    simp only [walkPlain, hn, if_false, hx n] at h
    split at h
    · split at h
      · exact ih hrest h
      · split at h <;> cases h
    · cases h

theorem Added.stops {n : Name} {place start q : Place} {before rest : List Name} {k : Nat} (h : Added (n :: place) d d')
    (hdir : d.get? place = some .dir) (h₁ : n ≠ ['.']) (h₂ : n ≠ ['.', '.']) (hlen : byteLength n ≤ nameLimit)
    (hw : walkFrom d k start before = .ok place) (hup : ['.', '.'] ∉ rest)
    (hq : walkFrom d' k start (before ++ n :: rest) = .ok q) : q = n :: place := by
  obtain ⟨i, hi⟩ := walkFrom_through (h.walk hdir h₁ h₂ hlen hw)
  rw [List.append_cons, hi] at hq
  obtain hwalk | ⟨dir, target, behind, hwalk, -⟩ := walkFrom_succ.mp hq
  · cases walkPlain_empty h.empty hup hwalk
    rfl
  · cases walkPlain_empty h.empty hup hwalk

theorem Footed.makeDir (hf : d.Footed cwd p) (hd : d.Sound) {a : Path} (ha : a.Above p) (hne : a.chars ≠ [])
    (hm : d.makeDir cwd a = .ok d') :
    ∃ x, Added x d d' ∧ (∀ q, d'.enters cwd p = .ok q → q = x) ∧ ∀ q v, d'.find cwd p = .ok (q, v) → q = x := by
  obtain ⟨place, n, before, rest, hnone, hdir, rfl, hsteps, h₁, h₂, hlen, hw⟩ := makeDir_on_way ha hne hm
  have hadded := Added.put hd hdir hnone
  have hup : ['.', '.'] ∉ rest := by
    obtain ⟨front, behind, hsplit, hup, hfront⟩ := hf
    rw [hsplit] at hsteps
    obtain ⟨c, -, hbehind⟩ | ⟨c, hc, hn⟩ := List.append_eq_append_iff.mp hsteps
    · exact fun hmem => hup (by simp [hbehind, hmem])
    cases c with
    | nil =>
      simp only [List.nil_append] at hn
      exact fun hmem => hup (by simp [← hn, hmem])
    | cons m c =>
      -- the walk over the first part has come by the entry that was missing
      obtain ⟨rfl, -⟩ : n = m ∧ _ := by simpa using hn
      obtain rfl | ⟨q, hq, -⟩ := hfront
      · simp at hc
      · exact absurd (hc ▸ hq) (not_walked_by hw h₁ h₂ hnone)
  refine ⟨n :: place, hadded, fun q hq => ?_, fun q v hq => ?_⟩
  · rw [enters, hsteps] at hq
    exact hadded.stops hdir h₁ h₂ hlen hw hup hq
  · have hwalk := (find_iff.mp hq).2.1
    have hends : stepsOf p = before ++ n :: rest ∨ stepsOf p = before ++ n :: (rest ++ [['.']]) := by
      rw [← List.cons_append, ← List.append_assoc, ← hsteps]
      unfold stepsOf
      split
      · exact .inr rfl
      · exact .inl rfl
    obtain he | he := hends <;> rw [he] at hwalk
    · exact hadded.stops hdir h₁ h₂ hlen hw hup hwalk
    · exact hadded.stops hdir h₁ h₂ hlen hw (by simp [hup]) hwalk

/-- A new file was created by a path and holds what was written to it; nothing else is changed. -/
def Filled (d : Disk) (cwd : Place) (p : Path) (hnd : Handle) (data : ByteArray) (d' : Disk) : Prop :=
  ∃ x s m, d.get? x = none ∧ Rewritten x d d' ∧ hnd = .file s ∧ d'.get? x = some (.file s m data) ∧
    ∃ v, d'.find cwd p = .ok (x, v)

namespace Filled

variable {hnd : Handle} {data part : ByteArray}

theorem create (hd : d.Sound) (hvacant : ∀ q v, d.find cwd p = .ok (q, v) → v = .dir) (hc : d.create cwd p = .ok (hnd, d')) :
    d.Filled cwd p hnd ByteArray.empty d' := by
  obtain ⟨n, dir, hdir, ho, v, hf⟩ := find_created hc
  obtain ⟨hr, hleaf⟩ := ho.rewritten hd hdir
  cases ho with
  | fresh hv =>
    obtain ⟨s, m, he, hget⟩ | ⟨dev, he⟩ := hleaf
    · exact ⟨n :: dir, s, m, hv, hr, he, hget, v, hf⟩
    · cases he
  | cut hv =>
    obtain ⟨w, hw⟩ := hr.roads_back.find_at hf ⟨_, _, _, hv⟩
    obtain rfl := hvacant _ _ hw
    cases hv.symm.trans (find_iff.mp hw).2.2
  | device hv =>
    obtain rfl := hvacant _ _ hf
    cases hv.symm.trans (find_iff.mp hf).2.2

theorem write (h : d.Filled cwd p hnd data d') {d'' : Disk} (hw : d'.write hnd part = .ok d'') :
    d.Filled cwd p hnd (data ++ part) d'' := by
  obtain ⟨x, s, m, hnone, hr, rfl, hv, v, hf⟩ := h
  obtain ⟨hr', hv'⟩ := Rewritten.write hr.sound hv hw
  exact ⟨x, s, m, hnone, hr.trans hr', rfl, hv', hr'.roads.find_at hf ⟨s, m, _, hv'⟩⟩

theorem kept (h : d.Filled cwd p hnd data d') {q : Place} {v : Node} (hv : d.get? q = some v) : d'.get? q = some v := by
  obtain ⟨x, s, m, hnone, hr, -⟩ := h
  refine (hr.other (lone_of_none hnone) ?_).trans hv
  rintro rfl
  cases hnone.symm.trans hv

theorem find (h : d.Filled cwd p hnd data d') : ∃ x s m, d'.find cwd p = .ok (x, .file s m data) := by
  obtain ⟨x, s, m, -, -, -, hv, v, hf⟩ := h
  obtain rfl := Option.some.inj (hv.symm.trans (find_iff.mp hf).2.2)
  exact ⟨x, s, m, hf⟩

end Filled

end Provision.Disk
