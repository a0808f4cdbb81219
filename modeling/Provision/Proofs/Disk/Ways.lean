import Provision.Disk.Step
import Provision.Proofs.Disk.Walk
import Provision.Proofs.Path.Ending

set_option autoImplicit false

namespace Provision

def Node.contents : Node → Except Fault ByteArray
  | .dir => .error (.os .isDir)
  | .file _ _ data => .ok data
  | .device .zero => .ok Disk.zeros
  | _ => .ok ByteArray.empty

namespace Disk

variable {d d' : Disk} {cwd : Place} {p : Path}

theorem walkFrom_links {j : Nat} {here q : Place} {names : List Name} (h : walkFrom d j here names = .ok q) (k : Nat) :
    walkFrom d k here names = .ok q ∨ walkFrom d k here names = .error .loop := by
  induction j generalizing k here names with
  | zero => simp [walkFrom] at h
  | succ j ih =>
    cases k with
    | zero => exact .inr rfl
    | succ k =>
      obtain hw | ⟨dir, target, rest, hw, hrest⟩ := walkFrom_succ.mp h
      · exact .inl (walkFrom_succ.mpr (.inl hw))
      · simp only [walkFrom, hw]
        exact ih hrest k

/-- Every directory and every link but one is on the other disk. -/
def RoadsBut (x : Place) (d d' : Disk) : Prop :=
  ∀ p v, p ≠ x → d.get? p = some v → (v = .dir ∨ ∃ target, v = .link target) → d'.get? p = some v

theorem walkPlain_around {n : Name} {home here : Place} {names : List Name} {halt : Halt}
    (roads : RoadsBut (n :: home) d d') (hx : d.get? (n :: home) ≠ some .dir) (h : walkPlain d here names = .ok halt)
    (hd : ∀ p, halt = .there p → d.get? p = some .dir) :
    walkPlain d' here names = .ok halt ∨
      ∃ target rest, halt = .link home target rest ∧ d.get? (n :: home) = some (.link target) := by
  -- the walk is the same on both disks up to the entry, and only a link there lets it go on
  induction names generalizing here with
  | nil => exact .inl (by simpa [walkPlain] using h)
  | cons m rest ih =>
    simp only [walkPlain] at h ⊢
    by_cases hh : d.get? here = some .dir
    · have hne : here ≠ n :: home := fun e => hx (e ▸ hh)
      rw [roads here .dir hne hh (.inl rfl)]
      simp only [hh] at h ⊢
      split
      · exact ih (by simpa [*] using h)
      split
      · exact ih (by simpa [*] using h)
      split
      · simp_all
      simp only [*, if_false] at h
      cases hm : d.get? (m :: here) with
      | none => simp [hm] at h
      | some w =>
        rw [hm] at h
        cases w with
        | link target =>
          by_cases he : m :: here = n :: home
          · obtain ⟨rfl, rfl⟩ := List.cons.inj he
            exact .inr ⟨target, rest, by simpa [eq_comm] using h, hm⟩
          · rw [roads _ _ he hm (.inr ⟨target, rfl⟩)]
            exact .inl h
        | dir =>
          have he : m :: here ≠ n :: home := fun e => hx (e ▸ hm)
          rw [roads _ _ he hm (.inl rfl)]
          exact ih h
        | _ =>
          have hs := hd _ (walkPlain_stuck (by simp [hm]) h)
          rw [hm] at hs
          cases hs
    · simp at h

theorem walkFrom_around {n : Name} {home : Place} (roads : RoadsBut (n :: home) d d')
    (hx : d.get? (n :: home) ≠ some .dir) {k : Nat} {here q : Place} {names : List Name}
    (h : walkFrom d k here names = .ok q) (hq : d.get? q = some .dir) :
    walkFrom d' k here names = .ok q ∨
      ∃ target j y, d.get? (n :: home) = some (.link target) ∧ d.get? y = some .dir ∧
        walkFrom d j (if target.isAbsolute then [] else home) (stepsOf target) = .ok y := by
  induction k generalizing here names with
  | zero => cases h
  | succ k ih =>
    obtain hw | ⟨dir, target, rest, hw, hrest⟩ := walkFrom_succ.mp h
    · obtain hw' | ⟨target, rest, he, -⟩ := walkPlain_around roads hx hw (by rintro p ⟨⟩; exact hq)
      · exact .inl (walkFrom_succ.mpr (.inl hw'))
      · cases he
    · obtain hw' | ⟨target', rest', he, ht⟩ := walkPlain_around roads hx hw (by simp)
      · exact (ih hrest).imp_left fun hk => walkFrom_succ.mpr (.inr ⟨dir, target, rest, hw', hk⟩)
      · cases he
        obtain ⟨y, j, hy, hbehind⟩ := walkFrom_append hrest
        refine .inr ⟨target, k, y, ht, ?_, hy⟩
        cases rest with
        | nil =>
          obtain rfl : y = q := by simpa [walkFrom, walkPlain] using hbehind
          exact hq
        | cons m rest => exact (walkFrom_cons hbehind).1

theorem Roads.holder (roads : Roads d d') {dir : Place} {n : Name} {slash : Bool}
    (h : d.holder cwd p = .ok (dir, .name n slash)) : d'.holder cwd p = .ok (dir, .name n slash) := by
  obtain ⟨ha, before, hs, hw, hd, hrest⟩ := holder_name.mp h
  exact holder_name.mpr ⟨ha, before, hs, roads.walkFrom hw hd, roads dir .dir hd (.inl rfl), hrest⟩

theorem inspect_entered {q : Place} (he : d.enters cwd p = .ok q) (hq : d.get? q = some .dir) :
    d.inspect cwd p = (admits p).map fun _ => .dir := by
  cases ha : admits p with
  | error e =>
    unfold inspect find resolve
    rw [ha]
    rfl
  | ok u =>
    have hwalk : walkFrom d (linkLimit + 1) (startOf cwd p) (stepsOf p) = .ok q := by
      unfold stepsOf
      split
      · obtain ⟨i, hi⟩ := walkFrom_through he
        have hend : walkFrom d (i + 1) q [['.']] = .ok q := by simp [walkFrom, walkPlain, hq]
        exact (hi [['.']]).trans hend
      · exact he
    rw [inspect, find_iff.mpr ⟨ha, hwalk, hq⟩]
    rfl

theorem Roads.find (roads : Roads d d') {q : Place} {v : Node} (h : d.find cwd p = .ok (q, v))
    (hq : d'.get? q = d.get? q) : d'.find cwd p = .ok (q, v) := by
  obtain ⟨ha, hw, hv⟩ := find_iff.mp h
  exact find_iff.mpr ⟨ha, roads.leads hw (.inl hq), hq.trans hv⟩

theorem Roads.find_at (roads : Roads d d') {q : Place} {v : Node} (h : d.find cwd p = .ok (q, v)) (hq : d'.HasFile q) :
    ∃ w, d'.find cwd p = .ok (q, w) := by
  obtain ⟨ha, hw, -⟩ := find_iff.mp h
  obtain ⟨s, m, data, hv⟩ := hq
  exact ⟨_, find_iff.mpr ⟨ha, roads.leads hw (.inr ⟨s, m, data, hv⟩), hv⟩⟩

theorem stepsOf_holder {dir : Place} {n : Name} (h : d.holder cwd p = .ok (dir, .name n false)) :
    admits p = .ok () ∧ ∃ before, stepsOf p = before ++ [n] ∧
      walkFrom d (linkLimit + 1) (startOf cwd p) before = .ok dir ∧ d.get? dir = some .dir ∧
      n ≠ ['.'] ∧ n ≠ ['.', '.'] ∧ byteLength n ≤ nameLimit := by
  obtain ⟨ha, before, hs, hw, hd, h₁, h₂, hlen, hslash⟩ := holder_name.mp h
  have hlast : p.chars.getLast? ≠ some '/' := by simpa using hslash
  refine ⟨ha, before, ?_, hw, hd, h₁, h₂, hlen⟩
  rw [← hs]
  simp [stepsOf, hlast, Path.steps]

theorem find_of_holder {dir : Place} {n : Name} {v : Node} (h : d.holder cwd p = .ok (dir, .name n false))
    (hv : d.get? (n :: dir) = some v) (hl : ∀ target, v ≠ .link target) : d.find cwd p = .ok (n :: dir, v) := by
  obtain ⟨ha, before, hs, hw, hd, h₁, h₂, hlen⟩ := stepsOf_holder h
  obtain ⟨i, hi⟩ := walkFrom_through hw
  refine find_iff.mpr ⟨ha, ?_, hv⟩
  have hlong : ¬ byteLength n > nameLimit := by omega
  rw [hs, hi, walkFrom]
  simp only [walkPlain, hd, h₁, h₂, hlong, if_false, hv]

theorem read_eq (d : Disk) (cwd : Place) (p : Path) :
    d.read cwd p = (d.find cwd p).bind fun r => r.2.contents := by
  unfold read
  cases d.find cwd p with
  | error e => rfl
  | ok r =>
    obtain ⟨place, v⟩ := r
    cases v with
    | device dev => cases dev <;> rfl
    | _ => rfl

theorem read_link_dir {home y : Place} {n : Name} {target : Path} {j : Nat} (hn : Path.Plain n)
    (he : d.enters cwd p = .ok home) (hd : d.get? home = some .dir) (ht : d.get? (n :: home) = some (.link target))
    (hwalk : walkFrom d j (if target.isAbsolute then [] else home) (stepsOf target) = .ok y) (hy : d.get? y = some .dir) :
    ∃ e : Fault, e.isMissing = false ∧ d.read cwd (p / ⟨n⟩) = .error e := by
  have hread : ∀ {e}, d.find cwd (p / ⟨n⟩) = .error e → d.read cwd (p / ⟨n⟩) = .error e := by
    intro e hf
    rw [read_eq, hf]
    rfl
  cases ha : admits (p / ⟨n⟩) with
  | error e =>
    refine ⟨e, admits_missing (Path.join_ne_nil p hn) ha, hread ?_⟩
    rw [find, resolve, ha]
    rfl
  | ok u =>
    obtain ⟨i, hi⟩ := walkFrom_through he
    have hresolve : d.resolve cwd (p / ⟨n⟩) = (walkFrom d (i + 1) home [n]).mapError .os := by
      rw [resolve, ha, startOf_join _ _ hn, stepsOf_join _ hn, hi]
      rfl
    by_cases hlong : byteLength n > nameLimit
    · have hw : walkFrom d (i + 1) home [n] = .error .tooLong := by
        simp [walkFrom, walkPlain, hd, hn.notHere, hn.notUp, hlong]
      refine ⟨.os .tooLong, rfl, hread ?_⟩
      rw [find, hresolve, hw]
      rfl
    · have hw : walkFrom d (i + 1) home [n] = walkFrom d i (if target.isAbsolute then [] else home) (stepsOf target) := by
        simp [walkFrom, walkPlain, hd, hn.notHere, hn.notUp, hlong, ht]
      obtain hend | hloop := walkFrom_links hwalk i
      · refine ⟨.os .isDir, rfl, ?_⟩
        rw [read_eq, find, hresolve, hw, hend]
        simp [bind, Except.bind, Except.mapError, hy, Node.contents]
      · refine ⟨.os .loop, rfl, hread ?_⟩
        rw [find, hresolve, hw, hloop]
        rfl

theorem read_congr (h : ∀ r, d'.find cwd p = .ok r ↔ d.find cwd p = .ok r) :
    (d'.read cwd p).toOption = (d.read cwd p).toOption := by
  rw [read_eq, read_eq]
  cases hd : d.find cwd p with
  | ok r => rw [(h r).mpr hd]
  | error e =>
    cases hd' : d'.find cwd p with
    | ok r => exact absurd (hd.symm.trans ((h r).mp hd')) nofun
    | error e' => rfl

theorem find_asksDir {q : Place} {v : Node} (hp : p.AsksDir) (h : d.find cwd p = .ok (q, v)) : v = .dir := by
  obtain ⟨-, hw, hv⟩ := find_iff.mp h
  have hsteps : ∃ before, stepsOf p = before ++ [['.']] := by
    obtain hlast | hlast := hp
    · exact ⟨p.steps, by simp [stepsOf, hlast, Path.steps]⟩
    · by_cases hslash : p.chars.getLast? = some '/'
      · exact ⟨p.steps, by simp [stepsOf, hslash, Path.steps]⟩
      · obtain ⟨before, hb⟩ := List.getLast?_eq_some_iff.mp hlast
        exact ⟨before, by simpa [stepsOf, hslash, Path.steps] using hb⟩
  obtain ⟨before, hb⟩ := hsteps
  rw [hb] at hw
  obtain ⟨here, j, -, hdot⟩ := walkFrom_append hw
  have hdir := (walkFrom_cons hdot).1
  obtain rfl : here = q := by simpa [walkFrom, walkPlain, hdir] using hdot
  exact Option.some.inj (hv.symm.trans hdir)

theorem holder_asksDir {dir : Place} {n : Name} (hp : p.AsksDir) : d.holder cwd p ≠ .ok (dir, .name n false) := by
  intro h
  obtain ⟨-, before, hs, -, -, hdot, -, -, hslash⟩ := holder_name.mp h
  obtain hlast | hlast := hp
  · simp [hlast] at hslash
  · rw [hs] at hlast
    exact hdot (by simpa using hlast)

end Disk

end Provision
