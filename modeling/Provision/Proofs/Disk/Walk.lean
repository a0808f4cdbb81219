import Provision.Proofs.Disk
import Provision.Proofs.Path

/-!
Walks over a disk: how a walk goes on behind a part of its names, which changes of the disk leave a walk
as it is, and what the calls find at a plain name in the directory that a path leads to.
-/

set_option autoImplicit false

namespace Provision.Disk

variable {d : Disk}

theorem walkPlain_append (d : Disk) (here : Place) (a b : List Name) :
    walkPlain d here (a ++ b) = match walkPlain d here a with
      | .error e => .error e
      | .ok (.there place) => walkPlain d place b
      | .ok (.link dir target rest) => .ok (.link dir target (rest ++ b)) := by
  induction a generalizing here with
  | nil => simp [walkPlain]
  | cons n a ih =>
    simp only [List.cons_append, walkPlain]
    split
    · split
      · exact ih here
      · split
        · exact ih here.tail
        · split
          · rfl
          · split
            · rfl
            · rfl
            · exact ih (n :: here)
    · rfl

theorem walkFrom_succ {k : Nat} {here q : Place} {names : List Name} :
    walkFrom d (k + 1) here names = .ok q ↔
      walkPlain d here names = .ok (.there q) ∨
        ∃ dir target rest, walkPlain d here names = .ok (.link dir target rest) ∧
          walkFrom d k (if target.isAbsolute then [] else dir) (stepsOf target ++ rest) = .ok q := by
  rw [walkFrom]
  cases walkPlain d here names with
  | error e => simp
  | ok halt => cases halt <;> simp

theorem walkFrom_append {k : Nat} {here : Place} {a b : List Name} {p : Place}
    (h : walkFrom d k here (a ++ b) = .ok p) :
    ∃ q j, walkFrom d k here a = .ok q ∧ walkFrom d (j + 1) q b = .ok p := by
  induction k generalizing here a with
  | zero => simp [walkFrom] at h
  | succ k ih =>
    simp only [walkFrom, walkPlain_append] at h
    cases hw : walkPlain d here a with
    | error e => simp [hw] at h
    | ok halt =>
      cases halt with
      | there q =>
        refine ⟨q, k, by simp [walkFrom, hw], ?_⟩
        simpa only [walkFrom, hw] using h
      | link dir target rest =>
        simp only [hw, ← List.append_assoc] at h
        obtain ⟨q, j, hq, hj⟩ := ih h
        exact ⟨q, j, by simpa only [walkFrom, hw] using hq, hj⟩

theorem walkFrom_behind {k : Nat} {here q : Place} {a : List Name} (h : walkFrom d k here a = .ok q) :
    ∃ used < k, ∀ j b, walkFrom d (j + 1 + used) here (a ++ b) = walkFrom d (j + 1) q b := by
  induction k generalizing here a with
  | zero => cases h
  | succ k ih =>
    obtain hw | ⟨dir, target, rest, hw, hrest⟩ := walkFrom_succ.mp h
    · exact ⟨0, by omega, fun j b => by simp only [walkFrom, walkPlain_append, hw]⟩
    · obtain ⟨used, hused, hbehind⟩ := ih hrest
      refine ⟨used + 1, by omega, fun j b => ?_⟩
      rw [← Nat.add_assoc, walkFrom, walkPlain_append, hw]
      dsimp only
      rw [← List.append_assoc, hbehind]

theorem walkFrom_through {k : Nat} {here q : Place} {a : List Name} (h : walkFrom d k here a = .ok q) :
    ∃ i, ∀ b, walkFrom d k here (a ++ b) = walkFrom d (i + 1) q b := by
  obtain ⟨used, hused, hbehind⟩ := walkFrom_behind h
  refine ⟨k - 1 - used, fun b => ?_⟩
  rw [← hbehind, show k - 1 - used + 1 + used = k by omega]

theorem walkFrom_append_error {k : Nat} {here : Place} {a : List Name} {e : Errno} (h : walkFrom d k here a = .error e)
    (b : List Name) : walkFrom d k here (a ++ b) = .error e := by
  induction k generalizing here a with
  | zero => exact h
  | succ k ih =>
    simp only [walkFrom] at h
    cases hw : walkPlain d here a with
    | error f => simpa [walkFrom, walkPlain_append, hw] using h
    | ok halt =>
      simp only [hw] at h
      cases halt with
      | there p => cases h
      | link dir target rest => simp only [walkFrom, walkPlain_append, hw, ← List.append_assoc, ih h]

theorem walkFrom_append_eq {k : Nat} {here q : Place} {a b : List Name} (h : walkFrom d k here a = .ok q)
    (hb : ∀ dir target rest, walkPlain d q b ≠ .ok (.link dir target rest)) :
    walkFrom d k here (a ++ b) = match walkPlain d q b with
      | .ok (.there p) => .ok p
      | .ok (.link _ _ _) => .error .loop
      | .error e => .error e := by
  obtain ⟨i, hi⟩ := walkFrom_through h
  rw [hi, walkFrom]
  cases hq : walkPlain d q b with
  | error e => rfl
  | ok halt =>
    cases halt with
    | there p => rfl
    | link dir target rest => exact absurd hq (hb dir target rest)

/-- Every directory and every link of one disk is on the other. -/
def Roads (d d' : Disk) : Prop :=
  ∀ p v, d.get? p = some v → (v = .dir ∨ ∃ target, v = .link target) → d'.get? p = some v

theorem walkPlain_stuck {here : Place} {names : List Name} {halt : Halt} (hd : d.get? here ≠ some .dir)
    (h : walkPlain d here names = .ok halt) : halt = .there here := by
  cases names with
  | nil => simpa [walkPlain, eq_comm] using h
  | cons n rest =>
    simp [walkPlain] at h

theorem Roads.walkPlain {d' : Disk} (roads : Roads d d') {here : Place} {names : List Name} {halt : Halt}
    (h : walkPlain d here names = .ok halt) (hd : ∀ p, halt = .there p → d'.get? p = d.get? p ∨ d'.HasFile p) :
    walkPlain d' here names = .ok halt := by
  induction names generalizing here with
  | nil => simpa [Disk.walkPlain] using h
  | cons n rest ih =>
    simp only [Disk.walkPlain] at h ⊢
    cases hh : d.get? here with
    | none => simp [hh] at h
    | some v =>
      cases v with
      | dir =>
        rw [roads here .dir hh (.inl rfl)]
        simp only [hh] at h ⊢
        split
        · exact ih (by simpa [*] using h)
        · split
          · exact ih (by simpa [*] using h)
          · split
            · simp_all
            · simp only [*, if_false] at h
              cases hn : d.get? (n :: here) with
              | none => simp [hn] at h
              | some w =>
                cases w with
                | link target =>
                  rw [roads _ _ hn (.inr ⟨target, rfl⟩)]
                  simpa [hn] using h
                | dir =>
                  rw [roads _ _ hn (.inl rfl)]
                  exact ih (by simpa [hn] using h)
                | _ =>
                  -- the walk cannot go on behind this entry, so it ends here
                  rw [hn] at h
                  obtain hs | ⟨s, m, data, hs⟩ := hd _ (walkPlain_stuck (by simp [hn]) h)
                  · rw [hs, hn]
                    exact ih h
                  · rw [hs]
                    exact ih h
      | _ => simp [hh] at h

theorem Roads.leads {d' : Disk} (roads : Roads d d') {k : Nat} {here : Place} {names : List Name} {p : Place}
    (h : walkFrom d k here names = .ok p) (hp : d'.get? p = d.get? p ∨ d'.HasFile p) : walkFrom d' k here names = .ok p := by
  induction k generalizing here names with
  | zero => cases h
  | succ k ih =>
    obtain hw | ⟨dir, target, rest, hw, hrest⟩ := walkFrom_succ.mp h
    · exact walkFrom_succ.mpr (.inl (roads.walkPlain hw (by rintro r ⟨⟩; exact hp)))
    · exact walkFrom_succ.mpr (.inr ⟨dir, target, rest, roads.walkPlain hw (by simp), ih hrest⟩)

theorem Roads.walkFrom {d' : Disk} (roads : Roads d d') {k : Nat} {here : Place} {names : List Name} {p : Place}
    (h : walkFrom d k here names = .ok p) (hd : d.get? p = some .dir) : walkFrom d' k here names = .ok p :=
  roads.leads h (.inl ((roads p .dir hd (.inl rfl)).trans hd.symm))

/-- The place that a path leads to as a directory for names behind it. -/
def enters (d : Disk) (cwd : Place) (p : Path) : Except Errno Place :=
  walkFrom d (linkLimit + 1) (startOf cwd p) p.steps

variable {cwd home : Place} {p : Path} {n : Name}

theorem startOf_join (cwd : Place) (p : Path) (hn : Path.Plain n) : startOf cwd (p / ⟨n⟩) = startOf cwd p := by
  rw [startOf, startOf, Path.isAbsolute_join p hn]

theorem stepsOf_join (p : Path) (hn : Path.Plain n) : stepsOf (p / ⟨n⟩) = p.steps ++ [n] := by
  rw [← Path.steps_join p hn]
  simp [stepsOf, Path.getLast?_join p hn, Path.steps]

theorem find_iff {q : Place} {v : Node} :
    d.find cwd p = .ok (q, v) ↔
      admits p = .ok () ∧ walkFrom d (linkLimit + 1) (startOf cwd p) (stepsOf p) = .ok q ∧ d.get? q = some v := by
  unfold find resolve
  simp only [bind_eq_ok, mapError_eq_ok]
  constructor
  · rintro ⟨place, ⟨⟨⟩, ha, hw⟩, h⟩
    split at h
    · rename_i hv
      cases h
      exact ⟨ha, hw, hv⟩
    · cases h
  · rintro ⟨ha, hw, hv⟩
    exact ⟨q, ⟨(), ha, hw⟩, by rw [hv]⟩

theorem holder_error {e : Fault} (ha : admits p = .error e) : d.holder cwd p = .error e := by
  unfold holder
  rw [ha]
  rfl

theorem holder_nil (hs : p.steps = []) (ha : admits p = .ok ()) : d.holder cwd p = .ok ([], .dots) := by
  have hnames : (Path.segments p.chars).filter (· ≠ []) = [] := hs
  unfold holder
  rw [hnames, ha]
  rfl

theorem holder_behind {before : List Name} (hs : p.steps = before ++ [n]) :
    d.holder cwd p = (do
      admits p
      let dir ← (walkFrom d (linkLimit + 1) (startOf cwd p) before).mapError .os
      match d.get? dir with
      | some .dir =>
        if n = ['.'] || n = ['.', '.'] then .ok (dir, .dots)
        else if byteLength n > nameLimit then .error (.os .tooLong)
        else .ok (dir, .name n (p.chars.getLast? = some '/'))
      | _ => .error (.os .notDir)) := by
  obtain ⟨back, rfl⟩ : ∃ back : List Name, before = back.reverse := ⟨_, before.reverse_reverse.symm⟩
  have hback : ((Path.segments p.chars).filter (· ≠ [])).reverse = n :: back := by
    rw [show (Path.segments p.chars).filter (· ≠ []) = back.reverse ++ [n] from hs, List.reverse_append,
      List.reverse_reverse, List.reverse_singleton, List.singleton_append]
  unfold holder
  dsimp only
  rewrite [hback]
  rfl

theorem holder_entry {before : List Name} (hs : p.steps = before ++ [n]) (h₁ : n ≠ ['.']) (h₂ : n ≠ ['.', '.'])
    {dir : Place} {last : Last} :
    d.holder cwd p = .ok (dir, last) ↔
      admits p = .ok () ∧ walkFrom d (linkLimit + 1) (startOf cwd p) before = .ok dir ∧ d.get? dir = some .dir ∧
        byteLength n ≤ nameLimit ∧ last = .name n (p.chars.getLast? = some '/') := by
  simp only [holder_behind hs, bind_eq_ok, mapError_eq_ok, h₁, h₂, decide_false, Bool.or_false, Bool.false_eq_true, if_false]
  constructor
  · rintro ⟨⟨⟩, ha, place, hw, h⟩
    split at h
    · rename_i hd
      split at h
      · cases h
      · cases h
        exact ⟨ha, hw, hd, by omega, rfl⟩
    · cases h
  · rintro ⟨ha, hw, hd, hlen, rfl⟩
    have hlong : ¬ byteLength n > nameLimit := by omega
    exact ⟨(), ha, dir, hw, by simp only [hd, hlong, if_false]⟩

theorem holder_name {dir : Place} {slash : Bool} :
    d.holder cwd p = .ok (dir, .name n slash) ↔
      admits p = .ok () ∧ ∃ before, p.steps = before ++ [n] ∧
        walkFrom d (linkLimit + 1) (startOf cwd p) before = .ok dir ∧ d.get? dir = some .dir ∧
        n ≠ ['.'] ∧ n ≠ ['.', '.'] ∧ byteLength n ≤ nameLimit ∧ slash = decide (p.chars.getLast? = some '/') := by
  constructor
  · intro h
    cases ha : admits p with
    | error e => cases (holder_error ha).symm.trans h
    | ok u =>
      obtain hs | ⟨before, m, hs⟩ := List.eq_nil_or_concat' p.steps
      · cases (holder_nil hs ha).symm.trans h
      by_cases hdots : m = ['.'] ∨ m = ['.', '.']
      · -- a step that names no entry
        rw [holder_behind hs] at h
        obtain ⟨_, -, h⟩ := bind_eq_ok.mp h
        obtain ⟨_, -, h⟩ := bind_eq_ok.mp h
        split at h
        · rw [if_pos (by simpa using hdots)] at h
          cases h
        · cases h
      · obtain ⟨h₁, h₂⟩ := not_or.mp hdots
        obtain ⟨-, hw, hd, hlen, hlast⟩ := (holder_entry hs h₁ h₂).mp h
        cases hlast
        exact ⟨rfl, before, hs, hw, hd, h₁, h₂, hlen, rfl⟩
  · rintro ⟨ha, before, hs, hw, hd, h₁, h₂, hlen, rfl⟩
    exact (holder_entry hs h₁ h₂).mpr ⟨ha, hw, hd, hlen, rfl⟩

theorem holder_join {dir : Place} {last : Last} (hn : Path.Plain n) :
    d.holder cwd (p / ⟨n⟩) = .ok (dir, last) ↔
      admits (p / ⟨n⟩) = .ok () ∧ d.enters cwd p = .ok dir ∧ d.get? dir = some .dir ∧
        byteLength n ≤ nameLimit ∧ last = .name n false := by
  have hslash : decide ((p / ⟨n⟩).chars.getLast? = some '/') = false := by simp [Path.getLast?_join p hn]
  rw [holder_entry (Path.steps_join p hn) hn.notHere hn.notUp, startOf_join cwd p hn, hslash]
  rfl

theorem admits_missing {p : Path} {e : Fault} (hp : p.chars ≠ []) (h : admits p = .error e) : e.isMissing = false := by
  simp only [admits, hp, if_false] at h
  split at h
  · cases h
    rfl
  · split at h
    · cases h
      rfl
    · cases h

theorem find_join (hn : Path.Plain n) (he : d.enters cwd p = .ok home) (hd : d.get? home = some .dir)
    (hl : ∀ target, d.get? (n :: home) ≠ some (.link target)) :
    d.find cwd (p / ⟨n⟩) = (admits (p / ⟨n⟩)).bind fun _ =>
      if byteLength n > nameLimit then .error (.os .tooLong)
      else (d.get? (n :: home)).elim (.error (.os .missing)) fun v => .ok (n :: home, v) := by
  -- the last step of the walk meets no link
  have hw : ∀ dir target rest, walkPlain d home [n] ≠ .ok (.link dir target rest) := by
    intro dir target rest h
    simp only [walkPlain, hd, hn.notHere, hn.notUp, if_false] at h
    split at h
    · cases h
    · split at h
      · cases h
      · exact hl _ (by assumption)
      · cases h
  have hf := walkFrom_append_eq he hw
  unfold find resolve
  rw [startOf_join cwd p hn, stepsOf_join p hn, hf]
  cases admits (p / ⟨n⟩) with
  | error e => rfl
  | ok u =>
    simp only [walkPlain, hd, hn.notHere, hn.notUp, if_false]
    by_cases hlen : byteLength n > nameLimit
    · simp only [hlen, if_true]
      rfl
    · simp only [hlen, if_false]
      cases hg : d.get? (n :: home) with
      | none => rfl
      | some v =>
        cases v with
        | link target => exact absurd hg (hl target)
        | _ => simp [Except.bind, bind, Except.mapError, hg]

theorem walkFrom_cons {k : Nat} {here : Place} {rest : List Name} {q : Place}
    (h : walkFrom d k here (n :: rest) = .ok q) :
    d.get? here = some .dir ∧ (n = ['.'] ∨ n = ['.', '.'] ∨ d.get? (n :: here) ≠ none) := by
  cases k with
  | zero => simp [walkFrom] at h
  | succ k =>
    simp only [walkFrom, walkPlain] at h
    by_cases hd : d.get? here = some .dir
    · refine ⟨hd, ?_⟩
      by_cases h₁ : n = ['.']
      · exact .inl h₁
      · by_cases h₂ : n = ['.', '.']
        · exact .inr (.inl h₂)
        · refine .inr (.inr fun hn => ?_)
          by_cases hl : byteLength n > nameLimit <;> simp [hd, h₁, h₂, hl, hn] at h
    · simp at h

section Stopped

variable {k : Nat} {start place place' q : Place} {m : Name} {before front rest rest' : List Name}

theorem not_walked_by (hw : walkFrom d k start before = .ok place) (h₁ : n ≠ ['.']) (h₂ : n ≠ ['.', '.'])
    (hnone : d.get? (n :: place) = none) : walkFrom d k start (before ++ n :: rest) ≠ .ok q := by
  intro h
  obtain ⟨place', j, hplace, hj⟩ := walkFrom_append h
  obtain rfl : place = place' := Except.ok.inj (hw.symm.trans hplace)
  obtain ⟨-, hn | hn | hn⟩ := walkFrom_cons hj
  · exact h₁ hn
  · exact h₂ hn
  · exact hn hnone

theorem stopped_unique (he : before ++ n :: rest = front ++ m :: rest') (hw : walkFrom d k start before = .ok place)
    (h₁ : n ≠ ['.']) (h₂ : n ≠ ['.', '.']) (hnone : d.get? (n :: place) = none)
    (hw' : walkFrom d k start front = .ok place') (h₁' : m ≠ ['.']) (h₂' : m ≠ ['.', '.'])
    (hnone' : d.get? (m :: place') = none) : before = front ∧ n :: rest = m :: rest' := by
  obtain ⟨c, hc, hn⟩ | ⟨c, hc, hn⟩ := List.append_eq_append_iff.mp he
  · cases c with
    | nil => exact ⟨by simpa using hc.symm, by simpa using hn⟩
    | cons _ c =>
      obtain ⟨rfl, -⟩ := List.cons.inj hn
      exact absurd (hc ▸ hw') (not_walked_by hw h₁ h₂ hnone)
  · cases c with
    | nil => exact ⟨by simpa using hc, by simpa using hn.symm⟩
    | cons _ c =>
      obtain ⟨rfl, -⟩ := List.cons.inj hn
      exact absurd (hc ▸ hw) (not_walked_by hw' h₁' h₂' hnone')

end Stopped

theorem enters_of_find {r : Place × Node} (hn : Path.Plain n) (h : d.find cwd (p / ⟨n⟩) = .ok r) :
    ∃ home, d.enters cwd p = .ok home ∧ d.get? home = some .dir ∧ d.get? (n :: home) ≠ none := by
  obtain ⟨-, hw, -⟩ := find_iff.mp h
  rw [startOf_join cwd p hn, stepsOf_join p hn] at hw
  obtain ⟨home, j, hq, hj⟩ := walkFrom_append hw
  refine ⟨home, hq, ?_⟩
  obtain ⟨hd, h | h | h⟩ := walkFrom_cons hj
  · exact absurd h hn.notHere
  · exact absurd h hn.notUp
  · exact ⟨hd, h⟩

theorem makeDir_entered {a : Path} (he : d.enters cwd a = .ok home) (hne : a.chars ≠ []) :
    ∃ e, d.makeDir cwd a = .error e ∧ e.isMissing = false := by
  unfold makeDir
  cases ha : admits a with
  | error e => exact ⟨e, by rw [holder_error ha]; rfl, admits_missing hne ha⟩
  | ok u =>
    obtain hs | ⟨before, last, hs⟩ := List.eq_nil_or_concat' a.steps
    · exact ⟨.os .exists_, by rw [holder_nil hs ha]; rfl, rfl⟩
    · rw [enters, hs] at he
      obtain ⟨q, j, hq, hj⟩ := walkFrom_append he
      obtain ⟨hd, hlast⟩ := walkFrom_cons hj
      rw [holder_behind hs, ha, hq]
      simp only [bind, Except.bind, Except.mapError, hd]
      by_cases hdots : (last = ['.'] || last = ['.', '.']) = true
      · exact ⟨.os .exists_, by simp only [hdots, if_true], rfl⟩
      · by_cases hlong : byteLength last > nameLimit
        · exact ⟨.os .tooLong, by simp only [hdots, hlong, if_true, Bool.false_eq_true, if_false], rfl⟩
        · have hnone : d.get? (last :: q) ≠ none := by
            obtain h | h | h := hlast
            · simp [h] at hdots
            · simp [h] at hdots
            · exact h
          obtain ⟨v, hv⟩ := Option.ne_none_iff_exists'.mp hnone
          exact ⟨.os .exists_, by simp only [hdots, hlong, Bool.false_eq_true, if_false, hv], rfl⟩

theorem enters_above {a : Path} (he : d.enters cwd p = .ok home) (ha : a.Above p) (hne : a.chars ≠ []) :
    ∃ q, d.enters cwd a = .ok q ∧ (d.get? home = some .dir → d.get? q = some .dir) := by
  obtain h | ⟨⟨rest, hrest⟩, habs⟩ := ha
  · exact absurd h hne
  have hstart : startOf cwd a = startOf cwd p := by rw [startOf, startOf, habs]
  rw [enters, ← hrest] at he
  obtain ⟨q, j, hq, hj⟩ := walkFrom_append he
  refine ⟨q, by rw [enters, hstart]; exact hq, fun hd => ?_⟩
  cases rest with
  | nil =>
    obtain rfl : q = home := by simpa [walkFrom, walkPlain] using hj
    exact hd
  | cons m rest => exact (walkFrom_cons hj).1

theorem makeDir_above {a : Path} (he : d.enters cwd p = .ok home) (ha : a.Above p) (hne : a.chars ≠ []) :
    ∃ e, d.makeDir cwd a = .error e := by
  obtain ⟨q, hq, -⟩ := enters_above he ha hne
  obtain ⟨e, hm, -⟩ := makeDir_entered hq hne
  exact ⟨e, hm⟩

end Provision.Disk
