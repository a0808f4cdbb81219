import Provision.Proofs.Disk.Ways

set_option autoImplicit false

namespace Provision.Disk

variable {d d' d'' : Disk} {cwd x y : Place} {p q : Path}

theorem makeDir_eq_ok (h : d.makeDir cwd p = .ok d') :
    ∃ dir n slash, d.holder cwd p = .ok (dir, .name n slash) ∧ d.get? (n :: dir) = none ∧
      d' = d.put (n :: dir) .dir := by
  unfold makeDir at h
  obtain ⟨⟨dir, last⟩, hh, h⟩ := bind_eq_ok.mp h
  cases last with
  | dots => cases h
  | name n slash =>
    cases hv : d.get? (n :: dir) with
    | some v => simp [hv] at h
    | none =>
      simp only [hv, Except.ok.injEq] at h
      exact ⟨dir, n, slash, hh, hv, h.symm⟩

/-- A directory stands where nothing was: nothing else is changed, and nothing is in it. -/
structure Added (x : Place) (d d' : Disk) : Prop where
  sound : d'.Sound
  same : ∀ p, p ≠ x → d'.get? p = d.get? p
  missing : d.get? x = none
  dir : d'.get? x = some .dir
  empty : ∀ n, d'.get? (n :: x) = none

namespace Added

variable {place : Place} {n : Name}

theorem put (h : d.Sound) (hdir : d.get? place = some .dir) (hnone : d.get? (n :: place) = none) :
    Added (n :: place) d (d.put (n :: place) .dir) := by
  have hget := get?_put d (p := n :: place) (by simp) .dir
  refine ⟨h.put hdir (by simp [hnone]) nofun, fun p hp => (hget p).trans (if_neg hp), hnone, (hget _).trans (if_pos rfl),
    fun m => ?_⟩
  rw [hget, if_neg fun e => by simpa using congrArg List.length e]
  exact h.below (by simp [hnone]) [m] (by simp)

theorem kept (h : Added x d d') {v : Node} {p : Place} (hv : d.get? p = some v) : d'.get? p = some v := by
  refine (h.same p ?_).trans hv
  rintro rfl
  cases h.missing.symm.trans hv

theorem roads (h : Added x d d') : Roads d d' := fun _ _ hv _ => h.kept hv

theorem walk (h : Added (n :: place) d d') (hdir : d.get? place = some .dir) (h₁ : n ≠ ['.']) (h₂ : n ≠ ['.', '.'])
    (hlen : byteLength n ≤ nameLimit) {k : Nat} {start : Place} {before : List Name}
    (hw : walkFrom d k start before = .ok place) : walkFrom d' k start (before ++ [n]) = .ok (n :: place) := by
  obtain ⟨i, hi⟩ := walkFrom_through (h.roads.walkFrom hw hdir)
  have hlong : ¬ byteLength n > nameLimit := by omega
  rw [hi, walkFrom]
  simp [walkPlain, h.kept hdir, h₁, h₂, hlong, h.dir]

end Added

theorem makeDir_on_way {a : Path} (ha : a.Above p) (hne : a.chars ≠ []) (hm : d.makeDir cwd a = .ok d') :
    ∃ place n before rest, d.get? (n :: place) = none ∧ d.get? place = some .dir ∧ d' = d.put (n :: place) .dir ∧
      p.steps = before ++ n :: rest ∧ n ≠ ['.'] ∧ n ≠ ['.', '.'] ∧ byteLength n ≤ nameLimit ∧
      walkFrom d (linkLimit + 1) (startOf cwd p) before = .ok place := by
  obtain ⟨place, n, slash, hh, hnone, hput⟩ := makeDir_eq_ok hm
  obtain ⟨-, before, hs, hw, hdir, h₁, h₂, hlen, -⟩ := holder_name.mp hh
  obtain h | ⟨⟨rest, hrest⟩, habs⟩ := ha
  · exact absurd h hne
  have hstart : startOf cwd a = startOf cwd p := by rw [startOf, startOf, habs]
  rw [hstart] at hw
  rw [hs, List.append_assoc, List.singleton_append] at hrest
  exact ⟨place, n, before, rest, hnone, hdir, hput, hrest.symm, h₁, h₂, hlen, hw⟩

/-- What was at a place when a file was opened there for writing, and what is there then. -/
inductive Opened (d : Disk) (x : Place) : Handle → Disk → Prop where
  | fresh (h : d.get? x = none) : Opened d x (.file d.next) (d.addFile x plainMode ByteArray.empty)
  | cut {s m : Nat} {data : ByteArray} (h : d.get? x = some (.file s m data)) :
      Opened d x (.file s) (d.revise s fun _ => ByteArray.empty)
  | device {dev : Device} (h : d.get? x = some (.device dev)) : Opened d x (.device dev) d

theorem openFrom_eq_ok {links : Nat} {hnd : Handle} (h : d.openFrom true plainMode (links + 1) cwd p = .ok (hnd, d')) :
    ∃ dir n, d.holder cwd p = .ok (dir, .name n false) ∧ (d.Opened (n :: dir) hnd d' ∨
      ∃ target, d.get? (n :: dir) = some (.link target) ∧ d.openFrom true plainMode links dir target = .ok (hnd, d')) := by
  unfold openFrom at h
  obtain ⟨⟨dir, last⟩, hh, h⟩ := bind_eq_ok.mp h
  cases last with
  | dots => cases h
  | name n slash =>
    cases slash with
    | true => simp at h
    | false =>
      refine ⟨dir, n, hh, ?_⟩
      simp only [Bool.false_eq_true, if_false, if_true] at h
      cases hv : d.get? (n :: dir) with
      | none =>
        rw [hv] at h
        cases h
        exact .inl (.fresh hv)
      | some v =>
        simp only [hv] at h
        cases v with
        | dir => cases h
        | tool t => cases h
        | link target => exact .inr ⟨target, rfl, h⟩
        | device dev =>
          cases h
          exact .inl (.device hv)
        | file s m data =>
          cases h
          exact .inl (.cut hv)

theorem Opened.roads {x : Place} {hnd : Handle} (h : d.Opened x hnd d') : Roads d d' := by
  intro p v hv hroad
  cases h with
  | fresh hx =>
    cases x with
    | nil => cases hx
    | cons n dir =>
      have hne : p ≠ n :: dir := by
        rintro rfl
        cases hv.symm.trans hx
      rw [get?_addFile d (by simp), if_neg hne, hv]
  | cut =>
    rw [get?_revise, hv]
    obtain rfl | ⟨target, rfl⟩ := hroad <;> rfl
  | device => exact hv

theorem Opened.leaf {x : Place} {hnd : Handle} (h : d.Opened x hnd d') (hx : x ≠ []) :
    (∃ s m, hnd = .file s ∧ d'.get? x = some (.file s m ByteArray.empty)) ∨
      ∃ dev, hnd = .device dev ∧ d'.get? x = some (.device dev) := by
  cases h with
  | fresh => exact .inl ⟨d.next, plainMode, rfl, (get?_addFile d hx _ _ x).trans (if_pos rfl)⟩
  | @cut s m _ hv =>
    refine .inl ⟨s, m, rfl, ?_⟩
    rw [get?_revise, hv]
    simp [Node.revised]
  | device hv => exact .inr ⟨_, rfl, hv⟩

theorem isLoop_of_find {r : Place × Node} (h : d.find cwd p = .ok r) : d.isLoop cwd p = false := by
  unfold isLoop
  split
  · rename_i e he
    rw [find, he] at h
    cases h
  · rfl

theorem create_iff {hnd : Handle} : d.create cwd p = .ok (hnd, d') ↔
    d.openFrom true plainMode (linkLimit + 1) cwd p = .ok (hnd, d') ∧ d'.isLoop cwd p = false := by
  unfold create openAs
  rw [bind_eq_ok]
  constructor
  · rintro ⟨⟨hnd', opened⟩, ho, h⟩
    by_cases hloop : opened.isLoop cwd p = true
    · simp [hloop] at h
    · obtain ⟨rfl, rfl⟩ : hnd' = hnd ∧ opened = d' := by simpa [hloop] using h
      exact ⟨ho, by simpa using hloop⟩
  · rintro ⟨ho, hloop⟩
    exact ⟨_, ho, by simp [hloop]⟩

theorem create_eq_openFrom {dir : Place} {n : Name} {slash : Bool} (hh : d.holder cwd p = .ok (dir, .name n slash))
    (hl : ∀ target, d.get? (n :: dir) ≠ some (.link target)) :
    d.create cwd p = d.openFrom true plainMode (linkLimit + 1) cwd p := by
  cases ho : d.openFrom true plainMode (linkLimit + 1) cwd p with
  | error e =>
    unfold create openAs
    rw [ho]
    rfl
  | ok r =>
    obtain ⟨hnd, opened⟩ := r
    refine create_iff.mpr ⟨ho, ?_⟩
    obtain ⟨dir', n', hh', ho' | ⟨target, hv, -⟩⟩ := openFrom_eq_ok ho
    · obtain ⟨v, hv, hleaf⟩ : ∃ v, opened.get? (n' :: dir') = some v ∧ ∀ target, v ≠ .link target := by
        obtain ⟨s, m, -, hv⟩ | ⟨dev, -, hv⟩ := ho'.leaf (by simp) <;> exact ⟨_, hv, nofun⟩
      exact isLoop_of_find (find_of_holder (ho'.roads.holder hh') hv hleaf)
    · cases hh.symm.trans hh'
      exact absurd hv (hl target)

theorem create_eq_ok {hnd : Handle}
    (hl : ∀ dir n slash target, d.holder cwd p = .ok (dir, .name n slash) → d.get? (n :: dir) ≠ some (.link target))
    (h : d.create cwd p = .ok (hnd, d')) :
    ∃ dir n, d.holder cwd p = .ok (dir, .name n false) ∧ d.Opened (n :: dir) hnd d' := by
  obtain ⟨dir, n, hh, ho | ⟨target, hv, -⟩⟩ := openFrom_eq_ok (create_iff.mp h).1
  · exact ⟨dir, n, hh, ho⟩
  · exact absurd hv (hl dir n false target hh)

theorem opened_of_openFrom {links : Nat} {hnd : Handle} (h : d.openFrom true plainMode links cwd p = .ok (hnd, d')) :
    ∃ dir n, d.get? dir = some .dir ∧ d.Opened (n :: dir) hnd d' := by
  induction links generalizing cwd p with
  | zero => cases h
  | succ links ih =>
    obtain ⟨dir, n, hh, ho | ⟨target, -, hrest⟩⟩ := openFrom_eq_ok h
    · obtain ⟨-, _, -, -, hdir, -⟩ := holder_name.mp hh
      exact ⟨dir, n, hdir, ho⟩
    · exact ih hrest

theorem unlink_eq_ok (h : d.unlink cwd p = .ok d') :
    ∃ dir n, d.holder cwd p = .ok (dir, .name n false) ∧ d.get? (n :: dir) ≠ none ∧ d.get? (n :: dir) ≠ some .dir ∧
      d' = d.erase (n :: dir) := by
  unfold unlink at h
  obtain ⟨⟨dir, last⟩, hh, h⟩ := bind_eq_ok.mp h
  cases last with
  | dots => cases h
  | name n slash =>
    cases hv : d.get? (n :: dir) with
    | none => simp [hv] at h
    | some v =>
      simp only [hv] at h
      cases slash with
      | true => cases v <;> simp at h
      | false =>
        have hd : v ≠ .dir := by
          rintro rfl
          cases h
        refine ⟨dir, n, hh, by simp [hv], by simp [hv, hd], ?_⟩
        cases v with
        | dir => exact absurd rfl hd
        | _ => simpa [eq_comm] using h

theorem rename_eq_ok (h : d.rename cwd p q = .ok d') :
    ∃ dir n slash dir' n' slash' v, d.holder cwd p = .ok (dir, .name n slash) ∧
      d.holder cwd q = .ok (dir', .name n' slash') ∧ d.get? (n :: dir) = some v ∧
      (v.isDir = false → slash = false ∧ slash' = false) ∧
      (((n :: dir = n' :: dir' ∨ d.twins (n :: dir) (n' :: dir') = true) ∧ d' = d) ∨
        (n :: dir ≠ n' :: dir' ∧ d.twins (n :: dir) (n' :: dir') = false ∧ d' = d.move (n :: dir) (n' :: dir') ∧
          (v.isDir = false → d.get? (n' :: dir') ≠ some .dir))) := by
  unfold rename at h
  obtain ⟨⟨dir, last⟩, hp, h⟩ := bind_eq_ok.mp h
  obtain ⟨⟨dir', last'⟩, hq, h⟩ := bind_eq_ok.mp h
  cases last with
  | dots => cases h
  | name n slash =>
    cases last' with
    | dots => cases h
    | name n' slash' =>
      dsimp only at h
      split at h
      · cases h
      rename_i v hv
      refine ⟨dir, n, slash, dir', n', slash', v, hp, hq, hv, ?_⟩
      split at h
      · cases h
      rename_i hslash
      refine ⟨fun hf => by simpa [hf] using hslash, ?_⟩
      split at h
      · rename_i he
        exact .inl ⟨by simpa using he, (Except.ok.inj h).symm⟩
      rename_i he
      obtain ⟨hne, htwins⟩ : n :: dir ≠ n' :: dir' ∧ d.twins (n :: dir) (n' :: dir') = false := by simpa using he
      refine .inr ⟨hne, htwins, ?_⟩
      split at h
      · cases h
      -- a directory replaces none but an empty directory, and anything else no directory
      split at h
      · rename_i hw
        exact ⟨(Except.ok.inj h).symm, fun _ => by simp [hw]⟩
      · cases hd : v.isDir with
        | false => simp [hd] at h
        | true =>
          simp only [hd, Bool.not_true, Bool.false_eq_true, if_false] at h
          split at h
          · cases h
          · exact ⟨(Except.ok.inj h).symm, nofun⟩
      · rename_i w hne hw
        split at h
        · cases h
        · exact ⟨(Except.ok.inj h).symm, fun _ => by simpa [hw] using hne⟩

theorem rename_leaf {dir dir' : Place} {n n' : Name} {v : Node}
    (hp : d.holder cwd p = .ok (dir, .name n false)) (hq : d.holder cwd q = .ok (dir', .name n' false))
    (hv : d.get? (n :: dir) = some v) (hleaf : v.isDir = false) (hne : n :: dir ≠ n' :: dir')
    (htwins : d.twins (n :: dir) (n' :: dir') = false) :
    (d.get? (n' :: dir') = some .dir ∧ ∃ e, d.rename cwd p q = .error e) ∨
      (d.get? (n' :: dir') ≠ some .dir ∧ d.rename cwd p q = .ok (d.move (n :: dir) (n' :: dir'))) := by
  unfold rename
  simp only [hp, hq, bind, Except.bind, hv, hleaf, hne, htwins, decide_false, Bool.not_false, Bool.true_and, Bool.or_self,
    Bool.false_and, Bool.false_eq_true, if_false, if_true]
  cases hw : d.get? (n' :: dir') with
  | none => exact .inr ⟨nofun, rfl⟩
  | some w =>
    cases w with
    | dir => exact .inl ⟨rfl, _, rfl⟩
    | _ => exact .inr ⟨nofun, rfl⟩

theorem rename_twins {dir dir' : Place} {n n' : Name} (hp : d.holder cwd p = .ok (dir, .name n false))
    (hq : d.holder cwd q = .ok (dir', .name n' false)) (htwins : d.twins (n :: dir) (n' :: dir') = true) :
    d.rename cwd p q = .ok d := by
  obtain ⟨s, m, m', x, x', hv, -⟩ := twins_iff.mp htwins
  unfold rename
  simp [hp, hq, bind, Except.bind, hv, htwins]

/-- At most a file at a place was made or changed, under all names that it has, and it has got no other names. -/
structure Rewritten (x : Place) (d d' : Disk) : Prop where
  sound : d'.Sound
  same : ∀ p, p ≠ x → d.twins x p = false → d'.get? p = d.get? p
  twins : ∀ p, p ≠ x → d'.twins x p = d.twins x p
  kept : d'.get? x = d.get? x ∨ (d'.HasFile x ∧ (d.get? x = none ∨ d.HasFile x))

namespace Rewritten

theorem refl (h : d.Sound) : Rewritten x d d := ⟨h, fun _ _ _ => rfl, fun _ _ => rfl, .inl rfl⟩

theorem trans (h : Rewritten x d d') (h' : Rewritten x d' d'') : Rewritten x d d'' where
  sound := h'.sound
  same := fun p hp ht => (h'.same p hp ((h.twins p hp).trans ht)).trans (h.same p hp ht)
  twins := fun p hp => (h'.twins p hp).trans (h.twins p hp)
  kept := by
    obtain h₁ | ⟨hf, hn⟩ := h.kept <;> obtain h₂ | ⟨hf', hn'⟩ := h'.kept
    · exact .inl (h₂.trans h₁)
    · rw [HasFile, h₁] at hn'
      exact .inr ⟨hf', hn'⟩
    · refine .inr ⟨?_, hn⟩
      rw [HasFile, h₂]
      exact hf
    · exact .inr ⟨hf', hn⟩

theorem lone (h : Rewritten x d d') (hx : d.Lone x) : d'.Lone x := by
  intro p ht
  by_contra hp
  exact hp (hx p ((h.twins p hp).symm.trans ht))

theorem other (h : Rewritten x d d') (hx : d.Lone x) {p : Place} (hp : p ≠ x) : d'.get? p = d.get? p :=
  h.same p hp (hx.not_twins hp)

theorem not_file {v : Node} (hroad : v = .dir ∨ ∃ target, v = .link target) (s m : Nat) (data : ByteArray) :
    v ≠ .file s m data := by
  rintro rfl
  obtain h | ⟨target, h⟩ := hroad <;> cases h

theorem stays (h : Rewritten x d d') {p : Place} {v : Node} (hv : d.get? p = some v)
    (hfile : ∀ s m data, v ≠ .file s m data) : d'.get? p = some v := by
  by_cases hp : p = x
  · subst hp
    obtain he | ⟨-, hn | ⟨s, m, data, hf⟩⟩ := h.kept
    · exact he.trans hv
    · rw [hn] at hv
      cases hv
    · exact absurd (Option.some.inj (hv.symm.trans hf)) (hfile s m data)
  · refine (h.same p hp (not_twins fun s m data hf => ?_)).trans hv
    exact hfile s m data (Option.some.inj (hv.symm.trans hf))

theorem roads (h : Rewritten x d d') : Roads d d' := fun _ _ hv hroad => h.stays hv (not_file hroad)

theorem roads_back (h : Rewritten x d d') : Roads d' d := by
  intro p v hv hroad
  have hfile := not_file hroad
  by_cases hp : p = x
  · subst hp
    obtain he | ⟨⟨s, m, data, hf⟩, -⟩ := h.kept
    · exact he ▸ hv
    · exact absurd (Option.some.inj (hv.symm.trans hf)) (hfile s m data)
  · have hnot : d'.twins x p = false := not_twins fun s m data hf => hfile s m data (Option.some.inj (hv.symm.trans hf))
    exact (h.same p hp ((h.twins p hp).symm.trans hnot)) ▸ hv

theorem hasFile (h : Rewritten x d d') {p : Place} (hp : d.HasFile p) : d'.HasFile p := by
  by_cases hx : p = x
  · subst hx
    obtain he | ⟨hf, -⟩ := h.kept
    · rwa [HasFile, he]
    · exact hf
  cases ht : d.twins x p with
  | false => rwa [HasFile, h.same p hx ht]
  | true =>
    obtain ⟨s, m, m', data, data', -, hf⟩ := twins_iff.mp ((h.twins p hx).trans ht)
    exact ⟨s, m', data', hf⟩

theorem of_map {f : Node → Node} {s m : Nat} {data : ByteArray} (sound : d'.Sound) (hx : d.get? x = some (.file s m data))
    (hf : ∀ v, f v = v ∨ ∃ m y m' y', v = .file s m y ∧ f v = .file s m' y') (hget : ∀ p, d'.get? p = (d.get? p).map f) :
    Rewritten x d d' := by
  have hx' : ∃ m' y', d'.get? x = some (.file s m' y') := by
    rw [hget, hx]
    obtain hf | ⟨_, _, m', y', -, hf⟩ := hf (.file s m data)
    · exact ⟨m, data, congrArg some hf⟩
    · exact ⟨m', y', congrArg some hf⟩
  obtain ⟨m', y', hx'⟩ := hx'
  refine ⟨sound, fun p _ ht => ?_, fun p _ => ?_, .inr ⟨⟨s, m', y', hx'⟩, .inr ⟨s, m, data, hx⟩⟩⟩
  · rw [hget]
    cases hv : d.get? p with
    | none => rfl
    | some v =>
      obtain hsame | ⟨m, y, -, -, rfl, -⟩ := hf v
      · exact congrArg some hsame
      · exact absurd (ht.symm.trans ((twins_of_file hx).mpr ⟨m, y, hv⟩)) (by simp)
  -- a file keeps its number, so it has the names that it had
  · rw [Bool.eq_iff_iff, twins_of_file hx, twins_of_file hx', hget]
    cases d.get? p with
    | none => simp
    | some v =>
      obtain hsame | ⟨m, y, m', y', rfl, hnew⟩ := hf v
      · simp [hsame]
      · simp [hnew]

theorem revise (h : d.Sound) {s m : Nat} {data : ByteArray} (hv : d.get? x = some (.file s m data))
    (f : ByteArray → ByteArray) :
    Rewritten x d (d.revise s f) ∧ (d.revise s f).get? x = some (.file s m (f data)) := by
  refine ⟨of_map (h.revise s f) hv (fun v => ?_) (get?_revise d s f), by simp [get?_revise, hv, Node.revised]⟩
  cases v with
  | file s' m' data' =>
    by_cases hs : s' = s
    · exact .inr ⟨m', data', m', f data', by simp [hs], by simp [Node.revised, hs]⟩
    · exact .inl (by simp [Node.revised, hs])
  | _ => exact .inl rfl

theorem chmod (h : d.Sound) {s m : Nat} {data : ByteArray} (hv : d.get? x = some (.file s m data)) (mode : Nat) :
    Rewritten x d (d.chmod s mode) ∧ (d.chmod s mode).get? x = some (.file s mode data) := by
  refine ⟨of_map (h.chmod s mode) hv (fun v => ?_) (get?_chmod d s mode), by simp [get?_chmod, hv, chmodded]⟩
  cases v with
  | file s' m' data' =>
    by_cases hs : s' = s
    · exact .inr ⟨m', data', mode, data', by simp [hs], by simp [chmodded, hs]⟩
    · exact .inl (by simp [chmodded, hs])
  | _ => exact .inl rfl

theorem write (h : d.Sound) {s m : Nat} {data part : ByteArray} (hv : d.get? x = some (.file s m data))
    (hw : d.write (.file s) part = .ok d') :
    Rewritten x d d' ∧ d'.get? x = some (.file s m (data ++ part)) := by
  obtain rfl : d.revise s (· ++ part) = d' := by simpa [Disk.write] using hw
  exact revise h hv _

theorem addFile (h : d.Sound) {n : Name} {dir : Place} (hdir : d.get? dir = some .dir) (hnone : d.get? (n :: dir) = none)
    (mode : Nat) (data : ByteArray) :
    Rewritten (n :: dir) d (d.addFile (n :: dir) mode data) ∧
      (d.addFile (n :: dir) mode data).get? (n :: dir) = some (.file d.next mode data) := by
  have hget := get?_addFile d (p := n :: dir) (by simp) mode data
  have hnew := (hget (n :: dir)).trans (if_pos rfl)
  refine ⟨⟨h.addFile hdir hnone _ _, fun p hp _ => (hget p).trans (if_neg hp), fun p hp => ?_, .inr ⟨⟨_, _, _, hnew⟩, .inl hnone⟩⟩,
    hnew⟩
  rw [(h.lone_new (by simp) mode data).not_twins hp, (lone_of_none hnone).not_twins hp]

end Rewritten

theorem Opened.rewritten {hnd : Handle} {n : Name} {dir : Place} (h : d.Sound) (hdir : d.get? dir = some .dir)
    (ho : d.Opened (n :: dir) hnd d') :
    Rewritten (n :: dir) d d' ∧
      ((∃ s m, hnd = .file s ∧ d'.get? (n :: dir) = some (.file s m ByteArray.empty)) ∨ ∃ dev, hnd = .device dev) := by
  cases ho with
  | fresh hv =>
    obtain ⟨hr, hget⟩ := Rewritten.addFile h hdir hv plainMode ByteArray.empty
    exact ⟨hr, .inl ⟨d.next, plainMode, rfl, hget⟩⟩
  | cut hv =>
    obtain ⟨hr, hget⟩ := Rewritten.revise h hv fun _ => ByteArray.empty
    exact ⟨hr, .inl ⟨_, _, rfl, hget⟩⟩
  | device hv => exact ⟨.refl h, .inr ⟨_, rfl⟩⟩

theorem write_device {dev : Device} {part : ByteArray} (hw : d.write (.device dev) part = .ok d') : d' = d := by
  cases dev with
  | null => simpa [Disk.write, eq_comm] using hw
  | zero => simpa [Disk.write, eq_comm] using hw
  | full =>
    simp only [Disk.write] at hw
    split at hw
    · simpa [eq_comm] using hw
    · cases hw

/-- What was at one place stands at another, and nothing else is changed. -/
structure Moved (x y : Place) (d d' : Disk) : Prop where
  sound : d'.Sound
  arrived : d'.get? y = d.get? x
  left : d'.get? x = none
  same : ∀ p, p ≠ x → p ≠ y → d'.get? p = d.get? p

theorem moved_of_rename {dir : Place} {n : Name} {v : Node} (h : d.Sound)
    (hp : d.holder cwd p = .ok (dir, .name n false)) (hv : d.get? (n :: dir) = some v) (hleaf : v.isDir = false)
    (hr : d.rename cwd p q = .ok d') :
    ∃ dir' n', d.holder cwd q = .ok (dir', .name n' false) ∧
      (((n :: dir = n' :: dir' ∨ d.twins (n :: dir) (n' :: dir') = true) ∧ d' = d) ∨
        (n :: dir ≠ n' :: dir' ∧ d.twins (n :: dir) (n' :: dir') = false ∧ d.get? (n' :: dir') ≠ some .dir ∧
          Moved (n :: dir) (n' :: dir') d d')) := by
  obtain ⟨dir₁, n₁, slash, dir', n', slash', v', hp', hq, hv', hslash, hmove⟩ := rename_eq_ok hr
  obtain ⟨rfl, rfl, rfl⟩ : dir = dir₁ ∧ n = n₁ ∧ false = slash := by
    simpa using hp.symm.trans hp'
  obtain rfl : v = v' := Option.some.inj (hv.symm.trans hv')
  obtain ⟨-, rfl⟩ := hslash hleaf
  refine ⟨dir', n', hq, ?_⟩
  obtain hsame | ⟨hne, htwins, rfl, hd⟩ := hmove
  · exact .inl hsame
  · have hdir' : d.get? dir' = some .dir := by
      obtain ⟨-, _, -, -, hd, -⟩ := holder_name.mp hq
      exact hd
    obtain ⟨sound, hget⟩ := h.move_leaf hv hleaf hdir' (hd hleaf) hne
    refine .inr ⟨hne, htwins, hd hleaf, sound, ?_, ?_, fun r hx hy => ?_⟩
    · rw [hget, if_pos rfl, hv]
    · rw [hget, if_neg hne, if_pos rfl]
    · rw [hget, if_neg hy, if_neg hx]

end Provision.Disk
