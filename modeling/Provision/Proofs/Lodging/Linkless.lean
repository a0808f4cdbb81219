import Provision.Proofs.Lodging.Tidy

set_option autoImplicit false

namespace Provision

namespace Lodging

variable (L : Lodging)

/-- The directory is there, and nothing that the program works on in it is a link. -/
structure Linkless (home : Place) (d : Disk) : Prop where
  sound : d.Sound
  enters : d.enters L.cwd L.storage = .ok home
  dir : d.get? home = some .dir
  links : ∀ n ∈ packageName :: L.names, ∀ target, d.get? (n :: home) ≠ some (.link target)

structure Absent (d : Disk) : Prop where
  sound : d.Sound
  enters : d.enters L.cwd L.storage = .error .missing

/-- The directory is not there, and no directory on the way to it can be made: the way goes by a link to what is missing. -/
structure Barred (d : Disk) : Prop extends L.Absent d where
  still : ∀ a : Path, a.Above L.storage → a.chars ≠ [] → ∃ e, d.makeDir L.cwd a = .error e

/-- The directory is not there, but directories are all that is missing, and they can be made. -/
structure Awaited (d : Disk) : Prop where
  sound : d.Sound
  gap : ∃ front n rest place, L.storage.steps = front ++ n :: rest ∧
    Disk.walkFrom d (Disk.linkLimit + 1) (Disk.startOf L.cwd L.storage) front = .ok place ∧
    d.get? place = some .dir ∧ d.get? (n :: place) = none ∧ n ≠ ['.'] ∧
    ∀ m ∈ n :: rest, m ≠ ['.', '.'] ∧ Disk.byteLength m ≤ Disk.nameLimit

theorem briefly {n : Name} (hn : n ∈ packageName :: L.names) : Disk.byteLength n ≤ Disk.nameLimit := by
  obtain rfl | hn := List.mem_cons.mp hn
  · decide
  · exact L.short hn

variable {L} {home : Place} {d d' : Disk}

namespace Linkless

theorem isOpen (h : L.Linkless home d) : L.berth.Open home d := ⟨h.enters, h.dir⟩

theorem ready (h : L.Linkless home d) : L.berth.Ready home d :=
  ⟨h.sound, h.enters, h.dir, h.links draftName (by simp [names])⟩

theorem change (h : L.Linkless home d) (sound : d'.Sound) (roads : Disk.Roads d d')
    (links : ∀ n ∈ packageName :: L.names, ∀ target, d'.get? (n :: home) ≠ some (.link target)) : L.Linkless home d' :=
  ⟨sound, roads.walkFrom h.enters h.dir, roads home .dir h.dir (.inl rfl), links⟩

theorem roads (h : L.Linkless home d) {xs : List Name} (hxs : ∀ n ∈ xs, n ∈ packageName :: L.names)
    (hdir : ∀ n ∈ xs, d.get? (n :: home) ≠ some .dir)
    (same : ∀ p, (∀ n ∈ xs, p ≠ n :: home) → d'.get? p = d.get? p) : Disk.Roads d d' := by
  intro p v hv hroad
  refine (same p ?_).trans hv
  rintro n hn rfl
  obtain rfl | ⟨target, rfl⟩ := hroad
  · exact hdir n hn hv
  · exact h.links n (hxs n hn) target hv

theorem altered (h : L.Linkless home d) {xs : List Name} (hxs : ∀ n ∈ xs, n ∈ packageName :: L.names)
    (hdir : ∀ n ∈ xs, d.get? (n :: home) ≠ some .dir) (sound : d'.Sound)
    (same : ∀ p, (∀ n ∈ xs, p ≠ n :: home) → d'.get? p = d.get? p)
    (hlink : ∀ n ∈ xs, ∀ target, d'.get? (n :: home) ≠ some (.link target)) : L.Linkless home d' := by
  refine h.change sound (h.roads hxs hdir same) fun n hn target => ?_
  by_cases hx : n ∈ xs
  · exact hlink n hx target
  · rw [same]
    · exact h.links n hn target
    · rintro m hm he
      exact hx ((List.cons.inj he).1 ▸ hm)

theorem rewritten (h : L.Linkless home d) (hr : Disk.Rewritten (draftName :: home) d d') : L.Linkless home d' :=
  h.change hr.sound hr.roads fun n hn target ht => h.links n hn target (hr.roads_back _ _ ht (.inr ⟨target, rfl⟩))

theorem find (h : L.Linkless home d) {n : Name} (hplain : Path.Plain n) (hn : n ∈ packageName :: L.names) :
    d.find L.cwd (L.storage / ⟨n⟩) = (Disk.admits (L.storage / ⟨n⟩)).bind fun _ =>
      if Disk.byteLength n > Disk.nameLimit then .error (.os .tooLong)
      else (d.get? (n :: home)).elim (.error (.os .missing)) fun v => .ok (n :: home, v) :=
  Disk.find_join hplain h.enters h.dir (h.links n hn)

theorem holder (h : L.Linkless home d) {n : Name} (hplain : Path.Plain n) (hn : n ∈ packageName :: L.names) :
    d.holder L.cwd (L.storage / ⟨n⟩) = (Disk.admits (L.storage / ⟨n⟩)).map fun _ => (home, .name n false) := by
  cases ha : Disk.admits (L.storage / ⟨n⟩) with
  | error e => exact Disk.holder_error ha
  | ok u => exact (Disk.holder_join hplain).mpr ⟨ha, h.enters, h.dir, L.briefly hn, rfl⟩

theorem unlink (h : L.Linkless home d) {n : Name} (hplain : Path.Plain n) (hn : n ∈ packageName :: L.names) :
    d.unlink L.cwd (L.storage / ⟨n⟩) = (Disk.admits (L.storage / ⟨n⟩)).bind fun _ =>
      match d.get? (n :: home) with
      | none => .error (.os .missing)
      | some .dir => .error (.os .isDir)
      | some _ => .ok (d.erase (n :: home)) := by
  unfold Disk.unlink
  rw [h.holder hplain hn]
  cases Disk.admits (L.storage / ⟨n⟩) with
  | error e => rfl
  | ok u =>
    cases hv : d.get? (n :: home) with
    | none => simp [Except.map, Except.bind, bind, hv]
    | some v => cases v <;> simp [Except.map, Except.bind, bind, hv]

theorem rename (h : L.Linkless home d) {m n : Name} (hm : Path.Plain m) (hn : Path.Plain n)
    (hm' : m ∈ packageName :: L.names) (hn' : n ∈ packageName :: L.names) (hne : m ≠ n) {v : Node}
    (hv : d.get? (m :: home) = some v) (hleaf : v.isDir = false) :
    d.rename L.cwd (L.storage / ⟨m⟩) (L.storage / ⟨n⟩) =
      (Disk.admits (L.storage / ⟨m⟩)).bind fun _ => (Disk.admits (L.storage / ⟨n⟩)).bind fun _ =>
        if d.get? (n :: home) = some .dir then .error (.os .isDir)
        else .ok (if d.twins (m :: home) (n :: home) then d else d.move (m :: home) (n :: home)) := by
  have hplaces : m :: home ≠ n :: home := fun e => hne (List.cons.inj e).1
  have hunder : Disk.isUnder (n :: home) (m :: home) = false := by
    rw [← Bool.not_eq_true, Disk.isUnder_iff]
    exact fun hs => hplaces (hs.eq_of_length (by simp)).symm
  unfold Disk.rename
  rw [h.holder hm hm', h.holder hn hn']
  cases Disk.admits (L.storage / ⟨m⟩) with
  | error e => rfl
  | ok u =>
    cases Disk.admits (L.storage / ⟨n⟩) with
    | error e => rfl
    | ok u =>
      simp only [Except.map, Except.bind, bind, hv, hleaf, hplaces, hunder]
      cases hw : d.get? (n :: home) with
      | none => simp [Disk.twins, hw]
      | some w =>
        cases w with
        | file s bits data => cases d.twins (m :: home) (n :: home) <;> simp
        | _ => simp [Disk.twins, hw]

theorem erased (h : L.Linkless home d) {n : Name} (hn : n ∈ packageName :: L.names) (hdir : d.get? (n :: home) ≠ some .dir) :
    L.Linkless home (d.erase (n :: home)) ∧
      ∀ p, (d.erase (n :: home)).get? p = if p = n :: home then none else d.get? p := by
  have hget := Disk.get?_erase d (p := n :: home) (by simp)
  have hxs : ∀ k ∈ [n], k ∈ packageName :: L.names := by simpa using hn
  refine ⟨h.altered hxs (by simpa using hdir) (h.sound.erase (by simp) hdir) (fun p hp => ?_) (fun k hk target => ?_), hget⟩
  · rw [hget, if_neg (hp n (by simp))]
  · obtain rfl := List.mem_singleton.mp hk
    rw [hget, if_pos rfl]
    nofun

theorem moved (h : L.Linkless home d) {m n : Name} (hm : m ∈ packageName :: L.names) (hn : n ∈ packageName :: L.names)
    (hne : m ≠ n) {v : Node} (hv : d.get? (m :: home) = some v) (hleaf : v.isDir = false)
    (hdir : d.get? (n :: home) ≠ some .dir) :
    L.Linkless home (d.move (m :: home) (n :: home)) ∧ ∀ p, (d.move (m :: home) (n :: home)).get? p =
      if p = n :: home then some v else if p = m :: home then none else d.get? p := by
  have hplaces : m :: home ≠ n :: home := fun e => hne (List.cons.inj e).1
  obtain ⟨sound, hget⟩ := h.sound.move_leaf hv hleaf h.dir hdir hplaces
  refine ⟨?_, hget⟩
  have hxs : ∀ k ∈ [m, n], k ∈ packageName :: L.names := by
    intro k hk
    obtain rfl | rfl := List.mem_pair.mp hk
    · exact hm
    · exact hn
  refine h.altered hxs ?_ sound ?_ ?_
  · intro k hk
    obtain rfl | rfl := List.mem_pair.mp hk
    · rw [hv]
      rintro ⟨⟩
      cases hleaf
    · exact hdir
  · intro p hp
    rw [hget, if_neg (hp n (by simp)), if_neg (hp m (by simp))]
  · intro k hk target
    rw [hget]
    obtain rfl | rfl := List.mem_pair.mp hk
    · rw [if_neg hplaces, if_pos rfl]
      nofun
    · rw [if_pos rfl]
      exact fun he => h.links m hm target (hv.trans he)

theorem create (h : L.Linkless home d) :
    d.create L.cwd (L.storage / ⟨draftName⟩) = (Disk.admits (L.storage / ⟨draftName⟩)).bind fun _ =>
      match d.get? (draftName :: home) with
      | none => .ok (.file d.next, d.addFile (draftName :: home) Disk.plainMode ByteArray.empty)
      | some .dir => .error (.os .isDir)
      | some (.file s _ _) => .ok (.file s, d.revise s fun _ => ByteArray.empty)
      | some (.link target) => d.openFrom true Disk.plainMode Disk.linkLimit home target
      | some (.device dev) => .ok (.device dev, d)
      | some (.tool _) => .error (.os .textBusy) := by
  have hholder := h.holder plain_draft (by simp [names])
  cases ha : Disk.admits (L.storage / ⟨draftName⟩) with
  | error e =>
    rw [ha] at hholder
    unfold Disk.create Disk.openAs Disk.openFrom
    rw [hholder]
    rfl
  | ok u =>
    rw [ha] at hholder
    rw [Disk.create_eq_openFrom hholder (h.links draftName (by simp [names])), Disk.openFrom, hholder]
    rfl

theorem read (h : L.Linkless home d) : d.read L.cwd L.statePath = (Disk.admits L.statePath).bind fun _ =>
    (d.get? (recordName :: home)).elim (.error (.os .missing)) Node.contents := by
  have hs : ¬ Disk.byteLength recordName > Disk.nameLimit := by decide
  rw [Disk.read_eq, statePath_eq, h.find plain_record (by simp [names])]
  cases Disk.admits (L.storage / ⟨recordName⟩) with
  | error e => rfl
  | ok u =>
    simp only [Except.bind, hs, if_false]
    cases d.get? (recordName :: home) <;> rfl

theorem renamed (h : L.Linkless home d) {serial mode : Nat} {data : ByteArray}
    (hv : d.get? (draftName :: home) = some (.file serial mode data))
    (htwins : d.twins (draftName :: home) (recordName :: home) = false)
    (hren : d.rename L.cwd L.berth.sketch L.statePath = .ok d') :
    L.Linkless home d' ∧ Disk.Roads d d' ∧ d'.get? (recordName :: home) = some (.file serial mode data) ∧
      d'.get? (draftName :: home) = none ∧
      ∀ p, p ≠ draftName :: home → p ≠ recordName :: home → d'.get? p = d.get? p := by
  obtain ⟨-, ⟨htwins', -⟩ | ⟨-, hnotdir, hmoved⟩⟩ := h.ready.rename hv hren
  · cases htwins.symm.trans htwins'
  have hrecord : d'.get? (recordName :: home) = some (.file serial mode data) := hmoved.arrived.trans hv
  have hdraft : d'.get? (draftName :: home) = none := hmoved.left
  have hsame : ∀ p, p ≠ draftName :: home → p ≠ recordName :: home → d'.get? p = d.get? p := hmoved.same
  have hxs : ∀ n ∈ [draftName, recordName], n ∈ packageName :: L.names := by simp [names]
  have hdirs : ∀ n ∈ [draftName, recordName], d.get? (n :: home) ≠ some .dir := by
    intro n hn
    obtain rfl | rfl := List.mem_pair.mp hn
    · rw [hv]
      simp
    · exact hnotdir
  have hother : ∀ p, (∀ n ∈ [draftName, recordName], p ≠ n :: home) → d'.get? p = d.get? p :=
    fun p hp => hsame p (hp _ (by simp)) (hp _ (by simp))
  refine ⟨h.altered hxs hdirs hmoved.sound hother fun n hn target => ?_, h.roads hxs hdirs hother, hrecord, hdraft, hsame⟩
  obtain rfl | rfl := List.mem_pair.mp hn
  · rw [hdraft]
    simp
  · rw [hrecord]
    simp

theorem published (h : L.Linkless home d) {s : Store} (hp : s.path = L.statePath) {o : Option (Except Error Unit)}
    (hpub : Berth.Ready.Published L.berth home s d o d') :
    L.Linkless home d' ∧ ∀ p, p ≠ draftName :: home → p ≠ recordName :: home →
      d.twins (draftName :: home) p = false → d'.get? p = d.get? p := by
  obtain ⟨hr, -⟩ | ⟨t, serial, mode, hr, hv, hren, -⟩ := hpub
  · exact ⟨h.rewritten hr, fun p hp _ => hr.same p hp⟩
  rw [hp] at hren
  have ht := h.rewritten hr
  obtain ⟨-, ⟨-, rfl⟩ | ⟨htwins, -⟩⟩ := ht.ready.rename hv hren
  · exact ⟨ht, fun p hp _ => hr.same p hp⟩
  · obtain ⟨hlinkless, -, -, -, hsame⟩ := ht.renamed hv htwins hren
    exact ⟨hlinkless, fun p hp hp' htwins => (hsame p hp hp').trans (hr.same p hp htwins)⟩

end Linkless

namespace Absent

theorem find (h : L.Absent d) {n : Name} (hplain : Path.Plain n) :
    d.find L.cwd (L.storage / ⟨n⟩) = (Disk.admits (L.storage / ⟨n⟩)).bind fun _ => .error (.os .missing) := by
  have hwalk := Disk.walkFrom_append_error h.enters [n]
  unfold Disk.find Disk.resolve
  rw [Disk.startOf_join L.cwd L.storage hplain, Disk.stepsOf_join L.storage hplain, hwalk]
  cases Disk.admits (L.storage / ⟨n⟩) <;> rfl

theorem holder (h : L.Absent d) {n : Name} (hplain : Path.Plain n) :
    d.holder L.cwd (L.storage / ⟨n⟩) = (Disk.admits (L.storage / ⟨n⟩)).bind fun _ => .error (.os .missing) := by
  have henters : Disk.walkFrom d (Disk.linkLimit + 1) (Disk.startOf L.cwd L.storage) L.storage.steps = .error .missing :=
    h.enters
  rw [Disk.holder_behind (Path.steps_join L.storage hplain), Disk.startOf_join L.cwd L.storage hplain, henters]
  cases Disk.admits (L.storage / ⟨n⟩) <;> rfl

theorem shut (h : L.Absent d) (home : Place) : ¬ L.berth.Open home d := by
  intro ho
  have he := h.enters.symm.trans ho.1
  cases he

end Absent

namespace Awaited

theorem absent (h : L.Awaited d) : L.Absent d := by
  refine ⟨h.sound, ?_⟩
  obtain ⟨front, n, rest, place, hsteps, hwalk, hdir, hnone, hdot, hrest⟩ := h.gap
  obtain ⟨hup, hlen⟩ := hrest n (List.mem_cons_self ..)
  obtain ⟨i, hi⟩ := Disk.walkFrom_through hwalk
  have hlong : ¬ Disk.byteLength n > Disk.nameLimit := by omega
  rw [Disk.enters, hsteps, hi, Disk.walkFrom]
  simp [Disk.walkPlain, hdir, hnone, hdot, hup, hlong]

theorem of_empty (sound : d.Sound) {front rest : List Name} (hsteps : L.storage.steps = front ++ rest)
    (hwalk : Disk.walkFrom d (Disk.linkLimit + 1) (Disk.startOf L.cwd L.storage) front = .ok home)
    (hdir : d.get? home = some .dir) (hempty : ∀ n, d.get? (n :: home) = none)
    (hrest : ∀ m ∈ rest, m ≠ ['.', '.'] ∧ Disk.byteLength m ≤ Disk.nameLimit) :
    L.Awaited d ∨ L.berth.Open home d := by
  induction rest generalizing front with
  | nil =>
    rw [List.append_nil] at hsteps
    refine .inr ⟨?_, hdir⟩
    change Disk.walkFrom d _ _ L.storage.steps = _
    rw [hsteps]
    exact hwalk
  | cons m rest ih =>
    by_cases hm : m = ['.']
    · have hbehind : L.storage.steps = (front ++ [m]) ++ rest := by simpa using hsteps
      refine ih hbehind ?_ fun k hk => hrest k (List.mem_cons_of_mem _ hk)
      obtain ⟨i, hi⟩ := Disk.walkFrom_through hwalk
      rw [hi, Disk.walkFrom]
      simp [Disk.walkPlain, hdir, hm]
    · exact .inl ⟨sound, front, m, rest, home, hsteps, hwalk, hdir, hempty m, hm, hrest⟩

theorem made (h : L.Awaited d) {a : Path} (ha : a.Above L.storage) (hne : a.chars ≠ [])
    (hm : d.makeDir L.cwd a = .ok d') :
    ∃ x front rest, Disk.Added x d d' ∧ L.storage.steps = front ++ rest ∧
      Disk.walkFrom d' (Disk.linkLimit + 1) (Disk.startOf L.cwd L.storage) front = .ok x ∧
      ∀ m ∈ rest, m ≠ ['.', '.'] ∧ Disk.byteLength m ≤ Disk.nameLimit := by
  obtain ⟨place, n, before, rest, hnone, hdir, rfl, hsteps, h₁, h₂, hlen, hw⟩ := Disk.makeDir_on_way ha hne hm
  obtain ⟨front, k, rest', place', hsteps', hwalk, hdir', hnone', hdot, hrest⟩ := h.gap
  -- both walks end where the next name is missing, so they are the same
  obtain ⟨rfl, hsame⟩ := Disk.stopped_unique (hsteps.symm.trans hsteps') hw h₁ h₂ hnone hwalk hdot
    (hrest _ (List.mem_cons_self ..)).1 hnone'
  obtain ⟨rfl, rfl⟩ := List.cons.inj hsame
  have hadded := Disk.Added.put h.sound hdir hnone
  exact ⟨_, before ++ [n], rest, hadded, by simpa using hsteps, hadded.walk hdir h₁ h₂ hlen hw,
    fun m hm => hrest m (List.mem_cons_of_mem _ hm)⟩

end Awaited

end Lodging

end Provision
