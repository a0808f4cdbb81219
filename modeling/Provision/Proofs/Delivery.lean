import Provision.Proofs.Patch

set_option autoImplicit false

namespace Provision

namespace Disk

variable {d : Disk} {places : List Place}

def without (d : Disk) (places : List Place) : Disk :=
  { d with entries := d.entries.filter fun e => !(places.contains e.1 && decide (d.get? e.1 ≠ some .dir)) }

theorem get?_without (d : Disk) (places : List Place) (p : Place) :
    (d.without places).get? p = if p ∈ places ∧ d.get? p ≠ some .dir then none else d.get? p := by
  by_cases hp : p = []
  · subst hp
    simp
  · have h := lookup_filter d.entries (fun q => !(places.contains q && decide (d.get? q ≠ some .dir))) p
    rw [get?_of_ne _ hp, without]
    refine h.trans ?_
    rw [← get?_of_ne d hp]
    by_cases hmem : p ∈ places <;> by_cases hdir : d.get? p = some .dir <;> simp [hmem, hdir]

theorem get?_without_eq_some {p : Place} {v : Node} :
    (d.without places).get? p = some v ↔ d.get? p = some v ∧ (p ∉ places ∨ v = .dir) := by
  rw [get?_without]
  by_cases hp : p ∈ places
  · by_cases hd : d.get? p = some .dir
    · simp only [hd, hp, ne_eq, not_true, and_false, if_false, Option.some.injEq, false_or]
      exact ⟨fun h => ⟨h, h.symm⟩, fun h => h.1⟩
    · simp only [hp, hd, ne_eq, not_false_iff, and_self, if_true, reduceCtorEq, not_true, false_or, false_iff, not_and]
      rintro hv rfl
      exact hd hv
  · simp [hp]

theorem roads_without (d : Disk) (places : List Place) : Roads (d.without places) d :=
  fun _ _ hv _ => (get?_without_eq_some.mp hv).1

theorem inspect_eq_ok {cwd : Place} {p : Path} {kind : Kind} :
    d.inspect cwd p = .ok kind ↔ ∃ q v, d.find cwd p = .ok (q, v) ∧ v.kind = kind := by
  unfold inspect
  cases d.find cwd p with
  | error e => simp [Except.map]
  | ok r =>
    obtain ⟨q, v⟩ := r
    simp [Except.map]

end Disk

namespace Lodging

variable (L : Lodging)

def others : List Place := [L.record, L.draft, L.aside]

/-- The path leads to a directory, and in it to a file that none of the program's other files and no link in their
places has to do with. -/
structure Delivered (d : Disk) : Prop where
  sound : d.Sound
  enters : d.enters L.cwd L.storage = .ok L.home
  binary : (d.without L.others).inspect L.cwd L.dest = .ok .file

namespace Delivered

variable {L} {d d' : Disk}

theorem leads (h : L.Delivered d) :
    (d.without L.others).enters L.cwd L.storage = .ok L.home ∧ (d.without L.others).get? L.home = some .dir := by
  obtain ⟨q, v, hf, -⟩ := Disk.inspect_eq_ok.mp h.binary
  obtain ⟨home, he, hd, -⟩ := Disk.enters_of_find L.plain_binary hf
  obtain rfl : L.home = home :=
    Except.ok.inj (h.enters.symm.trans ((Disk.roads_without d L.others).walkFrom he hd))
  exact ⟨he, hd⟩

theorem dir (h : L.Delivered d) : d.get? L.home = some .dir := (Disk.get?_without_eq_some.mp h.leads.2).1

theorem binary_not_other (L : Lodging) : L.binary ∉ L.others := by
  have h : L.binary ≠ L.aside := fun he => L.binary_ne_aside (List.cons.inj he).1
  simp [others, h, Lodged.binary_ne_record, Lodged.binary_ne_draft]

theorem of_file (sound : d.Sound) (enters : d.enters L.cwd L.storage = .ok L.home)
    (links : ∀ p ∈ L.binary :: L.others, ∀ target, d.get? p ≠ some (.link target))
    (file : d.inspect L.cwd L.dest = .ok .file) : L.Delivered d := by
  have hroads : Disk.Roads d (d.without L.others) := by
    intro p v hv hroad
    refine Disk.get?_without_eq_some.mpr ⟨hv, ?_⟩
    obtain rfl | ⟨target, rfl⟩ := hroad
    · exact .inr rfl
    · exact .inl fun hp => links p (List.mem_cons_of_mem _ hp) target hv
  obtain ⟨q, v, hf, hkind⟩ := Disk.inspect_eq_ok.mp file
  obtain ⟨home, he, hd, hn⟩ := Disk.enters_of_find L.plain_binary hf
  obtain rfl : L.home = home := Except.ok.inj (enters.symm.trans he)
  have hv := (Disk.find_iff.mp hf).2.2
  -- the entry is no link, so it is where the path leads
  obtain rfl : L.binary = q := by
    obtain ⟨w, hw⟩ := Option.ne_none_iff_exists'.mp hn
    have hheld := (Disk.holder_join L.plain_binary).mpr
      ⟨(Disk.find_iff.mp hf).1, enters, hd, L.short (by simp [names]), rfl⟩
    have hfound := Disk.find_of_holder hheld hw fun target ht => links _ (List.mem_cons_self ..) target (ht ▸ hw)
    rw [L.dest_eq] at hf
    exact (Prod.ext_iff.mp (Except.ok.inj (hfound.symm.trans hf))).1
  have hv' := Disk.get?_without_eq_some.mpr ⟨hv, .inl (binary_not_other L)⟩
  exact ⟨sound, enters, Disk.inspect_eq_ok.mpr ⟨_, v, hroads.find hf (hv'.trans hv.symm), hkind⟩⟩

/-- What is delivered stays so as long as directories, and entries that are none of the others, stay as they are or
are files as before. -/
theorem change (h : L.Delivered d) (sound : d'.Sound)
    (keep : ∀ p v, d.get? p = some v → p ∉ L.others ∨ v = .dir → d'.get? p = some v ∨ (v.kind = .file ∧ d'.HasFile p)) :
    L.Delivered d' := by
  have hroads : Disk.Roads (d.without L.others) (d'.without L.others) := by
    intro p v hv hroad
    obtain ⟨hv, hp⟩ := Disk.get?_without_eq_some.mp hv
    obtain hsame | ⟨hkind, -⟩ := keep p v hv hp
    · exact Disk.get?_without_eq_some.mpr ⟨hsame, hp⟩
    · obtain rfl | ⟨target, rfl⟩ := hroad <;> cases hkind
  obtain ⟨q, v, hf, hkind⟩ := Disk.inspect_eq_ok.mp h.binary
  obtain ⟨ha, hw, hv⟩ := Disk.find_iff.mp hf
  obtain ⟨he, hd⟩ := h.leads
  refine ⟨sound, ?_, Disk.inspect_eq_ok.mpr ?_⟩
  · exact (Disk.roads_without d' L.others).walkFrom (hroads.walkFrom he hd) (hroads _ _ hd (.inl rfl))
  · obtain ⟨hv', hq⟩ := Disk.get?_without_eq_some.mp hv
    obtain hsame | ⟨-, s, m, data, hfile⟩ := keep q v hv' hq
    · have hq' := Disk.get?_without_eq_some.mpr ⟨hsame, hq⟩
      exact ⟨q, v, hroads.find hf (hq'.trans hv.symm), hkind⟩
    · have hother : q ∉ L.others := by
        obtain hq | rfl := hq
        · exact hq
        · cases hkind
      have hq' := Disk.get?_without_eq_some.mpr ⟨hfile, .inl hother⟩
      exact ⟨q, _, Disk.find_iff.mpr ⟨ha, hroads.leads hw (.inr ⟨s, m, data, hq'⟩), hq'⟩, rfl⟩

theorem inspect (h : L.Delivered d) : d.inspect L.cwd L.dest = .ok .file := by
  obtain ⟨q, v, hf, hkind⟩ := Disk.inspect_eq_ok.mp h.binary
  have hv := (Disk.find_iff.mp hf).2.2
  have hsame := (Disk.get?_without_eq_some.mp hv).1.trans hv.symm
  exact Disk.inspect_eq_ok.mpr ⟨q, v, (Disk.roads_without d L.others).find hf hsame, hkind⟩

theorem rewritten (h : L.Delivered d) {x : Place} (hr : Disk.Rewritten x d d') : L.Delivered d' := by
  refine h.change hr.sound fun p v hv _ => ?_
  cases v with
  | file s m data => exact .inr ⟨rfl, hr.hasFile ⟨s, m, data, hv⟩⟩
  | _ => exact .inl (hr.stays hv nofun)

theorem moved (h : L.Delivered d) (hm : Disk.Moved L.draft L.record d d') (hdraft : d.get? L.draft ≠ some .dir)
    (hrecord : d.get? L.record ≠ some .dir) : L.Delivered d' := by
  refine h.change hm.sound fun p v hv hp => .inl ((hm.same p ?_ ?_).trans hv)
  · rintro rfl
    obtain hp | rfl := hp
    · exact hp (by simp [others])
    · exact hdraft hv
  · rintro rfl
    obtain hp | rfl := hp
    · exact hp (by simp [others])
    · exact hrecord hv

theorem unlink_aside (h : L.Delivered d) (hu : d.unlink L.cwd (Patch.aside L.dest) = .ok d') : L.Delivered d' := by
  rw [L.aside_eq] at hu
  obtain ⟨home, n, hh, -, hdir, rfl⟩ := Disk.unlink_eq_ok hu
  obtain ⟨-, he, -, -, hl⟩ := (Disk.holder_join L.plain_aside).mp hh
  obtain rfl : L.home = home := Except.ok.inj (h.enters.symm.trans he)
  cases hl
  have hget := Disk.get?_erase d (p := L.asideName :: L.home) (by simp)
  refine h.change (h.sound.erase (by simp) hdir) fun p v hv hp => .inl ?_
  rw [hget, if_neg, hv]
  rintro rfl
  obtain hp | rfl := hp
  · exact hp (by simp [others, Lodging.aside])
  · exact hdir hv

theorem holder (h : L.Delivered d) {n : Name} (hn : Path.Plain n) {home : Place} {last : Disk.Last}
    (hh : d.holder L.cwd (L.storage / ⟨n⟩) = .ok (home, last)) : home = L.home ∧ last = .name n false := by
  obtain ⟨-, he, -, -, hl⟩ := (Disk.holder_join hn).mp hh
  exact ⟨Except.ok.inj (he.symm.trans h.enters), hl⟩

section Save

variable {outside : Disk → Disk → Prop} {es : List (Event kernel Disk)} {s : Store}

theorem create (h : L.Delivered d) {hnd : Handle} (hc : d.create L.cwd (L.storage / ⟨draftName⟩) = .ok (hnd, d')) :
    d.get? L.draft ≠ some .dir ∧ ∃ x, Disk.Rewritten x d d' ∧
      ((∃ serial mode, hnd = .file serial ∧ d'.get? x = some (.file serial mode ByteArray.empty)) ∨
        ∃ dev, hnd = .device dev) := by
  obtain ⟨home, n, hh, hdraft⟩ := Disk.openFrom_eq_ok (Disk.create_iff.mp hc).1
  obtain ⟨rfl, hn⟩ := h.holder plain_draft hh
  cases hn
  obtain ⟨dir, n, hdir, hopened⟩ := Disk.opened_of_openFrom (Disk.create_iff.mp hc).1
  refine ⟨fun hd => ?_, _, hopened.rewritten h.sound hdir⟩
  rw [Lodging.draft] at hd
  obtain ho | ⟨target, hv, -⟩ := hdraft
  · cases ho with
    | fresh hv => rw [hd] at hv; cases hv
    | cut hv => rw [hd] at hv; cases hv
    | device hv => rw [hd] at hv; cases hv
  · rw [hd] at hv
    cases hv

theorem rename (h : L.Delivered d) (hdraft : d.get? L.draft ≠ some .dir)
    (hr : d.rename L.cwd (L.storage / ⟨draftName⟩) L.statePath = .ok d') :
    (d.twins L.draft L.record = true ∧ d' = d) ∨ (Disk.Moved L.draft L.record d d' ∧ d.get? L.record ≠ some .dir) := by
  obtain ⟨dir, n, _, dir', n', _, v, hp, hq, hv, -⟩ := Disk.rename_eq_ok hr
  obtain ⟨rfl, hn⟩ := h.holder plain_draft hp
  cases hn
  have hleaf : v.isDir = false := by
    cases v with
    | dir => exact absurd hv hdraft
    | _ => rfl
  obtain ⟨home, m, hm, hmove⟩ := Disk.moved_of_rename h.sound hp hv hleaf hr
  obtain ⟨rfl, hn⟩ := h.holder plain_record hm
  cases hn
  obtain ⟨hsame | htwins, rfl⟩ | ⟨-, -, hd, hmoved⟩ := hmove
  · exact absurd hsame Lodged.record_ne_draft.symm
  · exact .inl ⟨htwins, rfl⟩
  · exact .inr ⟨hmoved, hd⟩

theorem publish (h : L.Delivered d) (hp : s.path = L.statePath)
    (hc : s.publish.plan.Course (Kernel.law L.cwd outside) d es (some (.ok ())) d') :
    L.Delivered d' ∧ ∀ target, d'.get? L.draft ≠ some (.link target) := by
  rw [Store.publish, L.sibling_eq hp, hp] at hc
  obtain ⟨hnd, t₁, _, _, -, hcreate, hc₁⟩ := Attempt.of_bind_ok hc
  obtain ⟨_, t₂, _, _, -, hwrite, hc₂⟩ := Attempt.of_bind_ok hc₁
  obtain ⟨_, t₃, _, _, -, hsync, hrename⟩ := Attempt.of_bind_ok hc₂
  obtain ⟨e, he, -⟩ | ⟨_, he, hcreated⟩ := (Attempt.of_ofReply_ok hcreate).of_call_some
  · cases he
  cases he
  obtain ⟨hdraft, x, hr₁, hhnd⟩ := h.create hcreated
  have hr : Disk.Rewritten x d t₂ := by
    obtain ⟨-, hw⟩ | ⟨e, he, -⟩ := (Attempt.of_ofReply_ok hwrite).of_call_some
    · obtain ⟨serial, mode, rfl, hv⟩ | ⟨dev, rfl⟩ := hhnd
      · exact hr₁.trans (Disk.Rewritten.write hr₁.sound hv hw).1
      · obtain rfl := Disk.write_device hw
        exact hr₁
    · cases he
  obtain ⟨rfl, -⟩ := (Attempt.of_ofReply_ok hsync).of_call_some
  have hdelivered := h.rewritten hr
  have hdraft' : t₃.get? L.draft ≠ some .dir := fun hd => hdraft (hr.roads_back _ _ hd (.inl rfl))
  obtain ⟨e, he, -⟩ | ⟨_, -, hrenamed⟩ := (Attempt.of_ofReply_ok hrename).of_call_some
  · cases he
  obtain ⟨htwins, rfl⟩ | ⟨hmoved, hrecord⟩ := hdelivered.rename hdraft' hrenamed
  · obtain ⟨s, m, -, data, -, hfile, -⟩ := Disk.twins_iff.mp htwins
    exact ⟨hdelivered, by simp [hfile]⟩
  · exact ⟨hdelivered.moved hmoved hdraft' hrecord, by simp [hmoved.left]⟩

theorem save (h : L.Delivered d) (hp : s.path = L.statePath)
    (hc : s.save.plan.Course (Kernel.law L.cwd outside) d es (some (.ok ())) d') :
    L.Delivered d' ∧ ∀ target, d'.get? L.draft ≠ some (.link target) := by
  obtain ⟨parent, hparent, habove⟩ := Path.parent?_join L.storage plain_record
  rw [← L.statePath_eq, ← hp] at hparent
  rw [Store.save_eq hparent] at hc
  obtain ⟨_, t, _, _, -, hdirs, hpublish⟩ := Attempt.of_bind_ok hc
  obtain rfl := Kernel.makeDirs_still h.enters habove (Attempt.of_ofReply_ok hdirs)
  exact h.publish hp hpublish

theorem save_read (h : L.Delivered d) (hdraft : ∀ target, d.get? L.draft ≠ some (.link target)) (hp : s.path = L.statePath)
    (hc : s.save.plan.Course (Kernel.law L.cwd outside) d es (some (.ok ())) d') :
    d'.read L.cwd L.statePath = .ok s.record.text.toUTF8 := by
  have hafter := (h.save hp hc).1
  obtain ⟨parent, hparent, habove⟩ := Path.parent?_join L.storage plain_record
  rw [← L.statePath_eq, ← hp] at hparent
  have hready : L.berth.Ready L.home d := ⟨h.sound, h.enters, h.dir, hdraft⟩
  obtain ⟨-, ho⟩ | ⟨t, serial, mode, hr, hv, hren, -⟩ := hready.save (L.sibling_eq hp) hparent habove hc
  · exact absurd rfl ho
  rw [hp] at hren
  obtain ⟨hheld, hmove⟩ := (hready.rewritten hr).rename hv hren
  change t.holder L.cwd (L.storage / ⟨recordName⟩) = .ok (L.home, .name recordName false) at hheld
  obtain ⟨ha, -, -, hshort, -⟩ := (Disk.holder_join plain_record).mp hheld
  have hrecord : d'.get? (recordName :: L.home) = some (.file serial mode s.record.text.toUTF8) := by
    obtain ⟨htwins, rfl⟩ | ⟨-, -, hmoved⟩ := hmove
    · exact (hr.sound.twins_eq htwins).trans hv
    · exact hmoved.arrived.trans hv
  have hheld' := (Disk.holder_join plain_record).mpr ⟨ha, hafter.enters, hafter.dir, hshort, rfl⟩
  rw [Disk.read_eq, L.statePath_eq, Disk.find_of_holder hheld' hrecord (by simp)]
  rfl

end Save

end Delivered

end Lodging

end Provision
