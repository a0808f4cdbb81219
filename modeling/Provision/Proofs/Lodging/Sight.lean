import Provision.Proofs.Lodging.Sprouts
import Provision.Proofs.Patch

/-!
What there is to be seen of a storage directory by one who finds the server in it: what has the names of the binary,
what is in the way of a save, and which version is on record. A directory that is not there yet looks like an empty
one, and files are told apart by what is in them and not by their serial numbers.
-/

set_option autoImplicit false

namespace Provision

namespace Node

def isFile : Node → Bool
  | .file _ _ _ => true
  | _ => false

@[simp] theorem contents_face (v : Node) : v.face.contents = v.contents := by cases v <;> rfl

theorem face_eq_dir {v : Node} : v.face = .dir ↔ v = .dir := by cases v <;> simp [face]

theorem eq_file_of_face {v : Node} {mode : Nat} {data : ByteArray} (h : v.face = .file 0 mode data) :
    ∃ serial, v = .file serial mode data := by
  cases v with
  | file serial mode' data' =>
    cases h
    exact ⟨serial, rfl⟩
  | _ => cases h

end Node

structure Sight where
  binary : Option Node
  aside : Option Node
  /-- Whether both are names of one file. -/
  shared : Bool
  /-- What has the name of the draft, unless it is a file. -/
  obstacle : Option Node
  version : Option String

def Sight.blank : Sight := ⟨none, none, false, none, none⟩

namespace Lodging

variable (L : Lodging)

def recordIn (home : Place) (d : Disk) : Option Record :=
  Store.recalled ((d.get? (recordName :: home)).elim (.error (.os .missing)) Node.contents)

def version (d : Disk) : Option (Option String) := (Store.recalled (d.read L.cwd L.statePath)).map (·.serverVersion)

/-- The directory looks like that, and what is written to the draft is written to nothing else. -/
structure Shows (home : Place) (σ : Sight) (d : Disk) : Prop where
  linkless : L.Linkless home d
  lone : d.Lone (draftName :: home)
  binary : (d.get? (L.binaryName :: home)).map Node.face = σ.binary
  aside : (d.get? (L.asideName :: home)).map Node.face = σ.aside
  shared : d.twins (L.binaryName :: home) (L.asideName :: home) = σ.shared
  obstacle : (d.get? (draftName :: home)).filter (!·.isFile) = σ.obstacle
  version : (recordIn home d).map (·.serverVersion) = some σ.version

def There (σ : Sight) (d : Disk) : Prop := ∃ home, L.Shows home σ d

/-- The directory is not there, and either all of the way to it can be made or nothing of it. -/
def Pending (d : Disk) : Prop := L.Awaited d ∨ L.Barred d

def Looks (σ : Sight) (d : Disk) : Prop := L.There σ d ∨ (L.Pending d ∧ σ = .blank)

/-- The directory has no links in it and a draft without a second name, or it is not there and either all of the way to
it can be made or nothing of it. -/
def Clear (d : Disk) : Prop := (∃ home, L.Linkless home d ∧ d.Lone (draftName :: home)) ∨ L.Pending d

variable {L} {home : Place} {σ : Sight} {d d' : Disk} {es : List (Event kernel Disk)}

theorem There.looks (h : L.There σ d) : L.Looks σ d := .inl h

theorem Pending.absent (h : L.Pending d) : L.Absent d := h.elim Awaited.absent Barred.toAbsent

namespace Shows

theorem revised (h : L.Shows home σ d) (hl : L.Linkless home d') (hlone : d'.Lone (draftName :: home)) {b a : Option Node}
    {shared : Bool} (hb : (d'.get? (L.binaryName :: home)).map Node.face = b)
    (ha : (d'.get? (L.asideName :: home)).map Node.face = a)
    (hshared : d'.twins (L.binaryName :: home) (L.asideName :: home) = shared)
    (hdraft : d'.get? (draftName :: home) = d.get? (draftName :: home))
    (hrecord : d'.get? (recordName :: home) = d.get? (recordName :: home)) :
    L.Shows home { σ with binary := b, aside := a, shared := shared } d' where
  linkless := hl
  lone := hlone
  binary := hb
  aside := ha
  shared := hshared
  obstacle := by rw [hdraft]; exact h.obstacle
  version := by rw [recordIn, hrecord]; exact h.version

theorem unchanged (h : L.Shows home σ d) (hl : L.Linkless home d') (hlone : d'.Lone (draftName :: home))
    (same : ∀ n ∈ L.names, d'.get? (n :: home) = d.get? (n :: home)) : L.Shows home σ d' := by
  have hb := same L.binaryName (by simp [names])
  have ha := same L.asideName (by simp [names])
  refine h.revised hl hlone ?_ ?_ ((Disk.twins_congr hb ha).trans h.shared) (same _ (by simp [names]))
    (same _ (by simp [names]))
  · rw [hb]
    exact h.binary
  · rw [ha]
    exact h.aside

theorem file_at {n : Name} {face : Option Node} (h : (d.get? (n :: home)).map Node.face = face) {mode : Nat}
    {data : ByteArray} (hface : face = some (.file 0 mode data)) :
    ∃ serial, d.get? (n :: home) = some (.file serial mode data) := by
  rw [hface] at h
  obtain ⟨v, hv, hf⟩ := Option.map_eq_some_iff.mp h
  obtain ⟨serial, rfl⟩ := Node.eq_file_of_face hf
  exact ⟨serial, hv⟩

theorem record_ne_dir (h : L.Shows home σ d) : d.get? (recordName :: home) ≠ some .dir := by
  intro hd
  have hv := h.version
  rw [recordIn, hd] at hv
  cases hv

theorem of_empty (hs : d.Sound) (ho : L.berth.Open home d) (hempty : ∀ n, d.get? (n :: home) = none) :
    L.Shows home .blank d where
  linkless := ⟨hs, ho.1, ho.2, fun n _ target => by simp [hempty]⟩
  lone := Disk.lone_of_none (hempty _)
  binary := by simp [hempty, Sight.blank]
  aside := by simp [hempty, Sight.blank]
  shared := by simp [Disk.twins, hempty, Sight.blank]
  obstacle := by simp [hempty, Sight.blank]
  version := by
    rw [recordIn, hempty]
    rfl

theorem names_ne {m n : Name} (hne : m ≠ n) (home : Place) : m :: home ≠ n :: home := fun he => hne (List.cons.inj he).1

theorem binary_ne_saved : L.binaryName ≠ draftName ∧ L.binaryName ≠ recordName ∧ L.asideName ≠ draftName ∧
    L.asideName ≠ recordName :=
  have hb := Lodged.apart_binary (L := L) (.inl rfl)
  have ha := Lodged.apart_binary (L := L) (.inr rfl)
  ⟨hb.2, hb.1, ha.2, ha.1⟩

theorem at_binaries (h : L.Shows home σ d) (hl : L.Linkless home d') (hlone : d'.Lone (draftName :: home))
    (same : ∀ p, p ≠ L.binaryName :: home → p ≠ L.asideName :: home → d'.get? p = d.get? p) {b a : Option Node}
    {shared : Bool} (hb : (d'.get? (L.binaryName :: home)).map Node.face = b)
    (ha : (d'.get? (L.asideName :: home)).map Node.face = a)
    (hshared : d'.twins (L.binaryName :: home) (L.asideName :: home) = shared) :
    L.Shows home { σ with binary := b, aside := a, shared := shared } d' := by
  obtain ⟨hdraft, hrecord, hdraft', hrecord'⟩ := binary_ne_saved (L := L)
  exact h.revised hl hlone hb ha hshared (same _ (names_ne hdraft.symm home) (names_ne hdraft'.symm home))
    (same _ (names_ne hrecord.symm home) (names_ne hrecord'.symm home))

theorem unlinked_binary (h : L.Shows home σ d) (hdir : d.get? (L.binaryName :: home) ≠ some .dir) :
    L.Shows home { σ with binary := none, shared := false } (d.erase (L.binaryName :: home)) := by
  obtain ⟨hl, hget⟩ := h.linkless.erased (n := L.binaryName) (by simp [names]) hdir
  have hgone := (hget (L.binaryName :: home)).trans (if_pos rfl)
  have hlone := h.lone.erase (q := L.binaryName :: home) (by simp) (names_ne (binary_ne_saved (L := L)).1.symm home)
  refine h.at_binaries hl hlone (fun p hp _ => (hget p).trans (if_neg hp)) (by rw [hgone]; rfl) ?_
    (by simp [Disk.twins, hgone])
  rw [hget, if_neg (names_ne L.binary_ne_aside.symm home)]
  exact h.aside

theorem unlinked_aside (h : L.Shows home σ d) (hdir : d.get? (L.asideName :: home) ≠ some .dir) :
    L.Shows home { σ with aside := none, shared := false } (d.erase (L.asideName :: home)) := by
  obtain ⟨hl, hget⟩ := h.linkless.erased (n := L.asideName) (by simp [names]) hdir
  have hgone := (hget (L.asideName :: home)).trans (if_pos rfl)
  have hlone := h.lone.erase (q := L.asideName :: home) (by simp) (names_ne (binary_ne_saved (L := L)).2.2.1.symm home)
  refine h.at_binaries hl hlone (fun p _ hp => (hget p).trans (if_neg hp)) ?_ (by rw [hgone]; rfl)
    (by simp [Disk.twins, hgone])
  rw [hget, if_neg (names_ne L.binary_ne_aside home)]
  exact h.binary

theorem lone_moved (h : L.Shows home σ d) {m n : Name} (hm : L.Binary m) (hn : L.Binary n) :
    (d.move (m :: home) (n :: home)).Lone (draftName :: home) :=
  h.lone.move (by simp) (by simp) (Lodged.draft_apart (L := L.movedTo home) hm) (Lodged.draft_apart (L := L.movedTo home) hn)

theorem moved_aside (h : L.Shows home σ d) {v : Node} (hv : d.get? (L.binaryName :: home) = some v) (hleaf : v.isDir = false)
    (hdir : d.get? (L.asideName :: home) ≠ some .dir) :
    L.Shows home { σ with binary := none, aside := σ.binary, shared := false }
      (d.move (L.binaryName :: home) (L.asideName :: home)) := by
  obtain ⟨hl, hget⟩ := h.linkless.moved (m := L.binaryName) (n := L.asideName) (by simp [names]) (by simp [names])
    L.binary_ne_aside hv hleaf hdir
  have hgone : (d.move (L.binaryName :: home) (L.asideName :: home)).get? (L.binaryName :: home) = none := by
    rw [hget, if_neg (names_ne L.binary_ne_aside home), if_pos rfl]
  refine h.at_binaries hl (h.lone_moved (.inl rfl) (.inr rfl)) (fun p hb ha => by rw [hget, if_neg ha, if_neg hb])
    (by rw [hgone]; rfl) ?_ (by simp [Disk.twins, hgone])
  rw [hget, if_pos rfl, ← h.binary, hv]

theorem moved_back (h : L.Shows home σ d) {v : Node} (hv : d.get? (L.asideName :: home) = some v) (hleaf : v.isDir = false)
    (hdir : d.get? (L.binaryName :: home) ≠ some .dir) :
    L.Shows home { σ with binary := σ.aside, aside := none, shared := false }
      (d.move (L.asideName :: home) (L.binaryName :: home)) := by
  obtain ⟨hl, hget⟩ := h.linkless.moved (m := L.asideName) (n := L.binaryName) (by simp [names]) (by simp [names])
    L.binary_ne_aside.symm hv hleaf hdir
  have hgone : (d.move (L.asideName :: home) (L.binaryName :: home)).get? (L.asideName :: home) = none := by
    rw [hget, if_neg (names_ne L.binary_ne_aside.symm home), if_pos rfl]
  refine h.at_binaries hl (h.lone_moved (.inr rfl) (.inl rfl)) (fun p hb ha => by rw [hget, if_neg hb, if_neg ha]) ?_
    (by rw [hgone]; rfl) (by simp [Disk.twins, hgone])
  rw [hget, if_pos rfl, ← h.aside, hv]

theorem rewritten (h : L.Shows home σ d) (hr : Disk.Rewritten (draftName :: home) d d') : L.Shows home σ d' := by
  obtain ⟨hbinary, -, haside, -⟩ := binary_ne_saved (L := L)
  have hb := hr.other h.lone (names_ne hbinary home)
  have ha := hr.other h.lone (names_ne haside home)
  refine ⟨h.linkless.rewritten hr, hr.lone h.lone, ?_, ?_, (Disk.twins_congr hb ha).trans h.shared, ?_, ?_⟩
  · rw [hb]
    exact h.binary
  · rw [ha]
    exact h.aside
  · rw [← h.obstacle]
    obtain he | ⟨⟨s, m, data, hf⟩, hn | ⟨s', m', data', hf'⟩⟩ := hr.kept
    · rw [he]
    · rw [hf, hn]
      rfl
    · rw [hf, hf']
      rfl
  · rw [recordIn, hr.other h.lone (names_ne (by decide) home)]
    exact h.version

theorem published (h : L.Shows home σ d) {s : Store} (hp : s.path = L.statePath) {o : Option (Except Error Unit)}
    (hpub : Berth.Ready.Published L.berth home s d o d') :
    L.Sprouts d d' ∧ ((L.Shows home σ d' ∧ o ≠ some (.ok ())) ∨
      (L.Shows home { σ with version := s.record.serverVersion } d' ∧ ∀ e, o ≠ some (.error e))) := by
  obtain ⟨hbinary, hbinary', haside, haside'⟩ := binary_ne_saved (L := L)
  have hsprouts : ∀ {t : Disk}, Disk.Rewritten (draftName :: home) d t → L.Sprouts d t := fun hr =>
    .of_same hr.sound hr.roads (h.linkless.rewritten hr).isOpen fun p hp => hr.other h.lone (hp _ (by simp [spareNames]))
  obtain ⟨hr, ho⟩ | ⟨t, serial, mode, hr, hv, hren, ho⟩ := hpub
  · exact ⟨hsprouts hr, .inl ⟨h.rewritten hr, ho⟩⟩
  have ht := h.rewritten hr
  rw [hp] at hren
  replace hv : t.get? (draftName :: home) = some (.file serial mode s.record.text.toUTF8) := hv
  have htwins := ht.lone.not_twins (names_ne (m := recordName) (by decide) home)
  obtain ⟨hlinkless, hroads, hrecord, hdraft, hsame⟩ := ht.linkless.renamed hv htwins hren
  have hsprouts' : L.Sprouts t d' := .of_same hlinkless.sound hroads hlinkless.isOpen fun p hp =>
    hsame p (hp _ (by simp [spareNames])) (hp _ (by simp [spareNames]))
  have hb := hsame _ (names_ne hbinary home) (names_ne hbinary' home)
  have ha := hsame _ (names_ne haside home) (names_ne haside' home)
  refine ⟨(hsprouts hr).trans hsprouts', .inr ⟨⟨hlinkless, Disk.lone_of_none hdraft, ?_, ?_,
    (Disk.twins_congr hb ha).trans ht.shared, ?_, ?_⟩, ho⟩⟩
  · rw [hb]
    exact ht.binary
  · rw [ha]
    exact ht.aside
  · have hobstacle := ht.obstacle
    rw [hv] at hobstacle
    rw [hdraft]
    exact hobstacle
  · rw [recordIn, hrecord]
    exact congrArg (Option.map _) (Store.recalled_text s.record)

end Shows

namespace Looks

theorem version (h : L.Looks σ d) (ha : Disk.admits L.statePath = .ok ()) : L.version d = some σ.version := by
  rw [Lodging.version]
  obtain ⟨home, h⟩ | ⟨h, rfl⟩ := h
  · rw [h.linkless.read, ha]
    exact h.version
  · rw [Disk.read_eq, statePath_eq, h.absent.find plain_record, show Disk.admits (L.storage / ⟨recordName⟩) = .ok () from ha]
    rfl

theorem find (h : L.Looks σ d) :
    ((d.find L.cwd L.dest).toOption.map fun r => r.2.face) = (Disk.admits L.dest).toOption.bind fun _ => σ.binary := by
  have hshort : ¬ Disk.byteLength L.binaryName > Disk.nameLimit := Nat.not_lt.mpr (L.short (by simp [names]))
  obtain ⟨home, h⟩ | ⟨h, rfl⟩ := h
  · rw [dest_eq, h.linkless.find L.plain_binary (by simp [names]), ← h.binary]
    cases Disk.admits (L.storage / ⟨L.binaryName⟩) with
    | error e => rfl
    | ok u =>
      simp only [Except.bind, hshort, if_false]
      cases d.get? (L.binaryName :: home) <;> rfl
  · rw [dest_eq, h.absent.find L.plain_binary]
    cases Disk.admits (L.storage / ⟨L.binaryName⟩) <;> rfl

theorem contents (h : L.Looks σ d) :
    d.contents L.cwd L.dest = ((Disk.admits L.dest).toOption.bind fun _ => σ.binary).bind fun v => v.contents.toOption := by
  rw [← h.find, Disk.contents, Disk.read_eq]
  cases d.find L.cwd L.dest with
  | error e => rfl
  | ok r => exact (congrArg Except.toOption (Node.contents_face r.2)).symm

theorem of_clear (h : L.Clear d) {r : Record} (hr : Store.recalled (d.read L.cwd L.statePath) = some r) :
    Disk.admits L.statePath = .ok () ∧ ∃ σ, L.Looks σ d ∧ σ.version = r.serverVersion := by
  have hadmits : Disk.admits L.statePath = .ok () := by
    cases ha : Disk.admits L.statePath with
    | ok u => rfl
    | error e =>
      have hread : d.read L.cwd L.statePath = .error e := by
        rw [Disk.read_eq, Disk.find, Disk.resolve, ha]
        rfl
      have hmissing := Disk.admits_missing (Path.join_ne_nil L.storage plain_record) ha
      simp [hread, Store.recalled, hmissing] at hr
  refine ⟨hadmits, ?_⟩
  obtain ⟨home, h, hlone⟩ | h := h
  · rw [h.read, hadmits] at hr
    refine ⟨⟨_, _, _, _, r.serverVersion⟩, .inl ⟨home, h, hlone, rfl, rfl, rfl, rfl, ?_⟩, rfl⟩
    exact congrArg (Option.map _) hr
  · have hblank : L.Looks .blank d := .inr ⟨h, rfl⟩
    have hversion := hblank.version hadmits
    rw [Lodging.version, hr] at hversion
    exact ⟨.blank, hblank, (Option.some.inj hversion).symm⟩

theorem makeDirs {outside : Disk → Disk → Prop} (h : L.Looks σ d) {dir : Path} (hdir : ∀ a ∈ dir.ancestors, a.Above L.storage)
    {o : Option (Except Fault Unit)} (hc : (Kernel.makeDirs dir).Course (Kernel.law L.cwd outside) d es o d') :
    L.Looks σ d' ∧ L.Sprouts d d' := by
  obtain ⟨home, h⟩ | ⟨h, rfl⟩ := h
  · obtain rfl := Kernel.makeDirs_still h.linkless.enters hdir hc
    exact ⟨.inl ⟨home, h⟩, .refl h.linkless.sound⟩
  refine Kernel.makeDirs_keeps (P := fun t => L.Looks .blank t ∧ L.Sprouts d t) hdir (fun ha hne ht hmade => ?_)
    ⟨.inr ⟨h, rfl⟩, .refl h.absent.sound⟩ hc
  obtain ⟨⟨home, ht⟩ | ⟨ht | ht, -⟩, hsprouts⟩ := ht
  · obtain ⟨e, he⟩ := Disk.makeDir_above ht.linkless.enters ha hne
    cases he.symm.trans hmade
  · refine ⟨?_, hsprouts.trans (ht.sprouts ha hne hmade)⟩
    obtain ⟨x, front, rest, hadded, hsteps, hwalk, hrest⟩ := ht.made ha hne hmade
    obtain ht' | hopen := Awaited.of_empty hadded.sound hsteps hwalk hadded.dir hadded.empty hrest
    · exact .inr ⟨.inl ht', rfl⟩
    · exact .inl ⟨x, .of_empty hadded.sound hopen hadded.empty⟩
  · obtain ⟨e, he⟩ := ht.still _ ha hne
    cases he.symm.trans hmade

theorem save {outside : Disk → Disk → Prop} (h : L.Looks σ d) {s : Store} (hp : s.path = L.statePath)
    (hv : s.record.serverVersion = σ.version) {o : Option (Except Error Unit)}
    (hc : s.save.plan.Course (Kernel.law L.cwd outside) d es o d') : L.Looks σ d' ∧ L.Sprouts d d' := by
  obtain ⟨parent, habove, ⟨-, o', hmake⟩ | ⟨t, _, _, hmake, hrest⟩⟩ :=
    Berth.course_save (B := L.berth) (by rw [hp]; rfl) hc
  · exact h.makeDirs habove hmake
  · obtain ⟨⟨home, ht⟩ | ⟨ht, hblank⟩, hsprouts⟩ := h.makeDirs habove hmake
    · obtain ⟨hsprouts', h'⟩ := ht.published hp (ht.linkless.ready.publish (L.sibling_eq hp) hrest)
      rw [hv] at h'
      exact ⟨.inl ⟨home, h'.elim And.left And.left⟩, hsprouts.trans hsprouts'⟩
    · obtain ⟨rfl, -⟩ := Berth.publish_still ht.absent.shut (L.sibling_eq hp) hrest
      exact ⟨.inr ⟨ht, hblank⟩, hsprouts⟩

end Looks

end Lodging

end Provision
