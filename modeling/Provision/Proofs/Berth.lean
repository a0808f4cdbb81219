import Provision.Store
import Provision.Proofs.Disk.Step
import Provision.Proofs.Law

set_option autoImplicit false

namespace Provision

namespace Kernel

theorem uses_makeChain {ok : Path → Prop} {chain : List Path} (h : ∀ a ∈ chain, ok a) :
    (makeChain chain).Uses (I := kernel) fun c =>
      (∃ a, c = .makeDir a ∧ ok a ∧ a.chars ≠ []) ∨ ∃ a, c = .inspect a := by
  have hsettle : ∀ a e, (makeChain.settle a e).Uses (I := kernel) fun c =>
      (∃ a, c = .makeDir a ∧ ok a ∧ a.chars ≠ []) ∨ ∃ a, c = .inspect a := by
    intro a e
    refine ⟨.inr ⟨a, rfl⟩, fun r => ?_⟩
    cases r with
    | error e => exact trivial
    | ok kind => cases kind <;> exact trivial
  -- along the chain, each directory being tried before and after those above it
  induction chain with
  | nil => exact trivial
  | cons p above ih =>
    unfold makeChain
    split
    · exact trivial
    · rename_i hne
      have hp : ok p ∧ p.chars ≠ [] := ⟨h p (List.mem_cons_self ..), by simpa using hne⟩
      refine ⟨.inl ⟨p, rfl, hp⟩, fun r => ?_⟩
      cases r with
      | ok u => exact trivial
      | error first =>
        change Plan.Uses _ (if first.isMissing = true then _ else _)
        split
        · refine Plan.uses_bind (ih fun a ha => h a (List.mem_cons_of_mem _ ha)) fun r => ?_
          cases r with
          | error e => exact trivial
          | ok u =>
            refine ⟨.inl ⟨p, rfl, hp⟩, fun r => ?_⟩
            cases r with
            | ok u => exact trivial
            | error second => exact hsettle p second
        · exact hsettle p first

section Directories

variable {cwd home : Place} {outside : Disk → Disk → Prop} {d d' : Disk} {es : List (Event kernel Disk)} {dir : Path}
  {o : Option (Except Fault Unit)}

theorem makeDirs_keeps {ok : Path → Prop} {P : Disk → Prop} (hdir : ∀ a ∈ dir.ancestors, ok a)
    (hstep : ∀ {a : Path} {t t' : Disk}, ok a → a.chars ≠ [] → P t → t.makeDir cwd a = .ok t' → P t') (h : P d)
    (hc : (makeDirs dir).Course (law cwd outside) d es o d') : P d' := by
  refine hc.keeps (uses_makeChain hdir) (fun c t r t' hm ht hl => ?_) h
  obtain ⟨a, rfl, ha, hne⟩ | ⟨a, rfl⟩ := hm
  · obtain ⟨e, -, rfl⟩ | ⟨u, -, hm⟩ := hl
    · exact ht
    · exact hstep ha hne ht hm
  · obtain ⟨rfl, -⟩ := hl
    exact ht

theorem makeDirs_still {p : Path} (he : d.enters cwd p = .ok home) (hdir : ∀ a ∈ dir.ancestors, a.Above p)
    (hc : (makeDirs dir).Course (law cwd outside) d es o d') : d' = d := by
  refine makeDirs_keeps (P := (· = d)) hdir (fun ha hne ht hm => ?_) rfl hc
  subst ht
  obtain ⟨e, he⟩ := Disk.makeDir_above he ha hne
  cases he.symm.trans hm

end Directories

end Kernel

namespace Store

def publish (s : Store) : Kernel.Work Error Unit := do
  let h ← Attempt.ofReply (Kernel.create s.sibling) (.io "failed to create temp state file")
  Attempt.ofReply (Kernel.write h s.record.text.toUTF8) (.io "failed to write temp state file")
  Attempt.ofReply (Kernel.sync h) (.io "failed to sync temp state file")
  Attempt.ofReply (Kernel.rename s.sibling s.path) (.io "failed to rename temp state file")

theorem save_eq {s : Store} {parent : Path} (h : s.path.parent? = some parent) :
    s.save = (Attempt.ofReply (Kernel.makeDirs parent) (.io ("failed to create " ++ parent.text)) >>= fun _ =>
      s.publish) := by
  unfold save
  rw [h]
  rfl

end Store

structure Berth where
  cwd : Place
  dir : Path
  name : Name
  draft : Name
  plainName : Path.Plain name
  plainDraft : Path.Plain draft
  apart : draft ≠ name

namespace Berth

variable (B : Berth)

def file : Path := B.dir / ⟨B.name⟩
def sketch : Path := B.dir / ⟨B.draft⟩

/-- The path leads to a directory, and the draft in it is no link. -/
structure Ready (home : Place) (d : Disk) : Prop where
  sound : d.Sound
  enters : d.enters B.cwd B.dir = .ok home
  dir : d.get? home = some .dir
  draft : ∀ target, d.get? (B.draft :: home) ≠ some (.link target)

def Holds (home : Place) (d : Disk) (data : ByteArray) (hnd : Handle) : Prop :=
  (∃ serial mode, hnd = .file serial ∧ d.get? (B.draft :: home) = some (.file serial mode data)) ∨ ∃ dev, hnd = .device dev

namespace Ready

variable {B} {home : Place} {outside : Disk → Disk → Prop} {d d' : Disk} {es : List (Event kernel Disk)}

theorem rewritten (h : B.Ready home d) (hr : Disk.Rewritten (B.draft :: home) d d') : B.Ready home d' where
  sound := hr.sound
  enters := hr.roads.walkFrom h.enters h.dir
  dir := hr.roads home .dir h.dir (.inl rfl)
  draft := fun target ht => h.draft target (hr.roads_back _ _ ht (.inr ⟨target, rfl⟩))

theorem holder (h : B.Ready home d) {n : Name} (hn : Path.Plain n) {dir : Place} {last : Disk.Last}
    (hh : d.holder B.cwd (B.dir / ⟨n⟩) = .ok (dir, last)) : dir = home ∧ last = .name n false := by
  obtain ⟨-, he, -, -, hl⟩ := (Disk.holder_join hn).mp hh
  rw [h.enters] at he
  exact ⟨(Except.ok.inj he).symm, hl⟩

theorem create (h : B.Ready home d) {hnd : Handle} (hc : d.create B.cwd B.sketch = .ok (hnd, d')) :
    Disk.Rewritten (B.draft :: home) d d' ∧ B.Holds home d' ByteArray.empty hnd := by
  have hl : ∀ dir n slash target, d.holder B.cwd B.sketch = .ok (dir, .name n slash) →
      d.get? (n :: dir) ≠ some (.link target) := by
    intro dir n slash target hh
    obtain ⟨rfl, he⟩ := h.holder B.plainDraft hh
    cases he
    exact h.draft target
  obtain ⟨dir, n, hh, ho⟩ := Disk.create_eq_ok hl hc
  obtain ⟨rfl, he⟩ := h.holder B.plainDraft hh
  cases he
  exact ho.rewritten h.sound h.dir

theorem write (h : B.Ready home d) {data part : ByteArray} {hnd : Handle} (hh : B.Holds home d data hnd)
    (hw : d.write hnd part = .ok d') :
    Disk.Rewritten (B.draft :: home) d d' ∧ B.Holds home d' (data ++ part) hnd := by
  obtain ⟨serial, mode, rfl, hv⟩ | ⟨dev, rfl⟩ := hh
  · obtain ⟨hr, hv'⟩ := Disk.Rewritten.write h.sound hv hw
    exact ⟨hr, .inl ⟨serial, mode, rfl, hv'⟩⟩
  · obtain rfl := Disk.write_device hw
    exact ⟨.refl h.sound, .inr ⟨dev, rfl⟩⟩

theorem rename (h : B.Ready home d) {serial mode : Nat} {data : ByteArray}
    (hv : d.get? (B.draft :: home) = some (.file serial mode data)) (hr : d.rename B.cwd B.sketch B.file = .ok d') :
    d.holder B.cwd B.file = .ok (home, .name B.name false) ∧
      ((d.twins (B.draft :: home) (B.name :: home) = true ∧ d' = d) ∨
        (d.twins (B.draft :: home) (B.name :: home) = false ∧ d.get? (B.name :: home) ≠ some .dir ∧
          Disk.Moved (B.draft :: home) (B.name :: home) d d')) := by
  obtain ⟨dir, n, slash, dir', n', slash', v, hp, hq, -⟩ := Disk.rename_eq_ok hr
  obtain ⟨rfl, he⟩ := h.holder B.plainDraft hp
  cases he
  obtain ⟨dir₁, n₁, hq₁, hmove⟩ := Disk.moved_of_rename h.sound hp hv rfl hr
  obtain ⟨rfl, he⟩ := h.holder B.plainName hq₁
  cases he
  refine ⟨hq₁, ?_⟩
  obtain ⟨hsame | htwins, rfl⟩ | ⟨-, htwins, hd, hmoved⟩ := hmove
  · exact absurd (List.cons.inj hsame).1 B.apart
  · exact .inl ⟨htwins, rfl⟩
  · exact .inr ⟨htwins, hd, hmoved⟩

theorem course_create (h : B.Ready home d) {wrap : Fault → Error} {o : Option (Except Error Handle)}
    (hc : (Attempt.plan (Attempt.ofReply (Kernel.create B.sketch) wrap)).Course (Kernel.law B.cwd outside) d es o d') :
    Disk.Rewritten (B.draft :: home) d d' ∧ ∀ hnd, o = some (.ok hnd) → B.Holds home d' ByteArray.empty hnd := by
  refine Attempt.told hc fun hcall => hcall.told (fun hs => hs ▸ .refl h.sound) fun r hl => ?_
  obtain ⟨e, rfl, rfl⟩ | ⟨hnd, rfl, hl⟩ := hl
  · exact ⟨.refl h.sound, nofun⟩
  · refine ⟨(h.create hl).1, ?_⟩
    rintro hnd' ⟨⟩
    exact (h.create hl).2

theorem course_write (h : B.Ready home d) {wrap : Fault → Error} {hnd : Handle} {data part : ByteArray}
    (hh : B.Holds home d data hnd) {o : Option (Except Error Unit)}
    (hc : (Attempt.plan (Attempt.ofReply (Kernel.write hnd part) wrap)).Course (Kernel.law B.cwd outside) d es o d') :
    Disk.Rewritten (B.draft :: home) d d' ∧ ∀ a, o = some (.ok a) → B.Holds home d' (data ++ part) hnd := by
  refine Attempt.told hc fun hcall => hcall.told (fun hs => hs ▸ .refl h.sound) fun r hl => ?_
  obtain ⟨rfl, hw⟩ | ⟨e, rfl, rfl | ⟨some, rest, -, hw⟩⟩ := hl
  · exact ⟨(h.write hh hw).1, fun _ _ => (h.write hh hw).2⟩
  · exact ⟨.refl h.sound, nofun⟩
  · exact ⟨(h.write hh hw).1, nofun⟩

theorem course_sync {wrap : Fault → Error} {hnd : Handle} {o : Option (Except Error Unit)}
    (hc : (Attempt.plan (Attempt.ofReply (Kernel.sync hnd) wrap)).Course (Kernel.law B.cwd outside) d es o d') :
    d' = d ∧ (o = some (.ok ()) → ∃ serial, hnd = .file serial) := by
  obtain ⟨o', hcall, rfl⟩ := Attempt.of_ofReply hc
  obtain ⟨rfl, rfl, rfl | ⟨r, rfl, -⟩⟩ | ⟨r, rfl, rfl, rfl, hl⟩ := hcall.of_call
  · exact ⟨rfl, nofun⟩
  · exact ⟨rfl, nofun⟩
  · refine ⟨rfl, fun ho => ?_⟩
    obtain rfl | ⟨e, rfl⟩ := hl
    · cases hnd with
      | file serial => exact ⟨serial, rfl⟩
      | device dev => cases ho
    · cases ho

/-- The draft is all that a save has touched, and it has not succeeded, or the draft is complete and has been
renamed, and the save has not failed. -/
def Published (B : Berth) (home : Place) (s : Store) (d : Disk) (o : Option (Except Error Unit)) (d' : Disk) : Prop :=
  (Disk.Rewritten (B.draft :: home) d d' ∧ o ≠ some (.ok ())) ∨
    ∃ t serial mode, Disk.Rewritten (B.draft :: home) d t ∧
      t.get? (B.draft :: home) = some (.file serial mode s.record.text.toUTF8) ∧
      t.rename B.cwd B.sketch s.path = .ok d' ∧ ∀ e, o ≠ some (.error e)

theorem course_rename {s : Store} {wrap : Fault → Error} {serial mode : Nat} {t : Disk}
    (ht : Disk.Rewritten (B.draft :: home) d t)
    (hv : t.get? (B.draft :: home) = some (.file serial mode s.record.text.toUTF8)) {o : Option (Except Error Unit)}
    (hc : (Attempt.plan (Attempt.ofReply (Kernel.rename B.sketch s.path) wrap)).Course (Kernel.law B.cwd outside) t es o d') :
    Published B home s d o d' := by
  obtain ⟨o', hcall, rfl⟩ := Attempt.of_ofReply hc
  obtain ⟨rfl, rfl, rfl | ⟨r, hl⟩⟩ | ⟨r, rfl, rfl, hl⟩ := hcall.of_call
  · exact .inl ⟨ht, nofun⟩
  · obtain ⟨e, -, rfl⟩ | ⟨u, -, hr⟩ := hl
    · exact .inl ⟨ht, nofun⟩
    · exact .inr ⟨t, serial, mode, ht, hv, hr, nofun⟩
  · obtain ⟨e, rfl, rfl⟩ | ⟨u, rfl, hr⟩ := hl
    · exact .inl ⟨ht, nofun⟩
    · exact .inr ⟨t, serial, mode, ht, hv, hr, nofun⟩

theorem publish (h : B.Ready home d) {s : Store} (hs : s.sibling = B.sketch) {o : Option (Except Error Unit)}
    (hc : s.publish.plan.Course (Kernel.law B.cwd outside) d es o d') : Published B home s d o d' := by
  rw [Store.publish, hs] at hc
  obtain ⟨rfl, hcreate⟩ | ⟨e, rfl, hcreate⟩ | ⟨hnd, t₁, _, _, -, hcreate, hc₁⟩ := Attempt.of_bind hc
  · exact .inl ⟨(h.course_create hcreate).1, nofun⟩
  · exact .inl ⟨(h.course_create hcreate).1, nofun⟩
  obtain ⟨hd₁, hnd₁⟩ := h.course_create hcreate
  have h₁ := h.rewritten hd₁
  have hholds := hnd₁ hnd rfl
  obtain ⟨rfl, hwrite⟩ | ⟨e, rfl, hwrite⟩ | ⟨_, t₂, _, _, -, hwrite, hc₂⟩ := Attempt.of_bind hc₁
  · exact .inl ⟨hd₁.trans (h₁.course_write hholds hwrite).1, nofun⟩
  · exact .inl ⟨hd₁.trans (h₁.course_write hholds hwrite).1, nofun⟩
  obtain ⟨hw, hnd₂⟩ := h₁.course_write hholds hwrite
  have hd₂ := hd₁.trans hw
  obtain ⟨rfl, hsync⟩ | ⟨e, rfl, hsync⟩ | ⟨_, t₃, _, _, -, hsync, hc₃⟩ := Attempt.of_bind hc₂
  · obtain ⟨rfl, -⟩ := course_sync hsync
    exact .inl ⟨hd₂, nofun⟩
  · obtain ⟨rfl, -⟩ := course_sync hsync
    exact .inl ⟨hd₂, nofun⟩
  -- a device cannot be synced, so what is renamed is a file
  obtain ⟨rfl, hfile⟩ := course_sync hsync
  obtain ⟨serial, rfl⟩ := hfile rfl
  obtain ⟨serial', mode, he, hv⟩ | ⟨dev, hdev⟩ := hnd₂ () rfl
  · cases he
    rw [ByteArray.empty_append] at hv
    exact course_rename hd₂ hv hc₃
  · cases hdev

theorem save (h : B.Ready home d) {s : Store} (hs : s.sibling = B.sketch) {parent : Path}
    (hparent : s.path.parent? = some parent) (habove : ∀ a ∈ parent.ancestors, a.Above B.dir)
    {o : Option (Except Error Unit)} (hc : s.save.plan.Course (Kernel.law B.cwd outside) d es o d') :
    Published B home s d o d' := by
  have hstill : ∀ {es : List (Event kernel Disk)} {t : Disk} {o : Option (Except Error Unit)},
      (Attempt.plan (Attempt.ofReply (Kernel.makeDirs parent) (.io ("failed to create " ++ parent.text)))).Course
        (Kernel.law B.cwd outside) d es o t → t = d := by
    intro es t o hdirs
    obtain ⟨o', hdirs, -⟩ := Attempt.of_ofReply hdirs
    exact Kernel.makeDirs_still h.enters habove hdirs
  rw [Store.save_eq hparent] at hc
  obtain ⟨rfl, hdirs⟩ | ⟨e, rfl, hdirs⟩ | ⟨_, t, _, _, -, hdirs, hrest⟩ := Attempt.of_bind hc
  · obtain rfl := hstill hdirs
    exact .inl ⟨.refl h.sound, nofun⟩
  · obtain rfl := hstill hdirs
    exact .inl ⟨.refl h.sound, nofun⟩
  · obtain rfl := hstill hdirs
    exact h.publish hs hrest

end Ready

end Berth

end Provision
