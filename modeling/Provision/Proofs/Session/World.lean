import Provision.Proofs.Lodging.Sight
import Provision.Proofs.Machine

/-!
A world in which all others answer what they are asked and know nothing else: not how often they were asked, not what
is in the record. They leave the storage directory alone, but for a download, which brings a file, and the build tool,
which writes the binary. In such a world the nightly step changes nothing that one sees who looks for the server.
-/

set_option autoImplicit false

namespace Provision

namespace Kernel

/-- The law of a disk that takes every step that can be taken. -/
def exact (cwd : Place) : Law kernel Disk := fun c d r d' =>
  let m : Machine := ⟨d, cwd, [], [], [], []⟩
  r = (Machine.serve c m).1 ∧ d' = (Machine.serve c m).2.disk

theorem exact_law {cwd : Place} {c : kernel.Call} {d d' : Disk} {r : kernel.Reply c} (h : exact cwd c d r d') :
    law cwd (fun _ _ => True) c d r d' := by
  obtain ⟨rfl, rfl⟩ := h
  exact strict_law (Machine.serve_strict c ⟨d, cwd, [], [], [], []⟩).1

/-- A new file is put at a path, after directories on the way to it were made. -/
structure Brings (cwd : Place) (dest : Path) (mode : Nat) (data : ByteArray) (t d' : Disk) : Prop where
  sound : d'.Sound
  put : ∃ dir n serial, t.holder cwd dest = .ok (dir, .name n false) ∧ t.get? (n :: dir) ≠ some .dir ∧
    d'.get? (n :: dir) = some (.file serial mode data) ∧ d'.Lone (n :: dir) ∧ ∀ p, p ≠ n :: dir → d'.get? p = t.get? p

end Kernel

namespace Lodging

variable (L : Lodging)

/-- What others may do: they leave alone what the program has in the directory, give its draft no second name, and leave
alone the way to the directory and what some other paths lead to. -/
structure Leaves (others : List Path) (d d' : Disk) : Prop where
  linkless : ∀ home, L.Linkless home d → L.Linkless home d' ∧ ∀ n ∈ L.names, d'.get? (n :: home) = d.get? (n :: home)
  lone : ∀ home, L.Linkless home d → d.Lone (draftName :: home) → d'.Lone (draftName :: home)
  pending : L.Pending d → L.Pending d'
  others : ∀ q ∈ others, L.Steady q d → L.Steady q d' ∧ L.seen q d' = L.seen q d

theorem Leaves.refl {L : Lodging} (others : List Path) (d : Disk) : L.Leaves others d d :=
  ⟨fun _ h => ⟨h, fun _ _ => rfl⟩, fun _ _ h => h, id, fun _ _ h => ⟨h, rfl⟩⟩

end Lodging

structure World where
  release : String → Except Error Release
  agrees : String → String → Bool
  installed : Path → Except (List String) Unit
  /-- What a download from an address is answered. -/
  delivered : String → Except Error Unit
  /-- The mode bits and the bytes of the file that a download from an address leaves, if it leaves one. -/
  left : String → Option Nat → Option (Nat × ByteArray)
  complete : ∀ url mode, delivered url = .ok () → left url mode ≠ none
  /-- Where a server is looked for that is not the binary in the storage directory. -/
  others : List Path
  /-- What starting a server comes to, by its path and by what is found where it is looked for. -/
  probed : Path → List (Option Node) → Except Fault Finished
  /-- What the build tool answers, what it leaves in the place of the binary, and whether that is another name of the
  binary that was moved aside; by the latter and by what is in the place of the binary. -/
  patched : Path → List String → ByteArray → Option Node → Option Node → Except Fault Finished × Option Node × Bool

namespace World

variable (W : World) (L : Lodging)

def found (p : Path) (d : Disk) : List (Option Node) :=
  if p = L.dest then [L.seen p d] else W.others.map fun q => L.seen q d

def Patches (program : Path) (args : List String) (input : ByteArray) (d : Disk) (r : Except Fault Finished) (d' : Disk) :
    Prop :=
  ∀ home, L.Linkless home d → L.Linkless home d' ∧
    (r, (d'.get? (L.binaryName :: home)).map Node.face, d'.twins (L.binaryName :: home) (L.asideName :: home)) =
      W.patched program args input ((d.get? (L.asideName :: home)).map Node.face)
        ((d.get? (L.binaryName :: home)).map Node.face) ∧
    (d.Lone (Lodging.draftName :: home) → d'.Lone (Lodging.draftName :: home)) ∧
    ∀ n ∈ L.names, n ≠ L.binaryName → d'.get? (n :: home) = d.get? (n :: home)

/-- Directories on the way to the path may be made, and then a file is put there if there is one. -/
def Downloads (dest : Path) (file : Option (Nat × ByteArray)) (d d' : Disk) : Prop :=
  ∃ t, (t = d ∨ ∃ parent es o, dest.parent? = some parent ∧
      (Kernel.makeDirs parent).Course (Kernel.law L.cwd fun _ _ => True) d es o t) ∧
    match file with
    | none => d' = t
    | some (mode, data) => Kernel.Brings L.cwd dest mode data t d'

def law : Law setup Disk
  | .kernel (.launch program args input), d, r, d' =>
    if args = ["--version"] then r = W.probed program (W.found L program d) ∧ L.Leaves W.others d d'
    else W.Patches L program args input d r d'
  | .kernel c, d, r, d' => Kernel.exact L.cwd c d r d'
  | .fetch tag, d, r, d' => r = W.release tag ∧ d' = d
  | .download url dest mode _, d, r, d' => r = W.delivered url ∧ Downloads L dest (W.left url mode) d d'
  | .confirm message action, d, r, d' => r = W.agrees message action ∧ L.Leaves W.others d d'
  | .install package, d, r, d' => r = W.installed package ∧ L.Leaves W.others d d'
  | .warn _, d, _, d' => L.Leaves W.others d d'
  | .showError _, d, _, d' => L.Leaves W.others d d'
  | .reload, d, _, d' => L.Leaves W.others d d'

variable {W L} {d d' : Disk} {σ : Sight}

theorem law_kernel {c : kernel.Call} {r : kernel.Reply c} (h : W.law L (.kernel c) d r d') :
    Kernel.law L.cwd (fun _ _ => True) c d r d' := by
  cases c with
  | launch program args input => exact .inr trivial
  | _ => exact Kernel.exact_law h

theorem course_kernel {α : Type} {p : Plan kernel α} {es : List (Event setup Disk)} {o : Option α}
    (hc : (Setup.ofKernel p).Course (W.law L) d es o d') :
    ∃ es', p.Course (Kernel.law L.cwd fun _ _ => True) d es' o d' := by
  obtain ⟨es', -, hc⟩ := Setup.course_ofKernel hc
  exact ⟨es', hc.mono fun _ _ _ _ => law_kernel⟩

end World

namespace Lodging

variable {L : Lodging} {home : Place} {σ : Sight} {d d' : Disk}

theorem Looks.left (h : L.Looks σ d) {others : List Path} (hl : L.Leaves others d d') : L.Looks σ d' := by
  obtain ⟨home, h⟩ | ⟨h, hblank⟩ := h
  · obtain ⟨hlinkless, hsame⟩ := hl.linkless home h.linkless
    exact .inl ⟨home, h.unchanged hlinkless (hl.lone home h.linkless h.lone) hsame⟩
  · exact .inr ⟨hl.pending h, hblank⟩

theorem Shows.around_package (h : L.Shows home σ d) (hdir : d.get? (packageName :: home) ≠ some .dir) (sound : d'.Sound)
    (hlink : ∀ target, d'.get? (packageName :: home) ≠ some (.link target)) (hlone : d'.Lone (draftName :: home))
    (same : ∀ p, p ≠ packageName :: home → d'.get? p = d.get? p) : L.Shows home σ d' ∧ L.Sprouts d d' := by
  have hxs : ∀ n ∈ [packageName], n ∈ packageName :: L.names := by simp
  have hdirs : ∀ n ∈ [packageName], d.get? (n :: home) ≠ some .dir := by simpa using hdir
  have hother : ∀ p, (∀ n ∈ [packageName], p ≠ n :: home) → d'.get? p = d.get? p := fun p hp => same p (hp _ (by simp))
  have hlinkless := h.linkless.altered hxs hdirs sound hother (by simpa using hlink)
  refine ⟨h.unchanged hlinkless hlone fun n hn => same _ (L.package_ne hn home).symm, ?_⟩
  exact .of_same sound (h.linkless.roads hxs hdirs hother) hlinkless.isOpen fun p hp => same p (hp _ (by simp [spareNames]))

theorem Looks.unlink_package (h : L.Looks σ d) (hu : d.unlink L.cwd L.package = .ok d') :
    L.Looks σ d' ∧ L.Sprouts d d' := by
  obtain ⟨dir, n, hh, -, hdir, rfl⟩ := Disk.unlink_eq_ok hu
  obtain ⟨home, h⟩ | ⟨h, -⟩ := h
  · obtain ⟨rfl, he⟩ := h.linkless.ready.holder plain_package hh
    cases he
    have hget := Disk.get?_erase d (p := packageName :: dir) (by simp)
    have hne : draftName :: dir ≠ packageName :: dir := (L.package_ne (by simp [names]) dir).symm
    obtain ⟨hshows, hsprouts⟩ := h.around_package hdir (h.linkless.sound.erase (by simp) hdir)
      (fun target => by simp [hget]) (h.lone.erase (by simp) hne) fun p hp => (hget p).trans (if_neg hp)
    exact ⟨.inl ⟨dir, hshows⟩, hsprouts⟩
  · exact absurd hh (Berth.holder_ne h.absent.shut plain_package _)

theorem Looks.brought (h : L.Looks σ d) {n : Name} (hn : Path.Plain n) {mode : Nat} {data : ByteArray}
    (hb : Kernel.Brings L.cwd (L.storage / ⟨n⟩) mode data d d') :
    ∃ home serial, L.Shows home σ d ∧ d.get? (n :: home) ≠ some .dir ∧ d'.get? (n :: home) = some (.file serial mode data) ∧
      d'.Lone (n :: home) ∧ (n ≠ draftName → d'.Lone (draftName :: home)) ∧ ∀ p, p ≠ n :: home → d'.get? p = d.get? p := by
  obtain ⟨dir, m, serial, hh, hdir, hfile, hlone, hsame⟩ := hb.put
  obtain ⟨home, h⟩ | ⟨h, -⟩ := h
  · obtain ⟨rfl, he⟩ := h.linkless.ready.holder hn hh
    cases he
    refine ⟨_, serial, h, hdir, hfile, hlone, fun hne => ?_, hsame⟩
    exact h.lone.beside hlone (Shows.names_ne hne.symm _) hsame
  · exact absurd hh (Berth.holder_ne h.absent.shut hn _)

theorem Looks.way (h : L.Looks σ d) {n : Name} (hn : Path.Plain n) {t : Disk}
    (ht : t = d ∨ ∃ parent es o, (L.storage / ⟨n⟩).parent? = some parent ∧
      (Kernel.makeDirs parent).Course (Kernel.law L.cwd fun _ _ => True) d es o t) : L.Looks σ t ∧ L.Sprouts d t := by
  obtain rfl | ⟨parent, es, o, hparent, hc⟩ := ht
  · refine ⟨h, .refl ?_⟩
    obtain ⟨home, h⟩ | ⟨h, -⟩ := h
    · exact h.linkless.sound
    · exact h.absent.sound
  · obtain ⟨parent', hparent', habove⟩ := Path.parent?_join L.storage hn
    obtain rfl : parent' = parent := Option.some.inj (hparent'.symm.trans hparent)
    exact h.makeDirs habove hc

theorem Looks.download_package (h : L.Looks σ d) {file : Option (Nat × ByteArray)}
    (hd : World.Downloads L L.package file d d') : L.Looks σ d' ∧ L.Sprouts d d' := by
  obtain ⟨t, ht, hfile⟩ := hd
  obtain ⟨hlooks, hsprouts⟩ := h.way (n := packageName) plain_package ht
  cases file with
  | none =>
    obtain rfl : d' = t := hfile
    exact ⟨hlooks, hsprouts⟩
  | some f =>
    obtain ⟨mode, data⟩ := f
    obtain ⟨home, serial, hshows, hdir, hnew, -, hlone, hsame⟩ := hlooks.brought (n := packageName) plain_package hfile
    obtain ⟨hshows', hsprouts'⟩ := hshows.around_package hdir hfile.sound (fun target => by rw [hnew]; nofun)
      (hlone (by decide)) hsame
    exact ⟨.inl ⟨home, hshows'⟩, hsprouts.trans hsprouts'⟩

end Lodging

end Provision
