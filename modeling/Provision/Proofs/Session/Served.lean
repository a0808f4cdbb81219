import Provision.Proofs.Session.World

set_option autoImplicit false

namespace Provision

namespace Lodging

variable (L : Lodging)

def machine (d : Disk) : Machine := ⟨d, L.cwd, [], [], [], []⟩

def reached (dest : Path) (d : Disk) : Disk :=
  match dest.parent? with
  | some parent => ((L.machine d).run (Kernel.makeDirs parent)).2.disk
  | none => d

def filled (dest : Path) (mode : Nat) (data : ByteArray) (t : Disk) : Disk :=
  match t.holder L.cwd dest with
  | .ok (dir, .name n _) => (t.erase (n :: dir)).addFile (n :: dir) mode data
  | _ => t

def fillable (dest : Path) (t : Disk) : Bool :=
  t.isSound &&
    match t.holder L.cwd dest with
    | .ok (dir, .name n false) => t.get? (n :: dir) ≠ some .dir
    | _ => false

variable {L}

theorem course_reached (dest : Path) (d : Disk) :
    L.reached dest d = d ∨ ∃ parent es o, dest.parent? = some parent ∧
      (Kernel.makeDirs parent).Course (Kernel.law L.cwd fun _ _ => True) d es o (L.reached dest d) := by
  unfold reached
  cases dest.parent? with
  | none => exact .inl rfl
  | some parent => exact .inr ⟨parent, _, _, rfl, (L.machine d).course (Kernel.makeDirs parent)⟩

theorem brings_filled {dest : Path} {t : Disk} (h : L.fillable dest t = true) (mode : Nat) (data : ByteArray) :
    Kernel.Brings L.cwd dest mode data t (L.filled dest mode data t) := by
  obtain ⟨hsound, hplace⟩ := Bool.and_eq_true_iff.mp h
  replace hsound := Disk.sound_of_isSound hsound
  split at hplace
  case h_2 => cases hplace
  rename_i dir n hh
  have hnodir : t.get? (n :: dir) ≠ some .dir := of_decide_eq_true hplace
  have hdir : t.get? dir = some .dir := by
    obtain ⟨-, before, -, -, hdir, -⟩ := Disk.holder_name.mp hh
    exact hdir
  have hfilled : L.filled dest mode data t = (t.erase (n :: dir)).addFile (n :: dir) mode data := by
    rw [filled, hh]
  have herase := Disk.get?_erase t (p := n :: dir) (by simp)
  have hadd := Disk.get?_addFile (t.erase (n :: dir)) (p := n :: dir) (by simp) mode data
  have hhome : dir ≠ n :: dir := fun he => by simpa using congrArg List.length he
  rw [hfilled]
  have hsound' := hsound.erase (by simp) hnodir
  refine ⟨?_, dir, n, (t.erase (n :: dir)).next, hh, hnodir, (hadd _).trans (if_pos rfl),
    hsound'.lone_new (by simp) mode data, fun p hp => ?_⟩
  · refine hsound'.addFile ?_ ((herase _).trans (if_pos rfl)) mode data
    rw [herase, if_neg hhome]
    exact hdir
  · rw [hadd, if_neg hp, herase, if_neg hp]

end Lodging

namespace World

variable (W : World) (L : Lodging)

/-- Every call is answered as the world has it, and nobody but the program and its downloads touches the disk. -/
def serve : (c : setup.Call) → Disk → setup.Reply c × Disk
  | .kernel (.launch program _ _), d => (W.probed program (W.found L program d), d)
  | .kernel c, d => ((Machine.serve c (L.machine d)).1, (Machine.serve c (L.machine d)).2.disk)
  | .fetch tag, d => (W.release tag, d)
  | .download url dest mode _, d =>
    (W.delivered url,
      match W.left url mode with
      | none => L.reached dest d
      | some (bits, data) => L.filled dest bits data (L.reached dest d))
  | .confirm message action, d => (W.agrees message action, d)
  | .install package, d => (W.installed package, d)
  | .warn _, d => ((), d)
  | .showError _, d => ((), d)
  | .reload, d => ((), d)

/-- The only programs that are started are servers, and files can be put where downloads go. -/
def suits : setup.Call → Disk → Bool
  | .kernel (.launch _ args _), _ => args = ["--version"]
  | .download url dest mode _, d => (W.left url mode).isNone || L.fillable dest (L.reached dest d)
  | _, _ => true

variable {W L}

theorem serve_lawful (c : setup.Call) (d : Disk) (h : W.suits L c d = true) :
    W.law L c d (W.serve L c d).1 (W.serve L c d).2 := by
  cases c with
  | kernel c =>
    cases c with
    | launch program args input =>
      simp only [law, if_pos (of_decide_eq_true h)]
      exact ⟨rfl, .refl _ _⟩
    | _ => exact ⟨rfl, rfl⟩
  | download url dest mode label =>
    refine ⟨rfl, L.reached dest d, Lodging.course_reached dest d, ?_⟩
    simp only [serve, suits] at h ⊢
    cases hleft : W.left url mode with
    | none => rfl
    | some file =>
      rw [hleft] at h
      exact Lodging.brings_filled h file.1 file.2
  | fetch tag => exact ⟨rfl, rfl⟩
  | confirm message action => exact ⟨rfl, .refl _ _⟩
  | install package => exact ⟨rfl, .refl _ _⟩
  | warn message => exact .refl _ _
  | showError message => exact .refl _ _
  | reload => exact .refl _ _

end World

end Provision
