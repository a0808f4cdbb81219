import Provision.Proofs.Lodging.Even
import Provision.Proofs.Machine
import Provision.Proofs.Server.Trial

set_option autoImplicit false

namespace Provision

structure Solitude where
  cwd : Place
  release : Except Error Release
  agrees : Bool
  installed : Except (List String) Unit
  launched : Except Fault Finished

namespace Solitude

variable (W : Solitude)

def machine (d : Disk) : Machine := ⟨d, W.cwd, [], [], [], []⟩

def serve : (c : setup.Call) → Disk → setup.Reply c × Disk
  | .kernel (.launch _ _ _), d => (W.launched, d)
  | .kernel (.createTemp _ _), d => (.error (.os .denied), d)
  | .kernel (.setMode _ _), d => (.error (.os .denied), d)
  | .kernel c, d => ((Machine.serve c (W.machine d)).1, (Machine.serve c (W.machine d)).2.disk)
  | .fetch _, d => (W.release, d)
  | .download _ _ _ _, d => (.ok (), d)
  | .confirm _ _, d => (W.agrees, d)
  | .warn _, d => ((), d)
  | .showError _, d => ((), d)
  | .install _, d => (W.installed, d)
  | .reload, d => ((), d)

theorem lawful {L : Lodging} (hcwd : W.cwd = L.cwd) (c : setup.Call) (d : Disk) :
    bystanders L c d (W.serve c d).1 (W.serve c d).2 := by
  cases c with
  | kernel c =>
    have hstrict := (Machine.serve_strict c (W.machine d)).1
    rw [show (W.machine d).cwd = L.cwd from hcwd] at hstrict
    cases c with
    | launch program args input => exact .inl rfl
    | createTemp dir stem => exact .inl rfl
    | setMode p mode => exact .inl rfl
    | unlink p => exact Kernel.strict_law hstrict
    | _ => exact hstrict
  | fetch tag => exact .inl rfl
  | download url dest mode label => exact .inl rfl
  | confirm message action => exact .inl rfl
  | warn message => exact .inl rfl
  | showError message => exact .inl rfl
  | install package => exact .inl rfl
  | reload => exact .inl rfl

theorem course {L : Lodging} (hcwd : W.cwd = L.cwd) {α : Type} (p : Plan setup α) (d : Disk) :
    p.Course (bystanders L) d (p.events W.serve d) (some (p.run W.serve d).1) (p.run W.serve d).2 := by
  have hlawful : ∀ c d, True → bystanders L c d (W.serve c d).1 (W.serve c d).2 ∧ True :=
    fun c d _ => ⟨W.lawful hcwd c d, trivial⟩
  exact (Plan.course_run hlawful p trivial).1

theorem course_kernel {L : Lodging} (hcwd : W.cwd = L.cwd) {α : Type} (p : Plan kernel α) (d : Disk) :
    ∃ es, p.Course (Kernel.law L.cwd L.Respects) d es (some ((Setup.ofKernel p).run W.serve d).1)
      ((Setup.ofKernel p).run W.serve d).2 := by
  obtain ⟨es, -, h⟩ := Setup.course_ofKernel (W.course hcwd (Setup.ofKernel p) d)
  exact ⟨es, h⟩

section Concrete

open Server.Trial (lodging₀ disk₀ sound_disk₀ get?_disk₀ fresh_disk₀)

def recorded₀ (r : Record) : Disk := disk₀.addFile lodging₀.record Disk.plainMode r.text.toUTF8

theorem get?_recorded₀ (r : Record) (p : Place) :
    (recorded₀ r).get? p =
      if p = lodging₀.record then some (.file 0 Disk.plainMode r.text.toUTF8) else disk₀.get? p :=
  Disk.get?_addFile disk₀ (by simp [Lodging.record]) _ _ p

theorem homely_recorded₀ (r : Record) : lodging₀.Homely lodging₀.home (recorded₀ r) := by
  have hne : ∀ {n : Name}, n ≠ Lodging.recordName → (recorded₀ r).get? (n :: lodging₀.home) = none := by
    intro n hn
    rw [get?_recorded₀, if_neg (by simpa [Lodging.record] using hn), get?_disk₀]
    exact if_neg (by simp [lodging₀])
  have hsound : (recorded₀ r).Sound :=
    sound_disk₀.addFile rfl ((get?_disk₀ _).trans (if_neg (by simp [lodging₀]))) _ _
  refine ⟨fresh_disk₀.lodged.change hsound (fun p v hp hv _ => ?_) (fun target => ?_) (fun target => ?_), fun target => ?_⟩
  · rw [get?_recorded₀, if_neg, hv]
    rintro rfl
    exact hp Lodging.Lodged.own_record
  · rw [get?_recorded₀, if_pos rfl]
    simp
  · rw [show lodging₀.draft = Lodging.draftName :: lodging₀.home from rfl, hne (by decide)]
    simp
  · rw [hne (by decide)]
    simp

theorem recalled_recorded₀ (r : Record) :
    Store.recalled ((recorded₀ r).read lodging₀.cwd lodging₀.statePath) = some r := by
  have hread := (homely_recorded₀ r).lodged.read
  have hentry := (get?_recorded₀ r lodging₀.record).trans (if_pos rfl)
  have hadmits : Disk.admits lodging₀.statePath = .ok () := by decide
  rw [show (lodging₀.movedTo lodging₀.home) = lodging₀ from rfl, hentry, hadmits] at hread
  rw [hread]
  exact Store.recalled_text r

theorem even_recorded₀ (r : Record) : lodging₀.Even (recorded₀ r) ⟨lodging₀.statePath, r⟩ :=
  ⟨.inl ⟨_, homely_recorded₀ r⟩, rfl, recalled_recorded₀ r⟩

end Concrete

end Solitude

end Provision
