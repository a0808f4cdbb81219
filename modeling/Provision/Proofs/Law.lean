import Provision.Proofs.Course

/-!
The law of the disk: what a call may be answered and what it may leave on the disk. A step is taken as a
whole, or it fails with any fault and changes nothing; only a write can fail half way. What other programs
do is left open, up to a relation between the disks before and after.
-/

set_option autoImplicit false

namespace Provision

namespace Kernel

def Took {α : Type} (d : Disk) (r : Except Fault α) (d' : Disk) (step : α → Prop) : Prop :=
  (∃ e, r = .error e ∧ d' = d) ∨ ∃ a, r = .ok a ∧ step a

/-- Any call may fail for reasons of its own, but one that says that a file is missing says the truth. -/
def law (cwd : Place) (outside : Disk → Disk → Prop) : Law kernel Disk
  | .inspect p, d, r, d' => d' = d ∧ (r = d.inspect cwd p ∨ ∃ e, r = .error e)
  | .read p, d, r, d' => d' = d ∧ (r = d.read cwd p ∨ ∃ e, r = .error e ∧ e.isMissing = false)
  | .makeDir p, d, r, d' => Took d r d' fun _ => d.makeDir cwd p = .ok d'
  | .create p, d, r, d' => Took d r d' fun h => d.create cwd p = .ok (h, d')
  | .write h data, d, r, d' =>
    (r = .ok () ∧ d.write h data = .ok d') ∨
      ∃ e, r = .error e ∧ (d' = d ∨ ∃ part rest, data = part ++ rest ∧ d.write h part = .ok d')
  | .flush h, d, r, d' => d' = d ∧ (r = Disk.flush h ∨ ∃ e, r = .error e)
  | .sync h, d, r, d' => d' = d ∧ (r = Disk.sync h ∨ ∃ e, r = .error e)
  | .rename p q, d, r, d' => Took d r d' fun _ => d.rename cwd p q = .ok d'
  | .unlink p, d, r, d' => Took d r d' (fun _ => d.unlink cwd p = .ok d') ∧
      ∀ e, r = .error e → e.isMissing = true → d.unlink cwd p = .error e
  | .locate _, d, _, d' => d' = d
  | .exchange _, d, _, d' => d' = d
  | .pause _, d, _, d' => d' = d
  | .log _, d, _, d' => d' = d
  | .createTemp _ _, d, _, d' => d' = d ∨ outside d d'
  | .setMode _ _, d, _, d' => d' = d ∨ outside d d'
  | .launch _ _ _, d, _, d' => d' = d ∨ outside d d'

/-- The law of a disk that is never too full or broken to remove a file. Files are made under new names and given
mode bits by the program itself. -/
def strict (cwd : Place) : Law kernel Disk
  | .createTemp dir stem, d, r, d' => Took d r d' fun a => d.createTemp cwd dir stem = .ok (a, d')
  | .setMode p mode, d, r, d' => Took d r d' fun _ => d.setMode cwd p mode = .ok d'
  | .unlink p, d, r, d' => (∃ e, r = .error e ∧ d.unlink cwd p = .error e ∧ d' = d) ∨ (r = .ok () ∧ d.unlink cwd p = .ok d')
  | c, d, r, d' => law cwd (fun _ _ => True) c d r d'

theorem strict_law {cwd : Place} {c : kernel.Call} {d d' : Disk} {r : kernel.Reply c} (h : strict cwd c d r d') :
    law cwd (fun _ _ => True) c d r d' := by
  cases c with
  | createTemp dir stem => exact .inr trivial
  | setMode p mode => exact .inr trivial
  | unlink p =>
    obtain ⟨e, rfl, hu, rfl⟩ | ⟨rfl, hu⟩ := h
    · refine ⟨.inl ⟨e, rfl, rfl⟩, ?_⟩
      rintro e' ⟨⟩ -
      exact hu
    · exact ⟨.inr ⟨(), rfl, hu⟩, nofun⟩
  | _ => exact h

end Kernel

namespace Setup

/-- Downloads and what the editor installs are the work of others. -/
def law (cwd : Place) (outside : Disk → Disk → Prop) : Law setup Disk
  | .kernel c, d, r, d' => Kernel.law cwd outside c d r d'
  | .download _ _ _ _, d, _, d' => d' = d ∨ outside d d'
  | .install _, d, _, d' => d' = d ∨ outside d d'
  | .fetch _, d, _, d' => d' = d
  | .confirm _ _, d, _, d' => d' = d
  | .warn _, d, _, d' => d' = d
  | .showError _, d, _, d' => d' = d
  | .reload, d, _, d' => d' = d

variable {cwd : Place} {outside : Disk → Disk → Prop}

theorem law_mono {outside' : Disk → Disk → Prop} {d d' : Disk} (h : outside d d' → outside' d d') {c : setup.Call}
    {r : setup.Reply c} (hl : law cwd outside c d r d') : law cwd outside' c d r d' := by
  cases c with
  | kernel c =>
    cases c with
    | createTemp dir stem => exact hl.imp_right h
    | setMode p mode => exact hl.imp_right h
    | launch program args input => exact hl.imp_right h
    | _ => exact hl
  | download url dest mode label => exact hl.imp_right h
  | install package => exact hl.imp_right h
  | _ => exact hl

end Setup

end Provision
