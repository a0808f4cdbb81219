import Provision.Proofs.Berth

set_option autoImplicit false

namespace Provision.Store

variable (s : Store)

def afterDirs (parent : Path) : Except Fault Unit → Plan kernel (Except Error Unit)
  | .ok () => s.publish.plan
  | .error e => .done (.error (.io ("failed to create " ++ parent.text) e))

/-- What is left to do when the draft is open and some of the text is in it. -/
def writing (h : Handle) (rest : ByteArray) : Kernel.Work Error Unit := do
  Attempt.ofReply (Kernel.write h rest) (.io "failed to write temp state file")
  Attempt.ofReply (Kernel.sync h) (.io "failed to sync temp state file")
  Attempt.ofReply (Kernel.rename s.sibling s.path) (.io "failed to rename temp state file")

def syncing (h : Handle) : Kernel.Work Error Unit := do
  Attempt.ofReply (Kernel.sync h) (.io "failed to sync temp state file")
  Attempt.ofReply (Kernel.rename s.sibling s.path) (.io "failed to rename temp state file")

def naming : Kernel.Work Error Unit :=
  Attempt.ofReply (Kernel.rename s.sibling s.path) (.io "failed to rename temp state file")

theorem save_plan {parent : Path} (h : s.path.parent? = some parent) :
    s.save.plan = (Kernel.makeDirs parent).bind (s.afterDirs parent) := by
  rw [save_eq h, Attempt.plan_ofReply_bind]
  congr 1
  funext r
  cases r <;> rfl

theorem publish_plan : ∃ k, s.publish.plan = .ask (.create s.sibling) k ∧
    (∀ e, k (.error e : Except Fault Handle) = .done (.error (.io "failed to create temp state file" e))) ∧
      ∀ h, k (.ok h : Except Fault Handle) = (s.writing h s.record.text.toUTF8).plan :=
  ⟨_, rfl, fun _ => rfl, fun _ => rfl⟩

theorem writing_plan (h : Handle) : ∃ k : Except Fault Unit → Plan kernel (Except Error Unit),
    (∀ rest, (s.writing h rest).plan = .ask (.write h rest) k) ∧
      (∀ e, k (.error e) = .done (.error (.io "failed to write temp state file" e))) ∧ k (.ok ()) = (s.syncing h).plan := by
  refine ⟨fun | .ok () => (s.syncing h).plan | .error e => .done (.error (.io "failed to write temp state file" e)),
    fun rest => ?_, fun _ => rfl, rfl⟩
  refine (Attempt.plan_ofReply_bind _ _ _).trans (congrArg (Plan.ask _) (funext fun r => ?_))
  cases r <;> rfl

theorem syncing_plan (h : Handle) : ∃ k, (s.syncing h).plan = .ask (.sync h) k ∧
    (∀ e, k (.error e : Except Fault Unit) = .done (.error (.io "failed to sync temp state file" e))) ∧
      k (.ok () : Except Fault Unit) = s.naming.plan :=
  ⟨_, rfl, fun _ => rfl, rfl⟩

theorem naming_plan : ∃ k, s.naming.plan = .ask (.rename s.sibling s.path) k ∧
    (∀ e, k (.error e : Except Fault Unit) = .done (.error (.io "failed to rename temp state file" e))) ∧
      k (.ok () : Except Fault Unit) = .done (.ok ()) :=
  ⟨_, rfl, fun _ => rfl, rfl⟩

end Provision.Store
