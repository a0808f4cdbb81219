import Provision.Store
import Provision.Release
import Provision.Site

/-!
The calls that setting up makes beyond those to the kernel: to a source of releases, and to the editor
it works for. Setting up changes the record as it goes, also on the way to a failure.
-/

set_option autoImplicit false

namespace Provision

namespace Setup

inductive Call where
  | kernel (c : Kernel.Call)
  | fetch (tag : String)
  | download (url : String) (dest : Path) (mode : Option Nat) (label : String)
  /-- Asks the user to choose an action. -/
  | confirm (message action : String)
  | warn (message : String)
  | showError (message : String)
  | install (package : Path)
  | reload

def Reply : Call → Type
  | .kernel c => Kernel.Reply c
  | .fetch _ => Except Error Release
  | .download _ _ _ _ => Except Error Unit
  | .confirm _ _ => Bool
  | .warn _ => Unit
  | .showError _ => Unit
  | .install _ => Except (List String) Unit
  | .reload => Unit

end Setup

abbrev setup : Interface := ⟨Setup.Call, Setup.Reply⟩

namespace Setup

def ofKernel {α : Type} (p : Plan kernel α) : Plan setup α :=
  p.lower fun c => .call (I := setup) (.kernel c)

def fetch (tag : String) : Plan setup (Except Error Release) := .call (I := setup) (.fetch tag)
def download (url : String) (dest : Path) (mode : Option Nat) (label : String) : Plan setup (Except Error Unit) :=
  .call (I := setup) (.download url dest mode label)
def confirm (message action : String) : Plan setup Bool := .call (I := setup) (.confirm message action)
def warn (message : String) : Plan setup Unit := .call (I := setup) (.warn message)
def showError (message : String) : Plan setup Unit := .call (I := setup) (.showError message)
def install (package : Path) : Plan setup (Except (List String) Unit) := .call (I := setup) (.install package)
def reload : Plan setup Unit := .call (I := setup) .reload

/-- Work on the record that can fail; what it did to the record stays. -/
abbrev Job := ExceptT Error (StateT Store (Plan setup))

namespace Job

variable {α : Type}

def ofPlan (p : Plan setup α) : Job α := ExceptT.mk fun s => do return (.ok (← p), s)

def ofKernel (p : Plan kernel α) : Job α := ofPlan (Setup.ofKernel p)

def ofOutcome {φ : Type} (p : Plan setup (Except φ α)) (wrap : φ → Error) : Job α := ExceptT.mk fun s => do
  match ← p with
  | .ok a => return (.ok a, s)
  | .error e => return (.error (wrap e), s)

def ofWork (w : Kernel.Work Error α) : Job α := ofOutcome (Setup.ofKernel w.plan) id

def record : Job Record := ExceptT.mk fun s => .done (.ok s.record, s)

def update (c : Store.Change) : Job Unit := ExceptT.mk fun s => Setup.ofKernel (s.update c)

def plan (t : Job α) (s : Store) : Plan setup (Except Error α × Store) := t.run s

end Job

def removeStale (p : Path) : Plan kernel (Except Fault Unit) := do
  match ← Kernel.unlink p with
  | .ok () => return .ok ()
  | .error e => if e.isMissing then return .ok () else return .error e

end Setup

end Provision
