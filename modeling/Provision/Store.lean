import Provision.Kernel
import Provision.Error
import Provision.Record

/-!
The record on disk. Every change is written at once, to a file beside the real one which then takes its
place, so that the real one is never half written.
-/

set_option autoImplicit false

namespace Provision

structure Store where
  path : Path
  record : Record
  deriving DecidableEq

namespace Store

def fileName : Path := "state.json"

/-- The file that is written before it takes the place of the real one. -/
def sibling (s : Store) : Path := s.path.withExtension "tmp".toList

/-- Reads the record at a path. One that is missing or makes no sense counts as empty. -/
def load (path : Path) : Kernel.Work Error Store := ExceptT.mk do
  match ← Kernel.readText path with
  | .ok text =>
    match Record.read? text.toList with
    | some record => return .ok ⟨path, record⟩
    | none =>
      Kernel.log .warn .store ("Ignoring corrupt state file " ++ path.text)
      return .ok ⟨path, .empty⟩
  | .error e =>
    if e.isMissing then return .ok ⟨path, .empty⟩
    else return .error (.io ("failed to read state file " ++ path.text) e)

/-- Writes the record beside its place and then moves it there. -/
def save (s : Store) : Kernel.Work Error Unit := do
  match s.path.parent? with
  | some parent => Attempt.ofReply (Kernel.makeDirs parent) (.io ("failed to create " ++ parent.text))
  | none => pure ()
  let h ← Attempt.ofReply (Kernel.create s.sibling) (.io "failed to create temp state file")
  Attempt.ofReply (Kernel.write h s.record.text.toUTF8) (.io "failed to write temp state file")
  Attempt.ofReply (Kernel.sync h) (.io "failed to sync temp state file")
  Attempt.ofReply (Kernel.rename s.sibling s.path) (.io "failed to rename temp state file")

/-- A change to one part of the record. -/
inductive Change where
  | lastCheck (at_ : Instant)
  | releaseId (id : UInt64)
  | serverVersion (version : Option String)
  deriving DecidableEq

def Change.apply : Change → Record → Record
  | .lastCheck t, r => { r with lastCheck := some t }
  | .releaseId id, r => { r with releaseId := some id }
  | .serverVersion v, r => { r with serverVersion := v }

/-- Changes the record and saves it. The record in memory is changed even if it could not be saved. -/
def update (c : Change) (s : Store) : Plan kernel (Except Error Unit × Store) := do
  let s : Store := { s with record := c.apply s.record }
  let r ← s.save.plan
  return (r, s)

end Store

end Provision
