import Provision.Rehearsal
import Provision.Session
import Provision.Terminal

/-!
Rehearsals of several steps: the disk, the record that is loaded and the session stay from one to the next.
-/

set_option autoImplicit false

namespace Provision.Rehearsal

structure Stage where
  machine : Machine
  store : Option Store
  session : Option Session

structure Scene where
  settings : Settings
  site : Site
  client : Client
  editor : Editor

inductive Step where
  | write (fixtures : List Fixture)
  | remove (path : Path)
  | load (path : Path)
  | change (c : Store.Change)
  | getServer (scene : Scene) (tool : Path)
  | extension (scene : Scene)
  | activate (scene : Scene) (nightly : Bool)
  | dispatch (word : String)
  | patch (tool dest : Path)
  | removeStale (path : Path)
  | probe (server : Path)
  | install (package : Path)
  | terminal (message action : String)

inductive Value where
  | nothing
  | text (s : String)
  | flag (b : Bool)
  deriving DecidableEq, Repr

inductive Trouble where
  | error (e : Error)
  | chain (messages : List String)
  | fault (f : Fault)
  | noRecord
  | noSessionOrCommand
  deriving DecidableEq, Repr

structure Report where
  result : Except Trouble Value
  calls : List Noted

namespace Stage

def cast (s : Stage) (scene : Scene) : Cast := ⟨s.machine, scene.client, scene.editor, []⟩

def outcome {ε α : Type} (wrap : ε → Trouble) (show_ : α → Value) : Except ε α → Except Trouble Value
  | .ok a => .ok (show_ a)
  | .error e => .error (wrap e)

def alone {ε α : Type} (s : Stage) (p : Plan kernel (Except ε α)) (wrap : ε → Trouble) (show_ : α → Value) :
    Report × Stage :=
  let (r, m) := s.machine.run p
  (⟨outcome wrap show_ r, []⟩, { s with machine := m })

def onRecord {α : Type} (s : Stage) (scene : Scene) (job : Setup.Job α) (show_ : α → Value) : Report × Stage :=
  match s.store with
  | none => (⟨.error .noRecord, []⟩, s)
  | some store =>
    let ((r, store), c) := (s.cast scene).run (job.plan store)
    (⟨outcome .error show_ r, c.calls⟩, { s with machine := c.machine, store := some store })

def perform (s : Stage) : Step → Report × Stage
  | .write fixtures =>
    (⟨.ok .nothing, []⟩, { s with machine := { s.machine with disk := fixtures.foldl Fixture.lay s.machine.disk } })
  | .remove path =>
    (⟨.ok .nothing, []⟩, { s with machine := { s.machine with disk := s.machine.disk.removeAll scratch (scratchPath / path) } })
  | .load path =>
    let (r, m) := s.machine.run (Store.load path).plan
    (⟨outcome .error (fun _ => .nothing) r, []⟩, { s with machine := m, store := r.toOption })
  | .change c =>
    match s.store with
    | none => (⟨.error .noRecord, []⟩, s)
    | some store =>
      let ((r, store), m) := s.machine.run (store.update c)
      (⟨outcome .error (fun _ => .nothing) r, []⟩, { s with machine := m, store := some store })
  | .getServer scene tool => s.onRecord scene (Server.get scene.settings scene.site tool) fun p => .text p.text
  | .extension scene => s.onRecord scene (Nightly.update scene.settings scene.site) fun _ => .nothing
  | .activate scene nightly =>
    let (r, c) := (s.cast scene).run (Session.activate scene.settings scene.site nightly)
    (⟨outcome .chain (fun session => .text session.server.text) r, c.calls⟩,
      { s with machine := c.machine, session := r.toOption })
  | .dispatch word =>
    match s.session, Command.ofWord? word false with
    | some session, some command => s.alone (command.run session) .chain .text
    | _, _ => (⟨.error .noSessionOrCommand, []⟩, s)
  | .patch tool dest => s.alone (Patch.patch tool dest).plan .error fun _ => .nothing
  | .removeStale path => s.alone (Setup.removeStale path) .fault fun _ => .nothing
  | .probe server =>
    let (b, m) := s.machine.run (Session.probe server)
    (⟨.ok (.flag b), []⟩, { s with machine := m })
  | .install package => s.alone (Terminal.install package) .chain fun _ => .nothing
  | .terminal message action =>
    let (b, m) := s.machine.run (do
      let b ← Terminal.confirm true message action
      Terminal.warn message
      Terminal.showError message
      Terminal.reload
      return b)
    (⟨.ok (.flag b), []⟩, { s with machine := m })

end Stage

end Provision.Rehearsal
