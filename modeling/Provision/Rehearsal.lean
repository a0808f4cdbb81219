import Provision.Rehearsal.World
import Provision.Setup

set_option autoImplicit false

namespace Provision.Rehearsal

inductive Delivery where
  | fails (e : Error)
  | skips
  /-- Writes this text, or the address itself. -/
  | writes (text : Option String)

structure Client where
  byTag : List (String × Option (Except Error Release))
  release : Option (Except Error Release)
  delivery : Delivery

structure Editor where
  /-- Answers to questions; when they are used up, the answer is yes. -/
  answers : List Bool
  replacesWithDir : Bool
  removes : Bool
  installError : Option (List String)

inductive Noted where
  | fetch (tag : String)
  | download (url : String) (dest : Path) (mode : Option Nat) (label : String)
  | confirm (message action : String) (answer : Bool)
  | warning (message : String)
  | error (message : String)
  | install (package : Path) (there : Bool)
  | reload
  deriving DecidableEq

structure Cast where
  machine : Machine
  client : Client
  editor : Editor
  calls : List Noted

namespace Cast

def note (c : Cast) (n : Noted) : Cast := { c with calls := c.calls ++ [n] }

def fetch (c : Cast) (tag : String) : Except Error Release :=
  match (c.client.byTag.lookup tag).getD c.client.release with
  | some r => r
  | none => .error (.refused tag 503)

def deposit (m : Machine) (dest : Path) (mode : Option Nat) (text : String) : Except Error Machine :=
  let written := do
    let (h, disk) ← m.disk.create m.cwd dest
    disk.write h text.toUTF8
  match written with
  | .error e => .error (.io "fake download" e)
  | .ok disk =>
    match mode with
    | none => .ok { m with disk := disk }
    | some mode => .ok { m with disk := (disk.setMode m.cwd dest mode).toOption.getD disk }

def download (c : Cast) (url : String) (dest : Path) (mode : Option Nat) : Except Error Unit × Cast :=
  match c.client.delivery with
  | .fails e => (.error e, c)
  | .skips => (.ok (), c)
  | .writes text =>
    match deposit c.machine dest mode (text.getD url) with
    | .ok m => (.ok (), { c with machine := m })
    | .error e => (.error e, c)

def confirm (c : Cast) (message action : String) : Bool × Cast :=
  let answer := c.editor.answers.headD true
  (answer, { (c.note (.confirm message action answer)) with
    editor := { c.editor with answers := c.editor.answers.tail } })

def install (c : Cast) (package : Path) : Except (List String) Unit × Cast :=
  let m := c.machine
  let there := (m.disk.inspect m.cwd package).isOk
  let c := c.note (.install package there)
  let disk := if c.editor.replacesWithDir || c.editor.removes then
      (m.disk.unlink m.cwd package).toOption.getD m.disk
    else m.disk
  let disk := if c.editor.replacesWithDir then (disk.makeDir m.cwd package).toOption.getD disk else disk
  let c := { c with machine := { m with disk := disk } }
  match c.editor.installError with
  | some chain => (.error chain, c)
  | none => (.ok (), c)

def serve : (call : Setup.Call) → Cast → Setup.Reply call × Cast
  | .kernel k, c =>
    let (r, m) := Machine.serve k c.machine
    (r, { c with machine := m })
  | .fetch tag, c => (c.fetch tag, c.note (.fetch tag))
  | .download url dest mode label, c => (c.note (.download url dest mode label)).download url dest mode
  | .confirm message action, c => c.confirm message action
  | .warn message, c => ((), c.note (.warning message))
  | .showError message, c => ((), c.note (.error message))
  | .install package, c => c.install package
  | .reload, c => ((), c.note .reload)

def run {α : Type} (c : Cast) (p : Plan setup α) : α × Cast := p.run serve c

end Cast

end Provision.Rehearsal
