import Provision.Shell.Run

/-!
A machine that answers the calls of the program: a disk, programs to run on it, a network whose
answers are given in advance, and a journal of what was logged.
-/

set_option autoImplicit false

namespace Provision

structure Machine where
  disk : Disk
  cwd : Place
  /-- Variables that programs are started with. -/
  env : Shell.Env
  /-- What the network will answer, request by request; after the last, connections are closed. -/
  answers : List Http.Answer
  requests : List Http.Request
  journal : List Log.Entry

namespace Machine

def change (m : Machine) (r : Except Fault Disk) : Except Fault Unit × Machine :=
  match r with
  | .ok disk => (.ok (), { m with disk := disk })
  | .error e => (.error e, m)

def changeWith {α : Type} (m : Machine) (r : Except Fault (α × Disk)) : Except Fault α × Machine :=
  match r with
  | .ok (a, disk) => (.ok a, { m with disk := disk })
  | .error e => (.error e, m)

/-- Directories in which programs are looked for, divided by colons. -/
def searchPath (m : Machine) : String := (m.env.lookup "PATH").getD ""

def desk (m : Machine) (input : ByteArray) : Shell.Desk := ⟨m.disk, m.cwd, m.env, 0o022, input, false, []⟩

/-- A directory of the search path. One whose first name is a tilde is looked for at home. -/
def searched (m : Machine) (dir : Path) : Path :=
  match (Path.parted dir.chars).1, dir.names, (m.env.lookup "HOME").filter (· ≠ "") with
  | .bare, ['~'] :: rest, some home => (Path.ofString home).extend rest
  | _, _, _ => dir

/-- The first file of a name in the directories of the search path that can be started. -/
def locate (m : Machine) (name : String) : Option Path :=
  let cwd : Path := ⟨'/' :: Path.joined m.cwd.reverse⟩
  let files := (m.searchPath.splitOn ":").map fun (dir : String) => Path.absolute cwd (m.searched dir / Path.ofString name)
  files.find? (Shell.isStartable (m.desk ByteArray.empty))

def launch (m : Machine) (program : Path) (args : List String) (input : ByteArray) :
    Except Fault Finished × Machine :=
  let isBad (s : String) : Bool := s.contains (Char.ofNat 0)
  if isBad program.text || args.any isBad then (.error .zeroInArgument, m)
  else
    match Shell.run m.searchPath program.text args (m.desk input) with
    | .ok (exit, desk) => (.ok ⟨exit, desk.out, desk.err⟩, { m with disk := desk.disk })
    | .error e => (.error (.os e), m)

def exchange (m : Machine) (r : Http.Request) : Http.Answer × Machine :=
  (m.answers.headD .closed, { m with answers := m.answers.tail, requests := m.requests ++ [r] })

def serve : (c : Kernel.Call) → Machine → Kernel.Reply c × Machine
  | .inspect p, m => (m.disk.inspect m.cwd p, m)
  | .read p, m => (m.disk.read m.cwd p, m)
  | .makeDir p, m => m.change (m.disk.makeDir m.cwd p)
  | .create p, m => m.changeWith (m.disk.create m.cwd p)
  | .createTemp dir stem, m => m.changeWith (m.disk.createTemp m.cwd dir stem)
  | .write h data, m => m.change (m.disk.write h data)
  | .flush h, m => (Disk.flush h, m)
  | .sync h, m => (Disk.sync h, m)
  | .setMode p mode, m => m.change (m.disk.setMode m.cwd p mode)
  | .rename p q, m => m.change (m.disk.rename m.cwd p q)
  | .unlink p, m => m.change (m.disk.unlink m.cwd p)
  | .locate name, m => (m.locate name, m)
  | .launch program args input, m => m.launch program args input
  | .exchange r, m => m.exchange r
  | .pause _, m => ((), m)
  | .log e, m => ((), { m with journal := m.journal ++ [e] })

def run {α : Type} (m : Machine) (p : Plan kernel α) : α × Machine := p.run serve m

end Machine

end Provision
