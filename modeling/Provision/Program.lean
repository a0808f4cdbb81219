import Provision.CommandLine
import Provision.LogFilter
import Provision.Root
import Provision.Settings.File
import Provision.Terminal

/-!
The program as a whole: what it does for a command line, what it prints and how it ends.
-/

set_option autoImplicit false

namespace Provision.Program

structure Outcome where
  code : Nat
  out : String
  deriving DecidableEq, Repr

abbrev Work := Kernel.Work (List String)

def settings (line : CommandLine) (v : Surroundings) : Work Settings :=
  Attempt.ofReply (Settings.loadOrCreate (line.config.getD v.settingsPath)).plan Settings.Error.chain

def activate (line : CommandLine) (v : Surroundings) : Work Session := do
  let s ← settings line v
  ExceptT.mk (Terminal.run line.yes v.token (Session.activate s (Site.detect s v) true))

def server (line : CommandLine) (v : Surroundings) : Work String := do
  let s ← settings line v
  let site := Site.detect s v
  let store ← Attempt.ofReply (Store.load (site.storage / Store.fileName)).plan Error.chain
  let plan := (Server.get s site Patch.defaultTool).plan store
  let path ← Attempt.ofReply ((Terminal.run line.yes v.token plan).bind fun r => .done r.1) Error.chain
  return path.text

def state (line : CommandLine) (v : Surroundings) : Work String := do
  let s ← settings line v
  let store ← Attempt.ofReply (Store.load (s.storage v / Store.fileName)).plan Error.chain
  return store.record.text

def root (start : Path) (markers : List String) : Work String := do
  match ← Root.find start (if markers.isEmpty then Root.defaultMarkers else markers) with
  | some dir => return dir.text
  | none => throw ["No repository root found above " ++ start.text]

def perform (line : CommandLine) (v : Surroundings) (cwd : Path) : Work String :=
  match line.action with
  | .root start markers => root (start.getD cwd) markers
  | .state => state line v
  | .server => server line v
  | .run => do return (← activate line v).server.text
  | .exec command => do
    let session ← activate line v
    ExceptT.mk (command.run session)

def filter (line : CommandLine) (v : Surroundings) : LogFilter :=
  let f := LogFilter.ofLevel (if line.verbose then .debug else .info)
  match v.logSpec with
  | some spec => f.add spec
  | none => f

def run (line : CommandLine) (v : Surroundings) (cwd : Path) : Plan kernel Outcome := do
  match ← (perform line v cwd).plan with
  | .ok text => return ⟨0, text ++ "\n"⟩
  | .error chain =>
    Kernel.log .error .program (Error.joined chain)
    return ⟨1, ""⟩

/-- The code with which a command line that makes no sense ends. -/
def usageCode : Nat := 2

end Provision.Program
