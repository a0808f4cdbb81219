import Provision.Server
import Provision.Nightly

/-!
A session: what a successful start leaves, and the commands that can be run on it.
-/

set_option autoImplicit false

namespace Provision

structure Session where
  store : Store
  server : Path
  deriving DecidableEq

namespace Session

/-- Where users are sent when there is no server to start. -/
def manual : String := "https://rust-analyzer.github.io/manual.html#installation"

/-- Whether the server can be started and says its version. -/
def probe (server : Path) : Plan kernel Bool := do
  match ← Kernel.launch server ["--version"] ByteArray.empty with
  | .ok f => return f.exit.isSuccess
  | .error _ => return false

def failedToLoad (e : Error) : String :=
  "rust-analyzer failed to load: " ++ e.message ++ ". Please ensure its proper installation: " ++ manual

def notAvailable (server : Path) : String :=
  "rust-analyzer language server is not available at " ++ server.text
    ++ ". Please ensure its proper installation: " ++ manual

def failWith (message : String) : Plan setup (Except (List String) Session) := do
  Setup.showError message
  return .error [message]

/-- The nightly step, if asked for; what goes wrong in it is only logged. -/
def nightlyStep (settings : Settings) (site : Site) (wanted : Bool) (store : Store) : Plan setup Store :=
  if wanted then do
    let (r, store) ← (Nightly.update settings site).plan store
    match r with
    | .ok () => return store
    | .error e =>
      Setup.ofKernel (Kernel.log .error .session ("Nightly extension update failed: " ++ e.message))
      return store
  else .done store

/-- Starts a session: the record, the nightly step, the server, and a probe of it. -/
def activate (settings : Settings) (site : Site) (nightly : Bool) :
    Plan setup (Except (List String) Session) := do
  let path := site.storage / Store.fileName
  match ← Setup.ofKernel (Store.load path).plan with
  | .error e => return .error (("failed to load " ++ path.text) :: e.chain)
  | .ok store =>
    let store ← nightlyStep settings site nightly store
    let (found, store) ← (Server.get settings site Patch.defaultTool).plan store
    match found with
    | .error e => failWith (failedToLoad e)
    | .ok server =>
      if ← Setup.ofKernel (probe server) then
        Setup.ofKernel (Kernel.log .info .session ("Using server " ++ server.text))
        return .ok ⟨store, server⟩
      else failWith (notAvailable server)

end Session

inductive Command where
  | serverVersion
  | serverPath
  | state
  deriving DecidableEq, Repr

namespace Command

def all : List Command := [.serverVersion, .serverPath, .state]

def word : Command → String
  | .serverVersion => "server-version"
  | .serverPath => "server-path"
  | .state => "state"

def editorName : Command → String
  | .serverVersion => "rust-analyzer.serverVersion"
  | .serverPath => "rust-analyzer.serverPath"
  | .state => "rust-analyzer.installationState"

def lowered (s : String) : String := String.ofList (s.toList.map Char.toLower)

def ofWord? (s : String) (ignoreCase : Bool) : Option Command :=
  all.find? fun c => if ignoreCase then lowered c.word = lowered s else c.word = s

theorem ofWord?_word (c : Command) : ofWord? c.word false = some c := by
  cases c <;> simp [ofWord?, all, word]

def run (s : Session) : Command → Plan kernel (Except (List String) String)
  | .serverVersion => do
    match ← Kernel.launch s.server ["--version"] ByteArray.empty with
    | .error e => return .error ["failed to run " ++ s.server.text, e.message]
    | .ok f =>
      if f.exit.isSuccess then return .ok ("rust-analyzer version: " ++ Patch.trimmed f.out)
      else return .error [s.server.text ++ " --version failed: " ++ Patch.trimmed f.err]
  | .serverPath => .done (.ok s.server.text)
  | .state => .done (.ok s.store.record.text)

end Command

end Provision
