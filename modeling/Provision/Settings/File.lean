import Provision.Settings
import Provision.Toml.Reader
import Provision.Kernel

/-!
The settings file: reading it, and writing one with the defaults where there is none.
-/

set_option autoImplicit false

namespace Provision.Settings

inductive Error where
  | unreadable (path : Path) (fault : Fault)
  | invalid (path : Path)
  | unwritable (path : Path) (fault : Fault)
  deriving DecidableEq, Repr

namespace Error

def message : Error → String
  | .unreadable path fault => "failed to read config " ++ path.text ++ ": " ++ fault.message
  | .invalid path => "invalid config " ++ path.text
  | .unwritable path fault => "failed to write config " ++ path.text ++ ": " ++ fault.message

def chain (e : Error) : List String :=
  e.message :: match e with
    | .unreadable _ fault => [fault.message]
    | .invalid _ => []
    | .unwritable _ fault => [fault.message]

end Error

inductive Origin where
  | file (path : Path)
  | defaults
  deriving DecidableEq, Repr

def read? (cs : List Char) : Option Settings := do ofEntries? (← Toml.read? cs)

/-- Reads the settings at a path. A file that is missing gives the defaults. -/
def load (path : Path) : Kernel.Work Error (Settings × Origin) := ExceptT.mk do
  match ← Kernel.readText path with
  | .ok text =>
    match read? text.toList with
    | some s => return .ok (s, .file path)
    | none => return .error (.invalid path)
  | .error e =>
    if e.isMissing then return .ok (.default, .defaults)
    else return .error (.unreadable path e)

/-- The text of a file that says no more than the defaults. -/
def defaultText : List Char :=
  "[updates]\nchannel = \"".toList ++ Updates.default.channel.name.toList
    ++ "\"\nask_before_download = true\ncheck_interval_secs = ".toList
    ++ Decimal.write Updates.default.interval.toNat
    ++ "\n\n[package]\nversion = \"".toList ++ Package.default.version.toList ++ "\"\n".toList

/-- Writes the defaults to a path, with the directories above it. -/
def writeDefault (path : Path) : Kernel.Work Error Unit := do
  match path.parent? with
  | some parent => Attempt.ofReply (Kernel.makeDirs parent) (.unwritable path)
  | none => pure ()
  let h ← Attempt.ofReply (Kernel.create path) (.unwritable path)
  Attempt.ofReply (Kernel.write h (String.ofList defaultText).toUTF8) (.unwritable path)

/-- Reads the settings, and writes the defaults to the path if nothing is there. -/
def loadOrCreate (path : Path) : Kernel.Work Error Settings := do
  let (s, origin) ← load path
  match origin with
  | .file path => Kernel.log .info .program ("Using config from: " ++ path.text)
  | .defaults =>
    Kernel.log .info .program ("Config not found at " ++ path.text ++ ", creating default configuration")
    writeDefault path
  return s

end Provision.Settings
