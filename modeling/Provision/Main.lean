import Provision.Program
import Std.Time.DateTime.Timestamp

set_option autoImplicit false

namespace Provision.Live

def faultOf : IO.Error → Fault
  | .alreadyExists _ code _ | .otherError code _ | .resourceBusy code _ | .resourceVanished code _
  | .unsupportedOperation code _ | .hardwareFault code _ | .unsatisfiedConstraints code _
  | .illegalOperation code _ | .protocolError code _ | .timeExpired code _ | .interrupted _ code _
  | .noFileOrDirectory _ code _ | .invalidArgument _ code _ | .permissionDenied _ code _
  | .resourceExhausted _ code _ | .inappropriateType _ code _ | .noSuchThing _ code _ =>
    .os ⟨code.toNat⟩
  | .unexpectedEof => .other "unexpected end of file"
  | .userError text => .other text

def attempt {α : Type} (act : IO α) : IO (Except Fault α) := do
  try return .ok (← act) catch e => return .error (faultOf e)

structure Desk where
  files : List (Nat × IO.FS.Handle)
  filter : LogFilter

def rights (mode : Nat) : IO.FileRight :=
  let one (n : Nat) : IO.AccessRight := ⟨n / 4 % 2 = 1, n / 2 % 2 = 1, n % 2 = 1⟩
  ⟨one (mode / 64), one (mode / 8), one mode⟩

def openFile (d : Desk) (path : String) (mode : IO.FS.Mode) : IO (Except Fault Handle × Desk) := do
  match ← attempt (IO.FS.Handle.mk path mode) with
  | .ok h => return (.ok (.file d.files.length), { d with files := (d.files.length, h) :: d.files })
  | .error e => return (.error e, d)

def openTemp (d : Desk) (dir : Path) (stem : Name) : Nat → IO (Except Fault (Path × Handle) × Desk)
  | 0 => return (.error (.os .exists_), d)
  | n + 1 => do
    let path := dir / ⟨Disk.tempName stem n⟩
    match ← openFile d path.text .writeNew with
    | (.ok h, d) =>
      let _ ← attempt (IO.setAccessRights path.text (rights Disk.privateMode))
      return (.ok (path, h), d)
    | (.error e, d) => if e = .os .exists_ then openTemp d dir stem n else return (.error e, d)

def inspect (path : String) : IO (Except Fault Kind) := do
  match ← attempt (IO.FS.Handle.mk path .read) with
  | .error e => return .error e
  | .ok h =>
    match ← attempt (h.read 1) with
    | .ok _ => return .ok .file
    | .error e => return .ok (if e = .os .isDir then .dir else .other)

def onHandle (d : Desk) (h : Handle) (act : IO.FS.Handle → IO Unit) : IO (Except Fault Unit) := do
  match h with
  | .device _ => return .ok ()
  | .file n =>
    match d.files.lookup n with
    | some h => attempt (act h)
    | none => return .error (.os .invalid)

def serve (d : Desk) : (c : Kernel.Call) → IO (Kernel.Reply c × Desk)
  | .inspect p => do return (← inspect p.text, d)
  | .read p => do return (← attempt (IO.FS.readBinFile p.text), d)
  | .makeDir p => do return (← attempt (IO.FS.createDir p.text), d)
  | .create p => openFile d p.text .write
  | .createTemp dir stem => openTemp d dir stem 1000
  | .write h data => do return (← onHandle d h fun h => h.write data, d)
  | .flush h => do return (← onHandle d h fun h => h.flush, d)
  | .sync h => do return (← onHandle d h fun h => h.flush, d)
  | .setMode p mode => do return (← attempt (IO.setAccessRights p.text (rights mode)), d)
  | .rename p q => do return (← attempt (IO.FS.rename p.text q.text), d)
  | .unlink p => do return (← attempt (IO.FS.removeFile p.text), d)
  | .locate _ => return (none, d)
  | .launch _ _ _ => return (.error (.os .unavailable), d)
  | .exchange _ => return (.closed, d)
  | .pause ms => do IO.sleep ms.toUInt32; return ((), d)
  | .log e => do
    if d.filter.shows e then IO.eprintln ("[" ++ e.level.text ++ " " ++ e.source.target ++ "] " ++ e.text)
    return ((), d)

def run {α : Type} : Desk → Plan kernel α → IO α
  | _, .done a => return a
  | d, .ask c k => do
    let (r, d) ← serve d c
    run d (k r)

def surroundings : IO Surroundings := do
  let path (name : String) : IO (Option Path) := return (← IO.getEnv name).map Path.ofString
  let now ← Std.Time.Timestamp.now
  return ⟨(← path "HOME").getD "/root", ← path "XDG_DATA_HOME", ← path "XDG_CONFIG_HOME",
    ← IO.getEnv "__RA_LSP_SERVER_DEBUG", ← IO.getEnv "GITHUB_TOKEN", ← IO.getEnv "RUST_LOG",
    (Instant.ofNanos? now.toNanosecondsSinceUnixEpoch.val).getD ⟨1970, 1, 1, 0, 0, 0, 0, by decide⟩⟩

end Provision.Live

open Provision in
def main (args : List String) : IO UInt32 := do
  match CommandLine.read? args with
  | none =>
    IO.eprintln "error: the arguments make no sense"
    return Program.usageCode.toUInt32
  | some line =>
    let v ← Live.surroundings
    let cwd ← IO.currentDir
    let r ← Live.run ⟨[], Program.filter line v⟩ (Program.run line v cwd.toString)
    IO.print r.out
    return r.code.toUInt32
