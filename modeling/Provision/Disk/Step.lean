import Provision.Disk.Walk
import Provision.Text.Decimal

/-!
The single steps that the operating system takes on a disk. Each either changes the disk as one whole
or answers with a fault and leaves it as it was.
-/

set_option autoImplicit false

namespace Provision

inductive Kind where
  | dir
  | file
  | other
  deriving DecidableEq, Repr

def Node.kind : Node → Kind
  | .dir => .dir
  | .file _ _ _ => .file
  | .tool _ => .file
  | _ => .other

inductive Handle where
  | file (serial : Nat)
  | device (d : Device)
  deriving DecidableEq, Repr

namespace Disk

/-- Mode bits of a file that is created without asking for any, and of a private one. -/
def plainMode : Nat := 0o644
def privateMode : Nat := 0o600

def inspect (d : Disk) (cwd : Place) (p : Path) : Except Fault Kind :=
  (d.find cwd p).map fun r => r.2.kind

/-- As many zeros as are read from where they have no end. -/
def zeros : ByteArray := ⟨Array.replicate 65536 0⟩

def read (d : Disk) (cwd : Place) (p : Path) : Except Fault ByteArray := do
  match (← d.find cwd p).2 with
  | .dir => .error (.os .isDir)
  | .file _ _ data => .ok data
  | .device .zero => .ok zeros
  | _ => .ok ByteArray.empty

def makeDir (d : Disk) (cwd : Place) (p : Path) : Except Fault Disk := do
  match ← d.holder cwd p with
  | (_, .dots) => .error (.os .exists_)
  | (dir, .name n _) =>
    match d.get? (n :: dir) with
    | some _ => .error (.os .exists_)
    | none => .ok (d.put (n :: dir) .dir)

/-- Opens a file for writing and creates it if nothing is there; `cut` empties one that is there.
A link is followed, also to a name where nothing is yet. -/
def openFrom (d : Disk) (cut : Bool) (mode : Nat) : Nat → Place → Path → Except Fault (Handle × Disk)
  | 0, _, _ => .error (.os .loop)
  | links + 1, cwd, p => do
    match ← d.holder cwd p with
    | (_, .dots) => .error (.os .isDir)
    | (dir, .name n slash) =>
      if slash then .error (.os .isDir)
      else match d.get? (n :: dir) with
        | none => .ok (.file d.next, d.addFile (n :: dir) mode ByteArray.empty)
        | some .dir => .error (.os .isDir)
        | some (.file s _ _) => .ok (.file s, if cut then d.revise s fun _ => ByteArray.empty else d)
        | some (.link target) => openFrom d cut mode links dir target
        | some (.device dev) => .ok (.device dev, d)
        | some (.tool _) => .error (.os .textBusy)

/-- Opens a file for writing, with the mode that it gets if it is new. The links on the way count together. -/
def openAs (d : Disk) (cut : Bool) (mode : Nat) (cwd : Place) (p : Path) : Except Fault (Handle × Disk) := do
  let (h, opened) ← openFrom d cut mode (linkLimit + 1) cwd p
  if opened.isLoop cwd p then .error (.os .loop) else .ok (h, opened)

def create (d : Disk) (cwd : Place) (p : Path) : Except Fault (Handle × Disk) := d.openAs true plainMode cwd p

/-- Names for temporary files, in the order in which they are tried: six characters behind a stem. -/
def tempName (stem : Name) (n : Nat) : Name := stem ++ Decimal.padded 6 n

/-- The first name of the form `stem000000`, `stem000001`, … that is free in a directory. -/
def freeName (d : Disk) (dir : Place) (stem : Name) : Name :=
  let tried := (List.range (d.entries.length + 1)).map (tempName stem)
  (tried.find? fun n => (d.get? (n :: dir)).isNone).getD (tempName stem (d.entries.length + 1))

/-- Creates a private file under a new name in a directory. It is created by its path from the root, which
is longer than the one that it is known by if the directory is not given from there. -/
def createTemp (d : Disk) (cwd : Place) (dir : Path) (stem : Name) :
    Except Fault ((Path × Handle) × Disk) := do
  let base : Path := if dir.chars = [] then "." else dir
  match ← d.find cwd base with
  | (place, .dir) =>
    let n := d.freeName place stem
    admits (⟨'/' :: Path.joined cwd.reverse⟩ / dir / ⟨n⟩)
    if byteLength n > nameLimit then .error (.os .tooLong)
    else .ok ((dir / ⟨n⟩, .file d.next), d.addFile (n :: place) privateMode ByteArray.empty)
  | _ => .error (.os .notDir)

def write (d : Disk) (h : Handle) (data : ByteArray) : Except Fault Disk :=
  match h with
  | .file s => .ok (d.revise s (· ++ data))
  | .device .null => .ok d
  | .device .zero => .ok d
  | .device .full => if data.isEmpty then .ok d else .error (.os .noSpace)

def flush (_ : Handle) : Except Fault Unit := .ok ()

/-- Waits until written bytes are kept for good, which devices do not do. -/
def sync : Handle → Except Fault Unit
  | .file _ => .ok ()
  | .device _ => .error (.os .invalid)

def setMode (d : Disk) (cwd : Place) (p : Path) (mode : Nat) : Except Fault Disk := do
  match ← d.find cwd p with
  | (_, .file s _ _) => .ok (d.chmod s mode)
  | _ => .ok d

def unlink (d : Disk) (cwd : Place) (p : Path) : Except Fault Disk := do
  match ← d.holder cwd p with
  | (_, .dots) => .error (.os .isDir)
  | (dir, .name n slash) =>
    match d.get? (n :: dir) with
    | none => .error (.os .missing)
    | some .dir => .error (.os .isDir)
    | some _ => if slash then .error (.os .notDir) else .ok (d.erase (n :: dir))

/-- Gives an entry another name. A file or link there is replaced in the same step, and so is an
empty directory by a directory. Nothing is done if the file has that name already, and if that is another name
of the same file. -/
def rename (d : Disk) (cwd : Place) (p q : Path) : Except Fault Disk := do
  let (dir, last) ← d.holder cwd p
  let (dir', last') ← d.holder cwd q
  match last, last' with
  | .name n slash, .name n' slash' =>
    let source := n :: dir
    let target := n' :: dir'
    match d.get? source with
    | none => .error (.os .missing)
    | some node =>
      if !node.isDir && (slash || slash') then .error (.os .notDir)
      else if source = target || d.twins source target then .ok d
      else if node.isDir && isUnder source target then .error (.os .invalid)
      else match d.get? target with
        | none => .ok (d.move source target)
        | some .dir =>
          if !node.isDir then .error (.os (if isUnder target source then .notEmpty else .isDir))
          else if d.hasChildren target then .error (.os .notEmpty)
          else .ok (d.move source target)
        | some _ => if node.isDir then .error (.os .notDir) else .ok (d.move source target)
  | _, _ => .error (.os .busy)

def addLink (d : Disk) (cwd : Place) (p target : Path) : Except Fault Disk := do
  match ← d.holder cwd p with
  | (_, .dots) => .error (.os .exists_)
  | (dir, .name n slash) =>
    match d.get? (n :: dir) with
    | some _ => .error (.os .exists_)
    | none => if slash then .error (.os .missing) else .ok (d.put (n :: dir) (.link target))

/-- Creates a directory and those above it that are missing. -/
def makeDirs (d : Disk) (cwd : Place) (p : Path) : Disk :=
  (p.ancestors.reverse).foldl (fun d q => match d.makeDir cwd q with | .ok d' => d' | .error _ => d) d

/-- Removes an entry with everything below it; nothing happens if there is none. -/
def removeAll (d : Disk) (cwd : Place) (p : Path) : Disk :=
  match d.holder cwd p with
  | .ok (dir, .name n _) => d.eraseUnder (n :: dir)
  | _ => d

end Disk

end Provision
