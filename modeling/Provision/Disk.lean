import Provision.Path
import Provision.Fault
import Provision.Text.Utf8

/-!
The disk: directories, files and symbolic links, each at a place. A file has a serial number, so that
a file that was opened is still the same file after it was renamed, and so that it can have several names.
-/

set_option autoImplicit false

namespace Provision

/-- The names from an entry up to the root, innermost first. The root is the empty place. -/
abbrev Place := List Name

/-- A device takes every byte and gives none, has no room for any, or gives zeros without end. -/
inductive Device where
  | null
  | full
  | zero
  deriving DecidableEq, Repr

inductive Node where
  | dir
  | file (serial mode : Nat) (data : ByteArray)
  | link (target : Path)
  | device (d : Device)
  /-- A program that belongs to the machine. -/
  | tool (name : String)
  deriving DecidableEq

namespace Node

def isDir : Node → Bool
  | .dir => true
  | _ => false

end Node

structure Disk where
  entries : List (Place × Node)
  /-- The serial number of the next file. -/
  next : Nat

namespace Disk

def empty : Disk := ⟨[], 0⟩

def get? (d : Disk) : Place → Option Node
  | [] => some .dir
  | p => d.entries.lookup p

def erase (d : Disk) (p : Place) : Disk :=
  { d with entries := d.entries.filter fun e => e.1 ≠ p }

def put (d : Disk) (p : Place) (n : Node) : Disk :=
  { d with entries := (p, n) :: d.entries.filter fun e => e.1 ≠ p }

def isUnder (p q : Place) : Bool := p.isSuffixOf q

def eraseUnder (d : Disk) (p : Place) : Disk :=
  { d with entries := d.entries.filter fun e => !isUnder p e.1 }

def hasChildren (d : Disk) (p : Place) : Bool :=
  d.entries.any fun e => e.1.tail = p && e.1 ≠ []

/-- Moves the entry at `p` and everything below it to `q`; what was at `q` is gone. -/
def move (d : Disk) (p q : Place) : Disk :=
  let moved := (d.entries.filter fun e => isUnder p e.1).map fun e =>
    (e.1.take (e.1.length - p.length) ++ q, e.2)
  { d with entries := moved ++ d.entries.filter fun e => !isUnder p e.1 && !isUnder q e.1 }

/-- Replaces the contents of the file with a serial number, wherever it is now. -/
def revise (d : Disk) (serial : Nat) (f : ByteArray → ByteArray) : Disk :=
  { d with entries := d.entries.map fun
    | (p, .file s m data) => if s = serial then (p, .file s m (f data)) else (p, .file s m data)
    | e => e }

/-- Gives the file with a serial number other mode bits, under all its names. -/
def chmod (d : Disk) (serial mode : Nat) : Disk :=
  { d with entries := d.entries.map fun
    | (p, .file s m data) => (p, .file s (if s = serial then mode else m) data)
    | e => e }

def twins (d : Disk) (p q : Place) : Bool :=
  match d.get? p, d.get? q with
  | some (.file s _ _), some (.file s' _ _) => s = s'
  | _, _ => false

def addFile (d : Disk) (p : Place) (mode : Nat) (data : ByteArray) : Disk :=
  { (d.put p (.file d.next mode data)) with next := d.next + 1 }

/-- Entries below a place with their names from there on, each directory before what it holds and
names in the order of their characters. -/
def below (d : Disk) (p : Place) : List (List Name × Node) :=
  let inside := d.entries.filterMap fun e =>
    if isUnder p e.1 && e.1.length > p.length then
      some ((e.1.take (e.1.length - p.length)).reverse, e.2)
    else none
  inside.mergeSort fun a b => !List.lex b.1 a.1 Name.precedes

end Disk

end Provision
