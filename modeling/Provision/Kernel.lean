import Provision.Plan
import Provision.Disk.Step
import Provision.Http
import Provision.Log

/-!
The calls that the program makes to the world around it: the disk, other programs, the network, the
clock that makes it wait, and the log. Each call is one step, and the process can be killed between two.
-/

set_option autoImplicit false

namespace Provision

/-- How a program ended. -/
inductive Exit where
  | code (n : Nat)
  | signal (n : Nat)
  deriving DecidableEq, Repr

namespace Exit

def isSuccess : Exit → Bool
  | .code 0 => true
  | _ => false

end Exit

/-- What a program that ran left behind besides its changes to the disk. -/
structure Finished where
  exit : Exit
  out : ByteArray
  err : ByteArray
  deriving DecidableEq

namespace Kernel

inductive Call where
  | inspect (p : Path)
  | read (p : Path)
  | makeDir (p : Path)
  | create (p : Path)
  | createTemp (dir : Path) (stem : Name)
  | write (h : Handle) (data : ByteArray)
  | flush (h : Handle)
  | sync (h : Handle)
  | setMode (p : Path) (mode : Nat)
  | rename (p q : Path)
  | unlink (p : Path)
  /-- Where a program of this name is found. -/
  | locate (name : String)
  | launch (program : Path) (args : List String) (input : ByteArray)
  | exchange (r : Http.Request)
  | pause (milliseconds : Nat)
  | log (e : Log.Entry)

def Reply : Call → Type
  | .inspect _ => Except Fault Kind
  | .read _ => Except Fault ByteArray
  | .makeDir _ => Except Fault Unit
  | .create _ => Except Fault Handle
  | .createTemp _ _ => Except Fault (Path × Handle)
  | .write _ _ => Except Fault Unit
  | .flush _ => Except Fault Unit
  | .sync _ => Except Fault Unit
  | .setMode _ _ => Except Fault Unit
  | .rename _ _ => Except Fault Unit
  | .unlink _ => Except Fault Unit
  | .locate _ => Option Path
  | .launch _ _ _ => Except Fault Finished
  | .exchange _ => Http.Answer
  | .pause _ => Unit
  | .log _ => Unit

end Kernel

abbrev kernel : Interface := ⟨Kernel.Call, Kernel.Reply⟩

namespace Kernel

abbrev Work (ε α : Type) := Attempt kernel ε α

def inspect (p : Path) : Plan kernel (Except Fault Kind) := .call (I := kernel) (.inspect p)
def read (p : Path) : Plan kernel (Except Fault ByteArray) := .call (I := kernel) (.read p)
def makeDir (p : Path) : Plan kernel (Except Fault Unit) := .call (I := kernel) (.makeDir p)
def create (p : Path) : Plan kernel (Except Fault Handle) := .call (I := kernel) (.create p)
def createTemp (dir : Path) (stem : Name) : Plan kernel (Except Fault (Path × Handle)) :=
  .call (I := kernel) (.createTemp dir stem)
def write (h : Handle) (data : ByteArray) : Plan kernel (Except Fault Unit) := .call (I := kernel) (.write h data)
def flush (h : Handle) : Plan kernel (Except Fault Unit) := .call (I := kernel) (.flush h)
def sync (h : Handle) : Plan kernel (Except Fault Unit) := .call (I := kernel) (.sync h)
def setMode (p : Path) (mode : Nat) : Plan kernel (Except Fault Unit) := .call (I := kernel) (.setMode p mode)
def rename (p q : Path) : Plan kernel (Except Fault Unit) := .call (I := kernel) (.rename p q)
def unlink (p : Path) : Plan kernel (Except Fault Unit) := .call (I := kernel) (.unlink p)
def locate (name : String) : Plan kernel (Option Path) := .call (I := kernel) (.locate name)
def launch (program : Path) (args : List String) (input : ByteArray) : Plan kernel (Except Fault Finished) :=
  .call (I := kernel) (.launch program args input)
def exchange (r : Http.Request) : Plan kernel Http.Answer := .call (I := kernel) (.exchange r)
def pause (milliseconds : Nat) : Plan kernel Unit := .call (I := kernel) (.pause milliseconds)

def log (level : Log.Level) (source : Log.Source) (text : String) : Plan kernel Unit :=
  .call (I := kernel) (.log ⟨level, source, text⟩)

/-- Text of a file; bytes that are not text are a fault. -/
def readText (p : Path) : Plan kernel (Except Fault String) := do
  match ← read p with
  | .error e => return .error e
  | .ok data =>
    match String.fromUTF8? data with
    | some s => return .ok s
    | none => return .error .notText

def exists_ (p : Path) : Plan kernel Bool := do
  match ← inspect p with
  | .ok _ => return true
  | .error _ => return false

/-- Creates the first of a chain of directories, the rest of the chain being those above it in turn. -/
def makeChain : List Path → Plan kernel (Except Fault Unit)
  | [] => .done (.error (.other "failed to create whole tree"))
  | p :: above =>
    if p.chars.isEmpty then .done (.ok ())
    else do
      match ← makeDir p with
      | .ok () => return .ok ()
      | .error first =>
        if first.isMissing then
          match ← makeChain above with
          | .error e => return .error e
          | .ok () =>
            match ← makeDir p with
            | .ok () => return .ok ()
            | .error second => settle p second
        else settle p first
where
  /-- A directory that is already there is as good as a new one. -/
  settle (p : Path) (e : Fault) : Plan kernel (Except Fault Unit) := do
    match ← inspect p with
    | .ok .dir => return .ok ()
    | _ => return .error e

/-- Creates a directory and those above it that are missing. -/
def makeDirs (p : Path) : Plan kernel (Except Fault Unit) := makeChain p.ancestors

end Kernel

end Provision
