import Provision.Disk

/-!
Walking a path over the disk, one name after the other. Symbolic links on the way are followed, at
most forty of them.
-/

set_option autoImplicit false

namespace Provision

namespace Disk

def nameLimit : Nat := 255
def pathLimit : Nat := 4095
def linkLimit : Nat := 40

def byteLength (cs : List Char) : Nat := cs.foldr (fun c n => c.utf8Size + n) 0

/-- The names of a path in order. A slash at the end asks for a directory, as a last `.` does. -/
def stepsOf (p : Path) : List Name :=
  let names := (Path.segments p.chars).filter (· ≠ [])
  if p.chars.getLast? = some '/' then names ++ [['.']] else names

/-- Where a walk stands when it stops: at its end, or at a link with the names that follow. -/
inductive Halt where
  | there (place : Place)
  | link (dir : Place) (target : Path) (rest : List Name)

/-- Walks over directories until the names are used up or a link comes. -/
def walkPlain (d : Disk) : Place → List Name → Except Errno Halt
  | here, [] => .ok (.there here)
  | here, n :: rest =>
    match d.get? here with
    | some .dir =>
      if n = ['.'] then walkPlain d here rest
      else if n = ['.', '.'] then walkPlain d here.tail rest
      else if byteLength n > nameLimit then .error .tooLong
      else match d.get? (n :: here) with
        | none => .error .missing
        | some (.link target) => .ok (.link here target rest)
        | some _ => walkPlain d (n :: here) rest
    | _ => .error .notDir

/-- Walks a list of names, following at most `links` links less one. -/
def walkFrom (d : Disk) : Nat → Place → List Name → Except Errno Place
  | 0, _, _ => .error .loop
  | links + 1, here, names =>
    match walkPlain d here names with
    | .error e => .error e
    | .ok (.there place) => .ok place
    | .ok (.link dir target rest) =>
      walkFrom d links (if target.isAbsolute then [] else dir) (stepsOf target ++ rest)

def admits (p : Path) : Except Fault Unit :=
  if p.chars.contains (Char.ofNat 0) then .error .zeroInPath
  else if p.chars = [] then .error (.os .missing)
  else if byteLength p.chars > pathLimit then .error (.os .tooLong)
  else .ok ()

def startOf (cwd : Place) (p : Path) : Place := if p.isAbsolute then [] else cwd

def resolve (d : Disk) (cwd : Place) (p : Path) : Except Fault Place := do
  admits p
  (walkFrom d (linkLimit + 1) (startOf cwd p) (stepsOf p)).mapError .os

/-- A path is given up because too many links stand on its way. -/
def isLoop (d : Disk) (cwd : Place) (p : Path) : Bool :=
  match resolve d cwd p with
  | .error e => e = .os .loop
  | .ok _ => false

def find (d : Disk) (cwd : Place) (p : Path) : Except Fault (Place × Node) := do
  let place ← resolve d cwd p
  match d.get? place with
  | some n => .ok (place, n)
  | none => .error (.os .missing)

/-- The last step of a path: a name, perhaps with a slash behind it, or a step that names no entry. -/
inductive Last where
  | name (n : Name) (slash : Bool)
  | dots

/-- The directory that holds the last name of a path, and that name, which is not followed. -/
def holder (d : Disk) (cwd : Place) (p : Path) : Except Fault (Place × Last) := do
  admits p
  let names := (Path.segments p.chars).filter (· ≠ [])
  match names.reverse with
  | [] => .ok ([], .dots)
  | last :: before =>
    let dir ← (walkFrom d (linkLimit + 1) (startOf cwd p) before.reverse).mapError .os
    match d.get? dir with
    | some .dir =>
      if last = ['.'] || last = ['.', '.'] then .ok (dir, .dots)
      else if byteLength last > nameLimit then .error (.os .tooLong)
      else .ok (dir, .name last (p.chars.getLast? = some '/'))
    | _ => .error (.os .notDir)

end Disk

end Provision
