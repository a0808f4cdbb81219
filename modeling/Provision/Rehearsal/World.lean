import Provision.Machine

set_option autoImplicit false

namespace Provision.Rehearsal

def tools : List (String × Node) :=
  let plain := Shell.Tool.all.map (·.1) ++ Shell.Tool.starters.map (·.1) ++ Shell.wrappers.map (·.1) ++ ["sh", "bash", "env"]
  ("dash", .tool "sh") :: plain.map fun t => (t, .tool t)

def scratch : Place := ["provision-scratch-0".toList, "tmp".toList]

def placePath (p : Place) : Path := ⟨'/' :: Path.joined p.reverse⟩

def scratchPath : Path := placePath scratch

def freshDisk : Disk :=
  let name (s : String) : Name := s.toList
  let bin : Place := [name "bin"]
  let usrBin : Place := [name "bin", name "usr"]
  let dirs : List Place := [bin, [name "usr"], usrBin, [name "etc"], [name "dev"], [name "tmp"], scratch]
  let d := dirs.foldl (fun d p => d.put p .dir) Disk.empty
  let devices : List (String × Device) := [("null", .null), ("full", .full), ("zero", .zero)]
  let d := devices.foldl (fun d v => d.put [name v.1, name "dev"] (.device v.2)) d
  tools.foldl (fun d t => (d.put (name t.1 :: bin) t.2).put (name t.1 :: usrBin) t.2) d

inductive Content where
  | dir
  | link (target : Path)
  | file (data : ByteArray) (mode : Nat)

structure Fixture where
  path : Path
  content : Content

def Fixture.lay (d : Disk) (f : Fixture) : Disk :=
  let path := scratchPath / f.path
  let parents := match path.parent? with
    | some p => d.makeDirs scratch p
    | none => d
  match f.content with
  | .dir => d.makeDirs scratch path
  | .link target => (parents.addLink scratch path target).toOption.getD parents
  | .file data mode =>
    match parents.create scratch path with
    | .ok (h, d) => ((d.write h data).bind fun d => d.setMode scratch path mode).toOption.getD d
    | .error _ => parents

def machine (env : Shell.Env) (fixtures : List Fixture) (answers : List Http.Answer) : Machine :=
  ⟨fixtures.foldl Fixture.lay freshDisk, scratch, env, answers, [], []⟩

def tree (m : Machine) : List (Path × Node) :=
  (m.disk.below scratch).map fun e => (⟨Path.joined e.1⟩, e.2)

def modeOf (m : Machine) (p : Path) : Option Nat :=
  match m.disk.find m.cwd p with
  | .ok (_, .file _ mode _) => some (mode &&& 0o7777)
  | _ => none

end Provision.Rehearsal
