import Provision.Shell.Reach

set_option autoImplicit false

namespace Provision.Shell

def devicePort? (target : String) : Option Nat :=
  match target with
  | "/dev/stdin" => some 0
  | "/dev/stdout" => some 1
  | "/dev/stderr" => some 2
  | t => if t.startsWith "/dev/fd/" then Tool.natural? (String.ofList (t.toList.drop 8)) else none

namespace State

def unopened (s : State) (f : Frame) (target plain rich : String) : Bool × State :=
  (false, s.complain f (if f.isRich then target ++ ": " ++ rich else plain))

def copyPort (s : State) (f : Frame) (fd from_ : Nat) (target : String) : Bool × State :=
  match s.port? from_ with
  | some p => (true, s.withPort fd p)
  | none => s.unopened f target (toString from_ ++ ": Bad file descriptor") "Bad file descriptor"

def givePort (s : State) (fd : Nat) (isFile : Bool) (data : ByteArray) : Bool × State :=
  let (n, s) := s.basin data isFile
  (true, s.withPort fd (.basin n))

def readPort (s : State) (f : Frame) (fd : Nat) (target : String) : Bool × State :=
  match devicePort? target with
  | some n => s.copyPort f fd n target
  | none =>
    match s.desk.disk.read s.desk.cwd target with
    | .ok data =>
      let isFile : Bool := match s.desk.disk.find s.desk.cwd target with
        | .ok (_, .file _ _ _) => true
        | _ => false
      s.givePort fd isFile data
    | .error (.os .isDir) => s.givePort fd true ByteArray.empty
    | .error e =>
      let why := if e.isMissing || e = .os .notDir then "No such file" else Tool.wording e
      s.unopened f target ("cannot open " ++ target ++ ": " ++ why) (Tool.wording e)

def writePort (s : State) (f : Frame) (isExtended : Bool) (fd : Nat) (target : String) : Bool × State :=
  match devicePort? target with
  | some n => s.copyPort f fd n target
  | none =>
    let isThere : Bool := match s.desk.disk.find s.desk.cwd target with
      | .ok (_, .file _ _ _) => true
      | _ => false
    if isThere && !isExtended && s.has "noclobber" then
      s.unopened f target ("cannot create " ++ target ++ ": File exists") "cannot overwrite existing file"
    else match s.desk.disk.openAs (!isExtended) (s.desk.modeFor 0o666) s.desk.cwd target with
      | .ok (h, disk) => (true, ({ s with desk := { s.desk with disk := disk } }).withPort fd (.file h))
      | .error e =>
        let why := if e.isMissing || e = .os .notDir then "Directory nonexistent" else Tool.wording e
        s.unopened f target ("cannot create " ++ target ++ ": " ++ why) (Tool.wording e)

def writeBoth (s : State) (f : Frame) (isExtended : Bool) (target : String) : Bool × State :=
  match s.writePort f isExtended 1 target with
  | (true, s) => s.copyPort f 2 1 target
  | no => no

def redirect (s : State) (f : Frame) (fd : Nat) (target : String) : Direction → Bool × State
  | .copy =>
    if target = "-" then (true, s.withoutPort fd)
    else match Tool.natural? target with
      | some n => s.copyPort f fd n target
      | none =>
        if f.isRich && fd = 1 then s.writeBoth f false target
        else if f.isRich then s.unopened f target "" "ambiguous redirect"
        else (false, (s.complain f "Syntax error: Bad fd number").finish (.code 2))
  | .here => s.givePort fd true target.toUTF8
  | .line => s.givePort fd true (target ++ "\n").toUTF8
  | .read => s.readPort f fd target
  | .write => s.writePort f false fd target
  | .extend => s.writePort f true fd target
  | .both => s.writeBoth f false target
  | .bothExtend => s.writeBoth f true target

end State

def Reach.redirectAll (r : Reach) (f : Frame) : List Redirect → State → Bool × State
  | [], s => (true, s)
  | d :: ds, s =>
    let (text, s') := r.whole f false d.target s
    if !s'.flow.isRunning then
      -- a text in a plain script that cannot be expanded is a redirection that cannot be made
      (false, if d.direction = .here && !f.isRich then { s' with flow := s.flow } else s')
    else match s'.redirect f d.fd text.text d.direction with
      | (true, s) => r.redirectAll f ds s
      | no => no

end Provision.Shell
