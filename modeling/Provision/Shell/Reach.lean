import Provision.Shell.Builtin
import Provision.Shell.Complaint

set_option autoImplicit false

namespace Provision.Shell

def status : Exit → Nat
  | .code n => n
  | .signal n => 128 + n

namespace State

def entered (s : State) : State := { s with traps := s.traps.filter fun t => t.2.isEmpty && t.1 ≠ 0 }

/-- What is left of a subshell: what it did to the disk and to the inputs, what it wrote, and its outcome. -/
def after (s s' : State) (e : Exit) : State :=
  { s with
    desk := { s'.desk with cwd := s.desk.cwd, mask := s.desk.mask }
    basins := s'.basins.filter (·.number < s.next)
    status := Shell.status e }

def unredirected (s s' : State) (rs : List Redirect) : State :=
  let fds := rs.flatMap fun r => match r.direction with
    | .both | .bothExtend => [1, 2]
    | .copy => [r.fd, 1, 2]
    | _ => [r.fd]
  let s' := fds.foldl (fun (s' : State) fd => match s.port? fd with
    | some p => s'.withPort fd p
    | none => s'.withoutPort fd) s'
  let isUsed (b : Basin) : Bool := b.number < s.next || s'.ports.any fun p => match p.2 with
    | .basin n => n = b.number
    | _ => false
  { s' with basins := s'.basins.filter isUsed }

def strictly (s : State) (f : Frame) : State :=
  if s.status ≠ 0 && s.has "errexit" && !f.tested && s.flow.isRunning then s.finish (.code s.status) else s

def lent (s : State) : Desk :=
  let (input, isFile) := s.inputOf 0
  { s.desk with env := s.env, input := input, isFile := isFile, spoken := [] }

def absorb (s : State) (who : String) (d : Desk) (e : Exit) : Exit × State :=
  let s := s.leaveInput 0 d.input
  let s : State := { s with desk := { s.desk with disk := d.disk } }
  let (e, _, s) := d.spoken.foldr (fun (c : Bool × ByteArray) (acc : Exit × Bool × State) =>
    let (e, isLost, s) := acc
    match s.emit (if c.1 then 2 else 1) c.2 with
    | .ok s => (e, isLost, s)
    | .error why =>
      if c.1 || isLost then acc
      else (.code 1, true, s.tell 2 (who ++ ": write error: " ++ why.wording ++ "\n"))) (e, false, s)
  (e, s)

def unstarted (s : State) (f : Frame) (name : String) (e : Errno) : Exit × State :=
  let isMissing := e = .missing || e = .notDir || e = .loop
  if f.isRich then
    let text := if name.contains '/' then
        (match s.desk.disk.find s.desk.cwd name with
        | .ok (_, .dir) => Errno.isDir.wording
        | .ok _ => if e = .missing then "cannot execute: required file not found" else e.wording
        | _ => e.wording)
      else if isMissing then (if f.within = "exec: " then "not found" else "command not found") else e.wording
    let text := if f.within = "exec: " && isMissing && text ≠ "not found" then "cannot execute: " ++ text else text
    (.code (if isMissing then 127 else 126), s.complain f ((if f.within = "exec: " then f.within else "") ++ name ++ ": " ++ text))
  else if name.isEmpty then (.code 127, s.complain f ": Permission denied")
  else if isMissing then (.code 127, s.complain f (name ++ ": not found"))
  else (.code 126, s.complain f (name ++ ": " ++ e.wording))

def misread (s : State) (f : Frame) (first : Nat) (text : List Char) (m : Misread) : State :=
  if f.isRich then
    let s := (m.richTexts first text).foldl (fun (s : State) (line, t) =>
      s.tell 2 (f.title ++ ": " ++ f.within ++ "line " ++ toString line ++ ": " ++ t ++ "\n")) s
    if f.within = "eval: " then { s with status := 1 } else s.finish (.code 2)
  else { s with line := m.line }.abort f m.plainText

def traced (s before : State) (f : Frame) (given : List Assignment) (args : List String) : State :=
  if !s.has "xtrace" then s
  else
    let sign := ((s.text? "PS4").map String.ofList).getD "+ "
    let shown (a : String) : String := if f.isRich then Tool.quotedIfOdd a else a
    let pairs := given.map fun a => String.ofList a.name ++ "=" ++ shown (((s.text? (String.ofList a.name)).map String.ofList).getD "")
    let rows := if f.isRich then pairs ++ (if args.isEmpty then [] else [" ".intercalate (args.map shown)])
      else [" ".intercalate (pairs ++ args)]
    match before.port? 2 with
    | some p => { rows.foldl (fun (s : State) r => s.tell 2 (sign ++ r ++ "\n")) (s.withPort 2 p) with ports := s.ports }
    | none => s

end State

/-- What can still be done from within a command: perform other commands, expand words and start programs. Every use
costs one of the calls that may stand inside each other, so that no script calls itself without end. -/
structure Reach where
  perform : Frame → Command → State → State
  expand : Frame → (divides isLoose : Bool) → Word → State → List Bit × State
  start : String → Path → List String → Desk → Except Errno (Exit × Desk)

def roundLimit : Nat := 1000000

namespace Reach

def lines (r : Reach) (f : Frame) (first : Nat) (text : List Char) : Nat → List Token → State → State
  | 0, _, s => s
  | fuel + 1, ts, s =>
    if !s.flow.isRunning then s
    else
      let ts := if s.aliases.isEmpty || f.isRich then ts else aliased f.dialect s.aliases (ts.length + 1) none (skipNewlines ts)
      match nextLine f.dialect ts with
      | .ok none => s
      | .ok (some (c, rest)) =>
        lines r f first text fuel rest (if s.has "noexec" then s else r.perform f c s)
      | .error m => s.misread f first text m

def evaluate (r : Reach) (f : Frame) (line : Nat) (text : List Char) (s : State) : State :=
  let ts := tokens f.dialect line text
  match nextLine f.dialect ts with
  | .ok none => { s with status := 0 }
  | _ => r.lines f line text (text.length + 1) ts s

def conclude (r : Reach) (f : Frame) (s : State) : Exit × State :=
  let exit := match s.flow with
    | .ended e => e
    | _ => .code (s.status % 256)
  match exit, s.traps.lookup 0 with
  | .code n, some action =>
    let f := { f with loops := 0, tested := false, before := some n }
    let s := r.evaluate f 1 action { s with flow := .running, status := n, traps := s.traps.filter (·.1 ≠ 0) }
    match s.flow with
    | .ended e => (e, s)
    | _ => (exit, s)
  | _, _ => (exit, s)

def whole (r : Reach) (f : Frame) (isAssignment : Bool) (w : Word) (s : State) : Marked × State :=
  let (bits, s) := r.expand f false false (tildes s f isAssignment true w) s
  (Fields.whole bits, s)

def words (r : Reach) (f : Frame) (ws : List Word) (s : State) : List String × State :=
  let ws := if f.isRich then ws.flatMap fun w => braces 8 w else ws
  let (back, s) := ws.foldl (fun (acc : List (List String) × State) w =>
    if !acc.2.flow.isRunning then acc
    else
      let (bits, s) := r.expand f true false (tildes acc.2 f false true w) acc.2
      let fields := Fields.of s.gaps bits
      let found := fields.map fun m => if s.has "noglob" then [m.text] else paths f.isRich s.desk m
      (found.flatten :: acc.1, s)) ([], s)
  (back.reverse.flatten, s)

def spelled (r : Reach) (f : Frame) (text : List Char) (s : State) : List Char × State :=
  let w : Word := (((doubled .last (text.length + 1) text).map (·.1)).toOption).getD []
  let (cs, s) := r.whole f false w s
  (cs.map (·.1), s)

def number (r : Reach) (f : Frame) (text : List Char) (s : State) : State :=
  if (Arithmetic.skip text).isEmpty then { s with status := 1 }
  else
    let (cs, s) := r.spelled f text s
    match Builtin.calculate s f cs with
    | .ok (n, s) => { s with status := if n = 0 then 1 else 0 }
    | .error e => s.refuse f 1 ("((: " ++ e)

end Reach

end Provision.Shell
