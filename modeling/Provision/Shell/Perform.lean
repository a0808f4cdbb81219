import Provision.Shell.Call
import Provision.Shell.Condition

set_option autoImplicit false

namespace Provision.Shell

def rounds (wanted : Bool) (test body : State → State) : Nat → Nat → State → State
  | 0, _, s => s.finish (.code 2)
  | fuel + 1, last, s =>
    let s := test s
    match s.flow with
    | .running =>
      if (s.status = 0) = wanted then
        let s := body s
        let s := { s with flow := s.flow.afterRound }
        if s.flow.isRunning then rounds wanted test body fuel s.status s else { s with flow := s.flow.afterLoop }
      else { s with status := last }
    | flow =>
      let flow := flow.afterRound
      if flow.isRunning then rounds wanted test body fuel last { s with flow := flow }
      else { s with flow := flow.afterLoop }

def countedRounds (test step body : State → State) : Nat → Nat → State → State
  | 0, _, s => s.finish (.code 2)
  | fuel + 1, last, s =>
    let s := test s
    if !s.flow.isRunning then s
    else if s.status ≠ 0 then { s with status := last }
    else
      let s := body s
      let s := { s with flow := s.flow.afterRound }
      if s.flow.isRunning then countedRounds test step body fuel s.status (step s) else { s with flow := s.flow.afterLoop }

/-- One arm of a choice: its body runs if it was hit, and then the next one if it goes on; else the others follow. -/
def arm (isHit goesOn isEmpty : Bool) (body next others : State → State) (s : State) : State :=
  if !s.flow.isRunning then s
  else if isHit then
    let s := if isEmpty then { s with status := 0 } else body s
    if goesOn && s.flow.isRunning then next s else s
  else others s

def Command.isNothing : Command → Bool
  | .nothing => true
  | _ => false

namespace Reach

def fitsAny (r : Reach) (f : Frame) (text : List Char) : List Word → State → Bool × State
  | [], s => (false, s)
  | w :: ws, s =>
    let (ps, s) := r.pattern f w s
    if !s.flow.isRunning then (false, s)
    else if Glob.fits ps text then (true, s)
    else r.fitsAny f text ws s

def subshell (r : Reach) (f : Frame) (run : State → State) (s : State) : Exit × State := r.conclude f (run s.entered)

/-- Runs what stands on both sides of a pipe; what the left side writes is the input of the right side. -/
def pipe (r : Reach) (f : Frame) (errors isLast : Bool) (left right : State → State) (s : State) : State :=
  let (n, s1) := s.basin ByteArray.empty false
  let source := s1.withPort 1 (.basin n)
  let source := if errors then source.withPort 2 (.basin n) else source
  let (e, s') := r.subshell f left source
  let s2 := s1.after s' e
  let (e', s') := r.subshell f right (s2.withPort 0 (.basin n))
  ({ s.after s' e' with
    outcomes := status e :: (if isLast then [status e'] else s'.outcomes)
    status := if s.has "pipefail" && status e' = 0 then status e else status e' }).strictly f

def background (r : Reach) (f : Frame) (run : State → State) (s : State) : State :=
  let (e, s') := r.subshell f run (s.withPort 0 (.file (.device .null)))
  let s := s.after s' e
  let id := 1000 + s.jobs.length
  { s with jobs := (id, s.status) :: s.jobs, lastJob := some id, status := 0 }

def each (f : Frame) (name : List Char) (words : List String) (body : State → State) (s : State) : State :=
  let s := words.foldl (fun s w =>
    if !s.flow.isRunning then s
    else if s.isFixed name then s.abort f (fixedText f name)
    else
      let s := body (s.assign name w.toList)
      { s with flow := s.flow.afterRound }) (if words.isEmpty then { s with status := 0 } else s)
  { s with flow := s.flow.afterLoop }

mutual

def performed (r : Reach) (f : Frame) : Command → State → State
  | .nothing, s => s
  | .seq a b, s => if s.flow.isRunning then r.performed f b (r.performed f a s) else s
  | .andThen a b, s =>
    if !s.flow.isRunning then s
    else
      let s := r.performed { f with tested := true } a s
      if s.status = 0 then r.performed f b s else s
  | .orElse a b, s =>
    if !s.flow.isRunning then s
    else
      let s := r.performed { f with tested := true } a s
      if s.status = 0 then s else r.performed f b s
  | .negate a, s =>
    if !s.flow.isRunning then s
    else
      let s := r.performed { f with tested := true } a s
      if s.flow.isRunning then { s with status := if s.status = 0 then 1 else 0 } else s
  | .cond test yes no, s =>
    if !s.flow.isRunning then s
    else
      let s := r.performed { f with tested := true } test s
      if !s.flow.isRunning then s
      else if s.status = 0 then r.performed f yes s
      else if no.isNothing then { s with status := 0 }
      else r.performed f no s
  | .loop wanted test body, s =>
    if !s.flow.isRunning then s
    else
      let inside := { f with loops := f.loops + 1 }
      rounds wanted (r.performed { inside with tested := true } test) (r.performed inside body) roundLimit 0 s
  | .each name items body line, s =>
    if !s.flow.isRunning then s
    else
      let (words, s) := r.words f items { s with line := line }
      each f name words (r.performed { f with loops := f.loops + 1 } body) s
  | .count first test step body, s =>
    if !s.flow.isRunning then s
    else
      let s := r.number f first s
      let test := if (Arithmetic.skip test).isEmpty then ['1'] else test
      countedRounds (r.number f test) (r.number f step) (r.performed { f with loops := f.loops + 1 } body) roundLimit 0 s
  | .choice subject patterns body falls rest line, s =>
    if !s.flow.isRunning then s
    else
      let (text, s) := r.text f subject { s with line := line }
      let (isHit, s) := r.fitsAny f text patterns s
      arm isHit falls body.isNothing (r.performed f body) (r.chosen f text true rest) (r.chosen f text false rest) s
  | .define name body, s =>
    if !s.flow.isRunning then s
    else { s with functions := (name, body) :: s.functions.filter (·.1 ≠ name), status := 0 }
  | .subshell a, s =>
    if !s.flow.isRunning then s
    else
      let (e, s') := r.subshell f (r.performed f a) s
      (s.after s' e).strictly f
  | .background a, s =>
    if !s.flow.isRunning then s
    else
      let f := { f with tested := false }
      r.background f (r.performed f a) s
  | .pipe a b errors, s =>
    if !s.flow.isRunning then s
    else
      let isLast : Bool := match b with
        | .pipe _ _ _ => false
        | _ => true
      r.pipe f errors isLast (r.performed f a) (r.performed f b) s
  | .redirected a rs line, s =>
    if !s.flow.isRunning then s
    else
      let s := { s with line := line }
      match r.redirectAll f rs s with
      | (false, s') => s.unredirected { s' with status := if f.isRich then 1 else 2 } rs
      | (true, s') => s.unredirected (r.performed f a s') rs
  | .check c line, s =>
    if !s.flow.isRunning then s
    else
      let (yes, s) := r.judge f c { s with line := line }
      ({ s with status := if yes then 0 else 1 }).strictly f
  | .sum e line, s => if s.flow.isRunning then (r.number f e { s with line := line }).strictly f else s
  | .simple words rs line, s => if s.flow.isRunning && !s.has "noexec" then r.simple f words rs { s with line := line } else s

def chosen (r : Reach) (f : Frame) (text : List Char) (falls : Bool) : Command → State → State
  | .choice _ patterns body goesOn rest _, s =>
    let (isHit, s) := if falls then (true, s) else r.fitsAny f text patterns s
    arm isHit goesOn body.isNothing (r.performed f body) (r.chosen f text true rest) (r.chosen f text false rest) s
  | _, s => if falls then s else { s with status := 0 }

end

end Reach

end Provision.Shell
