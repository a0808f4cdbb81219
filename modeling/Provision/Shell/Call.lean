import Provision.Shell.Expand
import Provision.Shell.Redirection

set_option autoImplicit false

namespace Provision.Shell

def keyed? (w : Word) : Option (Word × Word) :=
  let isInside : Piece → Bool
    | .text [']'] false => false
    | _ => true
  match w with
  | .text ['['] false :: rest =>
    match rest.dropWhile isInside with
    | _ :: .text ['='] false :: value => some (rest.takeWhile isInside, value)
    | _ => none
  | _ => none

def isHarmless (n : Nat) : Bool := n = 0 || n = 17 || n = 18 || n = 23 || n = 28

def isDeclaring (d : Dialect) (name : String) : Bool :=
  ["export", "readonly", "local"].contains name || (d.isRich && ["declare", "typeset"].contains name)

namespace Reach

/-! Assignments. -/

def giveList (r : Reach) (f : Frame) (name : List Char) (adds : Bool) (text : List Char) (s : State) : State :=
  let words := (tokens f.dialect s.line text).filterMap fun
    | .word w _ => some w
    | _ => none
  let isTable : Bool := match (s.bound name).value with
    | .table _ => true
    | _ => false
  let old : List (Nat × List Char) := match adds, (s.bound name).value with
    | true, .list items => items
    | true, .text cs => [(0, cs)]
    | _, _ => []
  let start := ((old.map (·.1)).foldl max 0) + (if old.isEmpty then 0 else 1)
  let s := if isTable then (if adds then s else s.put name (.table [])) else s.put name (.list old)
  (words.foldl (fun (acc : Nat × State) w =>
    match keyed? w with
    | some (key, value) =>
      let (cs, s) := r.text f value acc.2
      let (place, s) := r.text f key s
      if isTable then (acc.1, s.assignKey name place cs)
      else
        let n := ((Builtin.calculate s f place).toOption.map (·.1.toNat)).getD 0
        (n + 1, s.assignAt name n cs)
    | none =>
      let (vs, s) := r.words f [w] acc.2
      vs.foldl (fun (acc : Nat × State) v => (acc.1 + 1, acc.2.assignAt name acc.1 v.toList)) (acc.1, s)) (start, s)).2

def giveItem (r : Reach) (f : Frame) (name index : List Char) (adds : Bool) (text : List Char) (s : State) : State :=
  let (key, s) := r.text f (wordIn f s.line true index) s
  match (s.bound name).value with
  | .table items => s.assignKey name key (if adds then (items.lookup key).getD [] ++ text else text)
  | _ =>
    match Builtin.calculate s f key with
    | .ok (n, s) => s.assignAt name n.toNat (if adds then (s.item? f name n).getD [] ++ text else text)
    | .error e => s.refuse f 1 e

def give (r : Reach) (f : Frame) (a : Assignment) (s : State) : State :=
  if !s.flow.isRunning then s
  else if s.isFixed a.name then s.abort f (fixedText f a.name)
  else match a.value with
  | [.list text] => r.giveList f a.name a.adds text s
  | value =>
    let (cs, s) := r.whole f true value s
    let text := cs.map (·.1)
    if !s.flow.isRunning then s
    else match a.index with
      | some index => r.giveItem f a.name index a.adds text s
      | none =>
        let v := s.bound a.name
        let old := (State.textOf v.value).getD []
        if v.numeric then
          match Builtin.calculate s f (if a.adds then old ++ ['+'] ++ text else text) with
          | .ok (n, s) => s.assign a.name (toString n).toList
          | .error e => s.refuse f 1 e
        else s.assign a.name (if a.adds then old ++ text else text)

def arguments (r : Reach) (f : Frame) : List Word → State → List String × State
  | [], s => ([], s)
  | w :: rest, s =>
    let (first, s) := r.words f [w] s
    match first with
    | [] => r.arguments f rest s
    | name :: _ =>
      if isDeclaring f.dialect name then
        rest.foldl (fun (acc : List String × State) w =>
          match assignment? f.dialect w with
          | some a =>
            match a.value with
            | [.list _] => (acc.1 ++ [String.ofList a.name], acc.2)
            | value =>
              let (cs, s) := r.whole f true value acc.2
              (acc.1 ++ [String.ofList a.name ++ (if a.adds then "+=" else "=") ++ cs.text], s)
          | none =>
            let (ws, s) := r.words f [w] acc.2
            (acc.1 ++ ws, s)) (first, s)
      else
        let (more, s) := r.words f rest s
        (first ++ more, s)

/-! Programs. -/

def startFirst (start : Path → Except Errno (Exit × Desk)) : List Path → Errno → Except Errno (Exit × Desk)
  | [], e => .error e
  | file :: files, e =>
    match start file with
    | .ok r => .ok r
    | .error e' =>
      if e' = .denied then startFirst start files .denied
      else if e' = .missing || e' = .notDir then startFirst start files e
      else .error e'

/-- Starts a program by its name; a file that says nothing of its interpreter is a script. -/
def launch (r : Reach) (shell searchPath name : String) (args : List String) (d : Desk) : Except Errno (Exit × Desk) :=
  match startFirst (fun file => r.start name file args d) (candidates searchPath name) .missing with
  | .error .badFormat =>
    match located d searchPath name with
    | some file => r.start "sh" shell (file.text :: args) d
    | none => .error .badFormat
  | found => found

def external (r : Reach) (f : Frame) (name : String) (args : List String) (s : State) : Exit × State :=
  match r.launch (if f.isRich then "/bin/bash" else "/bin/sh") s.searchPath name args s.lent with
  | .ok (e, d) => s.absorb name d e
  | .error e => s.unstarted f name e

def run (r : Reach) (f : Frame) (name : String) (args : List String) (s : State) : State :=
  let (e, s) := r.external f name args s
  let s := match e with
    | .signal n => if f.isRich then s else s.tell 2 (obituary n)
    | _ => s
  { s with status := status e }

/-! Commands of the shell itself that end it, that send signals or that run other commands. -/

def outcome? (f : Frame) (word : String) : Option Int :=
  (Tool.integer? word).filter fun n => f.isRich || (0 ≤ n && n ≤ 2147483647)

def exit (f : Frame) (args : List String) (s : State) : State :=
  match args with
  | [] => s.finish (.code ((f.before.getD s.status) % 256))
  | a :: _ =>
    match outcome? f a with
    | some n => s.finish (.code (n % 256).toNat)
    | none =>
      if f.isRich then (s.complain f ("exit: " ++ a ++ ": numeric argument required")).finish (.code 2)
      else s.abort f ("exit: Illegal number: " ++ a)

def return_ (f : Frame) (args : List String) (s : State) : State :=
  if f.isRich && f.calls = 0 then s.refuse f 2 "return: can only \x60return' from a function or sourced script"
  else match args with
    | [] => { s with flow := .returning }
    | a :: _ =>
      match outcome? f a with
      | some n => { s with status := if f.isRich then (n % 256).toNat else n.toNat, flow := .returning }
      | none =>
        if f.isRich then { s.refuse f 2 ("return: " ++ a ++ ": numeric argument required") with flow := .returning }
        else s.abort f ("return: Illegal number: " ++ a)

def leave (f : Frame) (name : String) (args : List String) (s : State) : State :=
  if f.isRich && f.loops = 0 then
    { s.complain f (name ++ ": only meaningful in a \x60for', \x60while', or \x60until' loop") with status := 0 }
  else
    let word := args.headD "1"
    match (Tool.natural? word).filter (· > 0) with
    | some n =>
      if f.loops = 0 then { s with status := 0 }
      else { s with status := 0, flow := .leaving (min n f.loops) (name = "continue") }
    | none =>
      if !f.isRich then s.abort f (name ++ ": Illegal number: " ++ word)
      else if (Tool.integer? word).isSome then
        { s.refuse f 1 (name ++ ": " ++ word ++ ": loop count out of range") with flow := .leaving f.loops false }
      else (s.complain f (name ++ ": " ++ word ++ ": numeric argument required")).finish (.code 128)

def receive (r : Reach) (f : Frame) (n : Nat) (s : State) : State :=
  match s.traps.lookup n with
  | some action =>
    if n = 9 then s.finish (.signal 9)
    else if action.isEmpty then { s with status := 0 }
    else
      let s := r.evaluate { f with before := some s.status } 1 action { s with status := 0 }
      if s.flow.isRunning then { s with status := 0 } else s
  | none => if isHarmless n then { s with status := 0 } else s.finish (.signal n)

def send (r : Reach) (f : Frame) (n : Nat) (s : State) (target : String) : State :=
  if !s.flow.isRunning then s
  else if target = "1" then r.receive f n s
  else if target.startsWith "%" || ((Tool.natural? target).any fun k => (s.jobs.lookup k).isSome) then { s with status := 0 }
  else if (Tool.integer? target).isSome then
    if f.isRich then s.refuse f 1 ("kill: (" ++ target ++ ") - No such process")
    else { (s.complain f "kill: No such process").tell 2 "\n" with status := 1 }
  else if f.isRich then s.refuse f 1 ("kill: " ++ target ++ ": arguments must be process or job IDs")
  else s.refuse f 2 ("kill: Illegal number: " ++ target)

def signalInfo (f : Frame) (s : State) (word : String) : State :=
  match Tool.natural? word, f.isRich, signal? word with
  | some n, _, _ => s.say f "kill" (Builtin.signalName (n % 128) ++ "\n")
  | none, true, some n => s.say f "kill" (toString n ++ "\n")
  | none, true, none => s.refuse f 1 ("kill: " ++ word ++ ": invalid signal specification")
  | none, false, _ => s.refuse f 2 ("kill: Illegal number: " ++ word)

def kill (r : Reach) (f : Frame) (args : List String) (s : State) : State :=
  let usage := if f.isRich then
      { s.tell 2 "kill: usage: kill [-s sigspec | -n signum | -sigspec] pid | jobspec ... or kill -l [sigspec]\n" with status := 2 }
    else s.refuse f 2 "kill: Usage: kill [-s sigspec | -signum | -sigspec] [pid | job]... or\nkill -l [exitstatus]"
  let s := { s with status := 0 }
  match args with
  | [] => usage
  | ["-l"] => s.say f "kill" (String.join ((signals.drop 1).map fun (name, _) => name ++ "\n"))
  | "-l" :: names => names.foldl (signalInfo f) s
  | a :: rest =>
    let (word, targets) := if a = "-s" || a = "-n" then (rest.headD "", rest.drop 1)
      else if a = "--" then ("TERM", rest)
      else if a.startsWith "-" then (String.ofList (a.toList.drop 1), rest)
      else ("TERM", args)
    let targets := if targets.head? = some "--" then targets.drop 1 else targets
    match signal? word with
    | none =>
      if f.isRich then s.refuse f 1 ("kill: " ++ word ++ ": invalid signal specification")
      else if a = "-s" then s.refuse f 2 ("kill: invalid signal number or name: " ++ word)
      else s.refuse f 2 ("kill: Illegal option -" ++ String.ofList (word.toList.take 1))
    | some n => if targets.isEmpty then usage else targets.foldl (r.send f n) s

def source (r : Reach) (f : Frame) (name : String) (args : List String) (s : State) : State :=
  let own := { f with within := "" }
  match args with
  | [] => if f.isRich then s.refuse own 2 (name ++ ": filename argument required") else s
  | file :: rest =>
    let isFile (p : Path) : Bool := match s.desk.disk.find s.desk.cwd p with
      | .ok (_, .file _ _ _) => true
      | _ => false
    let found := if file.contains '/' then some (Path.ofString file)
      else ((candidates s.searchPath file) ++ (if f.isRich then [Path.ofString file] else [])).find? isFile
    match found.map fun p => s.desk.disk.read s.desk.cwd p with
    | none => if f.isRich then s.refuse own 1 (file ++ ": No such file or directory") else s.abort own (".: " ++ file ++ ": not found")
    | some (.error e) =>
      if f.isRich then s.refuse own 1 (file ++ ": " ++ Tool.wording e)
      else s.abort own (".: cannot open " ++ file ++ ": " ++ (if e.isMissing then "No such file" else Tool.wording e))
    | some (.ok data) =>
      let inside := { f with calls := f.calls + 1, loops := 0, within := if f.isRich then "" else file ++ ": ",
                             title := if f.isRich then file else f.title }
      let changes := f.isRich && !rest.isEmpty
      let s' := r.evaluate inside 1 (Utf8.lossy data).toList (if changes then { s with args := rest } else s)
      { s' with flow := s'.flow.afterCall, line := s.line, args := if changes then s.args else s'.args }

def eval (r : Reach) (f : Frame) (args : List String) (s : State) : State :=
  let args := if args.head? = some "--" then args.drop 1 else args
  let text := (" ".intercalate args).toList
  { r.evaluate { f with within := "eval: " } (if f.isRich then s.line else 1) text s with line := s.line }

def exec (r : Reach) (f : Frame) (args : List String) (s : State) : State :=
  match (if args.head? = some "--" then args.drop 1 else args) with
  | [] => { s with status := 0 }
  | program :: rest =>
    let (e, s) := r.external { f with within := "exec: " } program rest s
    { s with traps := [], status := status e }.finish e

def builtin (r : Reach) (f : Frame) : Nat → String → List String → State → State
  | 0, _, _, s => s
  | fuel + 1, name, args, s =>
    let own := { f with within := "" }
    match name with
    | "exit" => exit own args s
    | "return" => return_ own args s
    | "break" | "continue" => leave own name args s
    | "kill" => r.kill own args s
    | "." => r.source f name args s
    | "eval" => r.eval f args s
    | "exec" => r.exec f args s
    | "command" =>
      match args with
      | "-v" :: names => Builtin.commandV s own true names
      | "-V" :: names => Builtin.commandV s own false names
      | "-p" :: program :: rest => r.builtin f fuel program rest s
      | "--" :: program :: rest => r.builtin f fuel program rest s
      | program :: rest => r.builtin f fuel program rest s
      | [] => { s with status := 0 }
    | _ =>
      match f.isRich, name, args with
      | true, "source", _ => r.source f name args s
      | true, "builtin", program :: rest =>
        if (builtins f.dialect).contains program then r.builtin f fuel program rest s
        else s.refuse own 1 ("builtin: " ++ program ++ ": not a shell builtin")
      | true, "builtin", [] => { s with status := 0 }
      | _, _, _ =>
        match Builtin.find? f.dialect name with
        | some b => b s own args
        | none => r.run f name args s

/-- Runs a command by name: one that the script defined, one of the shell's own, or a program. -/
def invoke (r : Reach) (f : Frame) (name : String) (args : List String) (s : State) : State :=
  match s.functions.lookup name.toList with
  | some body =>
    if f.calls ≥ 1000 && !f.isRich then s.abort f "Maximum function recursion depth (1000) reached"
    else
    let s' := r.perform { f with loops := 0, calls := f.calls + 1 } body { s with args := args, scopes := [] :: s.scopes }
    let s' := Builtin.leaveScope s'
    { s' with args := s.args, flow := s'.flow.afterCall }
  | none => r.builtin f (args.length + 1) name args s

def invokeWith (r : Reach) (f : Frame) (given : List Assignment) (name : String) (args : List String) (before s : State) : State :=
  let seen := given.foldl (fun (s : State) a => s.keep { s.bound a.name with exported := true }) s
  given.foldl (fun (s : State) a => match before.var? a.name with
    | some v => s.keep v
    | none => s.forget a.name) (r.invoke f name args seen)

def giveLists (r : Reach) (f : Frame) (words : List Word) (s : State) : State :=
  words.foldl (fun s w => match assignment? f.dialect w with
    | some a => match a.value with
      | [.list _] => r.give f a s
      | _ => s
    | none => s) s

def simple (r : Reach) (f : Frame) (words : List Word) (rs : List Redirect) (s : State) : State :=
  let given := (words.takeWhile fun w => (assignment? f.dialect w).isSome).filterMap (assignment? f.dialect)
  let words := words.drop given.length
  let (args, s1) := r.arguments f words { s with inner := none }
  let keepsGiven := !f.isRich && isSpecial (args.headD "")
  if !s1.flow.isRunning then s1
  else match r.redirectAll f rs s1 with
  | (false, s2) =>
    let s2 := s.unredirected { s2 with status := if f.isRich then 1 else 2 } rs
    if keepsGiven then s2.finish (.code 2) else s2.strictly f
  | (true, s2) =>
    let s3 := given.foldl (fun s a => r.give f a s) s2
    if !s3.flow.isRunning then s.unredirected s3 rs
    else
      let s3 := s3.traced s1 f given args
      let s4 := match args with
        | [] => { s3 with status := s3.inner.getD 0 }
        | name :: rest =>
          if keepsGiven || given.isEmpty then r.invoke f name rest s3 else r.invokeWith f given name rest s2 s3
      let s4 := if isDeclaring f.dialect (args.headD "") then r.giveLists f words s4 else s4
      let s5 := if args = ["exec"] then s4 else s.unredirected s4 rs
      ({ s5 with outcomes := [s5.status] }).strictly f

end Reach

end Provision.Shell
