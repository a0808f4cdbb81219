import Provision.Shell.Invocation
import Provision.Shell.Perform

/-!
Running shell scripts and other programs.
-/

set_option autoImplicit false

namespace Provision.Shell

namespace Reach

def wrap (r : Reach) (who program : String) (args : List String) (d : Desk) : Exit × Desk :=
  match r.launch "/bin/sh" d.env.searchPath program args d with
  | .ok found => found
  | .error e =>
    let verb := if who = "env" then "" else "failed to run command "
    (.code (if e = .missing || e = .notDir then 127 else 126), d.complain (who ++ ": " ++ verb ++ Tool.quoted program ++ ": " ++ e.wording))

/-- Runs the text of a script to its end, and then what it wants to be run at its end. -/
def script (r : Reach) (k : Dialect) (options : List String) (name : String) (args : List String) (text : List Char) (d : Desk) :
    Exit × Desk :=
  let vars : List Variable := d.env.filterMap fun v =>
    if isName v.1.toList && v.1 ≠ "IFS" then some ⟨v.1.toList, .text v.2.toList, true, false, false⟩ else none
  let f : Frame := ⟨name, name, k, false, 0, 0, "", none⟩
  let s : State :=
    { desk := d, args := args, vars := vars, scopes := [], functions := [], aliases := [], status := 0, inner := none,
      outcomes := [], line := 1, options := options, traps := [], ports := [(0, .basin 0), (1, .out), (2, .err)],
      basins := [⟨0, d.input, d.isFile⟩], next := 1, jobs := [], lastJob := none, optionPos := 0, flow := .running }
  let s := (s.assign "OPTIND".toList ['1']).assign "IFS".toList [' ', '\t', '\n']
  let s := s.keep ⟨"PWD".toList, .text (Builtin.here s), true, false, false⟩
  let (e, s) := r.conclude f (r.lines f 1 text (text.length + 1) (tokens k 1 text) s)
  let rest := ((s.basins.find? (·.number = 0)).map (·.data)).getD ByteArray.empty
  (e, { s.desk with input := rest, env := d.env })

def shell (r : Reach) (k : Dialect) (name : String) (args : List String) (d : Desk) : Exit × Desk :=
  let place := if k.isRich then name ++ ": " else name ++ ": 0: "
  match Invocation.sorted k (args.length + 1) args ⟨[], false, false, []⟩ with
  | .error bad =>
    (.code 2, d.complain (place ++ (if k.isRich then bad ++ ": invalid option" else "Illegal option " ++ bad)))
  | .ok v =>
    match v.isText, v.operands with
    | true, [] =>
      (.code 2, d.complain (place ++ (if k.isRich then "-c: option requires an argument" else "-c requires an argument")))
    | true, text :: rest => r.script k v.options (rest.headD name) (rest.drop 1) text.toList d
    | false, operands =>
      match (if v.isInput then [] else operands) with
      | [] => r.script k v.options name operands (Utf8.lossy d.input).toList { d with input := ByteArray.empty }
      | file :: rest =>
        match d.disk.read d.cwd file with
        | .ok data => r.script k v.options file rest (Utf8.lossy data).toList d
        | .error e =>
          if k.isRich then (.code (if e.isMissing then 127 else 126), d.complain (place ++ file ++ ": " ++ Tool.wording e))
          else
            let why := if e.isMissing then "No such file" else Tool.wording e
            (.code 2, d.complain (place ++ "cannot open " ++ file ++ ": " ++ why))

/-- Prints the variables of a program, or starts another program with other variables. -/
def env (r : Reach) (args : List String) (d : Desk) : Exit × Desk :=
  match d.env.asked (args.length + 40) args with
  | .error problem => let (code, d) := Tool.misusedAs 125 "env" problem d; (.code code, d)
  | .ok (env, []) => (.code 0, env.foldl (fun d v => d.say (v.1 ++ "=" ++ v.2 ++ "\n")) d)
  | .ok (env, program :: rest) => r.wrap "env" program rest { d with env := env }

def tool (r : Reach) (tool name : String) (args : List String) (d : Desk) : Exit × Desk :=
  match tool with
  | "sh" => r.shell .plain name args d
  | "bash" => r.shell .rich name args d
  | "env" => r.env args d
  | _ =>
    match wrappers.lookup tool, Tool.starters.lookup tool with
    | some front, _ =>
      match wrapped front args with
      | program :: rest => r.wrap tool program rest d
      | [] => let (code, d) := Tool.misusedAs 125 tool "missing operand" d; (.code code, d)
    | none, some t =>
      let (code, d) := t (fun program args d => r.launch "/bin/sh" d.env.searchPath program args d) args d
      (.code code, d)
    | none, none =>
      let (code, d) := Tool.ofName tool args d
      (.code code, d)

def started (r : Reach) (name : String) (file : Path) (args : List String) (d : Desk) : Except Errno (Exit × Desk) :=
  match d.disk.find d.cwd file with
  | .error (.os e) => .error e
  | .error _ => .error .invalid
  | .ok (_, .tool t) => .ok (r.tool t name args d)
  | .ok (_, .file _ mode data) =>
    if mode &&& 0o111 = 0 then .error .denied
    else match interpreter? data with
      | some (program, extra) => r.start program program (extra ++ file.text :: args) d
      | none => .error .badFormat
  | .ok _ => .error .denied

def none_ : Reach :=
  ⟨fun _ _ s => s.finish (.code 2), fun _ _ _ _ s => ([], s.finish (.code 2)), fun _ _ _ _ => .error .loop⟩

def ofDepth : Nat → Reach
  | 0 => none_
  | n + 1 =>
    { perform := fun f c s => (ofDepth n).performed f c s
      expand := fun f divides isLoose w s => (ofDepth n).pieces f divides isLoose w s
      start := fun name file args d => (ofDepth n).started name file args d }

end Reach

def depthLimit : Nat := 4000

/-- Runs a program: the first file that can be started of those that its name may stand for. -/
def run (searchPath name : String) (args : List String) (d : Desk) : Except Errno (Exit × Desk) :=
  Reach.startFirst (fun file => (Reach.ofDepth depthLimit).start name file args d) (candidates searchPath name) .missing

end Provision.Shell
