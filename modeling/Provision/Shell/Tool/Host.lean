import Provision.Shell.Lookup
import Provision.Shell.Tool.Lines

set_option autoImplicit false

namespace Provision.Shell.Tool

def succeed : Tool := fun _ d => (0, d)
def fail : Tool := fun _ d => (1, d)

def constant (name line : String) : Tool := withOptions name {} fun g d =>
  match g.operands with
  | [] => (0, d.say (line ++ "\n"))
  | extra :: _ => misused name ("extra operand " ++ quoted extra) d

def uname : Tool := withOptions "uname" { flags := "asnrvmpio", words := ["all", "kernel-name", "nodename", "kernel-release", "machine",
    "operating-system"] } fun g d =>
  let all := g.has ["a", "all"]
  let parts : List (List String × String) :=
    [(["s", "kernel-name"], "Linux"), (["n", "nodename"], "localhost"), (["r", "kernel-release"], "6.1.0"), (["v"], "#1 SMP"),
     (["m", "machine"], "x86_64"), (["o", "operating-system"], "GNU/Linux")]
  let asked := parts.filter fun p => all || g.has p.1
  if !g.operands.isEmpty then misused "uname" ("extra operand " ++ quoted (g.operands.headD "")) d
  else (0, d.say (" ".intercalate ((if g.options.isEmpty then parts.take 1 else asked).map (·.2)) ++ "\n"))

def id : Tool := withOptions "id" { flags := "ugGnr", words := ["user", "group", "groups", "name"] } fun g d =>
  match g.operands.find? (· ≠ "root") with
  | some other => (1, d.complain ("id: " ++ quoted other ++ ": no such user"))
  | none =>
  if g.has ["u", "g", "G", "user", "group", "groups"] then (0, d.say (if g.has ["n", "name"] then "root\n" else "0\n"))
  else (0, d.say "uid=0(root) gid=0(root) groups=0(root)\n")

def sleep : Tool := fun args d =>
  let isTime (s : String) : Bool :=
    let cs := s.toList
    let cs := if cs.getLast?.any fun c => "smhd".toList.contains c then cs.dropLast else cs
    String.ofList cs = "infinity" || ((decimal? (String.ofList cs)).isSome && !s.startsWith "-")
  if args.isEmpty then misused "sleep" "missing operand" d
  else match args.filter fun a => !isTime a with
    | [] => (0, d)
    | bad =>
      let d := bad.foldl (fun d a => d.complain ("sleep: invalid time interval " ++ quoted a)) d
      (1, d.complain "Try 'sleep --help' for more information.")

def printenv : Tool := fun args d =>
  match args with
  | [] => (0, d.env.foldl (fun d v => d.say (v.1 ++ "=" ++ v.2 ++ "\n")) d)
  | names => names.foldl (fun (code, d) name => match d.env.lookup name with
    | some v => (code, d.say (v ++ "\n"))
    | none => (1, d)) (0, d)

def which : Tool := withOptions "which" { flags := "as" } fun g d =>
  g.operands.foldl (fun (code, d) a =>
    match located d ((d.env.lookup "PATH").getD "") a with
    | some p => (code, if g.has ["s"] then d else d.say (p.text ++ "\n"))
    | none => (1, d)) (if g.operands.isEmpty then 1 else 0, d)

def getconf : Tool := fun args d =>
  match args with
  | ["LONG_BIT"] => (0, d.say "64\n")
  | ["PATH"] => (0, d.say "/bin:/usr/bin\n")
  | ["PAGESIZE"] | ["PAGE_SIZE"] => (0, d.say "4096\n")
  | [name] => (2, d.complain ("getconf: Unrecognized variable \x60" ++ name ++ apostrophe))
  | _ => (2, d.complain "Usage: getconf [-v specification] variable_name [pathname]")

end Provision.Shell.Tool
