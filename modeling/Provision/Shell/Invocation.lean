import Provision.Shell.State

set_option autoImplicit false

namespace Provision.Shell

structure Invocation where
  /-- Names of the options that are on. -/
  options : List String
  /-- The first operand is the script itself. -/
  isText : Bool
  isInput : Bool
  operands : List String

def Invocation.sorted (d : Dialect) : Nat → List String → Invocation → Except String Invocation
  | 0, _, v => .ok v
  | _, [], v => .ok v
  | fuel + 1, a :: rest, v =>
    match a.toList with
    | ['-'] | ['-', '-'] => .ok { v with operands := rest }
    | sign :: first :: more =>
      if sign ≠ '-' && sign ≠ '+' then .ok { v with operands := a :: rest }
      else if d.isRich && first = '-' then Invocation.sorted d fuel rest v
      else
        let letters := first :: more
        let isKnown (c : Char) : Bool :=
          c = 'c' || c = 's' || c = 'o' || c = 'l' || (optionNames.lookup c).isSome || (d.isRich && "hkptBEHPTrO".toList.contains c)
        match letters.find? fun c => !isKnown c with
        | some bad => .error (String.ofList [sign, bad])
        | none =>
          let names := (letters.filter (· ≠ 's')).filterMap fun c => optionNames.lookup c
          let v := { v with
            options := if sign = '-' then names.reverse ++ v.options else v.options.filter fun o => !names.contains o
            isText := v.isText || letters.contains 'c'
            isInput := v.isInput || letters.contains 's' }
          if letters.contains 'o' then
            match rest with
            | name :: rest =>
              Invocation.sorted d fuel rest
                { v with options := if sign = '-' then name :: v.options else v.options.filter (· ≠ name) }
            | [] => .ok v
          else Invocation.sorted d fuel rest v
    | _ => .ok { v with operands := a :: rest }

/-- Divides a text into words at blanks; quotes hide blanks, and a backslash hides what follows it. -/
def splitWords : Nat → Option Char → Option (List Char) → List Char → List String
  | 0, _, now, _ => (now.map fun cs => String.ofList cs.reverse).toList
  | _, _, now, [] => (now.map fun cs => String.ofList cs.reverse).toList
  | fuel + 1, quote, now, '\\' :: c :: rest =>
    if quote = some apostrophe && c ≠ apostrophe && c ≠ '\\' then splitWords fuel quote (some (c :: '\\' :: now.getD [])) rest
    else
      let cs := match c with
        | 'n' => ['\n']
        | 't' => ['\t']
        | '_' => [' ']
        | c => [c]
      if c = '_' && quote = none then (now.map fun cs => String.ofList cs.reverse).toList ++ splitWords fuel none none rest
      else splitWords fuel quote (some (cs ++ now.getD [])) rest
  | fuel + 1, quote, now, c :: rest =>
    if quote = some c then splitWords fuel none (some (now.getD [])) rest
    else if quote.isNone && (c = '"' || c = apostrophe) then splitWords fuel (some c) (some (now.getD [])) rest
    else if quote.isNone && (c = ' ' || c = '\t' || c = '\n') then
      (now.map fun cs => String.ofList cs.reverse).toList ++ splitWords fuel none none rest
    else splitWords fuel quote (some (c :: now.getD [])) rest

namespace Env

def set (env : Env) (name value : String) : Env :=
  if env.any (·.1 = name) then env.map fun v => if v.1 = name then (name, value) else v else env ++ [(name, value)]

def searchPath (env : Env) : String := (env.lookup "PATH").getD "/bin:/usr/bin"

def asked : Nat → Env → List String → Except String (Env × List String)
  | 0, env, args => .ok (env, args)
  | _, env, [] => .ok (env, [])
  | fuel + 1, env, a :: rest =>
    let split (text : List Char) : List String := splitWords (text.length + 1) none none text
    let without (name : String) : Env := env.filter (·.1 ≠ name)
    match a.toList with
    | ['-'] => asked fuel [] rest
    | ['-', '-'] => .ok (given env rest)
    | '-' :: '-' :: word =>
      let name := word.takeWhile (· ≠ '=')
      let value := word.drop (name.length + 1)
      match String.ofList name with
      | "ignore-environment" => asked fuel [] rest
      | "unset" => if value.isEmpty then asked fuel (without (rest.headD "")) (rest.drop 1) else asked fuel (without (String.ofList value)) rest
      | "split-string" => asked fuel env (split value ++ rest)
      | _ => .error ("unrecognized option " ++ Tool.quoted a)
    | '-' :: c :: cs =>
      let others := if cs.isEmpty then rest else String.ofList ('-' :: cs) :: rest
      let value := if cs.isEmpty then (rest.headD "").toList else cs
      let after := if cs.isEmpty then rest.drop 1 else rest
      if c = 'i' then asked fuel [] others
      else if c = 'v' || c = '0' then asked fuel env others
      else if (c = 'u' || c = 'S' || c = 'C') && cs.isEmpty && rest.isEmpty then
        .error ("option requires an argument -- " ++ Tool.quoted (String.singleton c))
      else if c = 'u' then asked fuel (without (String.ofList value)) after
      else if c = 'C' then asked fuel env after
      else if c = 'S' then asked fuel env (split value ++ after)
      else .error ("invalid option -- " ++ Tool.quoted (String.singleton c))
    | _ => .ok (given env (a :: rest))
where
  /-- Takes the values that stand in front of the command. -/
  given (env : Env) (words : List String) : Env × List String :=
    let values := words.takeWhile fun w => w.contains '='
    (values.foldl (fun env w =>
      let name := w.toList.takeWhile (· ≠ '=')
      env.set (String.ofList name) (String.ofList (w.toList.drop (name.length + 1)))) env, words.drop values.length)

end Env

/-- Programs that start another one, with how many words stand in front of its name. -/
def wrappers : List (String × Nat) := [("nohup", 0), ("nice", 0), ("setsid", 0), ("stdbuf", 0), ("ionice", 0), ("timeout", 1)]

def wrapped (front : Nat) (args : List String) : List String := (args.dropWhile fun a => a.startsWith "-").drop front

end Provision.Shell
