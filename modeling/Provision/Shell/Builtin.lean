import Provision.Shell.State

set_option autoImplicit false

namespace Provision.Shell.Builtin

open State (textOf)

def badName (who word : String) : String :=
  who ++ ": " ++ Tool.graved word ++ ": not a valid identifier"

def ok (s : State) : State := { s with status := 0 }

/-! Sums. -/

def calculate (s : State) (f : Frame) (cs : List Char) : Except String (Int × State) :=
  let value (n : List Char) : List Char := (s.value? f n).getD []
  let item (n : List Char) (i : Int) : List Char := (s.item? f n i).getD []
  match Arithmetic.value f.dialect value item cs with
  | .ok (n, given) => .ok (n, given.foldr (fun (name, v) s => s.assign name (toString v).toList) s)
  | .error p => .error (if f.isRich then p.messageRich cs else p.message cs)

def let_ (s : State) (f : Frame) (args : List String) : State :=
  args.foldl (fun s a =>
    match calculate s f a.toList with
    | .ok (n, s) => { s with status := if n = 0 then 1 else 0 }
    | .error e => s.refuse f 1 ("let: " ++ e)) (ok s)

/-! Directories. -/

def normalized (p : List Char) : List Char :=
  let names := (Path.segments p).foldl (fun (back : List Name) n =>
    if n = [] || n = ['.'] then back else if n = ['.', '.'] then back.tail else n :: back) []
  '/' :: Path.joined names.reverse

def here (s : State) : List Char :=
  match s.text? "PWD" with
  | some p =>
    match s.desk.disk.resolve s.desk.cwd ⟨p⟩ with
    | .ok place => if place = s.desk.cwd && p.head? = some '/' then p else s.cwdText
    | .error _ => s.cwdText
  | none => s.cwdText

def cd (s : State) (f : Frame) (args : List String) : State :=
  let physical := args.head? = some "-P"
  let args := args.dropWhile fun a => a = "-L" || a = "-P" || a = "--"
  let target := match args.head? with
    | some "-" => (s.text? "OLDPWD").map String.ofList
    | some d => some d
    | none => (s.text? "HOME").map String.ofList
  match target with
  | none =>
    if args.isEmpty then (if f.isRich then s.refuse f 1 "cd: HOME not set" else ok s)
    else s.refuse f 1 (if f.isRich then "cd: OLDPWD not set" else "cd: OLDPWD not set")
  | some dir =>
    if f.isRich && args.length > 1 then s.refuse f 1 "cd: too many arguments"
    else if dir.isEmpty then ok s
    else
      let now := here s
      let logical := normalized (if dir.startsWith "/" then dir.toList else now ++ '/' :: dir.toList)
      match s.desk.disk.find s.desk.cwd dir with
      | .ok (place, .dir) =>
        let s : State := { s with desk := { s.desk with cwd := place }, status := 0 }
        let seen (s : State) (name : String) (value : List Char) : State :=
          let s := s.assign name.toList value
          s.keep { s.bound name.toList with exported := true }
        let s := seen (seen s "OLDPWD" now) "PWD" (if physical then s.cwdText else logical)
        if args.head? = some "-" then s.say f "cd" (String.ofList logical ++ "\n") else s
      | r =>
        if f.isRich then
          let why := match r with
            | .ok _ => Errno.notDir.wording
            | .error e => Tool.wording e
          s.refuse f 1 ("cd: " ++ dir ++ ": " ++ why)
        else s.refuse f 2 ("cd: can't cd to " ++ dir)

def pwd (s : State) (f : Frame) (args : List String) : State :=
  (ok s).say f "pwd" (String.ofList (if args.contains "-P" then s.cwdText else here s) ++ "\n")

/-! Input. -/

def unhidden : List Char → List (Char × Bool)
  | '\\' :: '\n' :: rest => unhidden rest
  | '\\' :: c :: rest => (c, true) :: unhidden rest
  | c :: rest => (c, false) :: unhidden rest
  | [] => []

def firstField (gaps : List Char) (cs : List (Char × Bool)) : List (Char × Bool) × List (Char × Bool) :=
  let isGap (c : Char × Bool) : Bool := !c.2 && gaps.contains c.1
  let isBlank (c : Char × Bool) : Bool := isGap c && (c.1 = ' ' || c.1 = '\t' || c.1 = '\n')
  let field := cs.takeWhile fun c => !isGap c
  let rest := (cs.drop field.length).dropWhile isBlank
  match rest with
  | c :: more => (field, if isGap c then more.dropWhile isBlank else rest)
  | [] => (field, [])

def distribute (s : State) (gaps : List Char) : List String → List (Char × Bool) → State
  | [], _ => s
  | [name], cs =>
    let isBlank (c : Char × Bool) : Bool := !c.2 && gaps.contains c.1 && (c.1 = ' ' || c.1 = '\t' || c.1 = '\n')
    let (field, rest) := firstField gaps cs
    let value := if rest.isEmpty then field else (cs.reverse.dropWhile isBlank).reverse
    s.assign name.toList (value.map (·.1))
  | name :: names, cs =>
    let (field, rest) := firstField gaps cs
    distribute (s.assign name.toList (field.map (·.1))) gaps names rest

def fieldsOf (gaps : List Char) : Nat → List (Char × Bool) → List (List Char)
  | 0, _ => []
  | fuel + 1, cs =>
    if cs.isEmpty then []
    else
      let (field, rest) := firstField gaps cs
      field.map (·.1) :: fieldsOf gaps fuel rest

def read (s : State) (f : Frame) (args : List String) : State :=
  let known : Tool.Options := if f.isRich then { flags := "rse", valued := "aputndN" } else { flags := "r", valued := "p" }
  match Tool.sortArgs known (args.length + 1) args with
  | .error e => s.refuse f 2 (if f.isRich then "read: " ++ e else "read: Illegal option " ++ ((args.find? (·.startsWith "-")).getD ""))
  | .ok g =>
    let names := g.operands
    if names.isEmpty && !f.isRich then s.refuse f 2 "read: arg count"
    else match names.find? fun n => !isName n.toList with
    | some bad => if f.isRich then s.refuse f 1 (badName "read" bad) else s.refuse f 2 ("read: " ++ bad ++ ": bad variable name")
    | none =>
      let fd := ((g.value? ["u"]).bind Tool.natural?).getD 0
      let stop : UInt8 := match g.value? ["d"] with
        | some d => (d.toUTF8.toList.head?).getD 0
        | none => 10
      let raw := g.has ["r"]
      let (line, isWhole, s) := match ((g.value? ["n", "N"]).bind Tool.natural?) with
        | some n =>
          let (data, _) := s.inputOf fd
          let part := (data.toList.take n).takeWhile (· ≠ stop)
          let isCut := part.length < n && data.size > part.length
          (part, part.length = n || isCut, s.leaveInput fd ⟨(data.toList.drop (part.length + (if isCut then 1 else 0))).toArray⟩)
        | none => s.takeLine fd stop (!raw)
      let text := (Utf8.lossy ⟨(line.filter (· ≠ 0)).toArray⟩).toList
      let cs := if raw then text.map fun c => (c, false) else unhidden text
      let gaps := s.gaps
      let isBlank (c : Char × Bool) : Bool := !c.2 && gaps.contains c.1 && (c.1 = ' ' || c.1 = '\t' || c.1 = '\n')
      let status := if isWhole then 0 else 1
      match g.value? ["a"] with
      | some name =>
        let parts := fieldsOf gaps (cs.length + 1) (cs.dropWhile isBlank)
        { s.put name.toList (.list ((List.range parts.length).zip parts)) with status := status }
      | none =>
        if names.isEmpty then { s.assign "REPLY".toList (cs.map (·.1)) with status := status }
        else
          match names.find? fun n => s.isFixed n.toList with
          | some n => s.abort f (if f.isRich then n ++ ": readonly variable" else "read: " ++ n ++ ": is read only")
          | none => { distribute s gaps names (cs.dropWhile isBlank) with status := status }

def mapfile (s : State) (args : List String) : State :=
  let names := args.filter fun a => !a.startsWith "-"
  let (data, _) := s.inputOf 0
  let lines := (Tool.linesOf data.toList).map fun l => (Utf8.lossy ⟨(if args.contains "-t" then Tool.bare l else l).toArray⟩).toList
  ok ((s.leaveInput 0 ByteArray.empty).put (names.headD "MAPFILE").toList (.list ((List.range lines.length).zip lines)))

/-! Options and arguments. -/

def turn (s : State) (isOn : Bool) (name : String) : State :=
  let others := s.options.filter (· ≠ name)
  { s with options := if isOn then
      -- kept in one order, whatever the order in which they came
      ((optionNames.reverse.map (·.2) ++ ["pipefail"]).filter fun o => o = name || others.contains o)
      ++ others.filter (fun o => !(optionNames.any (·.2 = o)) && o ≠ "pipefail") else others }

def setOptions (f : Frame) : Nat → List String → State → State
  | 0, _, s => s
  | _, [], s => s
  | fuel + 1, a :: rest, s =>
    let known (name : String) : Bool :=
      (optionNames.any (·.2 = name)) || (f.isRich && ["pipefail", "posix", "hashall", "braceexpand", "errtrace", "functrace", "physical",
        "histexpand", "history", "keyword", "onecmd", "privileged", "interactive-comments", "nolog"].contains name)
    match a.toList with
    | ['-', '-'] => { s with args := rest }
    | ['-'] => if rest.isEmpty then s else { s with args := rest }
    | c :: letters =>
      if (c = '-' || c = '+') && !letters.isEmpty then
        let isOn := c = '-'
        let bad := letters.find? fun l => l ≠ 'o' && (optionNames.lookup l).isNone && !(f.isRich && "hkptBEHPT".toList.contains l)
        match bad with
        | some l =>
          if f.isRich then s.refuse f 2 ("set: " ++ String.ofList [c, l]
            ++ ": invalid option\nset: usage: set [-abefhkmnptuvxBCEHPT] [-o option-name] [--] [-] [arg ...]")
          else s.abort f ("set: Illegal option " ++ String.ofList [c, l])
        | none =>
          let s := (letters.filterMap fun l => optionNames.lookup l).foldl (fun s o => turn s isOn o) s
          if letters.contains 'o' then
            match rest with
            | name :: rest =>
              if known name then setOptions f fuel rest (turn s isOn name)
              else if f.isRich then s.refuse f 2 ("set: " ++ name ++ ": invalid option name")
              else s.abort f ("set: Illegal option " ++ String.ofList [c, 'o'] ++ " " ++ name)
            | [] =>
              let names := optionNames.map (·.2) ++ ["privileged", "nolog", "debug"]
              let rows := names.map fun o =>
                if isOn then o ++ String.ofList (List.replicate (16 - o.length) ' ') ++ (if s.has o then "on" else "off") ++ "\n"
                else "set " ++ (if s.has o then "-o " else "+o ") ++ o ++ "\n"
              s.say f "set" ((if isOn && !f.isRich then "Current option settings\n" else "") ++ String.join rows)
          else setOptions f fuel rest s
      else { s with args := a :: rest }
    | [] => { s with args := a :: rest }

def inQuotes (cs : List Char) : String := Tool.quoted (String.ofList cs)

def set (s : State) (f : Frame) (args : List String) : State :=
  if args.isEmpty then
    let rows := s.vars.filterMap fun v => (textOf v.value).map fun t => String.ofList v.name ++ "=" ++ inQuotes t ++ "\n"
    (ok s).say f "set" (String.join (rows.mergeSort fun a b => decide (a ≤ b)))
  else setOptions f (args.length + 1) args (ok s)

def count? (args : List String) : Except String Nat :=
  match args with
  | [] => .ok 1
  | a :: _ => match Tool.natural? a with
    | some n => .ok n
    | none => .error a

def shift (s : State) (f : Frame) (args : List String) : State :=
  match count? args with
  | .error a =>
    if f.isRich then s.refuse f 1 ("shift: " ++ a ++ (if (Tool.integer? a).isSome then ": shift count out of range" else ": numeric argument required"))
    else s.abort f ("shift: Illegal number: " ++ a)
  | .ok n =>
    if n > s.args.length then (if f.isRich then { s with status := 1 } else s.abort f "shift: can't shift that many")
    else { s with args := s.args.drop n, status := 0 }

def getopts (s : State) (f : Frame) (args : List String) : State :=
  match args with
  | spec :: name :: given =>
    let words := if given.isEmpty then s.args else given
    let index := (((s.text? "OPTIND").map String.ofList).bind Tool.natural?).getD 1
    -- inside a word, the plain dialect has already counted it
    let index := if s.optionPos > 0 && !f.isRich && index > 1 then index - 1 else index
    let pos := if index = 1 && s.optionPos > 0 && (words[0]?).all (fun w => w.length ≤ s.optionPos) then 0 else s.optionPos
    let isSilent := spec.startsWith ":"
    let finish (s : State) (index : Nat) : State :=
      { (s.assign "OPTIND".toList (toString index).toList).assign name.toList ['?'] with status := 1, optionPos := 0 }
    match words[index - 1]? with
    | none => finish s index
    | some word =>
      if pos = 0 && (!word.startsWith "-" || word = "-") then finish s index
      else if pos = 0 && word = "--" then finish s (index + 1)
      else
        let at_ := max pos 1
        let letter := (word.toList[at_]?).getD '?'
        let isLast := at_ + 1 ≥ word.length
        let set (s : State) (value : Char) (arg : Option String) (index pos : Nat) : State :=
          let s := match arg with
            | some a => s.assign "OPTARG".toList a.toList
            | none => s.forget "OPTARG".toList
          { (s.assign name.toList [value]).assign "OPTIND".toList (toString index).toList with status := 0, optionPos := pos }
        let next := if isLast then (index + 1, 0) else (if f.isRich then index else index + 1, at_ + 1)
        let letters := spec.toList
        let after := (letters.dropWhile (· ≠ letter)).drop 1
        let problem (s : State) (text : String) : State :=
          if f.isRich then s.tell 2 (f.name ++ ": " ++ text ++ " -- " ++ String.singleton letter ++ "\n") else s
        if letter = ':' || !letters.contains letter then
          if isSilent then set s '?' (some (String.singleton letter)) next.1 next.2
          else
            let s := if f.isRich then problem s "illegal option" else s.tell 2 ("Illegal option -" ++ String.singleton letter ++ "\n")
            set s '?' none next.1 next.2
        else if after.head? = some ':' then
          if !isLast then set s letter (some (String.ofList (word.toList.drop (at_ + 1)))) (index + 1) 0
          else match words[index]? with
            | some value => set s letter (some value) (index + 2) 0
            | none =>
              if isSilent then set s ':' (some (String.singleton letter)) (index + 1) 0
              else
                let s := if f.isRich then problem s "option requires an argument" else s.tell 2 ("No arg for -" ++ String.singleton letter ++ " option\n")
                set s '?' none (index + 1) 0
        else set s letter none next.1 next.2
  | _ =>
    if f.isRich then { s.tell 2 "getopts: usage: getopts optstring name [arg ...]\n" with status := 2 }
    else s.refuse f 2 "getopts: Usage: getopts optstring var [arg...]"

/-! Variables. -/

def parted (a : String) : List Char × Option (List Char) :=
  let name := a.toList.takeWhile (· ≠ '=')
  (name, if a.contains '=' then some (a.toList.drop (name.length + 1)) else none)

def declare (s : State) (f : Frame) (who : String) (mark : Variable → Variable) (args : List String) : State :=
  args.foldl (fun s a =>
    if !s.flow.isRunning then s
    else
      let (name, value) := parted a
      let (adds, name) := if f.isRich && name.getLast? = some '+' && value.isSome then (true, name.dropLast) else (false, name)
      if !isName name then
        s.abortIfPlain f (who ++ ": " ++ String.ofList name ++ ": bad variable name") (badName who a) 1
      else if s.isFixed name && value.isSome then
        s.abortIfPlain f (who ++ ": " ++ String.ofList name ++ ": is read only") (String.ofList name ++ ": readonly variable") 1
      else
        let s := match value with
          | some v => s.assign name (if adds then (s.text? (String.ofList name)).getD [] ++ v else v)
          | none => s
        s.keep (mark (s.bound name))) (ok s)

def listed (s : State) (f : Frame) (who : String) (has : Variable → Bool) : State :=
  let rows := (s.vars.filter has).map fun v => match textOf v.value with
    | some t =>
      if f.isRich then "declare -" ++ (if who = "export" then "x " else "r ") ++ String.ofList v.name ++ "=\"" ++ String.ofList t ++ "\"\n"
      else who ++ " " ++ String.ofList v.name ++ "=" ++ inQuotes t ++ "\n"
    | none => who ++ " " ++ String.ofList v.name ++ "\n"
  (ok s).say f who (String.join (rows.mergeSort fun a b => decide (a ≤ b)))

def export_ (s : State) (f : Frame) (args : List String) : State :=
  let names := args.filter fun a => a ≠ "-p" && a ≠ "-n" && a ≠ "--"
  if names.isEmpty then listed s f "export" (·.exported)
  else declare s f "export" (fun v => { v with exported := !args.contains "-n" }) names

def readonly (s : State) (f : Frame) (args : List String) : State :=
  let names := args.filter fun a => a ≠ "-p" && a ≠ "--"
  if names.isEmpty then listed s f "readonly" (·.fixed)
  else declare s f "readonly" (fun v => { v with fixed := true }) names

/-- Keeps what a variable was, so that it can be put back when the running command ends. -/
def shelter (s : State) (name : List Char) : State :=
  match s.scopes with
  | scope :: outer =>
    if scope.any (·.1 = name) then s
    else { s with scopes := ((name, s.var? name) :: scope) :: outer }
  | [] => s

def local_ (s : State) (f : Frame) (who : String) (args : List String) : State :=
  let flags := (args.takeWhile fun a => a.startsWith "-" && f.isRich).flatMap fun a => a.toList.drop 1
  let names := args.dropWhile fun a => (a.startsWith "-" && f.isRich) || a = "--"
  if f.calls = 0 && who = "local" then
    (if f.isRich then s.refuse f 1 "local: can only be used in a function" else s.abort f "local: not in a function")
  else
    let isGlobal := f.calls = 0 || flags.contains 'g'
    let s := if isGlobal then s else names.foldl (fun s a =>
      let (name, value) := parted a
      let name := if name.getLast? = some '+' then name.dropLast else name
      let s := shelter s name
      if f.isRich && value.isNone then s.forget name else s) s
    declare s f who (fun v =>
      let value : Value := match v.value with
        | .unset => if flags.contains 'A' then .table [] else if flags.contains 'a' then .list [] else .unset
        | x => x
      { v with value := value, exported := v.exported || flags.contains 'x', fixed := v.fixed || flags.contains 'r',
               numeric := v.numeric || flags.contains 'i' }) names

def leaveScope (s : State) : State :=
  match s.scopes with
  | scope :: outer =>
    scope.foldl (fun s (name, before) => match before with
      | some v => s.keep v
      | none => s.forget name) { s with scopes := outer }
  | [] => s

def unset (s : State) (f : Frame) (args : List String) : State :=
  let flags := args.takeWhile fun a => a = "-v" || a = "-f" || a = "--"
  (args.drop flags.length).foldl (fun s a =>
    if !s.flow.isRunning then s
    else
      let name := a.toList
      let bare := name.takeWhile (· ≠ '[')
      if flags.contains "-f" then { s with functions := s.functions.filter (·.1 ≠ name) }
      else if s.isFixed name then
        s.abortIfPlain f ("unset: " ++ a ++ ": is read only") ("unset: " ++ a ++ ": cannot unset: readonly variable") 1
      else if f.isRich && bare.length < name.length then
        let index := (name.drop (bare.length + 1)).dropLast
        match (s.var? bare).map Variable.value with
        | some (.list items) => s.put bare (.list (items.filter fun i => some i.1 ≠ Tool.natural? (String.ofList index)))
        | some (.table items) => s.put bare (.table (items.filter fun i => i.1 ≠ index))
        | _ => s
      else if !f.isRich && !isName name then s.abort f ("unset: " ++ a ++ ": bad variable name")
      else if f.isRich && (s.var? name).isNone then { s with functions := s.functions.filter (·.1 ≠ name) }
      else s.forget name) (ok s)

/-! Signals, modes, and what names stand for. -/

def signalName (n : Nat) : String := ((signals.find? fun x => x.2.1 = n).map (·.1)).getD (toString n)

def trap (s : State) (f : Frame) (args : List String) : State :=
  let bad (s : State) (c : String) : State :=
    if f.isRich then s.refuse f 1 ("trap: " ++ c ++ ": invalid signal specification")
    else { s.tell 2 ("trap: " ++ c ++ ": bad trap\n") with status := 1 }
  let set (action : Option (List Char)) (conditions : List String) : State :=
    conditions.foldl (fun s c => match signal? c with
      | some n =>
        let others := s.traps.filter fun t => t.1 ≠ n
        { s with traps := match action with
          | some a => (n, a) :: others
          | none => others }
      | none => bad s c) (ok s)
  let args := if args.head? = some "--" then args.drop 1 else args
  match args with
  | [] =>
    let rows := (s.traps.mergeSort fun a b => decide (a.1 ≤ b.1)).map fun (n, a) =>
      "trap -- " ++ inQuotes a ++ " " ++ (if f.isRich && n ≠ 0 then "SIG" else "") ++ signalName n ++ "\n"
    (ok s).say f "trap" (String.join rows)
  | [c] => if (Tool.natural? c).isSome || (signal? c).isSome then set none [c]
    else if f.isRich then { s.tell 2 "trap: usage: trap [-lp] [[arg] signal_spec ...]\n" with status := 2 } else bad s c
  | action :: conditions =>
    if (Tool.natural? action).isSome then set none args
    else set (if action = "-" then none else some action.toList) conditions

def umask (s : State) (f : Frame) (args : List String) : State :=
  let octal (n : Nat) : String := let ds := Nat.toDigits 8 n; String.ofList (List.replicate (4 - ds.length) '0' ++ ds)
  let allowed := 0o777 - s.desk.mask % 0o1000
  match args with
  | [] => (ok s).say f "umask" (octal s.desk.mask ++ "\n")
  | ["-S"] =>
    let triple (n : Nat) : String := (if n &&& 4 ≠ 0 then "r" else "") ++ (if n &&& 2 ≠ 0 then "w" else "") ++ (if n &&& 1 ≠ 0 then "x" else "")
    (ok s).say f "umask" ("u=" ++ triple (allowed / 64) ++ ",g=" ++ triple (allowed / 8 % 8) ++ ",o=" ++ triple (allowed % 8) ++ "\n")
  | a :: _ =>
    match Tool.octal? a with
    | some m => ok { s with desk := { s.desk with mask := m % 0o1000 } }
    | none =>
      if a.toList.head?.any Char.isDigit then s.refuse f (if f.isRich then 1 else 2) (if f.isRich then "umask: " ++ a ++ ": octal number out of range" else "umask: Illegal number: " ++ a)
      else match Tool.changedMode 0 false a allowed with
        | some m => ok { s with desk := { s.desk with mask := 0o777 - m % 0o1000 } }
        | none => s.refuse f (if f.isRich then 1 else 2)
            (if f.isRich then "umask: " ++ Tool.graved a ++ ": invalid symbolic mode operator" else "umask: Illegal mode: " ++ a)

def wait (s : State) (f : Frame) (args : List String) : State :=
  args.foldl (fun s a =>
    let number := if a.startsWith "%" then (s.jobs.head?).map (·.1) else Tool.natural? a
    match number.bind fun n => s.jobs.lookup n with
    | some status => { s with status := status }
    | none =>
      if f.isRich && number.isSome then s.refuse f 127 ("wait: pid " ++ a ++ " is not a child of this shell")
      else if number.isSome then { s with status := 127 }
      else if f.isRich then s.refuse f 1 ("wait: " ++ Tool.graved a ++ ": not a pid or valid job spec")
      else s.refuse f 2 ("wait: Illegal number: " ++ a)) (ok s)

def describe (s : State) (f : Frame) (name : String) (isShort : Bool) : Option String :=
  let isKeyword := reserved.contains name || (f.isRich && reservedRich.contains name)
  match s.aliases.lookup name with
  | some v => some (if isShort then "alias " ++ name ++ "=" ++ Tool.quoted v else name ++ " is an alias for " ++ v)
  | none =>
    if isKeyword then some (if isShort then name else name ++ " is a shell keyword")
    else if s.functions.any (·.1 = name.toList) then
      some (if isShort then name else name ++ (if f.isRich then " is a function" else " is a shell function"))
    else if (builtins f.dialect).contains name then
      some (if isShort then name else name ++ (if isSpecial name && !f.isRich then " is a special shell builtin" else " is a shell builtin"))
    else (located s.desk s.searchPath name).map fun p => if isShort then p.text else name ++ " is " ++ p.text

def type (s : State) (f : Frame) (who : String) (args : List String) : State :=
  args.foldl (fun s name =>
    match describe s f name false with
    | some t => s.say f who (t ++ "\n")
    | none => if f.isRich then s.refuse f 1 (who ++ ": " ++ name ++ ": not found")
      else { s.tell (if who = "type" then 1 else 1) (name ++ ": not found\n") with status := 127 }) (ok s)

def commandV (s : State) (f : Frame) (isShort : Bool) (names : List String) : State :=
  let names := if f.isRich then names else names.take 1
  if isShort then
    let found := names.filterMap fun n => describe s f n true
    { s.say f "command" (String.join (found.map (· ++ "\n"))) with
      status := if found.isEmpty then (if f.isRich then 1 else 127) else 0 }
  else
    let s := type s f "command" names
    if names.any fun n => (describe s f n false).isSome then { s with status := 0 } else s

def alias_ (s : State) (f : Frame) (args : List String) : State :=
  let line (a : String × String) : String := (if f.isRich then "alias " else "") ++ a.1 ++ "=" ++ Tool.quoted a.2 ++ "\n"
  if args.isEmpty then (ok s).say f "alias" (String.join (s.aliases.reverse.map line))
  else args.foldl (fun s a =>
    match parted a with
    | (name, some v) =>
      { s with aliases := (String.ofList name, String.ofList v) :: s.aliases.filter (·.1 ≠ String.ofList name) }
    | (name, none) =>
      match s.aliases.lookup (String.ofList name) with
      | some v => s.say f "alias" (line (String.ofList name, v))
      | none =>
        if f.isRich then s.refuse f 1 ("alias: " ++ a ++ ": not found")
        else { s.tell 2 ("alias: " ++ a ++ " not found\n") with status := 1 }) (ok s)

def unalias (s : State) (f : Frame) (args : List String) : State :=
  if args.contains "-a" then ok { s with aliases := [] }
  else args.foldl (fun s a =>
    if s.aliases.any (·.1 = a) then { s with aliases := s.aliases.filter (·.1 ≠ a) }
    else if f.isRich then s.refuse f 1 ("unalias: " ++ a ++ ": not found")
    else { s.tell 2 ("unalias: " ++ a ++ " not found\n") with status := 1 }) (ok s)

def hash (s : State) (f : Frame) (args : List String) : State :=
  (args.filter fun a => !a.startsWith "-").foldl (fun s a =>
    if (builtins f.dialect).contains a || (located s.desk s.searchPath a).isSome then s
    else s.refuse f 1 ("hash: " ++ a ++ ": not found")) (ok s)

def find? (d : Dialect) (name : String) : Option (State → Frame → List String → State) :=
  match name with
  | ":" | "true" | "times" | "ulimit" | "jobs" => some fun s _ _ => ok s
  | "false" => some fun s _ _ => { s with status := 1 }
  | "cd" => some cd
  | "pwd" => some pwd
  | "read" => some read
  | "set" => some set
  | "shift" => some shift
  | "getopts" => some getopts
  | "export" => some export_
  | "readonly" => some readonly
  | "local" => some fun s f args => local_ s f "local" args
  | "unset" => some unset
  | "trap" => some trap
  | "umask" => some umask
  | "wait" => some wait
  | "type" => some fun s f args => type s f "type" args
  | "alias" => some alias_
  | "unalias" => some unalias
  | "hash" => some hash
  | "bg" | "fg" => some fun s f _ => if f.isRich then s.refuse f 1 (name ++ ": no job control") else s.refuse f 2 (name ++ ": No current job")
  | "echo" => some fun s f args => s.use f name (Tool.echo d) args
  | "test" => some fun s f args => s.use f name (Tool.test d) args
  | "[" => some fun s f args => s.use f name (Tool.bracket d) args
  | "printf" => some fun s f args =>
    match d, args with
    | .rich, "-v" :: var :: rest =>
      let (code, desk) := Tool.printf d rest { s.desk with spoken := [] }
      { s.assign var.toList (Utf8.lossy desk.out).toList with status := code }
    | _, _ => s.use f name (Tool.printf d) args
  | _ =>
    if !d.isRich then none
    else match name with
      | "declare" | "typeset" => some fun s f args => local_ s f name args
      | "let" => some let_
      | "mapfile" | "readarray" => some fun s _ args => mapfile s args
      | "shopt" | "disown" | "enable" | "complete" | "bind" | "compgen" | "history" | "suspend" => some fun s _ _ => ok s
      | _ => none

end Provision.Shell.Builtin
