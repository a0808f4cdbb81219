import Provision.Kernel
import Provision.Shell.Arithmetic
import Provision.Shell.Command
import Provision.Shell.Pattern
import Provision.Shell.Tool

/-!
The state of a running script: its variables and arguments, where its output goes and where its input comes from,
and whether it goes on.
-/

set_option autoImplicit false

namespace Provision.Shell

/-- Where bytes go to or come from: the output or the errors of the whole program, a file, or a basin, in which
they are kept until they are read. -/
inductive Port where
  | out
  | err
  | file (h : Handle)
  | basin (n : Nat)

structure Basin where
  number : Nat
  data : ByteArray
  /-- What is in it comes from a file. -/
  isFile : Bool

inductive Flow where
  | running
  | ended (e : Exit)
  /-- Leaves some loops; the outermost of them goes on with its next round if `again`. -/
  | leaving (loops : Nat) (again : Bool)
  /-- Leaves a command that was called by its name. -/
  | returning

namespace Flow

def isRunning : Flow → Bool
  | .running => true
  | _ => false

def afterRound : Flow → Flow
  | .leaving 1 true => .running
  | flow => flow

def afterLoop : Flow → Flow
  | .leaving (n + 2) again => .leaving (n + 1) again
  | .leaving _ _ => .running
  | flow => flow

def afterCall : Flow → Flow
  | .returning => .running
  | flow => flow

end Flow

inductive Value where
  | unset
  | text (cs : List Char)
  | list (items : List (Nat × List Char))
  /-- Values by name. -/
  | table (items : List (List Char × List Char))
  deriving Inhabited

structure Variable where
  name : List Char
  value : Value
  /-- Programs that are started see it. -/
  exported : Bool
  /-- It cannot be given another value. -/
  fixed : Bool
  numeric : Bool

structure State where
  desk : Desk
  args : List String
  vars : List Variable
  /-- For each command that was called by its name and is running, what its own variables were before. -/
  scopes : List (List (List Char × Option Variable))
  functions : List (List Char × Command)
  aliases : List (String × String)
  status : Nat
  /-- The outcome of the last script whose output was taken for the command that runs. -/
  inner : Option Nat
  /-- The outcomes of the parts of the last pipe. -/
  outcomes : List Nat
  /-- The line of the command that runs. -/
  line : Nat
  options : List String
  /-- What runs when a signal comes, by its number; zero stands for the end of the script. -/
  traps : List (Nat × List Char)
  ports : List (Nat × Port)
  basins : List Basin
  next : Nat
  /-- Outcomes of what ran in the background, by number. -/
  jobs : List (Nat × Nat)
  lastJob : Option Nat
  /-- How far into a word the reading of options has come. -/
  optionPos : Nat
  flow : Flow

structure Frame where
  name : String
  /-- What stands in front of complaints. -/
  title : String
  dialect : Dialect
  /-- The outcome of the command is looked at, so that it may fail. -/
  tested : Bool
  /-- How many loops are around it. -/
  loops : Nat
  /-- How many calls by name are around it. -/
  calls : Nat
  /-- A command that stands in front of complaints. -/
  within : String
  /-- While what a signal or the end asks for runs: the outcome before it. -/
  before : Option Nat

namespace Frame

def isRich (f : Frame) : Bool := f.dialect.isRich

def place (f : Frame) (line : Nat) : String :=
  if f.isRich then f.title ++ ": line " ++ toString line ++ ": "
  else f.title ++ ": " ++ toString line ++ ": " ++ f.within

end Frame

/-! Reading options: their letters and words. -/

def optionNames : List (Char × String) :=
  [('e', "errexit"), ('f', "noglob"), ('I', "ignoreeof"), ('i', "interactive"), ('m', "monitor"), ('n', "noexec"), ('s', "stdin"),
   ('x', "xtrace"), ('v', "verbose"), ('V', "vi"), ('E', "emacs"), ('C', "noclobber"), ('a', "allexport"), ('b', "notify"),
   ('u', "nounset")]

namespace State

def has (s : State) (option : String) : Bool := s.options.contains option

def port? (s : State) (fd : Nat) : Option Port := s.ports.lookup fd

def withPort (s : State) (fd : Nat) (p : Port) : State := { s with ports := (fd, p) :: s.ports.filter (·.1 ≠ fd) }

def withoutPort (s : State) (fd : Nat) : State := { s with ports := s.ports.filter (·.1 ≠ fd) }

def basin (s : State) (data : ByteArray) (isFile : Bool) : Nat × State :=
  (s.next, { s with basins := ⟨s.next, data, isFile⟩ :: s.basins, next := s.next + 1 })

def fill (s : State) (n : Nat) (data : ByteArray) : State :=
  { s with basins := s.basins.map fun b => if b.number = n then { b with data := data } else b }

def inputOf (s : State) (fd : Nat) : ByteArray × Bool :=
  match s.port? fd with
  | some (.basin n) => ((s.basins.find? (·.number = n)).map fun b => (b.data, b.isFile)).getD (ByteArray.empty, false)
  | _ => (ByteArray.empty, false)

def leaveInput (s : State) (fd : Nat) (data : ByteArray) : State :=
  match s.port? fd with
  | some (.basin n) => s.fill n data
  | _ => s

def emit (s : State) (fd : Nat) (data : ByteArray) : Except Errno State :=
  if data.isEmpty then .ok s
  else match s.port? fd with
  | none => .error .badHandle
  | some .out => .ok { s with desk := s.desk.write false data }
  | some .err => .ok { s with desk := s.desk.write true data }
  | some (.file h) =>
    match s.desk.disk.write h data with
    | .ok disk => .ok { s with desk := { s.desk with disk := disk } }
    | .error (.os e) => .error e
    | .error _ => .error .invalid
  | some (.basin n) =>
    .ok { s with basins := s.basins.map fun b => if b.number = n then { b with data := b.data ++ data } else b }

def tell (s : State) (fd : Nat) (text : String) : State := ((s.emit fd text.toUTF8).toOption).getD s

def unwritten (s : State) (f : Frame) (who : String) (e : Errno) : State :=
  if f.isRich then { s.tell 2 (f.place s.line ++ who ++ ": write error: " ++ e.wording ++ "\n") with status := 1 }
  else { s.tell 2 (f.place s.line ++ who ++ ": " ++ who ++ ": I/O error\n") with status := 1 }

def say (s : State) (f : Frame) (who text : String) : State :=
  match s.emit 1 text.toUTF8 with
  | .ok s => s
  | .error e => s.unwritten f who e

def complain (s : State) (f : Frame) (text : String) : State := s.tell 2 (f.place s.line ++ text ++ "\n")

def refuse (s : State) (f : Frame) (code : Nat) (text : String) : State := { s.complain f text with status := code }

def finish (s : State) (e : Exit) : State :=
  match s.flow with
  | .ended _ => s
  | _ => { s with flow := .ended e }

def abort (s : State) (f : Frame) (text : String) : State :=
  let code := if f.isRich then 1 else 2
  ({ s.complain f text with status := code }).finish (.code code)

def abortIfPlain (s : State) (f : Frame) (text rich : String) (code : Nat) : State :=
  if f.isRich then s.refuse f code rich else s.abort f text

/-! Variables. -/

def var? (s : State) (name : List Char) : Option Variable := s.vars.find? (·.name = name)

def forget (s : State) (name : List Char) : State := { s with vars := s.vars.filter (·.name ≠ name) }

def keep (s : State) (v : Variable) : State := { s with vars := v :: s.vars.filter (·.name ≠ v.name) }

def textOf : Value → Option (List Char)
  | .text cs => some cs
  | .list items => items.lookup 0
  | .table items => items.lookup ['0']
  | .unset => none

def bound (s : State) (name : List Char) : Variable :=
  (s.var? name).getD ⟨name, .unset, s.has "allexport", false, false⟩

def put (s : State) (name : List Char) (value : Value) : State := s.keep { s.bound name with value := value }

def assign (s : State) (name value : List Char) : State :=
  let v := s.bound name
  match v.value with
  | .list items => s.keep { v with value := .list ((0, value) :: items.filter (·.1 ≠ 0)) }
  | _ => s.keep { v with value := .text value }

def inserted (n : Nat) (value : List Char) (items : List (Nat × List Char)) : List (Nat × List Char) :=
  items.takeWhile (·.1 < n) ++ (n, value) :: (items.dropWhile (·.1 < n)).filter (·.1 ≠ n)

def assignAt (s : State) (name : List Char) (n : Nat) (value : List Char) : State :=
  let items := match (s.bound name).value with
    | .list items => items
    | .text cs => [(0, cs)]
    | _ => []
  s.put name (.list (inserted n value items))

def assignKey (s : State) (name key value : List Char) : State :=
  let items := match (s.bound name).value with
    | .table items => items
    | _ => []
  s.put name (.table (if items.any (·.1 = key) then items.map fun i => if i.1 = key then (key, value) else i else items ++ [(key, value)]))

def isFixed (s : State) (name : List Char) : Bool := (s.var? name).any (·.fixed)

def text? (s : State) (name : String) : Option (List Char) := (s.var? name.toList).bind (textOf ·.value)

def env (s : State) : Env :=
  s.vars.filterMap fun v => if v.exported then (textOf v.value).map fun t => (String.ofList v.name, String.ofList t) else none

def searchPath (s : State) : String := ((s.text? "PATH").map String.ofList).getD ""

def cwdText (s : State) : List Char := '/' :: Path.joined s.desk.cwd.reverse

def gaps (s : State) : List Char := (s.text? "IFS").getD [' ', '\t', '\n']

def joint (s : State) : List Char :=
  match s.text? "IFS" with
  | none => [' ']
  | some cs => cs.take 1

def letters (s : State) (f : Frame) : List Char :=
  if f.isRich then
    let on := "abefhkmnptuvxBCEHPT".toList.filter fun c =>
      c = 'h' || c = 'B' || (optionNames.lookup c).any s.has
    on
  else
    -- later options come first
    s.options.filterMap fun o => (optionNames.find? (·.2 = o)).map (·.1)

def value? (s : State) (f : Frame) (name : List Char) : Option (List Char) :=
  match name with
  | ['#'] => some (toString s.args.length).toList
  | ['?'] => some (toString s.status).toList
  | ['$'] => some ['1']
  | ['!'] => s.lastJob.map fun n => (toString n).toList
  | ['-'] => some (s.letters f)
  | ['0'] => some f.name.toList
  | _ =>
    if name.all Char.isDigit && !name.isEmpty then (s.args[Decimal.value name - 1]?).map String.toList
    else match (s.var? name).bind (textOf ·.value) with
      | some v => some v
      | none =>
        if f.isRich then
          match String.ofList name with
          | "LINENO" => some (toString s.line).toList
          | "UID" | "EUID" => some ['0']
          | "RANDOM" => some "4".toList
          | "SECONDS" => some ['0']
          | "BASH" => some "/bin/bash".toList
          | "BASH_VERSION" => some "5.2.21(1)-release".toList
          | "OSTYPE" => some "linux-gnu".toList
          | "HOSTTYPE" => some "x86_64".toList
          | "BASHPID" => some ['1']
          | "FUNCNAME" => none
          | _ => none
        else none

def item? (s : State) (f : Frame) (name : List Char) (n : Int) : Option (List Char) :=
  match (s.var? name).map Variable.value with
  | some (.list items) =>
    let n := if n < 0 then n + Int.ofNat (((items.map (·.1)).foldl max 0) + 1) else n
    if n < 0 then none else items.lookup n.toNat
  | some (.table items) => items.lookup (toString n).toList
  | _ =>
    if name = "PIPESTATUS".toList then (s.outcomes[n.toNat]?).map fun k => (toString k).toList
    else if n = 0 || n = -1 then s.value? f name else none

def items (s : State) (f : Frame) (name : List Char) : List (List Char × List Char) :=
  match (s.var? name).map Variable.value with
  | some (.list items) => items.map fun i => ((toString i.1).toList, i.2)
  | some (.table items) => items
  | _ =>
    if name = "PIPESTATUS".toList then
      ((List.range s.outcomes.length).zip s.outcomes).map fun (i, k) => ((toString i).toList, (toString k).toList)
    else ((s.value? f name).map fun v => (['0'], v)).toList

def use (s : State) (f : Frame) (who : String) (t : Tool) (args : List String) : State :=
  let (input, isFile) := s.inputOf 0
  let (code, desk) := t args { s.desk with input := input, isFile := isFile, spoken := [] }
  let s' : State := { s with status := code, desk := { desk with spoken := s.desk.spoken, input := s.desk.input, isFile := s.desk.isFile } }
  let complaints := desk.spoken.filter (·.1)
  let s' := complaints.foldr (fun c s => s.tell 2 (f.place s.line ++ Utf8.lossy c.2)) s'
  match s'.emit 1 desk.out with
  | .ok s => s
  | .error e => s'.unwritten f who e

/-- Takes one line of a port; says whether it was complete. With escapes, a backslash hides the end of a line. -/
def takeLine (s : State) (fd : Nat) (stop : UInt8) (escapes : Bool) : List UInt8 × Bool × State :=
  let (data, _) := s.inputOf fd
  let rec upTo : Nat → List UInt8 → List UInt8 → List UInt8 × Bool × List UInt8
    | 0, acc, bs => (acc.reverse, false, bs)
    | _, acc, [] => (acc.reverse, false, [])
    | fuel + 1, acc, b :: rest =>
      if b = stop then (acc.reverse, true, rest)
      else if escapes && b = 92 then
        match rest with
        | c :: more => upTo fuel (c :: b :: acc) more
        | [] => ((b :: acc).reverse, false, [])
      else upTo fuel (b :: acc) rest
  let bytes := data.toList
  let (line, isWhole, rest) := upTo (bytes.length + 1) [] bytes
  (line, isWhole, s.leaveInput fd ⟨rest.toArray⟩)

end State

/-! Fields. -/

/-- A part of what a word expands to: a character, with whether it stands for itself in patterns and whether it may
divide fields; a sign that the field is there even if it is empty; and the end of a field. -/
inductive Bit where
  | char (c : Char) (plain loose : Bool)
  | here
  | cut

namespace Bit

def plain (cs : List Char) : List Bit := cs.map fun c => .char c true false
def wild (cs : List Char) : List Bit := cs.map fun c => .char c false false
def loose (cs : List Char) : List Bit := cs.map fun c => .char c false true

end Bit

/-- Fields while they are gathered: those that are finished, last first, the one being built, last first, and
whether blanks have just ended one. -/
structure Fields where
  closed : List Marked
  current : Option Marked
  afterBlank : Bool

namespace Fields

def close (fs : Fields) : Fields :=
  match fs.current with
  | some c => { fs with closed := c.reverse :: fs.closed, current := none }
  | none => fs

def add (gaps : List Char) (fs : Fields) : Bit → Fields
  | .here => { fs with current := some (fs.current.getD []), afterBlank := false }
  | .cut => { fs.close with afterBlank := false }
  | .char c plain loose =>
    if loose && gaps.contains c then
      if c = ' ' || c = '\t' || c = '\n' then
        if fs.current.isSome then { fs.close with afterBlank := true } else fs
      else if fs.current.isSome then { fs.close with afterBlank := false }
      else if fs.afterBlank then { fs with afterBlank := false }
      else { fs with closed := [] :: fs.closed }
    else { fs with current := some ((c, plain) :: fs.current.getD []), afterBlank := false }

def of (gaps : List Char) (bits : List Bit) : List Marked :=
  (bits.foldl (add gaps) ⟨[], none, false⟩).close.closed.reverse

def whole (bits : List Bit) : Marked := bits.filterMap fun
  | .char c plain _ => some (c, plain)
  | .cut => some (' ', true)
  | .here => none

end Fields

/-! Words. -/

/-- An assignment: a name, perhaps with an index, a sign that may ask for adding, and a word. -/
structure Assignment where
  name : List Char
  index : Option (List Char)
  adds : Bool
  value : Word

def assignment? (d : Dialect) (w : Word) : Option Assignment :=
  let isPlain : Piece → Bool
    | .text [c] false => isNameChar c
    | _ => false
  let name := (w.takeWhile isPlain).flatMap fun
    | .text cs _ => cs
    | _ => []
  let rest := w.dropWhile isPlain
  if !isName name then none
  else match rest with
    | .text ['='] false :: value => some ⟨name, none, false, value⟩
    | .text ['+'] false :: .text ['='] false :: value => if d.isRich then some ⟨name, none, true, value⟩ else none
    | .text ['['] false :: more =>
      if !d.isRich then none
      else
        let isInside : Piece → Bool
          | .text [']'] false => false
          | _ => true
        let raw := (more.takeWhile isInside).flatMap fun
          | .text cs _ => cs
          | .param body _ => ['$', '\x7b'] ++ body ++ ['\x7d']
          | .sum e _ => "$((".toList ++ e ++ "))".toList
          | .output e _ _ => "$(".toList ++ e ++ ")".toList
          | .list _ => []
        match more.dropWhile isInside with
        | _ :: .text ['='] false :: value => some ⟨name, some raw, false, value⟩
        | _ :: .text ['+'] false :: .text ['='] false :: value => some ⟨name, some raw, true, value⟩
        | _ => none
    | _ => none

def homeOf (s : State) (f : Frame) (user : List Char) : Option (List Char) :=
  if user.isEmpty then s.text? "HOME"
  else if user = "root".toList then some "/root".toList
  else if f.isRich && user = ['+'] then some s.cwdText
  else none

/-- Puts home directories in place of tildes: at the start, and in assignments also behind colons. -/
def tildes (s : State) (f : Frame) (isAssignment : Bool) : Bool → Word → Word
  | _, [] => []
  | isStart, p :: rest =>
    match p with
    | .text ['~'] false =>
      let isUser : Piece → Bool
        | .text [c] false => c ≠ '/' && !(isAssignment && c = ':')
        | _ => false
      let user := (rest.takeWhile isUser).flatMap fun
        | .text cs _ => cs
        | _ => []
      let ends := match rest.dropWhile isUser with
        | [] => true
        | .text ['/'] false :: _ => true
        | .text [':'] false :: _ => isAssignment
        | _ => false
      match (if isStart && ends then homeOf s f user else none) with
      | some home => .text home true :: tildes s f isAssignment false (rest.drop user.length)
      | none => p :: tildes s f isAssignment false rest
    | .text [':'] false => p :: tildes s f isAssignment isAssignment rest
    | p => p :: tildes s f isAssignment false rest
termination_by _ w => w.length
decreasing_by all_goals (simp_wf; try omega)

/-- What braces behind a dollar sign hold: a parameter, and what is made of its value. -/
structure Expansion where
  length : Bool
  indirect : Bool
  name : List Char
  index : Option (List Char)
  op : List Char
  word : List Char

def upToBracket : Nat → List Char → Option (List Char × List Char)
  | _, [] => none
  | depth, c :: rest =>
    if c = ']' then
      match depth with
      | 0 => some ([], rest)
      | n + 1 => (upToBracket n rest).map fun r => (c :: r.1, r.2)
    else (upToBracket (if c = '[' then depth + 1 else depth) rest).map fun r => (c :: r.1, r.2)

def Expansion.of? (d : Dialect) (body : List Char) : Option Expansion := do
  let isSpecial (c : Char) : Bool := "@*#?-$!".toList.contains c
  let nameOf (cs : List Char) : Option (List Char) :=
    match cs with
    | c :: _ =>
      if c.isDigit then some (cs.takeWhile Char.isDigit)
      else if isNameStart c then some (cs.takeWhile isNameChar)
      else if isSpecial c then some [c]
      else none
    | [] => none
  let (length, body) := match body with
    | '#' :: c :: rest =>
      -- the number of arguments may be followed by an operation
      if c = '-' || c = '?' || c = '#' then (rest.isEmpty, if rest.isEmpty then c :: rest else body)
      else if c = ':' || c = '+' || c = '=' || c = '%' then (false, body)
      else (true, c :: rest)
    | _ => (false, body)
  let (indirect, body) := match d, body with
    | .rich, '!' :: c :: rest => if isNameStart c || c.isDigit then (true, c :: rest) else (false, body)
    | _, _ => (false, body)
  let name ← nameOf body
  let rest := body.drop name.length
  let (index, rest) ← match d, rest with
    | .rich, '[' :: more =>
      match upToBracket 0 more with
      | some (i, rest) => some (some i, rest)
      | none => none
    | _, _ => some (none, rest)
  if length && !rest.isEmpty then none
  let plainOp : Option (List Char) := match rest with
    | [] => some []
    | ':' :: c :: _ => if "-=?+".toList.contains c then some [':', c] else none
    | '#' :: '#' :: _ => some ['#', '#']
    | '%' :: '%' :: _ => some ['%', '%']
    | c :: _ => if "-=?+#%".toList.contains c then some [c] else none
  match plainOp with
  | some op => return ⟨length, indirect, name, index, op, rest.drop op.length⟩
  | none =>
    if !d.isRich then none
    else
      let op ← match rest with
        | ':' :: _ => some [':']
        | '/' :: '/' :: _ => some ['/', '/']
        | '/' :: '#' :: _ => some ['/', '#']
        | '/' :: '%' :: _ => some ['/', '%']
        | '/' :: _ => some ['/']
        | '^' :: '^' :: _ => some ['^', '^']
        | '^' :: _ => some ['^']
        | ',' :: ',' :: _ => some [',', ',']
        | ',' :: _ => some [',']
        | '@' :: _ => some ['@']
        | '*' :: _ => if indirect then some ['*'] else none
        | _ => none
      return ⟨length, indirect, name, index, op, rest.drop op.length⟩

/-- Divides at the first of a mark that is not hidden by a backslash, a quote, a brace or a parenthesis. -/
def dividedAt (mark : Char) : Nat → List Char → List Char × Option (List Char)
  | _, [] => ([], none)
  | depth, '\\' :: c :: rest => let (a, b) := dividedAt mark depth rest; ('\\' :: c :: a, b)
  | depth, c :: rest =>
    if c = mark && depth = 0 then ([], some rest)
    else
      let depth := if c = '\x7b' || c = '(' then depth + 1 else if c = '\x7d' || c = ')' then depth - 1 else depth
      let (a, b) := dividedAt mark depth rest
      (c :: a, b)

/-! Alternatives between braces. -/

/-- The pieces up to the brace that closes, divided at the commas between them, and what follows. -/
def braceParts : Nat → List Word → Word → Word → Option (List Word × Word)
  | _, _, _, [] => none
  | depth, parts, now, p :: rest =>
    match p with
    | .text ['\x7b'] false => braceParts (depth + 1) parts (p :: now) rest
    | .text ['\x7d'] false =>
      match depth with
      | 0 => some ((now.reverse :: parts).reverse, rest)
      | n + 1 => braceParts n parts (p :: now) rest
    | .text [','] false => if depth = 0 then braceParts 0 (now.reverse :: parts) [] rest else braceParts depth parts (p :: now) rest
    | p => braceParts depth parts (p :: now) rest

def braceRange? (w : Word) : Option (List Word) := do
  let cs ← w.bare?
  let texts := (String.ofList cs).splitOn ".."
  let word (s : String) : Word := s.toList.map fun c => .text [c] false
  let numbers (a b step : Int) : List Int :=
    let step := if step = 0 then 1 else Int.ofNat step.natAbs
    let count := ((b - a).natAbs / step.toNat) + 1
    (List.range count).map fun i => if a ≤ b then a + step * Int.ofNat i else a - step * Int.ofNat i
  let padded (width : Nat) (n : Int) : String :=
    let ds := toString n.natAbs
    (if n < 0 then "-" else "") ++ String.ofList (List.replicate (width - ds.length - (if n < 0 then 1 else 0)) '0') ++ ds
  let range (a b step : String) : Option (List Word) :=
    match Tool.integer? a, Tool.integer? b, Tool.integer? step with
    | some x, some y, some k =>
      let isPadded (s : String) : Bool := s.length > 1 && (s.startsWith "0" || s.startsWith "-0")
      let width := if isPadded a || isPadded b then max a.length b.length else 0
      some ((numbers x y k).map fun n => word (padded width n))
    | _, _, some k =>
      match a.toList, b.toList with
      | [x], [y] =>
        if x.isAlpha && y.isAlpha then
          some ((numbers x.toNat y.toNat k).map fun n => word (String.singleton (Char.ofNat n.toNat)))
        else none
      | _, _ => none
    | _, _, _ => none
  match texts with
  | [a, b] => range a b "1"
  | [a, b, c] => range a b c
  | _ => none

def braces : Nat → Word → List Word
  | 0, w => [w]
  | fuel + 1, w =>
    let isOpen : Piece → Bool
      | .text ['\x7b'] false => true
      | _ => false
    let front := w.takeWhile fun p => !isOpen p
    match w.drop front.length with
    | [] => [w]
    | open_ :: rest =>
      match braceParts 0 [] [] rest with
      | none => [w]
      | some (parts, after) =>
        let choices := match parts with
          | [one] => braceRange? one
          | _ => some parts
        match choices with
        | some choices =>
          let afters := braces fuel after
          choices.flatMap fun c => (braces fuel c).flatMap fun c => afters.map fun a => front ++ c ++ a
        | none => (braces fuel rest).map fun r => front ++ open_ :: r

/-! Paths. -/

/-- The paths that fit a pattern, in order; a pattern that none fits stands for itself. -/
def paths (isRich : Bool) (d : Desk) (cs : Marked) : List String :=
  let rec divided : Marked → List Marked
    | [] => [[]]
    | c :: cs =>
      match divided cs with
      | [] => [[c]]
      | s :: rest => if c.1 = '/' then [] :: s :: rest else (c :: s) :: rest
  let names (dir : List Char) : List Name :=
    match d.disk.find d.cwd (if dir.isEmpty then "." else ⟨dir⟩) with
    | .ok (place, .dir) => (d.disk.below place).filterMap fun (names, _) => match names with
      | [n] => some n
      | _ => none
    | _ => []
  let bare (s : Marked) : List Char := s.map (·.1)
  let step (front : List Char) (s : Marked) : List (List Char) :=
    if Glob.isWild s then
      let ps := Glob.ofMarked isRich s
      let dots : List Name := if (s.head?.map (·.1)) = some '.' && !isRich then [['.'], ['.', '.']] else []
      ((dots ++ names front).filter fun n => (n.head? ≠ some '.' || (s.head?.map (·.1)) = some '.') && Glob.fits ps n).map (front ++ ·)
    else [front ++ bare s]
  if !Glob.isWild cs then [cs.text]
  else
    let segs := divided cs
    let found := (segs.dropLast.foldl (fun fronts s => fronts.flatMap fun p => (step p s).map (· ++ ['/'])) [[]]).flatMap
      fun p => step p (segs.getLastD [])
    let isThere (p : List Char) : Bool :=
      if p.getLast? = some '/' then (d.disk.inspect d.cwd ⟨p⟩).toOption = some .dir else (Tool.lying? d ⟨p⟩).isSome
    let real := found.filter isThere
    if real.isEmpty then [cs.text] else real.map String.ofList

/-! Signals. -/

def signals : List (String × Nat × Option String) :=
  [("EXIT", 0, none), ("HUP", 1, some "Hangup"), ("INT", 2, none), ("QUIT", 3, some "Quit"), ("ILL", 4, some "Illegal instruction"),
   ("TRAP", 5, some "Trace/breakpoint trap"), ("ABRT", 6, some "Aborted"), ("BUS", 7, some "Bus error"),
   ("FPE", 8, some "Floating point exception"), ("KILL", 9, some "Killed"), ("USR1", 10, some "User defined signal 1"),
   ("SEGV", 11, some "Segmentation fault"), ("USR2", 12, some "User defined signal 2"), ("PIPE", 13, none),
   ("ALRM", 14, some "Alarm clock"), ("TERM", 15, some "Terminated"), ("CHLD", 17, none), ("CONT", 18, none), ("STOP", 19, none)]

def signal? (s : String) : Option Nat :=
  let name := s.toUpper
  (Tool.natural? s).filter (· < 65) |>.or ((signals.lookup (if name.startsWith "SIG" then String.ofList (name.toList.drop 3) else name)).map (·.1))

def obituary (n : Nat) : String :=
  match (signals.find? fun x => x.2.1 = n) with
  | some (_, _, some text) => text ++ "\n"
  | _ => ""

def builtins (d : Dialect) : List String :=
  [":", ".", "[", "alias", "bg", "break", "cd", "command", "continue", "echo", "eval", "exec", "exit", "export", "false", "fg",
   "getopts", "hash", "jobs", "kill", "local", "printf", "pwd", "read", "readonly", "return", "set", "shift", "test", "times", "trap",
   "true", "type", "ulimit", "umask", "unalias", "unset", "wait"] ++
  (if d.isRich then ["builtin", "declare", "let", "mapfile", "popd", "pushd", "readarray", "shopt", "source", "typeset", "dirs", "disown",
    "enable", "help", "history", "logout", "suspend", "caller", "compgen", "complete", "bind"] else [])

end Provision.Shell
