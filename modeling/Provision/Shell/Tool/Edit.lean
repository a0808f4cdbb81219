import Provision.Shell.Tool.Search

set_option autoImplicit false

namespace Provision.Shell.Edit

open Text (Regex)

inductive Address where
  | line (n : Nat)
  /-- Every so many lines from one on. -/
  | step (first by_ : Nat)
  | last
  /-- Lines that fit an expression; without one, the last that was looked for. -/
  | fits (r : Option Regex)

inductive Stop where
  | address (a : Address)
  | after (n : Nat)
  | multiple (n : Nat)

inductive Insert where
  | text (cs : List Char)
  | group (n : Nat)
  /-- Changes the case of what follows. -/
  | case (letter : Char)

structure Substitution where
  expression : Option Regex
  inserts : List Insert
  all : Bool
  /-- The first hit that is replaced, counted from one. -/
  first : Nat
  prints : Bool
  file : Option String

inductive Act where
  | nothing
  /-- Opens a block that ends at an index. -/
  | block (close : Nat)
  | print
  | printFirst
  | delete
  | deleteFirst
  | next
  | nextAppended
  | hold (adds : Bool)
  | recall (adds : Bool)
  | swap
  | quit (code : Nat) (silent : Bool)
  | number
  | append (text : List Char)
  | insert (text : List Char)
  | change (text : List Char)
  | substitute (s : Substitution)
  | exchange (table : List (Char × Char))
  | jump (label : List Char)
  | jumpIf (wanted : Bool) (label : List Char)
  | label (name : List Char)
  | readFile (name : String)
  | writeFile (name : String)
  | showAll
  | clear

structure Step where
  first : Option Address
  stop : Option Stop
  negated : Bool
  act : Act

/-! Reading commands. -/

/-- Why a list of commands cannot be read, and how many characters were left then. -/
structure Misread where
  problem : String
  left : Nat

abbrev Read (α : Type) := Except Misread (α × List Char)

def tick : String := String.singleton (Char.ofNat 96)
def apostrophe : String := String.singleton (Char.ofNat 39)

def named (s : String) : String := tick ++ s ++ apostrophe

def fail {α : Type} (problem : String) (rest : List Char) : Except Misread α := .error ⟨problem, rest.length⟩

def isGap (c : Char) : Bool := c = ' ' || c = '\t'

/-- The rest of a class of characters, which hides the mark that ends an expression. -/
def bracketed (cs : List Char) : List Char :=
  let front := match cs with
    | '^' :: ']' :: _ => 2
    | '^' :: _ => 1
    | ']' :: _ => 1
    | _ => 0
  let body := (cs.drop front).takeWhile (· ≠ ']')
  if (cs.drop (front + body.length)).isEmpty then [] else cs.take (front + body.length + 1)

/-- Text up to a mark, which may be hidden behind a backslash; in an expression also between brackets. -/
def upTo (mark : Char) (isExpression : Bool) : Nat → List Char → Option (List Char × List Char)
  | 0, _ => none
  | _, [] => none
  | fuel + 1, '\\' :: c :: rest => do
    let (text, after) ← upTo mark isExpression fuel rest
    if c = mark then return (c :: text, after)
    else if c = 'n' && isExpression then return ('\n' :: text, after)
    else return ('\\' :: c :: text, after)
  | fuel + 1, c :: rest =>
    if c = mark then some ([], rest)
    else if c = '\n' && isExpression then none
    else if c = '[' && isExpression then do
      let inside := bracketed rest
      if inside.isEmpty then none
      let (text, after) ← upTo mark isExpression fuel (rest.drop inside.length)
      return (c :: inside ++ text, after)
    else (upTo mark isExpression fuel rest).map fun r => (c :: r.1, r.2)

def hexValue (cs : List Char) : Nat :=
  cs.foldl (fun n c => n * 16 + (if c.isDigit then c.toNat - 48 else c.toLower.toNat - 87)) 0

def numbered? : List Char → Option (Char × List Char)
  | 'x' :: rest =>
    let ds := (rest.take 2).takeWhile fun c => c.isDigit || ('a' ≤ c.toLower && c.toLower ≤ 'f')
    if ds.isEmpty then none else some (Char.ofNat (hexValue ds), rest.drop ds.length)
  | 'd' :: rest =>
    let ds := (rest.take 3).takeWhile Char.isDigit
    if ds.length < 3 then none else some (Char.ofNat (Decimal.value ds % 256), rest.drop 3)
  | 'o' :: rest =>
    let ds := (rest.take 3).takeWhile fun c => '0' ≤ c && c ≤ '7'
    if ds.length < 3 then none else some (Char.ofNat (ds.foldl (fun n c => n * 8 + (c.toNat - 48)) 0 % 256), rest.drop 3)
  | _ => none

/-- Characters that stand for themselves where an expression would see more in them. -/
def guarded (c : Char) : List Char := if c.isAlphanum then [c] else ['\\', c]

def withNumbers : Nat → List Char → List Char
  | 0, cs => cs
  | _, [] => []
  | fuel + 1, '\\' :: rest =>
    match numbered? rest with
    | some (c, after) => guarded c ++ withNumbers fuel after
    | none => match rest with
      | c :: more => '\\' :: c :: withNumbers fuel more
      | [] => ['\\']
  | fuel + 1, c :: rest => c :: withNumbers fuel rest

def expression (extended anyCase : Bool) (cs : List Char) (rest : List Char) : Except Misread (Option Regex) :=
  if cs.isEmpty then .ok none
  else match Text.Regex.Classic.read ⟨extended, anyCase⟩ (withNumbers (cs.length + 1) cs) with
    | .ok r => .ok (some r)
    | .error e => fail e.message rest

def nat (cs : List Char) : Nat × List Char := (Decimal.value (cs.takeWhile Char.isDigit), cs.dropWhile Char.isDigit)

def address? (extended : Bool) (cs : List Char) : Except Misread (Option Address × List Char) :=
  let pattern (mark : Char) (cs : List Char) : Except Misread (Option Address × List Char) :=
    match upTo mark true (cs.length + 1) cs with
    | none => fail "unterminated address regex" []
    | some (text, rest) => do
      let flags := rest.takeWhile fun c => c = 'I' || c = 'M'
      let rest := rest.drop flags.length
      let r ← expression extended (flags.contains 'I') text rest
      return (some (.fits r), rest)
  match cs with
  | '$' :: rest => .ok (some .last, rest)
  | '/' :: rest => pattern '/' rest
  | '\\' :: mark :: rest => pattern mark rest
  | c :: _ =>
    if c.isDigit then
      let (n, rest) := nat cs
      match rest with
      | '~' :: more =>
        let (step, rest) := nat more
        .ok (some (.step n step), rest)
      | _ => .ok (some (.line n), rest)
    else .ok (none, cs)
  | [] => .ok (none, [])

def stop (extended : Bool) (cs : List Char) : Except Misread (Stop × List Char) :=
  match cs with
  | '+' :: rest => let (n, rest) := nat rest; .ok (.after n, rest)
  | '~' :: rest => let (n, rest) := nat rest; .ok (.multiple n, rest)
  | _ => do
    match ← address? extended cs with
    | (some a, rest) => return (.address a, rest)
    | (none, rest) => fail ("unexpected " ++ named ",") rest

def ended (cs : List Char) : Except Misread (List Char) :=
  let cs := cs.dropWhile isGap
  match cs with
  | [] => .ok []
  | c :: rest =>
    if c = ';' || c = '\n' then .ok rest
    else if c = '\x7d' || c = '#' then .ok cs
    else fail "extra characters after command" rest

def addedText : Nat → List Char → List Char × List Char
  | 0, cs => ([], cs)
  | _, [] => ([], [])
  | _ + 1, ['\\'] => ([], [])
  | fuel + 1, '\\' :: c :: rest =>
    let known := [('t', '\t'), ('n', '\n'), ('f', Char.ofNat 12), ('v', Char.ofNat 11), ('a', Char.ofNat 7)]
    let (text, after) := addedText fuel rest
    ((known.lookup c).getD c :: text, after)
  | _ + 1, '\n' :: rest => ([], rest)
  | fuel + 1, c :: rest => let (text, after) := addedText fuel rest; (c :: text, after)

def textOf (cs : List Char) : Except Misread (List Char × List Char) :=
  let cs := cs.dropWhile isGap
  match cs with
  | [] => fail ("expected \\ after " ++ named "a" ++ ", " ++ named "c" ++ " or " ++ named "i") []
  | '\\' :: rest =>
    let behind := rest.dropWhile isGap
    let rest := match behind with
      | '\n' :: more => more
      | _ => rest
    if rest.isEmpty then .ok ([], [])
    else
      let (text, after) := addedText (rest.length + 1) rest
      .ok (text ++ ['\n'], after)
  | _ =>
    let (text, after) := addedText (cs.length + 1) cs
    .ok (text ++ ['\n'], after)

def inserts : Nat → List Char → List Insert
  | 0, _ => []
  | _, [] => []
  | fuel + 1, '\\' :: c :: rest =>
    if c.isDigit then .group (c.toNat - 48) :: inserts fuel rest
    else if "LUluE".toList.contains c then .case c :: inserts fuel rest
    else match numbered? (c :: rest) with
      | some (c, after) => .text [c] :: inserts fuel after
      | none =>
        let known := [('n', '\n'), ('t', '\t'), ('r', '\r'), ('f', Char.ofNat 12), ('v', Char.ofNat 11), ('a', Char.ofNat 7)]
        .text [(known.lookup c).getD c] :: inserts fuel rest
  | fuel + 1, '&' :: rest => .group 0 :: inserts fuel rest
  | fuel + 1, c :: rest => .text [c] :: inserts fuel rest

structure Flags where
  all : Bool := false
  prints : Bool := false
  anyCase : Bool := false
  first : Option Nat := none
  file : Option String := none

def flagsOf : Nat → Flags → List Char → Except Misread (Flags × List Char)
  | 0, f, cs => .ok (f, cs)
  | fuel + 1, f, cs =>
    match cs with
    | [] => .ok (f, [])
    | c :: rest =>
      if c = 'g' then if f.all then fail ("multiple " ++ named "g" ++ " options to " ++ named "s" ++ " command") rest
        else flagsOf fuel { f with all := true } rest
      else if c = 'p' then if f.prints then fail ("multiple " ++ named "p" ++ " options to " ++ named "s" ++ " command") rest
        else flagsOf fuel { f with prints := true } rest
      else if c = 'i' || c = 'I' then flagsOf fuel { f with anyCase := true } rest
      else if c = 'm' || c = 'M' then flagsOf fuel f rest
      else if c.isDigit then
        let (n, rest) := nat cs
        if n = 0 then fail ("number option to " ++ named "s" ++ " command may not be zero") rest
        else if f.first.isSome then fail ("multiple number options to " ++ named "s" ++ " command") rest
        else flagsOf fuel { f with first := some n } rest
      else if c = 'w' then
        let name := (rest.dropWhile isGap).takeWhile (· ≠ '\n')
        if name.isEmpty then fail "missing filename in r/R/w/W commands" rest
        else .ok ({ f with file := some (String.ofList name) }, (rest.dropWhile isGap).drop name.length)
      else if c = ';' || c = '\n' then .ok (f, rest)
      else if c = '\x7d' || c = '#' then .ok (f, cs)
      else if isGap c then flagsOf fuel f rest
      else fail ("unknown option to " ++ named "s") rest

def groups : Regex → Nat
  | .seq a b | .alt a b => max (groups a) (groups b)
  | .many r _ _ => groups r
  | .group n r => max n (groups r)
  | _ => 0

def substitution (extended : Bool) (cs : List Char) : Except Misread (Act × List Char) := do
  let unterminated {α : Type} : Except Misread α := fail ("unterminated " ++ named "s" ++ " command") []
  match cs with
  | [] => unterminated
  | mark :: rest =>
    match upTo mark true (rest.length + 1) rest with
    | none => unterminated
    | some (pattern, rest) =>
      match upTo mark false (rest.length + 1) rest with
      | none => unterminated
      | some (text, rest) =>
        let (f, rest) ← flagsOf (rest.length + 1) {} rest
        let r ← expression extended f.anyCase pattern rest
        let ins := inserts (text.length + 1) text
        let high := ins.foldl (fun n i => match i with
          | .group k => max n k
          | _ => n) 0
        if r.any fun r => groups r < high then
          fail ("invalid reference \\" ++ toString high ++ " on " ++ named "s" ++ " command's RHS") rest
        else return (.substitute ⟨r, ins, f.all, f.first.getD 1, f.prints, f.file⟩, rest)

def side : List Char → List Char
  | '\\' :: 'n' :: rest => '\n' :: side rest
  | '\\' :: 't' :: rest => '\t' :: side rest
  | '\\' :: '\\' :: rest => '\\' :: side rest
  | c :: rest => c :: side rest
  | [] => []

def exchange (cs : List Char) : Except Misread (Act × List Char) := do
  let unterminated {α : Type} : Except Misread α := fail ("unterminated " ++ named "y" ++ " command") []
  match cs with
  | [] => unterminated
  | mark :: rest =>
    match upTo mark false (rest.length + 1) rest with
    | none => unterminated
    | some (a, rest) =>
      match upTo mark false (rest.length + 1) rest with
      | none => unterminated
      | some (b, rest) =>
        if (side a).length ≠ (side b).length then fail ("strings for " ++ named "y" ++ " command are different lengths") rest
        else return (.exchange ((side a).zip (side b)), ← ended rest)

/-- A name behind the letter of a command, up to the end of the line or a semicolon. -/
def labelOf (cs : List Char) : List Char × List Char :=
  let cs := cs.dropWhile isGap
  let name := cs.takeWhile fun c => c ≠ '\n' && c ≠ ';' && c ≠ '\x7d'
  ((name.reverse.dropWhile isGap).reverse, (cs.drop name.length).dropWhile fun c => c = ';')

def fileOf (cs : List Char) : Except Misread (String × List Char) :=
  let body := cs.dropWhile isGap
  let name := body.takeWhile (· ≠ '\n')
  if name.isEmpty then fail "missing filename in r/R/w/W commands" body
  else .ok (String.ofList name, (body.drop name.length).drop 1)

/-- Reads a command behind its addresses; blocks come without the place of their end. -/
def act (extended : Bool) (c : Char) (rest : List Char) : Except Misread (Act × List Char) := do
  let simple (a : Act) : Except Misread (Act × List Char) := do return (a, ← ended rest)
  match c with
  | 'p' => simple .print
  | 'P' => simple .printFirst
  | 'd' => simple .delete
  | 'D' => simple .deleteFirst
  | 'n' => simple .next
  | 'N' => simple .nextAppended
  | 'h' => simple (.hold false)
  | 'H' => simple (.hold true)
  | 'g' => simple (.recall false)
  | 'G' => simple (.recall true)
  | 'x' => simple .swap
  | '=' => simple .number
  | 'l' => simple .showAll
  | 'z' => simple .clear
  | 'q' | 'Q' =>
    let (n, after) := nat (rest.dropWhile isGap)
    return (.quit n (c = 'Q'), ← ended after)
  | 'a' => return (← textOf rest).map .append id
  | 'i' => return (← textOf rest).map .insert id
  | 'c' => return (← textOf rest).map .change id
  | 's' => substitution extended rest
  | 'y' => exchange rest
  | 'b' => let (l, rest) := labelOf rest; return (.jump l, rest)
  | 't' => let (l, rest) := labelOf rest; return (.jumpIf true l, rest)
  | 'T' => let (l, rest) := labelOf rest; return (.jumpIf false l, rest)
  | ':' => let (l, rest) := labelOf rest; return (.label l, rest)
  | 'r' => return (← fileOf rest).map .readFile id
  | 'w' => return (← fileOf rest).map .writeFile id
  | 'R' | 'W' => fail "missing filename in r/R/w/W commands" rest
  | _ => fail ("unknown command: " ++ named (String.singleton c)) rest

/-- Reads commands one after the other, last first; `open_` holds the places where blocks begin. -/
def steps (extended : Bool) : Nat → List Nat → Array Step → List Char → Except Misread (Array Step)
  | 0, _, acc, _ => .ok acc
  | fuel + 1, open_, acc, cs => do
    let cs := cs.dropWhile fun c => isGap c || c = '\n' || c = ';'
    match cs with
    | [] => if open_.isEmpty then return acc else .error ⟨"unmatched " ++ named "\x7b", 1000000000⟩
    | '#' :: rest => steps extended fuel open_ acc (rest.dropWhile (· ≠ '\n'))
    | _ =>
      let (first, rest) ← address? extended cs
      let (stop, rest) ← match first, rest.dropWhile isGap with
        | some _, ',' :: more => do
          let (s, rest) ← stop extended (more.dropWhile isGap)
          pure (some s, rest)
        | _, _ => pure (none, rest)
      let rest := rest.dropWhile isGap
      let bangs := rest.takeWhile fun c => c = '!' || isGap c
      let rest := rest.drop bangs.length
      if bangs.count '!' > 1 then fail ("multiple " ++ named "!" ++ "s") rest
      else
        let add (a : Act) : Array Step := acc.push ⟨first, stop, bangs.contains '!', a⟩
        match rest with
        | [] => fail "missing command" []
        | '\x7b' :: rest => steps extended fuel (acc.size :: open_) (add (.block 0)) rest
        | '\x7d' :: rest =>
          match open_ with
          | [] => fail ("unexpected " ++ named "\x7d") rest
          | o :: open_ =>
            if first.isSome then fail "\x7d doesn't want any addresses" rest
            else
              let acc := (acc.modify o fun s => { s with act := .block acc.size }).push ⟨none, none, false, .nothing⟩
              steps extended fuel open_ acc (← ended rest)
        | c :: rest =>
          if (c = 'q' || c = 'Q' || c = 'r') && stop.isSome && c ≠ 'r' then fail "command only uses one address" rest
          else if c = ':' && first.isSome then fail ": doesn't want any addresses" rest
          else
            let isZero := match first, stop with
              | some (.line 0), some (.address (.fits _)) => false
              | some (.line 0), _ => true
              | _, _ => false
            if isZero then fail "invalid usage of line address 0" rest
            else
              let (a, rest) ← act extended c rest
              steps extended fuel open_ (add a) rest

/-! Applying commands. -/

structure State where
  /-- Lines to come, each with whether a newline ends it. -/
  lines : List (List Char × Bool)
  pattern : List Char
  isEnded : Bool
  held : List Char
  number : Nat
  /-- What is written at the end of the round, last first. -/
  owed : List (List Char)
  /-- What was written, last first. -/
  out : List (List Char)
  /-- The last line that was written had no newline. -/
  isOpen : Bool
  files : List (String × List Char)
  replaced : Bool
  recent : Option Regex
  /-- Ranges that are open, with the line where they end if it is known. -/
  ranges : List (Nat × Option Nat)
  exit : Option Nat

namespace State

def write (s : State) (cs : List Char) : State :=
  { s with out := cs :: (if s.isOpen then ['\n'] :: s.out else s.out), isOpen := false }

def writeLine (s : State) (cs : List Char) : State :=
  if s.isEnded then s.write (cs ++ ['\n']) else { s.write cs with isOpen := true }

def settle (s : State) : State := { s.owed.foldr (fun cs s => s.write cs) s with owed := [] }

def keepIn (s : State) (file : String) (cs : List Char) : State :=
  { s with files := (file, (s.files.lookup file).getD [] ++ cs) :: s.files.filter (·.1 ≠ file) }

end State

def isFitting (s : State) (r : Option Regex) : Bool × State :=
  match r.or s.recent with
  | none => (false, s)
  | some r => (r.occursIn s.pattern, { s with recent := some r })

def isAt (s : State) : Address → Bool × State
  | .line n => (s.number = n, s)
  | .step first by_ => (if by_ = 0 then s.number = first else s.number ≥ first && (s.number - first) % by_ = 0, s)
  | .last => (s.lines.isEmpty, s)
  | .fits r => isFitting s r

def isChosen (i : Nat) (p : Step) (s : State) : Bool × State :=
  let opened (end_ : Option Nat) (s : State) : State := { s with ranges := (i, end_) :: s.ranges.filter (·.1 ≠ i) }
  let closed (s : State) : State := { s with ranges := s.ranges.filter (·.1 ≠ i) }
  let begin_ (a : Address) (stop : Stop) (s : State) : Bool × State :=
    match isAt s a with
    | (false, s) => (false, s)
    | (true, s) =>
      match stop with
      | .address (.line n) => (true, if n ≤ s.number then s else opened (some n) s)
      | .after n => (true, if n = 0 then s else opened (some (s.number + n)) s)
      | .multiple n => (true, if n = 0 || s.number % n = 0 then s else opened (some ((s.number / n + 1) * n)) s)
      | _ => (true, opened none s)
  let inRange (stop : Stop) (s : State) : Bool × State :=
    match s.ranges.lookup i, stop with
    | some (some n), _ => (s.number ≤ n, if s.number ≥ n then closed s else s)
    | _, .address a =>
      let (isEnd, s) := isAt s a
      (true, if isEnd then closed s else s)
    | _, _ => (true, s)
  let (r, s) := match p.first, p.stop with
    | none, _ => (true, s)
    | some a, none => isAt s a
    | some (.line 0), some stop =>
      if (s.ranges.lookup i).isSome then inRange stop s
      else if s.number = 1 then inRange stop (opened none s) else (false, s)
    | some a, some stop => if (s.ranges.lookup i).isSome then inRange stop s else begin_ a stop s
  (r != p.negated, s)

/-- Text with the cases that were asked for: for one character, and for all that follow. -/
def cased (once all : Char) : List Char → List Char
  | [] => []
  | c :: rest =>
    let by_ (k : Char) (c : Char) : Char := if k = 'U' || k = 'u' then c.toUpper else if k = 'L' || k = 'l' then c.toLower else c
    (if once ≠ 'E' then by_ once c else by_ all c) :: rest.map (by_ all)

def filled (t : Array Char) (start : Nat) (h : Regex.Hit) (ins : List Insert) : List Char :=
  (ins.foldl (fun (acc : List Char × Char × Char) i =>
    let (out, once, all) := acc
    let add (cs : List Char) : List Char × Char × Char :=
      if cs.isEmpty then acc else (out ++ cased once all cs, 'E', all)
    match i with
    | .text cs => add cs
    | .group 0 => add (t.extract start h.pos).toList
    | .group n => match h.spans.lookup n with
      | some (a, b) => add (t.extract a b).toList
      | none => acc
    | .case c => if c = 'u' || c = 'l' then (out, c, all) else (out, 'E', c)) ([], 'E', 'E')).1

/-- Replaces hits from a place on; `count` hits came before, the last of them up to `prior`. Says whether any was
replaced. -/
def replaced (x : Substitution) (r : Regex) (t : Array Char) : Nat → Nat → Nat → Option Nat → List Char × Bool
  | 0, start, _, _ => ((t.extract start t.size).toList, false)
  | fuel + 1, start, count, prior =>
    match (if start > t.size then none else r.find? t start) with
    | none => ((t.extract start t.size).toList, false)
    | some (a, h) =>
      let front := (t.extract start a).toList
      -- behind an empty hit one character is passed over
      let passed := if h.pos = a then (t.extract a (a + 1)).toList else []
      let next := if h.pos = a then a + 1 else h.pos
      if h.pos = a && prior = some a then
        let (more, any) := replaced x r t fuel next count none
        (front ++ passed ++ more, any)
      else if count + 1 < x.first then
        let (more, any) := replaced x r t fuel next (count + 1) (some h.pos)
        (front ++ (t.extract a h.pos).toList ++ passed ++ more, any)
      else
        let new := filled t a h x.inserts
        if x.all then
          let (more, _) := replaced x r t fuel next (count + 1) (some h.pos)
          (front ++ new ++ passed ++ more, true)
        else (front ++ new ++ (t.extract h.pos t.size).toList, true)

def shownAll (cs : List Char) : List Char :=
  cs.flatMap (fun c =>
    let known := [('\\', '\\'), ('\n', 'n'), ('\t', 't'), ('\r', 'r'), (Char.ofNat 7, 'a'), (Char.ofNat 8, 'b'), (Char.ofNat 12, 'f'),
      (Char.ofNat 11, 'v')]
    match known.lookup c with
    | some k => ['\\', k]
    | none => if c.toNat < 32 || c.toNat ≥ 127 then '\\' :: (List.replicate (3 - (Nat.toDigits 8 c.toNat).length) '0' ++ Nat.toDigits 8 c.toNat)
      else [c]) ++ ['$']

inductive Round where
  | done
  | dropped
  /-- Again, with what is left of the line. -/
  | again

def labelAt (program : Array Step) (l : List Char) : Nat :=
  ((program.toList.findIdx? fun s => match s.act with
    | .label n => n = l
    | _ => false).map (· + 1)).getD program.size

def round (program : Array Step) (quiet : Bool) (files : String → Option (List Char)) : Nat → Nat → State → Round × State
  | 0, _, s => (.done, { s with exit := some 1 })
  | fuel + 1, i, s =>
    match program[i]? with
    | none => (.done, s)
    | some p =>
      let go (s : State) : Round × State := round program quiet files fuel (i + 1) s
      let goTo (j : Nat) (s : State) : Round × State := round program quiet files fuel j s
      match isChosen i p s with
      | (false, s) => match p.act with
        | .block close => goTo (close + 1) s
        | _ => go s
      | (true, s) =>
        match p.act with
        | .nothing | .block _ | .label _ => go s
        | .print => go (s.writeLine s.pattern)
        | .printFirst => go (s.write (s.pattern.takeWhile (· ≠ '\n') ++ ['\n']))
        | .delete => (.dropped, s)
        | .deleteFirst =>
          if s.pattern.contains '\n' then (.again, { s with pattern := (s.pattern.dropWhile (· ≠ '\n')).drop 1 }) else (.dropped, s)
        | .next =>
          match s.lines with
          | [] => (if quiet then .dropped else .done, { s with exit := some 0 })
          | (l, e) :: rest =>
            let s := (if quiet then s else s.writeLine s.pattern).settle
            go { s with pattern := l, isEnded := e, lines := rest, number := s.number + 1 }
        | .nextAppended =>
          match s.lines with
          | [] => (if quiet then .dropped else .done, { s with exit := some 0 })
          | (l, e) :: rest =>
            let s := s.settle
            go { s with pattern := s.pattern ++ '\n' :: l, isEnded := e, lines := rest, number := s.number + 1 }
        | .hold adds => go { s with held := if adds then s.held ++ '\n' :: s.pattern else s.pattern }
        | .recall adds => go { s with pattern := if adds then s.pattern ++ '\n' :: s.held else s.held }
        | .swap => go { s with pattern := s.held, held := s.pattern }
        | .quit code silent => (if silent || quiet then .dropped else .done, { s with exit := some code })
        | .number => go (s.write ((toString s.number).toList ++ ['\n']))
        | .append text => go { s with owed := text :: s.owed }
        | .insert text => go (s.write text)
        | .change text =>
          let isInside := p.stop.isSome && !p.negated && (s.ranges.lookup i).isSome
          (.dropped, if isInside then s else s.write text)
        | .substitute x =>
          match x.expression.or s.recent with
          | none => go s
          | some r =>
            let t := s.pattern.toArray
            let s := { s with recent := some r }
            match replaced x r t (2 * t.size + 2) 0 0 none with
            | (_, false) => go s
            | (text, true) =>
              let s := { s with pattern := text, replaced := true }
              let s := if x.prints then s.writeLine s.pattern else s
              go (match x.file with
                | some f => s.keepIn f (s.pattern ++ ['\n'])
                | none => s)
        | .exchange table => go { s with pattern := s.pattern.map fun c => (table.lookup c).getD c }
        | .jump l => goTo (if l.isEmpty then program.size else labelAt program l) s
        | .jumpIf wanted l =>
          if s.replaced = wanted then
            goTo (if l.isEmpty then program.size else labelAt program l) { s with replaced := false }
          else go { s with replaced := false }
        | .readFile f => go { s with owed := (match files f with
            | some text => text :: s.owed
            | none => s.owed) }
        | .writeFile f => go (s.keepIn f (s.pattern ++ ['\n']))
        | .showAll => go (s.write (shownAll s.pattern ++ ['\n']))
        | .clear => go { s with pattern := [] }

def rounds (program : Array Step) (quiet : Bool) (files : String → Option (List Char)) : Nat → Bool → State → State
  | 0, _, s => s
  | fuel + 1, again, s =>
    if s.exit.isSome then s
    else
      let started : Option State :=
        if again then some s
        else match s.lines with
          | [] => none
          | (l, e) :: rest => some { s with pattern := l, isEnded := e, lines := rest, number := s.number + 1, replaced := false }
      match started with
      | none => s
      | some s =>
        match round program quiet files 100000 0 s with
        | (.done, s) => rounds program quiet files fuel false (if quiet then s else s.writeLine s.pattern).settle
        | (.dropped, s) => rounds program quiet files fuel false s.settle
        | (.again, s) => rounds program quiet files fuel true s.settle

def linesFrom (mark : UInt8) (data : ByteArray) : List (List Char × Bool) :=
  let swapped := data.toList.map fun b => if mark = Tool.newline then b else if b = mark then Tool.newline else if b = Tool.newline then mark else b
  (Tool.linesOf swapped).map fun l =>
    let isEnded := l.getLast? = some Tool.newline
    let cs := Tool.charsOf (Tool.bare l)
    (if mark = Tool.newline then cs else cs.map fun c => if c.toNat = 0 then '\n' else c, isEnded)

def begun (lines : List (List Char × Bool)) : State :=
  ⟨lines, [], true, [], 0, [], [], false, [], false, none, [], none⟩

def edited (program : Array Step) (quiet : Bool) (files : String → Option (List Char)) (s : State) : State :=
  rounds program quiet files (2 * s.lines.length + 100000) false s

end Edit

namespace Tool

def withSuffix (args : List String) : List String :=
  args.flatMap fun a => match a.toList with
    | '-' :: c :: cs =>
      let flags := (c :: cs).takeWhile fun c => "nErsuz".toList.contains c
      match (c :: cs).drop flags.length with
      | 'i' :: suffix => (if flags.isEmpty then [] else ["-" ++ String.ofList flags]) ++ ["--in-place=" ++ String.ofList suffix]
      | _ => [a]
    | _ => [a]

def sed : Tool := buffered fun args d =>
  let known : Options :=
    { flags := "nErsuzb", valued := "efl", words := ["quiet", "silent", "regexp-extended", "in-place", "separate", "null-data", "posix"]
      valuedWords := ["expression", "file"] }
  let usage := "Usage: sed [OPTION]... \x7bscript-only-if-no-other-script\x7d [input-file]..."
  match sortArgs known (args.length * 2 + 1) (withSuffix args) with
  | .error e => (1, (d.complain ("sed: " ++ e)).complain usage)
  | .ok g =>
    let given := g.options.filter fun o => ["e", "expression", "f", "file"].contains o.1
    let missing := given.find? fun o => (o.1 = "f" || o.1 = "file") && (contents o.2 d).toOption.isNone
    match missing with
    | some (_, f) => (4, d.complain ("sed: couldn't open file " ++ f ++ ": " ++ Errno.missing.wording))
    | none =>
      let sources := if given.isEmpty then g.operands.take 1 else given.map fun o =>
        if o.1 = "e" || o.1 = "expression" then o.2
        else match contents o.2 d with
          | .ok (data, _) => Utf8.lossy data
          | .error _ => ""
      let operands := if given.isEmpty then g.operands.drop 1 else g.operands
      if sources.isEmpty then (1, d.complain usage)
      else
        let text := bytesOf ("\n".intercalate sources)
        let extended := g.has ["E", "r", "regexp-extended"]
        match Edit.steps extended (2 * text.length + 2) [] #[] text with
        | .error e =>
          (1, d.complain ("sed: -e expression #" ++ toString sources.length ++ ", char "
            ++ toString (text.length - e.left - sources.dropLast.foldl (fun n s => n + s.utf8ByteSize + 1) 0) ++ ": " ++ e.problem))
        | .ok program =>
          let labels := program.toList.filterMap fun s => match s.act with
            | .jump l | .jumpIf _ l => if l.isEmpty || program.toList.any (fun s => match s.act with | .label n => n = l | _ => false) then none else some l
            | _ => none
          match labels with
          | l :: _ => (4, d.complain ("sed: can't find label for jump to " ++ Edit.named (String.ofList l)))
          | [] =>
            let quiet := g.has ["n", "quiet", "silent"] || text.take 3 = ['#', 'n', '\n']
            let mark : UInt8 := if g.has ["z", "null-data"] then 0 else newline
            let files (d : Desk) (f : String) : Option (List Char) :=
              (contents f d).toOption.map fun r => charsOf r.1.toList
            let bytes (s : Edit.State) : ByteArray :=
              let cs := s.out.reverse.flatten
              let cs := if mark = newline then cs else cs.map fun c => if c = '\n' then Char.ofNat 0 else c
              ⟨(ofChars cs).toArray⟩
            let kept (s : Edit.State) (d : Desk) : Desk :=
              s.files.foldl (fun d f => (keep d f.1 ⟨(ofChars f.2).toArray⟩).toOption.getD d) d
            let unread (f : String) (e : Fault) (d : Desk) : Desk :=
              d.complain (if e = .os .isDir then
                (if g.has ["in-place"] then "sed: couldn't edit " ++ f ++ ": not a regular file" else "sed: read error on " ++ f ++ ": " ++ wording e)
                else "sed: can't read " ++ f ++ ": " ++ wording e)
            if g.has ["in-place", "s", "separate"] then
              let suffix := (g.value? ["in-place"]).getD ""
              operands.foldl (fun (code, d) (f : String) =>
                match contents f d with
                | .error e => (if e = .os .isDir then 4 else 2, unread f e d)
                | .ok (data, d) =>
                  let s := Edit.edited program quiet (files d) (Edit.begun (Edit.linesFrom mark data))
                  let code := s.exit.getD code
                  if g.has ["in-place"] then
                    let mode := match d.disk.find d.cwd f with
                      | .ok (_, .file _ mode _) => mode
                      | _ => 0o644
                    let d := if suffix.isEmpty then d else
                      let copy := if suffix.contains '*' then suffix.replace "*" f else f ++ suffix
                      (match keep d copy data with
                        | .ok d => { d with disk := (d.disk.setMode d.cwd copy mode).toOption.getD d.disk }
                        | .error _ => d)
                    -- the file is replaced by a new one of the same name and mode
                    let disk := (d.disk.unlink d.cwd f).toOption.getD d.disk
                    match keep { d with disk := disk } f (bytes s) with
                    | .ok d => (code, kept s { d with disk := (d.disk.setMode d.cwd f mode).toOption.getD d.disk })
                    | .error e => (4, d.complain ("sed: couldn't open file " ++ f ++ ": " ++ wording e))
                  else (code, (kept s d).put (bytes s))) (0, d)
            else
              let (data, code, d) := (orInput operands).foldl (fun (acc : ByteArray × Nat × Desk) f =>
                match contents f acc.2.2 with
                | .ok (more, d) =>
                  let joint := if acc.1.isEmpty || acc.1.toList.getLast? = some mark || more.isEmpty then ByteArray.empty else ⟨#[mark]⟩
                  (acc.1 ++ joint ++ more, acc.2.1, d)
                | .error e => (acc.1, if e = .os .isDir then 4 else 2, unread f e acc.2.2)) (ByteArray.empty, 0, d)
              let s := Edit.edited program quiet (files d) (Edit.begun (Edit.linesFrom mark data))
              (match s.exit with
                | some n => if n = 0 then code else n
                | none => code, (kept s d).put (bytes s))

end Tool

end Provision.Shell
