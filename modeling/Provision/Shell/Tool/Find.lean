import Provision.Shell.Tool.Files
import Provision.Shell.Tool.Lines
import Provision.Shell.Pattern
import Provision.Kernel

set_option autoImplicit false

namespace Provision.Shell

abbrev Runner := String → List String → Desk → Except Errno (Exit × Desk)

namespace Tool

def grave : String := String.singleton (Char.ofNat 96)

def graved (s : String) : String := grave ++ s ++ apostrophe

/-! Entries of directories. -/

inductive Query where
  | holds (b : Bool)
  | name (pattern : List Glob) (anyCase : Bool)
  | path (pattern : List Glob)
  | kind (letters : List Char)
  | empty
  | size (order : Ordering) (n unit : Nat)
  | mode (mark : Char) (bits : Nat)
  | newer (than : Nat)
  | print (ending : String)
  | format (text : List Char)
  | run (words : List String)
  | runAll (words : List String)
  | delete
  | prune
  | quit
  | not (q : Query)
  | both (a b : Query)
  | either (a b : Query)

def Query.isAction : Query → Bool
  | .print _ | .format _ | .run _ | .runAll _ | .delete | .quit => true
  | .not q => q.isAction
  | .both a b | .either a b => a.isAction || b.isAction
  | _ => false

def globOf (s : String) : List Glob := Glob.ofMarked true (mark false s.toList)

abbrev QueryRead := Except String (Query × List String)

mutual

def anyQuery (d : Desk) : Nat → List String → QueryRead
  | 0, _ => .error "find: invalid expression"
  | fuel + 1, ws => do
    let (a, rest) ← allQueries d fuel ws
    match rest with
    | "-o" :: more | "-or" :: more =>
      let (b, rest) ← anyQuery d fuel more
      return (.either a b, rest)
    | _ => return (a, rest)

def allQueries (d : Desk) : Nat → List String → QueryRead
  | 0, _ => .error "find: invalid expression"
  | fuel + 1, ws => do
    let (a, rest) ← oneQuery d fuel ws
    match rest with
    | [] => return (a, [])
    | w :: more =>
      if w = "-o" || w = "-or" || w = ")" then return (a, rest)
      else
        let (b, rest) ← allQueries d fuel (if w = "-a" || w = "-and" then more else rest)
        return (.both a b, rest)

def oneQuery (d : Desk) : Nat → List String → QueryRead
  | 0, _ => .error "find: invalid expression"
  | _ + 1, [] => .error "find: invalid expression; expected to find a ')' but didn't see one."
  | fuel + 1, w :: rest =>
    let valued (f : String → Except String Query) : QueryRead :=
      match rest with
      | v :: rest => (f v).map fun q => (q, rest)
      | [] => .error ("find: missing argument to " ++ graved w)
    match w with
    | "!" | "-not" => do
      let (q, rest) ← oneQuery d fuel rest
      return (.not q, rest)
    | "(" => do
      let (q, rest) ← anyQuery d fuel rest
      match rest with
      | ")" :: rest => return (q, rest)
      | _ => throw "find: invalid expression; I was expecting to find a ')' somewhere but did not see one."
    | "-name" => valued fun v => .ok (.name (globOf v) false)
    | "-iname" => valued fun v => .ok (.name (globOf v.toLower) true)
    | "-path" | "-wholename" => valued fun v => .ok (.path (globOf v))
    | "-type" => valued fun v =>
      let letters := v.toList.filter (· ≠ ',')
      match letters.find? fun c => !"fdlcbps".toList.contains c with
      | some c => .error ("find: Unknown argument to -type: " ++ String.singleton c)
      | none => .ok (.kind letters)
    | "-size" => valued fun v =>
      let (order, body) := match v.toList with
        | '+' :: b => (Ordering.gt, b)
        | '-' :: b => (Ordering.lt, b)
        | b => (Ordering.eq, b)
      let unit := match body.dropWhile Char.isDigit with
        | ['c'] => 1
        | ['k'] => 1024
        | ['M'] => 1048576
        | ['w'] => 2
        | _ => 512
      .ok (.size order (Decimal.value (body.takeWhile Char.isDigit)) unit)
    | "-perm" => valued fun v =>
      let (m, body) := match v.toList with
        | '-' :: b => ('-', b)
        | '/' :: b => ('/', b)
        | b => ('=', b)
      match changedMode 0 false (String.ofList body) 0 with
      | some bits => .ok (.mode m bits)
      | none => .error ("find: invalid mode " ++ quoted v)
    | "-newer" => valued fun v =>
      match d.disk.find d.cwd v with
      | .ok (_, .file serial _ _) => .ok (.newer serial)
      | .ok _ => .ok (.newer 0)
      | .error e => .error ("find: " ++ quoted v ++ ": " ++ wording e)
    | "-maxdepth" | "-mindepth" | "-user" | "-group" | "-mtime" | "-mmin" | "-links" => valued fun _ => .ok (.holds true)
    | "-empty" => .ok (.empty, rest)
    | "-true" | "-depth" | "-mount" | "-xdev" | "-readable" | "-writable" => .ok (.holds true, rest)
    | "-false" => .ok (.holds false, rest)
    | "-executable" => .ok (.mode '/' 0o111, rest)
    | "-print" => .ok (.print "\n", rest)
    | "-print0" => .ok (.print (String.singleton (Char.ofNat 0)), rest)
    | "-printf" => valued fun v => .ok (.format v.toList)
    | "-delete" => .ok (.delete, rest)
    | "-prune" => .ok (.prune, rest)
    | "-quit" => .ok (.quit, rest)
    | "-exec" | "-ok" | "-execdir" =>
      let words := rest.takeWhile fun a => a ≠ ";"
      let upToPlus := rest.takeWhile fun a => a ≠ "+"
      if upToPlus.length < words.length && upToPlus.getLast? = some "\x7b\x7d" then
        .ok (.runAll upToPlus.dropLast, rest.drop (upToPlus.length + 1))
      else if words.length = rest.length || words.isEmpty then .error ("find: missing argument to " ++ graved w)
      else .ok (.run words, rest.drop (words.length + 1))
    | _ =>
      if w.startsWith "-" then .error ("find: unknown predicate " ++ graved w)
      else .error ("find: paths must precede expression: " ++ graved w)

end

/-- An entry that is looked at: its path, what it is, and its place. -/
structure Entry where
  path : String
  node : Node
  place : Place
  depth : Nat

def Entry.name (e : Entry) : String :=
  let cs := (e.path.toList.reverse.dropWhile (· = '/'))
  if cs.isEmpty then "/" else String.ofList (cs.takeWhile (· ≠ '/')).reverse

structure Search.State where
  desk : Desk
  /-- Paths for programs that take them all at once. -/
  gathered : List String
  pruned : List Place
  isOver : Bool
  code : Nat

def formatted (e : Entry) : Nat → List Char → String
  | 0, _ => ""
  | _, [] => ""
  | fuel + 1, '%' :: c :: rest =>
    let dir := String.ofList ((e.path.toList.reverse.dropWhile (· ≠ '/')).drop 1).reverse
    (match c with
      | 'p' => e.path
      | 'f' => e.name
      | 'h' => if e.path.contains '/' then dir else "."
      | 'P' => String.ofList (Path.joined ((Path.segments e.path.toList).reverse.take e.depth).reverse)
      | 's' => toString (sizeOf e.node)
      | 'd' => toString e.depth
      | 'm' => String.ofList (Nat.toDigits 8 (match e.node with
        | .file _ mode _ => mode
        | .link _ => 0o777
        | _ => 0o755))
      | 'y' => (match e.node with
        | .dir => "d"
        | .link _ => "l"
        | .device _ => "c"
        | _ => "f")
      | 'l' => (match e.node with
        | .link target => target.text
        | _ => "")
      | '%' => "%"
      | c => String.ofList ['%', c]) ++ formatted e fuel rest
  | fuel + 1, '\\' :: c :: rest =>
    (match c with
      | 'n' => "\n"
      | 't' => "\t"
      | '0' => String.singleton (Char.ofNat 0)
      | '\\' => "\\"
      | c => String.ofList ['\\', c]) ++ formatted e fuel rest
  | fuel + 1, c :: rest => String.singleton c ++ formatted e fuel rest

def Query.ask (run : Runner) (e : Entry) : Query → Search.State → Bool × Search.State
  | .holds b, s => (b, s)
  | .name p anyCase, s => (Glob.fits p (if anyCase then e.name.toLower else e.name).toList, s)
  | .path p, s => (Glob.fits p e.path.toList, s)
  | .kind letters, s => (letters.contains (match e.node with
      | .dir => 'd'
      | .link _ => 'l'
      | .device _ => 'c'
      | _ => 'f'), s)
  | .empty, s => (match e.node with
      | .dir => !s.desk.disk.hasChildren e.place
      | .file _ _ data => data.isEmpty
      | _ => false, s)
  | .size order n unit, s => (compare ((sizeOf e.node + unit - 1) / unit) n = order, s)
  | .mode mark bits, s =>
    let own := match e.node with
      | .file _ m _ => m
      | .link _ => 0o777
      | _ => 0o755
    (if mark = '-' then own &&& bits = bits else if mark = '/' then bits = 0 || own &&& bits ≠ 0 else own = bits, s)
  | .newer than, s => (match e.node with
      | .file serial _ _ => serial > than
      | _ => false, s)
  | .print ending, s => (true, { s with desk := s.desk.say (e.path ++ ending) })
  | .format text, s => (true, { s with desk := s.desk.say (formatted e (text.length + 1) text) })
  | .run words, s =>
    let words := words.map fun w => w.replace "\x7b\x7d" e.path
    match run (words.headD "") (words.drop 1) s.desk with
    | .ok (exit, desk) => (exit.isSuccess, { s with desk := desk })
    | .error err => (false, { s with desk := s.desk.complain ("find: " ++ quoted (words.headD "") ++ ": " ++ err.wording) })
  | .runAll _, s => (true, { s with gathered := e.path :: s.gathered })
  | .delete, s =>
    match e.node with
    | .dir =>
      if s.desk.disk.hasChildren e.place then
        (false, { s with code := 1, desk := s.desk.complain ("find: cannot delete " ++ quoted e.path ++ ": " ++ Errno.notEmpty.wording) })
      else (true, { s with desk := { s.desk with disk := s.desk.disk.erase e.place } })
    | _ => (true, { s with desk := { s.desk with disk := s.desk.disk.erase e.place } })
  | .prune, s => (true, { s with pruned := e.place :: s.pruned })
  | .quit, s => (true, { s with isOver := true })
  | .not q, s =>
    let (r, s) := q.ask run e s
    (!r, s)
  | .both a b, s =>
    match a.ask run e s with
    | (true, s) => if s.isOver then (true, s) else b.ask run e s
    | r => r
  | .either a b, s =>
    match a.ask run e s with
    | (false, s) => b.ask run e s
    | r => r

def Query.together? : Query → Option (List String)
  | .runAll words => some words
  | .not q => q.together?
  | .both a b | .either a b => a.together?.or b.together?
  | _ => none

def find (run : Runner) : Tool := fun args d =>
  let args := args.dropWhile fun a => a = "-L" || a = "-P" || a = "-H"
  let paths := args.takeWhile fun a => !(a.startsWith "-" || a = "(" || a = "!")
  let words := args.drop paths.length
  let number (name : String) : Option Nat :=
    ((words.dropWhile (· ≠ name))[1]?).bind natural?
  match (if words.isEmpty then .ok (.holds true, []) else anyQuery d (4 * words.length + 4) words) with
  | .error e => (1, d.complain e)
  | .ok (_, w :: _) => (1, d.complain ("find: paths must precede expression: " ++ graved w))
  | .ok (q, []) =>
    let q := if q.isAction then q else .both q (.print "\n")
    let deepFirst := words.contains "-depth" || words.contains "-delete"
    let low := (number "-mindepth").getD 0
    let high := number "-maxdepth"
    let s := (if paths.isEmpty then ["."] else paths).foldl (fun (s : Search.State) (p : String) =>
      if s.isOver then s
      else match lying? s.desk p with
      | none =>
        let why := match s.desk.disk.find s.desk.cwd p with
          | .error e => wording e
          | .ok _ => Errno.missing.wording
        { s with code := 1, desk := s.desk.complain ("find: " ++ quoted p ++ ": " ++ why) }
      | some (place, node) =>
        let front := if p.endsWith "/" then p else p ++ "/"
        let entries := (⟨p, node, place, 0⟩ : Entry) :: (if node.isDir then (s.desk.disk.below place).map fun (names, n) =>
          ⟨front ++ String.ofList (Path.joined names), n, names.reverse ++ place, names.length⟩ else [])
        let entries := entries.filter fun e => low ≤ e.depth && high.all (e.depth ≤ ·)
        (if deepFirst then entries.reverse else entries).foldl (fun s e =>
          if s.isOver || (!deepFirst && s.pruned.any fun p => Disk.isUnder p e.place) then s
          else (q.ask run e s).2) s) ⟨d, [], [], false, 0⟩
    match q.together?, s.gathered.reverse with
    | some words, p :: ps =>
      match run (words.headD "") (words.drop 1 ++ p :: ps) s.desk with
      | .ok (exit, desk) => (if exit.isSuccess then s.code else 1, desk)
      | .error err => (1, s.desk.complain ("find: " ++ quoted (words.headD "") ++ ": " ++ err.wording))
    | _, _ => (s.code, s.desk)

/-! Words of the input. -/

/-- Words that blanks divide, with quotes and backslashes taken away; each with whether its line ends behind it. -/
def inputWords : Nat → Option Char → Option (List Char) → List Char → Except String (List (String × Bool))
  | 0, _, _, _ => .ok []
  | fuel + 1, quote, word, cs =>
    let done (ends : Bool) (rest : List Char) : Except String (List (String × Bool)) := do
      let more ← inputWords fuel none none rest
      match word with
      | some w => return (String.ofList w.reverse, ends) :: more
      | none => return more
    match quote, cs with
    | some q, [] =>
      .error ("xargs: unmatched " ++ (if q = '"' then "double" else "single")
        ++ " quote; by default quotes are special to xargs unless you use the -0 option")
    | some q, c :: rest =>
      if c = q then inputWords fuel none word rest
      else inputWords fuel quote (some (c :: word.getD [])) rest
    | none, [] => match word with
      | some w => .ok [(String.ofList w.reverse, true)]
      | none => .ok []
    | none, '\\' :: c :: rest => inputWords fuel none (some (c :: word.getD [])) rest
    | none, c :: rest =>
      if c = '\n' then done true rest
      else if c = ' ' || c = '\t' then done false rest
      else if c = '"' || c = Char.ofNat 39 then inputWords fuel (some c) (some (word.getD [])) rest
      else inputWords fuel none (some (c :: word.getD [])) rest

def groupsOf (n : Nat) : Nat → List String → List (List String)
  | 0, _ => []
  | fuel + 1, ws => if ws.isEmpty then [] else ws.take n :: groupsOf n fuel (ws.drop n)

def lineGroups (n : Nat) (ws : List (String × Bool)) : List (List String) :=
  let (groups, last, _) := ws.foldl (fun (acc : List (List String) × List String × Nat) (w, ends) =>
    let (groups, now, count) := acc
    let now := w :: now
    if ends then (if count + 1 ≥ n then (now.reverse :: groups, [], 0) else (groups, now, count + 1))
    else (groups, now, count)) ([], [], 0)
  ((if last.isEmpty then groups else last.reverse :: groups)).reverse

def ownOptions (valued : String) : List String → List String
  | a :: rest =>
    if a = "--" then [a]
    else if a.startsWith "-" && a.length > 1 then
      if a.length = 2 && valued.toList.contains (a.toList.getLastD ' ') then a :: rest.take 1 ++ ownOptions valued (rest.drop 1)
      else a :: ownOptions valued rest
    else []
  | [] => []
termination_by ws => ws.length

def xargs (run : Runner) : Tool := fun args d =>
  let own := ownOptions "nILdPsaE" args
  match sortArgs { flags := "0rtxop", valued := "nILdPsaE", words := ["null", "no-run-if-empty", "verbose"]
                   valuedWords := ["max-args", "delimiter", "replace", "max-procs", "arg-file"] } (own.length + 1) own with
  | .error e => misused "xargs" e d
  | .ok g =>
    let command := args.drop own.length
    let command := if command.isEmpty then ["echo"] else command
    let text := (Utf8.lossy d.input).toList
    let d := { d with input := ByteArray.empty }
    let mark := match g.value? ["d", "delimiter"] with
      | some "\\n" => some '\n'
      | some "\\0" => some (Char.ofNat 0)
      | some "\\t" => some '\t'
      | some s => s.toList.head?
      | none => if g.has ["0", "null"] then some (Char.ofNat 0) else none
    let replace := g.value? ["I", "replace"]
    let words : Except String (List (String × Bool)) :=
      match mark, replace with
      | some m, _ =>
        let parts := (String.ofList text).splitOn (String.singleton m)
        .ok ((if parts.getLast? = some "" then parts.dropLast else parts).map fun p => (p, true))
      | none, some _ =>
        let lines := (String.ofList text).splitOn "\n"
        .ok (lines.filterMap fun l =>
          let l := String.ofList (l.toList.dropWhile fun c => c = ' ' || c = '\t')
          if l.isEmpty then none else some (l, true))
      | none, none => inputWords (2 * text.length + 2) none none text
    match words with
    | .error e => (1, d.complain e)
    | .ok words =>
      let badNumber := (g.value? ["n", "max-args"]).filter fun v => (natural? v).all (· = 0)
      match badNumber with
      | some v =>
        misused "xargs" (if v = "0" then "value 0 for -n option should be >= 1" else "invalid number \"" ++ v ++ "\" for -n option") d
      | none =>
        let groups : List (List String) :=
          match replace, (g.value? ["n", "max-args"]).bind natural?, (g.value? ["L"]).bind natural? with
          | some _, _, _ => words.map fun w => [w.1]
          | none, some n, _ => groupsOf n (words.length + 1) (words.map (·.1))
          | none, none, some n => lineGroups (max n 1) words
          | none, none, none => if words.isEmpty then [] else [words.map (·.1)]
        let groups := if groups.isEmpty && replace.isNone && !g.has ["r", "no-run-if-empty"] then [[]] else groups
        let r := groups.foldl (fun (acc : Nat × Bool × Desk) group =>
          let (code, isOver, d) := acc
          if isOver then acc
          else
            let line := match replace with
              | some mark => command.map fun w => w.replace mark (group.headD "")
              | none => command ++ group
            let d := if g.has ["t", "verbose"] then d.complain (" ".intercalate line) else d
            let name := line.headD ""
            match run name (line.drop 1) d with
            | .ok (.code 0, d) => (code, false, d)
            | .ok (.code 255, d) => (124, true, d.complain ("xargs: " ++ name ++ ": exited with status 255; aborting"))
            | .ok (.code _, d) => (123, false, d)
            | .ok (.signal n, d) => (125, true, d.complain ("xargs: " ++ name ++ ": terminated by signal " ++ toString n))
            | .error e => (if e = .missing then 127 else 126, true, d.complain ("xargs: " ++ name ++ ": " ++ e.wording))) (0, false, d)
        (r.1, r.2.2)

end Tool

end Provision.Shell
