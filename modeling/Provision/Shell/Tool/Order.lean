import Provision.Shell.Tool.Lines

set_option autoImplicit false

namespace Provision.Shell.Tool

abbrev Line := List UInt8

structure Manner where
  numeric : Bool
  general : Bool
  human : Bool
  version : Bool
  month : Bool
  /-- Capital letters count as small ones. -/
  folds : Bool
  /-- Only letters, digits and blanks count. -/
  dictionary : Bool
  skipsBlanks : Bool
  reverse : Bool

def Manner.ofLetters (cs : List Char) : Manner :=
  ⟨cs.contains 'n', cs.contains 'g', cs.contains 'h', cs.contains 'V', cs.contains 'M', cs.contains 'f', cs.contains 'd',
   cs.contains 'b', cs.contains 'r'⟩

/-- A part of a line by fields and characters, each counted from zero. -/
structure SortKey where
  field : Nat
  char : Nat
  /-- The last field, and how many of its characters belong to the key; none stands for all. -/
  last : Option (Nat × Nat)
  manner : Option Manner

def isBlankByte (b : UInt8) : Bool := b = 32 || b = 9

/-- The line behind some fields; a separator behind the last of them stays if `keep`. -/
def behindFields (tab : Option UInt8) (keep : Bool) : Nat → Line → Line
  | 0, l => l
  | n + 1, l =>
    match tab with
    | some t =>
      let rest := l.dropWhile (· ≠ t)
      behindFields tab keep n (if n = 0 && keep then rest else rest.drop 1)
    | none => behindFields tab keep n ((l.dropWhile isBlankByte).dropWhile fun b => !isBlankByte b)

def SortKey.part (k : SortKey) (tab : Option UInt8) (m : Manner) (l : Line) : Line :=
  let skip (l : Line) : Line := if m.skipsBlanks then l.dropWhile isBlankByte else l
  let start := (skip (behindFields tab false k.field l)).drop k.char
  match k.last with
  | none => start
  | some (field, chars) =>
    let rest := if chars = 0 then behindFields tab true (field + 1) l else (skip (behindFields tab false field l)).drop chars
    start.take (start.length - rest.length)

/-- The decimal number in front of a line, as a whole number of millionths of millionths. -/
def leadingNumber (l : Line) : Int :=
  let l := l.dropWhile isBlankByte
  let (isNegative, l) := match l with
    | 45 :: rest => (true, rest)
    | _ => (false, l)
  let isDigit (b : UInt8) : Bool := 48 ≤ b && b ≤ 57
  let whole := l.takeWhile isDigit
  let part := match l.drop whole.length with
    | 46 :: rest => rest.takeWhile isDigit
    | _ => []
  let digits := whole ++ (part ++ List.replicate 12 48).take 12
  let n := digits.foldl (fun n b => n * 10 + (b.toNat - 48)) 0
  if isNegative then -Int.ofNat n else n

def unitRank (l : Line) : Nat :=
  let rest := (l.dropWhile isBlankByte).dropWhile fun b => b = 45 || b = 46 || (48 ≤ b && b ≤ 57)
  match rest.head? with
  | some b => (("KMGTPEZY".toList.map fun c => c.toNat.toUInt8).idxOf? b).elim 0 (· + 1)
  | none => 0

def versionParts : Nat → Line → List (Line × Nat)
  | 0, _ => []
  | fuel + 1, l =>
    if l.isEmpty then []
    else
      let isDigit (b : UInt8) : Bool := 48 ≤ b && b ≤ 57
      let text := l.takeWhile fun b => !isDigit b
      let digits := (l.drop text.length).takeWhile isDigit
      (text, digits.foldl (fun n b => n * 10 + (b.toNat - 48)) 0) :: versionParts fuel (l.drop (text.length + digits.length))

def monthRank (l : Line) : Nat :=
  let name := ((l.dropWhile isBlankByte).take 3).map fun b => if 97 ≤ b && b ≤ 122 then b - 32 else b
  let months := ["JAN", "FEB", "MAR", "APR", "MAY", "JUN", "JUL", "AUG", "SEP", "OCT", "NOV", "DEC"]
  ((months.map fun m => m.toUTF8.toList).idxOf? name).elim 0 (· + 1)

def ordering {α : Type} [LT α] [DecidableEq α] [DecidableRel (α := α) (· < ·)] (a b : α) : Ordering :=
  if a < b then .lt else if a = b then .eq else .gt

def Manner.seen (m : Manner) (l : Line) : Line :=
  let l := if m.skipsBlanks then l.dropWhile isBlankByte else l
  let l := if m.dictionary then l.filter fun b => isBlankByte b || (Char.ofNat b.toNat).isAlphanum else l
  if m.folds then l.map fun b => if 97 ≤ b && b ≤ 122 then b - 32 else b else l

def Manner.compare (m : Manner) (a b : Line) : Ordering :=
  let o :=
    if m.numeric || m.general then ordering (leadingNumber a) (leadingNumber b)
    else if m.human then (ordering (unitRank a) (unitRank b)).then (ordering (leadingNumber a) (leadingNumber b))
    else if m.version then
      let parts (l : Line) : List (List Nat) := (versionParts l.length l).flatMap fun p => [p.1.map UInt8.toNat, [p.2]]
      ordering (parts a) (parts b)
    else if m.month then ordering (monthRank a) (monthRank b)
    else ordering (m.seen a) (m.seen b)
  if m.reverse then o.swap else o

/-- How a sort goes: its keys, the manner of those without one of their own, and how equal lines are treated. -/
structure Sorting where
  tab : Option UInt8
  keys : List SortKey
  manner : Manner
  stable : Bool
  unique : Bool

def Sorting.byKeys (s : Sorting) (a b : Line) : Ordering :=
  if s.keys.isEmpty then s.manner.compare a b
  else s.keys.foldl (fun o k =>
    let m := k.manner.getD s.manner
    o.then (m.compare (k.part s.tab m a) (k.part s.tab m b))) .eq

def Sorting.compare (s : Sorting) (a b : Line) : Ordering :=
  let o := s.byKeys a b
  if o ≠ .eq || s.stable || s.unique then o
  else if s.manner.reverse then (ordering a b).swap else ordering a b

def Sorting.once (s : Sorting) : List Line → List Line
  | a :: rest =>
    match s.once rest with
    | b :: more => if s.byKeys a b = .eq then a :: more else a :: b :: more
    | [] => [a]
  | [] => []

def Sorting.sorted (s : Sorting) (ls : List Line) : List Line :=
  let ls := ls.mergeSort fun a b => s.compare a b ≠ .gt
  if s.unique then s.once ls else ls

def sortKey (text : String) : Except String SortKey := do
  let position (what : String) (cs : List Char) : Except String ((Nat × Nat × List Char) × List Char) := do
    let field := cs.takeWhile Char.isDigit
    if field.isEmpty then throw ("sort: invalid number " ++ what ++ ": invalid count at start of " ++ quoted (String.ofList cs))
    let rest := cs.drop field.length
    let (char, rest) := match rest with
      | '.' :: more => (Decimal.value (more.takeWhile Char.isDigit), more.dropWhile Char.isDigit)
      | _ => (0, rest)
    let flags := rest.takeWhile Char.isAlpha
    return ((Decimal.value field, char, flags), rest.drop flags.length)
  let ((field, char, flags), rest) ← position "at field start" text.toList
  if field = 0 then throw ("sort: field number is zero: invalid field specification " ++ quoted text)
  let manner (cs : List Char) : Option Manner := if cs.isEmpty then none else some (Manner.ofLetters cs)
  match rest with
  | ',' :: more =>
    let ((last, chars, others), _) ← position "after ','" more
    return ⟨field - 1, char - 1, some (last - 1, chars), manner (flags ++ others)⟩
  | _ => return ⟨field - 1, char - 1, none, manner flags⟩

def disorder (s : Sorting) : Nat → List Line → Option (Nat × Line)
  | n, a :: b :: rest =>
    let o := s.compare a b
    if o = .gt || (s.unique && o = .eq) then some (n + 1, b) else disorder s (n + 1) (b :: rest)
  | _, _ => none

def sort : Tool := withOptions "sort"
  { flags := "nrufbdghVsmcCziM", valued := "ktoST", valuedWords := ["key", "field-separator", "output"]
    words := ["numeric-sort", "reverse", "unique", "ignore-case", "stable", "version-sort", "check", "human-numeric-sort",
      "general-numeric-sort", "ignore-leading-blanks"] } (fun g d =>
  let letters := "nrfbdghVM".toList.filter fun c => g.has [String.singleton c]
  let letters := letters ++ (if g.has ["numeric-sort"] then ['n'] else []) ++ (if g.has ["reverse"] then ['r'] else [])
    ++ (if g.has ["ignore-case"] then ['f'] else []) ++ (if g.has ["version-sort"] then ['V'] else [])
    ++ (if g.has ["human-numeric-sort"] then ['h'] else []) ++ (if g.has ["general-numeric-sort"] then ['g'] else [])
    ++ (if g.has ["ignore-leading-blanks"] then ['b'] else [])
  match (g.values ["k", "key"]).mapM sortKey, g.value? ["t", "field-separator"] with
  | .error e, _ => (2, d.complain e)
  | .ok keys, tab =>
    if tab = some "" then (2, d.complain "sort: empty tab")
    else if tab.any (fun t => t.utf8ByteSize > 1 && t ≠ "\\0") then
      (2, d.complain ("sort: multi-character tab " ++ quoted (tab.getD "")))
    else
      let s : Sorting := ⟨tab.map fun t => if t = "\\0" then 0 else (t.toUTF8.toList.headD 0), keys, Manner.ofLetters letters,
        g.has ["s", "stable"], g.has ["u", "unique"]⟩
      let stop : UInt8 := if g.has ["z"] then 0 else newline
      let swap (l : Line) : Line := if stop = newline then l
        else l.map fun b => if b = 0 then newline else if b = newline then 0 else b
      let bad := (orInput g.operands).find? fun f => (contents f d).toOption.isNone
      match bad with
      | some f =>
        let e := match contents f d with
          | .error e => e
          | .ok _ => .os .missing
        (2, d.complain ((if e = .os .isDir then "sort: read failed: " else "sort: cannot read: ") ++ f ++ ": " ++ wording e))
      | none =>
        let (files, d) := (orInput g.operands).foldl (fun (acc : List Line × Desk) f =>
          match contents f acc.2 with
          | .ok (data, d) => (acc.1 ++ (linesOf (swap data.toList)).map bare, d)
          | .error _ => acc) ([], d)
        if g.has ["c", "C", "check"] then
          match disorder s 1 files with
          | none => (0, d)
          | some (n, l) => (1, if g.has ["C"] then d else d.complain ("sort: " ++ (g.operands.headD "-") ++ ":" ++ toString n
              ++ ": disorder: " ++ Utf8.lossy ⟨l.toArray⟩))
        else
          let data : ByteArray := ⟨(swap (((s.sorted files).map (· ++ [newline])).flatten)).toArray⟩
          match g.value? ["o", "output"] with
          | none => (0, d.put data)
          | some f =>
            match keep d f data with
            | .ok d => (0, d)
            | .error e => (2, d.complain ("sort: open failed: " ++ f ++ ": " ++ wording e))) 2

def runs (same : Line → Line → Bool) : List Line → List (Nat × List Line)
  | [] => []
  | a :: rest =>
    match runs same rest with
    | (n, b :: more) :: others => if same a b then (n + 1, a :: b :: more) :: others else (1, [a]) :: (n, b :: more) :: others
    | others => (1, [a]) :: others

def uniq : Tool := withOptions "uniq"
  { flags := "cduiDz", valued := "fsw", words := ["count", "repeated", "unique", "ignore-case"]
    valuedWords := ["skip-fields", "skip-chars", "check-chars"] } fun g d =>
  let number (names : List String) : Nat := ((g.value? names).bind natural?).getD 0
  let seen (l : Line) : Line :=
    let l := (behindFields none false (number ["f", "skip-fields"]) l).drop (number ["s", "skip-chars"])
    let l := if g.has ["w", "check-chars"] then l.take (number ["w", "check-chars"]) else l
    if g.has ["i", "ignore-case"] then l.map fun b => if 65 ≤ b && b ≤ 90 then b + 32 else b else l
  let read (f : String) (d : Desk) : Nat × Desk × Option ByteArray :=
    match contents f d with
    | .error e =>
      (1, d.complain (if e = .os .isDir then "uniq: error reading " ++ quoted f ++ ": " ++ wording e
        else "uniq: " ++ f ++ ": " ++ wording e), none)
    | .ok (data, d) =>
      let rs := runs (fun a b => seen a = seen b) ((linesOf data.toList).map bare)
      let rs := if g.has ["d", "repeated", "D"] then rs.filter (·.1 > 1) else rs
      let rs := if g.has ["u", "unique"] then rs.filter (·.1 = 1) else rs
      let line (r : Nat × List Line) : List Line :=
        if g.has ["D"] then r.2
        else [(if g.has ["c", "count"] then (rightIn 7 (toString r.1) ++ " ").toUTF8.toList else []) ++ r.2.headD []]
      (0, d, some (ofLines ((rs.flatMap line).map (· ++ [newline]))))
  match g.operands with
  | _ :: _ :: extra :: _ => misused "uniq" ("extra operand " ++ quoted extra) d
  | [f, target] =>
    match read f d with
    | (code, d, none) => (code, d)
    | (code, d, some data) =>
      match keep d target data with
      | .ok d => (code, d)
      | .error e => (1, d.complain ("uniq: " ++ target ++ ": " ++ wording e))
  | files =>
    match read (files.headD "-") d with
    | (code, d, none) => (code, d)
    | (code, d, some data) => (code, d.put data)

/-- Lines of two ordered files: those of the first only, of the second only, and of both. -/
def common : Nat → List Line → List Line → List (Nat × Line)
  | 0, _, _ => []
  | _ + 1, [], bs => bs.map fun b => (1, b)
  | _ + 1, as, [] => as.map fun a => (0, a)
  | fuel + 1, a :: as, b :: bs =>
    if a = b then (2, a) :: common fuel as bs
    else if a < b then (0, a) :: common fuel as (b :: bs)
    else (1, b) :: common fuel (a :: as) bs

def comm : Tool := withOptions "comm" { flags := "123" } fun g d =>
  match g.operands with
  | [] => misused "comm" "missing operand" d
  | [a] => misused "comm" ("missing operand after " ++ quoted a) d
  | [a, b] =>
    match contents a d with
    | .error e => (1, d.complain ("comm: " ++ a ++ ": " ++ wording e))
    | .ok (left, d) =>
      match contents b d with
      | .error e => (1, d.complain ("comm: " ++ b ++ ": " ++ wording e))
      | .ok (right, d) =>
        let ls := (linesOf left.toList).map bare
        let rs := (linesOf right.toList).map bare
        let isShown (n : Nat) : Bool := !g.has [toString (n + 1)]
        let rows := (common (ls.length + rs.length + 1) ls rs).filterMap fun (n, l) =>
          if isShown n then some (List.replicate ((List.range n).filter isShown).length 9 ++ l ++ [newline]) else none
        (0, d.put (ofLines rows))
  | _ :: _ :: extra :: _ => misused "comm" ("extra operand " ++ quoted extra) d

end Provision.Shell.Tool
