import Provision.Shell.Tool.Columns
import Provision.Text.Regex.Classic

set_option autoImplicit false

namespace Provision.Shell.Tool

open Text (Regex)

def charsOf (l : List UInt8) : List Char := l.map fun b => Char.ofNat b.toNat

def ofChars (cs : List Char) : List UInt8 := cs.map fun c => c.toNat.toUInt8

structure Search where
  expressions : List Regex
  wholeLines : Bool
  wholeWords : Bool
  inverted : Bool

namespace Search

/-- The longest part of a line from a place on that fits and is not part of a longer word, if that matters. -/
def hitAt (s : Search) (t : Array Char) (start : Nat) : Option Nat :=
  let isWord (c : Option Char) : Bool := c.any fun c => c.isAlphanum || c = '_'
  let isGood (h : Regex.Hit) : Bool :=
    (!s.wholeLines || (start = 0 && h.pos = t.size))
      && (!s.wholeWords || !((start > 0 && isWord t[start - 1]?) || isWord t[h.pos]?))
  let hits := s.expressions.flatMap fun r => (r.ends t ⟨start, []⟩).filter isGood
  (Regex.longest? hits).map (·.pos)

def hitFrom (s : Search) (t : Array Char) : Nat → Nat → Option (Nat × Nat)
  | 0, _ => none
  | fuel + 1, start =>
    match s.hitAt t start with
    | some stop => some (start, stop)
    | none => if start ≥ t.size then none else s.hitFrom t fuel (start + 1)

def accepts (s : Search) (l : List UInt8) : Bool :=
  let t := (charsOf l).toArray
  (s.hitFrom t (t.size + 1) 0).isSome != s.inverted

def hits (s : Search) (t : Array Char) : Nat → Nat → List (Nat × Nat)
  | 0, _ => []
  | fuel + 1, start =>
    match s.hitFrom t (t.size + 1) start with
    | none => []
    | some (a, b) => if b = a then s.hits t fuel (a + 1) else (a, b) :: s.hits t fuel b

end Search

def literal (anyCase : Bool) (cs : List Char) : Regex :=
  cs.foldr (fun c r => .seq (.one fun d => c = d || (anyCase && c.toLower = d.toLower)) r) .empty

def expressions (g : Given) (texts : List String) : Except String (List Regex) :=
  (texts.flatMap fun t => t.splitOn "\n").mapM fun text =>
    let cs := bytesOf text
    let anyCase := g.has ["i", "y", "ignore-case"]
    if g.has ["F", "fixed-strings"] then .ok (literal anyCase cs)
    else if !g.has ["E", "extended-regexp", "P"] && cs.head? = some '[' && cs.getLast? = some ']' && cs[1]? = some ':'
        && (cs.dropLast).getLast? = some ':' && cs.length > 4 then
      .error "character class syntax is [[:space:]], not [:space:]"
    else if g.has ["P"] then
      match Text.Regex.read? text.toList with
      | some r => .ok r
      | none => .error "syntax error"
    else (Text.Regex.Classic.read ⟨g.has ["E", "extended-regexp"], anyCase⟩ cs).mapError (·.message)

def filesBelow (d : Desk) (f : String) : List String :=
  match d.disk.find d.cwd f with
  | .ok (place, .dir) => (d.disk.below place).filterMap fun (names, node) => match node with
    | .file _ _ _ => some ((if f.endsWith "/" then f else f ++ "/") ++ String.ofList (Path.joined names))
    | _ => none
  | _ => [f]

def withContext (before after : Nat) (marked : List (Nat × List UInt8 × Bool)) : List (Nat × List UInt8 × Bool) :=
  let hits := (marked.filter (·.2.2)).map (·.1)
  if before = 0 && after = 0 then marked.filter (·.2.2)
  else marked.filter fun m => hits.any fun h => m.1 ≤ h + after && h ≤ m.1 + before

def grepUsage : String := "Usage: grep [OPTION]... PATTERNS [FILE]...\nTry 'grep --help' for more information."

def grepAs (preset : List (String × String)) : Tool := fun args d =>
  let known : Options :=
    { flags := "EFGPivcnqolLwxHhsrRaybzZIU", valued := "efmABCd"
      words := ["extended-regexp", "fixed-strings", "ignore-case", "invert-match", "count", "line-number", "quiet", "silent",
        "only-matching", "files-with-matches", "word-regexp", "line-regexp", "no-messages", "recursive", "text", "no-filename",
        "with-filename", "color", "colour"]
      valuedWords := ["regexp", "file", "max-count", "include", "exclude"] }
  -- a count of lines around a hit may be given as an option
  let args := args.map fun a => match a.toList with
    | '-' :: c :: cs => if c.isDigit && cs.all Char.isDigit then "-C" ++ String.ofList (c :: cs) else a
    | _ => a
  match sortArgs known (args.length + 1) args with
  | .error e => (2, (d.complain ("grep: " ++ e)).complain grepUsage)
  | .ok g =>
    let g := { g with options := preset ++ g.options }
    let listed := (g.options.filter fun o => ["e", "regexp", "f", "file"].contains o.1)
    let (patterns, operands) := if listed.isEmpty then (g.operands.take 1, g.operands.drop 1)
      else (listed.flatMap fun o =>
        if o.1 = "e" || o.1 = "regexp" then [o.2]
        else match contents o.2 d with
          | .ok (data, _) => textLines data
          | .error _ => [], g.operands)
    let lost := listed.findSome? fun o => if o.1 = "f" || o.1 = "file" then
        (match contents o.2 d with
        | .ok _ => none
        | .error e => some ("grep: " ++ o.2 ++ ": " ++ wording e))
      else none
    if listed.isEmpty && g.operands.isEmpty then (2, d.complain grepUsage)
    else if lost.isSome then (2, d.complain (lost.getD ""))
    else match expressions g patterns with
      | .error e => (2, d.complain ("grep: " ++ e))
      | .ok rs =>
        let s : Search := ⟨rs, g.has ["x", "line-regexp"], g.has ["w", "word-regexp"], g.has ["v", "invert-match"]⟩
        let deep := g.has ["r", "R", "recursive"]
        let files := if deep then ((if operands.isEmpty then ["."] else operands).flatMap (filesBelow d)) else orInput operands
        let files := if deep && operands.isEmpty then files.map fun f => String.ofList (f.toList.drop 2) else files
        let titled := (g.has ["H", "with-filename"] || files.length > 1 || deep) && !g.has ["h", "no-filename"]
        let title (f : String) : String := if f = "-" then "(standard input)" else f
        let number (names : List String) : Nat := ((g.value? names).bind natural?).getD 0
        let quiet := g.has ["q", "quiet", "silent"]
        let stop : UInt8 := if g.has ["z"] then 0 else newline
        let r := files.foldl (fun (acc : Bool × Bool × Desk) f =>
          let (found, failed, d) := acc
          match contents f d with
          | .error e =>
            (found, true, if g.has ["s", "no-messages"] then d else d.complain ("grep: " ++ f ++ ": " ++ wording e))
          | .ok (data, d) =>
            let lines := if g.has ["z"] then (divided 0 data.toList).filter (· ≠ []) else (linesOf data.toList).map bare
            let marked := ((List.range lines.length).zip lines).map fun (i, l) => (i + 1, l, s.accepts l)
            let marked := match (g.value? ["m", "max-count"]).bind natural? with
              | none => marked
              | some m => (marked.foldl (fun (acc : List (Nat × List UInt8 × Bool) × Nat) x =>
                  if acc.2 ≥ m then acc else (x :: acc.1, if x.2.2 then acc.2 + 1 else acc.2)) ([], 0)).1.reverse
            let count := (marked.filter (·.2.2)).length
            let name (sep : String) : String := if titled then title f ++ sep else ""
            let d :=
              if quiet then d
              else if g.has ["l", "files-with-matches"] then (if count > 0 then d.say (title f ++ "\n") else d)
              else if g.has ["L"] then (if count = 0 then d.say (title f ++ "\n") else d)
              else if g.has ["c", "count"] then d.say (name ":" ++ toString count ++ "\n")
              else if data.toList.contains 0 && !g.has ["a", "text", "z"] then
                (if count > 0 then d.say ("grep: " ++ title f ++ ": binary file matches\n") else d)
              else
                let around (n : List String) : Nat := max (number n) (number ["C"])
                let shown := withContext (around ["B"]) (around ["A"]) marked
                let byContext := g.has ["A", "B", "C"]
                (shown.foldl (fun (acc : Desk × Option Nat) (x : Nat × List UInt8 × Bool) =>
                  let (i, l, isHit) := x
                  let sep := if isHit then ":" else "-"
                  let front := name sep ++ (if g.has ["n", "line-number"] then toString i ++ sep else "")
                  let gap := if byContext && acc.2.any (· + 1 < i) then "--\n" else ""
                  let body : List UInt8 :=
                    if g.has ["o", "only-matching"] then
                      let t := (charsOf l).toArray
                      ((s.hits t (t.size + 1) 0).map fun (a, b) =>
                        front.toUTF8.toList ++ ofChars (t.extract a b).toList ++ [stop]).flatten
                    else front.toUTF8.toList ++ l ++ [stop]
                  ((acc.1.say gap).put ⟨body.toArray⟩, some i)) (d, none)).1
            (found || (if g.has ["L"] then count = 0 else count > 0), failed, d)) (false, false, d)
        (if r.2.1 && !(quiet && r.1) then 2 else if r.1 then 0 else 1, r.2.2)

def grep : Tool := grepAs []
def egrep : Tool := grepAs [("E", "")]
def fgrep : Tool := grepAs [("F", "")]

end Provision.Shell.Tool
