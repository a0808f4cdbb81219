import Provision.Shell.Desk
import Provision.Text.Decimal

set_option autoImplicit false

namespace Provision.Shell.Tool

def natural? (s : String) : Option Nat :=
  if s.isEmpty || !s.all Char.isDigit then none else some (Decimal.value s.toList)

def integer? (s : String) : Option Int :=
  match s.toList with
  | '-' :: rest => (natural? (String.ofList rest)).map fun n => -Int.ofNat n
  | '+' :: rest => (natural? (String.ofList rest)).map Int.ofNat
  | _ => (natural? s).map Int.ofNat

def amount? (s : String) : Option Nat :=
  let digits := s.toList.takeWhile Char.isDigit
  let unit : Option Nat := match String.ofList (s.toList.drop digits.length) with
    | "" | "c" => some 1
    | "b" => some 512
    | "K" | "k" | "KiB" => some 1024
    | "kB" | "KB" => some 1000
    | "M" | "MiB" => some 1048576
    | "MB" => some 1000000
    | _ => none
  if digits.isEmpty then none else unit.map (Decimal.value digits * ·)

def rightIn (width : Nat) (s : String) : String := String.ofList (List.replicate (width - s.length) ' ') ++ s

def visible (tabs : Bool) (b : UInt8) : List UInt8 :=
  let low (b : Nat) : List UInt8 :=
    if b < 32 then [94, (b + 64).toUInt8] else if b = 127 then [94, 63] else [b.toUInt8]
  if b = 10 then [b]
  else if b = 9 then (if tabs then [94, 73] else [b])
  else if b ≥ 128 then [77, 45] ++ low (b.toNat - 128)
  else low b.toNat

def squeezed : List (List UInt8) → List (List UInt8)
  | a :: b :: rest => if a = [newline] && b = [newline] then squeezed (b :: rest) else a :: squeezed (b :: rest)
  | ls => ls

def cat : Tool := withOptions "cat" { flags := "nbsETvAetu", words := ["number", "show-all", "squeeze-blank"] } fun g d =>
  let showsTabs := g.has ["T", "A", "t", "show-all"]
  let showsAll := g.has ["v", "A", "e", "t", "show-all"]
  let marksEnds := g.has ["E", "A", "e", "show-all"]
  let dressed (l : List UInt8) : List UInt8 :=
    let body := if showsAll then (bare l).flatMap (visible showsTabs)
      else if showsTabs then (bare l).flatMap fun b => if b = 9 then [94, 73] else [b] else bare l
    body ++ (if l.getLast? = some newline then (if marksEnds then [36, newline] else [newline]) else [])
  let numbered (ls : List (List UInt8)) : List (List UInt8) :=
    (ls.foldl (fun (acc : List (List UInt8) × Nat) l =>
      if g.has ["b"] && bare l = [] then (l :: acc.1, acc.2)
      else (((rightIn 6 (toString acc.2) ++ "\t").toUTF8.toList ++ l) :: acc.1, acc.2 + 1)) ([], 1)).1.reverse
  if g.options.isEmpty || g.options.all fun o => o.1 = "u" then
    (orInput g.operands).foldl (fun (code, d) f =>
      match contents f d with
      | .ok (data, d) => (code, d.put data)
      | .error e => (1, d.complain ("cat: " ++ f ++ ": " ++ wording e))) (0, d)
  else filterAll ("cat: " ++ ·) (fun data =>
    let ls := linesOf data.toList
    let ls := if g.has ["s", "squeeze-blank"] then squeezed ls else ls
    let ls := ls.map dressed
    ofLines (if g.has ["n", "b", "number"] then numbered ls else ls)) g.operands d

/-- How much is asked for: of bytes or of lines; counted from the other end if so marked. -/
structure Portion where
  inBytes : Bool
  count : Nat
  isOther : Bool

/-- The portion in the options, with the mark of one that is counted from the other end. -/
def portion (name : String) (mark : Char) (g : Given) : Except String Portion :=
  let read (inBytes : Bool) (text : String) : Except String Portion :=
    let (isOther, digits) := match text.toList with
      | c :: rest => if c = mark then (true, String.ofList rest) else if c = '-' || c = '+' then (false, String.ofList rest) else (false, text)
      | [] => (false, text)
    match amount? digits with
    | some n => .ok ⟨inBytes, n, isOther⟩
    | none => .error (name ++ ": invalid number of " ++ (if inBytes then "bytes: " else "lines: ") ++ quoted text)
  match g.options.reverse.find? fun o => ["n", "lines", "c", "bytes"].contains o.1 with
  | some (o, v) => read (o = "c" || o = "bytes") v
  | none => .ok ⟨false, 10, false⟩

def countFirst (args : List String) : List String :=
  match args with
  | a :: rest => match a.toList with
    | '-' :: c :: cs => if c.isDigit && cs.all Char.isDigit then "-n" :: String.ofList (c :: cs) :: rest else args
    | _ => args
  | [] => []

def excerpt (name : String) (mark : Char) (part : Portion → ByteArray → ByteArray × ByteArray) : Tool := fun args d =>
  withOptions name { flags := "qvzf", valued := "nc", words := ["quiet", "silent", "verbose"], valuedWords := ["lines", "bytes"] }
    (fun g d =>
      match portion name mark g with
      | .error e => (1, d.complain e)
      | .ok p =>
        let titles := g.has ["v", "verbose"] || (g.operands.length > 1 && !g.has ["q", "quiet", "silent"])
        let r := (orInput g.operands).foldl (fun (acc : Nat × Bool × Desk) f =>
          let (code, isFirst, d) := acc
          let title := if titles then (if isFirst then "" else "\n") ++ "==> " ++ titled f ++ " <==\n" else ""
          match contents f d with
          | .ok (data, d) =>
            let (shown, rest) := part p data
            let d := if f = "-" && d.isFile then { d with input := rest } else d
            (code, false, (d.say title).put shown)
          | .error e =>
            if e = .os .isDir then
              (1, false, (d.say title).complain (name ++ ": error reading " ++ quoted f ++ ": " ++ wording e))
            else (1, isFirst, d.complain (name ++ ": cannot open " ++ quoted f ++ " for reading: " ++ wording e))) (0, true, d)
        (r.1, r.2.2)) 1 (countFirst args) d

def head : Tool := excerpt "head" '-' fun p data =>
  let part {α : Type} (xs : List α) : List α := xs.take (if p.isOther then xs.length - p.count else p.count)
  let shown := if p.inBytes then ByteArray.mk (part data.toList).toArray else ofLines (part (linesOf data.toList))
  (shown, data.extract shown.size data.size)

def tail : Tool := excerpt "tail" '+' fun p data =>
  let part {α : Type} (xs : List α) : List α := xs.drop (if p.isOther then p.count - 1 else xs.length - p.count)
  (if p.inBytes then ⟨(part data.toList).toArray⟩ else ofLines (part (linesOf data.toList)), ByteArray.empty)

def wordCount (data : List UInt8) : Nat :=
  let isGap (b : UInt8) : Bool := b = 32 || (9 ≤ b && b ≤ 13)
  (data.foldl (fun (n, inside) b => if isGap b then (n, false) else (if inside then n else n + 1, true)) (0, false)).1

/-- Counts lines, words and bytes. The columns are as wide as the size of all files, or wide enough for an input of
which the size is not known. -/
def wc : Tool := withOptions "wc" { flags := "lwcmL", words := ["lines", "words", "bytes", "chars", "max-line-length"] } fun g d =>
  let plain := g.options.isEmpty
  let counts (data : ByteArray) : List Nat :=
    let bytes := data.toList
    (if plain || g.has ["l", "lines"] then [bytes.count newline] else [])
      ++ (if plain || g.has ["w", "words"] then [wordCount bytes] else [])
      ++ (if g.has ["m", "chars"] then [data.size] else [])
      ++ (if plain || g.has ["c", "bytes"] then [data.size] else [])
      ++ (if g.has ["L", "max-line-length"] then [((linesOf bytes).map fun l => (bare l).length).foldl max 0] else [])
  let files := orInput g.operands
  let sizes := files.map fun (f : String) =>
    if f = "-" then (if d.isFile then some d.input.size else none)
    else match d.disk.find d.cwd f with
      | .ok (_, .file _ _ data) => some data.size
      | .ok _ => none
      | .error _ => some 0
  let width := if files.length = 1 && (counts ByteArray.empty).length = 1 then 1
    else max (toString ((sizes.map (·.getD 0)).foldl (· + ·) 0)).length (if sizes.any (·.isNone) then 7 else 1)
  let line (ns : List Nat) (name : String) : String :=
    " ".intercalate (ns.map fun n => rightIn width (toString n)) ++ (if name.isEmpty then "" else " " ++ name) ++ "\n"
  let r := files.foldl (fun (acc : Nat × List Nat × Desk) f =>
    let (code, total, d) := acc
    let shown (ns : List Nat) (code : Nat) (d : Desk) : Nat × List Nat × Desk :=
      (code, (List.range ns.length).map (fun i => (total[i]?).getD 0 + (ns[i]?).getD 0),
        d.say (line ns (if g.operands.isEmpty then "" else f)))
    match contents f d with
    | .ok (data, d) => shown (counts data) code d
    | .error e =>
      let d := d.complain ("wc: " ++ f ++ ": " ++ wording e)
      if e = .os .isDir then shown (counts ByteArray.empty) 1 d else (1, total, d)) (0, counts ByteArray.empty, d)
  (r.1, if files.length > 1 then r.2.2.say (line r.2.1 "total") else r.2.2)

def tac : Tool := withOptions "tac" {} fun g d =>
  (orInput g.operands).foldl (fun (code, d) f =>
    match contents f d with
    | .ok (data, d) => (code, d.put (ofLines (linesOf data.toList).reverse))
    | .error e =>
      (1, d.complain (if e = .os .isDir then "tac: " ++ f ++ ": read error: Is a directory"
        else "tac: failed to open " ++ quoted f ++ " for reading: " ++ wording e))) (0, d)

def rev : Tool := withOptions "rev" {} fun g d =>
  filter (fun f => "rev: cannot open " ++ f) (fun data =>
    (String.join ((linesOf data.toList).map fun l =>
      String.ofList (Utf8.lossy ⟨(bare l).toArray⟩).toList.reverse ++ (if l.getLast? = some newline then "\n" else ""))).toUTF8)
    g.operands d

def nl : Tool := withOptions "nl" { valued := "bwsvinhfdl", flags := "p" } fun g d =>
  let width := ((g.value? ["w"]).bind natural?).getD 6
  let gap := (g.value? ["s"]).getD "\t"
  let step := ((g.value? ["i"]).bind natural?).getD 1
  let numeral (n : Nat) : String := match g.value? ["n"] with
    | some "rz" => String.ofList (Decimal.padded width n)
    | some "ln" => toString n ++ String.ofList (List.replicate (width - (toString n).length) ' ')
    | _ => rightIn width (toString n)
  filterAll ("nl: " ++ ·) (fun data =>
    ofLines ((linesOf data.toList).foldl (fun (acc : List (List UInt8) × Nat) l =>
      let l := bare l ++ [newline]
      if bare l = [] && g.value? ["b"] ≠ some "a" then
        ((List.replicate (width + gap.length) 32 ++ l) :: acc.1, acc.2)
      else (((numeral acc.2 ++ gap).toUTF8.toList ++ l) :: acc.1, acc.2 + step))
      ([], ((g.value? ["v"]).bind natural?).getD 1)).1.reverse) g.operands d

def joinedBy (marks : List Char) : List (List UInt8) → List UInt8
  | [] => []
  | [a] => a
  | a :: b :: rest => a ++ (String.ofList (marks.take 1)).toUTF8.toList ++ joinedBy (marks.drop 1 ++ marks.take 1) (b :: rest)

def everyNth (n start : Nat) (ls : List (List UInt8)) : List (List UInt8) :=
  ((List.range ls.length).zip ls).filterMap fun (i, l) => if i % n = start then some l else none

/-- Puts lines of several files side by side, or the lines of each file into one. The lines of an input that is named
several times go to its names in turn. -/
def paste : Tool := withOptions "paste" { flags := "s", valued := "d", words := ["serial"], valuedWords := ["delimiters"] } fun g d =>
  let marks := (((g.value? ["d", "delimiters"]).getD "\t").replace "\\n" "\n" |>.replace "\\t" "\t").toList
  let names := orInput g.operands
  let isSerial := g.has ["s", "serial"]
  let input := (linesOf d.input.toList).map bare
  let shares := if isSerial then 1 else max 1 (names.count "-")
  let (files, code, _, d) := names.foldl (fun (acc : List (List (List UInt8)) × Nat × Nat × Desk) f =>
    let (files, code, share, d) := acc
    if f = "-" then (everyNth shares share input :: files, code, share + 1, { d with input := ByteArray.empty })
    else match contents f d with
      | .ok (data, d) => ((linesOf data.toList).map bare :: files, code, share, d)
      | .error e => (files, 1, share, d.complain ("paste: " ++ f ++ ": " ++ wording e))) ([], 0, 0, d)
  let files := files.reverse
  let count := (files.map List.length).foldl max 0
  let rows := if isSerial then files
    else (List.range count).map fun i => files.map fun ls => (ls[i]?).getD []
  (code, d.put (ofLines (rows.map fun r => joinedBy marks r ++ [newline])))

def fold : Tool := withOptions "fold" { flags := "bs", valued := "w", words := ["spaces", "bytes"], valuedWords := ["width"] } fun g d =>
  let width := max 1 (((g.value? ["w", "width"]).bind natural?).getD 80)
  let rec cut : Nat → List UInt8 → List UInt8
    | 0, l => l
    | fuel + 1, l =>
      if l.length ≤ width then l
      else
        let blank := ((l.take width).reverse.dropWhile fun b => b ≠ 32 && b ≠ 9).length
        let n := if g.has ["s", "spaces"] && blank > 0 then blank else width
        l.take n ++ newline :: cut fuel (l.drop n)
  filter ("fold: " ++ ·) (fun data => ofLines ((linesOf data.toList).map fun l =>
    cut l.length (bare l) ++ (if l.getLast? = some newline then [newline] else []))) g.operands d

def tee : Tool := withOptions "tee" { flags := "aip", words := ["append"] } fun g d =>
  let data := d.input
  let (code, d) := forEach (fun f d =>
    match d.disk.openAs (!g.has ["a", "append"]) (d.modeFor 0o666) d.cwd f with
    | .ok (h, disk) =>
      match disk.write h data with
      | .ok disk => .ok { d with disk := disk }
      | .error e => .error ("tee: " ++ f ++ ": " ++ wording e)
    | .error e => .error ("tee: " ++ f ++ ": " ++ wording e)) g.operands d
  (code, Desk.put { d with input := ByteArray.empty } data)

/-- A decimal number: its value without the point, and how many digits stand behind that. -/
def decimal? (s : String) : Option (Int × Nat) :=
  match s.splitOn "." with
  | [whole] => (integer? whole).map fun n => (n, 0)
  | [whole, part] =>
    (integer? (whole ++ part)).bind fun n => if part.isEmpty || part.all Char.isDigit then some (n, part.length) else none
  | _ => none

def decimalText (places : Nat) (n : Int) : String :=
  let digits := Decimal.padded (places + 1) n.natAbs
  let whole := digits.take (digits.length - places)
  (if n < 0 then "-" else "") ++ String.ofList whole
    ++ (if places = 0 then "" else "." ++ String.ofList (digits.drop whole.length))

def basename : Tool := withOptions "basename" { flags := "az", valued := "s", words := ["multiple"], valuedWords := ["suffix"] } fun g d =>
  let short (p suffix : String) : String :=
    let name := match (Path.segments p.toList).reverse.dropWhile (·.isEmpty) with
      | n :: _ => n
      | [] => if p.isEmpty then [] else ['/']
    let kept := name.take (name.length - suffix.length)
    String.ofList (if kept ++ suffix.toList = name && !kept.isEmpty then kept else name)
  let suffix := (g.value? ["s", "suffix"]).getD ""
  if g.has ["a", "s", "multiple", "suffix"] && !g.operands.isEmpty then
    (0, g.operands.foldl (fun d p => d.say (short p suffix ++ "\n")) d)
  else match g.operands with
    | [] => misused "basename" "missing operand" d
    | [p] => (0, d.say (short p suffix ++ "\n"))
    | [p, s] => (0, d.say (short p s ++ "\n"))
    | _ :: _ :: extra :: _ => misused "basename" ("extra operand " ++ quoted extra) d

def dirname : Tool := withOptions "dirname" { flags := "z" } fun g d =>
  match g.operands with
  | [] => misused "dirname" "missing operand" d
  | ps => (0, ps.foldl (fun d p =>
      let back := ((Path.segments p.toList).reverse.dropWhile (·.isEmpty)).drop 1
      let kept := Path.joined (back.dropWhile (·.isEmpty)).reverse
      d.say (String.ofList (if kept.isEmpty then (if p.startsWith "/" then ['/'] else ['.']) else kept) ++ "\n")) d)

def endless : Nat := 20000

def yes : Tool := fun args d =>
  let line := (if args.isEmpty then "y" else " ".intercalate args) ++ "\n"
  (0, d.say (String.join (List.replicate endless line)))

end Provision.Shell.Tool
