import Provision.Digest
import Provision.Shell.Tool.Order
import Provision.Text.Base64

set_option autoImplicit false

namespace Provision.Shell.Tool

def digestLine? (size : Nat) (l : String) : Option (String × String) :=
  let cs := l.toList
  let isHex (c : Char) : Bool := c.isDigit || ('a' ≤ c.toLower && c.toLower ≤ 'f')
  let hex := cs.takeWhile isHex
  match cs.drop hex.length with
  | ' ' :: mark :: name =>
    if hex.length = size && (mark = ' ' || mark = '*') && !name.isEmpty then some (String.ofList hex, String.ofList name) else none
  | _ => none

def digestsAs (name title : String) (f : List UInt8 → List UInt8) : Tool :=
  withOptions name { flags := "bctwz", words := ["check", "tag", "quiet", "status", "binary", "text", "strict"] } fun g d =>
    let hexOf (data : ByteArray) : String := Digest.hex (f data.toList)
    if g.has ["c", "check"] then
      (orInput g.operands).foldl (fun (code, d) list =>
        match contents list d with
        | .error e => (1, d.complain (name ++ ": " ++ list ++ ": " ++ wording e))
        | .ok (data, d) =>
          let size := 2 * (f []).length
          let rows := (textLines data).filterMap (digestLine? size)
          if rows.isEmpty then (1, d.complain (name ++ ": " ++ quotedIfOdd (titled list) ++ ": no properly formatted checksum lines found"))
          else
            let (bad, gone, d) := rows.foldl (fun (acc : Nat × Nat × Desk) (hex, file) =>
              let (bad, gone, d) := acc
              match contents file d with
              | .error e => (bad, gone + 1, (d.complain (name ++ ": " ++ file ++ ": " ++ wording e)).say (file ++ ": FAILED open or read\n"))
              | .ok (data, d) =>
                if hexOf data = hex.toLower then (bad, gone, if g.has ["quiet", "status"] then d else d.say (file ++ ": OK\n"))
                else (bad + 1, gone, if g.has ["status"] then d else d.say (file ++ ": FAILED\n"))) (0, 0, d)
            let told (n : Nat) (one many : String) (d : Desk) : Desk :=
              if n = 0 || g.has ["status"] then d
              else d.complain (name ++ ": WARNING: " ++ toString n ++ " " ++ (if n = 1 then one else many))
            let d := told gone "listed file could not be read" "listed files could not be read" d
            let d := told bad "computed checksum did NOT match" "computed checksums did NOT match" d
            (if bad + gone > 0 then 1 else code, d)) (0, d)
    else (orInput g.operands).foldl (fun (code, d) file =>
      match contents file d with
      | .ok (data, d) =>
        (code, d.say (if g.has ["tag"] then title ++ " (" ++ file ++ ") = " ++ hexOf data ++ "\n"
          else hexOf data ++ (if g.has ["b", "binary"] then " *" else "  ") ++ file ++ "\n"))
      | .error e => (1, d.complain (name ++ ": " ++ file ++ ": " ++ wording e))) (0, d)

def md5sum : Tool := digestsAs "md5sum" "MD5" Digest.md5
def sha1sum : Tool := digestsAs "sha1sum" "SHA1" Digest.sha1
def sha224sum : Tool := digestsAs "sha224sum" "SHA224" Digest.sha224
def sha256sum : Tool := digestsAs "sha256sum" "SHA256" Digest.sha256
def sha384sum : Tool := digestsAs "sha384sum" "SHA384" Digest.sha384
def sha512sum : Tool := digestsAs "sha512sum" "SHA512" Digest.sha512

def cksum : Tool := withOptions "cksum" {} fun g d =>
  (orInput g.operands).foldl (fun (code, d) f =>
    match contents f d with
    | .ok (data, d) =>
      (code, d.say (toString (Digest.crc data.toList) ++ " " ++ toString data.size ++ (if g.operands.isEmpty then "" else " " ++ f) ++ "\n"))
    | .error e => (1, d.complain ("cksum: " ++ f ++ ": " ++ wording e))) (0, d)

def wrapped (width : Nat) : Nat → List Char → List Char
  | 0, cs => cs
  | fuel + 1, cs =>
    if cs.isEmpty then [] else if width = 0 then cs
    else cs.take width ++ '\n' :: wrapped width fuel (cs.drop width)

def base64 : Tool := withOptions "base64"
  { flags := "di", valued := "w", words := ["decode", "ignore-garbage"], valuedWords := ["wrap"] } fun g d =>
  let (data, code, d) := gathered ("base64: " ++ ·) g.operands d
  if code ≠ 0 then (code, d)
  else if g.has ["d", "decode"] then
    let cs := (charsOf data).filter fun c => c ≠ '\n' && (!g.has ["i", "ignore-garbage"] || Base64.alphabet.contains c || c = '=')
    let (bytes, isWhole) := Base64.decode cs
    let d := d.put ⟨bytes.toArray⟩
    if isWhole then (0, d) else (1, d.complain "base64: invalid input")
  else
    let width := ((g.value? ["w", "wrap"]).bind natural?).getD 76
    (0, d.say (String.ofList (wrapped width data.size (Base64.encode data.toList))))
where
  charsOf (data : ByteArray) : List Char := data.toList.map fun b => Char.ofNat b.toNat

/-! Bytes by their numbers. -/

/-- How one unit of a dump is written: how many bytes it has, how wide it is, and its text. -/
structure Unit_ where
  bytes : Nat
  width : Nat
  text : List UInt8 → String

def dumpUnit? (s : String) : Option Unit_ :=
  let value (bs : List UInt8) : Nat := Digest.ofBigEndian bs.reverse
  let padded (base width n : Nat) : String :=
    let ds := Nat.toDigits base n
    String.ofList (List.replicate (width - ds.length) '0' ++ ds)
  let kind := s.toList.headD 'o'
  let size := match natural? (String.ofList ((s.toList.drop 1).takeWhile Char.isDigit)) with
    | some n => n
    | none => match s.toList.drop 1 with
      | ['C'] => 1
      | ['S'] => 2
      | ['L'] => 8
      | _ => 4
  let named (b : UInt8) : String :=
    let known := [(0, "\\0"), (7, "\\a"), (8, "\\b"), (9, "\\t"), (10, "\\n"), (11, "\\v"), (12, "\\f"), (13, "\\r")]
    match known.lookup b.toNat with
    | some t => t
    | none => if 32 ≤ b && b < 127 then String.singleton (Char.ofNat b.toNat) else padded 8 3 b.toNat
  match kind with
  | 'c' => some ⟨1, 3, fun bs => named (bs.headD 0)⟩
  | 'x' => some ⟨size, 2 * size, fun bs => padded 16 (2 * size) (value bs)⟩
  | 'o' =>
    let width := if size = 1 then 3 else if size = 2 then 6 else if size = 4 then 11 else 22
    some ⟨size, width, fun bs => padded 8 width (value bs)⟩
  | 'u' => some ⟨size, if size = 1 then 3 else if size = 2 then 5 else if size = 4 then 10 else 20, fun bs => toString (value bs)⟩
  | 'd' => some ⟨size, if size = 1 then 4 else if size = 2 then 6 else if size = 4 then 11 else 20, fun bs => toString (Int.bmod (value bs) (Nat.pow 256 size))⟩
  | _ => none

/-- Rows of sixteen bytes; rows that repeat the one before are left out, with a star in place of the first. -/
def dumpRows (all : Bool) (row : List UInt8 → List String) (address : Nat → String) :
    Nat → Nat → Option (List UInt8) → Bool → List UInt8 → List String
  | 0, _, _, _, _ => []
  | fuel + 1, at_, before, starred, bs =>
    if bs.isEmpty then (if (address at_).isEmpty then [] else [address at_])
    else
      let part := bs.take 16
      if !all && before = some part && part.length = 16 && (bs.drop 16).length > 0 then
        (if starred then [] else ["*"]) ++ dumpRows all row address fuel (at_ + 16) (some part) true (bs.drop 16)
      else
        let lines := (List.range (row part).length).zip (row part) |>.map fun (i, t) =>
          (if i = 0 then address at_ else String.ofList (List.replicate (address at_).length ' ')) ++ t
        lines ++ dumpRows all row address fuel (at_ + part.length) (some part) false (bs.drop 16)

def od : Tool := withOptions "od" { flags := "cbxdoavs", valued := "AtNj", valuedWords := ["format", "address-radix"] } fun g d =>
  let formats := g.options.flatMap fun (o, v) => match o with
    | "t" | "format" => [v]
    | "c" => ["c"]
    | "b" => ["o1"]
    | "x" => ["x2"]
    | "d" => ["u2"]
    | "o" => ["o2"]
    | _ => []
  let formats := if formats.isEmpty then ["o2"] else formats
  let (data, code, d) := gathered ("od: " ++ ·) g.operands d
  if code ≠ 0 then (code, d)
  else match formats.mapM fun f => dumpUnit? (String.ofList (f.toList.filter (· ≠ 'z'))) with
    | none => (1, d.complain ("od: invalid type string " ++ quoted (formats.headD "")))
    | some units =>
      let skip := ((g.value? ["j"]).bind amount?).getD 0
      let bytes := data.toList.drop skip
      let bytes := match (g.value? ["N"]).bind amount? with
        | some n => bytes.take n
        | none => bytes
      let shows (f : String) : Bool := f.contains 'z'
      let width := (units.map fun u => (u.width + 1) * (16 / u.bytes)).foldl max 0
      let row (bs : List UInt8) : List String :=
        (units.zip formats).map fun (u, f) =>
          let parts := Digest.chunks u.bytes 17 bs
          let cell := width / (16 / u.bytes)
          let text := String.join (parts.map fun p => rightIn cell (u.text (p ++ List.replicate (u.bytes - p.length) 0)))
          if shows f then
            text ++ String.ofList (List.replicate (width - text.length) ' ') ++ "  >"
              ++ String.ofList (bs.map fun b => if 32 ≤ b && b < 127 then Char.ofNat b.toNat else '.') ++ "<"
          else text
      let address (n : Nat) : String :=
        let digits (base : Nat) : String :=
          let ds := Nat.toDigits base n
          String.ofList (List.replicate ((if base = 16 then 6 else 7) - ds.length) '0' ++ ds)
        match g.value? ["A", "address-radix"] with
        | some "n" => ""
        | some "d" => digits 10
        | some "x" => digits 16
        | _ => digits 8
      let lines := dumpRows (g.has ["v"]) row address (bytes.length + 2) skip none false bytes
      (0, d.say (String.join (lines.map (· ++ "\n"))))

/-! How two texts differ. -/

def firstDifference : Nat → Nat → List UInt8 → List UInt8 → Option (Nat × Nat)
  | n, line, a :: as, b :: bs =>
    if a = b then firstDifference (n + 1) (if a = newline then line + 1 else line) as bs else some (n, line)
  | _, _, _, _ => none

def cmp : Tool := withOptions "cmp" { flags := "slb", words := ["silent", "quiet"] } (fun g d =>
  let quiet := g.has ["s", "silent", "quiet"]
  match g.operands with
  | [] => (2, (d.complain "cmp: missing operand after 'cmp'").complain "cmp: Try 'cmp --help' for more information.")
  | a :: rest =>
    let b := rest.headD "-"
    let failed (f : String) (e : Fault) (d : Desk) : Nat × Desk := (2, if quiet then d else d.complain ("cmp: " ++ f ++ ": " ++ wording e))
    match contents a d with
    | .error e => failed a e d
    | .ok (left, d) =>
      match contents b d with
      | .error e => failed b e d
      | .ok (right, d) =>
        match firstDifference 1 1 left.toList right.toList with
        | some (n, line) =>
          (1, if quiet then d else d.say (a ++ " " ++ b ++ " differ: char " ++ toString n ++ ", line " ++ toString line ++ "\n"))
        | none =>
          if left.size = right.size then (0, d)
          else
            let (short, data) := if left.size < right.size then (a, left) else (b, right)
            let lines := data.toList.count newline
            let place := if data.isEmpty then " which is empty"
              else " after byte " ++ toString data.size ++ ", " ++ (if data.toList.getLast? = some newline then "line " ++ toString lines
                else "in line " ++ toString (lines + 1))
            (1, if quiet then d else d.complain ("cmp: EOF on " ++ short ++ place))) 2

/-- The lengths of the longest common parts of all ends of two lists of lines, by rows. -/
def commonRow (a : Line) (bs : List Line) (below : List Nat) : List Nat :=
  match bs, below with
  | b :: bs, down :: rest =>
    let row := commonRow a bs rest
    let right := row.headD 0
    (if a = b then rest.headD 0 + 1 else max down right) :: row
  | _, _ => [0]

def commonTable (bs : List Line) : List Line → List (List Nat)
  | [] => [List.replicate (bs.length + 1) 0]
  | a :: as =>
    let rows := commonTable bs as
    commonRow a bs (rows.headD []) :: rows

/-- Parts of two texts that differ, each by the lines before it and those that are taken away and put in. -/
def changes : Nat → List (List Nat) → Nat → Nat → List Line → List Line → List (Nat × Nat × List Line × List Line)
  | 0, _, _, _, _, _ => []
  | fuel + 1, table, i, j, as, bs =>
    let start := (i, j)
    let rec skip : Nat → List (List Nat) → List Line → List Line → List Line → List Line →
        (List Line × List Line) × (List (List Nat) × List Line × List Line)
      | 0, t, gone, new, as, bs => ((gone.reverse, new.reverse), (t, as, bs))
      | fuel + 1, t, gone, new, as, bs =>
        match as, bs with
        | a :: as', b :: bs' =>
          if a = b then ((gone.reverse, new.reverse), (t, as, bs))
          else
            let down := ((t.drop 1).headD []).headD 0
            let right := ((t.headD []).drop 1).headD 0
            if down ≥ right then skip fuel (t.drop 1) (a :: gone) new as' bs
            else skip fuel (t.map (·.drop 1)) gone (b :: new) as bs'
        | a :: as', [] => skip fuel (t.drop 1) (a :: gone) new as' []
        | [], b :: bs' => skip fuel (t.map (·.drop 1)) gone (b :: new) [] bs'
        | [], [] => ((gone.reverse, new.reverse), (t, [], []))
    match as, bs with
    | [], [] => []
    | _, _ =>
      let ((gone, new), (t, as', bs')) := skip (as.length + bs.length + 1) table [] [] as bs
      let after := changes fuel ((t.drop 1).map (·.drop 1)) (i + gone.length + 1) (j + new.length + 1) (as'.drop 1) (bs'.drop 1)
      if gone.isEmpty && new.isEmpty then after else (start.1, start.2, gone, new) :: after

def diff : Tool := withOptions "diff" { flags := "qrsuwbBiN", words := ["brief", "recursive"], valued := "U" } (fun g d =>
  match g.operands with
  | [a, b] =>
    let b := match d.disk.inspect d.cwd b, d.disk.inspect d.cwd a with
      | .ok .dir, .ok .file => (goal d a b).text
      | _, _ => b
    match contents a d with
    | .error e => (2, d.complain ("diff: " ++ a ++ ": " ++ wording e))
    | .ok (left, d) =>
      match contents b d with
      | .error e => (2, d.complain ("diff: " ++ b ++ ": " ++ wording e))
      | .ok (right, d) =>
        if left = right then (0, if g.has ["s"] then d.say ("Files " ++ a ++ " and " ++ b ++ " are identical\n") else d)
        else if g.has ["q", "brief"] then (1, d.say ("Files " ++ a ++ " and " ++ b ++ " differ\n"))
        else
          let ls := linesOf left.toList
          let rs := linesOf right.toList
          let span (start : Nat) (ls : List Line) : String :=
            if ls.isEmpty then toString start
            else if ls.length = 1 then toString (start + 1)
            else toString (start + 1) ++ "," ++ toString (start + ls.length)
          let shown (mark : String) (l : Line) : List UInt8 :=
            mark.toUTF8.toList ++ (if l.getLast? = some newline then l else l ++ "\n\\ No newline at end of file\n".toUTF8.toList)
          let parts := (changes (ls.length + rs.length + 1) (commonTable rs ls) 0 0 ls rs).map fun (i, j, gone, new) =>
            let letter := if gone.isEmpty then "a" else if new.isEmpty then "d" else "c"
            (span i gone ++ letter ++ span j new ++ "\n").toUTF8.toList ++ gone.flatMap (shown "< ")
              ++ (if gone.isEmpty || new.isEmpty then [] else "---\n".toUTF8.toList) ++ new.flatMap (shown "> ")
          (1, d.put ⟨parts.flatten.toArray⟩)
  | operands =>
    let last := operands.getLastD "diff"
    (2, (d.complain (if operands.length > 2 then "diff: extra operand " ++ quoted ((operands[2]?).getD "")
      else "diff: missing operand after " ++ quoted last)).complain "diff: Try 'diff --help' for more information.")) 2
where
  goal (d : Desk) (source target : String) : Path :=
    match d.disk.inspect d.cwd target with
    | .ok .dir => Path.join target ⟨((Path.ofString source).fileName?).getD []⟩
    | _ => target

def dd : Tool := fun args d =>
  let pairs := args.map fun a => let name := a.toList.takeWhile (· ≠ '='); (String.ofList name, String.ofList (a.toList.drop (name.length + 1)))
  let known := ["if", "of", "bs", "ibs", "obs", "count", "skip", "seek", "conv", "status", "iflag", "oflag"]
  let value (name : String) : Option String := pairs.reverse.lookup name
  let number (name : String) (default : Nat) : Except String Nat :=
    match value name with
    | none => .ok default
    | some v => match amount? v with
      | some n => .ok n
      | none => .error ("dd: invalid number: " ++ quoted v)
  match args.find? fun a => !(a.contains '=' && known.contains (String.ofList (a.toList.takeWhile (· ≠ '=')))) with
  | some bad => misused "dd" ("unrecognized operand " ++ quoted bad) d
  | none =>
    match number "bs" 512, number "ibs" 512, number "skip" 0, number "seek" 0, number "count" 0 with
    | .ok bs, .ok ibs, .ok skip, .ok seek, .ok count =>
      let size := if (value "bs").isSome then bs else ibs
      let input : Except Fault (ByteArray × Desk) :=
        match value "if" with
        | none => contents "-" d
        | some f =>
          match d.disk.find d.cwd f with
          | .ok (_, .device .zero) => .ok (⟨Array.replicate (if (value "count").isSome then (skip + count) * size else 65536) 0⟩, d)
          | _ => contents f d
      match input with
      | .error e => (1, d.complain ("dd: failed to open " ++ quoted ((value "if").getD "") ++ ": " ++ wording e))
      | .ok (data, d) =>
        let data := data.extract (skip * size) data.size
        let data := if (value "count").isSome then data.extract 0 (count * size) else data
        let conversions := ((value "conv").getD "").splitOn ","
        let data : ByteArray :=
          if conversions.contains "ucase" then ⟨data.data.map fun b => if 97 ≤ b && b ≤ 122 then b - 32 else b⟩
          else if conversions.contains "lcase" then ⟨data.data.map fun b => if 65 ≤ b && b ≤ 90 then b + 32 else b⟩
          else data
        let written : Except String Desk :=
          match value "of" with
          | none => .ok (d.put data)
          | some f =>
            let before := (d.disk.read d.cwd f).toOption.getD ByteArray.empty
            let front := before.extract 0 (seek * size)
            let front : ByteArray := front ++ ⟨Array.replicate (seek * size - front.size) 0⟩
            let all := front ++ data
            let all := if conversions.contains "notrunc" then all ++ before.extract all.size before.size else all
            match keep d f (if seek = 0 && !conversions.contains "notrunc" then data else all) with
            | .ok d => .ok d
            | .error e =>
              .error (if e = .os .noSpace then "dd: error writing " ++ quoted f ++ ": " ++ wording e
                else "dd: failed to open " ++ quoted f ++ ": " ++ wording e)
        match written with
        | .error e => (1, d.complain e)
        | .ok d =>
          let records := toString (data.size / size) ++ "+" ++ (if data.size % size = 0 then "0" else "1") ++ " records "
          let summary := toString data.size ++ (if data.size = 1 then " byte" else " bytes") ++ " copied, 0 s, Infinity B/s"
          match value "status" with
          | some "none" => (0, d)
          | some "noxfer" => (0, (d.complain (records ++ "in")).complain (records ++ "out"))
          | _ => (0, ((d.complain (records ++ "in")).complain (records ++ "out")).complain summary)
    | .error e, _, _, _, _ | _, .error e, _, _, _ | _, _, .error e, _, _ | _, _, _, .error e, _ | _, _, _, _, .error e =>
      (1, d.complain e)

end Provision.Shell.Tool
