import Provision.Shell.Tool.Columns
import Provision.Shell.Word
import Provision.Text.Rounded

set_option autoImplicit false

namespace Provision.Shell.Tool

def byte (n : Nat) : ByteArray := ⟨#[n.toUInt8]⟩

def isOctalDigit (c : Char) : Bool := '0' ≤ c && c ≤ '7'

def octalValue (cs : List Char) : Nat := cs.foldl (fun n c => n * 8 + (c.toNat - 48)) 0

def escape (k : Dialect) (cs : List Char) : ByteArray × List Char :=
  let known := [('n', 10), ('t', 9), ('r', 13), ('a', 7), ('b', 8), ('e', 27), ('f', 12), ('v', 11), ('\\', 92)]
  match cs with
  | c :: rest =>
    match known.lookup c with
    | some n => (byte n, rest)
    | none =>
      if isOctalDigit c then
        let digits := (cs.take 3).takeWhile isOctalDigit
        (byte (octalValue digits), cs.drop digits.length)
      else if k.isRich && (c = 'x' || c = 'u' || c = '"') then
        let (text, after) := dollarEscape cs
        if c = 'x' then
          let ds := (rest.take 2).takeWhile fun c => c.isDigit || ('a' ≤ c.toLower && c.toLower ≤ 'f')
          if ds.isEmpty then ((String.ofList ['\\', c]).toUTF8, rest)
          else (⟨(text.map fun c => c.toNat.toUInt8).toArray⟩, after)
        else ((String.ofList text).toUTF8, after)
      else ((String.ofList ['\\', c]).toUTF8, rest)
  | [] => (byte 92, [])

/-- Text with its escapes replaced; `\c` ends it, and then the second value is true. -/
def unescaped (k : Dialect) : Nat → List Char → ByteArray × Bool
  | 0, _ => (ByteArray.empty, false)
  | _, [] => (ByteArray.empty, false)
  | _ + 1, '\\' :: 'c' :: _ => (ByteArray.empty, true)
  | fuel + 1, '\\' :: rest =>
    -- an octal escape may have a zero in front
    let rest := match rest with
      | '0' :: c :: more => if isOctalDigit c then c :: more else rest
      | _ => rest
    let (data, after) := escape k rest
    let (more, stop) := unescaped k fuel after
    (data ++ more, stop)
  | fuel + 1, cs =>
    let plain := cs.takeWhile (· ≠ '\\')
    let (more, stop) := unescaped k fuel (cs.drop plain.length)
    ((String.ofList plain).toUTF8 ++ more, stop)

/-- Prints words; the plain dialect always replaces escapes and the rich one if it is asked to. -/
def echo (k : Dialect) : Tool := fun args d =>
  let isFlag (a : String) : Bool :=
    if k.isRich then a.length > 1 && a.startsWith "-" && (a.toList.drop 1).all fun c => c = 'n' || c = 'e' || c = 'E' else a = "-n"
  let flags := if k.isRich then args.takeWhile isFlag else (args.take 1).filter isFlag
  let letters := flags.flatMap fun f => f.toList.drop 1
  let text := " ".intercalate (args.drop flags.length)
  let escapes := !k.isRich || (letters.reverse.find? fun c => c = 'e' || c = 'E') = some 'e'
  let (data, stop) := if escapes then unescaped k (text.length + 1) text.toList else (text.toUTF8, false)
  (0, d.put (data ++ (if letters.contains 'n' || stop then ByteArray.empty else "\n".toUTF8)))

/-- A place in a format: how the value is aligned and marked, how wide it is, and its kind. -/
structure Slot where
  left : Bool
  zeros : Bool
  plus : Bool
  space : Bool
  alternate : Bool
  width : Nat
  precision : Option Nat
  kind : Char

def measure (cs : List Char) (args : List String) : Option Int × List Char × List String :=
  match cs with
  | '*' :: rest => ((integer? (args.headD "0")).or (some 0), rest, args.drop 1)
  | _ =>
    let ds := cs.takeWhile Char.isDigit
    (if ds.isEmpty then none else some (Int.ofNat (Decimal.value ds)), cs.drop ds.length, args)

/-- Reads a slot behind its percent sign; also gives the text of it, for complaints. -/
def slot (k : Dialect) (cs : List Char) (args : List String) : Option (Slot × List Char) × List Char × List String :=
  let flags := cs.takeWhile fun c => c = '-' || c = '0' || c = '+' || c = ' ' || c = '#'
  let (width, rest, args) := measure (cs.drop flags.length) args
  let (precision, rest, args) := match rest with
    | '.' :: more =>
      let (p, rest, args) := measure more args
      (some (p.getD 0), rest, args)
    | _ => (none, rest, args)
  let rest := if k.isRich then rest.dropWhile fun c => "hlLjzt".toList.contains c else rest
  match rest with
  | kind :: rest =>
    let w := width.getD 0
    (some (⟨flags.contains '-' || w < 0, flags.contains '0', flags.contains '+', flags.contains ' ', flags.contains '#',
      w.natAbs, precision.bind fun p => if p < 0 then none else some p.toNat, kind⟩, cs.take (cs.length - rest.length)), rest, args)
  | [] => (none, [], args)

inductive Oddity where
  | none_
  | nothing
  | partly
  | range
  deriving DecidableEq

/-- The number that a value stands for: a character behind a quote, or digits in base ten, eight or sixteen. -/
def numberOf (signed : Bool) (value : String) : Int × Oddity :=
  match value.toList with
  | [] => (0, .none_)
  | q :: rest =>
    if q = '"' || q = Char.ofNat 39 then
      (Int.ofNat ((bytesOf (String.ofList rest)).headD (Char.ofNat 0)).toNat, .none_)
    else
      let cs := (q :: rest).dropWhile fun c => c = ' ' || c = '\t' || c = '\n'
      let (sign, body) : Int × List Char := match cs with
        | '-' :: rest => (-1, rest)
        | '+' :: rest => (1, rest)
        | _ => (1, cs)
      let hex (c : Char) : Bool := c.isDigit || ('a' ≤ c.toLower && c.toLower ≤ 'f')
      let (base, digits, after) : Nat × List Char × List Char := match body with
        | '0' :: x :: more =>
          if (x = 'x' || x = 'X') && more.head?.any hex then (16, more.takeWhile hex, more.dropWhile hex)
          else (8, body.takeWhile isOctalDigit, body.dropWhile isOctalDigit)
        | _ => (10, body.takeWhile Char.isDigit, body.dropWhile Char.isDigit)
      let n := digits.foldl (fun n c => n * base + (if c.isDigit then c.toNat - 48 else c.toLower.toNat - 87)) 0
      let v := sign * Int.ofNat n
      let high : Int := if signed then Nat.pow 2 63 - 1 else Nat.pow 2 64 - 1
      if digits.isEmpty then (0, .nothing)
      else if v > high then (high, .range)
      else if v < -(Nat.pow 2 63) then (if signed then -(Nat.pow 2 63) else high, .range)
      else (v, if after.isEmpty then .none_ else .partly)

def aligned (s : Slot) (bytes : ByteArray) : ByteArray :=
  let gap : ByteArray := ⟨(List.replicate (s.width - bytes.size) (32 : UInt8)).toArray⟩
  if s.left then bytes ++ gap else gap ++ bytes

/-- A number in its column, by its sign, the mark in front and its digits; zeros may fill the gap. -/
def alignedNumber (s : Slot) (zeros : Bool) (sign mark digits : List Char) : ByteArray :=
  let gap := s.width - (sign.length + mark.length + digits.length)
  if zeros && !s.left then (String.ofList (sign ++ mark ++ List.replicate gap '0' ++ digits)).toUTF8
  else aligned s (String.ofList (sign ++ mark ++ digits)).toUTF8

def signOf (s : Slot) (isNegative : Bool) : List Char :=
  if isNegative then ['-'] else if s.plus then ['+'] else if s.space then [' '] else []

def wholeNumber (s : Slot) (n : Int) : ByteArray :=
  let unsigned := (n % Nat.pow 2 64).toNat
  let (sign, mark, digits) : List Char × List Char × List Char := match s.kind with
    | 'o' =>
      let ds := Nat.toDigits 8 unsigned
      ([], if s.alternate && ds.head? ≠ some '0' then ['0'] else [], ds)
    | 'x' => ([], if s.alternate && n ≠ 0 then ['0', 'x'] else [], Nat.toDigits 16 unsigned)
    | 'X' => ([], if s.alternate && n ≠ 0 then ['0', 'X'] else [], (Nat.toDigits 16 unsigned).map Char.toUpper)
    | 'u' => ([], [], Nat.toDigits 10 unsigned)
    | _ => (signOf s (n < 0), [], Nat.toDigits 10 n.natAbs)
  let digits := match s.precision with
    | some 0 => if n = 0 then [] else digits
    | some p => List.replicate (p - digits.length) '0' ++ digits
    | none => digits
  alignedNumber s (s.zeros && s.precision.isNone) sign mark digits

def fraction (s : Slot) (v : Rounded.Value) : ByteArray :=
  let capital := s.kind.isUpper
  let cased (t : String) : List Char := (if capital then t.toUpper else t).toList
  match v with
  | .none_ => alignedNumber s false [] [] (cased "nan")
  | .infinite isNegative => alignedNumber s false (signOf s isNegative) [] (cased "inf")
  | .exact isNegative num den =>
    let p := s.precision.getD 6
    let digits := match s.kind.toLower with
      | 'f' => Rounded.fixed s.alternate p num den
      | 'e' => Rounded.scientific s.alternate capital p num den
      | _ => Rounded.shorter s.alternate capital p num den
    alignedNumber s s.zeros (signOf s isNegative) [] digits

def requoted (s : String) : String :=
  if s.isEmpty then apostrophe ++ apostrophe
  else if s.any fun c => c = '\n' || c = '\t' then "$" ++ apostrophe ++ ((s.replace "\n" "\\n").replace "\t" "\\t") ++ apostrophe
  else String.ofList (s.toList.flatMap fun c =>
    if c.isAlphanum || "%+-./:=@_,^".toList.contains c || c.toNat ≥ 128 then [c] else ['\\', c])

/-- What one pass over a format prints, the arguments left, whether any was asked for, complaints, and whether
printing ends with it. -/
structure Pass where
  data : ByteArray
  left : List String
  asked : Bool
  odd : List String
  stops : Bool
  code : Nat

def Pass.behind (p : Pass) (data : ByteArray) : Pass := { p with data := data ++ p.data }

def oddity (k : Dialect) (value : String) : Oddity → Option String
  | .none_ => none
  | .nothing => some (value ++ (if k.isRich then ": invalid number" else ": expected numeric value"))
  | .partly => some (value ++ (if k.isRich then ": invalid number" else ": not completely converted"))
  | .range => some ((if k.isRich then "warning: " else "") ++ value ++ ": Numerical result out of range")

def formatOnce (k : Dialect) : Nat → List Char → List String → Pass
  | 0, _, args => ⟨ByteArray.empty, args, false, [], false, 0⟩
  | _, [], args => ⟨ByteArray.empty, args, false, [], false, 0⟩
  | fuel + 1, '\\' :: rest, args => (formatOnce k fuel (escape k rest).2 args).behind (escape k rest).1
  | fuel + 1, '%' :: '%' :: rest, args => (formatOnce k fuel rest args).behind (byte 37)
  | fuel + 1, '%' :: rest, args =>
    match slot k rest args with
    | (none, _, args) =>
      if k.isRich then ⟨ByteArray.empty, args, false, [Char.toString (Char.ofNat 96) ++ "%" ++ apostrophe ++ ": missing format character"], true, 1⟩
      else ⟨ByteArray.empty, args, false, ["missing format character"], true, 2⟩
    | (some (s, text), rest, args) =>
      let value := args.headD ""
      let go (data : ByteArray) (odd : Option String) (code : Nat) : Pass :=
        let p := formatOnce k fuel rest (args.drop 1)
        { p with data := data ++ p.data, asked := true, odd := odd.toList ++ p.odd, code := max code p.code }
      let cut (b : ByteArray) : ByteArray := match s.precision with
        | some p => b.extract 0 p
        | none => b
      if "di".toList.contains s.kind || "ouxX".toList.contains s.kind then
        let (n, o) := numberOf (s.kind = 'd' || s.kind = 'i') value
        go (wholeNumber s n) (oddity k value o) (if o = .none_ || (k.isRich && o = .range) then 0 else 1)
      else if "eEfFgG".toList.contains s.kind then
        let cs := value.toList.dropWhile fun c => c = ' ' || c = '\t'
        let (v, o) := match Rounded.read? cs with
          | some (f, after) => (f, if after.isEmpty then Oddity.none_ else .partly)
          | none => (0.0, if value.isEmpty then .none_ else .nothing)
        go (fraction s (.ofFloat v)) (oddity k value o) (if o = .none_ then 0 else 1)
      else match s.kind with
        | 'c' =>
          let b := value.toUTF8.extract 0 1
          go (aligned s (if b.isEmpty then byte 0 else b)) none 0
        | 's' => go (aligned s (cut value.toUTF8)) none 0
        | 'b' =>
          let (data, stop) := unescaped k (value.length + 1) value.toList
          if stop then ⟨aligned s (cut data), args.drop 1, true, [], true, 0⟩ else go (aligned s (cut data)) none 0
        | kind =>
          if k.isRich && kind = 'q' then go (aligned s (requoted value).toUTF8) none 0
          else if k.isRich then
            ⟨ByteArray.empty, args, false, [Char.toString (Char.ofNat 96) ++ Char.toString kind ++ apostrophe ++ ": invalid format character"], true, 1⟩
          else ⟨ByteArray.empty, args, false, ["%" ++ String.ofList text ++ ": invalid directive"], true, 2⟩
  | fuel + 1, cs, args =>
    let plain := cs.takeWhile fun c => c ≠ '\\' && c ≠ '%'
    (formatOnce k fuel (cs.drop plain.length) args).behind (String.ofList plain).toUTF8

def formatAll (k : Dialect) : Nat → List Char → List String → Pass
  | 0, _, _ => ⟨ByteArray.empty, [], false, [], false, 0⟩
  | fuel + 1, format, args =>
    let p := formatOnce k (format.length + 1) format args
    if p.asked && !p.left.isEmpty && !p.stops then
      let q := formatAll k fuel format p.left
      { q with data := p.data ++ q.data, odd := p.odd ++ q.odd, code := max p.code q.code }
    else p

def printf (k : Dialect) : Tool := fun args d =>
  let (isOpen, args) := match args with
    | "--" :: rest => (false, rest)
    | _ => (true, args)
  match args with
  | [] =>
    if k.isRich then (2, d.complain "printf: usage: printf [-v var] format [arguments]")
    else (2, d.complain "printf: usage: printf format [arg ...]")
  | format :: rest =>
    if isOpen && format.startsWith "-" && format.length > 1 then
      let letter := String.ofList ((format.toList.drop 1).take 1)
      if k.isRich then (2, (d.complain ("printf: -" ++ letter ++ ": invalid option")).complain "printf: usage: printf [-v var] format [arguments]")
      else (2, d.complain ("printf: Illegal option -" ++ letter))
    else
      let p := formatAll k (rest.length + 1) format.toList rest
      let d := p.odd.foldl (fun d a => d.complain ("printf: " ++ a)) d
      (p.code, d.put p.data)

def seq : Tool := fun args d =>
  let isNumber (a : String) : Bool := (decimal? a).isSome
  let options := args.takeWhile fun a => a.startsWith "-" && !isNumber a
  -- values of options may look like numbers
  let options := if ["-s", "-f"].contains (options.getLastD "") then args.take (options.length + 1) else options
  match sortArgs { flags := "w", valued := "sf", words := ["equal-width"], valuedWords := ["separator", "format"] } (args.length + 1) options with
  | .error e => misused "seq" e d
  | .ok g =>
    let operands := g.operands ++ args.drop options.length
    match operands.find? fun a => !isNumber a with
    | some bad => misused "seq" ("invalid floating point argument: " ++ quoted bad) d
    | none =>
      let values := operands.filterMap decimal?
      let places := (values.map (·.2)).foldl max 0
      let scaled := values.map fun (n, p) => n * Nat.pow 10 (places - p)
      let one : Int := Nat.pow 10 places
      let between (low step high : Int) : Nat × Desk :=
        if step = 0 then misused "seq" ("invalid Zero increment value: " ++ quoted ((operands[1]?).getD "")) d
        else
          let count := ((high - low) / step + 1).toNat
          let ns := (List.range count).map fun i => low + step * Int.ofNat i
          let texts := ns.map (decimalText places)
          let width := (texts.map String.length).foldl max 0
          let texts := if g.has ["w", "equal-width"] then texts.map fun t =>
              if t.startsWith "-" then "-" ++ String.ofList (List.replicate (width - t.length) '0' ++ t.toList.drop 1)
              else String.ofList (List.replicate (width - t.length) '0') ++ t else texts
          let texts := match g.value? ["f", "format"] with
            | some f => texts.map fun t => Utf8.lossy ((printf .rich [f, t] { d with spoken := [] }).2.out)
            | none => texts
          (0, if texts.isEmpty then d else d.say ((((g.value? ["s", "separator"]).getD "\n").intercalate texts) ++ "\n"))
      match scaled with
      | [high] => between one one high
      | [low, high] => between low one high
      | [low, step, high] => between low step high
      | [] => misused "seq" "missing operand" d
      | _ => misused "seq" ("extra operand " ++ quoted ((operands[3]?).getD "")) d

end Provision.Shell.Tool
