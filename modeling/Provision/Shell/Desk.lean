import Provision.Disk.Step
import Provision.Text.Utf8

set_option autoImplicit false

namespace Provision.Shell

abbrev Env := List (String × String)

structure Desk where
  disk : Disk
  cwd : Place
  env : Env
  /-- Mode bits that new files do not get. -/
  mask : Nat
  input : ByteArray
  /-- The input is a file, so that what a program read too much of it is not lost. -/
  isFile : Bool
  /-- What was written, last first, and whether it was written as an error. -/
  spoken : List (Bool × ByteArray)

namespace Desk

def write (d : Desk) (isError : Bool) (data : ByteArray) : Desk :=
  if data.isEmpty then d else { d with spoken := (isError, data) :: d.spoken }

def put (d : Desk) (data : ByteArray) : Desk := d.write false data
def say (d : Desk) (s : String) : Desk := d.write false s.toUTF8
def complain (d : Desk) (s : String) : Desk := d.write true (s ++ "\n").toUTF8

def heard (d : Desk) (isError : Bool) : ByteArray :=
  d.spoken.foldr (fun c acc => if c.1 = isError then acc ++ c.2 else acc) ByteArray.empty

def out (d : Desk) : ByteArray := d.heard false
def err (d : Desk) : ByteArray := d.heard true

def modeFor (d : Desk) (asked : Nat) : Nat := asked &&& (0o7777 - d.mask % 0o1000)

end Desk

abbrev Tool := List String → Desk → Nat × Desk

namespace Tool

def wording : Fault → String
  | .os e => e.wording
  | f => f.message

def apostrophe : String := String.singleton (Char.ofNat 39)

def quoted (s : String) : String := apostrophe ++ s.replace apostrophe (apostrophe ++ "\\" ++ apostrophe ++ apostrophe) ++ apostrophe

def quotedIfOdd (s : String) : String :=
  if s.isEmpty || s.any fun c => !(c.isAlphanum || "/._-+,:@%=".toList.contains c || c.toNat ≥ 128) then quoted s else s

/-- Writes what a tool keeps back until its end behind its complaints, which it does not keep back. -/
def buffered (t : Tool) : Tool := fun args d =>
  let (code, d') := t args { d with spoken := [] }
  (code, { d' with spoken := d'.spoken.filter (fun c => !c.1) ++ d'.spoken.filter (·.1) ++ d.spoken })

structure Given where
  /-- Letters, and words behind two hyphens, with their values. -/
  options : List (String × String)
  operands : List String

namespace Given

def has (g : Given) (names : List String) : Bool := g.options.any fun o => names.contains o.1

def value? (g : Given) (names : List String) : Option String :=
  (g.options.reverse.find? fun o => names.contains o.1).map (·.2)

def values (g : Given) (names : List String) : List String :=
  g.options.filterMap fun o => if names.contains o.1 then some o.2 else none

end Given

/-- What a tool knows of options: letters without a value, letters with one, and words with and without. -/
structure Options where
  flags : String := ""
  valued : String := ""
  words : List String := []
  valuedWords : List String := []

def letters (o : Options) : List Char → List String → Except String (List (String × String) × List String)
  | [], rest => .ok ([], rest)
  | c :: cs, rest =>
    if o.flags.toList.contains c then do
      let (more, rest) ← letters o cs rest
      return ((String.singleton c, "") :: more, rest)
    else if o.valued.toList.contains c then
      match cs, rest with
      | [], v :: rest => .ok ([(String.singleton c, v)], rest)
      | [], [] => .error ("option requires an argument -- " ++ quoted (String.singleton c))
      | cs, rest => .ok ([(String.singleton c, String.ofList cs)], rest)
    else .error ("invalid option -- " ++ quoted (String.singleton c))

def sortArgs (o : Options) : Nat → List String → Except String Given
  | 0, _ => .ok ⟨[], []⟩
  | _, [] => .ok ⟨[], []⟩
  | fuel + 1, a :: rest =>
    let operand : Except String Given := do
      let g ← sortArgs o fuel rest
      return { g with operands := a :: g.operands }
    match a.toList with
    | ['-', '-'] => .ok ⟨[], rest⟩
    | '-' :: '-' :: word =>
      let name := String.ofList (word.takeWhile (· ≠ '='))
      let value := String.ofList ((word.drop name.length).drop 1)
      if o.words.contains name then do
        let g ← sortArgs o fuel rest
        return { g with options := (name, value) :: g.options }
      else if o.valuedWords.contains name then
        if word.contains '=' then do
          let g ← sortArgs o fuel rest
          return { g with options := (name, value) :: g.options }
        else match rest with
          | v :: rest => do
            let g ← sortArgs o fuel rest
            return { g with options := (name, v) :: g.options }
          | [] => .error ("option " ++ quoted a ++ " requires an argument")
      else .error ("unrecognized option " ++ quoted a)
    | '-' :: c :: cs => do
      let (os, rest) ← letters o (c :: cs) rest
      let g ← sortArgs o fuel rest
      return { g with options := os ++ g.options }
    | _ => operand

def misusedAs (code : Nat) (name problem : String) (d : Desk) : Nat × Desk :=
  (code, (d.complain (name ++ ": " ++ problem)).complain ("Try " ++ quoted (name ++ " --help") ++ " for more information."))

def misused (name problem : String) (d : Desk) : Nat × Desk := misusedAs 1 name problem d

def withOptions (name : String) (o : Options) (f : Given → Desk → Nat × Desk) (code : Nat := 1) : Tool := fun args d =>
  match sortArgs o (args.length + 1) args with
  | .ok g => f g d
  | .error problem => misusedAs code name problem d

def forEach (f : String → Desk → Except String Desk) (args : List String) (d : Desk) (bad : Nat := 1) : Nat × Desk :=
  args.foldl (fun (code, d) a => match f a d with
    | .ok d => (code, d)
    | .error e => (bad, if e.isEmpty then d else d.complain e)) (0, d)

def contents (f : String) (d : Desk) : Except Fault (ByteArray × Desk) :=
  if f = "-" || f = "/dev/stdin" then .ok (d.input, { d with input := ByteArray.empty })
  else (d.disk.read d.cwd f).map fun data => (data, d)

def titled (f : String) : String := if f = "-" then "standard input" else f

def orInput (files : List String) : List String := if files.isEmpty then ["-"] else files

/-- The contents of files one after the other; `named` puts a file into a complaint. -/
def gathered (named : String → String) (files : List String) (d : Desk) : ByteArray × Nat × Desk :=
  (orInput files).foldl (fun (data, code, d) f =>
    match contents f d with
    | .ok (more, d) => (data ++ more, code, d)
    | .error e => (data, 1, d.complain (named f ++ ": " ++ wording e))) (ByteArray.empty, 0, d)

def filterAll (named : String → String) (f : ByteArray → ByteArray) (files : List String) (d : Desk) : Nat × Desk :=
  let (data, code, d) := gathered named files d
  (code, d.put (f data))

def filter (named : String → String) (f : ByteArray → ByteArray) (files : List String) (d : Desk) : Nat × Desk :=
  (orInput files).foldl (fun (code, d) file =>
    match contents file d with
    | .ok (data, d) => (code, d.put (f data))
    | .error e => (1, d.complain (named file ++ ": " ++ wording e))) (0, d)

def keep (d : Desk) (p : Path) (data : ByteArray) : Except Fault Desk := do
  let (h, disk) ← d.disk.openAs true (d.modeFor 0o666) d.cwd p
  let disk ← disk.write h data
  return { d with disk := disk }

/-! Lines of bytes. -/

def newline : UInt8 := 10

/-- The lines of some bytes, each with the newline at its end; the last may have none. -/
def linesOf (bytes : List UInt8) : List (List UInt8) :=
  let (done, open_) := bytes.foldl (fun (acc : List (List UInt8) × List UInt8) b =>
    if b = newline then ((b :: acc.2).reverse :: acc.1, []) else (acc.1, b :: acc.2)) ([], [])
  (if open_.isEmpty then done else open_.reverse :: done).reverse

def ofLines (ls : List (List UInt8)) : ByteArray := ⟨ls.flatten.toArray⟩

def bare (l : List UInt8) : List UInt8 := if l.getLast? = some newline then l.dropLast else l

def textLines (data : ByteArray) : List String :=
  (linesOf data.toList).map fun l => Utf8.lossy ⟨(bare l).toArray⟩

end Tool

end Provision.Shell
