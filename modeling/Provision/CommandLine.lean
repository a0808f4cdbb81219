import Provision.Path
import Provision.Session

set_option autoImplicit false

namespace Provision

namespace CommandLine

inductive Action where
  | run
  | server
  | exec (command : Command)
  | state
  | root (start : Option Path) (markers : List String)
  deriving DecidableEq, Repr

inductive Verb where
  | run
  | server
  | exec
  | state
  | root
  deriving DecidableEq, Repr

def Verb.ofWord? (s : String) : Option Verb :=
  match s with
  | "run" => some .run
  | "server" => some .server
  | "exec" => some .exec
  | "state" => some .state
  | "root" => some .root
  | _ => none

inductive Item where
  | config
  | yes
  | verbose
  | marker
  deriving DecidableEq, Repr

def Item.takesValue : Item → Bool
  | .config => true
  | .marker => true
  | _ => false

def Item.ofLong? (s : String) : Option Item :=
  match s with
  | "config" => some .config
  | "yes" => some .yes
  | "verbose" => some .verbose
  | "marker" => some .marker
  | _ => none

def Item.ofShort? : Char → Option Item
  | 'c' => some .config
  | 'y' => some .yes
  | 'v' => some .verbose
  | 'm' => some .marker
  | _ => none

/-- What was given on one level, before or behind the verb. -/
structure Given where
  config : Option String
  yes : Bool
  verbose : Bool
  markers : List String
  words : List String

def Given.none_ : Given := ⟨none, false, false, [], []⟩

/-- Notes an item that takes no value; it may be given once. -/
def Given.flag (g : Given) : Item → Option Given
  | .yes => if g.yes then none else some { g with yes := true }
  | .verbose => if g.verbose then none else some { g with verbose := true }
  | _ => none

/-- Notes an item with its value. Markers may be given more than once. -/
def Given.value (g : Given) (i : Item) (v : String) : Option Given :=
  match i with
  | .config => if g.config.isSome || v.isEmpty then none else some { g with config := some v }
  | .marker => some { g with markers := g.markers ++ [v] }
  | _ => none

/-- Items that are known on a level: markers belong to the search for a root. -/
def knows (verb : Option Verb) (i : Item) : Bool := i ≠ .marker || verb = some .root

/-- Letters behind one dash: flags, and at the end perhaps an item with its value or waiting for it. -/
def letters (verb : Option Verb) : Given → List Char → Option (Given × Option Item)
  | g, [] => some (g, none)
  | g, c :: cs => do
    let i ← Item.ofShort? c
    if !knows verb i then none
    else if i.takesValue then
      match cs with
      | [] => some (g, some i)
      | '=' :: v => return (← g.value i (String.ofList v), none)
      | v => return (← g.value i (String.ofList v), none)
    else letters verb (← g.flag i) cs

def longName (verb : Option Verb) (g : Given) (cs : List Char) : Option (Given × Option Item) := do
  let name := cs.takeWhile (· ≠ '=')
  let i ← Item.ofLong? (String.ofList name)
  if !knows verb i then none
  else match cs.drop name.length with
    | _ :: v => if i.takesValue then return (← g.value i (String.ofList v), none) else none
    | [] => if i.takesValue then some (g, some i) else return (← g.flag i, none)

/-- The arguments of one level, up to the verb where one may stand. `plain` says that two dashes were
seen, behind which everything is a word; `waiting` is an item whose value comes next. -/
def level (verb : Option Verb) : Given → Bool → Option Item → List String →
    Option (Given × Option (Verb × List String))
  | g, _, none, [] => some (g, none)
  | _, _, some _, [] => none
  | g, plain, some i, a :: rest =>
    if a.startsWith "-" && a ≠ "-" then none
    else do level verb (← g.value i a) plain none rest
  | g, plain, none, a :: rest =>
    if plain then level verb { g with words := g.words ++ [a] } plain none rest
    else if a = "--" then level verb g true none rest
    else match a.toList with
      | '-' :: '-' :: name => do
        let (g, waiting) ← longName verb g name
        level verb g plain waiting rest
      | '-' :: c :: cs => do
        let (g, waiting) ← letters verb g (c :: cs)
        level verb g plain waiting rest
      | _ =>
        match verb with
        | some _ => level verb { g with words := g.words ++ [a] } plain none rest
        | none => (Verb.ofWord? a).map fun v => (g, some (v, rest))

def action? (g : Given) : Verb → Option Action
  | .run => if g.words.isEmpty then some .run else none
  | .server => if g.words.isEmpty then some .server else none
  | .state => if g.words.isEmpty then some .state else none
  | .exec =>
    match g.words with
    | [w] => (Command.ofWord? w false).map .exec
    | _ => none
  | .root =>
    match g.words with
    | [] => some (.root none g.markers)
    | [w] => if w.isEmpty then none else some (.root (some (Path.ofString w)) g.markers)
    | _ => none

end CommandLine

structure CommandLine where
  config : Option Path
  yes : Bool
  verbose : Bool
  action : CommandLine.Action
  deriving DecidableEq, Repr

namespace CommandLine

/-- Reads the arguments. What stands behind the verb goes before what stands in front of it. -/
def read? (args : List String) : Option CommandLine := do
  let (outer, rest) ← level none .none_ false none args
  match rest with
  | none =>
    if outer.words.isEmpty then return ⟨outer.config.map Path.ofString, outer.yes, outer.verbose, .run⟩ else none
  | some (verb, args) =>
    let (inner, _) ← level (some verb) .none_ false none args
    let action ← action? inner verb
    return ⟨(inner.config.or outer.config).map Path.ofString, inner.yes || outer.yes,
      inner.verbose || outer.verbose, action⟩

end CommandLine

end Provision
