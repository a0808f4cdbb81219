import Provision.Toml
import Provision.Path

/-!
The settings: where the server is if the user says so, where downloads are kept, how updates are
looked for, and which release belongs to this build. Each has a default.
-/

set_option autoImplicit false

namespace Provision

inductive Channel where
  | stable
  | nightly
  deriving DecidableEq, Repr

namespace Channel

def name : Channel → String
  | .stable => "stable"
  | .nightly => "nightly"

def ofName? (s : String) : Option Channel :=
  if s = "stable" then some .stable else if s = "nightly" then some .nightly else none

@[simp] theorem ofName?_name (c : Channel) : ofName? c.name = some c := by cases c <;> rfl

end Channel

structure Updates where
  channel : Channel
  /-- The user is asked before a server is downloaded. -/
  ask : Bool
  /-- Seconds that have to pass between two looks for a nightly build. -/
  interval : UInt64
  deriving DecidableEq, Repr

structure Package where
  version : String
  /-- Without a tag the server of the system is used. -/
  releaseTag : Option String
  deriving DecidableEq, Repr

structure Settings where
  serverPath : Option String
  storageDir : Option String
  updates : Updates
  package : Package
  deriving DecidableEq, Repr

def buildVersion : String := "0.1.0"

def Updates.default : Updates := ⟨.stable, true, 3600⟩
def Package.default : Package := ⟨buildVersion, none⟩
def Settings.default : Settings := ⟨none, none, .default, .default⟩

namespace Settings

mutual

/-- Numbers inside it can be read, whatever they are for. -/
def isReadable : Toml → Bool
  | .integer n => -(Nat.pow 2 127) ≤ n && n < Nat.pow 2 128
  | .float fits => fits
  | .array items => areReadable items
  | .table _ es => entriesReadable es
  | .tables rows => rowsReadable rows
  | _ => true

def areReadable : List Toml → Bool
  | [] => true
  | t :: ts => isReadable t && areReadable ts

def entriesReadable : List (List Char × Toml) → Bool
  | [] => true
  | (_, t) :: es => isReadable t && entriesReadable es

def rowsReadable : List (List (List Char × Toml)) → Bool
  | [] => true
  | es :: rows => entriesReadable es && rowsReadable rows

end

/-- Keys that are not known are skipped, if their values can be read. -/
def skips (known : List String) (es : Toml.Entries) : Bool :=
  es.all fun e => known.any (fun k => k.toList = e.1) || isReadable e.2

def text? : Toml → Option String
  | .text cs => some (String.ofList cs)
  | _ => none

def bool? : Toml → Option Bool
  | .bool b => some b
  | _ => none

def word? : Toml → Option UInt64
  | .integer n => if 0 ≤ n && n < UInt64.size then some n.toNat.toUInt64 else none
  | _ => none

/-- A channel by its name, or as the only key of a table with nothing in it. -/
def channel? : Toml → Option Channel
  | .text cs => Channel.ofName? (String.ofList cs)
  | .table _ [(k, .table _ [])] => Channel.ofName? (String.ofList k)
  | .table _ [(k, .array [])] => Channel.ofName? (String.ofList k)
  | _ => none

/-- The members of a section, by name or in order. -/
inductive Members where
  | named (es : Toml.Entries)
  | listed (items : List Toml)

def members? : Toml → Option Members
  | .table _ es => some (.named es)
  | .moment => some (.named [])
  | .array items => some (.listed items)
  | .tables rows => some (.listed (rows.reverse.map (.table .defined)))
  | _ => none

def given {α : Type} (f : Toml → Option α) (default : α) : Option Toml → Option α
  | none => some default
  | some t => f t

def entry (name : String) (es : Toml.Entries) : Option Toml := es.lookup name.toList

def updates? (t : Toml) : Option Updates := do
  let (channel, ask, interval) ← match ← members? t with
    | .named es =>
      if skips ["channel", "ask_before_download", "check_interval_secs"] es then
        some (entry "channel" es, entry "ask_before_download" es, entry "check_interval_secs" es)
      else none
    | .listed items => some (items[0]?, items[1]?, items[2]?)
  return ⟨← given channel? Updates.default.channel channel, ← given bool? Updates.default.ask ask,
    ← given word? Updates.default.interval interval⟩

def package? (t : Toml) : Option Package := do
  match ← members? t with
  | .named es =>
    if skips ["version", "release_tag"] es then
      return ⟨← given text? Package.default.version (entry "version" es),
        ← given (fun t => (text? t).map some) none (entry "release_tag" es)⟩
    else none
  | .listed items => return ⟨← given text? Package.default.version items[0]?, some (← text? (← items[1]?))⟩

def ofEntries? (es : Toml.Entries) : Option Settings := do
  if skips ["server_path", "storage_dir", "updates", "package"] es then
    return ⟨← given (fun t => (text? t).map some) none (entry "server_path" es),
      ← given (fun t => (text? t).map some) none (entry "storage_dir" es),
      ← given updates? .default (entry "updates" es),
      ← given package? .default (entry "package" es)⟩
  else none

def firstFilled (a b : Option String) : Option String :=
  match a.filter (· ≠ "") with
  | some s => some s
  | none => b.filter (· ≠ "")

end Settings

end Provision
