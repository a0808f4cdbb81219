import Provision.Instant.Text
import Provision.Json.Reader

/-!
The record of what is installed: when a newer build was last looked for, which nightly release is
installed, and which version of the server. It is kept as an object with three members, each on a line.
-/

set_option autoImplicit false

namespace Provision

structure Record where
  lastCheck : Option Instant
  releaseId : Option UInt64
  serverVersion : Option String
  deriving DecidableEq

namespace Record

def empty : Record := ⟨none, none, none⟩

def writeOption {α : Type} (f : α → List Char) : Option α → List Char
  | none => "null".toList
  | some a => f a

def names : List String := ["lastCheck", "releaseId", "serverVersion"]

def writeMember (name : String) (value : List Char) : List Char :=
  [' ', ' '] ++ Json.quoted name.toList ++ [':', ' '] ++ value

def write (r : Record) : List Char :=
  ['\x7b', '\n']
    ++ writeMember "lastCheck" (writeOption (fun t => Json.quoted t.write) r.lastCheck) ++ [',', '\n']
    ++ writeMember "releaseId" (writeOption (fun n => Decimal.write n.toNat) r.releaseId) ++ [',', '\n']
    ++ writeMember "serverVersion" (writeOption (fun v => Json.quoted v.toList) r.serverVersion)
    ++ ['\n', '\x7d']

def text (r : Record) : String := String.ofList r.write

def instant? (j : Json) : Option Instant := do Instant.ofText? (← j.text?)

def member? {α : Type} (f : Json → Option α) : Option Json → Option (Option α)
  | none => some none
  | some j => j.optional? f

def ofJson? (j : Json) : Option Record := do
  match ← j.members? names with
  | [lastCheck, releaseId, serverVersion] =>
    return ⟨← member? instant? lastCheck, ← member? Json.word? releaseId, ← member? Json.text? serverVersion⟩
  | _ => none

def read? (cs : List Char) : Option Record := do ofJson? (← Json.read? cs)

end Record

end Provision
