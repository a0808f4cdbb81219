import Provision.Log
import Provision.Text.Regex.Reader

/-!
Which log entries are shown: a level for all parts of the program, levels for parts by name, and
perhaps a regular expression that has to fit somewhere in an entry.
-/

set_option autoImplicit false

namespace Provision

/-- Entries of a part, or of all parts, are shown up to a rank. -/
structure LogFilter.Rule where
  part : Option (List Char)
  rank : Nat
  deriving DecidableEq, Repr

structure LogFilter where
  rules : List LogFilter.Rule
  /-- The regular expression as it is written; one that cannot be read lets every entry pass. -/
  pattern : List Char
  deriving DecidableEq, Repr

namespace LogFilter

def ofLevel (l : Log.Level) : LogFilter := ⟨[⟨none, l.rank⟩], []⟩

def levelNames : List (String × Nat) :=
  [("off", 0), ("error", 1), ("warn", 2), ("info", 3), ("debug", 4), ("trace", 5)]

def maxRank : Nat := 5

def rank? (cs : List Char) : Option Nat := levelNames.lookup (String.ofList (cs.map Char.toLower))

def insert (f : LogFilter) (r : Rule) : LogFilter :=
  if f.rules.any fun q => q.part = r.part then
    { f with rules := f.rules.map fun q => if q.part = r.part then r else q }
  else { f with rules := f.rules ++ [r] }

def splitOn (mark : Char) (cs : List Char) : List (List Char) :=
  ((String.ofList cs).splitOn (String.singleton mark)).map String.toList

def rule? (item : List Char) : Option Rule :=
  match splitOn '=' item with
  | [part] =>
    match rank? part with
    | some n => some ⟨none, n⟩
    | none => some ⟨some part, maxRank⟩
  | [part, level] =>
    let level := Blank.trim level
    if level.isEmpty then some ⟨some part, maxRank⟩
    else (rank? level).map fun n => ⟨some part, n⟩
  | _ => none

def add (f : LogFilter) (spec : String) : LogFilter :=
  match splitOn '/' spec.toList with
  | items :: rest =>
    if rest.length > 1 then f
    else
      let items := ((splitOn ',' items).map Blank.trim).filter (· ≠ [])
      let f := (items.filterMap rule?).foldl insert f
      { f with pattern := rest.headD [] }
  | [] => f

def ruleFor (f : LogFilter) (target : List Char) : Option Rule :=
  (f.rules.filter fun r => (r.part.getD []).isPrefixOf target).foldl (fun best r =>
    match best with
    | none => some r
    | some b => if (b.part.getD []).length ≤ (r.part.getD []).length then some r else some b) none

def passes (pattern text : List Char) : Bool := (Text.Regex.read? pattern).all fun r => r.occursIn text

def shows (f : LogFilter) (e : Log.Entry) : Bool :=
  match f.ruleFor e.source.target.toList with
  | some r => e.level.rank ≤ r.rank && passes f.pattern e.text.toList
  | none => false

end LogFilter

end Provision
