/-!
Documents of the TOML format: tables of named values. Each table remembers how it came to be, since
that decides whether later lines may add to it.
-/

set_option autoImplicit false

namespace Provision

inductive Toml.Mark where
  /-- Only as part of the name of another table. -/
  | implicit
  /-- By a dotted key. -/
  | dotted
  | defined
  /-- Written in one piece, and closed. -/
  | closed
  deriving DecidableEq, Repr

inductive Toml where
  | text (cs : List Char)
  | integer (n : Int)
  /-- A number with a fraction or an exponent; whether it is small enough to be one is all that matters. -/
  | float (fits : Bool)
  | bool (b : Bool)
  | moment
  | array (items : List Toml)
  | table (mark : Toml.Mark) (entries : List (List Char × Toml))
  /-- Tables that share a header, the latest first. -/
  | tables (rows : List (List (List Char × Toml)))
  deriving Repr

namespace Toml

abbrev Entries := List (List Char × Toml)

def alter (key : List Char) (f : Option Toml → Option Toml) : Entries → Option Entries
  | [] => (f none).map fun v => [(key, v)]
  | (k, v) :: rest =>
    if k = key then (f (some v)).map fun w => (k, w) :: rest
    else (alter key f rest).map ((k, v) :: ·)

def add (key : List Char) (value : Toml) : Entries → Option Entries :=
  alter key fun
    | none => some value
    | some _ => none

def atHeader : List (List Char) → (Entries → Option Entries) → Entries → Option Entries
  | [], edit => edit
  | k :: ks, edit => alter k fun
    | none => (atHeader ks edit []).map (.table .implicit)
    | some (.table .closed _) => none
    | some (.table mark es) => (atHeader ks edit es).map (.table mark)
    | some (.tables (row :: older)) => (atHeader ks edit row).map fun r => .tables (r :: older)
    | some _ => none

/-- Changes the table that the names in front of the last name of a dotted key lead to. -/
def atDotted : List (List Char) → (Entries → Option Entries) → Entries → Option Entries
  | [], edit => edit
  | [k], edit => alter k fun
    | none => (edit []).map (.table .dotted)
    | some (.table .dotted es) => (edit es).map (.table .dotted)
    | some _ => none
  | k :: ks, edit => alter k fun
    | none => (atDotted ks edit []).map (.table .dotted)
    | some (.table .dotted es) => (atDotted ks edit es).map (.table .dotted)
    | some (.table .implicit es) => (atDotted ks edit es).map (.table .implicit)
    | some (.tables (row :: older)) => (atDotted ks edit row).map fun r => .tables (r :: older)
    | some _ => none

def openTable (path : List (List Char)) (key : List Char) (root : Entries) : Option Entries :=
  atHeader path (alter key fun
    | none => some (.table .defined [])
    | some (.table .implicit es) => some (.table .defined es)
    | some _ => none) root

def openRow (path : List (List Char)) (key : List Char) (root : Entries) : Option Entries :=
  atHeader path (alter key fun
    | none => some (.tables [[]])
    | some (.tables rows) => some (.tables ([] :: rows))
    | some _ => none) root

def put (key : List (List Char)) (value : Toml) (es : Entries) : Option Entries :=
  match key.getLast? with
  | some last => atDotted key.dropLast (add last value) es
  | none => none

end Toml

end Provision
