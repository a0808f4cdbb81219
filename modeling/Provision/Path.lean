/-!
Paths as they are written. A path is its text; its parent, ancestors, last name and extension are
read off the text, with empty and `.` segments skipped, and without looking at any disk.
-/

set_option autoImplicit false

namespace Provision

abbrev Name := List Char

/-- One name comes before the other in the order of their characters. -/
def Name.precedes (a b : Name) : Bool := List.lex a b fun x y => x.toNat < y.toNat

structure Path where
  chars : List Char
  deriving DecidableEq, Repr, Inhabited

namespace Path

def ofString (s : String) : Path := ⟨s.toList⟩

def text (p : Path) : String := String.ofList p.chars

instance : Coe String Path := ⟨ofString⟩

instance : ToString Path := ⟨text⟩

@[simp] theorem ofString_text (p : Path) : ofString p.text = p := by
  simp [ofString, text]

/-- The pieces between the slashes, empty ones included. -/
def segments : List Char → List Name
  | [] => [[]]
  | c :: cs =>
    if c = '/' then [] :: segments cs
    else match segments cs with
      | [] => [[c]]
      | s :: rest => (c :: s) :: rest

def joined : List Name → List Char
  | [] => []
  | [s] => s
  | s :: rest => s ++ '/' :: joined rest

theorem segments_ne_nil (cs : List Char) : segments cs ≠ [] := by
  cases cs with
  | nil => simp [segments]
  | cons c cs =>
    simp only [segments]
    split
    · simp
    · split <;> simp

theorem joined_segments (cs : List Char) : joined (segments cs) = cs := by
  induction cs with
  | nil => rfl
  | cons c cs ih =>
    simp only [segments]
    split
    · rename_i h
      subst h
      cases hs : segments cs with
      | nil => exact absurd hs (segments_ne_nil cs)
      | cons s rest => rw [hs] at ih; simp [joined, ih]
    · cases hs : segments cs with
      | nil => exact absurd hs (segments_ne_nil cs)
      | cons s rest =>
        rw [hs] at ih
        cases rest with
        | nil => simpa [joined] using ih
        | cons t rest => simpa [joined] using ih

/-- What a path starts with: nothing, the root, or a leading `.`. -/
inductive Start where
  | bare
  | root
  | here
  deriving DecidableEq, Repr

def Start.chars : Start → List Char
  | .bare => []
  | .root => ['/']
  | .here => ['.']

def parted : List Char → Start × List Char
  | '/' :: cs => (.root, cs)
  | ['.'] => (.here, [])
  | '.' :: '/' :: cs => (.here, '/' :: cs)
  | cs => (.bare, cs)

theorem parted_chars (cs : List Char) : (parted cs).1.chars ++ (parted cs).2 = cs := by
  unfold parted
  split <;> rfl

def isBlank (s : Name) : Bool := s = [] || s = ['.']

/-- The segments after the start, last first, without the blank ones at the end of the path. -/
def backward (p : Path) : List Name := (segments (parted p.chars).2).reverse.dropWhile isBlank

def isAbsolute (p : Path) : Bool := p.chars.head? = some '/'

/-- Text of a start and the segments after it, last first; blank segments at the end are dropped. -/
def rebuilt (start : Start) (back : List Name) : Path :=
  ⟨start.chars ++ joined (back.dropWhile isBlank).reverse⟩

/-- The path without its last name. The root and the empty path have none. -/
def parent? (p : Path) : Option Path :=
  match p.backward with
  | _ :: rest => some (rebuilt (parted p.chars).1 rest)
  | [] => if (parted p.chars).1 = .here then some ⟨[]⟩ else none

/-- The parents above a list of segments, nearest first. -/
def parentsOf (start : Start) : List Name → List Path
  | [] => []
  | s :: rest => if isBlank s then parentsOf start rest else rebuilt start rest :: parentsOf start rest

/-- The path itself, its parent, the parent of that, and so on. -/
def ancestors (p : Path) : List Path :=
  p :: parentsOf (parted p.chars).1 p.backward
    ++ (if (parted p.chars).1 = .here then [⟨[]⟩] else [])

/-- The last name of the path, unless that is `..` or there is none. -/
def fileName? (p : Path) : Option Name :=
  match p.backward with
  | s :: _ => if s = ['.', '.'] then none else some s
  | [] => none

/-- Splits a file name at its last dot; a dot in front of the whole name does not count. -/
def stem (name : Name) : Name :=
  match (name.reverse.dropWhile (· ≠ '.')) with
  | [] => name
  | _ :: before => if before.isEmpty then name else before.reverse

/-- Replaces the extension of the last name, or adds one. -/
def withExtension (p : Path) (ext : Name) : Path :=
  match p.backward with
  | s :: rest =>
    if s = ['.', '.'] then p
    else ⟨(parted p.chars).1.chars ++ joined ((stem s ++ '.' :: ext) :: rest).reverse⟩
  | [] => p

/-- Appends a path; an absolute one replaces what was there. -/
def join (p q : Path) : Path :=
  if q.isAbsolute then q
  else if p.chars.isEmpty || p.chars.getLast? = some '/' then ⟨p.chars ++ q.chars⟩
  else ⟨p.chars ++ '/' :: q.chars⟩

instance : Div Path := ⟨join⟩

def names (p : Path) : List Name := (segments (parted p.chars).2).filter fun s => !isBlank s

def extend (p : Path) (names : List Name) : Path := names.foldl (fun p n => p / ⟨n⟩) p

/-- A path that does not depend on the current directory. -/
def absolute (cwd p : Path) : Path := if p.isAbsolute then p else cwd.extend p.names

def suffixed (p : Path) (s : String) : Path := ⟨p.chars ++ s.toList⟩

/-- Replaces a leading `~`, alone or in front of a separator, by the home directory. -/
def expandHome (text : String) (home : Option Path) : Path :=
  match text.toList, home with
  | ['~'], some home => home
  | '~' :: c :: rest, some home => if c = '/' || c = '\\' then home / ⟨rest⟩ else text
  | _, _ => text

end Path

end Provision
