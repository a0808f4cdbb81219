import Provision.Url.Host

set_option autoImplicit false

namespace Provision.Url

/-- Text without blanks and control characters at its ends, and without tabs and line ends. -/
def cleaned (cs : List Char) : List Char :=
  let isEdge (c : Char) : Bool := c.toNat ≤ 32
  (((cs.dropWhile isEdge).reverse.dropWhile isEdge).reverse).filter fun c => c ≠ '\t' && c ≠ '\n' && c ≠ '\r'

def scheme? (cs : List Char) : Option (List Char × List Char) :=
  let isPart (c : Char) : Bool := c.isAlphanum || c = '+' || c = '-' || c = '.'
  let word := cs.takeWhile isPart
  match word, cs.drop word.length with
  | c :: _, ':' :: rest => if c.isAlpha then some (word.map Char.toLower, rest) else none
  | _, _ => none

def isSlash (special : Bool) (c : Char) : Bool := c = '/' || (special && c = '\\')

/-- A segment that stands for the same directory, and one that stands for the one above. -/
def isDot (s : List Char) : Bool := [".", "%2e"].contains (String.ofList (s.map Char.toLower))
def isDotDot (s : List Char) : Bool :=
  ["..", ".%2e", "%2e.", "%2e%2e"].contains (String.ofList (s.map Char.toLower))

def segmentsOf (special : Bool) : List Char → List (List Char)
  | [] => [[]]
  | c :: cs =>
    if isSlash special c then [] :: segmentsOf special cs
    else match segmentsOf special cs with
      | [] => [[c]]
      | s :: rest => (c :: s) :: rest

def isDrive : List Char → Bool
  | [a, b] => a.isAlpha && (b = ':' || b = '|')
  | _ => false

def above : List (List Char) → List (List Char)
  | [] => []
  | s :: kept => if isDrive s then s :: kept else kept

/-- A segment as it is kept. The drive of a file, which comes first in its path, has a colon. -/
def segment (file : Bool) (kept : List (List Char)) (s : List Char) : List Char :=
  match file && kept.isEmpty && isDrive s, s with
  | true, letter :: _ => [letter, ':']
  | _, _ => escape pathSet s

def walk (file : Bool) : List (List Char) → List (List Char) → List (List Char)
  | kept, [] => kept
  | kept, [s] =>
    if isDotDot s then [] :: above kept
    else if isDot s then [] :: kept
    else segment file kept s :: kept
  | kept, s :: rest =>
    if isDotDot s then walk file (above kept) rest
    else if isDot s then walk file kept rest
    else walk file (segment file kept s :: kept) rest

def pathText (back : List (List Char)) : List Char :=
  back.reverse.flatMap fun s => '/' :: s

/-- The path, the query and the fragment of a text, by its first question and number signs. -/
def parts (cs : List Char) : List Char × Option (List Char) × Option (List Char) :=
  let before := cs.takeWhile (· ≠ '#')
  let fragment := match cs.dropWhile (· ≠ '#') with
    | _ :: f => some f
    | [] => none
  let path := before.takeWhile (· ≠ '?')
  let query := match before.dropWhile (· ≠ '?') with
    | _ :: q => some q
    | [] => none
  (path, query, fragment)

def withTail (u : Url) (query fragment : Option (List Char)) : Url :=
  { u with
    query := query.map (escape (if isSpecial u.scheme then specialQuerySet else querySet))
    fragment := fragment.map (escape fragmentSet) }

def withPath (u : Url) (kept : List (List Char)) (path : List Char) : Url :=
  let special := isSpecial u.scheme
  let path := match path with
    | c :: rest => if isSlash special c then rest else path
    | [] => []
  { u with path := pathText (walk false kept (segmentsOf special path)) }

def port? (scheme : List Char) : List Char → Except Error (Option Nat × List Char)
  | ':' :: cs =>
    let digits := cs.takeWhile Decimal.isDigit
    let rest := cs.drop digits.length
    if Decimal.value digits > 65535 then .error .port
    else if rest.head?.any fun c => !(['/', '\\', '?', '#'].contains c) then .error .port
    else .ok (if digits.isEmpty || usualPort scheme = some (Decimal.value digits) then none
      else some (Decimal.value digits), rest)
  | cs => .ok (none, cs)

def credentials (special : Bool) (cs : List Char) : Option (List Char) × List Char :=
  let isEnd (c : Char) : Bool := isSlash special c || c = '?' || c = '#'
  let front := cs.takeWhile fun c => !isEnd c
  if front.contains '@' then
    let size := front.length - (front.reverse.takeWhile (· ≠ '@')).length
    (some (cs.take (size - 1)), cs.drop size)
  else (none, cs)

def hostOf (special : Bool) : Bool → List Char → List Char
  | _, [] => []
  | inside, c :: cs =>
    if (c = ':' && !inside) || isSlash special c || c = '?' || c = '#' then []
    else c :: hostOf special (if c = '[' then true else if c = ']' then false else inside) cs

def authority (scheme cs : List Char) : Except Error Url := do
  let special := isSpecial scheme
  let (before, place) := credentials special cs
  let isEnd (c : Char) : Bool := isSlash special c || c = '?' || c = '#'
  if before = some [] && place.head?.any isEnd then throw .emptyHost
  let name := (before.getD []).takeWhile (· ≠ ':')
  let password := ((before.getD []).drop name.length).drop 1
  let written := hostOf special false place
  let rest := place.drop written.length
  if special && written.isEmpty then throw .emptyHost
  let host ← if special then Host.read written else Host.readOpaque written
  if written.isEmpty && rest.head? = some ':' then throw .emptyHost
  let (port, rest) ← port? scheme rest
  if written.isEmpty && !(name.isEmpty && password.isEmpty) then throw .emptyHost
  let (path, query, fragment) := parts rest
  let u : Url := ⟨scheme, escape userSet name, escape userSet password, some host, port, [], none, none⟩
  return (if path.isEmpty && !special then u else u.withPath [] path).withTail query fragment

def fileAt (host : List Char) (path : List Char) (query fragment : Option (List Char)) : Url :=
  let back := walk true [] (segmentsOf true path)
  let host := if back.getLast?.any isDrive then [] else host
  let path := '/' :: (pathText back).dropWhile (· = '/')
  withTail ⟨"file".toList, [], [], some host, none, path, none, none⟩ query fragment

def fileAddress (cs : List Char) : Except Error Url := do
  let (path, query, fragment) := parts cs
  match path with
  | a :: b :: rest =>
    if isSlash true a && isSlash true b then
      let written := rest.takeWhile fun c => !isSlash true c
      if written.isEmpty || isDrive written then return fileAt [] rest query fragment
      let host ← Host.read written
      let below := rest.drop written.length
      if host = "localhost".toList then return fileAt [] below query fragment
      return fileAt host (below.drop 1) query fragment
    else return fileAt [] (if isSlash true a then b :: rest else path) query fragment
  | [a] => return fileAt [] (if isSlash true a then [] else path) query fragment
  | [] => return fileAt [] [] query fragment

def absolute (scheme cs : List Char) : Except Error Url :=
  if scheme = "file".toList then fileAddress cs
  else if isSpecial scheme then authority scheme (cs.dropWhile (isSlash true))
  else match cs with
    | '/' :: '/' :: rest => authority scheme rest
    | _ =>
      let (path, query, fragment) := parts cs
      let u : Url := ⟨scheme, [], [], none, none, [], none, none⟩
      let u := if path.head? = some '/' then u.withPath [] path else { u with path := escape [] path }
      .ok (u.withTail query fragment)

def read (s : String) : Except Error Url :=
  let cs := cleaned s.toList
  match scheme? cs with
  | some (scheme, rest) => absolute scheme rest
  | none => .error .relative

def backward (u : Url) : List (List Char) := (segmentsOf false (u.path.drop 1)).reverse

def relative (base : Url) (cs : List Char) : Except Error Url :=
  match cs with
  | [] => .ok { base with fragment := none }
  | c :: rest =>
    if isSlash true c then
      match rest with
      | d :: rest' =>
        if c = '/' && d = '/' then authority base.scheme rest'
        else if isSlash true d then authority base.scheme (rest'.dropWhile (isSlash true))
        else
          let (path, query, fragment) := parts cs
          .ok ((base.withPath [] path).withTail query fragment)
      | [] => .ok ((base.withPath [] cs).withTail none none)
    else
      let (path, query, fragment) := parts cs
      if path.isEmpty then
        match query with
        | none => .ok { base with fragment := fragment.map (escape fragmentSet) }
        | some _ => .ok (base.withTail query fragment)
      else .ok ((base.withPath base.backward.tail path).withTail query fragment)

def join (base : Url) (reference : String) : Except Error Url :=
  let cs := cleaned reference.toList
  match scheme? cs with
  | some (scheme, rest) =>
    if scheme = base.scheme && isSpecial scheme && (rest.takeWhile (isSlash true)).length < 2 then relative base rest
    else absolute scheme rest
  | none => relative base cs

end Provision.Url
