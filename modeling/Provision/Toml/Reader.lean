import Provision.Toml.Scalar
import Provision.Toml.Quoted

set_option autoImplicit false

namespace Provision.Toml

/-- How deep arrays and closed tables may stand in each other, and how many parts a key may have. -/
def depthLimit : Nat := 80

def isGap (c : Char) : Bool := c = ' ' || c = '\t'

def skipGaps (cs : List Char) : List Char := cs.dropWhile isGap

def isKeyChar (c : Char) : Bool := c.isAlphanum || c = '_' || c = '-'

def comment : List Char → Option (List Char)
  | '#' :: rest =>
    let isEnd (c : Char) : Bool := c = '\n' || c = '\r'
    if (rest.takeWhile fun c => !isEnd c).any isControl then none
    else some (rest.dropWhile fun c => !isEnd c)
  | cs => some cs

/-- What may follow a line's content: gaps, a comment, and the end of the line or of the text. -/
def lineEnd (cs : List Char) : Option (List Char) := do
  match ← comment (skipGaps cs) with
  | [] => some []
  | '\n' :: rest => some rest
  | '\r' :: '\n' :: rest => some rest
  | _ => none

def skipLines : Nat → List Char → Option (List Char)
  | 0, _ => none
  | fuel + 1, cs => do
    match ← comment (skipGaps cs) with
    | '\n' :: rest => skipLines fuel rest
    | '\r' :: '\n' :: rest => skipLines fuel rest
    | '\r' :: _ => none
    | rest => some rest

def between (cs : List Char) : Option (List Char) := skipLines (cs.length + 1) cs

def keyPart (cs : List Char) : Option (List Char × List Char) :=
  let bare := cs.takeWhile isKeyChar
  if bare.isEmpty then
    (if quotes '"' cs ≥ 3 || quotes apostrophe cs ≥ 3 then none else quotedLine cs)
  else some (bare, cs.drop bare.length)

def keyFrom : Nat → List Char → Option (List (List Char) × List Char)
  | 0, _ => none
  | fuel + 1, cs => do
    let (part, rest) ← keyPart (skipGaps cs)
    match skipGaps rest with
    | '.' :: rest =>
      let (parts, after) ← keyFrom fuel rest
      return (part :: parts, after)
    | rest => return ([part], rest)

def key (cs : List Char) : Option (List (List Char) × List Char) :=
  (keyFrom (cs.length + 1) cs).filter fun k => k.1.length ≤ depthLimit

def isBreak (c : Char) : Bool :=
  c = ' ' || c = '\t' || c = '\n' || c = '\r' || c = ',' || c = ']' || c = '\x7d' || c = '#' || c = '='
    || c = '"' || c = apostrophe || c = '[' || c = '\x7b'

def bareText (cs : List Char) : List Char × List Char :=
  let first := cs.takeWhile fun c => !isBreak c
  let rest := cs.drop first.length
  match rest with
  | ' ' :: c :: more =>
    if Decimal.isDigit c && date? first = some [] then
      let second := (c :: more).takeWhile fun c => !isBreak c
      (first ++ ' ' :: second, (c :: more).drop second.length)
    else (first, rest)
  | _ => (first, rest)

mutual

def valueFrom : Nat → Nat → List Char → Option (Toml × List Char)
  | 0, _, _ => none
  | fuel + 1, depth, cs =>
    match cs with
    | '[' :: rest =>
      if depth ≥ depthLimit then none
      else do
        let (items, after) ← itemsFrom fuel (depth + 1) (← between rest)
        return (.array items, after)
    | '\x7b' :: rest =>
      if depth ≥ depthLimit then none
      else do
        let (es, after) ← entriesFrom fuel (depth + 1) [] (← between rest)
        return (.table .closed es, after)
    | c :: _ =>
      if c = '"' || c = apostrophe then do
        let (t, after) ← quotedText cs
        return (.text t, after)
      else do
        let (word, after) := bareText cs
        return (← scalar? word, after)
    | [] => none

def itemsFrom : Nat → Nat → List Char → Option (List Toml × List Char)
  | 0, _, _ => none
  | _ + 1, _, ']' :: after => some ([], after)
  | fuel + 1, depth, cs => do
    let (v, rest) ← valueFrom fuel depth cs
    match ← between rest with
    | ',' :: more =>
      let (vs, after) ← itemsFrom fuel depth (← between more)
      return (v :: vs, after)
    | ']' :: after => return ([v], after)
    | _ => none

def entriesFrom : Nat → Nat → Entries → List Char → Option (Entries × List Char)
  | 0, _, _, _ => none
  | _ + 1, _, es, '\x7d' :: after => some (es, after)
  | fuel + 1, depth, es, cs => do
    let (k, rest) ← key cs
    match ← between rest with
    | '=' :: rest =>
      let (v, rest) ← valueFrom fuel depth (← between rest)
      let es ← put k v es
      match ← between rest with
      | ',' :: more => entriesFrom fuel depth es (← between more)
      | '\x7d' :: after => return (es, after)
      | _ => none
    | _ => none

end

def header (cs : List Char) : Option (List (List Char) × Bool × List Char) :=
  match cs with
  | '[' :: '[' :: rest => do
    let (k, rest) ← key rest
    match rest with
    | ']' :: ']' :: after => return (k, true, after)
    | _ => none
  | '[' :: rest => do
    let (k, rest) ← key rest
    match rest with
    | ']' :: after => return (k, false, after)
    | _ => none
  | _ => none

/-- Reads line after line into the root, keys going to the table that the last header named. -/
def linesInto : Nat → List (List Char) → Entries → List Char → Option Entries
  | 0, _, _, _ => none
  | fuel + 1, here, root, cs =>
    match skipGaps cs with
    | [] => some root
    | '[' :: rest => do
      let (k, many, rest) ← header ('[' :: rest)
      let last ← k.getLast?
      let root ← (if many then openRow else openTable) k.dropLast last root
      linesInto fuel k root (← lineEnd rest)
    | c :: rest =>
      if c = '\n' || c = '\r' || c = '#' then do linesInto fuel here root (← lineEnd (c :: rest))
      else do
        let (k, rest) ← key (c :: rest)
        match rest with
        | '=' :: rest =>
          let rest := skipGaps rest
          let (v, rest) ← valueFrom (2 * rest.length + 2) 0 rest
          let root ← atHeader here (put k v) root
          linesInto fuel here root (← lineEnd rest)
        | _ => none

def byteOrderMark : Char := Char.ofNat 0xFEFF

def read? (cs : List Char) : Option Entries :=
  let cs := if cs.head? = some byteOrderMark then cs.tail else cs
  linesInto (cs.length + 1) [] [] cs

end Provision.Toml
