set_option autoImplicit false

namespace Provision.Shell

/-- Two manners of writing scripts: the plain one, and one with more kinds of commands and values. -/
inductive Dialect where
  | plain
  | rich
  deriving DecidableEq, Repr

def Dialect.isRich : Dialect → Bool
  | .plain => false
  | .rich => true

inductive Piece where
  | text (cs : List Char) (quoted : Bool)
  | param (body : List Char) (quoted : Bool)
  /-- The output of a script that stands on a line, which is not known yet if it is zero. -/
  | output (script : List Char) (quoted : Bool) (line : Nat)
  | sum (expression : List Char) (quoted : Bool)
  /-- Several words between parentheses, as they are written. -/
  | list (words : List Char)
  deriving DecidableEq, Repr

abbrev Word := List Piece

inductive Unclosed where
  | quote (q : Char)
  | ticks
  | brace
  | paren
  | sum
  deriving DecidableEq, Repr

def isNameStart (c : Char) : Bool := c.isAlpha || c = '_'
def isNameChar (c : Char) : Bool := c.isAlphanum || c = '_'

def isName : List Char → Bool
  | [] => false
  | c :: cs => isNameStart c && cs.all isNameChar

def isBreak (c : Char) : Bool :=
  c = ' ' || c = '\t' || c = '\n' || c = ';' || c = '&' || c = '|' || c = '<' || c = '>' || c = '(' || c = ')'

def apostrophe : Char := Char.ofNat 39
def backtick : Char := Char.ofNat 96

/-! Spans: the text up to what closes it, that included, and what follows. -/

abbrev Span := Except Unclosed (List Char × List Char)

def spanTo (close : Char) (cs : List Char) : Option (List Char × List Char) :=
  let inside := cs.takeWhile (· ≠ close)
  match cs.drop inside.length with
  | c :: rest => some (inside ++ [c], rest)
  | [] => none

def spanTicks : List Char → Span
  | [] => .error .ticks
  | '\\' :: c :: rest => (spanTicks rest).map fun r => ('\\' :: c :: r.1, r.2)
  | c :: rest => if c = backtick then .ok ([c], rest) else (spanTicks rest).map fun r => (c :: r.1, r.2)

/-- The line that ends a text that stands in the script, without the quotes around it. -/
def hereMark (cs : List Char) : List Char × List Char :=
  let cs := (match cs with
    | '-' :: rest => rest
    | _ => cs).dropWhile fun c => c = ' ' || c = '\t'
  let word := cs.takeWhile fun c => !isBreak c
  (word.filter fun c => c ≠ '"' && c ≠ apostrophe && c ≠ '\\', cs.drop word.length)

def linesTo (mark : List Char) : Nat → List Char → List Char × List Char
  | 0, cs => ([], cs)
  | _, [] => ([], [])
  | fuel + 1, cs =>
    let line := cs.takeWhile (· ≠ '\n')
    let rest := cs.drop line.length
    let (ending, rest) := (rest.take 1, rest.drop 1)
    if line.dropWhile (· = '\t') = mark then (line ++ ending, rest)
    else let (more, after) := linesTo mark fuel rest; (line ++ ending ++ more, after)

mutual

def spanQuote : Nat → List Char → Span
  | 0, _ => .error (.quote '"')
  | _, [] => .error (.quote '"')
  | fuel + 1, '\\' :: c :: rest => (spanQuote fuel rest).map fun r => ('\\' :: c :: r.1, r.2)
  | fuel + 1, '$' :: rest => do
    let (inside, rest) ← spanDollar fuel true rest
    let (more, rest) ← spanQuote fuel rest
    return ('$' :: inside ++ more, rest)
  | fuel + 1, c :: rest =>
    if c = '"' then .ok ([c], rest)
    else if c = backtick then do
      let (inside, rest) ← spanTicks rest
      let (more, rest) ← spanQuote fuel rest
      return (c :: inside ++ more, rest)
    else (spanQuote fuel rest).map fun r => (c :: r.1, r.2)

def spanDollar : Nat → Bool → List Char → Span
  | 0, _, _ => .error .brace
  | fuel + 1, quoted, '\x7b' :: rest => (spanBrace fuel quoted rest).map fun r => ('\x7b' :: r.1, r.2)
  | fuel + 1, _, '(' :: '(' :: rest => (spanSum fuel 0 rest).map fun r => ('(' :: '(' :: r.1, r.2)
  | fuel + 1, _, '(' :: rest => (spanParen fuel 0 0 [] true rest).map fun r => ('(' :: r.1, r.2)
  | _ + 1, _, cs => .ok ([], cs)

/-- Behind a brace that follows a dollar sign; apostrophes hide nothing in double quotes. -/
def spanBrace : Nat → Bool → List Char → Span
  | 0, _, _ => .error .brace
  | _, _, [] => .error .brace
  | fuel + 1, quoted, '\\' :: c :: rest => (spanBrace fuel quoted rest).map fun r => ('\\' :: c :: r.1, r.2)
  | fuel + 1, quoted, '$' :: rest => do
    let (inside, rest) ← spanDollar fuel quoted rest
    let (more, rest) ← spanBrace fuel quoted rest
    return ('$' :: inside ++ more, rest)
  | fuel + 1, quoted, c :: rest =>
    if c = '\x7d' then .ok ([c], rest)
    else do
      let (inside, rest) ←
        if c = '"' then spanQuote fuel rest
        else if c = backtick then spanTicks rest
        else if c = apostrophe && !quoted then
          match spanTo apostrophe rest with
          | some r => .ok r
          | none => .error (.quote apostrophe)
        else .ok ([], rest)
      let (more, rest) ← spanBrace fuel quoted rest
      return (c :: inside ++ more, rest)

def spanSum : Nat → Nat → List Char → Span
  | 0, _, _ => .error .sum
  | _, _, [] => .error .sum
  | fuel + 1, depth, '$' :: rest => do
    let (inside, rest) ← spanDollar fuel true rest
    let (more, rest) ← spanSum fuel depth rest
    return ('$' :: inside ++ more, rest)
  | _ + 1, 0, ')' :: ')' :: rest => .ok ([')', ')'], rest)
  | fuel + 1, depth, c :: rest => do
    let (inside, rest) ← if c = backtick then spanTicks rest else .ok ([], rest)
    let depth := if c = '(' then depth + 1 else if c = ')' then depth - 1 else depth
    let (more, rest) ← spanSum fuel depth rest
    return (c :: inside ++ more, rest)

/-- Behind a parenthesis that opens a script, inside `depth` further ones. A parenthesis may also follow a
pattern, in one of the `cases` that are still open. The `marks` end texts that begin with the next line, and
`fresh` says whether a word may begin. -/
def spanParen : Nat → Nat → Nat → List (List Char) → Bool → List Char → Span
  | 0, _, _, _, _, _ => .error .paren
  | _, _, _, _, _, [] => .error .paren
  | fuel + 1, depth, cases, marks, _, '\\' :: c :: rest =>
    (spanParen fuel depth cases marks false rest).map fun r => ('\\' :: c :: r.1, r.2)
  | fuel + 1, depth, cases, marks, _, '$' :: rest => do
    let (inside, rest) ← spanDollar fuel false rest
    let (more, rest) ← spanParen fuel depth cases marks false rest
    return ('$' :: inside ++ more, rest)
  | fuel + 1, depth, cases, marks, _, '<' :: '<' :: rest =>
    let (mark, after) := hereMark rest
    let passed := rest.take (rest.length - after.length)
    (spanParen fuel depth cases (marks ++ [mark]) true after).map fun r => ('<' :: '<' :: passed ++ r.1, r.2)
  | fuel + 1, depth, cases, marks, _, '\n' :: rest => do
    let (texts, rest) := marks.foldl (fun (texts, rest) mark =>
      let (more, rest) := linesTo mark (rest.length + 1) rest
      (texts ++ more, rest)) (([] : List Char), rest)
    let (more, rest) ← spanParen fuel depth cases [] true rest
    return ('\n' :: texts ++ more, rest)
  | fuel + 1, depth, cases, marks, fresh, c :: rest =>
    if fresh && c = '#' then
      let comment := rest.takeWhile (· ≠ '\n')
      (spanParen fuel depth cases marks false (rest.drop comment.length)).map fun r => (c :: comment ++ r.1, r.2)
    else if c = ')' && cases = 0 && depth = 0 then .ok ([c], rest)
    else if fresh && isNameStart c then
      let word := (c :: rest).takeWhile isNameChar
      let rest := (c :: rest).drop word.length
      let isWhole := rest.head?.all isBreak
      let cases := if isWhole && word = "case".toList then cases + 1
        else if isWhole && word = "esac".toList then cases - 1 else cases
      (spanParen fuel depth cases marks false rest).map fun r => (word ++ r.1, r.2)
    else do
      let (inside, rest) ←
        if c = '"' then spanQuote fuel rest
        else if c = backtick then spanTicks rest
        else if c = apostrophe then
          match spanTo apostrophe rest with
          | some r => .ok r
          | none => .error (.quote apostrophe)
        else .ok ([], rest)
      -- a parenthesis behind a pattern was not opened
      let depth := if c = '(' then depth + 1 else if c = ')' then depth - 1 else depth
      let (more, rest) ← spanParen fuel depth cases marks (isBreak c) rest
      return (c :: inside ++ more, rest)

end

def enough (cs : List Char) : Nat := 2 * cs.length + 8

/-! Reading words. -/

def dollar (quoted : Bool) (cs : List Char) : Except Unclosed (Piece × List Char) := do
  match cs with
  | '\x7b' :: _ =>
    let (body, rest) ← spanDollar (enough cs) quoted cs
    return (.param (body.drop 1).dropLast quoted, rest)
  | '(' :: '(' :: _ =>
    let (body, rest) ← spanDollar (enough cs) quoted cs
    return (.sum ((body.drop 2).dropLast.dropLast) quoted, rest)
  | '(' :: _ =>
    let (body, rest) ← spanDollar (enough cs) quoted cs
    return (.output (body.drop 1).dropLast quoted 0, rest)
  | c :: rest =>
    if isNameStart c then return (.param (cs.takeWhile isNameChar) quoted, cs.dropWhile isNameChar)
    else if c.isDigit || "#@*?$!-".toList.contains c then return (.param [c] quoted, rest)
    else return (.text ['$'] quoted, cs)
  | [] => return (.text ['$'] quoted, [])

/-- A script between backticks, in which a backslash hides a dollar sign, a backtick or itself. -/
def unticked (quoted : Bool) : List Char → List Char
  | '\\' :: c :: rest =>
    if c = '$' || c = backtick || c = '\\' || (quoted && c = '"') then c :: unticked quoted rest
    else '\\' :: c :: unticked quoted rest
  | c :: rest => c :: unticked quoted rest
  | [] => []

def ticked (quoted : Bool) (cs : List Char) : Except Unclosed (Piece × List Char) := do
  let (body, rest) ← spanTicks cs
  return (.output (unticked quoted body.dropLast) quoted 1, rest)

/-- Where quoted text ends: at a double quote, or nowhere. Text that ends nowhere may still hold double
quotes, which are left out if it stands in quotes itself. -/
inductive Until where
  | quote
  | lastQuoted
  | last
  deriving DecidableEq, Repr

/-- Text in which only dollars, backslashes and backticks are special, and what follows it. -/
def doubled (until_ : Until) : Nat → List Char → Except Unclosed (Word × List Char)
  | 0, _ => .error (.quote '"')
  | _, [] => if until_ = .quote then .error (.quote '"') else .ok ([], [])
  | fuel + 1, '\\' :: c :: rest => do
    let (w, after) ← doubled until_ fuel rest
    if c = '\n' then return (w, after)
    else if c = '$' || (c = '"' && until_ ≠ .last) || c = '\\' || c = backtick || (c = '\x7d' && until_ = .lastQuoted) then
      return (.text [c] true :: w, after)
    else return (.text ['\\', c] true :: w, after)
  | fuel + 1, '$' :: rest => do
    let (p, rest) ← dollar true rest
    let (w, after) ← doubled until_ fuel rest
    return (p :: w, after)
  | fuel + 1, c :: rest =>
    if c = '"' && until_ = .quote then .ok ([], rest)
    else if c = '"' && until_ = .lastQuoted then doubled until_ fuel rest
    else do
      let (p, rest) ← if c = backtick then ticked true rest else .ok (.text [c] true, rest)
      let (w, after) ← doubled until_ fuel rest
      return (p :: w, after)

def dollarEscape (cs : List Char) : List Char × List Char :=
  let digits (base width : Nat) (cs : List Char) : List Char × List Char :=
    let isDigit (c : Char) : Bool := if base = 8 then '0' ≤ c && c ≤ '7' else c.isDigit || ('a' ≤ c.toLower && c.toLower ≤ 'f')
    let ds := (cs.take width).takeWhile isDigit
    let value := ds.foldl (fun n c => n * base + (if c.isDigit then c.toNat - 48 else c.toLower.toNat - 87)) 0
    ([Char.ofNat value], cs.drop ds.length)
  match cs with
  | 'n' :: rest => (['\n'], rest)
  | 't' :: rest => (['\t'], rest)
  | 'r' :: rest => (['\r'], rest)
  | 'a' :: rest => ([Char.ofNat 7], rest)
  | 'b' :: rest => ([Char.ofNat 8], rest)
  | 'e' :: rest => ([Char.ofNat 27], rest)
  | 'f' :: rest => ([Char.ofNat 12], rest)
  | 'v' :: rest => ([Char.ofNat 11], rest)
  | 'x' :: rest => digits 16 2 rest
  | 'u' :: rest => digits 16 4 rest
  | c :: rest =>
    if '0' ≤ c && c ≤ '7' then digits 8 3 cs
    else if c = '\\' || c = '"' || c = apostrophe || c = '?' then ([c], rest)
    else (['\\', c], rest)
  | [] => (['\\'], [])

def dollarText : Nat → List Char → Except Unclosed (List Char × List Char)
  | 0, _ => .error (.quote apostrophe)
  | _, [] => .error (.quote apostrophe)
  | fuel + 1, '\\' :: rest => do
    let (cs, rest) := dollarEscape rest
    let (more, rest) ← dollarText fuel rest
    return (cs ++ more, rest)
  | fuel + 1, c :: rest =>
    if c = apostrophe then .ok ([], rest)
    else do
      let (more, rest) ← dollarText fuel rest
      return (c :: more, rest)

def wordFrom (d : Dialect) (ends : Char → Bool) : Nat → List Char → Except Unclosed (Word × List Char)
  | 0, _ => .error (.quote '"')
  | _, [] => .ok ([], [])
  | fuel + 1, '\\' :: '\n' :: rest => wordFrom d ends fuel rest
  | fuel + 1, '\\' :: c :: rest => do
    let (w, after) ← wordFrom d ends fuel rest
    return (.text [c] true :: w, after)
  | fuel + 1, '"' :: rest => do
    let (inside, rest) ← doubled .quote (rest.length + 1) rest
    let (w, after) ← wordFrom d ends fuel rest
    -- all arguments in quotes may be no word at all, other quoted text is always one
    let isList := match inside with
      | [.param body true] => body = ['@'] || body.drop (body.length - 3) = "[@]".toList
      | _ => false
    return ((if isList then inside else .text [] true :: inside) ++ w, after)
  | fuel + 1, '$' :: rest => do
    match d, rest with
    | .rich, '"' :: _ => wordFrom d ends fuel rest
    | .rich, c :: more =>
      if c = apostrophe then
        let (cs, rest) ← dollarText (more.length + 1) more
        let (w, after) ← wordFrom d ends fuel rest
        return (.text cs true :: w, after)
      else
        let (p, rest) ← dollar false rest
        let (w, after) ← wordFrom d ends fuel rest
        return (p :: w, after)
    | _, _ =>
      let (p, rest) ← dollar false rest
      let (w, after) ← wordFrom d ends fuel rest
      return (p :: w, after)
  | fuel + 1, c :: rest =>
    if ends c then .ok ([], c :: rest)
    else if c = apostrophe then
      match spanTo apostrophe rest with
      | some (inside, rest) => do
        let (w, after) ← wordFrom d ends fuel rest
        return (.text inside.dropLast true :: w, after)
      | none => .error (.quote apostrophe)
    else do
      let (p, rest) ← if c = backtick then ticked false rest else .ok (.text [c] false, rest)
      let (w, after) ← wordFrom d ends fuel rest
      return (p :: w, after)

/-- Tells the scripts in a word on which lines they stand, from the line on which the word begins. -/
def Word.numbered : Nat → Word → Word
  | _, [] => []
  | line, .output script quoted n :: rest =>
    .output script quoted (if n = 0 then line else n) :: Word.numbered (line + script.count '\n') rest
  | line, p :: rest =>
    let text := match p with
      | .text cs _ | .param cs _ | .sum cs _ | .list cs => cs
      | .output cs _ _ => cs
    p :: Word.numbered (line + text.count '\n') rest

def Word.bare? (w : Word) : Option (List Char) :=
  w.foldr (fun p acc => match p, acc with
    | .text cs false, some rest => some (cs ++ rest)
    | _, _ => none) (some [])

end Provision.Shell
