import Provision.Shell.Word

set_option autoImplicit false

namespace Provision.Shell

inductive Direction where
  | read
  | write
  | extend
  | copy
  /-- Input that stands in the script itself. -/
  | here
  /-- Input that is a word. -/
  | line
  | both
  | bothExtend
  deriving DecidableEq, Repr

inductive Token where
  | word (w : Word) (line : Nat)
  | mark (s : String) (line : Nat)
  | newline (line : Nat)
  | redirect (fd : Nat) (d : Direction) (line : Nat)
  | sum (expression : List Char) (line : Nat)
  /-- Text that stands in the script as the input of an earlier command. -/
  | body (w : Word)
  | eof (line : Nat)
  | bad (u : Unclosed) (line : Nat)
  deriving DecidableEq, Repr

namespace Token

def line : Token → Nat
  | .word _ n | .mark _ n | .newline n | .redirect _ _ n | .sum _ n | .eof n | .bad _ n => n
  | .body _ => 0

def bare? : Token → Option (List Char)
  | .word w _ => w.bare?
  | _ => none

def isWord (t : Token) (s : String) : Bool := t.bare? = some s.toList

def isMark (t : Token) (s : String) : Bool :=
  match t with
  | .mark m _ => m = s
  | _ => false

end Token

def reserved : List String :=
  ["!", "case", "do", "done", "elif", "else", "esac", "fi", "for", "if", "in", "then", "until", "while", "\x7b", "\x7d"]

def reservedRich : List String := ["[[", "function", "select", "time"]

def keyword? (d : Dialect) (t : Token) : Option String :=
  (t.bare?.map String.ofList).filter fun s => reserved.contains s || (d.isRich && reservedRich.contains s)

def redirectSign (d : Dialect) (fd : Option Nat) (line : Nat) : List Char → Option (Token × List Char)
  | '>' :: '>' :: rest => some (.redirect (fd.getD 1) .extend line, rest)
  | '>' :: '&' :: rest => some (.redirect (fd.getD 1) .copy line, rest)
  | '>' :: '|' :: rest => some (.redirect (fd.getD 1) .write line, rest)
  | '>' :: rest => some (.redirect (fd.getD 1) .write line, rest)
  | '<' :: '<' :: '<' :: rest => if d.isRich then some (.redirect (fd.getD 0) .line line, rest) else none
  | '<' :: '<' :: _ => none
  | '<' :: '&' :: rest => some (.redirect (fd.getD 0) .copy line, rest)
  | '<' :: '>' :: rest => some (.redirect (fd.getD 0) .extend line, rest)
  | '<' :: rest => some (.redirect (fd.getD 0) .read line, rest)
  | _ => none

/-- A text that is still to come: the line that ends it, whether it is taken as it stands, and whether
tabs in front of its lines are dropped. -/
structure Owed where
  mark : List Char
  isPlain : Bool
  isIndented : Bool

def owedFrom (d : Dialect) (cs : List Char) : Except Unclosed ((Owed × Word) × List Char) := do
  let (isIndented, cs) := match cs with
    | '-' :: rest => (true, rest)
    | _ => (false, cs)
  let cs := cs.dropWhile fun c => c = ' ' || c = '\t'
  let (w, after) ← wordFrom d isBreak (cs.length + 2) cs
  let mark := w.flatMap fun
    | .text t _ => t
    | _ => []
  let isPlain := w.any fun
    | .text _ quoted => quoted
    | _ => false
  return ((⟨mark, isPlain, isIndented⟩, w), after)

def untilMark (o : Owed) : Nat → List Char → List Char × List Char
  | 0, cs => ([], cs)
  | _, [] => ([], [])
  | fuel + 1, cs =>
    let line := cs.takeWhile (· ≠ '\n')
    let ending := (cs.drop line.length).take 1
    let rest := (cs.drop line.length).drop 1
    let line := if o.isIndented then line.dropWhile (· = '\t') else line
    if line = o.mark then ([], rest)
    else let (body, after) := untilMark o fuel rest; (line ++ ending ++ body, after)

def newlines (before after : List Char) : Nat := (before.take (before.length - after.length)).count '\n'

def bodies : Nat → List Owed → List Char → Except Unclosed (List Token × List Char)
  | _, [], cs => .ok ([], cs)
  | line, o :: os, cs => do
    let (text, rest) := untilMark o (cs.length + 1) cs
    let w : Word ← if o.isPlain then .ok [.text text true] else (doubled .last (text.length + 1) text).map (·.1)
    let (others, rest') ← bodies (line + newlines cs rest) os rest
    return (.body (w.numbered line) :: others, rest')

def operators (d : Dialect) : List String :=
  (if d.isRich then [";;&", ";&", "|&"] else []) ++ ["&&", "||", ";;", ";", "&", "|", "(", ")"]

def opensCommand (d : Dialect) : Option Token → Bool
  | none => true
  | some (.newline _) => true
  | some (.mark m _) => m ≠ ")"
  | some (.body _) => true
  | some t => (keyword? d t).isSome

def opensList (w : Word) : Bool :=
  match w.reverse with
  | .text ['='] false :: name =>
    let name := (name.reverse).filterMap fun
      | .text [c] false => some c
      | _ => none
    isName (if name.getLast? = some '+' then name.dropLast else name) && name.length + 1 = w.length
  | _ => false

/-- The tokens of the text from a line on, last first, behind those that were read; with the texts that are
still to come. -/
def tokensFrom (d : Dialect) : Nat → Nat → List Owed → List Token → List Char → List Token
  | 0, line, _, acc, _ => .eof line :: acc
  | _, line, _, acc, [] => .eof line :: acc
  | fuel + 1, line, owed, acc, c :: rest =>
    let cs := c :: rest
    if c = ' ' || c = '\t' then tokensFrom d fuel line owed acc rest
    else if c = '\n' then
      match bodies (line + 1) owed rest with
      | .error u => .bad u (line + 1 + rest.count '\n') :: acc
      | .ok (texts, after) =>
        tokensFrom d fuel (line + 1 + newlines rest after) [] (texts.reverse ++ .newline (line + 1) :: acc) after
    else if c = '#' then tokensFrom d fuel line owed acc (rest.dropWhile (· ≠ '\n'))
    else if c = '\\' && rest.head? = some '\n' then tokensFrom d fuel (line + 1) owed acc (rest.drop 1)
    else if cs.take 2 = ['<', '<'] && !(d.isRich && cs.take 3 = ['<', '<', '<']) then
      match owedFrom d (cs.drop 2) with
      | .error u => .bad u (line + cs.count '\n') :: acc
      | .ok ((o, w), after) => tokensFrom d fuel line (owed ++ [o]) (.word w line :: .redirect 0 .here line :: acc) after
    else if d.isRich && cs.take 3 = ['&', '>', '>'] then
      tokensFrom d fuel line owed (.redirect 1 .bothExtend line :: acc) (cs.drop 3)
    else if d.isRich && cs.take 2 = ['&', '>'] then
      tokensFrom d fuel line owed (.redirect 1 .both line :: acc) (cs.drop 2)
    else if d.isRich && cs.take 2 = ['(', '('] && opensCommand d acc.head? then
      match spanSum (enough cs) 0 (cs.drop 2) with
      | .error u => .bad u (line + cs.count '\n') :: acc
      | .ok (body, after) => tokensFrom d fuel (line + newlines cs after) owed (.sum body.dropLast.dropLast line :: acc) after
    else match (if c.isDigit then redirectSign d (some (c.toNat - 48)) line rest else redirectSign d none line cs) with
      | some (t, rest) => tokensFrom d fuel line owed (t :: acc) rest
      | none =>
        match (operators d).find? fun op => op.toList.isPrefixOf cs with
        | some op => tokensFrom d fuel line owed (.mark op line :: acc) (cs.drop op.length)
        | none =>
          let isPattern := d.isRich && (acc.head?.any fun t => t.isWord "=~")
          let ends (c : Char) : Bool := if isPattern then c = ' ' || c = '\t' || c = '\n' else isBreak c
          match wordFrom d ends (cs.length + 1) cs with
          | .error u => .bad u (line + cs.count '\n') :: acc
          | .ok (w, after) =>
            let line' := line + newlines cs after
            let w := w.numbered line
            match d.isRich && opensList w && after.head? = some '(' with
            | true =>
              match spanParen (enough after) 0 0 [] true (after.drop 1) with
              | .error u => .bad u (line + cs.count '\n') :: acc
              | .ok (body, after') =>
                tokensFrom d fuel (line' + newlines after after') owed
                  (.word (w ++ [.list body.dropLast]) line' :: acc) after'
            | false => tokensFrom d fuel line' owed (.word w line' :: acc) after

def settled : List Word → List Token → List Token
  | w :: texts, .redirect fd .here n :: .word _ line :: rest => .redirect fd .here n :: .word w line :: settled texts rest
  | texts, .body _ :: rest => settled texts rest
  | texts, t :: rest => t :: settled texts rest
  | _, [] => []

def tokens (d : Dialect) (line : Nat) (cs : List Char) : List Token :=
  let ts := (tokensFrom d (2 * cs.length + 2) line [] [] cs).reverse
  settled (ts.filterMap fun
    | .body w => some w
    | _ => none) ts

end Provision.Shell
