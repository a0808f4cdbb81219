import Provision.Shell.Command
import Provision.Shell.Tool.Find

set_option autoImplicit false

namespace Provision.Shell

def Unclosed.closer : Unclosed → Char
  | .quote q => q
  | .ticks => backtick
  | .brace => '\x7d'
  | .paren => ')'
  | .sum => ')'

namespace Misread

def line : Misread → Nat
  | .unexpected _ _ n | .unclosed _ n | .loopName n | .commandName n => n

def plainText : Misread → String
  | .unexpected found wanted _ =>
    "Syntax error: " ++ found ++ " unexpected" ++ ((wanted.map fun w => " (expecting " ++ w ++ ")").getD "")
  | .unclosed u _ => "Syntax error: " ++ match u with
    | .quote _ => "Unterminated quoted string"
    | .ticks => "EOF in backquote substitution"
    | .brace => "Missing '\x7d'"
    | .paren => "end of file unexpected (expecting \")\")"
    | .sum => "Missing '))'"
  | .loopName _ => "Syntax error: Bad for loop variable"
  | .commandName _ => "Syntax error: Bad function name"

/-- The complaints of the rich dialect about a text that starts at a line, each with its line. -/
def richTexts (first : Nat) (text : List Char) (m : Misread) : List (Nat × String) :=
  let lines := (String.ofList text).splitOn "\n"
  let count := if text.getLast? = some '\n' then lines.length else lines.length + 1
  match m with
  | .unexpected "end of file" _ _ => [(first + count - 1, "syntax error: unexpected end of file")]
  | .unexpected found _ n =>
    let n := if found = "newline" then n - 1 else n
    [(n, "syntax error near unexpected token " ++ Tool.graved found), (n, Tool.graved (lines.getD (n - first) ""))]
  | .unclosed u n => [(n, "unexpected EOF while looking for matching " ++ Tool.graved (String.singleton u.closer))]
  | .loopName n => [(n, "not a valid identifier")]
  | .commandName n => [(n, "not a valid identifier")]

end Misread

/-- Puts what short names stand for in their place where a command may begin, up to the end of the line. -/
def aliased (d : Dialect) (aliases : List (String × String)) : Nat → Option Token → List Token → List Token
  | 0, _, ts => ts
  | _, _, [] => []
  | _, some (.newline n), ts => .newline n :: ts
  | fuel + 1, before, t :: rest =>
    let value := if opensCommand d before then (t.bare?.bind fun w => aliases.lookup (String.ofList w)) else none
    match value, t with
    | _, .newline _ => t :: rest
    | some v, _ =>
      let inside := (tokens d t.line v.toList).filter fun
        | .eof _ => false
        | _ => true
      inside ++ aliased d aliases fuel inside.getLast? rest
    | none, _ => t :: aliased d aliases fuel (some t) rest

end Provision.Shell
