import Provision.Shell.Token

set_option autoImplicit false

namespace Provision.Shell

structure Redirect where
  fd : Nat
  direction : Direction
  target : Word
  deriving DecidableEq, Repr

inductive Check where
  | unary (op : String) (a : Word)
  | binary (a : Word) (op : String) (b : Word)
  | not (a : Check)
  | both (a b : Check)
  | either (a b : Check)
  deriving Repr

inductive Command where
  | nothing
  /-- Words and redirections, with the number of the line. -/
  | simple (words : List Word) (redirects : List Redirect) (line : Nat)
  | pipe (a b : Command) (errors : Bool)
  | negate (a : Command)
  | andThen (a b : Command)
  | orElse (a b : Command)
  | seq (a b : Command)
  | background (a : Command)
  | cond (test yes no : Command)
  | loop (wanted : Bool) (test body : Command)
  | each (name : List Char) (items : List Word) (body : Command) (line : Nat)
  /-- A loop that counts: what is done first, what is tested, and what is done after each round. -/
  | count (first test step : List Char) (body : Command)
  /-- One arm of a choice by patterns, and the arms behind it; the next body follows if `falls`. -/
  | choice (subject : Word) (patterns : List Word) (body : Command) (falls : Bool) (rest : Command) (line : Nat)
  | subshell (a : Command)
  | define (name : List Char) (body : Command)
  | redirected (a : Command) (redirects : List Redirect) (line : Nat)
  | check (c : Check) (line : Nat)
  | sum (expression : List Char) (line : Nat)
  deriving Repr

inductive Misread where
  | unexpected (found : String) (wanted : Option String) (line : Nat)
  | unclosed (u : Unclosed) (line : Nat)
  | loopName (line : Nat)
  | commandName (line : Nat)
  deriving DecidableEq, Repr

abbrev Parsed (α : Type) := Except Misread α

def quotedName (s : String) : String := "\"" ++ s ++ "\""

def Token.title (d : Dialect) (t : Token) (kw : Option String) : String :=
  match d, t with
  | _, .eof _ => "end of file"
  | _, .newline _ => "newline"
  | .rich, .mark m _ => m
  | .rich, .redirect _ .read _ => "<"
  | .rich, .redirect _ _ _ => ">"
  | .rich, .sum _ _ => "(("
  | .rich, t => ((t.bare?.map String.ofList).or kw).getD "word"
  | .plain, .mark m _ => quotedName m
  | .plain, .redirect _ _ _ => "redirection"
  | .plain, .sum _ _ => quotedName "("
  | .plain, .word _ _ => (kw.map quotedName).getD "word"
  | .plain, _ => "word"

def endToken : Token := .eof 1

def unexpected {α : Type} (d : Dialect) (isStart : Bool) (wanted : Option String) (ts : List Token) : Parsed α :=
  match ts.headD endToken with
  | .bad u line => .error (.unclosed u line)
  | t => .error (.unexpected (t.title d (if isStart then keyword? d t else none)) wanted t.line)

def skipNewlines (ts : List Token) : List Token := ts.dropWhile fun
  | .newline _ => true
  | _ => false

def isKeyword (d : Dialect) (s : String) (ts : List Token) : Bool := (ts.head?.bind (keyword? d)) = some s

def expect (d : Dialect) (s : String) (ts : List Token) : Parsed (List Token) :=
  if isKeyword d s ts then .ok ts.tail else unexpected d true (some (quotedName s)) ts

def redirectsFrom (d : Dialect) : List Token → List Redirect → Parsed (List Redirect × List Token)
  | .redirect fd dir _ :: .word w _ :: rest, rs => redirectsFrom d rest (⟨fd, dir, w⟩ :: rs)
  | .redirect _ _ _ :: rest, _ => unexpected d false none rest
  | ts, rs => .ok (rs.reverse, ts)

def withRedirects (d : Dialect) (c : Command) (line : Nat) (ts : List Token) : Parsed (Command × List Token) := do
  let (rs, rest) ← redirectsFrom d ts []
  return (if rs.isEmpty then c else .redirected c rs line, rest)

def simpleFrom (d : Dialect) : List Token → List Word → List Redirect → Parsed ((List Word × List Redirect) × List Token)
  | .word w _ :: rest, ws, rs => simpleFrom d rest (w :: ws) rs
  | .redirect fd dir _ :: .word w _ :: rest, ws, rs => simpleFrom d rest ws (⟨fd, dir, w⟩ :: rs)
  | .redirect _ _ _ :: rest, _, _ => unexpected d false none rest
  | rest, ws, rs => .ok ((ws.reverse, rs.reverse), rest)

def patternsFrom (d : Dialect) : List Token → List Word → Parsed (List Word × List Token)
  | .word w _ :: .mark "|" _ :: rest, ws => patternsFrom d rest (w :: ws)
  | .word w _ :: .mark ")" _ :: rest, ws => .ok ((w :: ws).reverse, rest)
  | t :: rest, _ => unexpected d false (some (quotedName ")")) (if rest.isEmpty then [t] else rest)
  | [], _ => unexpected d false (some (quotedName ")")) []

def itemsFrom (d : Dialect) : List Token → List Word → Parsed (List Word × List Token)
  | .word w _ :: rest, ws => itemsFrom d rest (w :: ws)
  | .newline _ :: rest, ws => .ok (ws.reverse, rest)
  | .mark ";" _ :: rest, ws => .ok (ws.reverse, rest)
  | ts, _ => unexpected d false none ts

def closers : List String := ["then", "elif", "else", "fi", "do", "done", "esac", "\x7d"]

def isCloser (d : Dialect) (t : Token) : Bool :=
  ((keyword? d t).any closers.contains) || [")", ";;", ";&", ";;&"].any t.isMark

def isSpecial (name : String) : Bool :=
  [":", ".", "break", "continue", "eval", "exec", "exit", "export", "readonly", "return", "set", "shift", "times", "trap",
   "unset"].contains name

/-! Conditions between double brackets. -/

def checkOps : List String := ["=", "==", "!=", "=~", "<", ">", "-eq", "-ne", "-lt", "-le", "-gt", "-ge", "-nt", "-ot", "-ef"]

def checkOp? : List Token → Option (String × List Token)
  | .redirect _ .read _ :: rest => some ("<", rest)
  | .redirect _ .write _ :: rest => some (">", rest)
  | t :: rest => ((t.bare?.map String.ofList).filter checkOps.contains).map fun op => (op, rest)
  | [] => none

mutual

def checkFrom (d : Dialect) : Nat → List Token → Parsed (Check × List Token)
  | 0, ts => unexpected d false none ts
  | fuel + 1, ts => do
    let (a, rest) ← checkAll d fuel ts
    match rest with
    | .mark "||" _ :: more =>
      let (b, last) ← checkFrom d fuel (skipNewlines more)
      return (.either a b, last)
    | _ => return (a, rest)

def checkAll (d : Dialect) : Nat → List Token → Parsed (Check × List Token)
  | 0, ts => unexpected d false none ts
  | fuel + 1, ts => do
    let (a, rest) ← checkOne d fuel ts
    match rest with
    | .mark "&&" _ :: more =>
      let (b, last) ← checkAll d fuel (skipNewlines more)
      return (.both a b, last)
    | _ => return (a, rest)

def checkOne (d : Dialect) : Nat → List Token → Parsed (Check × List Token)
  | 0, ts => unexpected d false none ts
  | fuel + 1, ts =>
    match skipNewlines ts with
    | .mark "(" _ :: rest => do
      let (a, rest) ← checkFrom d fuel rest
      match rest with
      | .mark ")" _ :: rest => return (a, rest)
      | _ => unexpected d false none rest
    | .word w line :: rest =>
      if (Token.word w line).isWord "!" then do
        let (a, rest) ← checkOne d fuel rest
        return (.not a, rest)
      else match checkOp? rest with
        | some (op, .word b _ :: rest) => .ok (.binary w op b, rest)
        | some (_, rest) => unexpected d false none rest
        | none =>
          let op := (w.bare?.map String.ofList).filter fun s => s.startsWith "-" && s.length = 2
          match op, rest with
          | some op, .word a l :: rest' =>
            if (Token.word a l).isWord "]]" then .ok (.unary "-n" w, rest) else .ok (.unary op a, rest')
          | _, _ => .ok (.unary "-n" w, rest)
    | ts => unexpected d false none ts

end

/-! The commands themselves. -/

def clauses (cs : List Char) : List (List Char) :=
  ((String.ofList cs).splitOn ";").map String.toList

mutual

/-- Commands one after the other, up to a word or parenthesis that closes them. At the top (`isTop`) they end
with their line. If `isOpen`, there need not be any. -/
def listFrom (d : Dialect) : Nat → (isTop isOpen : Bool) → List Token → Parsed (Command × List Token)
  | 0, _, _, ts => unexpected d true none ts
  | fuel + 1, isTop, isOpen, ts =>
    let ts := if isTop then ts else skipNewlines ts
    match ts with
    | [] => .ok (.nothing, [])
    | .newline _ :: rest => .ok (.nothing, rest)
    | .eof n :: rest => .ok (.nothing, .eof n :: rest)
    | t :: rest =>
      if isOpen && isCloser d t && !isTop then .ok (.nothing, t :: rest)
      else do
        let (a, after) ← andOrFrom d fuel (t :: rest)
        match after with
        | .mark "&" _ :: more =>
          let (b, last) ← listFrom d fuel isTop true more
          return (.seq (.background a) b, last)
        | .mark ";" _ :: more =>
          let (b, last) ← listFrom d fuel isTop true more
          return (.seq a b, last)
        | .newline _ :: _ =>
          if isTop then return (a, after.drop 1)
          let (b, last) ← listFrom d fuel isTop true after
          return (.seq a b, last)
        | .eof _ :: _ => return (a, after)
        | _ => if isTop then unexpected d true none after else return (a, after)

def andOrFrom (d : Dialect) : Nat → List Token → Parsed (Command × List Token)
  | 0, ts => unexpected d true none ts
  | fuel + 1, ts => do
    let (a, after) ← pipelineFrom d fuel ts
    andOrRest d fuel a after

def andOrRest (d : Dialect) : Nat → Command → List Token → Parsed (Command × List Token)
  | 0, _, ts => unexpected d true none ts
  | fuel + 1, a, .mark "&&" _ :: ts => do
    let (b, after) ← pipelineFrom d fuel (skipNewlines ts)
    andOrRest d fuel (.andThen a b) after
  | fuel + 1, a, .mark "||" _ :: ts => do
    let (b, after) ← pipelineFrom d fuel (skipNewlines ts)
    andOrRest d fuel (.orElse a b) after
  | _ + 1, a, ts => .ok (a, ts)

def pipelineFrom (d : Dialect) : Nat → List Token → Parsed (Command × List Token)
  | 0, ts => unexpected d true none ts
  | fuel + 1, ts =>
    if isKeyword d "!" ts then do
      let (a, after) ← pipedFrom d fuel ts.tail
      return (.negate a, after)
    else if isKeyword d "time" ts then pipelineFrom d fuel ts.tail
    else pipedFrom d fuel ts

def pipedFrom (d : Dialect) : Nat → List Token → Parsed (Command × List Token)
  | 0, ts => unexpected d true none ts
  | fuel + 1, ts => do
    let (a, after) ← commandFrom d fuel ts
    match after with
    | .mark "|" _ :: more =>
      let (b, last) ← pipedFrom d fuel (skipNewlines more)
      return (.pipe a b false, last)
    | .mark "|&" _ :: more =>
      let (b, last) ← pipedFrom d fuel (skipNewlines more)
      return (.pipe a b true, last)
    | _ => return (a, after)

def commandFrom (d : Dialect) : Nat → List Token → Parsed (Command × List Token)
  | 0, ts => unexpected d true none ts
  | _ + 1, [] => unexpected d true none []
  | fuel + 1, t :: ts =>
    match keyword? d t with
    | some "if" => do
      let (c, after) ← conditionFrom d fuel ts
      withRedirects d c t.line after
    | some "\x7b" => do
      let (a, after) ← listFrom d fuel false false ts
      withRedirects d a t.line (← expect d "\x7d" after)
    | some "case" =>
      match ts with
      | .word subject _ :: rest => do
        let (c, after) ← armsFrom d fuel subject t.line (skipNewlines (← expect d "in" (skipNewlines rest)))
        withRedirects d c t.line after
      | _ => unexpected d false (some "word") ts
    | some "for" => do
      match ts with
      | .sum e _ :: rest =>
        let rest := match rest with
          | .mark ";" _ :: more => more
          | _ => rest
        let (body, after) ← bodyFrom d fuel (skipNewlines rest)
        match clauses e with
        | [first, test, step] => withRedirects d (.count first test step body) t.line after
        | _ => unexpected d true none ts
      | name :: rest =>
        let name' := name.bare?.getD []
        if !isName name' then
          match name with
          | .bad u line => throw (.unclosed u line)
          | _ => throw (.loopName name.line)
        -- without a list, the arguments of the script are gone through
        let (items, after) ← if isKeyword d "in" (skipNewlines rest) then itemsFrom d (skipNewlines rest).tail []
          else match rest with
            | .mark ";" _ :: more => .ok ([[.param ['@'] true]], more)
            | _ => .ok ([[.param ['@'] true]], rest)
        let (body, after) ← bodyFrom d fuel (skipNewlines after)
        withRedirects d (.each name' items body t.line) t.line after
      | [] => throw (.loopName t.line)
    | some "[[" => do
      let (c, after) ← checkFrom d fuel ts
      match after with
      | close :: rest =>
        if close.isWord "]]" then withRedirects d (.check c t.line) t.line rest else unexpected d false none after
      | [] => unexpected d false none []
    | some "function" => do
      match ts with
      | .word w _ :: rest =>
        let rest := if rest.length ≥ 2 && (rest.headD endToken).isMark "(" then rest.drop 2 else rest
        let (body, after) ← commandFrom d fuel (skipNewlines rest)
        return (.define (w.bare?.getD []) body, after)
      | _ => unexpected d false none ts
    | some kw =>
      if kw = "while" || kw = "until" then do
        let (test, after) ← listFrom d fuel false false ts
        let (body, after) ← bodyFrom d fuel after
        withRedirects d (.loop (kw = "while") test body) t.line after
      else unexpected d true none (t :: ts)
    | none =>
      match t with
      | .mark "(" _ => do
        let (a, after) ← listFrom d fuel false false ts
        match after with
        | .mark ")" _ :: rest => withRedirects d (.subshell a) t.line rest
        | _ => unexpected d true (some (quotedName ")")) after
      | .sum e line => withRedirects d (.sum e line) line ts
      | .word w line =>
        match ts with
        | .mark "(" _ :: rest =>
          match rest with
          | .mark ")" _ :: rest =>
            let name := w.bare?.getD []
            if !d.isRich && (!isName name || isSpecial (String.ofList name)) then throw (.commandName line)
            else do
              let (body, after) ← commandFrom d fuel (skipNewlines rest)
              return (.define name body, after)
          | _ =>
            if d.isRich || (opensList w) then unexpected d false none ts
            else unexpected d false (some (quotedName ")")) rest
        | _ => do
          let ((ws, rs), after) ← simpleFrom d (t :: ts) [] []
          return (.simple ws rs line, after)
      | .redirect _ _ line => do
        let ((ws, rs), after) ← simpleFrom d (t :: ts) [] []
        return (.simple ws rs line, after)
      | _ => unexpected d true none (t :: ts)

def bodyFrom (d : Dialect) : Nat → List Token → Parsed (Command × List Token)
  | 0, ts => unexpected d true none ts
  | fuel + 1, ts => do
    let (body, after) ← listFrom d fuel false false (← expect d "do" ts)
    return (body, ← expect d "done" after)

def armsFrom (d : Dialect) : Nat → Word → Nat → List Token → Parsed (Command × List Token)
  | 0, _, _, ts => unexpected d true none ts
  | fuel + 1, subject, line, ts =>
    if isKeyword d "esac" ts then .ok (.nothing, ts.tail)
    else do
      let ts := match ts with
        | .mark "(" _ :: rest => rest
        | _ => ts
      let (patterns, rest) ← patternsFrom d ts []
      let (body, rest) ← listFrom d fuel false true rest
      match skipNewlines rest with
      | .mark m n :: more =>
        if m = ";;" || m = ";&" || m = ";;&" then
          let (others, after) ← armsFrom d fuel subject line (skipNewlines more)
          return (.choice subject patterns body (m = ";&") others line, after)
        else unexpected d true (some (quotedName ";;")) (.mark m n :: more)
      | rest =>
        if isKeyword d "esac" rest then return (.choice subject patterns body false .nothing line, rest.tail)
        else unexpected d true (some (quotedName ";;")) rest

def conditionFrom (d : Dialect) : Nat → List Token → Parsed (Command × List Token)
  | 0, ts => unexpected d true none ts
  | fuel + 1, ts => do
    let (test, after) ← listFrom d fuel false false ts
    let (yes, after) ← listFrom d fuel false false (← expect d "then" after)
    if isKeyword d "elif" after then
      let (no, last) ← conditionFrom d fuel after.tail
      return (.cond test yes no, last)
    else if isKeyword d "else" after then
      let (no, last) ← listFrom d fuel false false after.tail
      return (.cond test yes no, ← expect d "fi" last)
    else return (.cond test yes .nothing, ← expect d "fi" after)

end

def nextLine (d : Dialect) (ts : List Token) : Parsed (Option (Command × List Token)) :=
  match skipNewlines ts with
  | [] => .ok none
  | .eof _ :: _ => .ok none
  | ts => (listFrom d (8 * ts.length + 8) true false ts).map some

end Provision.Shell
