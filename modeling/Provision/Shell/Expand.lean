import Provision.Shell.Reach

set_option autoImplicit false

namespace Provision.Shell

/-- Where a parameter stands: whether its values may become several words, and whether it is quoted. -/
structure Site where
  divides : Bool
  quoted : Bool

def Site.one (p : Site) (cs : List Char) : List Bit := if p.quoted then Bit.plain cs else Bit.loose cs

/-- Several values as they stand in a word; `joins` says whether they become one if they are quoted. -/
def Site.many (p : Site) (s : State) (f : Frame) (joins : Bool) (vs : List (List Char)) : List Bit :=
  let joined (joint : List Char) : List Char := joint.intercalate vs
  if p.quoted && joins then Bit.plain (joined s.joint)
  else if p.divides then
    ((vs.map fun v => if p.quoted then .here :: Bit.plain v else Bit.loose v).intersperse [.cut]).flatten
  else
    let text := joined (if f.isRich && !joins then [' '] else s.joint)
    p.one text

def recased (upper all : Bool) (cs : List Char) : List Char :=
  let change (c : Char) : Char := if upper then c.toUpper else c.toLower
  if all then cs.map change else match cs with
    | c :: rest => change c :: rest
    | [] => []

/-- A part of a list: from a place on, which may be counted from the end, and some length. -/
def slice {α : Type} (from_ : Int) (length : Option Int) (xs : List α) : List α :=
  let size := Int.ofNat xs.length
  let start := if from_ < 0 then size + from_ else from_
  if start < 0 then []
  else
    let rest := xs.drop start.toNat
    match length with
    | none => rest
    | some n => if n ≥ 0 then rest.take n.toNat else rest.take (Int.ofNat rest.length + n).toNat

namespace Expansion

def isArgs (x : Expansion) : Bool := x.name = ['@'] || x.name = ['*']

def isItems (x : Expansion) : Bool := x.index = some ['@'] || x.index = some ['*']

def isMany (x : Expansion) : Bool := (x.isArgs && x.index.isNone) || x.isItems

def joins (x : Expansion) : Bool := x.name = ['*'] || x.index = some ['*']

def minds (x : Expansion) : Bool := x.op.head? = some ':' && x.op.length = 2

def shown (x : Expansion) (p : Site) (f : Frame) (vs : List (List Char)) (s : State) : List Bit × State :=
  (if x.isMany then p.many s f x.joins vs else p.one (vs.headD []), s)

end Expansion

def fixedText (f : Frame) (name : List Char) : String :=
  String.ofList name ++ (if f.isRich then ": readonly variable" else ": is read only")

def wordIn (f : Frame) (line : Nat) (quoted : Bool) (cs : List Char) : Word :=
  let w : Word := (((if quoted then doubled .lastQuoted (cs.length + 1) cs
    else wordFrom f.dialect (fun _ => false) (cs.length + 2) cs).map (·.1)).toOption).getD []
  w.numbered line

namespace Reach

def substitute (r : Reach) (f : Frame) (line : Nat) (text : List Char) (s : State) : List Char × State :=
  let text := match f.isRich, Arithmetic.skip text with
    | true, '<' :: c :: rest => if c = '<' || c = '(' then text else "cat <".toList ++ c :: rest
    | _, _ => text
  let (n, s1) := s.basin ByteArray.empty false
  let s1 := (s1.withPort 1 (.basin n)).entered
  let s1 := if f.isRich then { s1 with options := s1.options.filter (· ≠ "errexit") } else s1
  let f' := { f with tested := false }
  let (e, s2) := r.conclude f' (r.evaluate f' line text s1)
  let data := ((s2.basins.find? (·.number = n)).map (·.data)).getD ByteArray.empty
  let cs := (Utf8.lossy data).toList.filter (· ≠ Char.ofNat 0)
  ((cs.reverse.dropWhile (· = '\n')).reverse, { s.after s2 e with status := s.status, inner := some (status e) })

def text (r : Reach) (f : Frame) (w : Word) (s : State) : List Char × State :=
  let (cs, s) := r.whole f false w s
  (cs.map (·.1), s)

def pattern (r : Reach) (f : Frame) (w : Word) (s : State) : List Glob × State :=
  let (cs, s) := r.whole f false w s
  (Glob.ofMarked f.isRich cs, s)

def valuesOf (r : Reach) (f : Frame) (x : Expansion) (s : State) : Option (List (List Char)) × State :=
  if x.isMany then
    let vs := if x.isArgs then s.args.map String.toList else (s.items f x.name).map (·.2)
    (if vs.isEmpty then none else some vs, s)
  else
    let (one, s) : Option (List Char) × State := match x.index with
      | none => (s.value? f x.name, s)
      | some i =>
        let (key, s) := r.text f (wordIn f s.line true i) s
        match (s.var? x.name).map Variable.value with
        | some (.table items) => (items.lookup key, s)
        | _ =>
          match Builtin.calculate s f key with
          | .ok (n, s) => (s.item? f x.name n, s)
          | .error e => (none, s.refuse f 1 e)
    -- the value may be the name of the parameter that is meant
    let one := if x.indirect then one.bind fun name => s.value? f name else one
    (one.map fun v => [v], s)

def replaced (r : Reach) (f : Frame) (x : Expansion) (p : Site) (vs : List (List Char)) (s : State) : List (List Char) × State :=
  let (front, other) := dividedAt '/' 0 x.word
  let (ps, s) := r.pattern f (wordIn f s.line false front) s
  let (other, s) := r.text f (wordIn f s.line p.quoted (other.getD [])) s
  let change (v : List Char) : List Char := match x.op with
    | ['/', '#'] =>
      let rest := Glob.withoutFront true ps v
      if rest.length < v.length || Glob.fits ps [] then other ++ rest else v
    | ['/', '%'] =>
      let rest := Glob.withoutBack true ps v
      if rest.length < v.length || Glob.fits ps [] then rest ++ other else v
    | op => Glob.replaced (op.length = 2) ps other (v.length + 1) v
  (vs.map change, s)

def sliced (r : Reach) (f : Frame) (x : Expansion) (vs : List (List Char)) (s : State) : List (List Char) × State :=
  let amount (cs : List Char) (s : State) : Int × State :=
    let (text, s) := r.text f (wordIn f s.line true cs) s
    match Builtin.calculate s f text with
    | .ok found => found
    | .error e => (0, s.abort f e)
  let (first, second) := dividedAt ':' 0 x.word
  let (from_, s) := amount first s
  let (length, s) : Option Int × State := match second with
    | some cs => let (n, s) := amount cs s; (some n, s)
    | none => (none, s)
  if x.isArgs then (slice from_ length (f.name.toList :: vs), s)
  else if x.isMany then (slice from_ length vs, s)
  else (vs.map (slice from_ length), s)

def changed (r : Reach) (f : Frame) (x : Expansion) (p : Site) (vs : List (List Char)) (s : State) : List (List Char) × State :=
  let isLong := x.op.length = 2
  match x.op with
  | '#' :: _ =>
    let (ps, s) := r.pattern f (wordIn f s.line false x.word) s
    (vs.map (Glob.withoutFront isLong ps), s)
  | '%' :: _ =>
    let (ps, s) := r.pattern f (wordIn f s.line false x.word) s
    (vs.map (Glob.withoutBack isLong ps), s)
  | '/' :: _ => r.replaced f x p vs s
  | '^' :: _ => (vs.map (recased true isLong), s)
  | ',' :: _ => (vs.map (recased false isLong), s)
  | '@' :: _ =>
    (vs.map fun v => match x.word with
      | ['Q'] => (Tool.quoted (String.ofList v)).toList
      | ['U'] => recased true true v
      | ['u'] => recased true false v
      | ['L'] => recased false true v
      | _ => v, s)
  | _ => r.sliced f x vs s

def namesOf (f : Frame) (x : Expansion) (s : State) : List (List Char) :=
  if x.isItems then (s.items f x.name).map (·.1)
  else ((s.vars.map (·.name)).filter fun n => x.name.isPrefixOf n).mergeSort fun a b => !Name.precedes b a

def parameter (r : Reach) (f : Frame) (p : Site) (body : List Char) (s : State) : List Bit × State :=
  match Expansion.of? f.dialect body with
  | none =>
    ([], s.abort f (if f.isRich then "$\x7b" ++ String.ofList body ++ "\x7d: bad substitution" else "Bad substitution"))
  | some x =>
    let (found, s) := r.valuesOf f x s
    let vs := found.getD []
    let isUnset := found.isNone || (x.minds && vs.all List.isEmpty)
    let other (divides : Bool) (s : State) : List Bit × State :=
      let w := wordIn f s.line p.quoted x.word
      r.expand f divides (!p.quoted) (if p.quoted then w else tildes s f false true w) s
    let careful (k : State → List Bit × State) : List Bit × State :=
      if found.isNone && !x.isMany && s.has "nounset" then
        let name := (if f.isRich && x.name.all Char.isDigit then "$" else "") ++ String.ofList x.name
        ([], s.abort f (name ++ (if f.isRich then ": unbound variable" else ": parameter not set")))
      else k s
    if x.indirect && (x.isItems || x.op = ['*'] || x.op = ['@']) then (p.many s f x.joins (namesOf f x s), s)
    else if x.length then
      careful fun s =>
        -- the plain dialect counts the characters of all arguments together
        let size := if !x.isMany then (String.ofList (vs.headD [])).utf8ByteSize
          else if f.isRich then vs.length
          else (String.ofList (s.joint.intercalate vs)).utf8ByteSize
        (p.one (toString size).toList, s)
    else match x.op.getLast? with
    | none => careful fun s => x.shown p f vs s
    | some '-' => if isUnset then other p.divides s else x.shown p f vs s
    | some '+' => if isUnset then ([], s) else other p.divides s
    | some '=' =>
      if !isUnset then x.shown p f vs s
      else if !isName x.name then
        ([], s.abort f (String.ofList x.name ++ (if f.isRich then ": cannot assign in this way" else ": bad variable name")))
      else
        let (bits, s) := other false s
        let text := (Fields.whole bits).map (·.1)
        if !s.flow.isRunning then ([], s)
        else if s.isFixed x.name then ([], s.abort f (fixedText f x.name))
        else (p.one text, s.assign x.name text)
    | some '?' =>
      if !isUnset then x.shown p f vs s
      else
        let (bits, s) := other false s
        let text := (Fields.whole bits).text
        let why := if !text.isEmpty then text
          else if !x.minds then "parameter not set"
          else if f.isRich then "parameter null or not set" else "parameter not set or null"
        ([], if s.flow.isRunning then s.abort f (String.ofList x.name ++ ": " ++ why) else s)
    | some _ =>
      careful fun s =>
        if found.isNone then ([], s)
        else
          let (vs, s) := r.changed f x p vs s
          x.shown p f vs s

/-- What one piece of a word stands for. If `isLoose`, unquoted text may divide words too. -/
def piece (r : Reach) (f : Frame) (divides isLoose : Bool) (s : State) : Piece → List Bit × State
  | .text cs true => (if cs.isEmpty then [.here] else Bit.plain cs, s)
  | .text cs false => (if isLoose then Bit.loose cs else Bit.wild cs, s)
  | .list _ => ([], s)
  | .param body quoted => r.parameter f ⟨divides, quoted⟩ body s
  | .sum body quoted =>
    let (cs, s) := r.spelled f body s
    if !s.flow.isRunning then ([], s)
    else match Builtin.calculate s f cs with
      | .ok (n, s) => ((Site.mk divides quoted).one (toString n).toList, s)
      | .error e => ([], s.abort f e)
  | .output text quoted line =>
    let (cs, s) := r.substitute f (if f.isRich && line = 1 then s.line else line) text s
    ((Site.mk divides quoted).one cs, s)

def pieces (r : Reach) (f : Frame) (divides isLoose : Bool) (w : Word) (s : State) : List Bit × State :=
  let (back, s) := w.foldl (fun (acc : List (List Bit) × State) p =>
    if !acc.2.flow.isRunning then acc
    else
      let (bits, s) := r.piece f divides isLoose acc.2 p
      (bits :: acc.1, s)) ([], s)
  (back.reverse.flatten, s)

end Reach

end Provision.Shell
