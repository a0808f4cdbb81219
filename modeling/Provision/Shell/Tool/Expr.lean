import Provision.Shell.Tool.Search

set_option autoImplicit false

namespace Provision.Shell.Tool.Expr

abbrev Value := Except String (String × List String)

def number (s : String) : Except String Int :=
  match integer? s with
  | some n => if s.startsWith "+" then .error "non-integer argument" else .ok n
  | none => .error "non-integer argument"

def isNull (s : String) : Bool := s.isEmpty || (integer? s).any (· = 0)

/-- What of a text fits an expression at its start: the first group if there is one, else its length. -/
def matched (text pattern : String) : Except String String :=
  match Text.Regex.Classic.read ⟨false, false⟩ (bytesOf pattern) with
  | .error e => .error e.message
  | .ok r =>
    let t := (bytesOf text).toArray
    let hasGroup := (pattern.splitOn "\\(").length > 1
    match Text.Regex.longest? (r.ends t ⟨0, []⟩) with
    | none => .ok (if hasGroup then "" else "0")
    | some h =>
      if hasGroup then
        match h.spans.lookup 1 with
        | some (a, b) => .ok (Utf8.lossy ⟨(ofChars (t.extract a b).toList).toArray⟩)
        | none => .ok ""
      else .ok (toString h.pos)

def ranks : List (List String) := [["|"], ["&"], ["<", "<=", "=", "==", "!=", ">=", ">"], ["+", "-"], ["*", "/", "%"], [":"]]

def compared (op a b : String) : String :=
  let o := match integer? a, integer? b with
    | some x, some y => compare x y
    | _, _ => compare a b
  let r : Bool := match op with
    | "<" => o = .lt
    | "<=" => o ≠ .gt
    | "=" | "==" => o = .eq
    | "!=" => o ≠ .eq
    | ">=" => o ≠ .lt
    | _ => o = .gt
  if r then "1" else "0"

def applied (op a b : String) : Except String String := do
  match op with
  | "|" => return if isNull a then (if isNull b then "0" else b) else a
  | "&" => return if isNull a || isNull b then "0" else a
  | ":" => matched a b
  | "+" => return toString ((← number a) + (← number b))
  | "-" => return toString ((← number a) - (← number b))
  | "*" => return toString ((← number a) * (← number b))
  | "/" =>
    let (x, y) := (← number a, ← number b)
    if y = 0 then throw "division by zero" else return toString (x.tdiv y)
  | "%" =>
    let (x, y) := (← number a, ← number b)
    if y = 0 then throw "division by zero" else return toString (x.tmod y)
  | _ => return compared op a b

mutual

def joined : Nat → List (List String) → String → List String → Value
  | 0, _, _, _ => .error "syntax error"
  | fuel + 1, [], last, ws => single fuel last ws
  | fuel + 1, ops :: tighter, last, ws => do
    let (a, rest) ← joined fuel tighter last ws
    further fuel ops tighter a rest

def further : Nat → List String → List (List String) → String → List String → Value
  | 0, _, _, _, _ => .error "syntax error"
  | fuel + 1, ops, tighter, a, ws =>
    match ws with
    | op :: rest =>
      if ops.contains op then do
        let (b, rest) ← joined fuel tighter op rest
        further fuel ops tighter (← applied op a b) rest
      else .ok (a, ws)
    | [] => .ok (a, [])

def single : Nat → String → List String → Value
  | 0, _, _ => .error "syntax error"
  | _ + 1, last, [] => .error ("syntax error: missing argument after " ++ quoted last)
  | fuel + 1, _, w :: rest =>
    match w, rest with
    | "(", _ => do
      let (a, after) ← joined fuel ranks w rest
      match after with
      | ")" :: after => return (a, after)
      | _ => throw ("syntax error: expecting ')' after " ++ quoted ((rest.take (rest.length - after.length)).getLastD ""))
    | "+", v :: rest => .ok (v, rest)
    | "length", _ :: _ => do
      let (a, rest) ← single fuel w rest
      return (toString a.utf8ByteSize, rest)
    | "match", _ :: _ => do
      let (a, rest) ← single fuel w rest
      let (b, rest) ← single fuel a rest
      return (← matched a b, rest)
    | "index", _ :: _ => do
      let (a, rest) ← single fuel w rest
      let (b, rest) ← single fuel a rest
      return (toString (((a.toList.findIdx? fun c => b.contains c).map (· + 1)).getD 0), rest)
    | "substr", _ :: _ => do
      let (a, rest) ← single fuel w rest
      let (p, rest) ← single fuel a rest
      let (n, rest) ← single fuel p rest
      match integer? p, integer? n with
      | some p, some n => return (if p < 1 then "" else String.ofList ((a.toList.drop (p.toNat - 1)).take n.toNat), rest)
      | _, _ => return ("", rest)
    | _, _ => .ok (w, rest)

end

end Provision.Shell.Tool.Expr

namespace Provision.Shell.Tool

def expr : Tool := fun args d =>
  let args := if args.head? = some "--" then args.drop 1 else args
  if args.isEmpty then misusedAs 2 "expr" "missing operand" d
  else match Expr.joined (20 * args.length + 20) Expr.ranks "" args with
    | .error e => (2, d.complain ("expr: " ++ e))
    | .ok (_, w :: _) => (2, d.complain ("expr: syntax error: unexpected argument " ++ quoted w))
    | .ok (v, []) => (if Expr.isNull v then 1 else 0, d.say (v ++ "\n"))

end Provision.Shell.Tool
