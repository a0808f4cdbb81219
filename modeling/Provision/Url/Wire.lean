import Provision.Url.Reader

set_option autoImplicit false

namespace Provision.Url.Wire

def longest : Nat := 65534

def longestScheme : Nat := 64

def isHostChar (c : Char) : Bool := c.isAlphanum || "!$&'()*+,-.:;=@[]_~%".toList.contains c

/-- What was seen so far of a host with its credentials and port. -/
structure Seen where
  colons : Nat := 0
  opened : Bool := false
  closed : Bool := false
  percent : Bool := false
  deriving DecidableEq, Repr

/-- Looks at the next character. An `@` shows that what came before was no host, and a closing bracket that
it was a numeric one. -/
def Seen.next? (s : Seen) : Char → Option Seen
  | ':' => if s.colons ≥ 8 then none else some { s with colons := s.colons + 1 }
  | '[' => if s.percent || s.opened then none else some { s with opened := true }
  | ']' => if !s.opened || s.closed then none else some { s with closed := true, colons := 0, percent := false }
  | '@' => some { s with colons := 0, percent := false }
  | '%' => some { s with percent := true }
  | c => if isHostChar c then some s else none

def isAuthority (cs : List Char) : Bool :=
  match cs.foldlM Seen.next? {} with
  | none => false
  | some s => s.opened = s.closed && s.colons ≤ 1 && !s.percent && cs.getLast? ≠ some '@'

def untilPath (cs : List Char) : List Char := cs.takeWhile fun c => c ≠ '/' && c ≠ '?' && c ≠ '#'

/-- An address can stand in a request. One without a host stands there as if it were all host. -/
def isCarried (u : Url) : Bool :=
  let text := u.write
  decide (text.length ≤ longest) &&
    match text.drop u.scheme.length with
    | ':' :: '/' :: '/' :: rest =>
      let front := untilPath rest
      decide (u.scheme.length ≤ longestScheme) && !front.isEmpty && isAuthority front
    | _ => untilPath text = text && isAuthority text

/-- The address that a request carries: nothing of it that stays with the client, and always a path. -/
def carried (u : Url) : Url :=
  { u with fragment := none, path := if u.host.isSome && u.path.isEmpty then ['/'] else u.path }

def isHttp (u : Url) : Bool := u.scheme = "http".toList || u.scheme = "https".toList

end Provision.Url.Wire
