import Provision.Kernel
import Provision.Url.Wire
import Provision.Text.Base64

/-!
Exchanges: a request is sent, redirections are followed, and the head of the last answer is the result.
-/

set_option autoImplicit false

namespace Provision.Http

structure Response where
  url : Url
  status : Nat
  body : Body
  deriving DecidableEq

structure Headers where
  accept : String
  userAgent : Option String
  authorization : Option String
  deriving DecidableEq, Repr

def redirectLimit : Nat := 10

def isRedirect (status : Nat) : Bool := [301, 302, 303, 307, 308].contains status

def isHeaderText (s : String) : Bool := s.all fun c => (c.toNat ≥ 32 && c.toNat ≠ 127) || c = '\t'

def plain? (cs : List Char) : Option (List UInt8) :=
  let bytes := Url.unescape cs
  if (String.fromUTF8? ⟨bytes.toArray⟩).isSome then some bytes else none

/-- An address and the header that carries its credentials. Those whose name is no text stay in the address. -/
def credentials (u : Url) : Url × Option String :=
  match plain? u.user, plain? u.password with
  | none, _ => (u, none)
  | some user, password =>
    if user.isEmpty && (u.password.isEmpty || password.isNone) then (u, none)
    else (u.withoutCredentials, some ("Basic " ++ String.ofList (Base64.encode (user ++ 58 :: password.getD []))))

def requestFor (h : Headers) (u : Url) : Request :=
  ⟨"GET", u.text, some h.accept, h.authorization, h.userAgent⟩

/-- Where an answer sends the client, if anywhere; a reference to where no request can go is as good as none. -/
def target? (u : Url) (status : Nat) (location : Option String) : Option Url :=
  match location with
  | none => none
  | some l =>
    if !isRedirect status then none
    else match u.join l with
      | .ok t => if Url.Wire.isCarried t then some (Url.Wire.carried t) else none
      | .error _ => none

/-- Credentials go only where the last request went, to its host and port. -/
def headersFor (h : Headers) (u target : Url) : Headers :=
  if u.host = target.host && u.effectivePort = target.effectivePort then h
  else { h with authorization := none }

def badScheme (u : Url) : Failure := .unbuilt (some u.text) "URL scheme is not allowed"

def notCarried (u : Url) : Failure := .unbuilt (some u.text) "Parsed Url is not a valid Uri"

/-- What it means that no answer comes: the time is up if a timer runs. -/
def silent (timed : Bool) (first : String) : Failure :=
  if timed then .unsent first ["operation timed out"] else .unending first

/-- Sends a request that was first made for `first`, and follows at most `more` redirections. Every one of
them starts with the headers `all`; `h` are those for this one. `timed` says whether a timer runs. -/
def follow (timed : Bool) (first : String) (all : Headers) :
    Nat → Headers → Url → Plan kernel (Except Failure Response)
  | more, h, u => do
    match ← Kernel.exchange (requestFor h u) with
    | .closed =>
      return .error (.unsent first
        ["client error (SendRequest)", "connection closed before message completed"])
    | .silence => return .error (silent timed first)
    | .head status location body =>
      match target? u status location with
      | none => return .ok ⟨u, status, body⟩
      | some target =>
        match more with
        | 0 => return .error (.redirects u.text)
        | more + 1 =>
          if Url.Wire.isHttp target then follow timed first all more (headersFor all u target) target
          else return .error (badScheme target)

def get (timed : Bool) (h : Headers) (url : String) : Plan kernel (Except Failure Response) :=
  match Url.read url with
  | .error e => .done (.error (.unbuilt none e.message))
  | .ok u =>
    let (u, basic) := credentials u
    if !(h.authorization.all isHeaderText) then .done (.error (.unbuilt none "failed to parse header value"))
    else if !Url.Wire.isHttp u then .done (.error (badScheme u))
    else if !Url.Wire.isCarried u then .done (.error (notCarried u))
    else
      let h := { h with authorization := h.authorization.or basic }
      follow timed u.text h redirectLimit h (Url.Wire.carried u)

end Provision.Http
