import Provision.Http.Exchange
import Provision.Release
import Provision.Error
import Provision.Settings

/-!
Fetching a release by its tag. What may be a passing trouble is tried again, a few times and after a wait.
-/

set_option autoImplicit false

namespace Provision.Fetch

def api : String := "https://api.github.com"

/-- The repository that publishes servers and nightly builds. -/
def releaseRepo : String := "rust-analyzer/rust-analyzer"

def userAgent : String := "ra-bootstrap/" ++ buildVersion

def address (repo tag : String) : String := api ++ "/repos/" ++ repo ++ "/releases/tags/" ++ tag

def maxAttempts : Nat := 3

/-- Milliseconds to wait after an attempt, counted from one. -/
def delay (attempt : Nat) : Nat := 500 * Nat.pow 2 (attempt - 1)

def delayText (ms : Nat) : String :=
  if ms % 1000 = 0 then toString (ms / 1000) ++ "s" else toString ms ++ "ms"

def headers (token : Option String) : Http.Headers :=
  ⟨"application/vnd.github.v3+json", some userAgent, token.map fun t => "Bearer " ++ t⟩

def decode (body : Http.Body) : Except Error Release :=
  match body.ending with
  | .complete =>
    match Release.readBytes? body.bytes with
    | some r => .ok r
    | none => .error (.http (.undecoded []))
  | .cut => .error (.http (.undecoded ["request or response body error"]))
  | .silence => .error (.http (.undecoded ["request or response body error", "operation timed out"]))

def isSuccess (status : Nat) : Bool := 200 ≤ status && status < 300

def once (repo tag : String) (token : Option String) : Plan kernel (Except Error Release) := do
  match ← Http.get true (headers token) (address repo tag) with
  | .error f => return .error (.http f)
  | .ok r => if isSuccess r.status then return decode r.body else return .error (.refused tag r.status)

def isRetryable : Error → Bool
  | .http f => !f.isDecode
  | .refused _ status => 500 ≤ status
  | _ => false

def warning (tag : String) (attempt : Nat) (e : Error) : String :=
  "Fetching release '" ++ tag ++ "' failed (attempt " ++ toString attempt ++ "/" ++ toString maxAttempts ++ "): "
    ++ e.message ++ "; retrying in " ++ delayText (delay attempt)

/-- Tries once and, while `more` attempts are left, again. -/
def attempts (try_ : Plan kernel (Except Error Release)) (tag : String) : Nat → Nat → Plan kernel (Except Error Release)
  | 0, _ => try_
  | more + 1, attempt => do
    match ← try_ with
    | .ok r => return .ok r
    | .error e =>
      if isRetryable e then
        Kernel.log .warn .fetch (warning tag attempt e)
        Kernel.pause (delay attempt)
        attempts try_ tag more (attempt + 1)
      else return .error e

def release (repo tag : String) (token : Option String) : Plan kernel (Except Error Release) :=
  attempts (once repo tag token) tag (maxAttempts - 1) 1

end Provision.Fetch
