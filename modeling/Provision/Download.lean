import Provision.Http.Exchange
import Provision.Error

/-!
Downloading a file: its bytes go to a private file beside the destination, which takes the
destination's place when they are complete. On any failure the private file is removed.
-/

set_option autoImplicit false

namespace Provision.Download

/-- Seconds without any byte after which a download is given up. -/
def patience : Nat := 300

def tempStem : Name := ".download-".toList

def headers (userAgent : Option String) : Http.Headers := ⟨"*/*", userAgent, none⟩

def isError (status : Nat) : Bool := 400 ≤ status && status < 600

/-- Writes the pieces of a body as they come; the result is how many bytes they were. -/
def writeAll (h : Handle) : List ByteArray → Nat → Kernel.Work Error Nat
  | [], n => pure n
  | piece :: rest, n => do
    Attempt.ofReply (Kernel.write h piece) (.io "failed to write download")
    writeAll h rest (n + piece.size)

def settle (url : String) : Http.Ending → Except Error Unit
  | .complete => .ok ()
  | .cut => .error (.http (.undecoded ["request or response body error"]))
  | .silence => .error (.stalled url patience)

/-- Fills the private file and moves it to the destination. -/
def fill (url : String) (dest : Path) (mode : Option Nat) (temp : Path) (h : Handle) (body : Http.Body) :
    Kernel.Work Error Nat := do
  let n ← writeAll h body.pieces 0
  ExceptT.mk (.done (settle url body.ending))
  Attempt.ofReply (Kernel.flush h) (.io "failed to flush download")
  Attempt.ofReply (Kernel.sync h) (.io "failed to sync download")
  match mode with
  | some mode => Attempt.ofReply (Kernel.setMode temp mode) (.io "failed to set permissions")
  | none => pure ()
  Attempt.ofReply (Kernel.rename temp dest) (.io ("failed to move download to " ++ dest.text))
  return n

def keep (url : String) (dir dest : Path) (mode : Option Nat) (body : Http.Body) : Kernel.Work Error Unit := do
  let (temp, h) ← Attempt.ofReply (Kernel.createTemp dir tempStem) (.io "failed to create temp file")
  ExceptT.mk do
    match ← (fill url dest mode temp h body).plan with
    | .ok n =>
      Kernel.log .info .download ("Downloaded " ++ dest.text ++ " (" ++ toString n ++ " bytes)")
      return .ok ()
    | .error e =>
      let _ ← Kernel.unlink temp
      return .error e

def file (userAgent : Option String) (url : String) (dest : Path) (mode : Option Nat) : Kernel.Work Error Unit := do
  match dest.parent? with
  | none => throw (.state ("invalid destination: " ++ dest.text))
  | some dir =>
    Attempt.ofReply (Kernel.makeDirs dir) (.io ("failed to create " ++ dir.text))
    let r ← Attempt.ofReply (Http.get false (headers userAgent) url) .http
    if isError r.status then throw (.http (.status r.status r.url.text))
    keep url dir dest mode r.body

end Provision.Download
