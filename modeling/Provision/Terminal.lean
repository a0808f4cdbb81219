import Provision.Setup
import Provision.Fetch
import Provision.Download
import Provision.Patch

/-!
Setting up for a user at a terminal: releases come from the network, questions and messages go to the
log, and packages are installed with the command of an editor.
-/

set_option autoImplicit false

namespace Provision.Terminal

/-- Commands of editors that install packages, in the order in which they are tried. -/
def editors : List String := ["code", "code-insiders", "codium"]

def findEditor : List String → Plan kernel (Option Path)
  | [] => return none
  | name :: names => do
    match ← Kernel.locate name with
    | some p => return some p
    | none => findEditor names

def install (package : Path) : Plan kernel (Except (List String) Unit) := do
  match ← findEditor editors with
  | none => return .error ["no editor CLI (code, code-insiders, codium) found on PATH"]
  | some editor =>
    Kernel.log .info .host ("Installing " ++ package.text ++ " with " ++ editor.text)
    match ← Kernel.launch editor ["--install-extension", package.text, "--force"] ByteArray.empty with
    | .error e => return .error ["failed to run " ++ editor.text, e.message]
    | .ok f =>
      if f.exit.isSuccess then return .ok ()
      else return .error [editor.text ++ " --install-extension failed: " ++ Patch.trimmed f.err]

/-- Questions are answered with yes if that was asked for. Otherwise there is nobody to answer. -/
def confirm (assumeYes : Bool) (message action : String) : Plan kernel Bool := do
  if assumeYes then
    Kernel.log .info .host (message ++ " (" ++ action ++ ": yes)")
    return true
  else
    Kernel.log .warn .host "Prompt cancelled: The input device is not a TTY"
    return false

def warn (message : String) : Plan kernel Unit := Kernel.log .warn .host message
def showError (message : String) : Plan kernel Unit := Kernel.log .error .host message
def reload : Plan kernel Unit := Kernel.log .info .host "Extension updated, reload your editor window to use it"

def carry (assumeYes : Bool) (token : Option String) : (c : Setup.Call) → Plan kernel (Setup.Reply c)
  | .kernel c => .call (I := kernel) c
  | .fetch tag => Fetch.release Fetch.releaseRepo tag token
  | .download url dest mode _ => (Download.file (some Fetch.userAgent) url dest mode).plan
  | .confirm message action => confirm assumeYes message action
  | .warn message => warn message
  | .showError message => showError message
  | .install package => install package
  | .reload => reload

def run {α : Type} (assumeYes : Bool) (token : Option String) (p : Plan setup α) : Plan kernel α :=
  p.lower (carry assumeYes token)

end Provision.Terminal
