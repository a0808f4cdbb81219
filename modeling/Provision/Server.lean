import Provision.Setup
import Provision.Platform
import Provision.Patch

/-!
Finding the server: the one the user names, the one of the system, or the one of a release, which is
downloaded when the record says that another version is installed.
-/

set_option autoImplicit false

namespace Provision.Server

/-- The server that the system has, by the name it is started with. -/
def systemServer : Path := "rust-analyzer"

def executableMode : Nat := 0o755

open Setup

/-- Forgets the installed version if the binary is not there. -/
def forgetMissing (dest : Path) : Job Unit := do
  let there ← Job.ofKernel (Kernel.exists_ dest)
  let r ← Job.record
  if !there && r.serverVersion.isSome then Job.update (.serverVersion none)

/-- Asks whether to download, unless the settings say not to ask. -/
def permitted (settings : Settings) : Job Bool :=
  if settings.updates.ask then
    Job.ofPlan (confirm
      ("Language server version " ++ settings.package.version ++ " for rust-analyzer is not installed.") "Download now")
  else pure true

/-- Downloads the binary of a release, patches it if need be, and records its version. -/
def install (settings : Settings) (site : Site) (tool : Path) (tag binary : String) (dest : Path) : Job Unit := do
  let release ← Job.ofOutcome (fetch tag) id
  match release.asset? binary with
  | none => throw (.malformed tag binary)
  | some asset =>
    Job.ofOutcome (Setup.ofKernel (removeStale dest)) (.io ("failed to remove " ++ dest.text))
    Job.ofOutcome (download asset.url dest (some executableMode) "Downloading rust-analyzer server") id
    if site.patches then Job.ofWork (Patch.patch tool dest)
    Job.update (.serverVersion (some settings.package.version))
    Job.update (.lastCheck site.now)
    Job.ofKernel (Kernel.log .info .server
      ("Installed rust-analyzer " ++ settings.package.version ++ " at " ++ dest.text))

/-- The server of a release, installed if it has to be and may be. -/
def ofRelease (settings : Settings) (site : Site) (tool : Path) (tag : String) : Job Path := do
  let platform ← liftExcept (Platform.detect site.arch site.os)
  let dest := site.storage / Path.ofString platform.binary
  forgetMissing dest
  let r ← Job.record
  if r.serverVersion = some settings.package.version then return dest
  if ← permitted settings then
    install settings site tool tag platform.binary dest
  else
    Job.ofKernel (Kernel.log .info .server ("Server download declined, keeping " ++ dest.text))
  return dest
where
  liftExcept {α : Type} : Except Error α → Job α
    | .ok a => pure a
    | .error e => throw e

/-- The executable to start, after all that has to be done for it. -/
def get (settings : Settings) (site : Site) (tool : Path) : Job Path :=
  match site.serverPath, settings.package.releaseTag with
  | some path, _ => pure (Path.expandHome path site.home)
  | none, none => pure systemServer
  | none, some tag => ofRelease settings site tool tag

end Provision.Server
