import Provision.Setup

/-!
Nightly builds of the extension: when a newer one is looked for, and how it is installed.
-/

set_option autoImplicit false

namespace Provision.Nightly

def tag : String := "nightly"

/-- The name of the package in a nightly release and in the storage directory. -/
def asset : String := "rust-analyzer.vsix"

open Setup

/-- A look is due if none was recorded or the last one is longer ago than the interval. -/
def isDue (r : Record) (interval : UInt64) (now : Instant) : Bool :=
  match r.releaseId, r.lastCheck with
  | some _, some last => interval.toNat * 1000000000 < now.since last
  | _, _ => true

/-- Downloads a package, has it installed and removes it again, whether or not that worked. -/
def installPackage (site : Site) (url : String) : Job Unit := do
  let dest := site.storage / Path.ofString asset
  Job.ofOutcome (download url dest none "Downloading rust-analyzer extension") id
  let installed ← Job.ofPlan (install dest)
  Job.ofOutcome (Setup.ofKernel (removeStale dest)) (.io ("failed to remove " ++ dest.text))
  match installed with
  | .ok () => pure ()
  | .error chain => throw (.extension chain)

def offer (site : Site) (release : Release) : Job Unit := do
  if ← Job.ofPlan (confirm "New version of rust-analyzer (nightly) is available (requires reload)." "Update") then
    match release.asset? asset with
    | none => throw (.malformed tag asset)
    | some a =>
      installPackage site a.url
      Job.update (.releaseId release.id)
      Job.update (.lastCheck site.now)
      Job.ofKernel (Kernel.log .info .nightly
        ("Installed nightly extension build " ++ toString release.id.toNat))
      Job.ofPlan reload

/-- Looks for a newer build. Not reaching the source of releases is no failure. -/
def look (site : Site) : Job Unit := do
  match ← Job.ofPlan (fetch tag) with
  | .error e =>
    Job.ofKernel (Kernel.log .error .nightly ("Failed to fetch nightly release: " ++ e.message))
    let r ← Job.record
    if r.releaseId.isNone then
      Job.ofPlan (showError ("Failed to download rust-analyzer nightly " ++ e.message))
  | .ok release =>
    let r ← Job.record
    if r.releaseId = some release.id then Job.update (.lastCheck site.now)
    else offer site release

def switchToStable : String :=
  "You are running a nightly version of rust-analyzer extension. "
    ++ "To switch to stable, uninstall the extension and re-install it from the marketplace"

def update (settings : Settings) (site : Site) : Job Unit :=
  match settings.package.releaseTag, settings.updates.channel with
  | none, _ => pure ()
  | some t, .stable => if t = tag then Job.ofPlan (warn switchToStable) else pure ()
  | some _, .nightly => do
    if isDue (← Job.record) settings.updates.interval site.now then look site

end Provision.Nightly
