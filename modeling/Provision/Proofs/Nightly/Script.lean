import Provision.Nightly
import Provision.Proofs.Server.Script

set_option autoImplicit false

namespace Provision.Nightly

open Server (checked)

inductive Deed where
  | warn (message : String)
  | fetch (tag : String)
  | showError (message : String)
  | confirm (message action : String)
  | download (url : String) (dest : Path) (mode : Option Nat) (label : String)
  | install (package : Path)
  | remove (package : Path)
  | save (s : Store)
  | log (level : Log.Level) (text : String)
  | reload

namespace Deed

def Reply : Deed → Type
  | .warn _ => Unit
  | .fetch _ => Except Error Release
  | .showError _ => Unit
  | .confirm _ _ => Bool
  | .download _ _ _ _ => Except Error Unit
  | .install _ => Except (List String) Unit
  | .remove _ => Except Fault Unit
  | .save _ => Except Error Unit
  | .log _ _ => Unit
  | .reload => Unit

def plan : (d : Deed) → Plan setup d.Reply
  | .warn message => Setup.warn message
  | .fetch tag => Setup.fetch tag
  | .showError message => Setup.showError message
  | .confirm message action => Setup.confirm message action
  | .download url dest mode label => Setup.download url dest mode label
  | .install package => Setup.install package
  | .remove package => Setup.ofKernel (Setup.removeStale package)
  | .save s => Setup.ofKernel s.save.plan
  | .log level text => Setup.ofKernel (Kernel.log level .nightly text)
  | .reload => Setup.reload

end Deed

abbrev deeds : Interface := ⟨Deed, Deed.Reply⟩

abbrev Script := Plan deeds (Except Error Unit × Store)

def released (s : Store) (id : UInt64) : Store := { s with record := { s.record with releaseId := some id } }

def packageOf (site : Site) : Path := site.storage / Path.ofString asset

namespace Script

/-- Goes on after a success, and ends with the error after a failure. -/
def orFail {ε : Type} (s : Store) (wrap : ε → Error) (next : Script) : Except ε Unit → Script
  | .ok () => next
  | .error e => .done (.error (wrap e), s)

def saving (s : Store) (next : Script) : Script := .ask (I := deeds) (.save s) (orFail s id next)

def recording (site : Site) (id : UInt64) (s : Store) : Script :=
  let s₁ := released s id
  let s₂ := checked s₁ site.now
  saving s₁ (saving s₂ (.ask (I := deeds)
    (.log .info ("Installed nightly extension build " ++ toString id.toNat)) fun _ =>
      .ask (I := deeds) .reload fun _ => .done (.ok (), s₂)))

def clearing (site : Site) (id : UInt64) (s : Store) (installed : Except (List String) Unit) : Script :=
  .ask (I := deeds) (.remove (packageOf site)) (orFail s (.io ("failed to remove " ++ (packageOf site).text))
    (orFail s .extension (recording site id s) installed))

def installing (site : Site) (url : String) (id : UInt64) (s : Store) : Script :=
  .ask (I := deeds) (.download url (packageOf site) none "Downloading rust-analyzer extension")
    (orFail s (fun e => e) (.ask (I := deeds) (.install (packageOf site)) (clearing site id s)))

def offering (site : Site) (release : Release) (s : Store) : Script :=
  .ask (I := deeds)
    (.confirm "New version of rust-analyzer (nightly) is available (requires reload)." "Update") fun
      | false => .done (.ok (), s)
      | true =>
        match release.asset? asset with
        | none => .done (.error (.malformed tag asset), s)
        | some a => installing site a.url release.id s

/-- The deeds after the source of releases could not be reached. -/
def lamenting (e : Error) (s : Store) : Script :=
  .ask (I := deeds) (.log .error ("Failed to fetch nightly release: " ++ e.message)) fun _ =>
    if s.record.releaseId.isNone then
      .ask (I := deeds) (.showError ("Failed to download rust-analyzer nightly " ++ e.message)) fun _ =>
        .done (.ok (), s)
    else .done (.ok (), s)

def looking (site : Site) (s : Store) : Script :=
  .ask (I := deeds) (.fetch tag) fun
    | .error e => lamenting e s
    | .ok release =>
      if s.record.releaseId = some release.id then
        saving (checked s site.now) (.done (.ok (), checked s site.now))
      else offering site release s

end Script

def script (settings : Settings) (site : Site) (s : Store) : Script :=
  match settings.package.releaseTag, settings.updates.channel with
  | none, _ => .done (.ok (), s)
  | some t, .stable =>
    if t = tag then .ask (I := deeds) (.warn switchToStable) fun _ => .done (.ok (), s) else .done (.ok (), s)
  | some _, .nightly =>
    if isDue s.record settings.updates.interval site.now then Script.looking site s else .done (.ok (), s)

section Carried

open Server (plan_ofPlan_bind plan_ofOutcome_bind plan_update_bind plan_record_bind plan_pure)
open Setup (Job)

variable (site : Site) (s : Store)

theorem plan_update (c : Store.Change) :
    (Job.update c).plan s = (Script.saving { s with record := c.apply s.record }
      (.done (.ok (), { s with record := c.apply s.record }))).lower Deed.plan := by
  have h := plan_update_bind s c (fun u => (pure u : Job Unit))
  rw [bind_pure] at h
  rw [h]
  simp only [plan_pure, Script.saving, Plan.lower, Deed.plan]
  exact Plan.bind_cases (fun _ => rfl) fun _ => rfl

theorem plan_recording (id : UInt64) :
    (do
      Job.update (.releaseId id)
      Job.update (.lastCheck site.now)
      Job.ofKernel (Kernel.log .info .nightly ("Installed nightly extension build " ++ toString id.toNat))
      Job.ofPlan Setup.reload : Job Unit).plan s = (Script.recording site id s).lower Deed.plan := by
  simp only [plan_update_bind, Job.ofKernel, plan_ofPlan_bind, Script.recording, Script.saving, Plan.lower, Deed.plan]
  refine Plan.bind_cases (fun _ => rfl) fun u => ?_
  simp only [Script.orFail, Plan.lower, Deed.plan]
  exact Plan.bind_cases (fun _ => rfl) fun _ => rfl

theorem plan_installing (url : String) (id : UInt64) :
    (do
      installPackage site url
      Job.update (.releaseId id)
      Job.update (.lastCheck site.now)
      Job.ofKernel (Kernel.log .info .nightly ("Installed nightly extension build " ++ toString id.toNat))
      Job.ofPlan Setup.reload : Job Unit).plan s = (Script.installing site url id s).lower Deed.plan := by
  simp only [installPackage, bind_assoc, plan_ofOutcome_bind, plan_ofPlan_bind, Script.installing, Plan.lower, Deed.plan]
  refine Plan.bind_cases (fun _ => rfl) fun u => ?_
  simp only [Script.orFail, Script.clearing, Plan.lower, Deed.plan]
  congr 1
  funext installed
  refine Plan.bind_cases (fun _ => rfl) fun u => ?_
  cases installed with
  | error chain => rfl
  | ok u =>
    simp only [pure_bind]
    exact plan_recording site s id

theorem plan_offering (release : Release) :
    (offer site release).plan s = (Script.offering site release s).lower Deed.plan := by
  simp only [offer, plan_ofPlan_bind, Script.offering, Plan.lower, Deed.plan]
  congr 1
  funext r
  cases r with
  | false => rfl
  | true =>
    simp only [if_true]
    cases release.asset? asset with
    | none => rfl
    | some a => exact plan_installing site s a.url release.id

theorem plan_looking : (look site).plan s = (Script.looking site s).lower Deed.plan := by
  simp only [look, plan_ofPlan_bind, Script.looking, Plan.lower, Deed.plan]
  congr 1
  funext r
  cases r with
  | error e =>
    simp only [Job.ofKernel, plan_ofPlan_bind, plan_record_bind, Script.lamenting, Plan.lower, Deed.plan]
    congr 1
    funext u
    by_cases hn : s.record.releaseId.isNone = true
    · simp only [hn, if_true]
      rfl
    · simp only [hn]
      rfl
  | ok release =>
    simp only [plan_record_bind]
    by_cases hid : s.record.releaseId = some release.id
    · simp only [hid, if_true]
      exact plan_update s (.lastCheck site.now)
    · simp only [hid, if_false]
      exact plan_offering site s release

end Carried

theorem plan_script (settings : Settings) (site : Site) (s : Store) :
    (update settings site).plan s = (script settings site s).lower Deed.plan := by
  unfold update script
  cases settings.package.releaseTag with
  | none => rfl
  | some t =>
    cases settings.updates.channel with
    | stable =>
      by_cases ht : t = tag
      · simp only [ht, if_true]
        rfl
      · simp only [ht, if_false]
        rfl
    | nightly =>
      simp only [Server.plan_record_bind]
      by_cases hd : isDue s.record settings.updates.interval site.now = true
      · simp only [hd, if_true]
        exact plan_looking site s
      · simp only [hd]
        rfl

end Provision.Nightly
