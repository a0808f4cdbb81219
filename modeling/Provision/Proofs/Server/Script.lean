import Provision.Server
import Provision.Proofs.Course

/-!
Finding the server as a script of deeds. A deed is one of the things that are done for the server as a
whole: a look at the disk, a save of the record, a question, a fetch, a removal, a download, a patch. Each
deed is carried out by calls of its own, and the script says which deed comes after which answer.
-/

set_option autoImplicit false

namespace Provision.Server

inductive Deed where
  | look (dest : Path)
  | save (s : Store)
  | confirm (message action : String)
  | fetch (tag : String)
  | remove (dest : Path)
  | download (url : String) (dest : Path) (mode : Option Nat) (label : String)
  | patch (tool dest : Path)
  | log (text : String)

namespace Deed

def Reply : Deed → Type
  | .look _ => Bool
  | .save _ => Except Error Unit
  | .confirm _ _ => Bool
  | .fetch _ => Except Error Release
  | .remove _ => Except Fault Unit
  | .download _ _ _ _ => Except Error Unit
  | .patch _ _ => Except Error Unit
  | .log _ => Unit

def plan : (d : Deed) → Plan setup d.Reply
  | .look dest => Setup.ofKernel (Kernel.exists_ dest)
  | .save s => Setup.ofKernel s.save.plan
  | .confirm message action => Setup.confirm message action
  | .fetch tag => Setup.fetch tag
  | .remove dest => Setup.ofKernel (Setup.removeStale dest)
  | .download url dest mode label => Setup.download url dest mode label
  | .patch tool dest => Setup.ofKernel (Patch.patch tool dest).plan
  | .log text => Setup.ofKernel (Kernel.log .info .server text)

theorem uses_remove (dest : Path) : (plan (.remove dest)).Uses (I := setup) fun c => c = .kernel (.unlink dest) := by
  refine Setup.uses_ofKernel ⟨rfl, fun r => ?_⟩
  cases r with
  | ok u => exact trivial
  | error e =>
    change Plan.Uses _ (if e.isMissing = true then Plan.done (Except.ok ()) else Plan.done (Except.error e))
    by_cases he : e.isMissing = true
    · rw [if_pos he]
      exact trivial
    · rw [if_neg he]
      exact trivial

end Deed

abbrev deeds : Interface := ⟨Deed, Deed.Reply⟩

abbrev Script := Plan deeds (Except Error Path × Store)

def stamped (s : Store) (version : Option String) : Store :=
  { s with record := { s.record with serverVersion := version } }

def checked (s : Store) (now : Instant) : Store := { s with record := { s.record with lastCheck := some now } }

namespace Script

/-- Goes on after a success, and ends with the error after a failure. -/
def orFail {ε : Type} (s : Store) (wrap : ε → Error) (next : Script) : Except ε Unit → Script
  | .ok () => next
  | .error e => .done (.error (wrap e), s)

def saving (s : Store) (next : Script) : Script := .ask (I := deeds) (.save s) (orFail s id next)

def recording (settings : Settings) (site : Site) (dest : Path) (s : Store) : Script :=
  let s₁ := stamped s (some settings.package.version)
  let s₂ := checked s₁ site.now
  saving s₁ (saving s₂ (.ask (I := deeds)
    (.log ("Installed rust-analyzer " ++ settings.package.version ++ " at " ++ dest.text))
    fun _ => .done (.ok dest, s₂)))

def patching (settings : Settings) (site : Site) (tool dest : Path) (s : Store) : Script :=
  if site.patches then .ask (I := deeds) (.patch tool dest) (orFail s id (recording settings site dest s))
  else recording settings site dest s

def replacing (settings : Settings) (site : Site) (tool : Path) (url : String) (dest : Path) (s : Store) : Script :=
  .ask (I := deeds) (.remove dest) (orFail s (.io ("failed to remove " ++ dest.text))
    (.ask (I := deeds) (.download url dest (some executableMode) "Downloading rust-analyzer server")
      (orFail s id (patching settings site tool dest s))))

def installing (settings : Settings) (site : Site) (tool : Path) (tag binary : String) (dest : Path) (s : Store) :
    Script :=
  .ask (I := deeds) (.fetch tag) fun
    | .error e => .done (.error e, s)
    | .ok release =>
      match release.asset? binary with
      | none => .done (.error (.malformed tag binary), s)
      | some asset => replacing settings site tool asset.url dest s

def deciding (settings : Settings) (site : Site) (tool : Path) (tag binary : String) (dest : Path) (s : Store) :
    Script :=
  if s.record.serverVersion = some settings.package.version then .done (.ok dest, s)
  else if settings.updates.ask then
    .ask (I := deeds) (.confirm
      ("Language server version " ++ settings.package.version ++ " for rust-analyzer is not installed.") "Download now")
      fun
        | true => installing settings site tool tag binary dest s
        | false =>
          .ask (I := deeds) (.log ("Server download declined, keeping " ++ dest.text)) fun _ => .done (.ok dest, s)
  else installing settings site tool tag binary dest s

def looking (settings : Settings) (site : Site) (tool : Path) (tag binary : String) (dest : Path) (s : Store) :
    Script :=
  .ask (I := deeds) (.look dest) fun
    | true => deciding settings site tool tag binary dest s
    | false =>
      if s.record.serverVersion.isSome then
        saving (stamped s none) (deciding settings site tool tag binary dest (stamped s none))
      else deciding settings site tool tag binary dest s

end Script

def placeOf (site : Site) (platform : Platform) : Path := site.storage / Path.ofString platform.binary

def script (settings : Settings) (site : Site) (tool : Path) (s : Store) : Script :=
  match site.serverPath, settings.package.releaseTag with
  | some path, _ => .done (.ok (Path.expandHome path site.home), s)
  | none, none => .done (.ok systemServer, s)
  | none, some tag =>
    match Platform.detect site.arch site.os with
    | .error e => .done (.error e, s)
    | .ok platform => Script.looking settings site tool tag platform.binary (placeOf site platform) s

section Job

open Setup

variable {α β φ : Type} (s : Store)

theorem plan_ofPlan_bind (p : Plan setup α) (f : α → Job β) :
    (Job.ofPlan p >>= f).plan s = p.bind fun a => (f a).plan s := by
  show Plan.bind (Plan.bind p _) _ = _
  rw [Plan.bind_bind]
  rfl

theorem plan_ofOutcome_bind (p : Plan setup (Except φ α)) (wrap : φ → Error) (f : α → Job β) :
    (Job.ofOutcome p wrap >>= f).plan s = p.bind fun
      | .ok a => (f a).plan s
      | .error e => .done (.error (wrap e), s) := by
  show Plan.bind (Plan.bind p _) _ = _
  rw [Plan.bind_bind]
  exact Plan.bind_cases (fun _ => rfl) fun _ => rfl

theorem plan_update_bind (c : Store.Change) (f : Unit → Job β) :
    (Job.update c >>= f).plan s =
      (Setup.ofKernel ({ s with record := c.apply s.record } : Store).save.plan).bind fun
        | .ok () => (f ()).plan { s with record := c.apply s.record }
        | .error e => .done (.error e, { s with record := c.apply s.record }) := by
  have h := Plan.lower_bind (fun c => Plan.call (I := setup) (.kernel c))
    ({ s with record := c.apply s.record } : Store).save.plan
    fun r => .done (r, ({ s with record := c.apply s.record } : Store))
  show Plan.bind (Setup.ofKernel (Plan.bind _ _)) _ = _
  rw [Setup.ofKernel]
  refine (congrArg (fun p => Plan.bind p _) h).trans ?_
  rw [Plan.bind_bind]
  exact Plan.bind_cases (fun _ => rfl) fun _ => rfl

theorem plan_record_bind (f : Record → Job β) : (Job.record >>= f).plan s = (f s.record).plan s := rfl

theorem plan_pure (a : α) : (pure a : Job α).plan s = .done (.ok a, s) := rfl

end Job

section Carried

variable (settings : Settings) (site : Site) (tool : Path) (tag binary : String) (dest : Path) (s : Store)

theorem plan_recording :
    (do
      Setup.Job.update (.serverVersion (some settings.package.version))
      Setup.Job.update (.lastCheck site.now)
      Setup.Job.ofKernel (Kernel.log .info .server
        ("Installed rust-analyzer " ++ settings.package.version ++ " at " ++ dest.text))
      return dest : Setup.Job Path).plan s = (Script.recording settings site dest s).lower Deed.plan := by
  simp only [plan_update_bind, Setup.Job.ofKernel, plan_ofPlan_bind, plan_pure, Script.recording, Script.saving,
    Plan.lower, Deed.plan]
  refine Plan.bind_cases (fun _ => rfl) fun u => ?_
  simp only [Script.orFail, Plan.lower, Deed.plan]
  exact Plan.bind_cases (fun _ => rfl) fun _ => rfl

theorem plan_install :
    (do install settings site tool tag binary dest; return dest : Setup.Job Path).plan s =
      (Script.installing settings site tool tag binary dest s).lower Deed.plan := by
  simp only [install, bind_assoc, plan_ofOutcome_bind, Script.installing, Plan.lower, Deed.plan]
  refine Plan.bind_cases (fun _ => rfl) fun release => ?_
  dsimp only
  cases h : release.asset? binary with
  | none => rfl
  | some asset =>
    simp only [bind_assoc, plan_ofOutcome_bind, Script.replacing, Plan.lower, Deed.plan]
    refine Plan.bind_cases (fun _ => rfl) fun u => ?_
    simp only [Script.orFail, Plan.lower, Deed.plan]
    refine Plan.bind_cases (fun _ => rfl) fun u => ?_
    simp only [Script.patching]
    by_cases hp : site.patches = true
    · simp only [hp, if_true, bind_assoc, Setup.Job.ofWork, plan_ofOutcome_bind, Plan.lower, Deed.plan]
      refine Plan.bind_cases (fun _ => rfl) fun u => ?_
      exact plan_recording settings site dest s
    · simp only [hp, if_false, Bool.false_eq_true, bind_assoc]
      exact plan_recording settings site dest s

theorem plan_deciding :
    (do
      let r ← Setup.Job.record
      if r.serverVersion = some settings.package.version then return dest
      if ← permitted settings then
        install settings site tool tag binary dest
      else
        Setup.Job.ofKernel (Kernel.log .info .server ("Server download declined, keeping " ++ dest.text))
      return dest : Setup.Job Path).plan s =
        (Script.deciding settings site tool tag binary dest s).lower Deed.plan := by
  simp only [plan_record_bind, Script.deciding]
  by_cases hv : s.record.serverVersion = some settings.package.version
  · simp only [hv, if_true]
    rfl
  · simp only [hv, if_false, permitted]
    have hi := plan_install settings site tool tag binary dest s
    by_cases ha : settings.updates.ask = true
    · simp only [ha, if_true, plan_ofPlan_bind, Plan.lower, Deed.plan]
      congr 1
      funext r
      cases r with
      | false => rfl
      | true => exact hi
    · simp only [ha, if_false, if_true, Bool.false_eq_true, pure_bind]
      exact hi

end Carried

theorem plan_get (settings : Settings) (site : Site) (tool : Path) (s : Store) :
    (get settings site tool).plan s = (script settings site tool s).lower Deed.plan := by
  unfold get script
  cases site.serverPath with
  | some path => rfl
  | none =>
    cases settings.package.releaseTag with
    | none => rfl
    | some tag =>
      simp only [ofRelease]
      cases Platform.detect site.arch site.os with
      | error e => rfl
      | ok platform =>
        have hd := plan_deciding settings site tool tag platform.binary (placeOf site platform)
        simp only [ofRelease.liftExcept, pure_bind, forgetMissing, bind_assoc, Setup.Job.ofKernel,
          plan_ofPlan_bind, plan_record_bind, Script.looking, Plan.lower, Deed.plan]
        simp only [placeOf] at hd ⊢
        congr 1
        funext there
        cases there with
        | true => exact hd s
        | false =>
          by_cases hs : s.record.serverVersion.isSome = true
          · simp only [hs, Bool.not_false, Bool.and_self, if_true, plan_update_bind, Script.saving, Plan.lower, Deed.plan]
            refine Plan.bind_cases (fun _ => rfl) fun u => ?_
            exact hd (stamped s none)
          · simp only [hs, Bool.not_false, Bool.and_false, Bool.false_eq_true, if_false, pure_bind]
            exact hd s

end Provision.Server
