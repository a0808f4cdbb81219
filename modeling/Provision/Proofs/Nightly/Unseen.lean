import Provision.Proofs.Lodging.Even
import Provision.Proofs.Session.World

set_option autoImplicit false

namespace Provision

/-- Stores that one cannot tell apart who looks for the server. -/
def Store.Kin (s s' : Store) : Prop := s'.path = s.path ∧ s'.record.serverVersion = s.record.serverVersion

namespace Nightly

variable {L : Lodging} {settings : Settings} {site : Site} {s s' : Store}

/-- The deeds for the package, and the saves of a record of a version. -/
def Deed.Unseen (L : Lodging) (version : Option String) : Deed → Prop
  | .save s => s.path = L.statePath ∧ s.record.serverVersion = version
  | .remove p => p = L.package
  | .download _ dest _ _ => dest = L.package
  | _ => True

section Script

/-- The script does deeds that are not seen, and ends with a store that cannot be told from the first one. -/
abbrev Hides (L : Lodging) (s : Store) (p : Script) : Prop :=
  p.Within (I := deeds) (Deed.Unseen L s.record.serverVersion) fun r => s.Kin r.2

theorem hides_orFail {ε : Type} {wrap : ε → Error} {next : Script} (hk : s.Kin s') (hn : Hides L s next)
    (r : Except ε Unit) : Hides L s (Script.orFail s' wrap next r) := by
  cases r with
  | error e => exact hk
  | ok u => exact hn

theorem hides_saving (hs : s.path = L.statePath) (hk : s.Kin s') {next : Script} (hn : Hides L s next) :
    Hides L s (Script.saving s' next) :=
  ⟨⟨hk.1.trans hs, hk.2⟩, hides_orFail hk hn⟩

variable (hs : s.path = L.statePath) (hsite : site.storage = L.storage)

include hs

theorem hides_recording (id : UInt64) : Hides L s (Script.recording site id s) := by
  have hreleased : s.Kin (released s id) := ⟨rfl, rfl⟩
  have hchecked : s.Kin (Server.checked (released s id) site.now) := ⟨rfl, rfl⟩
  refine hides_saving hs hreleased (hides_saving hs hchecked ?_)
  exact ⟨trivial, fun _ => ⟨trivial, fun _ => hchecked⟩⟩

include hsite

theorem hides_installing (url : String) (id : UInt64) : Hides L s (Script.installing site url id s) := by
  have hkin : s.Kin s := ⟨rfl, rfl⟩
  have hpackage := packageOf_eq hsite
  have hrecording : ∀ installed, Hides L s (Script.orFail s .extension (Script.recording site id s) installed) :=
    hides_orFail hkin (hides_recording hs id)
  have hclearing : ∀ installed, Hides L s (Script.clearing site id s installed) := fun installed =>
    ⟨hpackage, hides_orFail hkin (hrecording installed)⟩
  have hinstall : Hides L s (.ask (I := deeds) (.install (packageOf site)) (Script.clearing site id s)) :=
    ⟨trivial, hclearing⟩
  exact ⟨hpackage, hides_orFail hkin hinstall⟩

theorem hides_offering (release : Release) : Hides L s (Script.offering site release s) := by
  refine ⟨trivial, fun agreed => ?_⟩
  cases agreed with
  | false => exact ⟨rfl, rfl⟩
  | true =>
    dsimp only
    cases release.asset? asset with
    | none => exact ⟨rfl, rfl⟩
    | some a => exact hides_installing hs hsite a.url release.id

theorem hides_looking : Hides L s (Script.looking site s) := by
  refine ⟨trivial, fun r => ?_⟩
  cases r with
  | error e =>
    refine ⟨trivial, fun _ => ?_⟩
    dsimp only
    split
    · exact ⟨trivial, fun _ => ⟨rfl, rfl⟩⟩
    · exact ⟨rfl, rfl⟩
  | ok release =>
    dsimp only
    split
    · have hchecked : s.Kin (Server.checked s site.now) := ⟨rfl, rfl⟩
      exact hides_saving hs hchecked hchecked
    · exact hides_offering hs hsite release

theorem hides_script : Hides L s (script settings site s) := by
  unfold script
  split
  · exact ⟨rfl, rfl⟩
  · split
    · exact ⟨trivial, fun _ => ⟨rfl, rfl⟩⟩
    · exact ⟨rfl, rfl⟩
  · split
    · exact hides_looking hs hsite
    · exact ⟨rfl, rfl⟩

end Script

end Nightly

namespace World

variable {W : World} {L : Lodging} {σ : Sight} {eye : Path → Option Node} {d d' : Disk} {es : List (Event setup Disk)}

/-- What one sees who looks for the server: the sight of the directory, and what the other paths lead to. -/
structure Sees (W : World) (L : Lodging) (σ : Sight) (eye : Path → Option Node) (d : Disk) : Prop where
  looks : L.Looks σ d
  steady : ∀ q ∈ W.others, L.Steady q d
  seen : ∀ q ∈ W.others, L.seen q d = eye q

theorem Sees.left (h : W.Sees L σ eye d) (hl : L.Leaves W.others d d') : W.Sees L σ eye d' where
  looks := h.looks.left hl
  steady := fun q hq => (hl.others q hq (h.steady q hq)).1
  seen := fun q hq => (hl.others q hq (h.steady q hq)).2.trans (h.seen q hq)

theorem Sees.sprouted (h : W.Sees L σ eye d) (hs : L.Looks σ d' ∧ L.Sprouts d d') : W.Sees L σ eye d' where
  looks := hs.1
  steady := fun q hq => ((h.steady q hq).sprouted hs.2).1
  seen := fun q hq => ((h.steady q hq).sprouted hs.2).2.trans (h.seen q hq)

theorem Sees.deed (h : W.Sees L σ eye d) {deed : Nightly.Deed} (hdeed : deed.Unseen L σ.version)
    {r : deed.Reply} (hc : deed.plan.Course (W.law L) d es (some r) d') : W.Sees L σ eye d' := by
  cases deed with
  | warn message => exact h.left hc.of_call_some
  | showError message => exact h.left hc.of_call_some
  | reload => exact h.left hc.of_call_some
  | confirm message action => exact h.left hc.of_call_some.2
  | install package => exact h.left hc.of_call_some.2
  | fetch tag =>
    obtain ⟨-, rfl⟩ := hc.of_call_some
    exact h
  | download url dest mode label =>
    obtain rfl : dest = L.package := hdeed
    exact h.sprouted (h.looks.download_package hc.of_call_some.2)
  | remove p =>
    obtain rfl : p = L.package := hdeed
    have hsteps := (Server.Deed.uses_remove L.package)
    refine hc.keeps hsteps ?_ h
    rintro c t r t' rfl ht hl
    obtain ⟨⟨e, -, rfl⟩ | ⟨u, -, hu⟩, -⟩ := law_kernel hl
    · exact ht
    · exact ht.sprouted (ht.looks.unlink_package hu)
  | save s =>
    obtain ⟨es', hc⟩ := course_kernel hc
    exact h.sprouted (h.looks.save hdeed.1 hdeed.2 hc)
  | log level text =>
    obtain ⟨es', hc⟩ := course_kernel hc
    obtain rfl : d' = d := hc.of_call_some
    exact h

theorem Sees.nightly (h : W.Sees L σ eye d) {settings : Settings} {site : Site} (hsite : site.storage = L.storage)
    {s : Store} (hs : s.path = L.statePath) (hv : s.record.serverVersion = σ.version)
    {r : Except Error Unit × Store} (hc : ((Nightly.update settings site).plan s).Course (W.law L) d es (some r) d') :
    W.Sees L σ eye d' ∧ s.Kin r.2 := by
  rw [Nightly.plan_script] at hc
  refine hc.within (Nightly.hides_script hs hsite) (fun deed t es r t' hdeed ht hc => ?_) h
  rw [hv] at hdeed
  exact ht.deed hdeed hc

end World

end Provision
