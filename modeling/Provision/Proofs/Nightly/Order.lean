import Provision.Proofs.Nightly.Script
import Provision.Proofs.Server.Order

/-!
The order of the deeds of the nightly step, and what it may make of the record. A release comes to be on record when it
was fetched, agreed to, downloaded, installed and cleared away in this step; the editor is reloaded when that is on
record, and nothing is done after it.
-/

set_option autoImplicit false

namespace Provision.Nightly

open Server (checked)

abbrev Done := (d : Deed) × d.Reply

namespace Done

def isSaved : Done → Bool
  | ⟨.save _, .ok _⟩ => true
  | _ => false

end Done

def installation (site : Site) (release : Release) (url message action label : String) : List Done :=
  [⟨.fetch tag, .ok release⟩, ⟨.confirm message action, true⟩, ⟨.download url (packageOf site) none label, .ok ()⟩,
    ⟨.install (packageOf site), .ok ()⟩, ⟨.remove (packageOf site), .ok ()⟩]

/-- A release was fetched, its package was downloaded when the user had agreed, installed and removed, and then more was
done. -/
def Follows (site : Site) (release : Release) (more past : List Done) : Prop :=
  ∃ a message action label, release.asset? asset = some a ∧
    (installation site release a.url message action label ++ more).Sublist past

def Completed (site : Site) (past : List Done) (release : Release) : Prop := Follows site release [] past

/-- The release was installed, and then the record was saved with it and with the time. -/
def Recorded (site : Site) (s : Store) (past : List Done) (release : Release) : Prop :=
  Follows site release
    [⟨.save (released s release.id), .ok ()⟩, ⟨.save (checked (released s release.id) site.now), .ok ()⟩] past

/-- What may have become of the record behind the deeds of the past. -/
structure Earned (site : Site) (s : Store) (past : List Done) (t : Store) : Prop where
  path : t.path = s.path
  version : t.record.serverVersion = s.record.serverVersion
  release : t.record.releaseId = s.record.releaseId ∨
    ∃ release, t.record.releaseId = some release.id ∧ Completed site past release
  check : t.record.lastCheck = s.record.lastCheck ∨ (t.record.lastCheck = some site.now ∧
    ∃ release, (⟨.fetch tag, .ok release⟩ : Done) ∈ past ∧
      (s.record.releaseId = some release.id ∨ Completed site past release))

/-- A deed that may be done behind the deeds of the past. -/
structure Due (site : Site) (s : Store) (past : List Done) (d : Deed) : Prop where
  running : ∀ e ∈ past, e.1 ≠ .reload
  save : ∀ t, d = .save t → Earned site s past t
  download : ∀ url p mode label, d = .download url p mode label →
    ∃ message action, (⟨.confirm message action, true⟩ : Done) ∈ past
  install : ∀ p, d = .install p → p = packageOf site ∧
    ∃ url label, (⟨.download url p none label, .ok ()⟩ : Done) ∈ past
  reload : d = .reload → ∃ release, Recorded site s past release

/-- What is true of the result behind all that was done. -/
structure Ended (site : Site) (s : Store) (past : List Done) (r : Except Error Unit × Store) : Prop where
  earned : Earned site s past r.2
  reloads : (∃ release, Recorded site s past release) → ∃ e ∈ past, e.1 = .reload

section Heeds

variable {site : Site} {s t : Store} {past : List Done} {release : Release}

theorem Follows.mono {more past' : List Done} (h : Follows site release more past) (hpast : past.Sublist past') :
    Follows site release more past' := by
  obtain ⟨a, message, action, label, ha, hmore⟩ := h
  exact ⟨a, message, action, label, ha, hmore.trans hpast⟩

theorem Completed.snoc (h : Completed site past release) (e : Done) : Completed site (past ++ [e]) release :=
  Follows.mono h (List.sublist_append_left past [e])

theorem Completed.fetched (h : Completed site past release) : (⟨.fetch tag, .ok release⟩ : Done) ∈ past := by
  obtain ⟨a, message, action, label, -, hmore⟩ := h
  exact hmore.subset (by simp [installation])

theorem Earned.refl (site : Site) (s : Store) (past : List Done) : Earned site s past s := ⟨rfl, rfl, .inl rfl, .inl rfl⟩

theorem Earned.snoc (h : Earned site s past t) (e : Done) : Earned site s (past ++ [e]) t where
  path := h.path
  version := h.version
  release := h.release.imp_right fun ⟨release, hid, hc⟩ => ⟨release, hid, hc.snoc e⟩
  check := h.check.imp_right fun ⟨hnow, release, hf, hc⟩ =>
    ⟨hnow, release, List.mem_append_left _ hf, hc.imp_right fun hc => hc.snoc e⟩

theorem Completed.earned (h : Completed site past release) :
    Earned site s past (released s release.id) ∧ Earned site s past (checked (released s release.id) site.now) :=
  ⟨⟨rfl, rfl, .inr ⟨release, rfl, h⟩, .inl rfl⟩,
    ⟨rfl, rfl, .inr ⟨release, rfl, h⟩, .inr ⟨rfl, release, h.fetched, .inr h⟩⟩⟩

theorem not_recorded (h : past.countP Done.isSaved ≤ 1) : ¬ Recorded site s past release := by
  rintro ⟨a, message, action, label, -, hmore⟩
  have hcount := hmore.countP_le (p := Done.isSaved)
  rw [List.countP_append] at hcount
  have htwo : [(⟨.save (released s release.id), .ok ()⟩ : Done),
      ⟨.save (checked (released s release.id) site.now), .ok ()⟩].countP Done.isSaved = 2 := rfl
  omega

theorem Earned.ended {r : Except Error Unit × Store} (h : Earned site s past r.2) (hfew : past.countP Done.isSaved ≤ 1) :
    Ended site s past r := ⟨h, fun ⟨_, hr⟩ => absurd hr (not_recorded hfew)⟩

abbrev Keeps (site : Site) (s : Store) (past : List Done) (p : Script) : Prop :=
  p.Heeds (I := deeds) (Due site s) (Ended site s) past

def Running (past : List Done) : Prop := ∀ e ∈ past, e.1 ≠ .reload

theorem Running.snoc (h : Running past) {e : Done} (he : e.1 ≠ .reload) : Running (past ++ [e]) := by
  intro e' he'
  obtain he' | he' := List.mem_append.mp he'
  · exact h e' he'
  · obtain rfl := List.mem_singleton.mp he'
    exact he

theorem Running.due_log (h : Running past) (level : Log.Level) (text : String) : Due site s past (.log level text) :=
  ⟨h, by simp, by simp, by simp, by simp⟩

theorem keeps_saving {next : Script} (h : Running past) (he : Earned site s past t) (hfew : past.countP Done.isSaved ≤ 1)
    (hnext : Keeps site s (past ++ [⟨.save t, .ok ()⟩]) next) : Keeps site s past (Script.saving t next) := by
  refine ⟨⟨h, ?_, nofun, nofun, nofun⟩, fun r => ?_⟩
  · rintro t' ⟨⟩
    exact he
  · cases r with
    | ok u => exact hnext
    | error e =>
      refine (he.snoc _).ended ?_
      rw [List.countP_append]
      exact hfew

theorem keeps_recording (h : Running past) (hc : Completed site past release) (hnone : past.countP Done.isSaved = 0) :
    Keeps site s past (Script.recording site release.id s) := by
  have h₁ := h.snoc (e := ⟨.save (released s release.id), .ok ()⟩) nofun
  have hc₁ := hc.snoc ⟨.save (released s release.id), .ok ()⟩
  refine keeps_saving h hc.earned.1 (by omega) (keeps_saving h₁ hc₁.earned.2 ?_ ?_)
  · rw [List.countP_append, hnone]
    exact Nat.le_refl 1
  have h₂ := h₁.snoc (e := ⟨.save (checked (released s release.id) site.now), .ok ()⟩) nofun
  have hc₂ := hc₁.snoc ⟨.save (checked (released s release.id) site.now), .ok ()⟩
  refine ⟨h₂.due_log _ _, fun u => ?_⟩
  have hrecorded : Recorded site s (past ++ [⟨.save (released s release.id), .ok ()⟩] ++
      [⟨.save (checked (released s release.id) site.now), .ok ()⟩]) release := by
    obtain ⟨a, message, action, label, ha, hmore⟩ := hc
    refine ⟨a, message, action, label, ha, ?_⟩
    rw [List.append_nil] at hmore
    rw [List.append_assoc]
    exact hmore.append (List.Sublist.refl _)
  have hlogged := hrecorded.mono (List.sublist_append_left _
    [⟨.log .info ("Installed nightly extension build " ++ toString release.id.toNat), u⟩])
  refine ⟨⟨h₂.snoc (by simp), by simp, by simp, by simp, fun _ => ⟨release, hlogged⟩⟩, fun u => ?_⟩
  exact ⟨((hc₂.snoc _).snoc _).earned.2, fun _ => ⟨_, List.mem_append_right _ (List.mem_singleton_self _), rfl⟩⟩

theorem keeps_clearing {a : Asset} (ha : release.asset? asset = some a) (message action label : String)
    (installed : Except (List String) Unit) :
    Keeps site s [⟨.fetch tag, .ok release⟩, ⟨.confirm message action, true⟩,
      ⟨.download a.url (packageOf site) none label, .ok ()⟩, ⟨.install (packageOf site), installed⟩]
      (Script.clearing site release.id s installed) := by
  refine ⟨⟨by simp, by simp, by simp, by simp, by simp⟩, fun r => ?_⟩
  cases r with
  | error e => exact (Earned.refl site s _).ended (Nat.zero_le 1)
  | ok u =>
    cases installed with
    | error chain => exact (Earned.refl site s _).ended (Nat.zero_le 1)
    | ok u =>
      have hc : Completed site (installation site release a.url message action label) release :=
        ⟨a, message, action, label, ha, by simp⟩
      exact keeps_recording (by simp [Running]) hc rfl

theorem keeps_installing {a : Asset} (ha : release.asset? asset = some a) (message action : String) :
    Keeps site s [⟨.fetch tag, .ok release⟩, ⟨.confirm message action, true⟩]
      (Script.installing site a.url release.id s) := by
  refine ⟨⟨by simp, by simp, fun _ _ _ _ _ => ⟨message, action, by simp⟩, by simp, by simp⟩, fun r => ?_⟩
  cases r with
  | error e => exact (Earned.refl site s _).ended (Nat.zero_le 1)
  | ok u =>
    refine ⟨⟨by simp, by simp, by simp, ?_, by simp⟩, keeps_clearing ha message action _⟩
    rintro p ⟨⟩
    exact ⟨rfl, a.url, "Downloading rust-analyzer extension", by simp⟩

theorem keeps_offering (release : Release) :
    Keeps site s [⟨.fetch tag, .ok release⟩] (Script.offering site release s) := by
  refine ⟨⟨by simp, by simp, by simp, by simp, by simp⟩, fun agreed => ?_⟩
  cases agreed with
  | false => exact (Earned.refl site s _).ended (Nat.zero_le 1)
  | true =>
    simp only []
    cases ha : release.asset? asset with
    | none => exact (Earned.refl site s _).ended (Nat.zero_le 1)
    | some a => exact keeps_installing ha _ _

theorem keeps_lamenting (e : Error) : Keeps site s [⟨.fetch tag, .error e⟩] (Script.lamenting e s) := by
  refine ⟨Running.due_log (by simp [Running]) _ _, fun u => ?_⟩
  by_cases hn : s.record.releaseId.isNone = true
  · simp only [hn, if_true]
    exact ⟨⟨by simp, by simp, by simp, by simp, by simp⟩, fun u => (Earned.refl site s _).ended (Nat.zero_le 1)⟩
  · simp only [hn, if_false, Bool.false_eq_true]
    exact (Earned.refl site s _).ended (Nat.zero_le 1)

theorem keeps_looking : Keeps site s [] (Script.looking site s) := by
  refine ⟨⟨by simp, by simp, by simp, by simp, by simp⟩, fun r => ?_⟩
  cases r with
  | error e => exact keeps_lamenting e
  | ok release =>
    simp only []
    split
    · rename_i hid
      have he : Earned site s [⟨.fetch tag, .ok release⟩] (checked s site.now) :=
        ⟨rfl, rfl, .inl rfl, .inr ⟨rfl, release, by simp, .inl hid⟩⟩
      exact keeps_saving (by simp [Running]) he (Nat.zero_le 1) ((he.snoc _).ended (Nat.le_refl 1))
    · exact keeps_offering release

theorem keeps_script (settings : Settings) (site : Site) (s : Store) : Keeps site s [] (script settings site s) := by
  have hnil : ∀ r : Except Error Unit, Ended site s [] (r, s) := fun r => (Earned.refl site s []).ended (Nat.zero_le 1)
  unfold script
  cases settings.package.releaseTag with
  | none => exact hnil _
  | some t =>
    cases settings.updates.channel with
    | stable =>
      simp only []
      split
      · exact ⟨⟨by simp, by simp, by simp, by simp, by simp⟩, fun u => (Earned.refl site s _).ended (Nat.zero_le 1)⟩
      · exact hnil _
    | nightly =>
      simp only []
      split
      · exact keeps_looking
      · exact hnil _

end Heeds

end Provision.Nightly
