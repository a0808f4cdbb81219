import Provision.Proofs.Server.Script

set_option autoImplicit false

namespace Provision

namespace Plan

variable {I : Interface} {α σ : Type}

/-- Every call of a plan is in order behind the calls that came before it, and so is its end. -/
def Heeds (due : List ((c : I.Call) × I.Reply c) → I.Call → Prop)
    (ends : List ((c : I.Call) × I.Reply c) → α → Prop) :
    List ((c : I.Call) × I.Reply c) → Plan I α → Prop
  | past, .done a => ends past a
  | past, .ask c k => due past c ∧ ∀ r, (k r).Heeds due ends (past ++ [⟨c, r⟩])

variable {due : List ((c : I.Call) × I.Reply c) → I.Call → Prop}
  {ends : List ((c : I.Call) × I.Reply c) → α → Prop} {past : List ((c : I.Call) × I.Reply c)}

theorem Heeds.trace {p : Plan I α} (h : p.Heeds due ends past) (serve : (c : I.Call) → σ → I.Reply c × σ) (x : σ) :
    ∀ before e after, p.trace serve x = before ++ e :: after → due (past ++ before) e.1 := by
  induction p generalizing past x with
  | done a =>
    intro before e after he
    simp [Plan.trace] at he
  | ask c k ih =>
    intro before e after he
    cases before with
    | nil =>
      simp only [Plan.trace, List.nil_append, List.cons.injEq] at he
      obtain ⟨rfl, -⟩ := he
      simpa using h.1
    | cons b before =>
      simp only [Plan.trace, List.cons_append, List.cons.injEq] at he
      obtain ⟨rfl, he⟩ := he
      have hk := ih (serve c x).1 (h.2 _) (serve c x).2 before e after he
      simpa using hk

theorem Heeds.run {p : Plan I α} (h : p.Heeds due ends past) (serve : (c : I.Call) → σ → I.Reply c × σ) (x : σ) :
    ends (past ++ p.trace serve x) (p.run serve x).1 := by
  induction p generalizing past x with
  | done a => simpa [Plan.trace, Plan.run, Heeds] using h
  | ask c k ih =>
    have hk := ih (serve c x).1 (h.2 _) (serve c x).2
    simpa [Plan.trace, Plan.run] using hk

end Plan

namespace Server

abbrev Done := (d : Deed) × d.Reply

namespace Deed

def isConfirm : Deed → Bool
  | .confirm _ _ => true
  | _ => false

def isFetch : Deed → Bool
  | .fetch _ => true
  | _ => false

def isDownload : Deed → Bool
  | .download _ _ _ _ => true
  | _ => false

def isPatch : Deed → Bool
  | .patch _ _ => true
  | _ => false

def rare : List (Deed → Bool) := [isConfirm, isFetch, isDownload, isPatch]

theorem forall_rare {P : (Deed → Bool) → Prop} :
    (∀ kind ∈ rare, P kind) ↔ P isConfirm ∧ P isFetch ∧ P isDownload ∧ P isPatch := by
  simp [rare]

/-- What went wrong with a deed. A release without the asset that was looked for is a failure, too. -/
def fault? (site : Site) : (d : Deed) → d.Reply → Option Error
  | .save _, .error e => some e
  | .fetch _, .error e => some e
  | .fetch tag, .ok release =>
    match Platform.of? site.arch site.os with
    | none => none
    | some platform =>
      match release.asset? platform.binary with
      | none => some (.malformed tag platform.binary)
      | some _ => none
  | .remove dest, .error e => some (.io ("failed to remove " ++ dest.text) e)
  | .download _ _ _ _, .error e => some e
  | .patch _ _, .error e => some e
  | _, _ => none

end Deed

/-- The user has agreed to a download, if the settings say to ask. -/
def Agreed (settings : Settings) (past : List Done) : Prop :=
  settings.updates.ask = true → ∃ message action, (⟨.confirm message action, true⟩ : Done) ∈ past

/-- A release of the wanted tag was fetched, and this is the first of its assets that is named after the binary. -/
def Chosen (settings : Settings) (platform : Platform) (past : List Done) (asset : Asset) : Prop :=
  ∃ tag release before after, settings.package.releaseTag = some tag ∧
    (⟨.fetch tag, .ok release⟩ : Done) ∈ past ∧ release.assets = before ++ asset :: after ∧
    asset.name = platform.binary ∧ ∀ a ∈ before, a.name ≠ platform.binary

/-- The binary was downloaded, and patched where it has to be. -/
def Ready (site : Site) (past : List Done) : Prop :=
  ∃ platform, Platform.detect site.arch site.os = .ok platform ∧
    (∃ url mode label, (⟨.download url (placeOf site platform) mode label, .ok ()⟩ : Done) ∈ past) ∧
    (site.patches = true → ∃ tool, (⟨.patch tool (placeOf site platform), .ok ()⟩ : Done) ∈ past)

/-- A deed that may be done behind the deeds of the past. -/
structure Due (settings : Settings) (site : Site) (past : List Done) (d : Deed) : Prop where
  unfailed : ∀ e ∈ past, e.1.fault? site e.2 = none
  single : ∀ kind ∈ Deed.rare, kind d = true → ∀ e ∈ past, kind e.1 = false
  agreed : d.isFetch = true ∨ d.isDownload = true → Agreed settings past
  remove : ∀ p, d = .remove p → ∃ platform asset, Platform.detect site.arch site.os = .ok platform ∧
    p = placeOf site platform ∧ Chosen settings platform past asset
  download : ∀ url p mode label, d = .download url p mode label → ∃ platform asset,
    Platform.detect site.arch site.os = .ok platform ∧ p = placeOf site platform ∧
      Chosen settings platform past asset ∧ url = asset.url ∧ mode = some 0o755
  save : ∀ s w, d = .save s → s.record.serverVersion = some w → w = settings.package.version ∧ Ready site past

/-- What is true of the result behind all that was done. -/
structure Ended (settings : Settings) (site : Site) (s : Store) (past : List Done)
    (r : Except Error Path × Store) : Prop where
  failed : ∀ d ∈ past, ∀ e, d.1.fault? site d.2 = some e → r.1 = .error e
  version : ∀ w, r.2.record.serverVersion = some w →
    s.record.serverVersion = some w ∨ (w = settings.package.version ∧ Ready site past)

section Heeds

variable {settings : Settings} {site : Site} {s₀ s : Store} {past : List Done} {tool dest : Path}

abbrev Keeps (settings : Settings) (site : Site) (s₀ : Store) (past : List Done) (p : Script) : Prop :=
  p.Heeds (I := deeds) (Due settings site) (Ended settings site s₀) past

def Unfailed (site : Site) (past : List Done) : Prop := ∀ e ∈ past, e.1.fault? site e.2 = none

theorem Unfailed.snoc (h : Unfailed site past) {d : Deed} {r : d.Reply} (hd : d.fault? site r = none) :
    Unfailed site (past ++ [⟨d, r⟩]) := by
  intro e he
  obtain he | he := List.mem_append.mp he
  · exact h e he
  · obtain rfl := List.mem_singleton.mp he
    exact hd

theorem Agreed.snoc (h : Agreed settings past) (e : Done) : Agreed settings (past ++ [e]) := by
  intro ha
  obtain ⟨m, a, hm⟩ := h ha
  exact ⟨m, a, List.mem_append_left _ hm⟩

theorem Chosen.snoc {platform : Platform} {asset : Asset} (h : Chosen settings platform past asset) (e : Done) :
    Chosen settings platform (past ++ [e]) asset := by
  obtain ⟨tag, release, before, after, ht, hm, h⟩ := h
  exact ⟨tag, release, before, after, ht, List.mem_append_left _ hm, h⟩

theorem Ready.snoc (h : Ready site past) (e : Done) : Ready site (past ++ [e]) := by
  obtain ⟨platform, hplat, ⟨url, mode, label, hm⟩, hp⟩ := h
  refine ⟨platform, hplat, ⟨url, mode, label, List.mem_append_left _ hm⟩, fun hs => ?_⟩
  obtain ⟨tool, hm⟩ := hp hs
  exact ⟨tool, List.mem_append_left _ hm⟩

theorem Unfailed.ended (h : Unfailed site past) {r : Except Error Path × Store}
    (hv : ∀ w, r.2.record.serverVersion = some w →
      s₀.record.serverVersion = some w ∨ (w = settings.package.version ∧ Ready site past)) :
    Ended settings site s₀ past r where
  failed := by
    intro d hd e he
    rw [h d hd] at he
    cases he
  version := hv

theorem Unfailed.endedBy (h : Unfailed site past) {d : Deed} {r : d.Reply} {e : Error}
    (hd : d.fault? site r = some e)
    (hv : ∀ w, s.record.serverVersion = some w →
      s₀.record.serverVersion = some w ∨ (w = settings.package.version ∧ Ready site past)) :
    Ended settings site s₀ (past ++ [⟨d, r⟩]) (.error e, s) where
  failed := by
    intro d' hd' e' he'
    obtain hm | hm := List.mem_append.mp hd'
    · rw [h d' hm] at he'
      cases he'
    · obtain rfl := List.mem_singleton.mp hm
      rw [hd] at he'
      cases he'
      rfl
  version := by
    intro w hw
    obtain h | ⟨h, hr⟩ := hv w hw
    · exact .inl h
    · exact .inr ⟨h, hr.snoc _⟩

theorem Unfailed.due_log (h : Unfailed site past) (text : String) : Due settings site past (.log text) where
  unfailed := h
  single := Deed.forall_rare.mpr ⟨nofun, nofun, nofun, nofun⟩
  agreed := by simp [Deed.isFetch, Deed.isDownload]
  remove := by simp
  download := by simp
  save := by simp

theorem Unfailed.due_save (h : Unfailed site past)
    (hv : ∀ w, s.record.serverVersion = some w → w = settings.package.version ∧ Ready site past) :
    Due settings site past (.save s) where
  unfailed := h
  single := Deed.forall_rare.mpr ⟨nofun, nofun, nofun, nofun⟩
  agreed := by simp [Deed.isFetch, Deed.isDownload]
  remove := by simp
  download := by simp
  save := by
    rintro s' w ⟨⟩ hw
    exact hv w hw

theorem keeps_saving {next : Script} (h : Unfailed site past)
    (hv : ∀ w, s.record.serverVersion = some w → w = settings.package.version ∧ Ready site past)
    (hnext : Keeps settings site s₀ (past ++ [⟨.save s, .ok ()⟩]) next) :
    Keeps settings site s₀ past (Script.saving s next) := by
  refine ⟨h.due_save hv, fun r => ?_⟩
  cases r with
  | ok u => exact hnext
  | error e => exact h.endedBy rfl fun w hw => .inr (hv w hw)

theorem keeps_recording (h : Unfailed site past) (hr : Ready site past) :
    Keeps settings site s₀ past (Script.recording settings site dest s) := by
  have hv : ∀ w, some settings.package.version = some w → w = settings.package.version := by
    rintro w ⟨⟩
    rfl
  have h₁ := h.snoc (d := .save (stamped s (some settings.package.version))) (r := .ok ()) rfl
  have hr₁ := hr.snoc ⟨.save (stamped s (some settings.package.version)), .ok ()⟩
  refine keeps_saving h (fun w hw => ⟨hv w hw, hr⟩) (keeps_saving h₁ (fun w hw => ⟨hv w hw, hr₁⟩) ?_)
  have h₂ := h₁.snoc (d := .save (checked (stamped s (some settings.package.version)) site.now)) (r := .ok ()) rfl
  refine ⟨h₂.due_log _, fun r => (h₂.snoc rfl).ended ?_⟩
  exact fun w hw => .inr ⟨hv w hw, (hr₁.snoc _).snoc _⟩

def Without (kind : Deed → Bool) (past : List Done) : Prop := ∀ e ∈ past, kind e.1 = false

theorem Without.snoc {kind : Deed → Bool} (h : Without kind past) {e : Done} (he : kind e.1 = false) :
    Without kind (past ++ [e]) := by
  intro e' he'
  obtain he' | he' := List.mem_append.mp he'
  · exact h e' he'
  · obtain rfl := List.mem_singleton.mp he'
    exact he

theorem keeps_patching {platform : Platform} (h : Unfailed site past) (hp : Without Deed.isPatch past)
    (hplat : Platform.detect site.arch site.os = .ok platform)
    (hd : ∃ url mode label, (⟨.download url (placeOf site platform) mode label, .ok ()⟩ : Done) ∈ past)
    (hs : ∀ w, s.record.serverVersion = some w → s₀.record.serverVersion = some w) :
    Keeps settings site s₀ past (Script.patching settings site tool (placeOf site platform) s) := by
  unfold Script.patching
  by_cases hpatch : site.patches = true
  · rw [if_pos hpatch]
    refine ⟨⟨h, ?_, by simp [Deed.isFetch, Deed.isDownload], by simp, by simp, by simp⟩, fun r => ?_⟩
    · exact Deed.forall_rare.mpr ⟨nofun, nofun, nofun, fun _ => hp⟩
    · cases r with
      | error e => exact h.endedBy rfl fun w hw => .inl (hs w hw)
      | ok u =>
        obtain ⟨url, mode, label, hm⟩ := hd
        refine keeps_recording (h.snoc rfl) ⟨platform, hplat, ⟨url, mode, label, List.mem_append_left _ hm⟩, ?_⟩
        exact fun _ => ⟨tool, by simp⟩
  · rw [if_neg hpatch]
    exact keeps_recording h ⟨platform, hplat, hd, fun hp => absurd hp hpatch⟩

theorem keeps_replacing {platform : Platform} {asset : Asset} (h : Unfailed site past)
    (hp : Without Deed.isPatch past) (hd : Without Deed.isDownload past)
    (hplat : Platform.detect site.arch site.os = .ok platform) (ha : Agreed settings past)
    (hc : Chosen settings platform past asset)
    (hs : ∀ w, s.record.serverVersion = some w → s₀.record.serverVersion = some w) :
    Keeps settings site s₀ past (Script.replacing settings site tool asset.url (placeOf site platform) s) := by
  refine ⟨⟨h, ?_, by simp [Deed.isFetch, Deed.isDownload], ?_, by simp, by simp⟩, fun r => ?_⟩
  · exact Deed.forall_rare.mpr ⟨nofun, nofun, nofun, nofun⟩
  · rintro p ⟨⟩
    exact ⟨platform, asset, hplat, rfl, hc⟩
  · cases r with
    | error e => exact h.endedBy rfl fun w hw => .inl (hs w hw)
    | ok u =>
      have h₁ := h.snoc (d := .remove (placeOf site platform)) (r := .ok ()) rfl
      refine ⟨⟨h₁, ?_, fun _ => ha.snoc _, by simp, ?_, by simp⟩, fun r => ?_⟩
      · exact Deed.forall_rare.mpr ⟨nofun, nofun, fun _ => hd.snoc rfl, nofun⟩
      · rintro url p mode label ⟨⟩
        exact ⟨platform, asset, hplat, rfl, hc.snoc _, rfl, rfl⟩
      · cases r with
        | error e => exact h₁.endedBy rfl fun w hw => .inl (hs w hw)
        | ok u =>
          refine keeps_patching (h₁.snoc rfl) ((hp.snoc rfl).snoc rfl) hplat ?_ hs
          exact ⟨_, _, _, List.mem_append_right _ (List.mem_singleton_self _)⟩

theorem keeps_installing {platform : Platform} {tag : String} (h : Unfailed site past)
    (hp : Without Deed.isPatch past) (hd : Without Deed.isDownload past) (hf : Without Deed.isFetch past)
    (htag : settings.package.releaseTag = some tag)
    (hplat : Platform.detect site.arch site.os = .ok platform) (ha : Agreed settings past)
    (hs : ∀ w, s.record.serverVersion = some w → s₀.record.serverVersion = some w) :
    Keeps settings site s₀ past
      (Script.installing settings site tool tag platform.binary (placeOf site platform) s) := by
  have hof : Platform.of? site.arch site.os = some platform := by
    unfold Platform.detect at hplat
    cases ho : Platform.of? site.arch site.os with
    | none => simp [ho] at hplat
    | some q => simpa [ho] using hplat
  refine ⟨⟨h, ?_, fun _ => ha, by simp, by simp, by simp⟩, fun r => ?_⟩
  · exact Deed.forall_rare.mpr ⟨nofun, fun _ => hf, nofun, nofun⟩
  · cases r with
    | error e => exact h.endedBy rfl fun w hw => .inl (hs w hw)
    | ok release =>
      simp only []
      cases hasset : release.asset? platform.binary with
      | none =>
        refine h.endedBy ?_ fun w hw => .inl (hs w hw)
        simp [Deed.fault?, hof, hasset]
      | some asset =>
        have h₁ : Unfailed site (past ++ [⟨.fetch tag, .ok release⟩]) :=
          h.snoc (by simp [Deed.fault?, hof, hasset])
        refine keeps_replacing h₁ (hp.snoc rfl) (hd.snoc rfl) hplat (ha.snoc _) ?_ hs
        obtain ⟨hname, before, after, hsplit, hbefore⟩ := List.find?_eq_some_iff_append.mp hasset
        refine ⟨tag, release, before, after, htag, by simp, hsplit, by simpa using hname, ?_⟩
        intro a hm
        simpa using hbefore a hm

theorem keeps_deciding {platform : Platform} {tag : String} (h : Unfailed site past)
    (hr : ∀ kind ∈ Deed.rare, Without kind past) (htag : settings.package.releaseTag = some tag)
    (hplat : Platform.detect site.arch site.os = .ok platform)
    (hs : ∀ w, s.record.serverVersion = some w → s₀.record.serverVersion = some w) :
    Keeps settings site s₀ past
      (Script.deciding settings site tool tag platform.binary (placeOf site platform) s) := by
  obtain ⟨hconf, hf, hd, hp⟩ := Deed.forall_rare.mp hr
  unfold Script.deciding
  by_cases hv : s.record.serverVersion = some settings.package.version
  · rw [if_pos hv]
    exact h.ended fun w hw => .inl (hs w hw)
  rw [if_neg hv]
  by_cases ha : settings.updates.ask = true
  · rw [if_pos ha]
    refine ⟨⟨h, ?_, by simp [Deed.isFetch, Deed.isDownload], by simp, by simp, by simp⟩, fun r => ?_⟩
    · exact Deed.forall_rare.mpr ⟨fun _ => hconf, nofun, nofun, nofun⟩
    · cases r with
      | true =>
        refine keeps_installing (h.snoc rfl) (hp.snoc rfl) (hd.snoc rfl) (hf.snoc rfl) htag hplat ?_ hs
        exact fun _ => ⟨_, _, List.mem_append_right _ (List.mem_singleton_self _)⟩
      | false =>
        have h₁ : ∀ m a, Unfailed site (past ++ [⟨.confirm m a, false⟩]) := fun m a => h.snoc rfl
        exact ⟨(h₁ _ _).due_log _, fun r => ((h₁ _ _).snoc rfl).ended fun w hw => .inl (hs w hw)⟩
  · rw [if_neg ha]
    exact keeps_installing h hp hd hf htag hplat (fun h => absurd h ha) hs

end Heeds

theorem keeps_script (settings : Settings) (site : Site) (tool : Path) (s : Store) :
    Keeps settings site s [] (script settings site tool s) := by
  have hnil : Unfailed site [] := by simp [Unfailed]
  have hend : ∀ r : Except Error Path, Ended settings site s [] (r, s) := fun r => hnil.ended fun w hw => .inl hw
  unfold script
  cases site.serverPath with
  | some path => exact hend _
  | none =>
    cases htag : settings.package.releaseTag with
    | none => exact hend _
    | some tag =>
      simp only []
      cases hplat : Platform.detect site.arch site.os with
      | error e => exact hend _
      | ok platform =>
        have hrare : ∀ kind ∈ Deed.rare, ∀ r, Without kind [⟨.look (placeOf site platform), r⟩] := by
          simp [Deed.rare, Without, Deed.isConfirm, Deed.isFetch, Deed.isDownload, Deed.isPatch]
        refine ⟨⟨hnil, by simp, by simp [Deed.isFetch, Deed.isDownload], by simp, by simp, by simp⟩, fun r => ?_⟩
        have hlook : Unfailed site [⟨.look (placeOf site platform), r⟩] := hnil.snoc rfl
        cases r with
        | true => exact keeps_deciding hlook (fun kind hk => hrare kind hk true) htag hplat fun w hw => hw
        | false =>
          -- the binary is not there, so a version on record is forgotten first
          by_cases hv : s.record.serverVersion.isSome = true
          · simp only [hv, if_true]
            refine keeps_saving hlook (by simp [stamped]) (keeps_deciding (hlook.snoc rfl) ?_ htag hplat ?_)
            · intro kind hk
              refine (hrare kind hk false).snoc ?_
              revert kind
              simp [Deed.rare, Deed.isConfirm, Deed.isFetch, Deed.isDownload, Deed.isPatch]
            · simp [stamped]
          · simp only [hv, if_false, Bool.false_eq_true]
            exact keeps_deciding hlook (fun kind hk => hrare kind hk false) htag hplat fun w hw => hw

theorem countP_le_one {kind : Deed → Bool} {es : List Done}
    (h : ∀ before e after, es = before ++ e :: after → kind e.1 = true → Without kind before) :
    es.countP (fun e => kind e.1) ≤ 1 := by
  induction es with
  | nil => simp
  | cons d es ih =>
    by_cases hd : kind d.1 = true
    · have hrest : ∀ e ∈ es, ¬ kind e.1 = true := by
        intro e he hk
        obtain ⟨before, after, rfl⟩ := List.append_of_mem he
        have hw := h (d :: before) e after rfl hk d (List.mem_cons_self ..)
        rw [hd] at hw
        cases hw
      have hzero := List.countP_eq_zero.mpr hrest
      rw [List.countP_cons, if_pos hd]
      omega
    · have hes := ih fun before e after he hk e' he' =>
        h (d :: before) e after (by rw [he]; rfl) hk e' (List.mem_cons_of_mem _ he')
      rwa [List.countP_cons, if_neg hd]

theorem plan_get_idle {settings : Settings} {site : Site} (tool : Path) (s : Store)
    (h : site.serverPath ≠ none ∨ settings.package.releaseTag = none ∨
      ∃ e, Platform.detect site.arch site.os = .error e) :
    ∃ o, (get settings site tool).plan s = .done (o, s) := by
  rw [plan_get, script]
  cases hp : site.serverPath with
  | some path => exact ⟨_, rfl⟩
  | none =>
    cases ht : settings.package.releaseTag with
    | none => exact ⟨_, rfl⟩
    | some tag =>
      obtain h | h | ⟨e, he⟩ := h
      · exact absurd hp h
      · rw [ht] at h
        cases h
      · simp only [he]
        exact ⟨_, rfl⟩

theorem plan_get_current {settings : Settings} {site : Site} {platform : Platform} (tool : Path) (s : Store)
    (hp : site.serverPath = none) (ht : settings.package.releaseTag ≠ none)
    (hplat : Platform.detect site.arch site.os = .ok platform)
    (hv : s.record.serverVersion = some settings.package.version) :
    ∃ k, (get settings site tool).plan s = .ask (.kernel (.inspect (placeOf site platform))) k ∧
      ∀ kind, k (.ok kind) = .done (.ok (placeOf site platform), s) := by
  obtain ⟨tag, ht⟩ := Option.ne_none_iff_exists'.mp ht
  rw [plan_get, script, hp, ht]
  simp only [hplat]
  refine ⟨_, rfl, fun kind => ?_⟩
  change (Script.deciding settings site tool tag platform.binary (placeOf site platform) s).lower Deed.plan = _
  rw [Script.deciding, if_pos hv]
  rfl

/-- Finding the server does nothing at all where nothing has to be done, and only looks at the binary where
the wanted version is installed. Otherwise every deed has behind it what it needs. -/
theorem get_ordered {σ : Type} (serve : (c : setup.Call) → σ → setup.Reply c × σ)
    (settings : Settings) (site : Site) (tool : Path) (s : Store) (x : σ) :
    let job := (get settings site tool).plan s
    let es := (script settings site tool s).trace (I := deeds) (fun d x => d.plan.run serve x) x
    let r := (job.run serve x).1
    job = (script settings site tool s).lower Deed.plan ∧
    ((site.serverPath ≠ none ∨ settings.package.releaseTag = none ∨
        ∃ e, Platform.detect site.arch site.os = .error e) → job.trace serve x = [] ∧ r.2 = s) ∧
    (∀ platform kind, site.serverPath = none → settings.package.releaseTag ≠ none →
      Platform.detect site.arch site.os = .ok platform →
      (serve (.kernel (.inspect (placeOf site platform))) x).1 = .ok kind →
      s.record.serverVersion = some settings.package.version →
        job.trace serve x = [⟨.kernel (.inspect (placeOf site platform)), .ok kind⟩] ∧
          r = (.ok (placeOf site platform), s)) ∧
    (∀ before e after, es = before ++ e :: after → Due settings site before e.1) ∧
    (∀ w, r.2.record.serverVersion = some w →
      s.record.serverVersion = some w ∨ (w = settings.package.version ∧ Ready site es)) ∧
    (∀ kind ∈ Deed.rare, es.countP (fun e => kind e.1) ≤ 1) ∧
    (∀ before d after e, es = before ++ d :: after → d.1.fault? site d.2 = some e →
      after = [] ∧ r.1 = .error e) := by
  intro job es r
  have hjob : job = (script settings site tool s).lower Deed.plan := plan_get settings site tool s
  have hr : r = ((script settings site tool s).run (I := deeds) (fun d x => d.plan.run serve x) x).1 := by
    rw [← Plan.run_lower, ← hjob]
  -- what is due before each deed, and true at the end, is what the script keeps from its start
  have hdue : ∀ before e after, es = before ++ e :: after → Due settings site before e.1 := by
    intro before e after he
    exact (keeps_script settings site tool s).trace _ x before e after he
  have hend : Ended settings site s es r := by
    have h := (keeps_script settings site tool s).run (fun d x => d.plan.run serve x) x
    rw [hr]
    simpa using h
  refine ⟨hjob, ?_, ?_, hdue, hend.version, ?_, ?_⟩
  · intro h
    obtain ⟨o, ho⟩ := plan_get_idle tool s h
    simp only [r, job, ho, Plan.trace, Plan.run]
    exact ⟨trivial, trivial⟩
  · intro platform kind hp ht hplat hinspect hv
    obtain ⟨k, hask, hk⟩ := plan_get_current tool s hp ht hplat hv
    simp only [r, job, hask, Plan.trace, Plan.run, hinspect, hk]
    exact ⟨trivial, trivial⟩
  · intro kind hk
    exact countP_le_one fun before e after he hkind => (hdue before e after he).single kind hk hkind
  · intro before d after e he hd
    refine ⟨?_, hend.failed d (by rw [he]; simp) e hd⟩
    cases after with
    | nil => rfl
    | cons next after =>
      have h := (hdue (before ++ [d]) next after (by simp [he])).unfailed d (by simp)
      rw [hd] at h
      cases h

end Server

end Provision
