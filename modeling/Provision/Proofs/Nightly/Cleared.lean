import Provision.Proofs.Nightly.Order
import Provision.Proofs.Nightly.Pace
import Provision.Proofs.Lodging.Cleared

set_option autoImplicit false

namespace Provision.Nightly

/-- Others put no link in the storage directory, and do not bring one to light. The editor puts no package there when it
reloads. -/
def neighbours (L : Lodging) : Law setup Disk
  | .kernel c, d, r, d' => Kernel.law L.cwd (fun _ _ => True) c d r d'
  | .reload, d, _, d' => L.Cleared d → L.Cleared d'
  | _, d, _, d' => L.Unlinked d → L.Unlinked d'

def carried {σ : Type} (law : Law setup σ) : Law deeds σ := fun d x r y => ∃ es, d.plan.Course law x es (some r) y

def Tries {σ : Type} (es : List (Event deeds σ)) : Prop := ∃ e ∈ es, ∃ p, e.call = .install p

def Stuck (site : Site) (r : Except Error Unit × Store) : Prop :=
  ∃ f, r.1 = .error (.io ("failed to remove " ++ (packageOf site).text) f)

section Clearing

variable {L : Lodging} {site : Site} {s : Store} {d d' : Disk} {es : List (Event deeds Disk)} {r : Except Error Unit × Store}

theorem removed (h : L.Unlinked d) (hc : carried (neighbours L) (.remove L.package) d (.ok ()) d') : L.Cleared d' := by
  obtain ⟨es, hc⟩ := hc
  obtain ⟨es', -, hc'⟩ := Setup.course_ofKernel hc
  exact h.remove hc'

def Records (s : Store) (d : Deed) : Prop :=
  (∃ t, d = .save t ∧ t.path = s.path) ∨ (∃ level text, d = .log level text) ∨ d = .reload

theorem cleared_records (h : L.Cleared d) (hp : s.path = L.statePath) {c : Deed} {reply : c.Reply} (hc : Records s c)
    (hl : carried (neighbours L) c d reply d') : L.Cleared d' := by
  obtain ⟨es, hl⟩ := hl
  obtain ⟨t, rfl, ht⟩ | ⟨level, text, rfl⟩ | rfl := hc
  · obtain ⟨es', -, hl'⟩ := Setup.course_ofKernel hl
    exact h.save (ht.trans hp) hl'
  · obtain ⟨es', -, hl'⟩ := Setup.course_ofKernel hl
    have hsame : d' = d := hl'.of_call_some
    exact hsame ▸ h
  · exact hl.of_call_some h

theorem uses_recording (site : Site) (id : UInt64) (s : Store) :
    (Script.recording site id s).Uses (I := deeds) (Records s) := by
  refine ⟨.inl ⟨_, rfl, rfl⟩, fun r => ?_⟩
  cases r with
  | error e => exact trivial
  | ok u =>
    refine ⟨.inl ⟨_, rfl, rfl⟩, fun r => ?_⟩
    cases r with
    | error e => exact trivial
    | ok u => exact ⟨.inr (.inl ⟨_, _, rfl⟩), fun u => ⟨.inr (.inr rfl), fun u => trivial⟩⟩

variable (hs : site.storage = L.storage)

include hs in
theorem clearing_clears (h : L.Unlinked d) (hp : s.path = L.statePath) {id : UInt64} {installed : Except (List String) Unit}
    (hc : (Script.clearing site id s installed).Course (carried (neighbours L)) d es (some r) d') :
    Stuck site r ∨ L.Cleared d' := by
  have hpackage : packageOf site = L.package := by rw [packageOf, hs]; rfl
  obtain ⟨reply, t, es', rfl, hremove, hrest⟩ := hc.of_ask_some
  cases reply with
  | error f =>
    obtain ⟨-, ho, -⟩ := hrest.of_done
    cases ho
    exact .inl ⟨f, rfl⟩
  | ok u =>
    rw [hpackage] at hremove
    have ht := removed h hremove
    cases installed with
    | error chain =>
      obtain ⟨-, -, rfl⟩ := hrest.of_done
      exact .inr ht
    | ok u => exact .inr (hrest.keeps (uses_recording site id s) (fun _ _ _ _ hm ht hl => cleared_records ht hp hm hl) ht)

def Other (d : Deed) : Prop := ∀ p, d ≠ .install p

theorem Tries.tail {e : Event deeds Disk} (h : Tries (e :: es)) (he : Other e.call) : Tries es := by
  obtain ⟨e', he', p, hp⟩ := h
  obtain rfl | he' := List.mem_cons.mp he'
  · exact absurd hp (he p)
  · exact ⟨e', he', p, hp⟩

theorem Tries.not_uses {law : Law deeds Disk} {p : Script} {o : Option (Except Error Unit × Store)} (h : Tries es)
    (hc : p.Course law d es o d') (hp : p.Uses (I := deeds) Other) : False := by
  obtain ⟨e, he, q, hq⟩ := h
  exact hc.uses hp e he q hq

theorem uses_lamenting (e : Error) (s : Store) : (Script.lamenting e s).Uses (I := deeds) Other := by
  refine ⟨nofun, fun u => ?_⟩
  by_cases hn : s.record.releaseId.isNone = true
  · simp only [hn, if_true]
    exact ⟨nofun, fun u => trivial⟩
  · simp only [hn, if_false, Bool.false_eq_true]
    exact trivial

theorem uses_saving {next : Script} (s : Store) (h : next.Uses (I := deeds) Other) :
    (Script.saving s next).Uses (I := deeds) Other := by
  refine ⟨nofun, fun r => ?_⟩
  cases r with
  | ok u => exact h
  | error e => exact trivial

include hs in
theorem installing_clears (h : L.Unlinked d) (hp : s.path = L.statePath) {url : String} {id : UInt64}
    (hc : (Script.installing site url id s).Course (carried (neighbours L)) d es (some r) d') (ht : Tries es) :
    Stuck site r ∨ L.Cleared d' := by
  obtain ⟨reply, t, es', rfl, ⟨_, hdownload⟩, hrest⟩ := hc.of_ask_some
  have h₁ : L.Unlinked t := hdownload.of_call_some h
  replace ht := ht.tail nofun
  cases reply with
  | error e => exact (ht.not_uses hrest trivial).elim
  | ok u =>
    obtain ⟨installed, u, es'', rfl, ⟨_, hinstall⟩, hrest⟩ := hrest.of_ask_some
    exact clearing_clears hs (hinstall.of_call_some h₁) hp hrest

include hs in
theorem offering_clears (h : L.Unlinked d) (hp : s.path = L.statePath) {release : Release}
    (hc : (Script.offering site release s).Course (carried (neighbours L)) d es (some r) d') (ht : Tries es) :
    Stuck site r ∨ L.Cleared d' := by
  obtain ⟨agreed, t, es', rfl, ⟨_, hconfirm⟩, hrest⟩ := hc.of_ask_some
  have h₁ : L.Unlinked t := hconfirm.of_call_some h
  replace ht := ht.tail nofun
  cases agreed with
  | false => exact (ht.not_uses hrest trivial).elim
  | true =>
    simp only [] at hrest
    cases ha : release.asset? asset with
    | none =>
      rw [ha] at hrest
      exact (ht.not_uses hrest trivial).elim
    | some a =>
      rw [ha] at hrest
      exact installing_clears hs h₁ hp hrest ht

include hs in
theorem looking_clears (h : L.Unlinked d) (hp : s.path = L.statePath)
    (hc : (Script.looking site s).Course (carried (neighbours L)) d es (some r) d') (ht : Tries es) :
    Stuck site r ∨ L.Cleared d' := by
  obtain ⟨reply, t, es', rfl, ⟨_, hfetch⟩, hrest⟩ := hc.of_ask_some
  have h₁ : L.Unlinked t := hfetch.of_call_some h
  replace ht := ht.tail nofun
  cases reply with
  | error e => exact (ht.not_uses hrest (uses_lamenting e s)).elim
  | ok release =>
    simp only [] at hrest
    by_cases hid : s.record.releaseId = some release.id
    · rw [if_pos hid] at hrest
      exact (ht.not_uses hrest (uses_saving _ trivial)).elim
    · rw [if_neg hid] at hrest
      exact offering_clears hs h₁ hp hrest ht

include hs in
theorem script_clears (h : L.Unlinked d) (hp : s.path = L.statePath) {settings : Settings}
    (hc : (script settings site s).Course (carried (neighbours L)) d es (some r) d') (ht : Tries es) :
    Stuck site r ∨ L.Cleared d' := by
  unfold script at hc
  cases htag : settings.package.releaseTag with
  | none =>
    rw [htag] at hc
    exact (ht.not_uses hc trivial).elim
  | some t =>
    rw [htag] at hc
    cases hchannel : settings.updates.channel with
    | stable =>
      rw [hchannel] at hc
      refine (ht.not_uses hc ?_).elim
      simp only []
      split
      · exact ⟨nofun, fun u => trivial⟩
      · exact trivial
    | nightly =>
      rw [hchannel] at hc
      simp only [] at hc
      split at hc
      · exact looking_clears hs h hp hc ht
      · exact (ht.not_uses hc trivial).elim

end Clearing

theorem course_carried {σ : Type} {serve : (c : setup.Call) → σ → setup.Reply c × σ} {disk : σ → Disk}
    {law : Law setup Disk} (lawful : ∀ c x, law c (disk x) (serve c x).1 (disk (serve c x).2)) (p : Script) (x : σ) :
    let go := fun (d : Deed) (x : σ) => d.plan.run serve x
    p.Course (carried law) (disk x) ((p.events (I := deeds) go x).map (Event.seen disk)) (some (p.run (I := deeds) go x).1)
      (disk (p.run (I := deeds) go x).2) := by
  intro go
  have hcalls : ∀ (c : setup.Call) (x : σ), True → law c (disk x) (serve c x).1 (disk (serve c x).2) ∧ True :=
    fun c x _ => ⟨lawful c x, trivial⟩
  have hdeeds : ∀ (d : Deed) (x : σ), True → carried law d (disk x) (go d x).1 (disk (go d x).2) ∧ True :=
    fun d x _ => ⟨⟨_, (Plan.course_view disk hcalls d.plan trivial).1⟩, trivial⟩
  exact (Plan.course_view (I := deeds) disk hdeeds p trivial).1

/-- One nightly step, whatever it is answered. What it makes of the record is earned, and so is every record that it
saves; it downloads only what the user agreed to, reloads the editor exactly when a release was installed and is on
record, and does nothing after that. When it has tried to install a package that is gone, or could not be removed. -/
theorem update_ordered {σ : Type} (serve : (c : setup.Call) → σ → setup.Reply c × σ) (settings : Settings) (site : Site)
    (s : Store) (x : σ) :
    let job := (update settings site).plan s
    let es := (script settings site s).trace (I := deeds) (fun d x => d.plan.run serve x) x
    let r := (job.run serve x).1
    job = (script settings site s).lower Deed.plan ∧
    (∀ before e after, es = before ++ e :: after → Due site s before e.1) ∧
    Earned site s es r.2 ∧
    ((∃ e ∈ es, e.1 = .reload) ↔ ∃ release, Recorded site s es release) ∧
    (∀ before e after, es = before ++ e :: after → e.1 = .reload → after = []) ∧
    ∀ (disk : σ → Disk) (L : Lodging), site.storage = L.storage → s.path = L.statePath →
      (∀ c x, neighbours L c (disk x) (serve c x).1 (disk (serve c x).2)) → L.Unlinked (disk x) →
      (∃ e ∈ es, ∃ p, e.1 = .install p) →
        Stuck site r ∨ ∀ v, (disk (job.run serve x).2).look L.cwd (packageOf site) ≠ .ok v := by
  intro job es r
  have hjob : job = (script settings site s).lower Deed.plan := plan_script settings site s
  have hrun : job.run serve x = (script settings site s).run (I := deeds) (fun d x => d.plan.run serve x) x := by
    rw [hjob, Plan.run_lower]
  -- the order of the script is told in lists of deeds, so it holds in every world
  have hdue : ∀ before e after, es = before ++ e :: after → Due site s before e.1 := by
    intro before e after he
    exact (keeps_script settings site s).trace _ x before e after he
  have hend : Ended site s es r := by
    have h := (keeps_script settings site s).run (fun d x => d.plan.run serve x) x
    rw [← hrun] at h
    simpa using h
  refine ⟨hjob, hdue, hend.earned, ⟨?_, hend.reloads⟩, ?_, ?_⟩
  · rintro ⟨e, he, hreload⟩
    obtain ⟨before, after, hsplit⟩ := List.append_of_mem he
    obtain ⟨release, hr⟩ := (hdue before e after hsplit).reload hreload
    exact ⟨release, hr.mono (by rw [hsplit]; exact List.sublist_append_left _ _)⟩
  · intro before e after he hreload
    cases after with
    | nil => rfl
    | cons next after =>
      have h := (hdue (before ++ [e]) next after (by simp [he])).running e (by simp)
      exact absurd hreload h
  · intro disk L hstorage hpath lawful hunlinked htried
    -- where the package is in the end is told by the disk, on which the same script is a course of deeds
    have hc := course_carried lawful (script settings site s) x
    have htries : Tries (((script settings site s).events (I := deeds) (fun d x => d.plan.run serve x) x).map
        (Event.seen disk)) := by
      obtain ⟨e, he, p, hp⟩ := htried
      simp only [es, Plan.trace_eq_events] at he
      obtain ⟨e', he', rfl⟩ := List.mem_map.mp he
      exact ⟨_, List.mem_map_of_mem he', p, hp⟩
    have hpackage : packageOf site = L.package := by rw [packageOf, hstorage]; rfl
    rw [hpackage]
    obtain hstuck | hcleared := script_clears hstorage hunlinked hpath hc htries
    · refine .inl ?_
      rw [← hrun] at hstuck
      exact hstuck
    · refine .inr fun v => ?_
      rw [hrun]
      exact hcleared.look v

section Concrete

open Server.Trial (lodging₀ disk₀ get?_disk₀ sound_disk₀ fresh_disk₀)

theorem neighbours_solitude {L : Lodging} (W : Solitude) (hcwd : W.cwd = L.cwd) (c : setup.Call) (d : Disk) :
    neighbours L c d (W.serve c d).1 (W.serve c d).2 := by
  cases c with
  | kernel c => exact Setup.law_mono (c := .kernel c) (fun _ => trivial) (W.lawful hcwd (.kernel c) d)
  | _ => exact id

def built (installed : Except (List String) Unit) : Solitude :=
  ⟨[], .ok ⟨7, none, none, [⟨asset, "url", 1⟩]⟩, true, installed, .error (.os .missing)⟩

def packed (home : Place) : Disk := ⟨[(Lodging.packageName :: home, .file 0 Disk.plainMode "old".toUTF8), (home, .dir)], 1⟩

def anew (storage : Path) : Plan setup (Except Error Unit × Store) :=
  (update settings₀ { site₀ noon with storage := storage }).plan ⟨storage / Path.ofString "state.json", .empty⟩

theorem linkless_packed : lodging₀.Linkless lodging₀.home (packed lodging₀.home) := by
  have hadd : packed lodging₀.home = disk₀.addFile (Lodging.packageName :: lodging₀.home) Disk.plainMode "old".toUTF8 := rfl
  have hempty : disk₀.get? (Lodging.packageName :: lodging₀.home) = none := fresh_disk₀.empty _
  have hget := Disk.get?_addFile disk₀ (by simp : Lodging.packageName :: lodging₀.home ≠ []) Disk.plainMode "old".toUTF8
  rw [hadd]
  refine ⟨sound_disk₀.addFile rfl hempty _ _, by decide, ?_, fun n hn target => ?_⟩
  · rw [hget]
    rfl
  · rw [hget]
    split
    · nofun
    · rw [fresh_disk₀.empty]
      nofun

theorem tried_of_any {es : List Done} (h : es.any (fun | ⟨.install _, _⟩ => true | _ => false) = true) :
    ∃ e ∈ es, ∃ p, e.1 = .install p := by
  obtain ⟨e, he, hinstall⟩ := List.any_eq_true.mp h
  split at hinstall
  · exact ⟨_, he, _, rfl⟩
  · cases hinstall

set_option maxRecDepth 100000 in
/-- A build that cannot be installed. Its package is there before, and is gone behind it. -/
theorem update_ordered_failed :
    (packed lodging₀.home).look [] lodging₀.package = .ok (.file 0 Disk.plainMode "old".toUTF8) ∧
      ((anew lodging₀.storage).run (built (.error ["no"])).serve (packed lodging₀.home)).1.1 = .error (.extension ["no"]) ∧
      ∀ v, ((anew lodging₀.storage).run (built (.error ["no"])).serve (packed lodging₀.home)).2.look [] lodging₀.package ≠
        .ok v := by
  have hresult : ((anew lodging₀.storage).run (built (.error ["no"])).serve (packed lodging₀.home)).1.1 =
      .error (.extension ["no"]) := by decide +kernel
  obtain ⟨-, -, -, -, -, hgone⟩ := update_ordered (built (.error ["no"])).serve settings₀ (site₀ noon)
    ⟨lodging₀.statePath, .empty⟩ (packed lodging₀.home)
  refine ⟨by decide +kernel, hresult, ?_⟩
  obtain ⟨f, hstuck⟩ | hgone := hgone id lodging₀ rfl rfl (neighbours_solitude _ rfl) (.inl ⟨_, linkless_packed⟩)
    (tried_of_any (by decide +kernel))
  · cases hresult.symm.trans hstuck
  · exact hgone

set_option maxRecDepth 100000 in
/-- The way to the directory goes by `..` behind one that is not there, so the package cannot be found when it is to be
removed. Saving the record makes that directory, and then there is one. -/
theorem update_leaves_package : (∀ p target, (packed ["s".toList]).get? p ≠ some (.link target)) ∧
    ((anew "/x/../s").trace (built (.ok ())).serve (packed ["s".toList])).any (fun | ⟨.install _, _⟩ => true | _ => false) ∧
    ∃ s d, (anew "/x/../s").run (built (.ok ())).serve (packed ["s".toList]) = ((.ok (), s), d) ∧
      ∃ v, d.look [] ("/x/../s" / Path.ofString asset) = .ok v := by
  refine ⟨fun p target hp => ?_, ?_, _, _, Prod.ext (Prod.ext ?_ rfl) rfl, .file 0 Disk.plainMode "old".toUTF8, ?_⟩
  · have hne : p ≠ [] := by
      rintro rfl
      cases hp
    have hmem := Disk.mem_of_get? hne hp
    simp [packed] at hmem
  all_goals decide +kernel

end Concrete

end Provision.Nightly
