import Provision.Proofs.Instant.Order
import Provision.Proofs.Lodging.Solitude
import Mathlib.Data.List.Chain

/-!
How often a newer build is looked for. A look that was settled, that is one in which nothing failed and the user did not
decline, records the time, and the next look is more than an interval later. A look that came to nothing records
nothing, so that the next visit looks again, however soon it comes.
-/

set_option autoImplicit false

namespace Provision.Nightly

open Server (checked)

def seeks : Setup.Call → Bool
  | .fetch _ => true
  | .confirm _ _ => true
  | _ => false

def looks (es : List (Event setup Disk)) : Bool := es.any fun e => seeks e.call

def refuses : Event setup Disk → Bool
  | ⟨.fetch _, r, _⟩ => !Except.isOk (show Except Error Release from r)
  | ⟨.confirm _ _, r, _⟩ => !(show Bool from r)
  | _ => false

def vain (es : List (Event setup Disk)) (r : Except Error Unit) : Bool := !r.isOk || es.any refuses

def Silent : Setup.Call → Prop
  | .fetch _ => False
  | .confirm _ _ => False
  | _ => True

theorem Silent.not_refuses {e : Event setup Disk} (h : Silent e.call) : refuses e = false := by
  obtain ⟨c, r, t⟩ := e
  cases c with
  | fetch tag => exact h.elim
  | confirm message action => exact h.elim
  | _ => rfl

theorem vain_append {es₁ es₂ : List (Event setup Disk)} {r : Except Error Unit} (h : ∀ e ∈ es₁, refuses e = false) :
    vain (es₁ ++ es₂) r = vain es₂ r := by
  have hany : es₁.any refuses = false := List.any_eq_false.mpr fun e he => by simp [h e he]
  simp only [vain, List.any_append, hany, Bool.false_or]

theorem vain_of_refuses {e : Event setup Disk} {es : List (Event setup Disk)} {r : Except Error Unit}
    (h : refuses e = true) : vain (e :: es) r = true := by simp [vain, h]

def Deed.IsSilent : Deed → Prop
  | .fetch _ => False
  | .confirm _ _ => False
  | _ => True

theorem Deed.not_refuses (deed : Deed) (h : deed.IsSilent) {law : Law setup Disk} {d d' : Disk}
    {es : List (Event setup Disk)} {o : Option deed.Reply} (hc : deed.plan.Course law d es o d') :
    ∀ e ∈ es, refuses e = false := by
  have hkernel : ∀ {α : Type} {p : Plan kernel α} {o : Option α}, (Setup.ofKernel p).Course law d es o d' →
      ∀ e ∈ es, refuses e = false := by
    intro α p o hc e he
    obtain ⟨es', rfl, -⟩ := Setup.course_ofKernel hc
    obtain ⟨e', -, rfl⟩ := List.mem_map.mp he
    exact Silent.not_refuses trivial
  have hcall : ∀ {c : Setup.Call} {o : Option (Setup.Reply c)}, (Plan.call (I := setup) c).Course law d es o d' →
      Silent c → ∀ e ∈ es, refuses e = false := by
    intro c o hc hs e he
    obtain ⟨-, rfl, -⟩ | ⟨r, -, rfl, -⟩ := hc.of_call
    · cases he
    · obtain rfl := List.mem_singleton.mp he
      exact Silent.not_refuses hs
  cases deed with
  | fetch t => exact h.elim
  | confirm message action => exact h.elim
  | save s => exact hkernel hc
  | remove p => exact hkernel hc
  | log level text => exact hkernel hc
  | warn message => exact hcall hc trivial
  | showError message => exact hcall hc trivial
  | download url dest mode label => exact hcall hc trivial
  | install package => exact hcall hc trivial
  | reload => exact hcall hc trivial

section Script

variable {L : Lodging} {site : Site} {d d' : Disk} {s s' : Store} {es : List (Event setup Disk)} {r : Except Error Unit}

/-- However the rest of the script ends, the record is even. If it came to nothing, the record is that of before, and if
not, the look is recorded. -/
def Ends (L : Lodging) (site : Site) (d : Disk) (p : Script) (s : Store) : Prop :=
  ∀ es r s' d', (p.lower Deed.plan).Course (bystanders L) d es (some (r, s')) d' →
    L.Unsaved es ∨ (L.Even d' s' ∧ ((vain es r = true ∧ s' = s) ∨
      (vain es r = false ∧ s'.record.lastCheck = some site.now ∧ s'.record.releaseId ≠ none)))

theorem ends_error (h : L.Even d s) (e : Error) : Ends L site d (.done (.error e, s)) s := by
  intro es r s' d' hc
  obtain ⟨rfl, ho, rfl⟩ := Plan.Course.of_done hc
  cases ho
  exact .inr ⟨h, .inl ⟨rfl, rfl⟩⟩

theorem ends_ask {deed : Deed} {k : deed.Reply → Script} (hs : deed.IsSilent)
    (next : ∀ es t r, deed.plan.Course (bystanders L) d es (some r) t → Ends L site t (k r) s) :
    Ends L site d (.ask (I := deeds) deed k) s := by
  intro es r s' d' hc
  obtain ⟨a, t, es₁, es₂, rfl, ha, hrest⟩ := hc.of_lower_ask_some
  rw [vain_append (Deed.not_refuses _ hs ha)]
  exact (next es₁ t a ha es₂ r s' d' hrest).imp_left fun hu => hu.after es₁

theorem ends_saving {s₁ : Store} {next : Script} (ht : L.Tidy d) (hp : s₁.path = L.statePath)
    (hnext : ∀ t, L.Even t s₁ → Ends L site t next s) : Ends L site d (Script.saving s₁ next) s := by
  intro es r s' d' hc
  obtain ⟨a, t, es₁, es₂, rfl, ha, hrest⟩ := hc.of_lower_ask_some
  cases a with
  | error e =>
    obtain ⟨rfl, -, rfl⟩ := Plan.Course.of_done hrest
    exact .inl ⟨[], es₁, by simp, Lodging.saveFails_of_course hp ha⟩
  | ok u =>
    rw [vain_append (Deed.not_refuses (.save s₁) trivial ha)]
    exact (hnext t ((ht.saved hp ha).2 rfl) es₂ r s' d' hrest).imp_left fun hu => hu.after es₁

theorem ends_settled {s₁ : Store} (h : L.Even d s₁) (hcheck : s₁.record.lastCheck = some site.now)
    (hid : s₁.record.releaseId ≠ none) : Ends L site d (.done (.ok (), s₁)) s := by
  intro es r s' d' hc
  obtain ⟨rfl, ho, rfl⟩ := Plan.Course.of_done hc
  cases ho
  exact .inr ⟨h, .inr ⟨rfl, hcheck, hid⟩⟩

theorem ends_recording (ht : L.Tidy d) (hp : s.path = L.statePath) (id : UInt64) :
    Ends L site d (Script.recording site id s) s := by
  refine ends_saving ht hp fun t h₁ => ends_saving h₁.tidy hp fun t h₂ => ?_
  refine ends_ask trivial fun es t u hc => ?_
  have h₃ := h₂.keeps (Deed.mild (.log _ _) trivial) hc
  refine ends_ask trivial fun es t u hc => ?_
  have h₄ := h₃.keeps (Deed.mild (.reload) trivial) hc
  exact ends_settled h₄ rfl nofun

theorem ends_installing (h : L.Even d s) (storage : site.storage = L.storage) (url : String) (id : UInt64) :
    Ends L site d (Script.installing site url id s) s := by
  refine ends_ask trivial fun es t r hc => ?_
  have ht := h.keeps (Deed.mild (.download _ _ _ _) trivial) hc
  cases r with
  | error e => exact ends_error ht e
  | ok u =>
    refine ends_ask trivial fun es t' installed hc => ?_
    have ht' := ht.keeps (Deed.mild (.install _) trivial) hc
    refine ends_ask trivial fun es t'' r hc => ?_
    have ht'' := ht'.keeps (Deed.mild (.remove _) (packageOf_eq storage)) hc
    cases r with
    | error e => exact ends_error ht'' _
    | ok u =>
      cases installed with
      | error chain => exact ends_error ht'' _
      | ok u => exact ends_recording ht''.tidy ht''.path id

theorem stays_lamenting (h : L.Even d s) (e : Error)
    (hc : ((Script.lamenting e s).lower Deed.plan).Course (bystanders L) d es (some (r, s')) d') :
    L.Even d' s' ∧ s' = s := by
  obtain ⟨u, t, es₁, es₂, rfl, hlog, hrest⟩ := hc.of_lower_ask_some
  have ht := h.keeps (Deed.mild (.log _ _) trivial) hlog
  split at hrest
  · obtain ⟨u, t', es₃, es₄, rfl, hshow, hrest⟩ := hrest.of_lower_ask_some
    have ht' := ht.keeps (Deed.mild (.showError _) trivial) hshow
    obtain ⟨-, ho, rfl⟩ := Plan.Course.of_done hrest
    cases ho
    exact ⟨ht', rfl⟩
  · obtain ⟨-, ho, rfl⟩ := Plan.Course.of_done hrest
    cases ho
    exact ⟨ht, rfl⟩

theorem ends_offering (h : L.Even d s) (storage : site.storage = L.storage) (release : Release) :
    Ends L site d (Script.offering site release s) s := by
  intro es r s' d' hc
  obtain ⟨agreed, t, es₁, es₂, rfl, ha, hrest⟩ := hc.of_lower_ask_some
  have ht := h.keeps (Deed.mild (.confirm _ _) trivial) ha
  obtain rfl := Plan.Course.call_events ha
  cases agreed with
  | false =>
    obtain ⟨rfl, ho, rfl⟩ := Plan.Course.of_done hrest
    cases ho
    exact .inr ⟨ht, .inl ⟨vain_of_refuses rfl, rfl⟩⟩
  | true =>
    dsimp only at hrest
    rw [vain_append (List.forall_mem_singleton.mpr rfl)]
    cases hasset : release.asset? asset with
    | none =>
      rw [hasset] at hrest
      exact (ends_error ht _ es₂ r s' d' hrest).imp_left fun hu => hu.after _
    | some a =>
      rw [hasset] at hrest
      exact (ends_installing ht storage a.url release.id es₂ r s' d' hrest).imp_left fun hu => hu.after _

theorem ends_looking (h : L.Even d s) (storage : site.storage = L.storage) (hid : s.record.releaseId ≠ none)
    (hc : ((Script.looking site s).lower Deed.plan).Course (bystanders L) d es (some (r, s')) d') :
    looks es = true ∧ (L.Unsaved es ∨ (L.Even d' s' ∧ ((vain es r = true ∧ s' = s) ∨
      (vain es r = false ∧ s'.record.lastCheck = some site.now ∧ s'.record.releaseId ≠ none)))) := by
  obtain ⟨found, t, es₁, es₂, rfl, ha, hrest⟩ := hc.of_lower_ask_some
  have ht := h.keeps (Deed.mild (.fetch _) trivial) ha
  obtain rfl := Plan.Course.call_events ha
  refine ⟨rfl, ?_⟩
  cases found with
  | error e =>
    obtain ⟨hd', hs⟩ := stays_lamenting ht e hrest
    exact .inr ⟨hd', .inl ⟨vain_of_refuses rfl, hs⟩⟩
  | ok release =>
    have hends : Ends L site t (if s.record.releaseId = some release.id then
        Script.saving (checked s site.now) (.done (.ok (), checked s site.now)) else Script.offering site release s) s := by
      split
      · exact ends_saving ht.tidy ht.path fun t' h' => ends_settled h' rfl hid
      · exact ends_offering ht storage release
    rw [vain_append (List.forall_mem_singleton.mpr rfl)]
    exact (hends es₂ r s' d' hrest).imp_left fun hu => hu.after _

theorem update_ends {settings : Settings} (h : L.Even d s) (storage : site.storage = L.storage)
    (tagged : settings.package.releaseTag ≠ none) (channel : settings.updates.channel = .nightly)
    (hid : s.record.releaseId ≠ none)
    (hc : ((update settings site).plan s).Course (bystanders L) d es (some (r, s')) d') (saved : ¬ L.Unsaved es) :
    L.Even d' s' ∧ s'.record.releaseId ≠ none ∧
      (looks es = true ↔ isDue s.record settings.updates.interval site.now = true) ∧
      ((s' = s ∧ (looks es = true → vain es r = true)) ∨ (looks es = true ∧ vain es r = false ∧ s'.record.lastCheck = some site.now)) := by
  rw [plan_script] at hc
  obtain ⟨t, ht⟩ := Option.ne_none_iff_exists'.mp tagged
  simp only [script, ht, channel] at hc
  split at hc
  · rename_i hdue
    obtain ⟨hlooks, hu | ⟨hd', ⟨hvain, rfl⟩ | ⟨hsettled, hcheck, hid'⟩⟩⟩ := ends_looking h storage hid hc
    · exact absurd hu saved
    · exact ⟨hd', hid, iff_of_true hlooks hdue, .inl ⟨rfl, fun _ => hvain⟩⟩
    · exact ⟨hd', hid', iff_of_true hlooks hdue, .inr ⟨hlooks, hsettled, hcheck⟩⟩
  · rename_i hdue
    obtain ⟨rfl, ho, rfl⟩ := Plan.Course.of_done hc
    cases ho
    exact ⟨h, hid, iff_of_false nofun hdue, .inl ⟨rfl, nofun⟩⟩

end Script

/-- One nightly step of a start: when it was, the record that it found, what happened, and the record that it left. -/
structure Visit where
  now : Instant
  found : Record
  events : List (Event setup Disk)
  result : Except Error Unit
  left : Record

namespace Visit

def looks (v : Visit) : Bool := Nightly.looks v.events

def vain (v : Visit) : Bool := Nightly.vain v.events v.result

/-- A look in which nothing failed and the user did not decline. -/
def settled (v : Visit) : Bool := v.looks && !v.vain

end Visit

/-- Nightly steps one after the other, by processes that have loaded the record, on a clock that does not go back. A
release is on record when they begin, and the record can always be saved. -/
inductive Visited (L : Lodging) (interval : UInt64) : List Visit → Disk → Option Store → Prop where
  | start {d : Disk} {r : Record} (tidy : L.Tidy d)
      (recalled : Store.recalled (d.read L.cwd L.statePath) = some r) (release : r.releaseId ≠ none) :
      Visited L interval [] d none
  | meanwhile {H : List Visit} {d d' : Disk} {mem : Option Store} (before : Visited L interval H d mem)
      (h : L.Respects d d') : Visited L interval H d' mem
  | loaded {H : List Visit} {d d' : Disk} {mem : Option Store} {es : List (Event kernel Disk)} {s : Store}
      (before : Visited L interval H d mem)
      (h : (Store.load L.statePath).plan.Course (Kernel.law L.cwd L.Respects) d es (some (.ok s)) d') :
      Visited L interval H d' (some s)
  | visit {H : List Visit} {d d' : Disk} {s s' : Store} {settings : Settings} {site : Site}
      {es : List (Event setup Disk)} {r : Except Error Unit} (before : Visited L interval H d (some s))
      (clock : ∀ v ∈ H, v.now.AtMost site.now) (storage : site.storage = L.storage)
      (tagged : settings.package.releaseTag ≠ none) (channel : settings.updates.channel = .nightly)
      (same : settings.updates.interval = interval)
      (course : ((update settings site).plan s).Course (bystanders L) d es (some (r, s')) d') (saved : ¬ L.Unsaved es) :
      Visited L interval (H ++ [⟨site.now, s.record, es, r, s'.record⟩]) d' (some s')

/-- More than so many seconds have passed from one point in time to another. -/
def Apart (interval : UInt64) (t now : Instant) : Prop := interval.toNat * 1000000000 < now.since t

/-- What is known after some visits about the record that is on the disk then. -/
structure Paced (L : Lodging) (interval : UInt64) (H : List Visit) (d : Disk) (r : Record) : Prop where
  even : L.Even d ⟨L.statePath, r⟩
  release : r.releaseId ≠ none
  /-- A settled look is the one that is on record, or that one was an interval later. -/
  recorded : ∀ v ∈ H, v.settled = true → ∃ w ∈ H, r.lastCheck = some w.now ∧
    (w.now = v.now ∨ (v.now.AtMost w.now ∧ Apart interval v.now w.now))
  last : ∀ v ∈ H.getLast?, v.left = r ∧ (v.looks = true → v.vain = true → v.left = v.found)
  apart : H.Pairwise fun v w => v.settled = true → w.looks = true → Apart interval v.now w.now
  next : H.IsChain fun v w => v.looks = true → v.vain = true →
    (w.looks = true ↔ isDue v.found interval w.now = true)

section Paced

variable {L : Lodging} {interval : UInt64} {H : List Visit} {d d' : Disk} {r : Record}

theorem isDue_apart {t now : Instant} (hid : r.releaseId ≠ none) (hcheck : r.lastCheck = some t)
    (h : isDue r interval now = true) : Apart interval t now := by
  obtain ⟨id, hid⟩ := Option.ne_none_iff_exists'.mp hid
  simpa [Apart, isDue, hid, hcheck] using h

theorem Paced.due (h : Paced L interval H d r) {now : Instant} (clock : ∀ v ∈ H, v.now.AtMost now)
    (hdue : isDue r interval now = true) {v : Visit} (hv : v ∈ H) (hs : v.settled = true) : Apart interval v.now now := by
  obtain ⟨w, hw, hcheck, hsame | ⟨hle, hapart⟩⟩ := h.recorded v hv hs
  · exact hsame ▸ isDue_apart h.release hcheck hdue
  · exact hle.since_trans (clock w hw) hapart (isDue_apart h.release hcheck hdue)

theorem Paced.visit (h : Paced L interval H d r) {r' : Record} {site : Site} {es : List (Event setup Disk)}
    {result : Except Error Unit} (clock : ∀ v ∈ H, v.now.AtMost site.now) (hd' : L.Even d' ⟨L.statePath, r'⟩)
    (hid : r'.releaseId ≠ none) (hlooks : looks es = true ↔ isDue r interval site.now = true)
    (hend : (r' = r ∧ (looks es = true → vain es result = true)) ∨
      (looks es = true ∧ vain es result = false ∧ r'.lastCheck = some site.now)) :
    Paced L interval (H ++ [⟨site.now, r, es, result, r'⟩]) d' r' where
  even := hd'
  release := hid
  recorded := by
    intro v hv hs
    obtain hv | hv := List.mem_append.mp hv
    · obtain ⟨hsame, -⟩ | ⟨hl, -, hcheck⟩ := hend
      · obtain ⟨w, hw, hcheck, hor⟩ := h.recorded v hv hs
        rw [← hsame] at hcheck
        exact ⟨w, List.mem_append_left _ hw, hcheck, hor⟩
      -- a new look is on record, and it was due, so it is an interval later
      · exact ⟨_, List.mem_append_right _ (List.mem_singleton_self _), hcheck,
          .inr ⟨clock v hv, h.due clock (hlooks.mp hl) hv hs⟩⟩
    · rw [List.mem_singleton] at hv
      subst hv
      obtain ⟨-, hvain⟩ | ⟨-, -, hcheck⟩ := hend
      · simp only [Visit.settled, Visit.looks, Visit.vain, Bool.and_eq_true, Bool.not_eq_true'] at hs
        simp [hvain hs.1] at hs
      · exact ⟨_, List.mem_append_right _ (List.mem_singleton_self _), hcheck, .inl rfl⟩
  last := by
    intro v hv
    obtain rfl : _ = v := by simpa using hv
    refine ⟨rfl, fun _ hvain => ?_⟩
    obtain ⟨rfl, -⟩ | ⟨-, hnot, -⟩ := hend
    · rfl
    · exact absurd hvain (by simpa [Visit.vain] using hnot)
  apart := by
    refine List.pairwise_append.mpr ⟨h.apart, List.pairwise_singleton .., fun v hv w hw hs hl => ?_⟩
    obtain rfl := List.mem_singleton.mp hw
    exact h.due clock (hlooks.mp hl) hv hs
  next := by
    refine List.isChain_append.mpr ⟨h.next, .singleton _, fun v hv w hw hl hvain => ?_⟩
    obtain rfl : _ = w := by simpa using hw
    obtain ⟨hleft, hfound⟩ := h.last v hv
    rw [← hfound hl hvain, hleft]
    exact hlooks

theorem Visited.paced {mem : Option Store} (h : Visited L interval H d mem) :
    ∃ r, Paced L interval H d r ∧ ∀ s, mem = some s → s = ⟨L.statePath, r⟩ := by
  -- the record is what the paced visits have left, in memory and on the disk
  induction h with
  | @start d r tidy recalled release =>
    exact ⟨r, ⟨⟨tidy, rfl, recalled⟩, release, by simp, by simp, .nil, .nil⟩, by rintro s ⟨⟩⟩
  | meanwhile before hr ih =>
    obtain ⟨r, hp, hmem⟩ := ih
    exact ⟨r, { hp with even := hp.even.respected hr }, hmem⟩
  | loaded before hc ih =>
    obtain ⟨r, hp, -⟩ := ih
    obtain ⟨hpath, hrecalled⟩ := Store.course_load hc
    obtain rfl := Store.load_still hc
    refine ⟨r, hp, ?_⟩
    rintro ⟨path, record⟩ ⟨⟩
    rw [hp.even.recalled] at hrecalled
    cases hrecalled
    cases hpath
    rfl
  | visit before clock storage tagged channel same course saved ih =>
    obtain ⟨r, hp, hmem⟩ := ih
    obtain rfl := hmem _ rfl
    obtain ⟨hd', hid, hlooks, hend⟩ := update_ends hp.even storage tagged channel hp.release course saved
    rename_i s' _ _ _ _
    obtain ⟨path, record⟩ := s'
    obtain rfl : path = L.statePath := hd'.path
    rw [same] at hlooks
    refine ⟨record, hp.visit clock hd' hid hlooks (hend.imp_left fun hs => ⟨?_, hs.2⟩), ?_⟩
    · exact congrArg Store.record hs.1
    · rintro s ⟨⟩
      rfl

/-- After a look that was settled, the next one is more than an interval later, whatever comes between. After one that
came to nothing the record is as it was found, so that the next visit looks again if one was due then. -/
theorem looks_apart {mem : Option Store} (h : Visited L interval H d mem) :
    (H.Pairwise fun v w => v.settled = true → w.looks = true → Apart interval v.now w.now) ∧
      H.IsChain fun v w => v.looks = true → v.vain = true →
        (w.looks = true ↔ isDue v.found interval w.now = true) := by
  obtain ⟨r, hp, -⟩ := h.paced
  exact ⟨hp.apart, hp.next⟩

end Paced

section Concrete

open Server.Trial (lodging₀)
open Solitude (recorded₀ even_recorded₀)

def settings₀ : Settings := ⟨none, none, ⟨.nightly, false, 3600⟩, ⟨"0.1.0", some "nightly"⟩⟩

def site₀ (now : Instant) : Site := ⟨none, none, "x86_64", "linux", lodging₀.storage, false, now⟩

theorem valid_noon : Instant.Valid 2020 7 14 12 0 0 0 := by decide

def noon : Instant := ⟨2020, 7, 14, 12, 0, 0, 0, valid_noon⟩
def soon : Instant := ⟨2020, 7, 14, 12, 0, 10, 0, by decide⟩
def evening : Instant := ⟨2020, 7, 14, 18, 0, 0, 0, by decide⟩

def store₀ : Store := ⟨lodging₀.statePath, ⟨none, some 7, none⟩⟩

/-- The source of releases has the one on record, or it cannot be reached. -/
def online : Solitude := ⟨[], .ok ⟨7, none, none, []⟩, true, .ok (), .error (.os .missing)⟩
def offline : Solitude := ⟨[], .error (.refused tag 503), true, .ok (), .error (.os .missing)⟩

def step₀ (now : Instant) (s : Store) : Plan setup (Except Error Unit × Store) := (update settings₀ (site₀ now)).plan s

def visit₀ (W : Solitude) (now : Instant) (s : Store) (d : Disk) : Visit :=
  ⟨now, s.record, (step₀ now s).events W.serve d, ((step₀ now s).run W.serve d).1.1,
    ((step₀ now s).run W.serve d).1.2.record⟩

theorem visited_run {H : List Visit} {d : Disk} {mem : Option Store} (before : Visited lodging₀ 3600 H d mem)
    (W : Solitude) (hcwd : W.cwd = []) (now : Instant) (clock : ∀ v ∈ H, v.now.AtMost now) (s : Store)
    (loaded : ((Setup.ofKernel (Store.load lodging₀.statePath).plan).run W.serve d).1 = .ok s)
    (saved : ¬ lodging₀.Unsaved ((step₀ now s).events W.serve d)) :
    Visited lodging₀ 3600 (H ++ [visit₀ W now s d]) ((step₀ now s).run W.serve d).2
      (some ((step₀ now s).run W.serve d).1.2) := by
  obtain ⟨es, hload⟩ := W.course_kernel (L := lodging₀) hcwd (Store.load lodging₀.statePath).plan d
  rw [loaded] at hload
  have hd := Store.load_still hload
  rw [hd] at hload
  have hclock : ∀ v ∈ H, v.now.AtMost (site₀ now).now := clock
  have hstorage : (site₀ now).storage = lodging₀.storage := rfl
  have htagged : settings₀.package.releaseTag ≠ none := nofun
  have hcourse := W.course (L := lodging₀) hcwd (step₀ now s) d
  unfold visit₀
  generalize (step₀ now s).run W.serve d = run at hcourse ⊢
  obtain ⟨⟨r, s'⟩, d'⟩ := run
  exact .visit (before.loaded hload) hclock hstorage htagged rfl rfl hcourse saved

theorem visited_start : Visited lodging₀ 3600 [] (recorded₀ store₀.record) none :=
  have heven := even_recorded₀ store₀.record
  .start heven.tidy heven.recalled (by simp [store₀])

theorem clock_next {v : Visit} {now : Instant} (h : v.now.AtMost now) : ∀ w ∈ [v], w.now.AtMost now :=
  List.forall_mem_singleton.mpr h

set_option maxRecDepth 100000 in
/-- Two looks that find the release on record. The second is six hours after the first, which was settled. -/
theorem looks_apart_hours : ∃ v w d mem, Visited lodging₀ 3600 [v, w] d mem ∧ v.settled = true ∧ w.looks = true ∧
    Apart 3600 v.now w.now := by
  have hfirst := visited_run visited_start online rfl noon (by simp) store₀ (by decide +kernel)
    (fun h => Lodging.not_stale (by decide +kernel) h.stale)
  have hsecond := visited_run hfirst online rfl evening (clock_next (.inr ⟨rfl, .inl (by decide)⟩))
    ⟨lodging₀.statePath, ⟨some noon, some 7, none⟩⟩ (by decide +kernel) (fun h => Lodging.not_stale (by decide +kernel) h.stale)
  have hsettled : (visit₀ online noon store₀ (recorded₀ store₀.record)).settled = true := by decide +kernel
  have hlooks : (visit₀ online evening ⟨lodging₀.statePath, ⟨some noon, some 7, none⟩⟩
      ((step₀ noon store₀).run online.serve (recorded₀ store₀.record)).2).looks = true := by decide +kernel
  obtain ⟨hapart, -⟩ := looks_apart hsecond
  exact ⟨_, _, _, _, hsecond, hsettled, hlooks, List.pairwise_pair.mp hapart hsettled hlooks⟩

set_option maxRecDepth 100000 in
/-- Two looks within ten seconds. The first could not reach the source of releases, and recorded nothing. -/
theorem looks_close : ∃ H d mem, Visited lodging₀ 3600 H d mem ∧
    ¬ H.Pairwise fun v w => v.looks = true → w.looks = true → Apart 3600 v.now w.now := by
  have hfirst := visited_run visited_start offline rfl noon (by simp) store₀ (by decide +kernel)
    (fun h => Lodging.not_stale (by decide +kernel) h.stale)
  have hsecond := visited_run hfirst offline rfl soon (clock_next (.inr ⟨rfl, .inl (by decide)⟩)) store₀
    (by decide +kernel) (fun h => Lodging.not_stale (by decide +kernel) h.stale)
  refine ⟨_, _, _, hsecond, fun hapart => ?_⟩
  have hclose : ¬ Apart 3600 noon soon := by
    unfold Apart
    decide
  exact hclose (List.pairwise_pair.mp hapart (by decide +kernel) (by decide +kernel))

end Concrete

end Provision.Nightly
