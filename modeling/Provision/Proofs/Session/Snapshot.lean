import Provision.Program
import Provision.Proofs.Nightly.Pace

/-!
What a session says about the record, and what is on the disk then. The two agree after every start that succeeds,
unless a save has failed on the way and none has succeeded since.
-/

set_option autoImplicit false

namespace Provision

namespace Lodging

variable {L : Lodging}

theorem Mild.not_publishes {e : Event setup Disk} (h : L.Mild e.call) : L.publishes e = false := by
  have hother : ∀ {n : Name} {q : Path}, L.Binary n → ¬ (L.storage / ⟨n⟩ = L.storage / ⟨draftName⟩ ∧ q = L.statePath) := by
    rintro n q hn ⟨he, -⟩
    exact (Lodged.apart_binary hn).2 (Path.join_injective L.storage hn.plain plain_draft he)
  obtain ⟨c, r, t⟩ := e
  obtain h | h | h := h
  · cases c with
    | kernel c =>
      cases c with
      | rename p q =>
        have hpq : ¬ (p = L.storage / ⟨draftName⟩ ∧ q = L.statePath) := by
          obtain ⟨rfl, -⟩ | ⟨rfl, -⟩ := h
          · exact hother (.inl rfl)
          · rw [L.aside_eq]
            exact hother (.inr rfl)
        simp only [publishes, Bool.and_eq_false_iff, decide_eq_false_iff_not]
        exact .inl (not_and_or.mp hpq)
      | _ => rfl
    | _ => rfl
  · obtain rfl : c = _ := h
    rfl
  · cases c with
    | kernel k => exact absurd rfl (h k)
    | _ => rfl

/-- What is known of the record and the disk when some calls have been answered. -/
structure Held (L : Lodging) (es : List (Event setup Disk)) (d : Disk) (s : Store) : Prop where
  tidy : L.Tidy d
  path : s.path = L.statePath
  even : L.Stale es ∨ L.Even d s

variable {d d' : Disk} {s s' : Store} {es es' : List (Event setup Disk)}

theorem Held.keeps (h : L.Held es d s) {α : Type} {p : Plan setup α} (hp : p.Uses L.Mild) {o : Option α}
    (hc : p.Course (bystanders L) d es' o d') : L.Held (es ++ es') d' s := by
  refine ⟨(h.tidy.keeps hp hc).1, h.path, h.even.imp ?_ fun he => he.keeps hp hc⟩
  rintro ⟨es₁, es₂, rfl, hu, hq⟩
  refine ⟨es₁, es₂ ++ es', by simp, hu, fun e he => ?_⟩
  obtain he | he := List.mem_append.mp he
  · exact hq e he
  · exact Mild.not_publishes (hc.uses hp e he)

theorem Held.saved (h : L.Held es d s) (hp : s'.path = L.statePath) {r : Except Error Unit}
    (hc : (Setup.ofKernel s'.save.plan).Course (bystanders L) d es' (some r) d') : L.Held (es ++ es') d' s' := by
  obtain ⟨hd', hsaved⟩ := h.tidy.saved hp hc
  refine ⟨hd', hp, ?_⟩
  cases r with
  | ok u => exact .inr (hsaved rfl)
  | error e => exact .inl ⟨es ++ es', [], by simp, ⟨es, es', rfl, saveFails_of_course hp hc⟩, by simp⟩

def Tracks (L : Lodging) {β : Type} (p : Plan setup (β × Store)) (s : Store) : Prop :=
  ∀ es d, L.Held es d s → ∀ es' r s' d', p.Course (bystanders L) d es' (some (r, s')) d' → L.Held (es ++ es') d' s'

section Tracks

variable {α β : Type}

theorem tracks_done (r : β) : L.Tracks (.done (r, s)) s := by
  intro es d h es' r' s' d' hc
  obtain ⟨rfl, ho, rfl⟩ := hc.of_done
  cases ho
  rwa [List.append_nil]

theorem tracks_mild {p : Plan setup α} {f : α → Plan setup (β × Store)} (hp : p.Uses L.Mild)
    (hf : ∀ a, L.Tracks (f a) s) : L.Tracks (p.bind f) s := by
  intro es d h es' r s' d' hc
  obtain ⟨a, t, es₁, es₂, rfl, hp', hrest⟩ := hc.of_bind_some
  rw [← List.append_assoc]
  exact hf a _ _ (h.keeps hp hp') _ _ _ _ hrest

theorem tracks_save {s₁ : Store} {f : Except Error Unit → Plan setup (β × Store)} (hp : s₁.path = L.statePath)
    (hf : ∀ r, L.Tracks (f r) s₁) : L.Tracks ((Setup.ofKernel s₁.save.plan).bind f) s := by
  intro es d h es' r s' d' hc
  obtain ⟨a, t, es₁, es₂, rfl, hp', hrest⟩ := hc.of_bind_some
  rw [← List.append_assoc]
  exact hf a _ _ (h.saved hp hp') _ _ _ _ hrest

end Tracks

end Lodging

namespace Nightly

variable {L : Lodging} {site : Site} {s : Store}

theorem tracks_ask {deed : Deed} {k : deed.Reply → Script} (hd : deed.IsForPackage L)
    (hk : ∀ r, L.Tracks ((k r).lower Deed.plan) s) : L.Tracks ((Plan.ask (I := deeds) deed k).lower Deed.plan) s :=
  Lodging.tracks_mild (deed.mild hd) hk

theorem tracks_saving {s₁ : Store} {next : Script} (hp : s₁.path = L.statePath)
    (hnext : L.Tracks (next.lower Deed.plan) s₁) : L.Tracks ((Script.saving s₁ next).lower Deed.plan) s := by
  refine Lodging.tracks_save hp fun r => ?_
  cases r with
  | ok u => exact hnext
  | error e => exact Lodging.tracks_done _

theorem tracks_recording (hp : s.path = L.statePath) (id : UInt64) :
    L.Tracks ((Script.recording site id s).lower Deed.plan) s := by
  refine tracks_saving hp (tracks_saving hp ?_)
  exact tracks_ask trivial fun _ => tracks_ask trivial fun _ => Lodging.tracks_done _

theorem tracks_installing (hp : s.path = L.statePath) (storage : site.storage = L.storage) (url : String) (id : UInt64) :
    L.Tracks ((Script.installing site url id s).lower Deed.plan) s := by
  refine tracks_ask trivial fun r => ?_
  cases r with
  | error e => exact Lodging.tracks_done _
  | ok u =>
    refine tracks_ask trivial fun installed => tracks_ask (packageOf_eq storage) fun r => ?_
    cases r with
    | error e => exact Lodging.tracks_done _
    | ok u =>
      cases installed with
      | error chain => exact Lodging.tracks_done _
      | ok u => exact tracks_recording hp id

theorem tracks_offering (hp : s.path = L.statePath) (storage : site.storage = L.storage) (release : Release) :
    L.Tracks ((Script.offering site release s).lower Deed.plan) s := by
  refine tracks_ask trivial fun agreed => ?_
  cases agreed with
  | false => exact Lodging.tracks_done _
  | true =>
    dsimp only
    cases release.asset? asset with
    | none => exact Lodging.tracks_done _
    | some a => exact tracks_installing hp storage a.url release.id

theorem tracks_looking (hp : s.path = L.statePath) (storage : site.storage = L.storage) :
    L.Tracks ((Script.looking site s).lower Deed.plan) s := by
  refine tracks_ask trivial fun r => ?_
  cases r with
  | error e =>
    refine tracks_ask trivial fun _ => ?_
    split
    · exact tracks_ask trivial fun _ => Lodging.tracks_done _
    · exact Lodging.tracks_done _
  | ok release =>
    dsimp only
    split
    · exact tracks_saving hp (Lodging.tracks_done _)
    · exact tracks_offering hp storage release

theorem tracks_update (hp : s.path = L.statePath) (storage : site.storage = L.storage) (settings : Settings) :
    L.Tracks ((update settings site).plan s) s := by
  rw [plan_script]
  unfold script
  split
  · exact Lodging.tracks_done _
  · split
    · exact tracks_ask trivial fun _ => Lodging.tracks_done _
    · exact Lodging.tracks_done _
  · split
    · exact tracks_looking hp storage
    · exact Lodging.tracks_done _

end Nightly

namespace Server

variable {L : Lodging} {settings : Settings} {site : Site} {tool : Path} {s : Store}

theorem tracks_ask {deed : Deed} {k : deed.Reply → Script} (hd : deed.IsForBinary L)
    (hk : ∀ r, L.Tracks ((k r).lower Deed.plan) s) : L.Tracks ((Plan.ask (I := deeds) deed k).lower Deed.plan) s :=
  Lodging.tracks_mild (hd.uses.mono fun _ h => .inl h) hk

theorem tracks_saving {s₁ : Store} {next : Script} (hp : s₁.path = L.statePath)
    (hnext : L.Tracks (next.lower Deed.plan) s₁) : L.Tracks ((Script.saving s₁ next).lower Deed.plan) s := by
  refine Lodging.tracks_save hp fun r => ?_
  cases r with
  | ok u => exact hnext
  | error e => exact Lodging.tracks_done _

theorem tracks_patching (hp : s.path = L.statePath) :
    L.Tracks ((Script.patching settings site tool L.dest s).lower Deed.plan) s := by
  have hrecording : L.Tracks ((Script.recording settings site L.dest s).lower Deed.plan) s :=
    tracks_saving hp (tracks_saving hp (tracks_ask trivial fun _ => Lodging.tracks_done _))
  unfold Script.patching
  split
  · refine tracks_ask rfl fun r => ?_
    cases r with
    | error e => exact Lodging.tracks_done _
    | ok u => exact hrecording
  · exact hrecording

theorem tracks_installing (hp : s.path = L.statePath) (tag binary : String) :
    L.Tracks ((Script.installing settings site tool tag binary L.dest s).lower Deed.plan) s := by
  refine tracks_ask trivial fun r => ?_
  cases r with
  | error e => exact Lodging.tracks_done _
  | ok release =>
    dsimp only
    cases release.asset? binary with
    | none => exact Lodging.tracks_done _
    | some asset =>
      refine tracks_ask rfl fun r => ?_
      cases r with
      | error e => exact Lodging.tracks_done _
      | ok u =>
        refine tracks_ask trivial fun r => ?_
        cases r with
        | error e => exact Lodging.tracks_done _
        | ok u => exact tracks_patching hp

theorem tracks_deciding (hp : s.path = L.statePath) (tag binary : String) :
    L.Tracks ((Script.deciding settings site tool tag binary L.dest s).lower Deed.plan) s := by
  unfold Script.deciding
  split
  · exact Lodging.tracks_done _
  · split
    · refine tracks_ask trivial fun agreed => ?_
      cases agreed with
      | true => exact tracks_installing hp tag binary
      | false => exact tracks_ask trivial fun _ => Lodging.tracks_done _
    · exact tracks_installing hp tag binary

theorem tracks_get (hp : s.path = L.statePath) (storage : site.storage = L.storage)
    (platform : ∀ p, Platform.detect site.arch site.os = .ok p → p = L.platform) :
    L.Tracks ((get settings site tool).plan s) s := by
  rw [plan_get]
  unfold script
  split
  · exact Lodging.tracks_done _
  · exact Lodging.tracks_done _
  · cases hdetect : Platform.detect site.arch site.os with
    | error e => exact Lodging.tracks_done _
    | ok p =>
      obtain rfl := platform p hdetect
      dsimp only
      rw [placeOf_eq L storage]
      refine tracks_ask trivial fun there => ?_
      cases there with
      | true => exact tracks_deciding hp _ _
      | false =>
        dsimp only
        have hstamped : (stamped s none).path = L.statePath := hp
        split
        · exact tracks_saving hstamped (tracks_deciding hstamped _ _)
        · exact tracks_deciding hp _ _

end Server

namespace Session

variable {L : Lodging} {d d' : Disk} {es : List (Event setup Disk)} {s : Store}

theorem uses_log (level : Log.Level) (source : Log.Source) (text : String) :
    (Setup.ofKernel (Kernel.log level source text)).Uses (I := setup) L.Mild :=
  Setup.uses_ofKernel (p := Kernel.log level source text) ⟨.inl trivial, fun _ => trivial⟩

theorem uses_probe (server : Path) : (Setup.ofKernel (probe server)).Uses (I := setup) L.Mild := by
  refine Setup.uses_ofKernel (p := probe server) ⟨.inl trivial, fun r => ?_⟩
  cases r <;> exact trivial

theorem tracks_nightlyStep {settings : Settings} {site : Site} (hp : s.path = L.statePath)
    (storage : site.storage = L.storage) (wanted : Bool) {es₀ : List (Event setup Disk)} (h : L.Held es₀ d s) {s' : Store}
    (hc : (nightlyStep settings site wanted s).Course (bystanders L) d es (some s') d') : L.Held (es₀ ++ es) d' s' := by
  cases wanted with
  | false =>
    obtain ⟨rfl, ho, rfl⟩ := Plan.Course.of_done hc
    cases ho
    rwa [List.append_nil]
  | true =>
    obtain ⟨⟨r, s₁⟩, t, es₁, es₂, rfl, hstep, hrest⟩ := Plan.Course.of_bind_some hc
    have ht := Nightly.tracks_update hp storage settings _ _ h _ _ _ _ hstep
    rw [← List.append_assoc]
    cases r with
    | ok u =>
      obtain ⟨rfl, ho, rfl⟩ := Plan.Course.of_done hrest
      cases ho
      rwa [List.append_nil]
    | error e =>
      obtain ⟨u, t', es₃, es₄, rfl, hlog, hrest⟩ := Plan.Course.of_bind_some hrest
      obtain ⟨rfl, ho, rfl⟩ := Plan.Course.of_done hrest
      cases ho
      rw [List.append_nil]
      exact ht.keeps (uses_log _ _ _) hlog

theorem activate_held {settings : Settings} {site : Site} {wanted : Bool} (tidy : L.Tidy d)
    (storage : site.storage = L.storage) (platform : ∀ p, Platform.detect site.arch site.os = .ok p → p = L.platform)
    {session : Session} (hc : (activate settings site wanted).Course (bystanders L) d es (some (.ok session)) d') :
    L.Held es d' session.store := by
  have hpath : site.storage / Store.fileName = L.statePath := by
    rw [storage]
    rfl
  unfold activate at hc
  rw [hpath] at hc
  obtain ⟨r, t₁, es₁, es₂, rfl, hload, hc₁⟩ := Plan.Course.of_bind_some hc
  cases r with
  | error e =>
    obtain ⟨-, ho, -⟩ := Plan.Course.of_done hc₁
    cases ho
  | ok s =>
  obtain ⟨es', rfl, hload'⟩ := Setup.course_ofKernel hload
  obtain ⟨hs, hrecalled⟩ := Store.course_load hload'
  obtain rfl := Store.load_still hload'
  -- what is known behind the load is kept by the nightly step, the search and the probe
  have hstart : L.Held (es'.map Setup.ofEvent) t₁ s := ⟨tidy, hs, .inr ⟨tidy, hs, hrecalled⟩⟩
  obtain ⟨s₁, t₂, es₃, es₄, rfl, hnightly, hc₂⟩ := Plan.Course.of_bind_some hc₁
  have h₁ := tracks_nightlyStep hs storage wanted hstart hnightly
  obtain ⟨⟨found, s₂⟩, t₃, es₅, es₆, rfl, hserver, hc₃⟩ := Plan.Course.of_bind_some hc₂
  have h₂ := Server.tracks_get h₁.path storage platform _ _ h₁ _ _ _ _ hserver
  cases found with
  | error e =>
    obtain ⟨u, _, _, _, -, -, hc₄⟩ := Plan.Course.of_bind_some hc₃
    obtain ⟨-, ho, -⟩ := Plan.Course.of_done hc₄
    cases ho
  | ok server =>
  obtain ⟨started, t₄, es₇, es₈, rfl, hprobe, hc₄⟩ := Plan.Course.of_bind_some hc₃
  have h₃ := h₂.keeps (uses_probe server) hprobe
  cases started with
  | false =>
    obtain ⟨u, _, _, _, -, -, hc₅⟩ := Plan.Course.of_bind_some hc₄
    obtain ⟨-, ho, -⟩ := Plan.Course.of_done hc₅
    cases ho
  | true =>
    obtain ⟨u, t₅, es₉, es₁₀, rfl, hlog, hc₅⟩ := Plan.Course.of_bind_some hc₄
    have h₄ := h₃.keeps (uses_log _ _ _) hlog
    obtain ⟨rfl, ho, rfl⟩ := Plan.Course.of_done hc₅
    cases ho
    simpa using h₄

/-- What the command that shows the state says on a session, the program prints that is started for the same storage
directory afterwards: the record in memory is the one that is read back from the disk. -/
theorem state_persisted {settings : Settings} {site : Site} {wanted : Bool} (tidy : L.Tidy d)
    (storage : site.storage = L.storage) (platform : ∀ p, Platform.detect site.arch site.os = .ok p → p = L.platform)
    {session : Session} (hc : (activate settings site wanted).Course (bystanders L) d es (some (.ok session)) d')
    (saved : ¬ L.Stale es) :
    ∃ text, Command.run session .state = .done (.ok text) ∧
      ∀ (m m' : Machine) (line : CommandLine) (v : Surroundings) (s : Settings),
        m.run (Program.settings line v).plan = (.ok s, m') → s.storage v = L.storage →
        m'.disk.read m'.cwd L.statePath = d'.read L.cwd L.statePath →
        (m'.run (Store.load L.statePath).plan).1 = .ok session.store ∧ (m.run (Program.state line v).plan).1 = .ok text := by
  obtain hstale | heven := (activate_held tidy storage platform hc).even
  · exact absurd hstale saved
  refine ⟨_, rfl, fun m m' line v s hsettings hstorage hread => ?_⟩
  have hload : (m'.run (Store.load L.statePath).plan).1 = .ok session.store := by
    refine (Store.load_run Machine.serve m' L.statePath session.store).mpr ⟨heven.path, ?_⟩
    rw [← heven.recalled, ← hread]
    rfl
  refine ⟨hload, ?_⟩
  have hpath : s.storage v / Store.fileName = L.statePath := by
    rw [hstorage]
    rfl
  unfold Machine.run at hsettings hload ⊢
  rw [Program.state, Attempt.plan_bind, Plan.run_bind, hsettings]
  dsimp only
  rw [Attempt.plan_bind, Plan.run_bind, Attempt.run_ofReply, hpath, hload]
  rfl

section Concrete

open Server.Trial (lodging₀)
open Solitude (recorded₀ get?_recorded₀ homely_recorded₀)
open Nightly (settings₀ noon store₀ online)

/-- A start with a server of the user's own, which can be started. -/
def site₀ : Site := { Nightly.site₀ noon with serverPath := some "/srv" }

def ready : Solitude := { online with launched := .ok ⟨.code 0, ByteArray.empty, ByteArray.empty⟩ }

def start₀ : Plan setup (Except (List String) Session) := activate settings₀ site₀ true

/-- The program that prints the state, with a settings file that names the storage directory. -/
def line₀ : CommandLine := ⟨some "/c", false, false, .state⟩
def surroundings₀ : Surroundings := ⟨"/h", none, none, none, none, none, noon⟩
def told₀ : Settings := ⟨none, some "/s", .default, .default⟩

def settingsPlace : Place := ["c".toList]

def disk₁ : Disk := (recorded₀ store₀.record).addFile settingsPlace Disk.plainMode "storage_dir = \"/s\"".toUTF8

theorem homely_disk₁ : lodging₀.Homely lodging₀.home disk₁ := by
  have h := homely_recorded₀ store₀.record
  have hfree : (recorded₀ store₀.record).get? settingsPlace = none := by decide +kernel
  have hget := Disk.get?_addFile (recorded₀ store₀.record) (p := settingsPlace) (by decide) Disk.plainMode
    "storage_dir = \"/s\"".toUTF8
  refine ⟨h.lodged.around (by decide) ?_ (by simp [hfree]) (by simp [hfree])
    (h.lodged.sound.addFile rfl hfree _ _) fun p hp => (hget p).trans (if_neg hp), fun target => ?_⟩
  · rintro ⟨n, -, hs⟩
    exact absurd hs.length_le (by simp [settingsPlace, Lodging.movedTo, lodging₀])
  · refine ((hget _).trans (if_neg ?_)) ▸ h.package target
    decide

set_option maxRecDepth 100000 in
/-- A start whose nightly step finds the release on record and records the time. -/
theorem state_persisted_nightly : ∃ session d' text, start₀.run ready.serve disk₁ = (.ok session, d') ∧
    session.store.record = ⟨some noon, some 7, none⟩ ∧ Command.run session .state = .done (.ok text) ∧
      ((ready.machine d').run (Program.state line₀ surroundings₀).plan).1 = .ok text := by
  have hc := ready.course (L := lodging₀) rfl start₀ disk₁
  have hrun : (start₀.run ready.serve disk₁).1 = .ok ⟨⟨lodging₀.statePath, ⟨some noon, some 7, none⟩⟩, "/srv"⟩ := by
    decide +kernel
  have hsaved : ¬ lodging₀.Stale (start₀.events ready.serve disk₁) := Lodging.not_stale (by decide +kernel)
  have hsettings : ((ready.machine (start₀.run ready.serve disk₁).2).run (Program.settings line₀ surroundings₀).plan).1 =
      .ok told₀ := by decide +kernel
  have hplatform : ∀ p, Platform.detect site₀.arch site₀.os = .ok p → p = lodging₀.platform := by
    rintro p ⟨⟩
    rfl
  rw [hrun] at hc
  obtain ⟨text, hshown, hprinted⟩ := state_persisted (L := lodging₀) (.inl ⟨_, homely_disk₁⟩) rfl hplatform hc hsaved
  exact ⟨_, _, text, Prod.ext hrun rfl, rfl, hshown,
    (hprinted _ _ line₀ surroundings₀ told₀ (Prod.ext hsettings rfl) (by decide) (by decide +kernel)).2⟩

/-- A directory stands where the draft of the record would be written. -/
def disk₂ : Disk := disk₁.put lodging₀.draft .dir

set_option maxRecDepth 100000 in
/-- The time of the look could not be saved, which is only logged. The session says what the disk does not. -/
theorem state_lost : ∃ session d' text, start₀.run ready.serve disk₂ = (.ok session, d') ∧
    Command.run session .state = .done (.ok text) ∧
      ((ready.machine d').run (Program.state line₀ surroundings₀).plan).1 ≠ .ok text := by
  have hrun : (start₀.run ready.serve disk₂).1 = .ok ⟨⟨lodging₀.statePath, ⟨some noon, some 7, none⟩⟩, "/srv"⟩ := by
    decide +kernel
  exact ⟨_, _, _, Prod.ext hrun rfl, rfl, by decide +kernel⟩

end Concrete

end Session

end Provision
