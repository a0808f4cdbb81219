import Provision.Proofs.Store
import Provision.Terminal
import Provision.Proofs.Download.Status
import Provision.Proofs.Fetch.Success
import Provision.Proofs.Reach
import Provision.Proofs.Server.Trial

/-!
Finding the server with releases and binaries from the network. Before a version is recorded, the binary was downloaded
and is the complete body of an answer whose status tells of no error, or was patched from it.
-/

set_option autoImplicit false

namespace Provision

namespace Setup

/-- Setting up with releases and files from the network: whoever asks the user leaves the disk alone. -/
def networked (cwd : Place) (token : Option String) : Law setup Disk
  | .kernel c, d, r, d' => Kernel.strict cwd c d r d'
  | .fetch tag, d, r, d' =>
    ∃ es, (Fetch.release Fetch.releaseRepo tag token).Course (Kernel.strict cwd) d es (some r) d'
  | .download url dest mode _, d, r, d' =>
    ∃ es, (Download.file (some Fetch.userAgent) url dest mode).plan.Course (Kernel.strict cwd) d es (some r) d'
  | .install _, _, _, _ => True
  | .confirm _ _, d, _, d' => d' = d
  | .warn _, d, _, d' => d' = d
  | .showError _, d, _, d' => d' = d
  | .reload, d, _, d' => d' = d

theorem networked_terminal {cwd : Place} {token : Option String} {yes : Bool} {c : setup.Call} {d d' : Disk}
    {r : setup.Reply c} (h : Plan.Carried (Kernel.strict cwd) (Terminal.carry yes token) c d r d') :
    networked cwd token c d r d' := by
  obtain ⟨es, hc⟩ := h
  cases c with
  | kernel c => exact hc.of_call_some
  | fetch tag => exact ⟨es, hc⟩
  | download url dest mode label => exact ⟨es, hc⟩
  | install package => exact trivial
  | confirm message action =>
    have hstill : ∀ entry answer, Plan.Course (Kernel.strict cwd) (.ask (I := kernel) (.log entry) fun _ => .done answer) d es
        (some r) d' → d' = d := by
      intro entry answer hc
      obtain ⟨_, t, _, -, rfl, hdone⟩ := hc.of_ask_some
      exact hdone.of_done.2.2
    cases yes with
    | false => exact hstill _ _ hc
    | true => exact hstill _ _ hc
  | warn message => exact hc.of_call_some
  | showError message => exact hc.of_call_some
  | reload => exact hc.of_call_some

theorem course_networked {α : Type} {cwd : Place} {token : Option String} {yes : Bool} {p : Plan setup α} {d d' : Disk}
    {es : List (Event kernel Disk)} {a : α} (hc : (Terminal.run yes token p).Course (Kernel.strict cwd) d es (some a) d') :
    ∃ es', p.Course (networked cwd token) d es' (some a) d' := by
  obtain ⟨_, past, ho, hpast⟩ | ⟨ho, -⟩ := Plan.Course.reaches hc
  · cases ho
    exact ⟨past, hpast.mono fun _ _ _ _ => networked_terminal⟩
  · cases ho

end Setup

namespace Server

open Download (Kept)

variable {settings : Settings} {site : Site} {tool dest : Path} {tag binary url : String} {s st : Store} {cwd : Place}
  {token : Option String} {d t u : Disk} {past : List (Event deeds Disk)}

/-- What a deed can come to with releases and files from the network. -/
abbrev Deed.met (cwd : Place) (token : Option String) : Law deeds Disk :=
  Plan.Carried (Setup.networked cwd token) Deed.plan

namespace Deed

theorem sound_ofKernel {α : Type} {p : Plan kernel α} {es : List (Event setup Disk)} {o : Option α} (hd : d.Sound)
    (hp : p.Uses (I := kernel) Kernel.Direct) (hc : (Setup.ofKernel p).Course (Setup.networked cwd token) d es o t) :
    t.Sound := by
  obtain ⟨es', -, hc⟩ := Setup.course_ofKernel hc
  exact Kernel.sound_of_course hp hd (show p.Course (Kernel.strict cwd) d es' o t from hc)

theorem sound_look (hd : d.Sound) {r : Bool} (h : met cwd token (.look dest) d r t) : t.Sound := by
  obtain ⟨es, hc⟩ := h
  refine sound_ofKernel (p := Kernel.exists_ dest) hd ⟨nofun, fun r => ?_⟩ hc
  cases r <;> exact trivial

theorem sound_save (hd : d.Sound) {r : Except Error Unit} (h : met cwd token (.save s) d r t) : t.Sound := by
  obtain ⟨es, hc⟩ := h
  refine sound_ofKernel hd (s.saves_save.mono ?_) hc
  rintro c hc program args input rfl
  exact hc

theorem sound_of_fetch {job : Plan kernel (Except Error Release)}
    (hjob : Fetch.release Fetch.releaseRepo tag token = job) (hd : d.Sound) {r : Except Error Release}
    (h : ∃ es, job.Course (Kernel.strict cwd) d es (some r) t) : t.Sound := by
  obtain ⟨es, hfetch⟩ := h
  exact Kernel.sound_of_course (Fetch.direct_release hjob) hd hfetch

theorem sound_fetch (hd : d.Sound) {r : Except Error Release} (h : met cwd token (.fetch tag) d r t) : t.Sound := by
  obtain ⟨es, hc⟩ := h
  have hfetch : Setup.networked cwd token (.fetch tag) d r t := hc.of_call_some
  exact sound_of_fetch rfl hd hfetch

theorem sound_confirm (hd : d.Sound) {message action : String} {r : Bool} (h : met cwd token (.confirm message action) d r t) :
    t.Sound := by
  obtain ⟨es, hc⟩ := h
  obtain rfl : t = d := hc.of_call_some
  exact hd

theorem sound_remove (hd : d.Sound) {r : Except Fault Unit} (h : met cwd token (.remove dest) d r t) : t.Sound := by
  obtain ⟨es, hc⟩ := h
  refine sound_ofKernel (p := Setup.removeStale dest) hd ⟨nofun, fun r => ?_⟩ hc
  cases r with
  | ok u => exact trivial
  | error e =>
    show Plan.Uses _ (if e.isMissing = true then _ else _)
    split <;> exact trivial

end Deed

def Patched (site : Site) (tool dest : Path) (t : Disk) (past : List (Event deeds Disk)) (u : Disk) : Prop :=
  (site.patches = false ∧ past = [] ∧ u = t) ∨ (site.patches = true ∧ past = [⟨.patch tool dest, .ok (), u⟩])

/-- The version has been saved before, or nothing has been done. -/
def Resaved (settings : Settings) (t : Disk) (past : List (Event deeds Disk)) (u : Disk) : Prop :=
  (past = [] ∧ u = t) ∨
    ∃ st, past = [⟨.save st, .ok (), u⟩] ∧ st.record.serverVersion = some settings.package.version

/-- The old binary was removed and the new one downloaded, and that was kept. It was patched if it has to be, and the
version was saved at most once since then. -/
def Earned (settings : Settings) (site : Site) (tool dest : Path) (cwd : Place) (past : List (Event deeds Disk)) (u : Disk) :
    Prop :=
  ∃ before url label d es t patch v save,
    past = before ++ ⟨.remove dest, .ok (), d⟩ :: ⟨.download url dest (some executableMode) label, .ok (), t⟩ :: (patch ++ save) ∧
    (Download.file (some Fetch.userAgent) url dest (some executableMode)).plan.Course (Kernel.strict cwd) d es
      (some (.ok ())) t ∧
    Kept cwd dest (some executableMode) (es.filterMap Http.answer?) d t ∧
    Patched site tool dest t patch v ∧ Resaved settings v save u

theorem Earned.behind (h : Earned settings site tool dest cwd past u) (e : Event deeds Disk) :
    Earned settings site tool dest cwd (e :: past) u := by
  obtain ⟨before, url, label, d, es, t, patch, v, save, rfl, h⟩ := h
  exact ⟨e :: before, url, label, d, es, t, patch, v, save, rfl, h⟩

section Reached

theorem reaches_orFail {ε : Type} {wrap : ε → Error} {next : Script} {r : Except ε Unit} {c : Deed} {law : Law deeds Disk}
    (h : (Script.orFail s wrap next r).Reaches law d past c u) : r = .ok () ∧ next.Reaches law d past c u := by
  cases r with
  | error e => cases h
  | ok r => exact ⟨rfl, h⟩

theorem saved_of_recording (h : (Script.recording settings site dest s).Reaches (Deed.met cwd token) d past (.save st) u) :
    st.record.serverVersion = some settings.package.version ∧ Resaved settings d past u := by
  -- the record is saved with the version, and then with the time of the check as well
  obtain ⟨rfl, hst, rfl⟩ | ⟨r, t, later, rfl, -, h₁⟩ := h.of_ask
  · cases hst
    exact ⟨rfl, .inl ⟨rfl, rfl⟩⟩
  obtain ⟨rfl, h₁⟩ := reaches_orFail h₁
  obtain ⟨rfl, hst, rfl⟩ | ⟨r, t', later, rfl, -, h₂⟩ := h₁.of_ask
  · cases hst
    exact ⟨rfl, .inr ⟨_, rfl, rfl⟩⟩
  obtain ⟨rfl, h₂⟩ := reaches_orFail h₂
  obtain ⟨-, hst, -⟩ | ⟨r, t'', later, rfl, -, h₃⟩ := h₂.of_ask
  · cases hst
  · cases h₃

theorem saved_of_patching (h : (Script.patching settings site tool dest s).Reaches (Deed.met cwd token) d past (.save st) u) :
    st.record.serverVersion = some settings.package.version ∧
      ∃ patch v save, past = patch ++ save ∧ Patched site tool dest d patch v ∧ Resaved settings v save u := by
  unfold Script.patching at h
  split at h
  · rename_i hpatches
    obtain ⟨-, hst, -⟩ | ⟨r, t, later, rfl, -, h₁⟩ := h.of_ask
    · cases hst
    obtain ⟨rfl, h₁⟩ := reaches_orFail h₁
    obtain ⟨hst, hsaved⟩ := saved_of_recording h₁
    exact ⟨hst, [_], t, later, rfl, .inr ⟨hpatches, rfl⟩, hsaved⟩
  · rename_i hpatches
    obtain ⟨hst, hsaved⟩ := saved_of_recording h
    exact ⟨hst, [], d, past, rfl, .inl ⟨by simpa using hpatches, rfl, rfl⟩, hsaved⟩

theorem saved_of_replacing (hd : d.Sound)
    (h : (Script.replacing settings site tool url dest s).Reaches (Deed.met cwd token) d past (.save st) u) :
    st.record.serverVersion = some settings.package.version ∧ Earned settings site tool dest cwd past u := by
  obtain ⟨-, hst, -⟩ | ⟨r, d₁, later, rfl, hremove, h₁⟩ := h.of_ask
  · cases hst
  obtain ⟨rfl, h₁⟩ := reaches_orFail h₁
  obtain ⟨-, hst, -⟩ | ⟨r, t, later, rfl, ⟨es', hdownload⟩, h₂⟩ := h₁.of_ask
  · cases hst
  obtain ⟨rfl, h₂⟩ := reaches_orFail h₂
  obtain ⟨es, hfile⟩ := hdownload.of_call_some
  have hd₁ := Deed.sound_remove hd hremove
  obtain ⟨-, hkept⟩ | ⟨⟨e, he⟩, -⟩ := Download.kept_or_untouched hd₁ hfile
  · obtain ⟨hst, patch, v, save, rfl, hpatched, hsaved⟩ := saved_of_patching h₂
    exact ⟨hst, [], url, _, d₁, es, t, patch, v, save, rfl, hfile, hkept, hpatched, hsaved⟩
  · cases he

theorem saved_of_installing (hd : d.Sound)
    (h : (Script.installing settings site tool tag binary dest s).Reaches (Deed.met cwd token) d past (.save st) u) :
    st.record.serverVersion = some settings.package.version ∧ Earned settings site tool dest cwd past u := by
  obtain ⟨-, hst, -⟩ | ⟨r, t, later, rfl, hfetch, h₁⟩ := h.of_ask
  · cases hst
  have ht := Deed.sound_fetch hd hfetch
  cases r with
  | error e => cases h₁
  | ok release =>
    dsimp only at h₁
    split at h₁
    · cases h₁
    · exact (saved_of_replacing ht h₁).imp_right fun h => h.behind _

theorem saved_of_deciding (hd : d.Sound)
    (h : (Script.deciding settings site tool tag binary dest s).Reaches (Deed.met cwd token) d past (.save st) u) :
    st.record.serverVersion = some settings.package.version ∧ Earned settings site tool dest cwd past u := by
  unfold Script.deciding at h
  split at h
  · cases h
  split at h
  · obtain ⟨-, hst, -⟩ | ⟨r, t, later, rfl, hconfirm, h₁⟩ := h.of_ask
    · cases hst
    cases r with
    | true => exact (saved_of_installing (Deed.sound_confirm hd hconfirm) h₁).imp_right fun h => h.behind _
    | false =>
      obtain ⟨-, hst, -⟩ | ⟨r, t', later, rfl, -, h₂⟩ := h₁.of_ask
      · cases hst
      · cases h₂
  · exact saved_of_installing hd h

theorem saved_of_looking (hd : d.Sound)
    (h : (Script.looking settings site tool tag binary dest s).Reaches (Deed.met cwd token) d past (.save st) u) {w : String}
    (hw : st.record.serverVersion = some w) :
    w = settings.package.version ∧ Earned settings site tool dest cwd past u := by
  have hdecided : ∀ {s d past}, d.Sound →
      (Script.deciding settings site tool tag binary dest s).Reaches (Deed.met cwd token) d past (.save st) u →
      w = settings.package.version ∧ Earned settings site tool dest cwd past u := by
    intro s d past hd h
    obtain ⟨hst, hearned⟩ := saved_of_deciding hd h
    exact ⟨Option.some.inj (hw.symm.trans hst), hearned⟩
  obtain ⟨-, hst, -⟩ | ⟨there, t, later, rfl, hlook, h₁⟩ := h.of_ask
  · cases hst
  have ht := Deed.sound_look hd hlook
  cases there with
  | true => exact (hdecided ht h₁).imp_right fun h => h.behind _
  | false =>
    dsimp only at h₁
    split at h₁
    · obtain ⟨-, hst, -⟩ | ⟨r, t', later, rfl, hsave, h₂⟩ := h₁.of_ask
      · cases hst
        cases hw
      obtain ⟨rfl, h₂⟩ := reaches_orFail h₂
      exact (hdecided (Deed.sound_save ht hsave) h₂).imp_right fun h => (h.behind _).behind _
    · exact (hdecided ht h₁).imp_right fun h => h.behind _

theorem earned_of_save (hd : d.Sound) (h : (script settings site tool s).Reaches (Deed.met cwd token) d past (.save st) u)
    {w : String} (hw : st.record.serverVersion = some w) :
    w = settings.package.version ∧ ∃ platform, Platform.detect site.arch site.os = .ok platform ∧
      Earned settings site tool (placeOf site platform) cwd past u := by
  unfold script at h
  split at h
  · cases h
  · cases h
  · split at h
    · cases h
    · rename_i platform hplatform
      obtain ⟨hversion, hearned⟩ := saved_of_looking hd h hw
      exact ⟨hversion, platform, hplatform, hearned⟩

end Reached

section Recorded

theorem met_of_carried {yes : Bool} (deed : Deed) (d : Disk) (r : deeds.Reply deed) (t : Disk)
    (h : Plan.Carried (J := deeds) (Kernel.strict cwd) (fun deed => Terminal.run yes token deed.plan) deed d r t) :
    Deed.met cwd token deed d r t := by
  obtain ⟨es, hc⟩ := h
  exact Setup.course_networked hc

theorem deeds_of_course {yes : Bool} {es : List (Event kernel Disk)} {o : Option (Except Error Path × Store)}
    (hc : (Terminal.run yes token ((get settings site tool).plan s)).Course (Kernel.strict cwd) d es o t) :
    (∃ r past, o = some r ∧ (script settings site tool s).Course (Deed.met cwd token) d past (some r) t) ∨
      (o = none ∧ ∃ past deed u es', (script settings site tool s).Reaches (Deed.met cwd token) d past deed u ∧
        (Terminal.run yes token deed.plan).Course (Kernel.strict cwd) u es' none t) := by
  rw [plan_get, Terminal.run, Plan.lower_lower] at hc
  obtain ⟨r, past, rfl, hpast⟩ | ⟨rfl, past, deed, u, es', hreaches, hkilled⟩ := Plan.Course.reaches hc
  · exact .inl ⟨r, past, rfl, hpast.mono met_of_carried⟩
  · exact .inr ⟨rfl, past, deed, u, es', hreaches.mono met_of_carried, hkilled⟩

open Download (Untouched isError accepting)

/-- A download refuses an answer whose status tells of an error, and then leaves the destination as it was; it does not
tell the other answers apart. A release is taken from a successful answer only. So a version is recorded only behind a
download that was kept, and that is the complete body of an answer whose status tells of no error. -/
theorem errors_not_installed (token : Option String) (cwd : Place) :
    (∀ agent url dest mode d es r d', Disk.Sound d →
      (Download.file agent url dest mode).plan.Course (Kernel.strict cwd) d es (some r) d' →
        ((r = .ok () ∧ Kept cwd dest mode (es.filterMap Http.answer?) d d') ∨
          ((∃ e, r = .error e) ∧ Untouched cwd dest d d')) ∧
        ∀ status location body, (es.filterMap Http.answer?).getLast? = some (.head status location body) →
          isError status = true → ∃ u : Url, r = .error (.http (.status status u.text))) ∧
    (∀ (m : Machine) agent url dest mode, (accepting m).run (Download.file agent url dest mode).plan =
      ((m.run (Download.file agent url dest mode).plan).1, accepting (m.run (Download.file agent url dest mode).plan).2)) ∧
    (∀ repo tag d es release d',
      (Fetch.release repo tag token).Course (Kernel.strict cwd) d es (some (.ok release)) d' →
        Fetch.Taken (es.filterMap Http.answer?) release) ∧
    ∀ settings site tool s,
      (∀ yes d es o d', (Terminal.run yes token ((get settings site tool).plan s)).Course (Kernel.strict cwd) d es o d' →
        (∃ r past, o = some r ∧ (script settings site tool s).Course (Deed.met cwd token) d past (some r) d') ∨
          (o = none ∧ ∃ past deed u es', (script settings site tool s).Reaches (Deed.met cwd token) d past deed u ∧
            (Terminal.run yes token deed.plan).Course (Kernel.strict cwd) u es' none d')) ∧
      ∀ d past st u w, Disk.Sound d → (script settings site tool s).Reaches (Deed.met cwd token) d past (.save st) u →
        st.record.serverVersion = some w → w = settings.package.version ∧
          ∃ platform, Platform.detect site.arch site.os = .ok platform ∧
            Earned settings site tool (placeOf site platform) cwd past u := by
  refine ⟨fun agent url dest mode d es r d' hd hc => ⟨Download.kept_or_untouched hd hc, ?_⟩, ?_, ?_, ?_⟩
  · exact fun status location body => Download.refused_of_isError hc
  · exact Download.run_accepting
  · exact fun repo tag d es release d' => Fetch.taken_release
  · exact fun settings site tool s => ⟨fun _ _ _ _ _ => deeds_of_course, fun _ _ _ _ _ hd h hw => earned_of_save hd h hw⟩

open Trial (lodging₀ disk₀ start₀)

def page₀ : Http.Body :=
  ⟨["\x7b\"id\":1,\"assets\":[\x7b\"name\":\"rust-analyzer-linux\",\"browser_download_url\":\"http://a.b/x\"\x7d]\x7d".toUTF8],
    .complete⟩

/-- A machine with an old binary, and a network that gives some answers. -/
def dated (answers : List Http.Answer) : Machine :=
  ⟨disk₀.addFile lodging₀.binary executableMode "old".toUTF8, [], [], answers, [], []⟩

/-- A start that comes to record the version of the binary that it has downloaded. -/
theorem errors_not_installed_recorded : ∃ past st u,
    (script (start₀ "2" false).settings (start₀ "2" false).site "tool" ⟨lodging₀.statePath, ⟨none, none, some "1"⟩⟩).Reaches
      (Deed.met [] none) (dated []).disk past (.save st) u ∧
    st.record.serverVersion = some "2" ∧ ∃ platform, Platform.detect "x86_64" "linux" = .ok platform ∧
      Earned (start₀ "2" false).settings (start₀ "2" false).site "tool" (placeOf (start₀ "2" false).site platform) [] past u := by
  let answers : List Http.Answer := [.head 200 none page₀, .head 200 none ⟨["new".toUTF8], .complete⟩]
  let job := script (start₀ "2" false).settings (start₀ "2" false).site "tool" ⟨lodging₀.statePath, ⟨none, none, some "1"⟩⟩
  have hsaves : (job.reached (fun deed : Deed => Terminal.run true none deed.plan) Machine.serve 4 (dated answers)).bind
      (fun r => match r.1 with
        | .save st => st.record.serverVersion
        | _ => none) = some "2" := by decide +kernel
  obtain ⟨⟨deed, m⟩, hreached, hversion⟩ := Option.bind_eq_some_iff.mp hsaves
  cases deed with
  | save st =>
    obtain ⟨past, hreaches⟩ := Plan.reaches_of_reached Machine.disk Machine.serve_strict_at rfl hreached
    have hreaches := hreaches.mono met_of_carried
    have hsound : (dated answers).disk.Sound := Disk.sound_of_isSound (by decide +kernel)
    obtain ⟨-, hearned⟩ := ((errors_not_installed none []).2.2.2 _ _ _ _).2 _ _ _ _ _ hsound hreaches hversion
    exact ⟨past, st, m.disk, hreaches, hversion, hearned⟩
  | _ => cases hversion

/-- The empty body of an answer that says that nothing was modified takes the place of the old binary, and its version
is recorded. -/
theorem unmodified_installed :
    let unmodified : Http.Answer := .head 304 none ⟨[], .complete⟩
    let found (m : Machine) := (m.disk.find [] lodging₀.dest).map Prod.snd
    let download := (dated [unmodified]).run (Download.file none "http://a.b/x" lodging₀.dest (some executableMode)).plan
    let start := (dated [.head 200 none page₀, unmodified]).run (Terminal.run true none
      ((get (start₀ "2" false).settings (start₀ "2" false).site "tool").plan ⟨lodging₀.statePath, ⟨none, none, some "1"⟩⟩))
    found (dated []) = .ok (.file 0 executableMode "old".toUTF8) ∧
      (download.1.isOk ∧ found download.2 = .ok (.file 1 executableMode ByteArray.empty)) ∧
      start.1.2.record.serverVersion = some "2" ∧ found start.2 = .ok (.file 1 executableMode ByteArray.empty) := by
  decide +kernel

end Recorded

end Server

end Provision
