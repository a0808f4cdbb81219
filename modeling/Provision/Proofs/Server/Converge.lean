import Provision.Proofs.Store
import Provision.Proofs.Delivery
import Provision.Proofs.Server.Order
import Provision.Proofs.Server.Trial

/-!
Starts after an install. Once a start has downloaded the server and handed it out, every further start for the same
version reads the record, looks at the binary and hands out the same, on any machine and at any time.
-/

set_option autoImplicit false

namespace Provision.Server

/-- The binary was delivered, wherever the directory is by now. -/
def Supplied (L : Lodging) (d : Disk) : Prop := ∃ home, (L.movedTo home).Delivered d

/-- The reply says that a download is complete, or that the build tool has done its work. -/
def supplies : (c : setup.Call) → setup.Reply c → Bool
  | .download _ _ _ _, .ok () => true
  | .kernel (.launch _ _ _), .ok f => f.exit.isSuccess
  | _, _ => false

/-- The kernel does what it is told, or fails; of all others nothing is known. -/
def unknown (cwd : Place) : Law setup Disk
  | .kernel c, d, r, d' => Kernel.law cwd (fun _ _ => True) c d r d'
  | _, _, _, _ => True

/-- The binary is delivered when the client or the tool says so. -/
def suppliers (L : Lodging) : Law setup Disk := fun c d r d' =>
  unknown L.cwd c d r d' ∧ (supplies c r = true → Supplied L d')

def downloads : Setup.Call → Bool
  | .download _ _ _ _ => true
  | _ => false

/-- The record in memory has the version and is what is at its path, and at the path of the binary is a file. -/
structure Settled (L : Lodging) (version : String) (s : Store) (d : Disk) : Prop where
  path : s.path = L.statePath
  version : s.record.serverVersion = some version
  record : d.read L.cwd L.statePath = .ok s.record.text.toUTF8
  binary : d.inspect L.cwd L.dest = .ok .file

section Install

variable {L : Lodging} {d d' : Disk} {es : List (Event setup Disk)} {st : Start} {s s' : Store} {p : Path}

theorem course_kernel {α : Type} {p : Plan kernel α} {o : Option α}
    (hc : (Setup.ofKernel p).Course (suppliers L) d es o d') :
    ∃ es', p.Course (Kernel.law L.cwd fun _ _ => True) d es' o d' := by
  obtain ⟨es', -, hc⟩ := Setup.course_ofKernel hc
  exact ⟨es', hc.mono fun _ _ _ _ h => h.1⟩

/-- Of the two saves the first leaves no link in the place of the draft, whatever was there, and the second leaves the
record. -/
theorem recording_settles {home : Place} (h : (L.movedTo home).Delivered d) (hs : s.path = L.statePath)
    (hc : ((Script.recording st.settings st.site L.dest s).lower Deed.plan).Course (suppliers L) d es (some (.ok p, s')) d') :
    p = L.dest ∧ Settled L st.version s' d' := by
  have hpath : ∀ r : Record, ({ s with record := r } : Store).path = (L.movedTo home).statePath := fun _ => hs
  obtain ⟨r₁, t₁, _, _, -, hsave₁, hc₁⟩ := hc.of_lower_ask_some
  cases r₁ with
  | error e =>
    obtain ⟨-, ho, -⟩ := hc₁.of_done
    cases ho
  | ok u =>
  obtain ⟨_, hsave₁⟩ := course_kernel hsave₁
  obtain ⟨h₁, hdraft⟩ := h.save (hpath _) hsave₁
  obtain ⟨r₂, t₂, _, _, -, hsave₂, hc₂⟩ := Plan.Course.of_lower_ask_some hc₁
  cases r₂ with
  | error e =>
    obtain ⟨-, ho, -⟩ := hc₂.of_done
    cases ho
  | ok u =>
  obtain ⟨_, hsave₂⟩ := course_kernel hsave₂
  have h₂ := (h₁.save (hpath _) hsave₂).1
  have hread := h₁.save_read hdraft (hpath _) hsave₂
  obtain ⟨_, t₃, _, _, -, hlog, hc₃⟩ := Plan.Course.of_lower_ask_some hc₂
  obtain ⟨_, hlog⟩ := course_kernel hlog
  obtain rfl : t₃ = t₂ := hlog.of_call_some
  obtain ⟨-, ho, rfl⟩ := Plan.Course.of_done hc₃
  cases ho
  exact ⟨rfl, hs, rfl, hread, h₂.inspect⟩

theorem patching_settles (h : Supplied L d) (hs : s.path = L.statePath)
    (hc : ((Script.patching st.settings st.site st.tool L.dest s).lower Deed.plan).Course (suppliers L) d es
      (some (.ok p, s')) d') : p = L.dest ∧ Settled L st.version s' d' := by
  unfold Script.patching at hc
  split at hc
  · obtain ⟨r, t, _, _, -, hpatch, hrest⟩ := hc.of_lower_ask_some
    cases r with
    | error e =>
      obtain ⟨-, ho, -⟩ := hrest.of_done
      cases ho
    | ok u =>
      obtain ⟨_, -, hpatch⟩ := Setup.course_ofKernel hpatch
      obtain ⟨-, _, _, u, _, _, f, -, hlaunch, hf, hunlink⟩ | ⟨ho, -⟩ := Patch.course_cases hpatch
      · obtain ⟨home, hdelivered⟩ : Supplied L u := hlaunch.2 hf
        obtain ⟨⟨⟨e, he, -⟩ | ⟨_, -, hunlinked⟩, -⟩, -⟩ := hunlink
        · cases he
        · exact recording_settles (hdelivered.unlink_aside hunlinked) hs hrest
      · exact absurd rfl ho
  · obtain ⟨home, hdelivered⟩ := h
    exact recording_settles hdelivered hs hc

theorem replacing_settles (hs : s.path = L.statePath) {url : String}
    (hc : ((Script.replacing st.settings st.site st.tool url L.dest s).lower Deed.plan).Course (suppliers L) d es
      (some (.ok p, s')) d') : p = L.dest ∧ Settled L st.version s' d' := by
  obtain ⟨r, t, _, _, -, -, hc₁⟩ := hc.of_lower_ask_some
  cases r with
  | error e =>
    obtain ⟨-, ho, -⟩ := hc₁.of_done
    cases ho
  | ok u =>
  obtain ⟨r, t', _, _, -, hdownload, hc₂⟩ := Plan.Course.of_lower_ask_some hc₁
  cases r with
  | error e =>
    obtain ⟨-, ho, -⟩ := hc₂.of_done
    cases ho
  | ok u =>
    have hsupplied : Supplied L t' := (Plan.Course.of_call_some hdownload).2 rfl
    exact patching_settles hsupplied hs hc₂

theorem installing_settles (hs : s.path = L.statePath) {tag binary : String}
    (hc : ((Script.installing st.settings st.site st.tool tag binary L.dest s).lower Deed.plan).Course (suppliers L) d es
      (some (.ok p, s')) d') : p = L.dest ∧ Settled L st.version s' d' := by
  obtain ⟨r, t, _, _, -, -, hrest⟩ := hc.of_lower_ask_some
  cases r with
  | error e =>
    obtain ⟨-, ho, -⟩ := hrest.of_done
    cases ho
  | ok release =>
    dsimp only at hrest
    cases hasset : release.asset? binary with
    | none =>
      rw [hasset] at hrest
      obtain ⟨-, ho, -⟩ := Plan.Course.of_done hrest
      cases ho
    | some asset =>
      rw [hasset] at hrest
      exact replacing_settles hs hrest

theorem kernel_downloads_nothing {α : Type} {p : Plan kernel α} {o : Option α}
    (hc : (Setup.ofKernel p).Course (suppliers L) d es o d') : ∀ e ∈ es, downloads e.call = false := by
  obtain ⟨es', rfl, -⟩ := Setup.course_ofKernel hc
  intro e he
  obtain ⟨e', -, rfl⟩ := List.mem_map.mp he
  rfl

theorem deciding_settles (hs : s.path = L.statePath) {tag binary : String}
    (hc : ((Script.deciding st.settings st.site st.tool tag binary L.dest s).lower Deed.plan).Course (suppliers L) d es
      (some (.ok p, s')) d') :
    (∀ e ∈ es, downloads e.call = false) ∨ (p = L.dest ∧ Settled L st.version s' d') := by
  unfold Script.deciding at hc
  split at hc
  · obtain ⟨rfl, -⟩ := Plan.Course.of_done hc
    exact .inl (by simp)
  split at hc
  · obtain ⟨r, t, es₁, es₂, rfl, hconfirm, hrest⟩ := hc.of_lower_ask_some
    cases r with
    | true => exact .inr (installing_settles hs hrest)
    | false =>
      obtain ⟨_, u, es₃, es₄, rfl, hlog, hdone⟩ := Plan.Course.of_lower_ask_some hrest
      obtain ⟨rfl, -, -⟩ := Plan.Course.of_done hdone
      obtain rfl := Plan.Course.call_events hconfirm
      have hquiet := kernel_downloads_nothing hlog
      refine .inl fun e he => ?_
      simp only [List.append_nil, List.mem_append, List.mem_singleton] at he
      obtain rfl | he := he
      · rfl
      · exact hquiet e he
  · exact .inr (installing_settles hs hc)

theorem looking_settles (hs : s.path = L.statePath) {tag binary : String}
    (hc : ((Script.looking st.settings st.site st.tool tag binary L.dest s).lower Deed.plan).Course (suppliers L) d es
      (some (.ok p, s')) d') :
    (∀ e ∈ es, downloads e.call = false) ∨ (p = L.dest ∧ Settled L st.version s' d') := by
  have hbehind : ∀ {es₁ es₂ : List (Event setup Disk)}, (∀ e ∈ es₁, downloads e.call = false) →
      (∀ e ∈ es₂, downloads e.call = false) ∨ (p = L.dest ∧ Settled L st.version s' d') →
      (∀ e ∈ es₁ ++ es₂, downloads e.call = false) ∨ (p = L.dest ∧ Settled L st.version s' d') := by
    intro es₁ es₂ h₁ h
    refine h.imp_left fun h₂ e he => ?_
    exact (List.mem_append.mp he).elim (h₁ e) (h₂ e)
  obtain ⟨there, t, es₁, es₂, rfl, hlook, hrest⟩ := hc.of_lower_ask_some
  refine hbehind (kernel_downloads_nothing hlook) ?_
  cases there with
  | true => exact deciding_settles hs hrest
  | false =>
    change Plan.Course _ ((if s.record.serverVersion.isSome = true then _ else _ : Script).lower _) _ _ _ _ at hrest
    split at hrest
    · obtain ⟨r, u, es₃, es₄, rfl, hsave, hdecide⟩ := Plan.Course.of_lower_ask_some hrest
      refine hbehind (kernel_downloads_nothing hsave) ?_
      cases r with
      | error e =>
        obtain ⟨-, ho, -⟩ := Plan.Course.of_done hdecide
        cases ho
      | ok _ =>
        have hs' : (stamped s none).path = L.statePath := hs
        exact deciding_settles hs' hdecide
    · exact deciding_settles hs hrest

theorem start_settles (suits : Suits L st) (override : st.site.serverPath = none)
    (tag : st.settings.package.releaseTag ≠ none) (memory : ∀ s, st.memory = some s → s.path = L.statePath)
    {r : Option Store} (course : st.plan.Course (suppliers L) d es (some (.ok p, r)) d')
    (downloaded : ∃ e ∈ es, downloads e.call = true) : p = L.dest ∧ ∃ s, r = some s ∧ Settled L st.version s d' := by
  obtain ⟨tag, htag⟩ := Option.ne_none_iff_exists'.mp tag
  -- it makes no difference where the record comes from
  have hget : ∀ {s : Store} {d : Disk} {es : List (Event setup Disk)}, s.path = L.statePath →
      (((get st.settings st.site st.tool).plan s).bind fun r => .done (r.1, some r.2)).Course (suppliers L) d es
        (some (.ok p, r)) d' →
      (∀ e ∈ es, downloads e.call = false) ∨ (p = L.dest ∧ ∃ s, r = some s ∧ Settled L st.version s d') := by
    intro s d es hs hc
    rw [plan_get] at hc
    simp only [script, override, htag, suits.platform, placeOf_eq L suits.storage] at hc
    obtain ⟨⟨q, s'⟩, t, es₁, es₂, rfl, hscript, hdone⟩ := hc.of_bind_some
    obtain ⟨rfl, ho, rfl⟩ := hdone.of_done
    cases ho
    rw [List.append_nil]
    exact (looking_settles hs hscript).imp_right fun h => ⟨h.1, s', rfl, h.2⟩
  have hresult : (∀ e ∈ es, downloads e.call = false) ∨ (p = L.dest ∧ ∃ s, r = some s ∧ Settled L st.version s d') := by
    unfold Start.plan at course
    cases hmem : st.memory with
    | some s =>
      rw [hmem] at course
      exact hget (memory s hmem) course
    | none =>
      rw [hmem, suits.storage] at course
      obtain ⟨a, t, es₁, es₂, rfl, hload, hrest⟩ := Plan.Course.of_bind_some course
      cases a with
      | error e =>
        obtain ⟨-, ho, -⟩ := Plan.Course.of_done hrest
        cases ho
      | ok s =>
        have hquiet := kernel_downloads_nothing hload
        obtain ⟨_, hload⟩ := course_kernel hload
        refine (hget (Store.course_load hload).1 hrest).imp_left fun h e he => ?_
        exact (List.mem_append.mp he).elim (hquiet e) (h e)
  obtain hquiet | hresult := hresult
  · obtain ⟨e, he, hd⟩ := downloaded
    rw [hquiet e he] at hd
    cases hd
  · exact hresult

end Install

/-- A start for the same server, at another time and perhaps with another tool. -/
structure Renews (st again : Start) : Prop where
  memory : again.memory = none
  settings : again.settings = st.settings
  override : again.site.serverPath = st.site.serverPath
  storage : again.site.storage = st.site.storage
  arch : again.site.arch = st.site.arch
  os : again.site.os = st.site.os

/-- A machine that tells the truth about its disk. Of the client and the host nothing is known. -/
structure Surroundings (cwd : Place) where
  State : Type
  disk : State → Disk
  serve : (c : setup.Call) → State → setup.Reply c × State
  read : ∀ p x, (serve (.kernel (.read p)) x).1 = (disk x).read cwd p ∧ disk (serve (.kernel (.read p)) x).2 = disk x
  inspect : ∀ p x, (serve (.kernel (.inspect p)) x).1 = (disk x).inspect cwd p ∧
    disk (serve (.kernel (.inspect p)) x).2 = disk x

/-- What is at the paths of the record and of the binary is the same. -/
def Undisturbed (L : Lodging) (d d' : Disk) : Prop :=
  d'.read L.cwd L.statePath = d.read L.cwd L.statePath ∧ d'.inspect L.cwd L.dest = d.inspect L.cwd L.dest

theorem Undisturbed.refl {L : Lodging} (d : Disk) : Undisturbed L d d := ⟨rfl, rfl⟩

/-- The disk that a further start finds: others have left alone what is at the two paths, and starts for the same
server may have come between. -/
inductive Follows (L : Lodging) (st : Start) (d : Disk) : Disk → Prop where
  | first {d' : Disk} (rest : Undisturbed L d d') : Follows L st d d'
  | start {W : Surroundings L.cwd} {x : W.State} {again : Start} {d' : Disk} (before : Follows L st d (W.disk x))
      (renews : Renews st again) (rest : Undisturbed L (W.disk (again.plan.run W.serve x).2) d') : Follows L st d d'

section Again

variable {L : Lodging} {d d' : Disk} {st again : Start} {s : Store}

theorem Settled.undisturbed {version : String} (h : Settled L version s d) (hd : Undisturbed L d d') :
    Settled L version s d' :=
  ⟨h.path, h.version, hd.1.trans h.record, hd.2.trans h.binary⟩

theorem plan_again (suits : Suits L again) (memory : again.memory = none) (override : again.site.serverPath = none)
    (tag : again.settings.package.releaseTag ≠ none) (path : s.path = L.statePath)
    (version : s.record.serverVersion = some again.version) :
    ∃ k, again.plan = .ask (.kernel (.read L.statePath)) k ∧
      ∃ k', k (.ok s.record.text.toUTF8 : Except Fault ByteArray) = .ask (.kernel (.inspect L.dest)) k' ∧
        ∀ kind, k' (.ok kind : Except Fault Kind) = .done (.ok L.dest, some s) := by
  obtain ⟨file, record⟩ := s
  obtain rfl : file = L.statePath := path
  have hcurrent := plan_get_current again.tool _ override tag suits.platform version
  rw [placeOf_eq L suits.storage] at hcurrent
  obtain ⟨k', hget, hk'⟩ := hcurrent
  obtain ⟨k, hload, hk⟩ := Store.load_text L.statePath record
  unfold Start.plan
  rw [memory, suits.storage]
  change ∃ k, Plan.bind (Setup.ofKernel (Store.load L.statePath).plan) _ = .ask (.kernel (.read L.statePath)) k ∧ _
  rw [hload]
  refine ⟨_, rfl, ?_⟩
  change ∃ k', Plan.bind (Setup.ofKernel (k _)) _ = _ ∧ _
  rw [hk]
  change ∃ k', Plan.bind ((get again.settings again.site again.tool).plan _) _ = _ ∧ _
  rw [hget]
  refine ⟨_, rfl, fun kind => ?_⟩
  rw [hk']
  rfl

/-- What a start does that only hands out the binary: it gives these results, looks at these paths, and leaves the
disk as it is. -/
def Hands (L : Lodging) (s : Store) (again : Start) (W : Surroundings L.cwd) (x : W.State) : Prop :=
  (again.plan.run W.serve x).1 = (.ok L.dest, some s) ∧ W.disk (again.plan.run W.serve x).2 = W.disk x ∧
    (again.plan.trace W.serve x).map (·.1) = [.kernel (.read L.statePath), .kernel (.inspect L.dest)]

variable {W : Surroundings L.cwd} {x : W.State}

theorem Settled.hands (h : Settled L st.version s (W.disk x)) (suits : Suits L st) (override : st.site.serverPath = none)
    (tag : st.settings.package.releaseTag ≠ none) (renews : Renews st again) : Hands L s again W x := by
  have hsuits : Suits L again :=
    ⟨renews.storage.trans suits.storage, by rw [renews.arch, renews.os, suits.platform]⟩
  have hversion : s.record.serverVersion = some again.version := by
    rw [Start.version, renews.settings]
    exact h.version
  obtain ⟨k, hplan, k', hk, hk'⟩ := plan_again hsuits renews.memory (renews.override.trans override)
    (renews.settings ▸ tag) h.path hversion
  obtain ⟨hread, hdisk⟩ := W.read L.statePath x
  rw [h.record] at hread
  obtain ⟨hinspect, hdisk'⟩ := W.inspect L.dest (W.serve (.kernel (.read L.statePath)) x).2
  rw [hdisk, h.binary] at hinspect
  rw [Hands, hplan]
  simp only [Plan.run, Plan.trace, hread, hk, hinspect, hk']
  exact ⟨trivial, hdisk'.trans hdisk, rfl⟩

theorem Settled.follows (h : Settled L st.version s d) (suits : Suits L st) (override : st.site.serverPath = none)
    (tag : st.settings.package.releaseTag ≠ none) (hf : Follows L st d d') : Settled L st.version s d' := by
  induction hf with
  | first rest => exact h.undisturbed rest
  | start before renews rest ih =>
    obtain ⟨-, hdisk, -⟩ := ih.hands suits override tag renews
    rw [hdisk] at rest
    exact ih.undisturbed rest

end Again

/-- Once a start has downloaded the server and handed it out, all that a further start for the same does is to read the
record and to look at the binary; it hands out the same and changes nothing. -/
theorem starts_converge {L : Lodging} {st : Start} (suits : Suits L st) (override : st.site.serverPath = none)
    (tag : st.settings.package.releaseTag ≠ none) (memory : ∀ s, st.memory = some s → s.path = L.statePath) {d d' : Disk}
    {es : List (Event setup Disk)} {p : Path} {r : Option Store}
    (course : st.plan.Course (suppliers L) d es (some (.ok p, r)) d') (downloaded : ∃ e ∈ es, downloads e.call = true) :
    p = L.dest ∧ ∃ s, r = some s ∧ s.record.serverVersion = some st.version ∧
      ∀ (W : Surroundings L.cwd) (x : W.State) (again : Start), Follows L st d' (W.disk x) → Renews st again →
        Hands L s again W x := by
  obtain ⟨hp, s, hr, hsettled⟩ := start_settles suits override tag memory course downloaded
  refine ⟨hp, s, hr, hsettled.version, fun W x again hfollows renews => ?_⟩
  exact (hsettled.follows suits override tag hfollows).hands suits override tag renews

section Patched

open Trial

def Trial.surroundings (T : Trial) : Surroundings T.lodging.cwd where
  State := Disk
  disk := id
  serve := T.serve
  read := fun _ _ => ⟨rfl, rfl⟩
  inspect := fun _ _ => ⟨rfl, rfl⟩

theorem unknown_of_law {L : Lodging} {c : setup.Call} {d d' : Disk} {r : setup.Reply c} (h : law L c d r d') :
    unknown L.cwd c d r d' := by
  cases c with
  | kernel c => exact Setup.law_mono (c := .kernel c) (fun _ => trivial) h
  | _ => exact trivial

set_option maxRecDepth 100000 in
theorem supplied_events (e : Event setup Disk) (he : e ∈ (start₀ "1" true).plan.events good₀.serve disk₀)
    (hs : supplies e.call e.reply = true) : Supplied lodging₀ e.after := by
  have hlodged : lodging₀.Lodged e.after :=
    Plan.events_keep (fun c d h => (good₀.lawful c d h).2) _ fresh_disk₀.lodged e he
  have hall : (((start₀ "1" true).plan.events good₀.serve disk₀).all fun e => !supplies e.call e.reply ||
      ((e.after.inspect lodging₀.cwd lodging₀.dest).toOption = some .file &&
        (lodging₀.binary :: lodging₀.others).all fun p => (e.after.get? p).all fun v => v.kind ≠ .other)) = true := by
    decide +kernel
  have hthis := List.all_eq_true.mp hall e he
  simp only [hs, Bool.not_true, Bool.false_or, Bool.and_eq_true, decide_eq_true_eq, List.all_eq_true] at hthis
  obtain ⟨hfile, hlinks⟩ := hthis
  refine ⟨lodging₀.home, Lodging.Delivered.of_file hlodged.sound hlodged.enters (fun p hp target ht => ?_) ?_⟩
  · have hkind := hlinks p hp
    rw [ht] at hkind
    cases hkind
  · cases hi : e.after.inspect lodging₀.cwd lodging₀.dest with
    | error f =>
      rw [hi] at hfile
      cases hfile
    | ok kind =>
      rw [hi] at hfile
      cases hfile
      exact hi

set_option maxRecDepth 100000 in
theorem course_patched : ∃ p r, (start₀ "1" true).plan.Course (suppliers lodging₀) disk₀
    ((start₀ "1" true).plan.events good₀.serve disk₀) (some (.ok p, r)) (good₀.after (start₀ "1" true) disk₀) := by
  have hc := (Plan.course_run good₀.lawful (start₀ "1" true).plan fresh_disk₀.lodged).1.with_events supplied_events
  have hok : ((start₀ "1" true).plan.run good₀.serve disk₀).1.1.isOk = true := by decide +kernel
  have hlaw : ∀ c d r d', law lodging₀ c d r d' ∧ (supplies c r = true → Supplied lodging₀ d') →
      suppliers lodging₀ c d r d' :=
    fun _ _ _ _ h => ⟨unknown_of_law h.1, h.2⟩
  have hcourse := hc.mono hlaw
  unfold after
  generalize (start₀ "1" true).plan.run good₀.serve disk₀ = run at hok hcourse
  obtain ⟨⟨a, r⟩, d⟩ := run
  cases a with
  | error e => cases hok
  | ok p => exact ⟨p, r, hcourse⟩

/-- The same start ten years later, with a tool that is not there. -/
def later : Start :=
  { start₀ "1" true with
    site := { (start₀ "1" true).site with now := ⟨2030, 7, 14, 12, 0, 0, 0, by decide⟩ }
    tool := "no tool" }

theorem renews_later : Renews (start₀ "1" true) later := ⟨rfl, rfl, rfl, rfl, rfl, rfl⟩

set_option maxRecDepth 100000 in
/-- After a start that had the server patched, where there is another release and the tool fails: two more starts. -/
theorem starts_converge_patched :
    ∃ s, s.record.serverVersion = some "1" ∧
      Hands lodging₀ s later bad₀.surroundings (good₀.after (start₀ "1" true) disk₀) ∧
      Hands lodging₀ s later bad₀.surroundings (bad₀.after later (good₀.after (start₀ "1" true) disk₀)) := by
  obtain ⟨p, r, hcourse⟩ := course_patched
  have hdownloaded : ∃ e ∈ (start₀ "1" true).plan.events good₀.serve disk₀, downloads e.call = true := by
    have h : (((start₀ "1" true).plan.events good₀.serve disk₀).any fun e => downloads e.call) = true := by decide +kernel
    exact List.any_eq_true.mp h
  have hmemory : ∀ s, (start₀ "1" true).memory = some s → s.path = lodging₀.statePath := by simp [start₀]
  have htag : (start₀ "1" true).settings.package.releaseTag ≠ none := by simp [start₀]
  obtain ⟨-, s, -, hversion, hall⟩ := starts_converge (suits_start₀ "1" true) rfl htag hmemory hcourse hdownloaded
  refine ⟨s, hversion, ?_⟩
  generalize good₀.after (start₀ "1" true) disk₀ = d at hall ⊢
  have hfirst : Follows lodging₀ (start₀ "1" true) d d := .first (.refl d)
  exact ⟨hall bad₀.surroundings d later hfirst renews_later,
    hall bad₀.surroundings _ later (.start (W := bad₀.surroundings) hfirst renews_later (.refl _)) renews_later⟩

end Patched

end Provision.Server
