import Provision.Session
import Provision.Proofs.Server.Agreed
import Provision.Proofs.Session.Served
import Provision.Proofs.Nightly.Pace

/-!
A start with the nightly step and a start without it come to the same: in a world that answers what it is asked, they
find the same server or fail with the same message, and the version on record and the binary are the same afterwards.
-/

set_option autoImplicit false

namespace Provision

open Plan (Tells)

namespace Session

/-- The server of a session and the version that its record says is installed. -/
def gist (s : Session) : Path × Option String := (s.server, s.store.record.serverVersion)

def conclude (r : Except Error Path × Store) : Plan setup (Except (List String) Session) :=
  match r.1 with
  | .error e => failWith (failedToLoad e)
  | .ok server => (Setup.ofKernel (probe server)).bind fun
    | true => (Setup.ofKernel (Kernel.log .info .session ("Using server " ++ server.text))).bind fun _ =>
      .done (.ok ⟨r.2, server⟩)
    | false => failWith (notAvailable server)

theorem activate_eq (settings : Settings) (site : Site) (wanted : Bool) :
    activate settings site wanted = (Setup.ofKernel (Store.load (site.storage / Store.fileName)).plan).bind fun
      | .error e => .done (.error (("failed to load " ++ (site.storage / Store.fileName).text) :: e.chain))
      | .ok store => (nightlyStep settings site wanted store).bind fun store =>
        ((Server.get settings site Patch.defaultTool).plan store).bind conclude := by
  unfold activate
  show Plan.bind _ _ = _
  congr 1
  funext r
  cases r with
  | error e => rfl
  | ok store =>
    show Plan.bind _ _ = _
    congr 1
    funext store
    show Plan.bind _ _ = _
    congr 1
    funext ⟨found, store⟩
    cases found with
    | error e => rfl
    | ok server =>
      show Plan.bind _ _ = _
      dsimp only [conclude]
      congr 1
      funext started
      cases started <;> rfl

variable {W : World} {L : Lodging} {σ : Sight} {d d' : Disk} {es : List (Event setup Disk)} {settings : Settings} {site : Site}

theorem tells_load (d : Disk) (path : Path) : ∃ x : Except Error Store,
    (∀ s, x = .ok s ↔ s.path = path ∧ Store.recalled (d.read L.cwd path) = some s.record) ∧
      Tells (W.law L) (· = d) (Setup.ofKernel (Store.load path).plan) x (· = d) := by
  obtain ⟨k, hload, hk⟩ := Store.load_replied path
  obtain ⟨x, hdone, hx⟩ := hk (d.read L.cwd path)
  refine ⟨x, hx, Setup.tells_ofKernel ?_⟩
  rw [hload]
  have hread : ∀ u r t, u = d → Setup.kernelLaw (W.law L) (.read path) u r t → r = d.read L.cwd path ∧ t = d := by
    rintro u r t rfl hl
    exact World.law_exact hl rfl
  refine Plan.tells_ask hread ?_
  obtain hdone | ⟨e, hlog⟩ := hdone
  · rw [hdone]
    exact Plan.tells_done fun _ h => h
  · rw [hlog]
    refine Plan.tells_ask_done (r := ()) ?_ rfl
    rintro d r t rfl hl
    obtain ⟨-, ht⟩ := World.law_exact hl rfl
    exact ⟨rfl, ht⟩

theorem nightlyStep_unseen {eye : Path → Option Node} (h : W.Sees L σ eye d) (hsite : site.storage = L.storage) {s : Store}
    (hs : s.path = L.statePath) (hv : s.record.serverVersion = σ.version) (wanted : Bool) {s' : Store}
    (hc : (nightlyStep settings site wanted s).Course (W.law L) d es (some s') d') : W.Sees L σ eye d' ∧ s.Kin s' := by
  cases wanted with
  | false =>
    obtain ⟨-, ho, rfl⟩ := Plan.Course.of_done hc
    cases ho
    exact ⟨h, rfl, rfl⟩
  | true =>
    obtain ⟨⟨r, s₁⟩, t, es₁, es₂, rfl, hstep, hrest⟩ := Plan.Course.of_bind_some hc
    obtain ⟨ht, hkin⟩ := h.nightly hsite hs hv hstep
    cases r with
    | ok u =>
      obtain ⟨-, ho, rfl⟩ := Plan.Course.of_done hrest
      cases ho
      exact ⟨ht, hkin⟩
    | error e =>
      obtain ⟨u, t', es₃, es₄, rfl, hlog, hlast⟩ := Plan.Course.of_bind_some hrest
      obtain ⟨es', hlog⟩ := World.course_kernel hlog
      have hsame : t' = t := hlog.of_call_some
      obtain ⟨-, ho, rfl⟩ := Plan.Course.of_done hlast
      cases ho
      rw [hsame]
      exact ⟨ht, hkin⟩

def succeeded : Except Fault Finished → Bool
  | .ok f => f.exit.isSuccess
  | .error _ => false

/-- What a start ends with, by the servers that can be started. -/
def ending (starts : Path → Bool) (r : Except Error Path × Store) : Except (List String) Session :=
  match r.1 with
  | .error e => .error [failedToLoad e]
  | .ok server => if starts server then .ok ⟨r.2, server⟩ else .error [notAvailable server]

theorem gist_ending {starts starts' : Path → Bool} {r : Except Error Path} {s s' : Store}
    (hstarts : ∀ path, r = .ok path → starts path = starts' path) (hk : s.Kin s') :
    (ending starts (r, s)).map gist = (ending starts' (r, s')).map gist := by
  cases r with
  | error e => rfl
  | ok server =>
    simp only [ending, hstarts server rfl]
    split
    · simp [Except.map, gist, hk.2]
    · rfl

theorem course_failWith (h : L.Looks σ d) {message : String} {o : Except (List String) Session}
    (hc : (failWith message).Course (W.law L) d es (some o) d') : o = .error [message] ∧ L.Looks σ d' := by
  obtain ⟨u, t, es₁, es₂, -, hshow, hrest⟩ := Plan.Course.of_bind_some hc
  obtain ⟨-, ho, rfl⟩ := Plan.Course.of_done hrest
  cases ho
  exact ⟨rfl, h.left hshow.of_call_some⟩

theorem course_probe {server : Path} {started : Bool}
    (hc : (Setup.ofKernel (probe server)).Course (W.law L) d es (some started) d') :
    started = succeeded (W.probed server (W.found L server d)) ∧ L.Leaves W.others d d' := by
  obtain ⟨es', -, hc⟩ := Setup.course_ofKernel hc
  obtain ⟨f, t, es'', -, hlaunch, hend⟩ := Plan.Course.of_ask_some hc
  have hl : f = W.probed server (W.found L server d) ∧ L.Leaves W.others d t := by
    have h := hlaunch
    simp only [Setup.kernelLaw, World.law] at h
    exact h
  obtain ⟨rfl, hleaves⟩ := hl
  cases hf : W.probed server (W.found L server d) with
  | error e =>
    rw [hf] at hend
    obtain ⟨-, ho, rfl⟩ := hend.of_done
    cases ho
    exact ⟨rfl, hleaves⟩
  | ok f =>
    rw [hf] at hend
    obtain ⟨-, ho, rfl⟩ := hend.of_done
    cases ho
    exact ⟨rfl, hleaves⟩

theorem course_conclude (h : L.Looks σ d) {r : Except Error Path × Store} {o : Except (List String) Session}
    (hc : (conclude r).Course (W.law L) d es (some o) d') :
    o = ending (fun server => succeeded (W.probed server (W.found L server d))) r ∧ L.Looks σ d' := by
  obtain ⟨found, s⟩ := r
  cases found with
  | error e => exact course_failWith h hc
  | ok server =>
    obtain ⟨started, t, es₁, es₂, -, hprobe, hrest⟩ := Plan.Course.of_bind_some hc
    obtain ⟨hstarted, hleaves⟩ := course_probe hprobe
    have ht := h.left hleaves
    simp only [ending, ← hstarted]
    cases started with
    | false => exact course_failWith ht hrest
    | true =>
      obtain ⟨_, u, _, _, -, hlog, hlast⟩ := Plan.Course.of_bind_some hrest
      obtain ⟨es', hlog⟩ := World.course_kernel hlog
      have hsame : u = t := hlog.of_call_some
      obtain ⟨-, ho, rfl⟩ := Plan.Course.of_done hlast
      cases ho
      rw [hsame]
      exact ⟨rfl, ht⟩

theorem found_dest (h : L.Looks σ d) (h' : L.Looks σ d') : W.found L L.dest d = W.found L L.dest d' := by
  simp only [World.found, if_pos, Lodging.seen]
  rw [h.find, h'.find]

theorem found_same {eye : Path → Option Node} (h : W.Sees L σ eye d) (h' : W.Sees L σ eye d') (p : Path) :
    W.found L p d = W.found L p d' := by
  by_cases hp : p = L.dest
  · subst hp
    exact found_dest h.looks h'.looks
  · simp only [World.found, if_neg hp]
    exact List.map_congr_left fun q hq => (h.seen q hq).trans (h'.seen q hq).symm

section Twice

variable {eye : Path → Option Node} {t t' : Disk} {s s' : Store} {es' : List (Event setup Disk)}

theorem found_alike (h : W.Sees L σ eye d) (h' : W.Sees L σ eye d') (hk : s.Kin s') (hs : s.path = L.statePath)
    (ha : Disk.admits L.statePath = .ok ()) (hsite : site.storage = L.storage)
    (hplatform : ∀ platform, Platform.detect site.arch site.os = .ok platform → platform = L.platform)
    (hv : s.record.serverVersion = σ.version) {r r' : Except (List String) Session}
    (hc : (((Server.get settings site Patch.defaultTool).plan s).bind conclude).Course (W.law L) d es (some r) t)
    (hc' : (((Server.get settings site Patch.defaultTool).plan s').bind conclude).Course (W.law L) d' es' (some r') t') :
    r.map gist = r'.map gist ∧ ∃ τ, L.Looks τ t ∧ L.Looks τ t' := by
  have hget : (∃ path, ∀ s, (Server.get settings site Patch.defaultTool).plan s = .done (.ok path, s)) ∨
      W.Agree L (L.Looks σ) ((Server.get settings site Patch.defaultTool).plan s)
        ((Server.get settings site Patch.defaultTool).plan s') :=
    World.agree_get hk hs ha hsite hplatform hv Patch.defaultTool
  obtain ⟨path, hdone⟩ | ⟨found, u, u', τ, hdest, hkin, htells, htells'⟩ := hget
  · rw [hdone] at hc hc'
    obtain ⟨rfl, ht⟩ := course_conclude h.looks hc
    obtain ⟨rfl, ht'⟩ := course_conclude h'.looks hc'
    refine ⟨gist_ending (fun p _ => ?_) hk, σ, ht, ht'⟩
    rw [found_same h h' p]
  · obtain ⟨x, v, es₁, es₂, -, hget, hend⟩ := hc.of_bind_some
    obtain ⟨x', v', es₃, es₄, -, hget', hend'⟩ := hc'.of_bind_some
    obtain ⟨rfl, hx⟩ := htells _ _ _ _ h.looks hget
    obtain ⟨rfl, hx'⟩ := htells' _ _ _ _ h'.looks hget'
    obtain ⟨rfl, ht⟩ := course_conclude hx hend
    obtain ⟨rfl, ht'⟩ := course_conclude hx' hend'
    refine ⟨gist_ending (fun p hp => ?_) hkin, τ, ht, ht'⟩
    obtain rfl := hdest p hp
    rw [found_dest hx hx']

theorem started_alike (h : W.Sees L σ eye d) (hs : s.path = L.statePath) (ha : Disk.admits L.statePath = .ok ())
    (hsite : site.storage = L.storage)
    (hplatform : ∀ platform, Platform.detect site.arch site.os = .ok platform → platform = L.platform)
    (hv : s.record.serverVersion = σ.version) {r r' : Except (List String) Session}
    (hc : ((nightlyStep settings site true s).bind fun s =>
      ((Server.get settings site Patch.defaultTool).plan s).bind conclude).Course (W.law L) d es (some r) t)
    (hc' : ((nightlyStep settings site false s).bind fun s =>
      ((Server.get settings site Patch.defaultTool).plan s).bind conclude).Course (W.law L) d es' (some r') t') :
    r.map gist = r'.map gist ∧ ∃ τ, L.Looks τ t ∧ L.Looks τ t' := by
  obtain ⟨s₁, u, es₁, es₂, -, hstep, hrest⟩ := hc.of_bind_some
  obtain ⟨hu, hk⟩ := nightlyStep_unseen h hsite hs hv true hstep
  obtain ⟨hr, τ, ht', ht⟩ := found_alike h hu hk hs ha hsite hplatform hv hc' hrest
  exact ⟨hr.symm, τ, ht, ht'⟩

end Twice

/-- The nightly step keeps out of the way of the server: a start with it and a start without it, in a world that answers
the same when it is asked the same, find the same server or fail with the same message, with the same version in memory
and on record afterwards, and with the same content in the place of the binary. -/
theorem nightly_keeps_apart {W : World} {L : Lodging} {settings : Settings} {site : Site} {d d₁ d₂ : Disk}
    (storage : site.storage = L.storage)
    (platform : ∀ platform, Platform.detect site.arch site.os = .ok platform → platform = L.platform)
    (clear : ∀ r, Store.recalled (d.read L.cwd L.statePath) = some r → L.Clear d)
    (steady : ∀ q ∈ W.others, L.Steady q d) {es₁ es₂ : List (Event setup Disk)} {r₁ r₂ : Except (List String) Session}
    (with_it : (activate settings site true).Course (W.law L) d es₁ (some r₁) d₁)
    (without : (activate settings site false).Course (W.law L) d es₂ (some r₂) d₂) :
    r₁.map gist = r₂.map gist ∧ L.version d₁ = L.version d₂ ∧ d₁.contents L.cwd L.dest = d₂.contents L.cwd L.dest := by
  have hpath : site.storage / Store.fileName = L.statePath := by rw [storage]; rfl
  rw [activate_eq, hpath] at with_it without
  -- both starts load the same record from the same disk
  obtain ⟨loaded, hloaded, hload⟩ := tells_load (W := W) (L := L) d L.statePath
  obtain ⟨ho, -⟩ | ⟨x, t, _, _, -, hfirst, hrest⟩ := with_it.of_bind
  · cases ho
  obtain ⟨ho, -⟩ | ⟨x', t', _, _, -, hfirst', hrest'⟩ := without.of_bind
  · cases ho
  obtain ⟨hx, ht⟩ := hload _ _ _ _ rfl hfirst
  obtain ⟨hx', ht'⟩ := hload _ _ _ _ rfl hfirst'
  rw [hx, ht] at hrest
  rw [hx', ht'] at hrest'
  cases loaded with
  | error e =>
    obtain ⟨-, ho, rfl⟩ := hrest.of_done
    obtain ⟨-, ho', rfl⟩ := hrest'.of_done
    cases ho
    cases ho'
    exact ⟨rfl, rfl, rfl⟩
  | ok s =>
    obtain ⟨hs, hrecord⟩ := (hloaded s).mp rfl
    -- from there on they see the same of the directory
    obtain ⟨ha, σ, hlooks, hversion⟩ := Lodging.Looks.of_clear (clear _ hrecord) hrecord
    have hsees : W.Sees L σ (fun q => L.seen q d) d := ⟨hlooks, steady, fun _ _ => rfl⟩
    obtain ⟨hr, τ, ht, ht'⟩ := started_alike hsees hs ha storage platform hversion.symm hrest hrest'
    refine ⟨hr, ?_, ?_⟩
    · rw [ht.version ha, ht'.version ha]
    · rw [ht.contents, ht'.contents]

section Concrete

open Server.Trial (lodging₀)

/-- A source with a build of the extension and a server, and a user who agrees to some offers. A server can be started
where there is one. -/
def source₀ (agrees : String → Bool) : World where
  release _ := .ok ⟨7, none, none, [⟨Nightly.asset, "vsix", 1⟩, ⟨"rust-analyzer-linux", "server", 1⟩]⟩
  agrees message _ := agrees message
  installed _ := .ok ()
  delivered _ := .ok ()
  left url mode := some (mode.getD Disk.plainMode, url.toUTF8)
  complete _ _ _ := nofun
  others := []
  probed _ found := if found.any Option.isSome then .ok ⟨.code 0, ByteArray.empty, ByteArray.empty⟩ else .error (.os .missing)
  patched _ _ _ _ binary := (.error (.os .missing), binary, false)

def asking₀ : Settings := ⟨none, none, ⟨.nightly, true, 3600⟩, ⟨"0.1.0", some "nightly"⟩⟩

def site₁ (storage : Path) : Site := ⟨none, none, "x86_64", "linux", storage, false, Nightly.noon⟩

def begin₀ (storage : Path) (wanted : Bool) : Plan setup (Except (List String) Session) :=
  activate asking₀ (site₁ storage) wanted

theorem awaited_empty : lodging₀.Awaited Disk.empty :=
  ⟨Disk.sound_empty, [], "s".toList, [], [], by decide, rfl, rfl, rfl, by decide, by decide⟩

theorem platform_site₁ {storage : Path} {platform : Platform}
    (h : Platform.detect (site₁ storage).arch (site₁ storage).os = .ok platform) : platform = .linux := by
  cases h
  rfl

/-- What a start comes to in such a world, and the disk that it leaves. -/
def run₀ (agrees : String → Bool) (L : Lodging) (wanted : Bool) (d : Disk) : Except (List String) Session × Disk :=
  (begin₀ L.storage wanted).run ((source₀ agrees).serve L) d

theorem course_run₀ (agrees : String → Bool) (L : Lodging) (wanted : Bool) (d : Disk)
    (h : (begin₀ L.storage wanted).passes ((source₀ agrees).serve L) ((source₀ agrees).suits L) d = true) :
    ∃ es, (begin₀ L.storage wanted).Course ((source₀ agrees).law L) d es (some (run₀ agrees L wanted d).1)
      (run₀ agrees L wanted d).2 :=
  ⟨_, Plan.course_passes World.serve_lawful h⟩

set_option maxRecDepth 100000 in
/-- Two starts on an empty disk, one of which installs a build of the extension before it looks for the server. -/
theorem nightly_keeps_apart_installed : ∃ d₁ d₂,
    run₀ (fun _ => true) lodging₀ true .empty =
        (.ok ⟨⟨lodging₀.statePath, ⟨some Nightly.noon, some 7, some "0.1.0"⟩⟩, lodging₀.dest⟩, d₁) ∧
      run₀ (fun _ => true) lodging₀ false .empty =
        (.ok ⟨⟨lodging₀.statePath, ⟨some Nightly.noon, none, some "0.1.0"⟩⟩, lodging₀.dest⟩, d₂) ∧
      lodging₀.version d₁ = lodging₀.version d₂ ∧
      d₁.contents lodging₀.cwd lodging₀.dest = d₂.contents lodging₀.cwd lodging₀.dest := by
  obtain ⟨es₁, with_it⟩ := course_run₀ (fun _ => true) lodging₀ true .empty (by decide +kernel)
  obtain ⟨es₂, without⟩ := course_run₀ (fun _ => true) lodging₀ false .empty (by decide +kernel)
  have hstorage : (site₁ lodging₀.storage).storage = lodging₀.storage := rfl
  obtain ⟨-, hversion, hcontents⟩ := nightly_keeps_apart hstorage (fun _ h => platform_site₁ h)
    (fun _ _ => .inr (.inl awaited_empty)) (by rintro q ⟨⟩) with_it without
  exact ⟨_, _, Prod.ext (by decide +kernel) rfl, Prod.ext (by decide +kernel) rfl, hversion, hcontents⟩

/-- The way to the directory goes over one that is not there and back, and there is a binary in it. -/
def roundabout : Lodging := ⟨[], "/x/../s", ["s".toList], .linux⟩

def filled₀ : Disk := ⟨[(roundabout.binary, .file 0 0o755 "server".toUTF8), (roundabout.home, .dir)], 1⟩

/-- The user wants the build of the extension, and no other server. -/
def extensionOnly (message : String) : Bool :=
  message = "New version of rust-analyzer (nightly) is available (requires reload)."

/-- The server of the wanted version, and a draft that is another name of it. -/
def linked₀ : Disk := ⟨[(lodging₀.record, .file 1 0o644 "\x7b\"releaseId\":7,\"serverVersion\":\"0.1.0\"\x7d".toUTF8),
  (lodging₀.draft, .file 0 0o755 "server".toUTF8), (lodging₀.binary, .file 0 0o755 "server".toUTF8),
  (lodging₀.home, .dir)], 2⟩

theorem no_link {d : Disk} (h : ∀ e ∈ d.entries, e.2.kind ≠ .other) (p : Place) (target : Path) :
    d.get? p ≠ some (.link target) := by
  intro hp
  have hne : p ≠ [] := by
    rintro rfl
    cases hp
  exact h _ (Disk.mem_of_get? hne hp) rfl

set_option maxRecDepth 100000 in
/-- Where the way to the directory goes by `..` behind a directory that is not there, the download of the extension makes
that directory, and a server is found that would not have been found without it. And where the draft is another name of
the server, the time of the check is written over the server. -/
theorem nightly_opens_way : (∀ p target, filled₀.get? p ≠ some (.link target)) ∧
    (∃ es s d, (begin₀ roundabout.storage true).Course ((source₀ extensionOnly).law roundabout) filled₀ es
      (some (.ok s)) d) ∧
    (∃ es message d, (begin₀ roundabout.storage false).Course ((source₀ extensionOnly).law roundabout) filled₀ es
      (some (.error message)) d) ∧
    (∀ p target, linked₀.get? p ≠ some (.link target)) ∧
    ∃ es₁ r₁ d₁ es₂ r₂ d₂,
      (begin₀ lodging₀.storage true).Course ((source₀ fun _ => true).law lodging₀) linked₀ es₁ (some r₁) d₁ ∧
      (begin₀ lodging₀.storage false).Course ((source₀ fun _ => true).law lodging₀) linked₀ es₂ (some r₂) d₂ ∧
      d₁.contents lodging₀.cwd lodging₀.dest ≠ d₂.contents lodging₀.cwd lodging₀.dest := by
  refine ⟨no_link (by decide), ?_, ?_, no_link (by decide), ?_⟩
  · obtain ⟨es, hc⟩ := course_run₀ extensionOnly roundabout true filled₀ (by decide +kernel)
    have hrun : (run₀ extensionOnly roundabout true filled₀).1 =
        .ok ⟨⟨roundabout.statePath, ⟨some Nightly.noon, some 7, none⟩⟩, roundabout.dest⟩ := by decide +kernel
    rw [hrun] at hc
    exact ⟨es, _, _, hc⟩
  · obtain ⟨es, hc⟩ := course_run₀ extensionOnly roundabout false filled₀ (by decide +kernel)
    have hrun : (run₀ extensionOnly roundabout false filled₀).1 = .error [notAvailable roundabout.dest] := by decide +kernel
    rw [hrun] at hc
    exact ⟨es, _, _, hc⟩
  · obtain ⟨es₁, with_it⟩ := course_run₀ (fun _ => true) lodging₀ true linked₀ (by decide +kernel)
    obtain ⟨es₂, without⟩ := course_run₀ (fun _ => true) lodging₀ false linked₀ (by decide +kernel)
    exact ⟨es₁, _, _, es₂, _, _, with_it, without, by decide +kernel⟩

end Concrete

end Session

end Provision
