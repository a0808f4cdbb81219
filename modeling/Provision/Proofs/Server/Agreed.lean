import Provision.Proofs.Nightly.Unseen
import Provision.Proofs.Server.Told

set_option autoImplicit false

namespace Provision.World

open Plan (Tells tells_ask tells_done)
open Server (Deed Script deeds stamped checked)

variable {W : World} {L : Lodging} {σ : Sight} {P P' : Disk → Prop} {s s' : Store} {settings : Settings} {site : Site}

/-- The plans come to the binary or to the same error, with stores that cannot be told apart, and leave the same sight. -/
def Agree (W : World) (L : Lodging) (P : Disk → Prop) (p q : Plan setup (Except Error Path × Store)) : Prop :=
  ∃ r s s' σ, (∀ path, r = .ok path → path = L.dest) ∧ s.Kin s' ∧ Tells (W.law L) P p (r, s) (L.Looks σ) ∧
    Tells (W.law L) P q (r, s') (L.Looks σ)

abbrev Agrees (W : World) (L : Lodging) (P : Disk → Prop) (p q : Script) : Prop :=
  W.Agree L P (p.lower Deed.plan) (q.lower Deed.plan)

section Rules

theorem agrees_error {e : Error} (hk : s.Kin s') (hP : ∀ d, P d → L.Looks σ d) :
    W.Agrees L P (.done (.error e, s)) (.done (.error e, s')) :=
  ⟨.error e, s, s', σ, nofun, hk, tells_done hP, tells_done hP⟩

theorem agrees_dest (hk : s.Kin s') (hP : ∀ d, P d → L.Looks σ d) :
    W.Agrees L P (.done (.ok L.dest, s)) (.done (.ok L.dest, s')) := by
  refine ⟨.ok L.dest, s, s', σ, ?_, hk, tells_done hP, tells_done hP⟩
  rintro path ⟨⟩
  rfl

theorem agrees_ask {c c' : Deed} {a : c.Reply} {a' : c'.Reply} {k : c.Reply → Script} {k' : c'.Reply → Script}
    (hc : Tells (W.law L) P c.plan a P') (hc' : Tells (W.law L) P c'.plan a' P') (hk : W.Agrees L P' (k a) (k' a')) :
    W.Agrees L P (.ask (I := deeds) c k) (.ask (I := deeds) c' k') := by
  obtain ⟨r, t, t', τ, hr, hkin, h, h'⟩ := hk
  exact ⟨r, t, t', τ, hr, hkin, hc.bind h, hc'.bind h'⟩

theorem Agrees.mono {p q : Script} (h : W.Agrees L P p q) (hP : ∀ d, P' d → P d) : W.Agrees L P' p q := by
  obtain ⟨r, t, t', τ, hr, hkin, h, h'⟩ := h
  exact ⟨r, t, t', τ, hr, hkin, h.mono hP fun _ => id, h'.mono hP fun _ => id⟩

theorem agrees_orFail {ε : Type} {wrap : ε → Error} {next next' : Script} {a : Except ε Unit} (hk : s.Kin s')
    (hP : ∀ d, P d → L.Looks σ d) (hn : a = .ok () → W.Agrees L P next next') :
    W.Agrees L P (Script.orFail s wrap next a) (Script.orFail s' wrap next' a) := by
  cases a with
  | error e => exact agrees_error hk hP
  | ok u => exact hn rfl

end Rules

theorem tells_log (text : String) : Tells (W.law L) P (Deed.log text).plan () P := by
  intro d es o d' h hc
  obtain ⟨es', hc⟩ := course_kernel hc
  obtain rfl : d' = d := hc.of_call_some
  exact ⟨rfl, h⟩

theorem tells_confirm (message action : String) :
    Tells (W.law L) (L.Looks σ) (Deed.confirm message action).plan (W.agrees message action) (L.Looks σ) := by
  intro d es o d' h hc
  obtain ⟨ho, hl⟩ := hc.of_call_some
  exact ⟨ho, h.left hl⟩

theorem tells_fetch (tag : String) :
    Tells (W.law L) (L.Looks σ) (Deed.fetch tag).plan (W.release tag) (L.Looks σ) := by
  intro d es o d' h hc
  obtain ⟨ho, rfl⟩ := hc.of_call_some
  exact ⟨ho, h⟩

section Scripts

variable (hk : s.Kin s') (hs : s.path = L.statePath) (ha : Disk.admits L.statePath = .ok ())

include ha hk hs

theorem agrees_saving {next next' : Script} (hn : ∀ σ', W.Agrees L (L.There σ') next next') :
    W.Agrees L (L.There σ) (Script.saving s next) (Script.saving s' next') := by
  obtain ⟨a, σ', hsave⟩ := tells_save (W := W) (L := L) σ s.record.serverVersion ha
  refine agrees_ask (hsave s hs rfl) (hsave s' (hk.1.trans hs) hk.2) ?_
  exact agrees_orFail hk (fun d h => h.looks) fun _ => hn σ'

theorem agrees_recording :
    W.Agrees L (L.There σ) (Script.recording settings site L.dest s) (Script.recording settings site L.dest s') := by
  have hstamped : (stamped s (some settings.package.version)).Kin (stamped s' (some settings.package.version)) :=
    ⟨hk.1, rfl⟩
  have hchecked : (checked (stamped s (some settings.package.version)) site.now).Kin
      (checked (stamped s' (some settings.package.version)) site.now) := ⟨hk.1, rfl⟩
  refine agrees_saving hstamped hs ha fun σ₁ => agrees_saving hchecked hs ha fun σ₂ => ?_
  exact agrees_ask (tells_log _) (tells_log _) (agrees_dest hchecked fun d h => h.looks)

theorem agrees_patching (tool : Path) {mode : Nat} {data : ByteArray} (hb : σ.binary = some (.file 0 mode data))
    (hshared : σ.shared = false) :
    W.Agrees L (L.There σ) (Script.patching settings site tool L.dest s)
      (Script.patching settings site tool L.dest s') := by
  unfold Script.patching
  split
  · obtain ⟨a, σ', hpatch⟩ := tells_patch (W := W) (L := L) tool hb hshared
    refine agrees_ask hpatch hpatch (agrees_orFail hk (fun d h => h.looks) fun _ => ?_)
    exact agrees_recording hk hs ha
  · exact agrees_recording hk hs ha

theorem agrees_replacing (tool : Path) (url : String) :
    W.Agrees L (L.Looks σ) (Script.replacing settings site tool url L.dest s)
      (Script.replacing settings site tool url L.dest s') := by
  obtain ⟨a, σ₁, hremove⟩ := tells_remove (W := W) (L := L) σ
  refine agrees_ask hremove hremove (agrees_orFail hk (fun d h => h) fun _ => ?_)
  have hdownload := tells_download (W := W) (L := L) σ₁ url "Downloading rust-analyzer server" (some Server.executableMode)
  have hcomplete := W.complete url (some Server.executableMode)
  cases hleft : W.left url (some Server.executableMode) with
  | none =>
    rw [hleft] at hdownload hcomplete
    refine agrees_ask hdownload hdownload (agrees_orFail hk (fun d h => h) fun ho => ?_)
    exact absurd rfl (hcomplete ho)
  | some file =>
    rw [hleft] at hdownload
    refine agrees_ask hdownload hdownload (agrees_orFail hk (fun d h => h.looks) fun _ => ?_)
    exact agrees_patching hk hs ha tool rfl rfl

theorem agrees_installing (tool : Path) (tag binary : String) :
    W.Agrees L (L.Looks σ) (Script.installing settings site tool tag binary L.dest s)
      (Script.installing settings site tool tag binary L.dest s') := by
  refine agrees_ask (tells_fetch tag) (tells_fetch tag) ?_
  cases W.release tag with
  | error e => exact agrees_error hk fun d h => h
  | ok release =>
    dsimp only
    cases release.asset? binary with
    | none => exact agrees_error hk fun d h => h
    | some asset => exact agrees_replacing hk hs ha tool asset.url

theorem agrees_deciding (tool : Path) (tag binary : String) :
    W.Agrees L (L.Looks σ) (Script.deciding settings site tool tag binary L.dest s)
      (Script.deciding settings site tool tag binary L.dest s') := by
  unfold Script.deciding
  rw [hk.2]
  split
  · exact agrees_dest hk fun d h => h
  split
  · refine agrees_ask (tells_confirm _ _) (tells_confirm _ _) ?_
    cases W.agrees _ _ with
    | true => exact agrees_installing hk hs ha tool tag binary
    | false => exact agrees_ask (tells_log _) (tells_log _) (agrees_dest hk fun d h => h)
  · exact agrees_installing hk hs ha tool tag binary

theorem agrees_looking (hv : s.record.serverVersion = σ.version) (tool : Path) (tag binary : String) :
    W.Agrees L (L.Looks σ) (Script.looking settings site tool tag binary L.dest s)
      (Script.looking settings site tool tag binary L.dest s') := by
  refine agrees_ask (tells_look σ) (tells_look σ) ?_
  generalize ((Disk.admits L.dest).toOption.bind fun _ => σ.binary).isSome = there
  cases there with
  | true => exact agrees_deciding hk hs ha tool tag binary
  | false =>
    dsimp only
    rw [hk.2]
    split
    · rename_i hsome
      -- where a version is on record, the directory is there
      have hthere : ∀ d, L.Looks σ d → L.There σ d := by
        rintro d (h | ⟨-, rfl⟩)
        · exact h
        · rw [hv] at hsome
          cases hsome
      have hforgotten : (stamped s none).Kin (stamped s' none) := ⟨hk.1, rfl⟩
      refine (agrees_saving hforgotten hs ha fun σ' => ?_).mono hthere
      exact (agrees_deciding hforgotten hs ha tool tag binary).mono fun d h => h.looks
    · exact agrees_deciding hk hs ha tool tag binary

theorem agree_get (hsite : site.storage = L.storage)
    (hplatform : ∀ platform, Platform.detect site.arch site.os = .ok platform → platform = L.platform)
    (hv : s.record.serverVersion = σ.version) (tool : Path) :
    (∃ path, ∀ s, (Server.get settings site tool).plan s = .done (.ok path, s)) ∨
      W.Agree L (L.Looks σ) ((Server.get settings site tool).plan s) ((Server.get settings site tool).plan s') := by
  simp only [Server.plan_get, Server.script]
  cases site.serverPath with
  | some path => exact .inl ⟨_, fun _ => rfl⟩
  | none =>
    cases settings.package.releaseTag with
    | none => exact .inl ⟨_, fun _ => rfl⟩
    | some tag =>
      refine .inr ?_
      cases hdetect : Platform.detect site.arch site.os with
      | error e => exact agrees_error hk fun d h => h
      | ok platform =>
        obtain rfl := hplatform platform hdetect
        dsimp only
        rw [Server.placeOf_eq L hsite]
        exact agrees_looking hk hs ha hv tool tag L.platform.binary

end Scripts

end Provision.World
