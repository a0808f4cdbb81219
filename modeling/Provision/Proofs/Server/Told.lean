import Provision.Proofs.Store.Verdict
import Provision.Proofs.Server.Script

set_option autoImplicit false

namespace Provision

namespace World

open Plan (Tells tells_ask tells_ask_done tells_done)
open Server (Deed)

variable {W : World} {L : Lodging} {σ : Sight} {home : Place} {d d' : Disk}

theorem tells_look (σ : Sight) :
    Tells (W.law L) (L.Looks σ) (Deed.look L.dest).plan (((Disk.admits L.dest).toOption.bind fun _ => σ.binary).isSome)
      (L.Looks σ) := by
  refine Setup.tells_ofKernel ?_
  rintro d es o d' h hc
  obtain ⟨r, t, es', rfl, hl, hrest⟩ := hc.of_ask_some
  obtain ⟨hr, rfl⟩ := law_exact hl rfl
  rw [← h.find]
  change r = (t.find L.cwd L.dest).map _ at hr
  cases hf : t.find L.cwd L.dest with
  | error e =>
    rw [hf] at hr
    subst hr
    obtain ⟨-, ho, rfl⟩ := hrest.of_done
    cases ho
    exact ⟨rfl, h⟩
  | ok found =>
    rw [hf] at hr
    subst hr
    obtain ⟨-, ho, rfl⟩ := hrest.of_done
    cases ho
    exact ⟨rfl, h⟩

theorem law_unlink {p : Path} {r : Except Fault Unit} (hl : Setup.kernelLaw (W.law L) (.unlink p) d r d') :
    r = (d.unlink L.cwd p).map (fun _ => ()) ∧ d' = (d.unlink L.cwd p).toOption.getD d := by
  obtain ⟨hr, hd⟩ := law_exact hl rfl
  simp only [Machine.serve] at hr hd
  cases hu : d.unlink L.cwd p <;> rw [hu] at hr hd <;> exact ⟨hr, hd⟩

theorem law_rename {p q : Path} {r : Except Fault Unit} (hl : Setup.kernelLaw (W.law L) (.rename p q) d r d') :
    r = (d.rename L.cwd p q).map (fun _ => ()) ∧ d' = (d.rename L.cwd p q).toOption.getD d := by
  obtain ⟨hr, hd⟩ := law_exact hl rfl
  simp only [Machine.serve] at hr hd
  cases hu : d.rename L.cwd p q <;> rw [hu] at hr hd <;> exact ⟨hr, hd⟩

def removal (L : Lodging) (σ : Sight) : Except Fault Unit :=
  (Disk.admits L.dest).bind fun _ =>
    match σ.binary with
    | none => .error (.os .missing)
    | some .dir => .error (.os .isDir)
    | some _ => .ok ()

theorem removed (h : L.Looks σ d) :
    (d.unlink L.cwd L.dest).map (fun _ => ()) = removal L σ ∧
      L.Looks (if removal L σ = .ok () then { σ with binary := none, shared := false } else σ)
        ((d.unlink L.cwd L.dest).toOption.getD d) := by
  have hl := h
  obtain ⟨home, h⟩ | ⟨h, rfl⟩ := h
  · have hunlink := h.linkless.unlink L.plain_binary (by simp [Lodging.names])
    rw [← Lodging.dest_eq] at hunlink
    rw [hunlink, removal]
    cases Disk.admits L.dest with
    | error e => exact ⟨rfl, hl⟩
    | ok u =>
      simp only [Except.bind]
      have hbinary := h.binary
      cases hv : d.get? (L.binaryName :: home) with
      | none =>
        rw [hv] at hbinary
        rw [← hbinary]
        exact ⟨rfl, hl⟩
      | some v =>
        rw [hv] at hbinary
        rw [← hbinary]
        by_cases hdir : v = .dir
        · subst hdir
          exact ⟨rfl, hl⟩
        · have hnodir : d.get? (L.binaryName :: home) ≠ some .dir := fun he => hdir (Option.some.inj (hv.symm.trans he))
          have hgone : L.Looks { σ with binary := none, shared := false } (d.erase (L.binaryName :: home)) :=
            .inl ⟨home, h.unlinked_binary hnodir⟩
          cases v with
          | dir => exact absurd rfl hdir
          | _ => exact ⟨rfl, hgone⟩
  · have hunlink : d.unlink L.cwd L.dest = (Disk.admits L.dest).bind fun _ => .error (.os .missing) := by
      rw [Lodging.dest_eq, Disk.unlink, h.absent.holder L.plain_binary]
      cases Disk.admits (L.storage / ⟨L.binaryName⟩) <;> rfl
    rw [hunlink, removal]
    cases Disk.admits L.dest with
    | error e => exact ⟨rfl, hl⟩
    | ok u => exact ⟨rfl, hl⟩

theorem tells_remove (σ : Sight) : ∃ a σ', Tells (W.law L) (L.Looks σ) (Deed.remove L.dest).plan a (L.Looks σ') := by
  have hask : ∀ {a : Except Fault Unit} {σ' : Sight} {k : Except Fault Unit → Plan kernel (Except Fault Unit)},
      σ' = (if removal L σ = .ok () then { σ with binary := none, shared := false } else σ) → k (removal L σ) = .done a →
      Tells (Setup.kernelLaw (W.law L)) (L.Looks σ) (.ask (I := kernel) (.unlink L.dest) k) a (L.Looks σ') := by
    rintro a σ' k rfl hk
    refine tells_ask_done (r := removal L σ) (fun d r t h hl => ?_) hk
    obtain ⟨rfl, rfl⟩ := law_unlink hl
    exact removed h
  cases hr : removal L σ with
  | ok u =>
    refine ⟨.ok (), _, Setup.tells_ofKernel (hask rfl ?_)⟩
    rw [hr]
    rfl
  | error e =>
    by_cases hm : e.isMissing = true
    · refine ⟨.ok (), _, Setup.tells_ofKernel (hask rfl ?_)⟩
      rw [hr]
      exact if_pos hm
    · refine ⟨.error e, _, Setup.tells_ofKernel (hask rfl ?_)⟩
      rw [hr]
      exact if_neg hm

theorem tells_download (σ : Sight) (url label : String) (mode : Option Nat) :
    Tells (W.law L) (L.Looks σ) (Deed.download url L.dest mode label).plan (W.delivered url)
      (match W.left url mode with
        | none => L.Looks σ
        | some (bits, data) => L.There { σ with binary := some (.file 0 bits data), shared := false }) := by
  intro d es o d' h hc
  obtain ⟨ho, t, ht, hfile⟩ := hc.of_call_some
  refine ⟨ho, ?_⟩
  obtain ⟨hlooks, -⟩ := h.way L.plain_binary ht
  cases hleft : W.left url mode with
  | none =>
    rw [hleft] at hfile
    obtain rfl : d' = t := hfile
    exact hlooks
  | some file =>
    obtain ⟨bits, data⟩ := file
    rw [hleft] at hfile
    obtain ⟨home, serial, hshows, hdir, hnew, hlone, hdraft, hsame⟩ := hlooks.brought L.plain_binary hfile
    have hxs : ∀ n ∈ [L.binaryName], n ∈ Lodging.packageName :: L.names := by simp [Lodging.names]
    have hl := hshows.linkless.altered hxs (by simpa using hdir) hfile.sound (fun p hp => hsame p (hp _ (by simp)))
      (by simp [hnew])
    refine ⟨home, hshows.at_binaries hl (hdraft Lodging.Shows.binary_ne_saved.1) (fun p hp _ => hsame p hp)
      (by rw [hnew]; rfl) ?_ (hlone.not_twins (Lodging.Shows.names_ne L.binary_ne_aside.symm home))⟩
    rw [hsame _ (Lodging.Shows.names_ne L.binary_ne_aside.symm home)]
    exact hshows.aside

theorem tells_log_bind {α : Type} {e : Log.Entry} {p : Plan kernel α} {a : α} {P : Disk → Prop}
    (h : Tells (Setup.kernelLaw (W.law L)) (L.There σ) p a P) :
    Tells (Setup.kernelLaw (W.law L)) (L.There σ) (.ask (I := kernel) (.log e) fun _ => p) a P := by
  refine tells_ask (r := ()) (fun d r t h hl => ?_) h
  obtain ⟨-, rfl⟩ := law_exact hl rfl
  exact ⟨rfl, h⟩

section Patch

variable {mode : Nat} {data : ByteArray}

/-- A file is not given a name that a directory has, and no path is taken that may not be used. -/
def handover (p q : Path) (target : Option Node) : Except Fault Unit :=
  (Disk.admits p).bind fun _ => (Disk.admits q).bind fun _ =>
    if target = some .dir then .error (.os .isDir) else .ok ()

theorem renamed {m n : Name} (h : L.Shows home σ d) (hm : L.Binary m) (hn : L.Binary n) (hne : m ≠ n) {serial : Nat}
    (hv : d.get? (m :: home) = some (.file serial mode data)) {target : Option Node}
    (ht : (d.get? (n :: home)).map Node.face = target) {σ' : Sight}
    (hmoved : d.get? (n :: home) ≠ some .dir →
      L.Shows home σ' (if d.twins (m :: home) (n :: home) then d else d.move (m :: home) (n :: home))) :
    (d.rename L.cwd (L.storage / ⟨m⟩) (L.storage / ⟨n⟩)).map (fun _ => ()) =
        handover (L.storage / ⟨m⟩) (L.storage / ⟨n⟩) target ∧
      L.There (if handover (L.storage / ⟨m⟩) (L.storage / ⟨n⟩) target = .ok () then σ' else σ)
        ((d.rename L.cwd (L.storage / ⟨m⟩) (L.storage / ⟨n⟩)).toOption.getD d) := by
  have hnames : ∀ k, L.Binary k → k ∈ Lodging.packageName :: L.names := by
    rintro k (rfl | rfl) <;> simp [Lodging.names]
  have hdir : d.get? (n :: home) = some .dir ↔ target = some .dir := by
    rw [← ht]
    cases d.get? (n :: home) <;> simp [Node.face_eq_dir]
  rw [h.linkless.rename hm.plain hn.plain (hnames m hm) (hnames n hn) hne hv rfl, handover]
  cases Disk.admits (L.storage / ⟨m⟩) with
  | error e => exact ⟨rfl, home, h⟩
  | ok u =>
    cases Disk.admits (L.storage / ⟨n⟩) with
    | error e => exact ⟨rfl, home, h⟩
    | ok u =>
      simp only [Except.bind, hdir]
      by_cases hd : target = some .dir
      · rw [if_pos hd, if_pos hd]
        exact ⟨rfl, home, h⟩
      · rw [if_neg hd, if_neg hd]
        exact ⟨rfl, home, hmoved (hdir.not.mpr hd)⟩

theorem tells_aside (hb : σ.binary = some (.file 0 mode data)) (hs : σ.shared = false) {r : Except Fault Unit}
    (h : L.There σ d) (hl : Setup.kernelLaw (W.law L) (.rename L.dest (Patch.aside L.dest)) d r d') :
    r = handover L.dest (Patch.aside L.dest) σ.aside ∧
      L.There (if handover L.dest (Patch.aside L.dest) σ.aside = .ok () then
        { σ with binary := none, aside := σ.binary, shared := false } else σ) d' := by
  obtain ⟨rfl, rfl⟩ := law_rename hl
  obtain ⟨home, h⟩ := h
  obtain ⟨serial, hv⟩ := Lodging.Shows.file_at h.binary hb
  rw [L.aside_eq]
  refine renamed h (.inl rfl) (.inr rfl) L.binary_ne_aside hv h.aside fun hd => ?_
  rw [h.shared, hs, if_neg (by simp)]
  exact h.moved_aside hv rfl hd

/-- What is seen after the binary aside was moved back, which does nothing where it is another name of the binary. -/
def putBack (σ : Sight) : Sight :=
  if σ.shared then σ else { σ with binary := σ.aside, aside := none, shared := false }

theorem tells_back (ha : σ.aside = some (.file 0 mode data)) {r : Except Fault Unit}
    (h : L.There σ d) (hl : Setup.kernelLaw (W.law L) (.rename (Patch.aside L.dest) L.dest) d r d') :
    r = handover (Patch.aside L.dest) L.dest σ.binary ∧
      L.There (if handover (Patch.aside L.dest) L.dest σ.binary = .ok () then putBack σ else σ) d' := by
  obtain ⟨rfl, rfl⟩ := law_rename hl
  obtain ⟨home, h⟩ := h
  obtain ⟨serial, hv⟩ := Lodging.Shows.file_at h.aside ha
  rw [L.aside_eq]
  refine renamed h (.inr rfl) (.inl rfl) L.binary_ne_aside.symm hv h.binary fun hd => ?_
  rw [putBack, Disk.twins_comm, h.shared]
  cases σ.shared with
  | true => exact h
  | false => exact h.moved_back hv rfl hd

theorem tells_cleared (ha : σ.aside = some (.file 0 mode data)) {r : Except Fault Unit}
    (h : L.There σ d) (hl : Setup.kernelLaw (W.law L) (.unlink (Patch.aside L.dest)) d r d') :
    r = (Disk.admits (Patch.aside L.dest)).map (fun _ => ()) ∧
      L.There (if Disk.admits (Patch.aside L.dest) = .ok () then { σ with aside := none, shared := false } else σ) d' := by
  obtain ⟨rfl, rfl⟩ := law_unlink hl
  obtain ⟨home, h⟩ := h
  obtain ⟨serial, hv⟩ := Lodging.Shows.file_at h.aside ha
  have hunlink := h.linkless.unlink L.plain_aside (by simp [Lodging.names])
  rw [← L.aside_eq, hv] at hunlink
  rw [hunlink]
  cases hadmits : Disk.admits (Patch.aside L.dest) with
  | error e => exact ⟨rfl, home, h⟩
  | ok u => exact ⟨rfl, home, h.unlinked_aside (by simp [hv])⟩

theorem tells_runTool (σ : Sight) (tool : Path) : ∃ a binary shared,
    Tells (Setup.kernelLaw (W.law L)) (L.There σ) (Patch.runTool tool (Patch.aside L.dest) L.dest).plan a
      (L.There { σ with binary := binary, shared := shared }) := by
  have hlaunch : ∀ {args : List String} {input : ByteArray} {d r d'}, args ≠ ["--version"] → L.There σ d →
      Setup.kernelLaw (W.law L) (.launch tool args input) d r d' →
      r = (W.patched tool args input σ.aside σ.binary).1 ∧
        L.There { σ with
          binary := (W.patched tool args input σ.aside σ.binary).2.1
          shared := (W.patched tool args input σ.aside σ.binary).2.2 } d' := by
    rintro args input d r d' hargs ⟨home, h⟩ hl
    have hpatches : W.Patches L tool args input d r d' := by
      simpa only [Setup.kernelLaw, law, if_neg hargs] using hl
    obtain ⟨hlinkless, hanswer, hlone, hsame⟩ := hpatches home h.linkless
    rw [h.aside, h.binary] at hanswer
    refine ⟨congrArg Prod.fst hanswer, home, ?_⟩
    obtain ⟨hdraft, hrecord, -, -⟩ := Lodging.Shows.binary_ne_saved (L := L)
    refine h.revised hlinkless (hlone h.lone) (congrArg (fun x => x.2.1) hanswer) ?_ (congrArg (fun x => x.2.2) hanswer)
      (hsame _ (by simp [Lodging.names]) hdraft.symm) (hsame _ (by simp [Lodging.names]) hrecord.symm)
    rw [hsame _ (by simp [Lodging.names]) L.binary_ne_aside.symm]
    exact h.aside
  obtain ⟨args, input, k, hplan, hargs, hk⟩ := Patch.runTool_plan tool (Patch.aside L.dest) L.dest
  obtain ⟨a, ha⟩ := hk (W.patched tool args input σ.aside σ.binary).1
  refine ⟨a, (W.patched tool args input σ.aside σ.binary).2.1, (W.patched tool args input σ.aside σ.binary).2.2, ?_⟩
  rw [hplan]
  exact tells_ask_done (fun d r t h hl => hlaunch hargs h hl) ha

theorem tells_restore (ha : σ.aside = some (.file 0 mode data)) {k : Except Fault Unit → Plan kernel (Except Error Unit)}
    {a : Except Error Unit} (hok : k (.ok ()) = .done a)
    (herror : ∀ e, ∃ entry, k (.error e) = .ask (.log entry) fun _ => .done a) :
    ∃ σ', Tells (Setup.kernelLaw (W.law L)) (L.There σ) (.ask (I := kernel) (.rename (Patch.aside L.dest) L.dest) k) a
      (L.There σ') := by
  have hback := fun (d : Disk) (r : Except Fault Unit) (t : Disk) (h : L.There σ d)
      (hl : Setup.kernelLaw (W.law L) (.rename (Patch.aside L.dest) L.dest) d r t) => tells_back ha h hl
  cases hr : handover (Patch.aside L.dest) L.dest σ.binary with
  | ok u =>
    rw [hr, if_pos rfl] at hback
    exact ⟨_, tells_ask_done hback hok⟩
  | error e =>
    rw [hr, if_neg (by simp)] at hback
    obtain ⟨entry, hlog⟩ := herror e
    refine ⟨σ, tells_ask hback ?_⟩
    rw [hlog]
    exact tells_log_bind (tells_done fun _ h => h)

theorem tells_patch (tool : Path) (hb : σ.binary = some (.file 0 mode data)) (hs : σ.shared = false) :
    ∃ a σ', Tells (W.law L) (L.There σ) (Deed.patch tool L.dest).plan a (L.There σ') := by
  suffices h : ∃ a σ', Tells (Setup.kernelLaw (W.law L)) (L.There σ) (Patch.patch tool L.dest).plan a (L.There σ') by
    obtain ⟨a, σ', h⟩ := h
    exact ⟨a, σ', Setup.tells_ofKernel h⟩
  obtain ⟨k, hplan, herror, entry, k', hok, hback, k'', hdone, hend⟩ := Patch.patch_plan tool L.dest
  rw [hplan]
  have haside := fun (d : Disk) (r : Except Fault Unit) (t : Disk) (h : L.There σ d)
      (hl : Setup.kernelLaw (W.law L) (.rename L.dest (Patch.aside L.dest)) d r t) => tells_aside hb hs h hl
  cases hr : handover L.dest (Patch.aside L.dest) σ.aside with
  | error e =>
    obtain ⟨a, ha⟩ := herror e
    rw [hr] at haside
    exact ⟨a, _, tells_ask_done haside ha⟩
  | ok u =>
  rw [hr, if_pos rfl] at haside
  obtain ⟨a, binary, shared, hrun⟩ :=
    tells_runTool (W := W) (L := L) { σ with binary := none, aside := σ.binary, shared := false } tool
  -- what follows the run depends on what the tool is answered, and that on the sight
  obtain ⟨a', σ', hrest⟩ : ∃ a' σ', Tells (Setup.kernelLaw (W.law L))
      (L.There { σ with binary := binary, aside := σ.binary, shared := shared }) (k' a) a' (L.There σ') := by
    cases a with
    | error failure =>
      obtain ⟨kback, hkback, hback, hwarn⟩ := hback failure
      rw [hkback]
      exact ⟨_, tells_restore hb hback hwarn⟩
    | ok u =>
      obtain ⟨a', ha'⟩ := hend ((Disk.admits (Patch.aside L.dest)).map fun _ => ())
      rw [hdone]
      exact ⟨a', _, tells_ask_done (fun d r t h hl => tells_cleared hb h hl) ha'⟩
  refine ⟨a', σ', tells_ask haside ?_⟩
  rw [hok]
  exact tells_log_bind (hrun.bind hrest)

end Patch

end World

end Provision
