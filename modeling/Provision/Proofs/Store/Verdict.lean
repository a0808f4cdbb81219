import Provision.Proofs.Session.World
import Provision.Proofs.Store.Steps

set_option autoImplicit false

namespace Provision

open Plan (Tells)

theorem Record.text_isEmpty (r : Record) : r.text.toUTF8.isEmpty = false := by
  have htext : r.text.toList = r.write := by simp [Record.text]
  have hne : r.text ≠ "" := by
    intro he
    rw [he] at htext
    cases htext
  have hsize : r.text.utf8ByteSize ≠ 0 := by simpa using hne
  simp [ByteArray.isEmpty, hsize]

namespace World

variable {W : World} {L : Lodging} {σ : Sight} {d d' : Disk}

def starts : Kernel.Call → Bool
  | .launch _ _ _ => true
  | _ => false

theorem law_exact {c : kernel.Call} {r : kernel.Reply c} (h : Setup.kernelLaw (W.law L) c d r d')
    (hc : starts c = false) : Kernel.exact L.cwd c d r d' := by
  cases c with
  | launch program args input => cases hc
  | _ => exact h

theorem tells_makeDirs {dir : Path} (hdir : dir.Above L.storage) :
    Tells (Setup.kernelLaw (W.law L)) (L.There σ) (Kernel.makeDirs dir)
      (if dir.chars = [] then .ok () else Disk.admits dir) (L.There σ) := by
  unfold Kernel.makeDirs Path.ancestors
  rw [List.cons_append, Kernel.makeChain]
  by_cases hempty : dir.chars = []
  · rw [if_pos (by simpa using hempty), if_pos hempty]
    exact Plan.tells_done fun _ h => h
  rw [if_neg (by simpa using hempty), if_neg hempty]
  rintro d es o d' ⟨home, h⟩ hc
  obtain ⟨q, hq, hqdir⟩ := Disk.enters_above h.linkless.enters hdir hempty
  obtain ⟨e, hmake, hmissing⟩ := Disk.makeDir_entered hq hempty
  have hvain : ∀ f, Disk.admits dir = .error f → e = f := by
    intro f hf
    have hfails : d.makeDir L.cwd dir = .error f := by
      rw [Disk.makeDir, Disk.holder_error hf]
      rfl
    exact Except.error.inj (hmake.symm.trans hfails)
  obtain ⟨r, t, es', rfl, hl, hsettle⟩ := hc.of_ask_some
  obtain ⟨hr, ht⟩ := law_exact hl rfl
  obtain rfl : r = .error e := by simpa [Machine.serve, Machine.change, hmake] using hr
  obtain rfl : t = d := by simpa [Machine.serve, Machine.change, hmake] using ht
  change Plan.Course _ (if e.isMissing = true then _ else Kernel.makeChain.settle dir e) _ _ _ _ at hsettle
  rw [if_neg (by simp [hmissing])] at hsettle
  obtain ⟨r, t', es'', rfl, hl, hrest⟩ := hsettle.of_ask_some
  obtain ⟨hr, rfl⟩ := law_exact hl rfl
  -- what is there is a directory, if the path may be used to find it
  replace hr : r = (Disk.admits dir).map fun _ => .dir := hr.trans (Disk.inspect_entered hq (hqdir h.linkless.dir))
  cases ha : Disk.admits dir with
  | ok u =>
    rw [ha] at hr
    subst hr
    obtain ⟨-, ho, rfl⟩ := hrest.of_done
    cases ho
    exact ⟨rfl, home, h⟩
  | error f =>
    rw [ha] at hr
    subst hr
    obtain ⟨-, ho, rfl⟩ := hrest.of_done
    cases ho
    rw [hvain f ha]
    exact ⟨rfl, home, h⟩

/-- Whether the draft can be written, by what has its name and is no file. -/
def refusal : Option Node → Except Error Unit
  | some .dir => .error (.io "failed to create temp state file" (.os .isDir))
  | some (.tool _) => .error (.io "failed to create temp state file" (.os .textBusy))
  | some (.device .full) => .error (.io "failed to write temp state file" (.os .noSpace))
  | some (.device _) => .error (.io "failed to sync temp state file" (.os .invalid))
  | _ => .ok ()

def verdict (L : Lodging) (obstacle : Option Node) : Except Error Unit :=
  match Disk.admits (L.storage / ⟨Lodging.draftName⟩) with
  | .error e => .error (.io "failed to create temp state file" e)
  | .ok () => refusal obstacle

variable {home : Place} {es : List (Event kernel Disk)} {s : Store} {o : Except Error Unit}

theorem naming_answer (h : L.Shows home σ d) {serial mode : Nat} {data : ByteArray}
    (hv : d.get? (Lodging.draftName :: home) = some (.file serial mode data)) (hp : s.path = L.statePath)
    (ha : Disk.admits L.statePath = .ok ()) (hdraft : Disk.admits (L.storage / ⟨Lodging.draftName⟩) = .ok ())
    (hc : s.naming.plan.Course (Setup.kernelLaw (W.law L)) d es (some o) d') : o = .ok () := by
  obtain ⟨k, hplan, -, hk⟩ := s.naming_plan
  rw [hplan, L.sibling_eq hp, hp] at hc
  obtain ⟨r, t, es', -, hl, hrest⟩ := hc.of_ask_some
  obtain ⟨hr, -⟩ := law_exact hl rfl
  have hrename := h.linkless.rename Lodging.plain_draft Lodging.plain_record (by simp [Lodging.names])
    (by simp [Lodging.names]) (by decide) hv rfl
  rw [← Lodging.statePath_eq, hdraft, ha] at hrename
  simp only [Except.bind, h.record_ne_dir, if_false] at hrename
  obtain rfl : r = .ok () := by simpa [Machine.serve, Machine.change, hrename] using hr
  rw [hk] at hrest
  obtain ⟨-, ho, -⟩ := hrest.of_done
  exact Option.some.inj ho

theorem writing_answer (h : L.Shows home σ d) {serial mode : Nat} {data : ByteArray}
    (hv : d.get? (Lodging.draftName :: home) = some (.file serial mode data)) (hp : s.path = L.statePath)
    (ha : Disk.admits L.statePath = .ok ()) (hdraft : Disk.admits (L.storage / ⟨Lodging.draftName⟩) = .ok ())
    {rest : ByteArray} (hc : (s.writing (.file serial) rest).plan.Course (Setup.kernelLaw (W.law L)) d es (some o) d') :
    o = .ok () := by
  obtain ⟨k, hplan, -, hk⟩ := s.writing_plan (.file serial)
  rw [hplan] at hc
  obtain ⟨r, t, es', -, hl, hsync⟩ := hc.of_ask_some
  obtain ⟨hr, ht⟩ := law_exact hl rfl
  obtain rfl : r = .ok () := hr
  have hwrite : d.write (.file serial) rest = .ok t := congrArg Except.ok ht.symm
  obtain ⟨hrewritten, hv'⟩ := Disk.Rewritten.write h.linkless.sound hv hwrite
  obtain ⟨k', hplan', -, hk'⟩ := s.syncing_plan (.file serial)
  rw [hk, hplan'] at hsync
  obtain ⟨r, t', es'', -, hl, hname⟩ := hsync.of_ask_some
  obtain ⟨hr, rfl⟩ := law_exact hl rfl
  obtain rfl : r = .ok () := hr
  rw [hk'] at hname
  exact naming_answer (h.rewritten hrewritten) hv' hp ha hdraft hname

theorem writing_device {dev : Device}
    (hc : (s.writing (.device dev) s.record.text.toUTF8).plan.Course (Setup.kernelLaw (W.law L)) d es (some o) d') :
    o = refusal (some (.device dev)) := by
  obtain ⟨k, hplan, he, hk⟩ := s.writing_plan (.device dev)
  rw [hplan] at hc
  obtain ⟨r, t, es', -, hl, hsync⟩ := hc.of_ask_some
  obtain ⟨hr, -⟩ := law_exact hl rfl
  have hkept : r = .ok () → o = .error (.io "failed to sync temp state file" (.os .invalid)) := by
    rintro rfl
    obtain ⟨k', hplan', he', -⟩ := s.syncing_plan (.device dev)
    rw [hk, hplan'] at hsync
    obtain ⟨r, t', es'', -, hl, hend⟩ := hsync.of_ask_some
    obtain ⟨hr, -⟩ := law_exact hl rfl
    obtain rfl : r = .error (.os .invalid) := hr
    rw [he'] at hend
    obtain ⟨-, ho, -⟩ := hend.of_done
    exact Option.some.inj ho
  cases dev with
  | full =>
    have hwrite : d.write (.device .full) s.record.text.toUTF8 = .error (.os .noSpace) := by
      rw [Disk.write, Record.text_isEmpty]
      rfl
    simp only [Machine.serve, hwrite] at hr
    obtain rfl : r = .error (.os .noSpace) := hr
    rw [he] at hsync
    obtain ⟨-, ho, -⟩ := hsync.of_done
    exact Option.some.inj ho
  | null => exact hkept hr
  | zero => exact hkept hr

theorem publish_answer (h : L.Shows home σ d) (hp : s.path = L.statePath) (ha : Disk.admits L.statePath = .ok ())
    (hc : s.publish.plan.Course (Setup.kernelLaw (W.law L)) d es (some o) d') : o = verdict L σ.obstacle := by
  obtain ⟨k, hplan, he, hk⟩ := s.publish_plan
  rw [hplan, L.sibling_eq hp] at hc
  obtain ⟨r, t, es', -, hl, hrest⟩ := hc.of_ask_some
  obtain ⟨hr, ht⟩ := law_exact hl rfl
  have hcreate := h.linkless.create
  have hfails : ∀ {e}, d.create L.cwd (L.storage / ⟨Lodging.draftName⟩) = .error e →
      o = .error (.io "failed to create temp state file" e) := by
    intro e hcreate
    obtain rfl : r = .error e := by simpa [Machine.serve, Machine.changeWith, hcreate] using hr
    rw [he] at hrest
    obtain ⟨-, ho, -⟩ := hrest.of_done
    exact Option.some.inj ho
  rw [verdict]
  cases hdraft : Disk.admits (L.storage / ⟨Lodging.draftName⟩) with
  | error e =>
    rw [hdraft] at hcreate
    exact hfails hcreate
  | ok u =>
  rw [hdraft] at hcreate
  simp only [Except.bind] at hcreate
  have hopens : ∀ {hnd u}, d.create L.cwd (L.storage / ⟨Lodging.draftName⟩) = .ok (hnd, u) →
      (s.writing hnd s.record.text.toUTF8).plan.Course (Setup.kernelLaw (W.law L)) u es' (some o) d' := by
    intro hnd u hcreate
    obtain rfl : r = .ok hnd := by simpa [Machine.serve, Machine.changeWith, hcreate] using hr
    obtain rfl : t = u := by simpa [Machine.serve, Machine.changeWith, hcreate] using ht
    rw [hk] at hrest
    exact hrest
  -- a file that was opened is empty, and shows nothing new
  have hfile : ∀ {serial u}, d.create L.cwd (L.storage / ⟨Lodging.draftName⟩) = .ok (.file serial, u) → o = .ok () := by
    intro serial u hcreate
    obtain ⟨hrewritten, ⟨serial', mode, he, hv⟩ | ⟨dev, he⟩⟩ := h.linkless.ready.create hcreate
    · cases he
      exact writing_answer (h.rewritten hrewritten) hv hp ha hdraft (hopens hcreate)
    · cases he
  have hobstacle := h.obstacle
  cases hv : d.get? (Lodging.draftName :: home) with
  | none =>
    rw [hv] at hcreate hobstacle
    rw [← hobstacle]
    exact hfile hcreate
  | some v =>
    rw [hv] at hcreate hobstacle
    rw [← hobstacle]
    cases v with
    | file serial mode data => exact hfile hcreate
    | dir => exact hfails hcreate
    | tool name => exact hfails hcreate
    | device dev => exact writing_device (hopens hcreate)
    | link target => exact absurd hv (h.linkless.links _ (by simp [Lodging.names]) target)

theorem tells_save (σ : Sight) (version : Option String) (ha : Disk.admits L.statePath = .ok ()) :
    ∃ a σ', ∀ s : Store, s.path = L.statePath → s.record.serverVersion = version →
      Tells (W.law L) (L.There σ) (Setup.ofKernel s.save.plan) a (L.There σ') := by
  obtain ⟨parent, hparent, habove⟩ := Path.parent?_join L.storage Lodging.plain_record
  have hmake := tells_makeDirs (W := W) (σ := σ) (habove parent (by simp [Path.ancestors]))
  generalize (if parent.chars = [] then Except.ok () else Disk.admits parent : Except Fault Unit) = made at hmake
  have hsave : ∀ {s : Store}, s.path = L.statePath → s.save.plan = (Kernel.makeDirs parent).bind (s.afterDirs parent) :=
    fun hp => Store.save_plan _ (by rw [hp]; exact hparent)
  -- the directory is there, so making it fails for the path alone if it fails
  cases made with
  | error e =>
    refine ⟨.error (.io ("failed to create " ++ parent.text) e), σ, fun s hp _ => Setup.tells_ofKernel ?_⟩
    rw [hsave hp]
    exact hmake.bind (Plan.tells_done fun _ h => h)
  | ok u =>
    refine ⟨verdict L σ.obstacle, if verdict L σ.obstacle = .ok () then { σ with version := version } else σ, ?_⟩
    intro s hp hv
    refine Setup.tells_ofKernel ?_
    rw [hsave hp]
    refine hmake.bind ?_
    rintro d es o d' ⟨home, h⟩ hc
    have ho := publish_answer h hp ha hc
    refine ⟨ho, home, ?_⟩
    have hlaw := hc.mono fun _ _ _ _ hl => law_kernel hl
    obtain ⟨-, ⟨h', hno⟩ | ⟨h', hyes⟩⟩ := h.published hp (h.linkless.ready.publish (L.sibling_eq hp) hlaw)
    · rw [if_neg]
      · exact h'
      · rw [← ho]
        rintro rfl
        exact hno rfl
    · rw [if_pos]
      · rw [← hv]
        exact h'
      · rw [← ho]
        cases o with
        | ok u => rfl
        | error e => exact absurd rfl (hyes e)

end World

end Provision
