import Provision.Proofs.Crew
import Provision.Proofs.Store.Atomic
import Provision.Proofs.Store.Steps

/-!
Processes that save records at one path at the same time. They share one draft. As long as none opens it while another
is at work on it, the contents at the path are at every moment the old ones or one of the new ones as a whole. If two
work on it at once, their texts run into each other.
-/

set_option autoImplicit false

namespace Provision

namespace Store

variable (s : Store)

theorem afterDirs_unsaved (q : Plan kernel (Except Fault Unit)) (parent : Path) :
    q.bind (s.afterDirs parent) ≠ .done (.ok ()) := by
  cases q with
  | ask c k => nofun
  | done r =>
    cases r with
    | error e => nofun
    | ok u =>
      obtain ⟨k, hk, -⟩ := s.publish_plan
      change s.publish.plan ≠ _
      rw [hk]
      nofun

end Store

namespace Berth

variable {B : Berth} {s : Store} {d d' : Disk} {w w' : Worker (Except Error Unit)}

theorem Ready.writeAt {home : Place} (h : B.Ready home d) {data part : ByteArray} {hnd : Handle}
    (hh : B.Holds home d data hnd) (hw : d.writeAt hnd data.size part = .ok d') :
    Disk.Rewritten (B.draft :: home) d d' ∧ B.Holds home d' (data ++ part) hnd := by
  obtain ⟨serial, mode, rfl, hv⟩ | ⟨dev, rfl⟩ := hh
  · obtain rfl : d.revise serial (Disk.overlay data.size part) = d' := by simpa [Disk.writeAt] using hw
    obtain ⟨hr, hv'⟩ := Disk.Rewritten.revise h.sound hv (Disk.overlay data.size part)
    rw [Disk.overlay_end] at hv'
    exact ⟨hr, .inl ⟨serial, mode, rfl, hv'⟩⟩
  · obtain rfl := Disk.write_device hw
    exact ⟨.refl h.sound, .inr ⟨dev, rfl⟩⟩

/-- How far a process has come with a save, and what is in the draft then if it is at work on it. -/
inductive Phase (B : Berth) (s : Store) (d : Disk) : Worker (Except Error Unit) → Prop where
  | making {q : Plan kernel (Except Fault Unit)} {parent : Path}
      (way : q.Uses (I := kernel) fun c => (∃ a, c = .makeDir a ∧ a.Above B.dir ∧ a.chars ≠ []) ∨ ∃ a, c = .inspect a) :
      Phase B s d ⟨some (q.bind (s.afterDirs parent)), none⟩
  | writing {home : Place} {h : Handle} {part rest : ByteArray} (sited : B.Sited s.path home d)
      (holds : B.Holds home d part h) (whole : part ++ rest = s.record.text.toUTF8) :
      Phase B s d ⟨some (s.writing h rest).plan, some part.size⟩
  | syncing {home : Place} {h : Handle} {n : Nat} (sited : B.Sited s.path home d)
      (holds : B.Holds home d s.record.text.toUTF8 h) : Phase B s d ⟨some (s.syncing h).plan, some n⟩
  | naming {home : Place} {serial mode n : Nat} (sited : B.Sited s.path home d)
      (file : d.get? (B.draft :: home) = some (.file serial mode s.record.text.toUTF8)) :
      Phase B s d ⟨some s.naming.plan, some n⟩
  | ended {r : Except Error Unit} {o : Option Nat} : Phase B s d ⟨some (.done r), o⟩
  | killed {o : Option Nat} : Phase B s d ⟨none, o⟩

/-- What a step of a save does. It leaves the disk as it is where the directory is there, or it works on the draft, or it
gives the draft the name of the file. -/
inductive Effect (B : Berth) (s : Store) (d : Disk) (w w' : Worker (Except Error Unit)) (d' : Disk) : Prop where
  | still (calm : B.Calm s.path d') (same : d'.contents B.cwd s.path = d.contents B.cwd s.path)
      (stays : ∀ home, B.Ready home d → d' = d) (unsaved : w'.left ≠ some (.done (.ok ())))
  | drafted {home : Place} (sited : B.Sited s.path home d) (rewritten : Disk.Rewritten (B.draft :: home) d d')
      (drafting : w'.drafting = true)
  | published (drafting : w.drafting = true) (calm : B.Calm s.path d')
      (read : d'.read B.cwd s.path = .ok s.record.text.toUTF8)

theorem Calm.still (h : B.Calm s.path d) (hw : w'.left ≠ some (.done (.ok ()))) : B.Effect s d w w' d :=
  .still h rfl (fun _ _ => rfl) hw

theorem Phase.elsewhere (h : B.Phase s d w) (hw : w.drafting = false) : B.Phase s d' w := by
  cases h with
  | making way => exact .making way
  | writing => cases hw
  | syncing => cases hw
  | naming => cases hw
  | ended => exact .ended
  | killed => exact .killed

theorem Phase.sited (h : B.Phase s d w) (hw : w.drafting = true) : ∃ home, B.Sited s.path home d := by
  cases h with
  | making way => simp [Worker.drafting] at hw
  | writing hs => exact ⟨_, hs⟩
  | syncing hs => exact ⟨_, hs⟩
  | naming hs => exact ⟨_, hs⟩
  | ended => simp [Worker.drafting] at hw
  | killed => simp [Worker.drafting] at hw

section Step

variable (calm : B.Calm s.path d) (moors : B.Moors s.path)
include calm moors

theorem Phase.step_making {q : Plan kernel (Except Fault Unit)} {parent : Path}
    (way : q.Uses (I := kernel) fun c => (∃ a, c = .makeDir a ∧ a.Above B.dir ∧ a.chars ≠ []) ∨ ∃ a, c = .inspect a)
    (h : (⟨some (q.bind (s.afterDirs parent)), none⟩ : Worker _).Step B.cwd d w' d') :
    B.Phase s d' w' ∧ B.Effect s d ⟨some (q.bind (s.afterDirs parent)), none⟩ w' d' := by
  -- either more of the directories, or the draft is opened
  cases q with
  | ask c k =>
    have hwrite : ∀ hnd data, c ≠ .write hnd data := by
      obtain ⟨a, rfl, -⟩ | ⟨a, rfl⟩ := way.1 <;> nofun
    obtain ⟨rfl, rfl⟩ | ⟨r, o, hl, rfl⟩ := h.of_ask hwrite
    · exact ⟨.killed, calm.still nofun⟩
    obtain ⟨hlaw, rfl⟩ : Kernel.law B.cwd (fun _ _ => True) c d r d' ∧ o = none := by
      obtain ⟨a, rfl, -⟩ | ⟨a, rfl⟩ := way.1 <;> exact hl
    obtain ⟨hcalm, hsame, hstays⟩ := calm.step moors way.1 hlaw
    exact ⟨.making (way.2 r), .still hcalm hsame hstays fun hdone => s.afterDirs_unsaved _ _ (Option.some.inj hdone)⟩
  | done r =>
    cases r with
    | error e => exact absurd h Worker.not_step_done
    | ok u =>
      obtain ⟨k, hk, herror, hok⟩ := s.publish_plan
      change (⟨some s.publish.plan, none⟩ : Worker _).Step B.cwd d w' d' at h
      rw [hk, show s.sibling = B.sketch from moors.sibling] at h
      obtain ⟨rfl, rfl⟩ | ⟨r, o, ⟨e, rfl, rfl, rfl⟩ | ⟨hnd, rfl, rfl, hc⟩, rfl⟩ := h.of_ask nofun
      · exact ⟨.killed, calm.still nofun⟩
      · rw [herror]
        exact ⟨.ended, calm.still nofun⟩
      · rw [hok]
        obtain ⟨home, hsited⟩ | hshut := calm
        · obtain ⟨hr, hholds⟩ := hsited.create hc
          obtain ⟨k', hk', -⟩ := s.writing_plan hnd
          exact ⟨.writing (hsited.rewritten hr) hholds ByteArray.empty_append, .drafted hsited hr (by rw [hk']; rfl)⟩
        · obtain ⟨dir, n, hh, -⟩ := Disk.create_eq_ok (fun _ _ _ _ hh => absurd hh (holder_ne hshut.shut B.plainDraft _)) hc
          exact absurd hh (holder_ne hshut.shut B.plainDraft _)

omit moors in
theorem Phase.step_writing {home : Place} {hnd : Handle} {part rest : ByteArray} (sited : B.Sited s.path home d)
    (holds : B.Holds home d part hnd) (whole : part ++ rest = s.record.text.toUTF8)
    (h : (⟨some (s.writing hnd rest).plan, some part.size⟩ : Worker _).Step B.cwd d w' d') :
    B.Phase s d' w' ∧ B.Effect s d ⟨some (s.writing hnd rest).plan, some part.size⟩ w' d' := by
  obtain ⟨k, hk, herror, hok⟩ := s.writing_plan hnd
  rw [hk] at h
  obtain ⟨rfl, rfl⟩ | ⟨e, rfl, rfl⟩ | ⟨rfl, rfl, rfl⟩ | ⟨more, rest', n, rfl, hn, hw, rfl⟩ := h.of_write
  · exact ⟨.killed, calm.still nofun⟩
  · rw [herror]
    exact ⟨.ended, calm.still nofun⟩
  · rw [ByteArray.append_empty] at whole
    rw [hok]
    obtain ⟨k', hk', -⟩ := s.syncing_plan hnd
    exact ⟨.syncing sited (whole ▸ holds), calm.still (by rw [hk']; nofun)⟩
  · obtain rfl := Option.some.inj hn
    obtain ⟨hr, hholds⟩ := sited.writeAt holds hw
    rw [← hk, ← ByteArray.size_append]
    exact ⟨.writing (sited.rewritten hr) hholds (by rw [ByteArray.append_assoc, whole]),
      .drafted sited hr (by rw [hk]; rfl)⟩

omit moors in
theorem Phase.step_syncing {home : Place} {hnd : Handle} {n : Nat} (sited : B.Sited s.path home d)
    (holds : B.Holds home d s.record.text.toUTF8 hnd)
    (h : (⟨some (s.syncing hnd).plan, some n⟩ : Worker _).Step B.cwd d w' d') :
    B.Phase s d' w' ∧ B.Effect s d ⟨some (s.syncing hnd).plan, some n⟩ w' d' := by
  obtain ⟨k, hk, herror, hok⟩ := s.syncing_plan hnd
  rw [hk] at h
  obtain ⟨rfl, rfl⟩ | ⟨r, o, ⟨⟨rfl, hr⟩, rfl⟩, rfl⟩ := h.of_ask nofun
  · exact ⟨.killed, calm.still nofun⟩
  cases r with
  | error e =>
    rw [herror]
    exact ⟨.ended, calm.still nofun⟩
  | ok u =>
    obtain ⟨serial, mode, rfl, hv⟩ | ⟨dev, rfl⟩ := holds
    · rw [hok]
      obtain ⟨k', hk', -⟩ := s.naming_plan
      exact ⟨.naming sited hv, calm.still (by rw [hk']; nofun)⟩
    · obtain hr | ⟨e, hr⟩ := hr <;> cases hr

theorem Phase.step_naming {home : Place} {serial mode n : Nat} (sited : B.Sited s.path home d)
    (file : d.get? (B.draft :: home) = some (.file serial mode s.record.text.toUTF8))
    (h : (⟨some s.naming.plan, some n⟩ : Worker _).Step B.cwd d w' d') :
    B.Phase s d' w' ∧ B.Effect s d ⟨some s.naming.plan, some n⟩ w' d' := by
  obtain ⟨k, hk, herror, hok⟩ := s.naming_plan
  rw [hk, show s.sibling = B.sketch from moors.sibling] at h
  obtain ⟨rfl, rfl⟩ | ⟨r, o, ⟨⟨e, rfl, rfl⟩ | ⟨u, rfl, hr⟩, rfl⟩, rfl⟩ := h.of_ask nofun
  · exact ⟨.killed, calm.still nofun⟩
  · rw [herror]
    exact ⟨.ended, calm.still nofun⟩
  · rw [hok]
    obtain ⟨hcalm, ⟨-, ho⟩ | ⟨hread, -⟩⟩ := sited.published moors
      (.inr ⟨d, serial, mode, .refl sited.sound, file, hr, nofun⟩ : Ready.Published B home s d (some (.ok ())) d')
    · exact absurd rfl ho
    · exact ⟨.ended, .published (by rw [hk]; rfl) hcalm hread⟩

theorem Phase.step (phase : B.Phase s d w) (h : w.Step B.cwd d w' d') : B.Phase s d' w' ∧ B.Effect s d w w' d' := by
  cases phase with
  | making way => exact step_making calm moors way h
  | writing sited holds whole => exact step_writing calm sited holds whole h
  | syncing sited holds => exact step_syncing calm sited holds h
  | naming sited file => exact step_naming calm moors sited file h
  | ended => exact absurd h Worker.not_step_done
  | killed => exact absurd h Worker.not_step_killed

end Step

end Berth

namespace Crew

variable {ι : Type} {B : Berth} {path : Path} {records : ι → Record} {d : Disk}

/-- Processes that are about to save a record each, at the same path. -/
def saving (d : Disk) (path : Path) (records : ι → Record) : Crew ι (Except Error Unit) :=
  ⟨d, fun i => ⟨some (Store.save ⟨path, records i⟩).plan, none⟩⟩

/-- What is known while records are saved, as long as no two processes are at work on the draft. -/
structure Orderly (B : Berth) (path : Path) (records : ι → Record) (d : Disk) (x : Crew ι (Except Error Unit)) : Prop where
  calm : B.Calm path x.disk
  alone : x.Alone
  phase : ∀ i, B.Phase ⟨path, records i⟩ x.disk (x.workers i)
  whole : x.disk.contents B.cwd path = d.contents B.cwd path ∨
    ∃ i, x.disk.contents B.cwd path = some (records i).text.toUTF8
  saved : (∃ i, (x.workers i).left = some (.done (.ok ()))) →
    ∃ i, x.disk.contents B.cwd path = some (records i).text.toUTF8

theorem orderly_start (calm : B.Calm path d) (moors : B.Moors path) : Orderly B path records d (saving d path records) where
  calm := calm
  alone := by
    intro i j hi
    simp [saving, Worker.drafting] at hi
  phase := by
    intro i
    obtain ⟨parent, hparent, habove⟩ := Path.parent?_join B.dir B.plainName
    have hplan := Store.save_plan (s := ⟨path, records i⟩) (moors.parent.trans hparent)
    change B.Phase _ d ⟨some (Store.save ⟨path, records i⟩).plan, none⟩
    rw [hplan]
    exact .making (Kernel.uses_makeChain habove)
  whole := .inl rfl
  saved := by
    rintro ⟨i, hi⟩
    obtain ⟨c, k, hk, -⟩ := Store.save_begins ⟨path, records i⟩
    cases hk.symm.trans (Option.some.inj hi)

theorem Orderly.moves {i : ι} {x y : Crew ι (Except Error Unit)} (h : Orderly B path records d x) (moors : B.Moors path)
    (hm : Moves B.cwd i x y) (ok : ¬ Intrudes i x y) : Orderly B path records d y := by
  have halone := h.alone.moves hm ok
  obtain ⟨hphase, heffect⟩ := (h.phase i).step (s := ⟨path, records i⟩) h.calm moors hm.step
  have hothers : ∀ j, j ≠ i → (y.workers j).drafting = (x.workers j).drafting := fun j hj => by rw [hm.others j hj]
  -- while one process changes what is on the disk, the others are not at work on it
  have hidle : (∀ j, j ≠ i → (x.workers j).drafting = true → y.disk = x.disk) →
      ∀ j, B.Phase ⟨path, records j⟩ y.disk (y.workers j) := by
    intro hsame j
    by_cases hj : j = i
    · exact hj ▸ hphase
    rw [hm.others j hj]
    cases hd : (x.workers j).drafting with
    | false => exact (h.phase j).elsewhere hd
    | true => exact hsame j hj hd ▸ h.phase j
  cases heffect with
  | still calm same stays unsaved =>
    refine ⟨calm, halone, hidle fun j hj hd => ?_, ?_, ?_⟩
    · obtain ⟨home, hsited⟩ := (h.phase j).sited hd
      exact stays home hsited.toReady
    · rw [same]
      exact h.whole
    · rintro ⟨j, hj⟩
      have hji : j ≠ i := by
        rintro rfl
        exact unsaved hj
      rw [hm.others j hji] at hj
      rw [same]
      exact h.saved ⟨j, hj⟩
  | drafted sited rewritten drafting =>
    have hsame := sited.contents rewritten
    refine ⟨.inl ⟨_, sited.rewritten rewritten⟩, halone, hidle fun j hj hd => ?_, ?_, ?_⟩
    · exact absurd (halone j i ((hothers j hj).trans hd) drafting) hj
    · rw [hsame]
      exact h.whole
    · rintro ⟨j, hj⟩
      have hji : j ≠ i := by
        rintro rfl
        simp [Worker.drafting, hj] at drafting
      rw [hm.others j hji] at hj
      rw [hsame]
      exact h.saved ⟨j, hj⟩
  | published drafting calm read =>
    have hnew : y.disk.contents B.cwd path = some (records i).text.toUTF8 := by
      rw [Disk.contents, read]
      rfl
    exact ⟨calm, halone, hidle fun j hj hd => absurd (h.alone j i hd drafting) hj, .inr ⟨i, hnew⟩, fun _ => ⟨i, hnew⟩⟩

theorem Reached.orderly (calm : B.Calm path d) (moors : B.Moors path) {x : Crew ι (Except Error Unit)}
    (h : Reached B.cwd (fun i y z => ¬ Intrudes i y z) (saving d path records) x) : Orderly B path records d x := by
  induction h with
  | start => exact orderly_start calm moors
  | step before hm ok ih => exact ih.moves moors hm ok

/-- Whatever the order of the steps, whatever fails and whoever is killed: if no process opens the draft while another
is at work on it, the contents at the path are at every moment the old ones or one of the new ones as a whole, and one of
the new ones as soon as one process has succeeded. -/
theorem saves_whole {cwd : Place} {n : Name} (fit : Store.Fit cwd path n d) {r : Record}
    (loaded : Store.recalled (d.read cwd path) = some r) {x : Crew ι (Except Error Unit)}
    (h : Reached cwd (fun i y z => ¬ Intrudes i y z) (saving d path records) x) :
    (x.disk.contents cwd path = d.contents cwd path ∨ ∃ i, x.disk.contents cwd path = some (records i).text.toUTF8) ∧
      ((∃ i, (x.workers i).left = some (.done (.ok ()))) →
        ∃ i, x.disk.contents cwd path = some (records i).text.toUTF8) := by
  have horderly := Reached.orderly (B := fit.berth) (fit.calm loaded) fit.moors h
  exact ⟨horderly.whole, horderly.saved⟩

section Concrete

open Store (deep fit_deep)

def records₀ : Bool → Record
  | false => ⟨none, some 5, some "2020-07-13"⟩
  | true => ⟨none, some 5, some "1"⟩

def crew₀ : Crew Bool (Except Error Unit) := saving .empty deep records₀

/-- Both make the directory, then one saves its record after the other. -/
def inTurn : List Bool := [false, true, true, false, false, false, false, false, true, true, true, true, true]

/-- Both make the directory and open the draft, then both write it, sync it and rename it. -/
def atOnce : List Bool := [false, true, true, false, true, false, true, false, true, false, true, false, true]

def result (x : Crew Bool (Except Error Unit)) (i : Bool) : Option (Except Error Unit) :=
  match (x.workers i).left with
  | some (.done r) => some r
  | _ => none

theorem left_of_result {x : Crew Bool (Except Error Unit)} {i : Bool} {r : Except Error Unit} (h : x.result i = some r) :
    (x.workers i).left = some (.done r) := by
  unfold result at h
  split at h
  · rename_i hleft
    rw [hleft, Option.some.inj h]
  · cases h

set_option maxRecDepth 100000 in
/-- Two processes that both find the directory missing and save one after the other. -/
theorem saves_whole_in_turn : ∃ x, crew₀.Reached [] (fun i y z => ¬ Intrudes i y z) x ∧
    x.result false = some (.ok ()) ∧ x.result true = some (.ok ()) ∧
      ∃ i, x.disk.contents [] deep = some (records₀ i).text.toUTF8 := by
  have hreached : crew₀.Reached [] (fun i y z => ¬ Intrudes i y z) (inTurn.foldl (advance []) crew₀) :=
    reached_turns .start (by decide +kernel)
  have hresult : (inTurn.foldl (advance []) crew₀).result true = some (.ok ()) := by decide +kernel
  have hloaded : Store.recalled (Disk.empty.read [] deep) = some .empty := by decide +kernel
  obtain ⟨-, hsaved⟩ := saves_whole fit_deep hloaded hreached
  exact ⟨_, hreached, by decide +kernel, hresult, hsaved ⟨true, left_of_result hresult⟩⟩

/-- The contents at a path can come to be neither the old ones nor one of the new ones as a whole. -/
def Torn (d : Disk) (path : Path) (allowed : Bool → Crew Bool (Except Error Unit) → Crew Bool (Except Error Unit) → Prop) :
    Prop :=
  ∃ x, (saving d path records₀).Reached [] allowed x ∧ x.disk.contents [] path ≠ d.contents [] path ∧
    ∀ i, x.disk.contents [] path ≠ some (records₀ i).text.toUTF8

theorem torn_turns {d : Disk} {path : Path}
    {allowed : Bool → Crew Bool (Except Error Unit) → Crew Bool (Except Error Unit) → Prop} (turns : List Bool)
    (ok : Keeps [] allowed (saving d path records₀) turns)
    (h : (turns.foldl (advance []) (saving d path records₀)).disk.contents [] path ≠ d.contents [] path ∧
      ∀ i, (turns.foldl (advance []) (saving d path records₀)).disk.contents [] path ≠ some (records₀ i).text.toUTF8) :
    Torn d path allowed := ⟨_, reached_turns .start ok, h⟩

def looped : Disk := ⟨[(["s.tmp".toList], .link "s.json"),
  (["s.json".toList], .file 0 0o644 "\x7b\"serverVersion\":\"1\"\x7d".toUTF8)], 1⟩

set_option maxRecDepth 100000 in
/-- Two processes that are at work on the draft at once leave a mixture of their texts behind, and one of them reports
success. And even one after the other they tear the record if its path has the extension of the draft, if the draft is a
link to it, if its path leads to the draft or to another name of the draft's file, or if a `..` stands behind a directory
that is missing. -/
theorem saves_torn :
    (∃ x, crew₀.Reached [] (fun _ _ _ => True) x ∧ x.result false = some (.ok ()) ∧
      (x.result true).isSome = true ∧ ∀ i, x.disk.contents [] deep ≠ some (records₀ i).text.toUTF8) ∧
    Torn looped "s.tmp" (fun i y z => ¬ Intrudes i y z) ∧ Torn looped "s.json" (fun i y z => ¬ Intrudes i y z) ∧
    Torn Store.crossed.disk "s.json" (fun i y z => ¬ Intrudes i y z) ∧
    Torn Store.paired.disk "s.json" (fun i y z => ¬ Intrudes i y z) ∧
    Torn Store.covered.disk "a/../s.json" (fun i y z => ¬ Intrudes i y z) := by
  have hreached : crew₀.Reached [] (fun _ _ _ => True) (atOnce.foldl (advance []) crew₀) :=
    reached_turns .start (by decide +kernel)
  refine ⟨⟨_, hreached, ?_, ?_, ?_⟩, ?_, ?_, ?_, ?_, ?_⟩
  · decide +kernel
  · decide +kernel
  · decide +kernel
  · exact torn_turns [false] (by decide +kernel) (by decide +kernel)
  · exact torn_turns [false, false, false, false, false] (by decide +kernel) (by decide +kernel)
  · exact torn_turns [false] (by decide +kernel) (by decide +kernel)
  · exact torn_turns [false] (by decide +kernel) (by decide +kernel)
  · exact torn_turns [false, false] (by decide +kernel) (by decide +kernel)

end Concrete

end Crew

end Provision
