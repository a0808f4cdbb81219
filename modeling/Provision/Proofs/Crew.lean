import Provision.Proofs.Law
import Mathlib.Data.Fintype.Basic

/-!
Processes that work on one disk at the same time. Each goes on by one call at a time, in any order, and any of them may
be killed. What a process writes comes to the disk in parts, and goes to where the process is in the file, which is not
the end of the file if another process has cut it or written to it.
-/

set_option autoImplicit false

namespace Provision

namespace Disk

/-- The bytes of a file after a part is written from an offset on. A gap before the offset is filled with zeros. -/
def overlay (offset : Nat) (part old : ByteArray) : ByteArray :=
  (old ++ ⟨Array.replicate (offset - old.size) 0⟩).extract 0 offset ++ part ++ old.extract (offset + part.size) old.size

theorem overlay_end (part old : ByteArray) : overlay old.size part old = old ++ part := by
  have hgap : (⟨Array.replicate (old.size - old.size) 0⟩ : ByteArray) = ByteArray.empty := by
    rw [Nat.sub_self]
    rfl
  have hrest : old.extract (old.size + part.size) old.size = ByteArray.empty :=
    ByteArray.extract_eq_empty_iff.mpr (by omega)
  rw [overlay, hgap, hrest, ByteArray.append_empty, ByteArray.append_empty, ByteArray.extract_zero_size]

/-- Writes from an offset on. At the end of a file this is what `write` does. -/
def writeAt (d : Disk) (h : Handle) (offset : Nat) (part : ByteArray) : Except Fault Disk :=
  match h with
  | .file s => .ok (d.revise s (overlay offset part))
  | .device _ => d.write h part

end Disk

/-- A process. What it writes goes to the file that it has opened last. -/
structure Worker (α : Type) where
  /-- What it still has to do, unless it was killed. -/
  left : Option (Plan kernel α)
  /-- Where it is in the file that it has opened, if it has opened one. -/
  offset : Option Nat

namespace Worker

variable {α : Type}

def drafting (w : Worker α) : Bool :=
  match w.left, w.offset with
  | some (.ask _ _), some _ => true
  | _, _ => false

/-- How a call is answered, where the process is in its file then, and what is on the disk. What is written was written
before, part by part. -/
def law (cwd : Place) : (c : kernel.Call) → Option Nat → Disk → kernel.Reply c → Option Nat → Disk → Prop
  | .create p, o, d, r, o', d' =>
    (∃ e, r = .error e ∧ o' = o ∧ d' = d) ∨ ∃ h, r = .ok h ∧ o' = some 0 ∧ d.create cwd p = .ok (h, d')
  | .write _ data, o, d, r, o', d' => ((r = .ok () ∧ data = ByteArray.empty) ∨ ∃ e, r = .error e) ∧ o' = o ∧ d' = d
  | c, o, d, r, o', d' => Kernel.law cwd (fun _ _ => True) c d r d' ∧ o' = o

inductive Step (cwd : Place) : Worker α → Disk → Worker α → Disk → Prop where
  | answered {c : kernel.Call} {k : kernel.Reply c → Plan kernel α} {o o' : Option Nat} {r : kernel.Reply c} {d d' : Disk}
      (h : law cwd c o d r o' d') : Step cwd ⟨some (.ask c k), o⟩ d ⟨some (k r), o'⟩ d'
  | wrote {h : Handle} {part rest : ByteArray} {k : kernel.Reply (.write h rest) → Plan kernel α} {n : Nat} {d d' : Disk}
      (some_ : part ≠ ByteArray.empty) (hw : d.writeAt h n part = .ok d') :
      Step cwd ⟨some (.ask (.write h (part ++ rest)) k), some n⟩ d ⟨some (.ask (.write h rest) k), some (n + part.size)⟩ d'
  | killed {c : kernel.Call} {k : kernel.Reply c → Plan kernel α} {o : Option Nat} {d : Disk} :
      Step cwd ⟨some (.ask c k), o⟩ d ⟨none, o⟩ d

variable {cwd : Place} {d d' : Disk} {w w' : Worker α} {o : Option Nat}

theorem Step.of_ask {c : kernel.Call} {k : kernel.Reply c → Plan kernel α} (h : Step cwd ⟨some (.ask c k), o⟩ d w' d')
    (hc : ∀ hnd data, c ≠ .write hnd data) :
    (w' = ⟨none, o⟩ ∧ d' = d) ∨ ∃ r o', law cwd c o d r o' d' ∧ w' = ⟨some (k r), o'⟩ := by
  cases h with
  | answered h => exact .inr ⟨_, _, h, rfl⟩
  | wrote _ hw => exact absurd rfl (hc _ _)
  | killed => exact .inl ⟨rfl, rfl⟩

theorem Step.of_write {hnd : Handle} {data : ByteArray} {k : Except Fault Unit → Plan kernel α}
    (h : Step cwd ⟨some (.ask (.write hnd data) k), o⟩ d w' d') :
    (w' = ⟨none, o⟩ ∧ d' = d) ∨ (∃ e, w' = ⟨some (k (.error e)), o⟩ ∧ d' = d) ∨
      (data = ByteArray.empty ∧ w' = ⟨some (k (.ok ())), o⟩ ∧ d' = d) ∨
        ∃ part rest n, data = part ++ rest ∧ o = some n ∧ d.writeAt hnd n part = .ok d' ∧
          w' = ⟨some (.ask (.write hnd rest) k), some (n + part.size)⟩ := by
  cases h with
  | answered h =>
    obtain ⟨⟨rfl, hdata⟩ | ⟨e, rfl⟩, rfl, rfl⟩ := h
    · exact .inr (.inr (.inl ⟨hdata, rfl, rfl⟩))
    · exact .inr (.inl ⟨e, rfl, rfl⟩)
  | wrote _ hw => exact .inr (.inr (.inr ⟨_, _, _, rfl, rfl, hw, rfl⟩))
  | killed => exact .inl ⟨rfl, rfl⟩

theorem Step.wrote_all {h : Handle} {data : ByteArray} {k : Except Fault Unit → Plan kernel α} {n : Nat}
    (some_ : data ≠ ByteArray.empty) (hw : d.writeAt h n data = .ok d') :
    Step cwd ⟨some (.ask (.write h data) k), some n⟩ d ⟨some (.ask (.write h ByteArray.empty) k), some (n + data.size)⟩ d' := by
  have hstep := @Step.wrote α cwd h data ByteArray.empty k n d d' some_ hw
  rwa [ByteArray.append_empty] at hstep

/-- The next step, if nothing fails that need not and all that is to be written is written at once. -/
def advance (cwd : Place) (d : Disk) : Worker α → Worker α × Disk
  | ⟨some (.ask (.write h data) k), some n⟩ =>
    if data = ByteArray.empty then (⟨some (k (.ok ())), some n⟩, d)
    else match d.writeAt h n data with
      | .ok d' => (⟨some (.ask (.write h ByteArray.empty) k), some (n + data.size)⟩, d')
      | .error e => (⟨some (k (.error e)), some n⟩, d)
  | ⟨some (.ask (.create p) k), o⟩ =>
    match d.create cwd p with
    | .ok (h, d') => (⟨some (k (.ok h)), some 0⟩, d')
    | .error e => (⟨some (k (.error e)), o⟩, d)
  | ⟨some (.ask (.makeDir p) k), o⟩ =>
    match d.makeDir cwd p with
    | .ok d' => (⟨some (k (.ok ())), o⟩, d')
    | .error e => (⟨some (k (.error e)), o⟩, d)
  | ⟨some (.ask (.rename p q) k), o⟩ =>
    match d.rename cwd p q with
    | .ok d' => (⟨some (k (.ok ())), o⟩, d')
    | .error e => (⟨some (k (.error e)), o⟩, d)
  | ⟨some (.ask (.inspect p) k), o⟩ => (⟨some (k (d.inspect cwd p)), o⟩, d)
  | ⟨some (.ask (.sync h) k), o⟩ => (⟨some (k (Disk.sync h)), o⟩, d)
  | w => (w, d)

theorem step_advance (cwd : Place) (w : Worker α) (d : Disk) :
    w.advance cwd d = (w, d) ∨ Step cwd w d (w.advance cwd d).1 (w.advance cwd d).2 := by
  unfold advance
  split
  · split
    · rename_i hdata
      exact .inr (.answered ⟨.inl ⟨rfl, hdata⟩, rfl, rfl⟩)
    · rename_i hdata
      split
      · rename_i hw
        exact .inr (.wrote_all hdata hw)
      · exact .inr (.answered ⟨.inr ⟨_, rfl⟩, rfl, rfl⟩)
  · split
    · rename_i hc
      exact .inr (.answered (.inr ⟨_, rfl, rfl, hc⟩))
    · exact .inr (.answered (.inl ⟨_, rfl, rfl, rfl⟩))
  · split
    · rename_i hm
      exact .inr (.answered ⟨.inr ⟨_, rfl, hm⟩, rfl⟩)
    · exact .inr (.answered ⟨.inl ⟨_, rfl, rfl⟩, rfl⟩)
  · split
    · rename_i hr
      exact .inr (.answered ⟨.inr ⟨_, rfl, hr⟩, rfl⟩)
    · exact .inr (.answered ⟨.inl ⟨_, rfl, rfl⟩, rfl⟩)
  · exact .inr (.answered ⟨⟨rfl, .inl rfl⟩, rfl⟩)
  · exact .inr (.answered ⟨⟨rfl, .inl rfl⟩, rfl⟩)
  · exact .inl rfl

theorem not_step_done {a : α} : ¬ Step cwd ⟨some (.done a), o⟩ d w' d' := nofun

theorem not_step_killed : ¬ Step cwd (⟨none, o⟩ : Worker α) d w' d' := nofun

end Worker

structure Crew (ι α : Type) where
  disk : Disk
  workers : ι → Worker α

namespace Crew

variable {ι α : Type}

structure Moves (cwd : Place) (i : ι) (x y : Crew ι α) : Prop where
  step : (x.workers i).Step cwd x.disk (y.workers i) y.disk
  others : ∀ j, j ≠ i → y.workers j = x.workers j

def Intrudes (i : ι) (x y : Crew ι α) : Prop :=
  (x.workers i).drafting = false ∧ (y.workers i).drafting = true ∧ ∃ j, j ≠ i ∧ (x.workers j).drafting = true

instance [Fintype ι] [DecidableEq ι] (i : ι) (x y : Crew ι α) : Decidable (Intrudes i x y) :=
  inferInstanceAs (Decidable (_ ∧ _ ∧ ∃ j, j ≠ i ∧ (x.workers j).drafting = true))

/-- What can come about by steps of a kind that is allowed. -/
inductive Reached (cwd : Place) (allowed : ι → Crew ι α → Crew ι α → Prop) (x : Crew ι α) : Crew ι α → Prop where
  | start : Reached cwd allowed x x
  | step {y z : Crew ι α} {i : ι} (before : Reached cwd allowed x y) (h : Moves cwd i y z) (ok : allowed i y z) :
      Reached cwd allowed x z

def Alone (x : Crew ι α) : Prop := ∀ i j, (x.workers i).drafting = true → (x.workers j).drafting = true → i = j

theorem Alone.moves {cwd : Place} {i : ι} {x y : Crew ι α} (h : x.Alone) (hm : Moves cwd i x y)
    (ok : ¬ Intrudes i x y) : y.Alone := by
  have hi : ∀ j, j ≠ i → (y.workers i).drafting = true → (x.workers j).drafting = false := by
    intro j hj hy
    cases hx : (x.workers i).drafting with
    | true => exact Bool.eq_false_iff.mpr fun hxj => hj (h j i hxj hx)
    | false => exact Bool.eq_false_iff.mpr fun hxj => ok ⟨hx, hy, j, hj, hxj⟩
  have hother : ∀ j, j ≠ i → (y.workers j).drafting = (x.workers j).drafting := fun j hj => by rw [hm.others j hj]
  intro a b ha hb
  by_contra hne
  by_cases hai : a = i
  · subst hai
    have hb' := hi b (Ne.symm hne) ha
    rw [hother b (Ne.symm hne), hb'] at hb
    cases hb
  by_cases hbi : b = i
  · subst hbi
    have ha' := hi a hai hb
    rw [hother a hai, ha'] at ha
    cases ha
  · rw [hother a hai] at ha
    rw [hother b hbi] at hb
    exact hne (h a b ha hb)

section Advance

variable [DecidableEq ι] {cwd : Place} {allowed : ι → Crew ι α → Crew ι α → Prop} {x y : Crew ι α}

def advance (cwd : Place) (x : Crew ι α) (i : ι) : Crew ι α :=
  ⟨((x.workers i).advance cwd x.disk).2, fun j => if j = i then ((x.workers i).advance cwd x.disk).1 else x.workers j⟩

theorem reached_advance (before : Reached cwd allowed x y) (i : ι) (ok : allowed i y (y.advance cwd i)) :
    Reached cwd allowed x (y.advance cwd i) := by
  have hself : (y.advance cwd i).workers i = ((y.workers i).advance cwd y.disk).1 := if_pos rfl
  have hother : ∀ j, j ≠ i → (y.advance cwd i).workers j = y.workers j := fun j hj => if_neg hj
  obtain hstill | hstep := (y.workers i).step_advance cwd y.disk
  · have hsame : y.advance cwd i = y := by
      have hworkers : (y.advance cwd i).workers = y.workers := by
        funext j
        by_cases hj : j = i
        · rw [hj, hself, hstill]
        · exact hother j hj
      rw [advance, hstill] at hworkers ⊢
      exact congrArg (Crew.mk y.disk) hworkers
    rwa [hsame]
  · rw [← hself] at hstep
    exact .step before ⟨hstep, hother⟩ ok

/-- Every step is allowed when the processes go on in an order that is given. -/
def Keeps (cwd : Place) (allowed : ι → Crew ι α → Crew ι α → Prop) : Crew ι α → List ι → Prop
  | _, [] => True
  | x, i :: turns => allowed i x (x.advance cwd i) ∧ Keeps cwd allowed (x.advance cwd i) turns

instance decidableKeeps [∀ i x y, Decidable (allowed i x y)] :
    ∀ (x : Crew ι α) (turns : List ι), Decidable (Keeps cwd allowed x turns)
  | _, [] => inferInstanceAs (Decidable True)
  | x, i :: turns => @instDecidableAnd _ _ _ (decidableKeeps (x.advance cwd i) turns)

theorem reached_turns (before : Reached cwd allowed x y) {turns : List ι} (ok : Keeps cwd allowed y turns) :
    Reached cwd allowed x (turns.foldl (advance cwd) y) := by
  induction turns generalizing y with
  | nil => exact before
  | cons i turns ih => exact ih (reached_advance before i ok.1) ok.2

end Advance

end Crew

end Provision
