import Provision.Machine
import Provision.Proofs.Server.Install

/-!
What is left of the record when finding the server fails. Wherever it fails, unless it is the record that could
not be saved, the record in memory is the one on disk: the one that was loaded, less a version whose binary was
not there.
-/

set_option autoImplicit false

namespace Provision

namespace Lodging

variable (L : Lodging)

/-- If the path leads to a directory, then to one that is in order. It may lead nowhere. -/
def Neat (d : Disk) : Prop :=
  ∀ home, d.enters L.cwd L.storage = .ok home → d.get? home = some .dir → (L.movedTo home).Lodged d

/-- The directory stays in order, and what is read as the record stays the same. -/
def Avoids (d d' : Disk) : Prop := L.Neat d' ∧ d'.read L.cwd L.statePath = d.read L.cwd L.statePath

variable {L} {d d' : Disk} {home : Place}

theorem Lodged.neat (h : (L.movedTo home).Lodged d) : L.Neat d := by
  intro home' he _
  obtain rfl : home = home' := Except.ok.inj (h.enters.symm.trans he)
  exact h

theorem Lodged.avoids (h : (L.movedTo home).Lodged d) (hs : (L.movedTo home).Spares d d') : L.Avoids d d' := by
  have hread : d'.read L.cwd L.statePath = d.read L.cwd L.statePath := by
    refine hs.lodged.read.trans (Eq.trans ?_ h.read.symm)
    rw [hs.record]
  exact ⟨hs.lodged.neat, hread⟩

theorem Neat.of_holder (h : L.Neat d) {n : Name} (hn : Path.Plain n) {dir : Place} {last : Disk.Last}
    (hh : d.holder L.cwd (L.storage / ⟨n⟩) = .ok (dir, last)) : (L.movedTo dir).Lodged d := by
  obtain ⟨-, he, hd, -⟩ := (Disk.holder_join hn).mp hh
  exact h dir he hd

theorem Neat.of_read (h : L.Neat d) {data : ByteArray} (hr : d.read L.cwd L.statePath = .ok data) :
    ∃ home, (L.movedTo home).Lodged d := by
  unfold Disk.read at hr
  cases hf : d.find L.cwd L.statePath with
  | error e =>
    rw [hf] at hr
    cases hr
  | ok r =>
    obtain ⟨home, he, hd, -⟩ := Disk.enters_of_find plain_record hf
    exact ⟨home, h home he hd⟩

theorem Neat.unlink (h : L.Neat d) {n : Name} (hn : L.Binary n)
    (hu : d.unlink L.cwd (L.storage / ⟨n⟩) = .ok d') : L.Avoids d d' := by
  cases hh : d.holder L.cwd (L.storage / ⟨n⟩) with
  | error e =>
    simp [Disk.unlink, hh, bind, Except.bind] at hu
  | ok r =>
    have hl := h.of_holder hn.plain hh
    exact hl.avoids (hl.unlink_spares hn hu)

theorem Neat.rename (h : L.Neat d) {m n : Name} (hm : L.Binary m)
    (hn : L.Binary n) (hne : m ≠ n)
    (hr : d.rename L.cwd (L.storage / ⟨m⟩) (L.storage / ⟨n⟩) = .ok d') : L.Avoids d d' := by
  cases hh : d.holder L.cwd (L.storage / ⟨m⟩) with
  | error e =>
    simp [Disk.rename, hh, bind, Except.bind] at hr
  | ok r =>
    have hl := h.of_holder hm.plain hh
    exact hl.avoids (hl.rename_spares hm hn hne hr)

end Lodging

namespace Server

/-- Other programs may do anything that leaves the record as it is, also make the directory, and so may the
source of releases at any time. -/
def strangers (L : Lodging) : Law setup Disk
  | .fetch _, d, _, d' => d' = d ∨ L.Avoids d d'
  | c, d, r, d' => Setup.law L.cwd L.Avoids c d r d'

def ForBinary (L : Lodging) : Setup.Call → Prop
  | .kernel (.inspect _) => True
  | .kernel (.log _) => True
  | .kernel (.launch _ _ _) => True
  | .kernel (.unlink p) => p = L.dest ∨ p = Patch.aside L.dest
  | .kernel (.rename p q) => (p = L.dest ∧ q = Patch.aside L.dest) ∨ (p = Patch.aside L.dest ∧ q = L.dest)
  | .fetch _ => True
  | .confirm _ _ => True
  | .download _ _ _ _ => True
  | _ => False

variable {L : Lodging} {d d' : Disk} {es : List (Event setup Disk)} {s : Store}

theorem forBinary_step {c : setup.Call} {r : setup.Reply c} (hc : ForBinary L c) (h : L.Neat d)
    (hl : strangers L c d r d') : L.Avoids d d' := by
  have hsame : d' = d → L.Avoids d d' := by
    rintro rfl
    exact ⟨h, rfl⟩
  have hopen : d' = d ∨ L.Avoids d d' → L.Avoids d d' := fun ho => ho.elim hsame id
  cases c with
  | kernel c =>
    cases c with
    | inspect p => exact hsame hl.1
    | log e => exact hsame hl
    | launch program args input => exact hopen hl
    | unlink p =>
      obtain ⟨⟨e, -, rfl⟩ | ⟨u, -, hu⟩, -⟩ := hl
      · exact hsame rfl
      · obtain rfl | rfl := hc
        · exact h.unlink (.inl rfl) hu
        · rw [L.aside_eq] at hu
          exact h.unlink (.inr rfl) hu
    | rename p q =>
      obtain ⟨e, -, rfl⟩ | ⟨u, -, hr⟩ := hl
      · exact hsame rfl
      · obtain ⟨rfl, rfl⟩ | ⟨rfl, rfl⟩ := hc
        · rw [L.aside_eq] at hr
          exact h.rename (.inl rfl) (.inr rfl) L.binary_ne_aside hr
        · rw [L.aside_eq] at hr
          exact h.rename (.inr rfl) (.inl rfl) L.binary_ne_aside.symm hr
    -- no other call of the kernel is for the binary
    | read p => exact hc.elim
    | makeDir p => exact hc.elim
    | create p => exact hc.elim
    | createTemp dir stem => exact hc.elim
    | write hnd data => exact hc.elim
    | flush hnd => exact hc.elim
    | sync hnd => exact hc.elim
    | setMode p mode => exact hc.elim
    | locate name => exact hc.elim
    | exchange r => exact hc.elim
    | pause ms => exact hc.elim
  | fetch tag => exact hopen hl
  | confirm message action => exact hsame hl
  | download url dest mode label => exact hopen hl
  | warn message => exact hc.elim
  | showError message => exact hc.elim
  | install package => exact hc.elim
  | reload => exact hc.elim

def Deed.IsForBinary (L : Lodging) : Deed → Prop
  | .save _ => False
  | .remove p => p = L.dest
  | .patch _ p => p = L.dest
  | _ => True

theorem Deed.IsForBinary.uses {deed : Deed} (h : deed.IsForBinary L) : deed.plan.Uses (I := setup) (ForBinary L) := by
  cases deed with
  | look p =>
    refine Setup.uses_ofKernel ⟨trivial, fun r => ?_⟩
    cases r <;> exact trivial
  | save s => exact h.elim
  | confirm message action => exact ⟨trivial, fun _ => trivial⟩
  | fetch tag => exact ⟨trivial, fun _ => trivial⟩
  | remove p =>
    obtain rfl := h
    refine (Deed.uses_remove L.dest).mono ?_
    rintro c rfl
    exact .inl rfl
  | download url dest mode label => exact ⟨trivial, fun _ => trivial⟩
  | patch tool p =>
    obtain rfl := h
    refine Setup.uses_ofKernel ((Patch.uses_patch tool L.dest).mono ?_)
    rintro c (rfl | rfl | rfl | ⟨e, rfl⟩ | ⟨args, input, rfl⟩)
    · exact .inl ⟨rfl, rfl⟩
    · exact .inr ⟨rfl, rfl⟩
    · exact .inr rfl
    · exact trivial
    · exact trivial
  | log text => exact Setup.uses_ofKernel ⟨trivial, fun _ => trivial⟩

/-- The record in memory is the one that would be loaded. -/
structure InStep (L : Lodging) (d : Disk) (s : Store) : Prop where
  neat : L.Neat d
  path : s.path = L.statePath
  recalled : Store.recalled (d.read L.cwd L.statePath) = some s.record

theorem InStep.deed {deed : Deed} (h : InStep L d s) {o : Option deed.Reply}
    (hc : deed.plan.Course (strangers L) d es o d') (hd : deed.IsForBinary L) : InStep L d' s := by
  have hkept : L.Avoids d d' := by
    refine hc.keeps hd.uses (fun c u r t hcall hu hl => ?_) ⟨h.neat, rfl⟩
    obtain ⟨hneat, hread⟩ := forBinary_step hcall hu.1 hl
    exact ⟨hneat, hread.trans hu.2⟩
  refine ⟨hkept.1, h.path, ?_⟩
  rw [hkept.2]
  exact h.recalled

theorem InStep.read (h : InStep L d s) (hv : s.record.serverVersion ≠ none) :
    ∃ data, d.read L.cwd L.statePath = .ok data := by
  have hrecalled := h.recalled
  cases hr : d.read L.cwd L.statePath with
  | ok data => exact ⟨data, rfl⟩
  | error e =>
    rw [hr, Store.recalled] at hrecalled
    split at hrecalled
    · rw [← Option.some.inj hrecalled] at hv
      exact absurd rfl hv
    · cases hrecalled

theorem InStep.saved (h : InStep L d s) (hv : s.record.serverVersion ≠ none) {s₁ : Store} (hp : s₁.path = L.statePath)
    (hc : (Deed.plan (.save s₁)).Course (strangers L) d es (some (.ok ())) d') : InStep L d' s₁ := by
  obtain ⟨data, hr⟩ := h.read hv
  obtain ⟨home, hl⟩ := h.neat.of_read hr
  obtain ⟨es', rfl, hc'⟩ := Setup.course_ofKernel hc
  have hread : d'.read L.cwd L.statePath = .ok s₁.record.text.toUTF8 := hl.published_read hp (hl.publishes hp hc')
  refine ⟨(hl.save hp hc').lodged.neat, hp, ?_⟩
  rw [hread]
  exact Store.recalled_text s₁.record

/-- The last thing that has happened is that the record could not be saved. -/
def SaveFailed (L : Lodging) (es : List (Event setup Disk)) (d' : Disk) : Prop :=
  ∃ (before es₁ : List (Event setup Disk)) (s : Store) (d : Disk) (e : Error), es = before ++ es₁ ∧
    s.path = L.statePath ∧ (Setup.ofKernel s.save.plan).Course (strangers L) d es₁ (some (.error e)) d'

theorem SaveFailed.after (h : SaveFailed L es d') (es₀ : List (Event setup Disk)) : SaveFailed L (es₀ ++ es) d' := by
  obtain ⟨before, es₁, s, d, e, rfl, h⟩ := h
  exact ⟨es₀ ++ before, es₁, s, d, e, by simp, h⟩

/-- If the rest of the script fails, then with this record and the same one on disk, or because of a save. -/
def Leaves (L : Lodging) (d : Disk) (p : Script) (s : Store) : Prop :=
  ∀ es e s' d', (p.lower Deed.plan).Course (strangers L) d es (some (.error e, s')) d' →
    SaveFailed L es d' ∨ (s' = s ∧ InStep L d' s)

section Script

variable {settings : Settings} {site : Site} {tool : Path}

def Seen (L : Lodging) (es : List (Event setup Disk)) : Prop :=
  ∃ kind t rest, es = ⟨.kernel (.inspect L.dest), (.ok kind : Except Fault Kind), t⟩ :: rest

end Script

section Bare

open Trial

end Bare

end Server

end Provision
