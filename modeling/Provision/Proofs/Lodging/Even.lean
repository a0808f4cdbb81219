import Provision.Proofs.Lodging.Tidy
import Provision.Proofs.Nightly.Script
import Provision.Proofs.Server.Failure
import Mathlib.Data.List.Infix

set_option autoImplicit false

namespace Provision

/-- A call of others, and a program that is started, may do anything that leaves the record as it is. -/
def bystanders (L : Lodging) : Law setup Disk
  | .kernel c, d, r, d' => Kernel.law L.cwd L.Respects c d r d'
  | _, d, _, d' => d' = d ∨ L.Respects d d'

namespace Lodging

variable (L : Lodging)

def Mild (c : Setup.Call) : Prop := Server.ForBinary L c ∨ c = .kernel (.unlink L.package) ∨ ∀ k, c ≠ .kernel k

/-- The record in memory is the one that would be loaded from a directory that is in order. -/
structure Even (d : Disk) (s : Store) : Prop where
  tidy : L.Tidy d
  path : s.path = L.statePath
  recalled : Store.recalled (d.read L.cwd L.statePath) = some s.record

variable {L} {d d' : Disk} {s : Store} {es : List (Event setup Disk)}

theorem Tidy.step (h : L.Tidy d) {c : setup.Call} {r : setup.Reply c} (hc : L.Mild c) (hl : bystanders L c d r d') :
    L.Respects d d' := by
  have hopen : d' = d ∨ L.Respects d d' → L.Respects d d' := by
    rintro (rfl | hr)
    · exact h.refl
    · exact hr
  -- a call for the binary, the removal of the package, or no call of the kernel
  obtain hc | rfl | hc := hc
  · cases c with
    | kernel c =>
      cases c with
      | inspect p => exact hopen (.inl hl.1)
      | log e => exact hopen (.inl hl)
      | launch program args input => exact hopen hl
      | unlink p =>
        obtain ⟨⟨e, -, rfl⟩ | ⟨u, -, hu⟩, -⟩ := hl
        · exact h.refl
        · obtain rfl | rfl := hc
          · exact h.unlink (.inl rfl) hu
          · rw [L.aside_eq] at hu
            exact h.unlink (.inr rfl) hu
      | rename p q =>
        obtain ⟨e, -, rfl⟩ | ⟨u, -, hr⟩ := hl
        · exact h.refl
        · obtain ⟨rfl, rfl⟩ | ⟨rfl, rfl⟩ := hc
          · rw [L.aside_eq] at hr
            exact h.rename (.inl rfl) (.inr rfl) L.binary_ne_aside hr
          · rw [L.aside_eq] at hr
            exact h.rename (.inr rfl) (.inl rfl) L.binary_ne_aside.symm hr
      | _ => exact hc.elim
    | _ => exact hopen hl
  · obtain ⟨⟨e, -, rfl⟩ | ⟨u, -, hu⟩, -⟩ := hl
    · exact h.refl
    · exact h.unlink_package hu
  · cases c with
    | kernel k => exact absurd rfl (hc k)
    | _ => exact hopen hl

theorem Tidy.keeps (h : L.Tidy d) {α : Type} {p : Plan setup α} (hp : p.Uses L.Mild) {o : Option α}
    (hc : p.Course (bystanders L) d es o d') : L.Respects d d' :=
  hc.keeps hp (fun _ _ _ _ hm ht hl => ht.trans (ht.1.step hm hl)) h.refl

theorem Even.respected (h : L.Even d s) (hr : L.Respects d d') : L.Even d' s :=
  ⟨hr.1, h.path, by rw [hr.2]; exact h.recalled⟩

theorem Even.keeps (h : L.Even d s) {α : Type} {p : Plan setup α} (hp : p.Uses L.Mild) {o : Option α}
    (hc : p.Course (bystanders L) d es o d') : L.Even d' s := h.respected (h.tidy.keeps hp hc)

theorem Tidy.saved (h : L.Tidy d) (hp : s.path = L.statePath) {o : Option (Except Error Unit)}
    (hc : (Setup.ofKernel s.save.plan).Course (bystanders L) d es o d') :
    L.Tidy d' ∧ (o = some (.ok ()) → L.Even d' s) := by
  obtain ⟨es', -, hc'⟩ := Setup.course_ofKernel hc
  obtain ⟨hd', hread⟩ := h.save hp hc'
  exact ⟨hd', fun ho => ⟨hd', hp, by rw [hread ho]; exact Store.recalled_text s.record⟩⟩

/-- What has happened is a save of the record that has failed. -/
def SaveFails (L : Lodging) (es : List (Event setup Disk)) : Prop :=
  ∃ (s : Store) (d d' : Disk) (e : Error), s.path = L.statePath ∧
    (Setup.ofKernel s.save.plan).Course (fun _ _ _ _ => True) d es (some (.error e)) d'

theorem saveFails_of_course {law : Law setup Disk} (hp : s.path = L.statePath) {e : Error}
    (hc : (Setup.ofKernel s.save.plan).Course law d es (some (.error e)) d') : L.SaveFails es :=
  ⟨s, d, d', e, hp, hc.mono fun _ _ _ _ _ => trivial⟩

/-- The last thing that has happened is that the record could not be saved. -/
def Unsaved (L : Lodging) (es : List (Event setup Disk)) : Prop := ∃ before es₁, es = before ++ es₁ ∧ L.SaveFails es₁

theorem Unsaved.after (h : L.Unsaved es) (es₀ : List (Event setup Disk)) : L.Unsaved (es₀ ++ es) := by
  obtain ⟨before, es₁, rfl, h⟩ := h
  exact ⟨es₀ ++ before, es₁, by simp, h⟩

def begins (L : Lodging) (e : Event setup Disk) : Bool :=
  match e.call with
  | .kernel (.makeDir _) => true
  | .kernel (.create p) => p = L.storage / ⟨draftName⟩
  | _ => false

def publishes (L : Lodging) : Event setup Disk → Bool
  | ⟨.kernel (.rename p q), r, _⟩ =>
    p = L.storage / ⟨draftName⟩ && q = L.statePath && Except.isOk (show Except Fault Unit from r)
  | _ => false

theorem SaveFails.begins (h : L.SaveFails es) : ∃ e rest, es = e :: rest ∧ L.begins e = true := by
  obtain ⟨s, d, d', e, hp, hc⟩ := h
  obtain ⟨es', rfl, hc'⟩ := Setup.course_ofKernel hc
  obtain ⟨c, k, hsave, hcall⟩ := s.save_begins
  rw [hsave] at hc'
  obtain ⟨r, t, es'', rfl, -, -⟩ := hc'.of_ask_some
  refine ⟨_, _, rfl, ?_⟩
  obtain ⟨p, rfl⟩ | rfl := hcall
  · rfl
  · exact decide_eq_true (L.sibling_eq hp)

theorem SaveFails.not_publishes (h : L.SaveFails es) : ∀ e ∈ es, L.publishes e = false := by
  obtain ⟨s, d, d', x, hp, hc⟩ := h
  obtain ⟨es', rfl, hc'⟩ := Setup.course_ofKernel hc
  intro e he
  obtain ⟨⟨c, r, t⟩, he', rfl⟩ := List.mem_map.mp he
  have hnot := Store.withholds_save _ _ _ _ hc' _ he'
  cases c with
  | rename p q =>
    cases r with
    | error f => simp [Setup.ofEvent, publishes, Except.isOk, Except.toBool]
    | ok u =>
      by_cases hpq : p = L.storage / ⟨draftName⟩ ∧ q = L.statePath
      · obtain ⟨rfl, rfl⟩ := hpq
        refine absurd ⟨t, ?_⟩ hnot
        rw [L.sibling_eq hp, hp]
      · simp only [Setup.ofEvent, publishes, Bool.and_eq_false_iff, decide_eq_false_iff_not]
        exact .inl (not_and_or.mp hpq)
  | _ => rfl

/-- The record could not be saved, and it was not saved later on. -/
def Stale (L : Lodging) (es : List (Event setup Disk)) : Prop :=
  ∃ es₁ es₂, es = es₁ ++ es₂ ∧ L.Unsaved es₁ ∧ ∀ e ∈ es₂, L.publishes e = false

theorem Unsaved.stale (h : L.Unsaved es) : L.Stale es := ⟨es, [], by simp, h, by simp⟩

theorem not_stale (h : ∀ t ∈ es.tails, (t.head?.any L.begins) = true → (t.any L.publishes) = true) : ¬ L.Stale es := by
  rintro ⟨es₁, es₂, rfl, ⟨before, es₃, rfl, hf⟩, hq⟩
  obtain ⟨e, rest, rfl, hb⟩ := hf.begins
  have hp := h (e :: rest ++ es₂) ((List.mem_tails _ _).mpr ⟨before, by simp⟩) hb
  obtain ⟨e', he', hp⟩ := List.any_eq_true.mp hp
  obtain he' | he' := List.mem_append.mp he'
  · rw [hf.not_publishes e' he'] at hp
    cases hp
  · rw [hq e' he'] at hp
    cases hp

end Lodging

namespace Nightly

def Deed.IsForPackage (L : Lodging) : Deed → Prop
  | .save _ => False
  | .remove p => p = L.package
  | _ => True

theorem Deed.mild {L : Lodging} (deed : Deed) (h : deed.IsForPackage L) : deed.plan.Uses (I := setup) L.Mild := by
  cases deed with
  | save s => exact h.elim
  | remove p =>
    obtain rfl := h
    refine (Server.Deed.uses_remove L.package).mono ?_
    rintro c rfl
    exact .inr (.inl rfl)
  | log level text => exact Setup.uses_ofKernel ⟨.inl trivial, fun _ => trivial⟩
  | warn message => exact ⟨.inr (.inr nofun), fun _ => trivial⟩
  | fetch tag => exact ⟨.inr (.inr nofun), fun _ => trivial⟩
  | showError message => exact ⟨.inr (.inr nofun), fun _ => trivial⟩
  | confirm message action => exact ⟨.inr (.inr nofun), fun _ => trivial⟩
  | download url dest mode label => exact ⟨.inr (.inr nofun), fun _ => trivial⟩
  | install package => exact ⟨.inr (.inr nofun), fun _ => trivial⟩
  | reload => exact ⟨.inr (.inr nofun), fun _ => trivial⟩

theorem packageOf_eq {L : Lodging} {site : Site} (h : site.storage = L.storage) : packageOf site = L.package := by
  rw [packageOf, h]
  rfl

end Nightly

end Provision
