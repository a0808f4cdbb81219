import Provision.Proofs.Lodging.Linkless

set_option autoImplicit false

namespace Provision

namespace Lodging

variable (L : Lodging)

/-- The directory is not there. Making directories on the way to it will bring none to light that was, or none can be
made. -/
def Sealed (d : Disk) : Prop := L.berth.Shut d ∨ L.Barred d

/-- The directory has no links among the names that matter, or it is not there. -/
def Unlinked (d : Disk) : Prop := (∃ home, L.Linkless home d) ∨ L.Sealed d

def Cleared (d : Disk) : Prop := (∃ home, L.Linkless home d ∧ d.get? (packageName :: home) = none) ∨ L.Sealed d

variable {L} {home : Place} {outside : Disk → Disk → Prop} {d d' : Disk} {es : List (Event kernel Disk)}

theorem Sealed.closed (h : L.Sealed d) (home : Place) : ¬ L.berth.Open home d := by
  obtain h | h := h
  · exact h.shut home
  · exact h.shut home

theorem Linkless.of_empty (sound : d.Sound) (ho : L.berth.Open home d) (hempty : ∀ n, d.get? (n :: home) = none) :
    L.Linkless home d :=
  ⟨sound, ho.1, ho.2, fun n _ target => by simp [hempty]⟩

namespace Cleared

theorem look (h : L.Cleared d) (v : Node) : d.look L.cwd L.package ≠ .ok v := by
  have hpackage : L.package = L.storage / ⟨packageName⟩ := rfl
  intro hv
  unfold Disk.look at hv
  obtain ⟨home, hl, hnone⟩ | hs := h
  · rw [hpackage, hl.holder plain_package (by simp)] at hv
    cases ha : Disk.admits (L.storage / ⟨packageName⟩) with
    | error e => simp [ha, Except.map, bind, Except.bind] at hv
    | ok u => simp [ha, Except.map, bind, Except.bind, hnone] at hv
  · cases hh : d.holder L.cwd L.package with
    | error e => simp [hh, bind, Except.bind] at hv
    | ok r => exact Berth.holder_ne hs.closed plain_package r hh

theorem makeDirs (h : L.Cleared d) {dir : Path} (hdir : ∀ a ∈ dir.ancestors, a.Above L.storage)
    {o : Option (Except Fault Unit)} (hc : (Kernel.makeDirs dir).Course (Kernel.law L.cwd outside) d es o d') :
    L.Cleared d' := by
  refine Kernel.makeDirs_keeps hdir (fun ha hne ht hm => ?_) h hc
  obtain ⟨home, hl, -⟩ | hshut | hbarred := ht
  · obtain ⟨e, he⟩ := Disk.makeDir_above hl.enters ha hne
    cases he.symm.trans hm
  · obtain hshut' | ⟨home, hsound, hopen, hempty⟩ := hshut.makeDir ha hne hm
    · exact .inr (.inl hshut')
    · exact .inl ⟨home, .of_empty hsound hopen hempty, hempty packageName⟩
  · obtain ⟨e, he⟩ := hbarred.still _ ha hne
    cases he.symm.trans hm

theorem save (h : L.Cleared d) {s : Store} (hp : s.path = L.statePath) {o : Option (Except Error Unit)}
    (hc : s.save.plan.Course (Kernel.law L.cwd outside) d es o d') : L.Cleared d' := by
  obtain ⟨parent, habove, ⟨-, o', hmake⟩ | ⟨t, _, _, hmake, hrest⟩⟩ :=
    Berth.course_save (B := L.berth) (by rw [hp]; rfl) hc
  · exact h.makeDirs habove hmake
  · obtain ⟨home, hl, hnone⟩ | hs := h.makeDirs habove hmake
    · obtain ⟨hl', hsame⟩ := hl.published hp (hl.ready.publish (L.sibling_eq hp) hrest)
      have hdraft : packageName :: home ≠ draftName :: home := L.package_ne (by simp [names]) home
      have hrecord : packageName :: home ≠ recordName :: home := L.package_ne (by simp [names]) home
      exact .inl ⟨home, hl', (hsame _ hdraft hrecord (by simp [Disk.twins, hnone])).trans hnone⟩
    · obtain ⟨rfl, -⟩ := Berth.publish_still hs.closed (L.sibling_eq hp) hrest
      exact .inr hs

end Cleared

theorem Unlinked.remove (h : L.Unlinked d)
    (hc : (Setup.removeStale L.package).Course (Kernel.law L.cwd outside) d es (some (.ok ())) d') : L.Cleared d' := by
  have hpackage : L.package = L.storage / ⟨packageName⟩ := rfl
  obtain ⟨r, t, es₁, es₂, -, hunlink, hrest⟩ := Plan.Course.of_bind_some hc
  obtain ⟨htook, htruth⟩ := hunlink.of_call_some
  obtain ⟨e, rfl, rfl⟩ | ⟨u, rfl, hun⟩ := htook
  · by_cases hm : e.isMissing = true
    · -- the answer that there is none is the truth
      have hun := htruth e rfl hm
      simp only [hm, if_true] at hrest
      obtain ⟨-, -, rfl⟩ := hrest.of_done
      obtain ⟨home, hl⟩ | hs := h
      · rw [hpackage, hl.unlink plain_package (by simp)] at hun
        refine .inl ⟨home, hl, ?_⟩
        cases ha : Disk.admits (L.storage / ⟨packageName⟩) with
        | error e' =>
          simp only [ha, Except.bind, Except.error.injEq] at hun
          have hno := Disk.admits_missing (Path.join_ne_nil L.storage plain_package) ha
          rw [hun, hm] at hno
          cases hno
        | ok u =>
          simp only [ha, Except.bind] at hun
          split at hun
          · assumption
          · cases hun
            cases hm
          · cases hun
      · exact .inr hs
    · simp only [hm, Bool.false_eq_true, if_false] at hrest
      obtain ⟨-, ho, -⟩ := hrest.of_done
      cases ho
  · obtain ⟨-, -, rfl⟩ := hrest.of_done
    obtain ⟨home, hl⟩ | hs := h
    · obtain ⟨dir, n, hh, -, hdir, rfl⟩ := Disk.unlink_eq_ok hun
      rw [hpackage, hl.holder plain_package (by simp)] at hh
      obtain ⟨rfl, rfl⟩ : home = dir ∧ packageName = n := by
        cases ha : Disk.admits (L.storage / ⟨packageName⟩) with
        | error e => simp [ha, Except.map] at hh
        | ok u => simpa [ha, Except.map] using hh
      obtain ⟨hl', hsame⟩ := hl.erased (by simp) hdir
      exact .inl ⟨home, hl', (hsame _).trans (if_pos rfl)⟩
    · obtain ⟨dir, n, hh, -⟩ := Disk.unlink_eq_ok hun
      exact absurd hh (Berth.holder_ne hs.closed plain_package _)

end Lodging

end Provision
