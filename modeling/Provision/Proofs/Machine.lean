import Provision.Machine
import Provision.Proofs.Law

set_option autoImplicit false

namespace Provision

def Kernel.Offline (c : kernel.Call) : Prop := ∀ r, c ≠ .exchange r

def Kernel.Online (c : kernel.Call) : Prop := ∃ r, c = .exchange r

namespace Machine

theorem took_change (m : Machine) (r : Except Fault Disk) :
    Kernel.Took m.disk (m.change r).1 (m.change r).2.disk (fun _ => r = .ok (m.change r).2.disk) ∧
      (m.change r).2.cwd = m.cwd := by
  cases r with
  | error e => exact ⟨.inl ⟨e, rfl, rfl⟩, rfl⟩
  | ok d => exact ⟨.inr ⟨(), rfl, rfl⟩, rfl⟩

theorem took_changeWith {α : Type} (m : Machine) (r : Except Fault (α × Disk)) :
    Kernel.Took m.disk (m.changeWith r).1 (m.changeWith r).2.disk (fun a => r = .ok (a, (m.changeWith r).2.disk)) ∧
      (m.changeWith r).2.cwd = m.cwd := by
  cases r with
  | error e => exact ⟨.inl ⟨e, rfl, rfl⟩, rfl⟩
  | ok p => exact ⟨.inr ⟨p.1, rfl, rfl⟩, rfl⟩

theorem cwd_launch (m : Machine) (program : Path) (args : List String) (input : ByteArray) :
    (m.launch program args input).2.cwd = m.cwd := by
  simp only [launch]
  split
  · rfl
  · split <;> rfl

theorem serve_strict (c : kernel.Call) (m : Machine) :
    Kernel.strict m.cwd c m.disk (serve c m).1 (serve c m).2.disk ∧ (serve c m).2.cwd = m.cwd := by
  cases c with
  | inspect p => exact ⟨⟨rfl, .inl rfl⟩, rfl⟩
  | read p => exact ⟨⟨rfl, .inl rfl⟩, rfl⟩
  | makeDir p => exact took_change m _
  | create p => exact took_changeWith m _
  | createTemp dir stem => exact took_changeWith m _
  | write h data =>
    obtain ⟨⟨e, hr, hd⟩ | ⟨u, hr, hw⟩, hcwd⟩ := took_change m (m.disk.write h data)
    · exact ⟨.inr ⟨e, hr, .inl hd⟩, hcwd⟩
    · exact ⟨.inl ⟨hr, hw⟩, hcwd⟩
  | flush h => exact ⟨⟨rfl, .inl rfl⟩, rfl⟩
  | sync h => exact ⟨⟨rfl, .inl rfl⟩, rfl⟩
  | setMode p mode => exact took_change m _
  | rename p q => exact took_change m _
  | unlink p =>
    simp only [serve]
    cases hu : m.disk.unlink m.cwd p with
    | error e => exact ⟨.inl ⟨e, rfl, hu, rfl⟩, rfl⟩
    | ok d => exact ⟨.inr ⟨rfl, hu⟩, rfl⟩
  | locate name => exact ⟨rfl, rfl⟩
  | launch program args input => exact ⟨.inr trivial, cwd_launch m program args input⟩
  | exchange r => exact ⟨rfl, rfl⟩
  | pause n => exact ⟨rfl, rfl⟩
  | log e => exact ⟨rfl, rfl⟩

theorem serve_strict_at {cwd : Place} (c : kernel.Call) (m : Machine) (h : m.cwd = cwd) :
    Kernel.strict cwd c m.disk (serve c m).1 (serve c m).2.disk ∧ (serve c m).2.cwd = cwd := by
  subst h
  exact serve_strict c m

theorem course_strict {α : Type} (m : Machine) (p : Plan kernel α) :
    p.Course (Kernel.strict m.cwd) m.disk ((p.events serve m).map (Event.seen disk)) (some (m.run p).1) (m.run p).2.disk :=
  (Plan.course_view disk serve_strict_at p rfl).1

theorem course {α : Type} (m : Machine) (p : Plan kernel α) :
    p.Course (Kernel.law m.cwd fun _ _ => True) m.disk ((p.events serve m).map (Event.seen disk)) (some (m.run p).1)
      (m.run p).2.disk :=
  (m.course_strict p).mono fun _ _ _ _ => Kernel.strict_law

theorem course_killed {α : Type} (m : Machine) (n : Nat) (p : Plan kernel α) :
    ∃ es, p.Course (Kernel.law m.cwd fun _ _ => True) m.disk es (p.runFor serve n m).1 (p.runFor serve n m).2.disk := by
  obtain ⟨es, h⟩ := Plan.course_runFor disk serve_strict_at n p rfl
  exact ⟨es, h.mono fun _ _ _ _ => Kernel.strict_law⟩

theorem serve_offline (m : Machine) (answers : List Http.Answer) {c : kernel.Call} (hc : Kernel.Offline c) :
    serve c { m with answers := answers } = ((serve c m).1, { (serve c m).2 with answers := answers }) := by
  have hchange : ∀ r, change { m with answers := answers } r =
      ((m.change r).1, { (m.change r).2 with answers := answers }) := by
    intro r
    cases r <;> rfl
  have hchangeWith : ∀ {α : Type} (r : Except Fault (α × Disk)), changeWith { m with answers := answers } r =
      ((m.changeWith r).1, { (m.changeWith r).2 with answers := answers }) := by
    intro α r
    cases r <;> rfl
  cases c with
  | makeDir p => exact hchange _
  | create p => exact hchangeWith _
  | createTemp dir stem => exact hchangeWith _
  | write h data => exact hchange _
  | setMode p mode => exact hchange _
  | rename p q => exact hchange _
  | unlink p => exact hchange _
  | launch program args input =>
    simp only [serve, launch, searchPath, desk]
    split
    · rfl
    · split <;> rfl
  | exchange r => exact absurd rfl (hc r)
  | _ => rfl

theorem run_offline {α : Type} {p : Plan kernel α} (hp : p.Uses (I := kernel) Kernel.Offline) (m : Machine)
    (answers : List Http.Answer) :
    run { m with answers := answers } p = ((m.run p).1, { (m.run p).2 with answers := answers }) := by
  induction p generalizing m with
  | done a => rfl
  | ask c k ih =>
    simp only [run, Plan.run, serve_offline m answers hp.1]
    exact ih _ (hp.2 _) _

theorem answers_offline {α : Type} {p : Plan kernel α} (hp : p.Uses (I := kernel) Kernel.Offline) (m : Machine) :
    (m.run p).2.answers = m.answers := by
  have h := run_offline hp m m.answers
  exact congrArg (fun x => x.2.answers) h

end Machine

end Provision
