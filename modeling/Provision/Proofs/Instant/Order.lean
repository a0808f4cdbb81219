import Provision.Instant

set_option autoImplicit false

namespace Provision.Instant

/-- By the calendar, the clock and the nanoseconds, in this order. -/
def AtMost (a b : Instant) : Prop :=
  a.dayNumber < b.dayNumber ∨
    (a.dayNumber = b.dayNumber ∧ (a.clock < b.clock ∨ (a.clock = b.clock ∧ a.nano ≤ b.nano)))

theorem clock_lt (t : Instant) : t.clock < 86400 := by
  have h := t.valid.hours
  have m := t.valid.minutes
  have s := t.valid.seconds
  unfold clock
  omega

theorem nano_lt (t : Instant) : t.nano < 1000000000 ∨ (t.clock % 60 = 59 ∧ t.nano < 2000000000) := by
  have s := t.valid.nanos
  unfold clock
  omega

theorem inserted_cases (a b : Instant) :
    (inserted a b = 1 ∧ b.clock < a.clock ∧ 1000000000 ≤ b.nano) ∨
      (inserted a b = -1 ∧ a.clock < b.clock ∧ 1000000000 ≤ a.nano) ∨
      (inserted a b = 0 ∧ (a.clock ≤ b.clock ∨ b.nano < 1000000000) ∧ (b.clock ≤ a.clock ∨ a.nano < 1000000000)) := by
  unfold inserted
  split
  · split <;> omega
  · split
    · split <;> omega
    · omega

theorem AtMost.since_trans {a b c : Instant} (_ : a.AtMost b) (_ : b.AtMost c) {seconds : Nat}
    (h : seconds * 1000000000 < b.since a) (h' : seconds * 1000000000 < c.since b) :
    seconds * 1000000000 < c.since a := by
  have ha := a.nano_lt
  have hb := b.nano_lt
  have hc := c.nano_lt
  have ha' := a.clock_lt
  have hb' := b.clock_lt
  have hc' := c.clock_lt
  unfold AtMost at *
  simp only [since, nanos] at h h' ⊢
  -- how many seconds each of the three stretches counts
  obtain ⟨e₁, h₁⟩ | ⟨e₁, h₁⟩ | ⟨e₁, h₁⟩ := inserted_cases b a <;>
  obtain ⟨e₂, h₂⟩ | ⟨e₂, h₂⟩ | ⟨e₂, h₂⟩ := inserted_cases c b <;>
  obtain ⟨e₃, h₃⟩ | ⟨e₃, h₃⟩ | ⟨e₃, h₃⟩ := inserted_cases c a <;>
  rw [e₁] at h <;> rw [e₂] at h' <;> rw [e₃] <;> omega
end Provision.Instant
