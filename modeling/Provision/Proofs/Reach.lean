import Provision.Proofs.Course

/-!
What a plan comes to when each of its calls is carried out by calls of another interface: it ends, or the process is
killed in a call that the plan has reached.
-/

set_option autoImplicit false

namespace Provision

namespace Plan

variable {I J : Interface} {α σ : Type}

def Carried (law : Law I σ) (carry : (c : J.Call) → Plan I (J.Reply c)) : Law J σ :=
  fun c s r t => ∃ es, (carry c).Course law s es (some r) t

/-- Some calls of the plan have been answered, and the next one is at hand. -/
inductive Reaches (law : Law I σ) : Plan I α → σ → List (Event I σ) → I.Call → σ → Prop where
  | here {c : I.Call} {k : I.Reply c → Plan I α} {s : σ} : Reaches law (.ask c k) s [] c s
  | ask {c c' : I.Call} {k : I.Reply c → Plan I α} {s t u : σ} {r : I.Reply c} {past : List (Event I σ)} (h : law c s r t)
      (rest : Reaches law (k r) t past c' u) : Reaches law (.ask c k) s (⟨c, r, t⟩ :: past) c' u

variable {law : Law I σ} {s t u : σ} {past : List (Event I σ)}

theorem Reaches.of_ask {c c' : I.Call} {k : I.Reply c → Plan I α} (h : Reaches law (.ask c k) s past c' u) :
    (past = [] ∧ c' = c ∧ u = s) ∨
      ∃ r t later, past = ⟨c, r, t⟩ :: later ∧ law c s r t ∧ Reaches law (k r) t later c' u := by
  cases h with
  | here => exact .inl ⟨rfl, rfl, rfl⟩
  | ask h rest => exact .inr ⟨_, _, _, rfl, h, rest⟩

theorem Reaches.mono {law' : Law I σ} (hl : ∀ c s r t, law c s r t → law' c s r t) {p : Plan I α} {c : I.Call}
    (h : Reaches law p s past c u) : Reaches law' p s past c u := by
  induction h with
  | here => exact .here
  | ask h rest ih => exact .ask (hl _ _ _ _ h) ih

theorem lower_lower {K : Interface} (carry : (c : I.Call) → Plan J (I.Reply c)) (carry' : (c : J.Call) → Plan K (J.Reply c))
    (p : Plan I α) : (p.lower carry).lower carry' = p.lower fun c => (carry c).lower carry' := by
  induction p with
  | done a => rfl
  | ask c k ih =>
    simp only [lower, lower_bind]
    exact congrArg (Plan.bind _) (funext ih)

theorem Course.reaches {carry : (c : J.Call) → Plan I (J.Reply c)} {p : Plan J α} {es : List (Event I σ)} {o : Option α}
    (h : (p.lower carry).Course law s es o t) :
    (∃ a past, o = some a ∧ p.Course (Carried law carry) s past (some a) t) ∨
      (o = none ∧ ∃ past c u es', p.Reaches (Carried law carry) s past c u ∧ (carry c).Course law u es' none t) := by
  induction p generalizing s es with
  | done a =>
    obtain ⟨-, rfl, rfl⟩ := h.of_done
    exact .inl ⟨a, [], rfl, .done⟩
  | ask c k ih =>
    obtain ⟨rfl, hkilled⟩ | ⟨r, s', es₁, es₂, rfl, hc, hrest⟩ := h.of_lower_ask
    · exact .inr ⟨rfl, [], c, s, es, .here, hkilled⟩
    · obtain ⟨a, past, rfl, hpast⟩ | ⟨rfl, past, c', u, es', hreach, hkilled⟩ := ih r hrest
      · exact .inl ⟨a, _, rfl, .ask ⟨es₁, hc⟩ hpast⟩
      · exact .inr ⟨rfl, _, c', u, es', .ask ⟨es₁, hc⟩ hreach, hkilled⟩

/-- The call that is at hand when so many calls have been carried out, and the state then. -/
def reached (carry : (c : J.Call) → Plan I (J.Reply c)) (serve : (c : I.Call) → σ → I.Reply c × σ) :
    Nat → Plan J α → σ → Option (J.Call × σ)
  | _, .done _, _ => none
  | 0, .ask c _, s => some (c, s)
  | n + 1, .ask c k, s => reached carry serve n (k ((carry c).run serve s).1) ((carry c).run serve s).2

theorem reaches_of_reached {τ : Type} {law : Law I τ} {carry : (c : J.Call) → Plan I (J.Reply c)}
    {serve : (c : I.Call) → σ → I.Reply c × σ} {ok : σ → Prop} (view : σ → τ)
    (lawful : ∀ c s, ok s → law c (view s) (serve c s).1 (view (serve c s).2) ∧ ok (serve c s).2) {n : Nat}
    {p : Plan J α} {c : J.Call} (hs : ok s) (h : p.reached carry serve n s = some (c, t)) :
    ∃ past, p.Reaches (Carried law carry) (view s) past c (view t) := by
  induction n generalizing p s with
  | zero =>
    cases p with
    | done a => cases h
    | ask c' k =>
      cases h
      exact ⟨[], .here⟩
  | succ n ih =>
    cases p with
    | done a => cases h
    | ask c' k =>
      obtain ⟨hc, hok⟩ := course_view view lawful (carry c') hs
      obtain ⟨past, hrest⟩ := ih hok h
      exact ⟨_, .ask ⟨_, hc⟩ hrest⟩

end Plan

end Provision
