import Provision.Kernel
import Provision.Setup

/-!
Courses of a plan: what can happen when its calls are answered by a world that is only known to keep to
a law, and when the process may be killed at any call. A course that was killed has no result.
-/

set_option autoImplicit false

namespace Provision

/-- A call that was answered, and the state that the world was in then. -/
structure Event (I : Interface) (σ : Type) where
  call : I.Call
  reply : I.Reply call
  after : σ

/-- The event as one sees it who sees only a part of the world. -/
def Event.seen {I : Interface} {σ τ : Type} (view : σ → τ) (e : Event I σ) : Event I τ := ⟨e.call, e.reply, view e.after⟩

abbrev Exchanged (I : Interface) := (c : I.Call) × I.Reply c

def Event.said {I : Interface} {σ : Type} (e : Event I σ) : Exchanged I := ⟨e.call, e.reply⟩

/-- Which answers a call may get in a state, and what state it may leave. -/
abbrev Law (I : Interface) (σ : Type) := (c : I.Call) → σ → I.Reply c → σ → Prop

namespace Plan

variable {I J : Interface} {α β σ : Type}

inductive Course (law : Law I σ) : Plan I α → σ → List (Event I σ) → Option α → σ → Prop where
  | done {a : α} {s : σ} : Course law (.done a) s [] (some a) s
  | killed {c : I.Call} {k : I.Reply c → Plan I α} {s : σ} : Course law (.ask c k) s [] none s
  /-- Killed in the middle of a call; what the call did until then stays. -/
  | cut {c : I.Call} {k : I.Reply c → Plan I α} {s s' : σ} {r : I.Reply c} (h : law c s r s') :
      Course law (.ask c k) s [] none s'
  | ask {c : I.Call} {k : I.Reply c → Plan I α} {s t s' : σ} {r : I.Reply c} {es : List (Event I σ)}
      {o : Option α} (h : law c s r t) (rest : Course law (k r) t es o s') :
      Course law (.ask c k) s (⟨c, r, t⟩ :: es) o s'

variable {law : Law I σ} {s s' : σ} {es : List (Event I σ)}

theorem Course.of_done {a : α} {o : Option α} (h : Course law (.done a) s es o s') :
    es = [] ∧ o = some a ∧ s' = s := by
  cases h
  exact ⟨rfl, rfl, rfl⟩

theorem bind_cases {ε : Type} {p : Plan I (Except ε α)} {f g : Except ε α → Plan I β}
    (herror : ∀ e, f (.error e) = g (.error e)) (hok : ∀ a, f (.ok a) = g (.ok a)) : p.bind f = p.bind g := by
  refine congrArg p.bind (funext fun r => ?_)
  cases r with
  | error e => exact herror e
  | ok a => exact hok a

theorem Course.of_ask {c : I.Call} {k : I.Reply c → Plan I α} {o : Option α}
    (h : Course law (.ask c k) s es o s') :
    (o = none ∧ es = [] ∧ (s' = s ∨ ∃ r, law c s r s')) ∨
      ∃ r t es', es = ⟨c, r, t⟩ :: es' ∧ law c s r t ∧ Course law (k r) t es' o s' := by
  cases h with
  | killed => exact .inl ⟨rfl, rfl, .inl rfl⟩
  | cut h => exact .inl ⟨rfl, rfl, .inr ⟨_, h⟩⟩
  | ask h rest => exact .inr ⟨_, _, _, rfl, h, rest⟩

theorem Course.of_ask_some {c : I.Call} {k : I.Reply c → Plan I α} {a : α} (h : Course law (.ask c k) s es (some a) s') :
    ∃ r t es', es = ⟨c, r, t⟩ :: es' ∧ law c s r t ∧ Course law (k r) t es' (some a) s' := by
  obtain ⟨ho, -⟩ | h := h.of_ask
  · cases ho
  · exact h

theorem Course.exists_ask {p : Plan I α} {c : I.Call} {k : I.Reply c → Plan I α} {r : I.Reply c} {t : σ} {o : Option α}
    (hp : p = .ask c k) (hl : law c s r t) (h : ∃ es, Course law (k r) t es o s') : ∃ es, Course law p s es o s' := by
  obtain ⟨es, hrest⟩ := h
  subst hp
  exact ⟨_, .ask hl hrest⟩

theorem Course.of_call {c : I.Call} {o : Option (I.Reply c)} (h : Course law (.call c) s es o s') :
    (o = none ∧ es = [] ∧ (s' = s ∨ ∃ r, law c s r s')) ∨
      ∃ r, o = some r ∧ es = [⟨c, r, s'⟩] ∧ law c s r s' := by
  obtain h | ⟨r, t, es', rfl, hl, rest⟩ := h.of_ask
  · exact .inl h
  · obtain ⟨rfl, rfl, rfl⟩ := rest.of_done
    exact .inr ⟨r, rfl, rfl, hl⟩

/-- What holds of every state that the law allows after a call holds if the call is the last one, and what holds of the
replies holds of the one that came. -/
theorem Course.told {c : I.Call} {o : Option (I.Reply c)} {P : Prop} {Q : I.Reply c → Prop}
    (h : Course law (.call c) s es o s') (hnone : s = s' → P) (hlaw : ∀ r, law c s r s' → P ∧ Q r) :
    P ∧ ∀ r, o = some r → Q r := by
  obtain ⟨rfl, -, hs | ⟨r, hl⟩⟩ | ⟨r, rfl, -, hl⟩ := h.of_call
  · exact ⟨hnone hs.symm, nofun⟩
  · exact ⟨(hlaw r hl).1, nofun⟩
  · refine ⟨(hlaw r hl).1, ?_⟩
    rintro _ ⟨⟩
    exact (hlaw r hl).2

theorem Course.of_call_some {c : I.Call} {r : I.Reply c} (h : Course law (.call c) s es (some r) s') : law c s r s' := by
  obtain ⟨ho, -⟩ | ⟨r', ho, -, hl⟩ := h.of_call
  · cases ho
  · cases ho
    exact hl

theorem Course.call_events {c : I.Call} {r : I.Reply c} (h : Course law (.call c) s es (some r) s') :
    es = [⟨c, r, s'⟩] := by
  obtain ⟨ho, -⟩ | ⟨r', ho, hes, -⟩ := h.of_call
  · cases ho
  · cases ho
    exact hes

theorem Course.of_bind {p : Plan I α} {f : α → Plan I β} {o : Option β}
    (h : Course law (p.bind f) s es o s') :
    (o = none ∧ Course law p s es none s') ∨
      ∃ a t es₁ es₂, es = es₁ ++ es₂ ∧ Course law p s es₁ (some a) t ∧ Course law (f a) t es₂ o s' := by
  induction p generalizing s es with
  | done a => exact .inr ⟨a, s, [], es, rfl, .done, h⟩
  | ask c k ih =>
    obtain ⟨rfl, rfl, rfl | ⟨r, hl⟩⟩ | ⟨r, t, es', rfl, hl, rest⟩ := h.of_ask
    · exact .inl ⟨rfl, .killed⟩
    · exact .inl ⟨rfl, .cut hl⟩
    · obtain ⟨rfl, hp⟩ | ⟨a, u, es₁, es₂, rfl, hp, hf⟩ := ih r rest
      · exact .inl ⟨rfl, .ask hl hp⟩
      · exact .inr ⟨a, u, _, es₂, rfl, .ask hl hp, hf⟩

theorem Course.of_bind_some {p : Plan I α} {f : α → Plan I β} {b : β} (h : Course law (p.bind f) s es (some b) s') :
    ∃ a t es₁ es₂, es = es₁ ++ es₂ ∧ Course law p s es₁ (some a) t ∧ Course law (f a) t es₂ (some b) s' := by
  obtain ⟨ho, -⟩ | h := h.of_bind
  · cases ho
  · exact h

theorem Course.of_lower_ask {carry : (c : J.Call) → Plan I (J.Reply c)} {c : J.Call}
    {k : J.Reply c → Plan J α} {o : Option α} (h : Course law ((Plan.ask c k).lower carry) s es o s') :
    (o = none ∧ Course law (carry c) s es none s') ∨
      ∃ r t es₁ es₂, es = es₁ ++ es₂ ∧ Course law (carry c) s es₁ (some r) t ∧
        Course law ((k r).lower carry) t es₂ o s' :=
  h.of_bind

theorem Course.of_lower_ask_some {carry : (c : J.Call) → Plan I (J.Reply c)} {c : J.Call}
    {k : J.Reply c → Plan J α} {a : α} (h : Course law ((Plan.ask c k).lower carry) s es (some a) s') :
    ∃ r t es₁ es₂, es = es₁ ++ es₂ ∧ Course law (carry c) s es₁ (some r) t ∧
      Course law ((k r).lower carry) t es₂ (some a) s' :=
  h.of_bind_some

theorem Course.mono {law' : Law I σ} (hl : ∀ c s r t, law c s r t → law' c s r t) {p : Plan I α} {o : Option α}
    (h : Course law p s es o s') : Course law' p s es o s' := by
  induction h with
  | done => exact .done
  | killed => exact .killed
  | cut h => exact .cut (hl _ _ _ _ h)
  | ask h rest ih => exact .ask (hl _ _ _ _ h) ih

theorem Course.stopped {p : Plan I α} {o : Option α} (h : Course law p s es o s') {e : Event I σ} (he : e ∈ es) :
    ∃ es', Course law p s es' none e.after := by
  induction h with
  | done => cases he
  | killed => cases he
  | cut => cases he
  | ask hl rest ih =>
    obtain rfl | he := List.mem_cons.mp he
    · exact ⟨[], .cut hl⟩
    · exact Course.exists_ask rfl hl (ih he)

def events (serve : (c : I.Call) → σ → I.Reply c × σ) : Plan I α → σ → List (Event I σ)
  | .done _, _ => []
  | .ask c k, s => ⟨c, (serve c s).1, (serve c s).2⟩ :: (k (serve c s).1).events serve (serve c s).2

theorem trace_eq_events (serve : (c : I.Call) → σ → I.Reply c × σ) (p : Plan I α) (s : σ) :
    p.trace serve s = (p.events serve s).map fun e => ⟨e.call, e.reply⟩ := by
  induction p generalizing s with
  | done a => rfl
  | ask c k ih => exact congrArg (_ :: ·) (ih _ _)

theorem trace_bind (serve : (c : I.Call) → σ → I.Reply c × σ) (p : Plan I α) (f : α → Plan I β) (s : σ) :
    (p.bind f).trace serve s = p.trace serve s ++ (f (p.run serve s).1).trace serve (p.run serve s).2 := by
  induction p generalizing s with
  | done a => rfl
  | ask c k ih => exact congrArg (_ :: ·) (ih _ _)

theorem course_view {τ : Type} {law : Law I τ} {serve : (c : I.Call) → σ → I.Reply c × σ} {ok : σ → Prop} (view : σ → τ)
    (lawful : ∀ c s, ok s → law c (view s) (serve c s).1 (view (serve c s).2) ∧ ok (serve c s).2)
    (p : Plan I α) {s : σ} (hs : ok s) :
    Course law p (view s) ((p.events serve s).map (Event.seen view)) (some (p.run serve s).1) (view (p.run serve s).2) ∧
      ok (p.run serve s).2 := by
  induction p generalizing s with
  | done a => exact ⟨.done, hs⟩
  | ask c k ih =>
    obtain ⟨h, hok⟩ := ih (serve c s).1 (lawful c s hs).2
    exact ⟨.ask (lawful c s hs).1 h, hok⟩

theorem course_runFor {τ : Type} {law : Law I τ} {serve : (c : I.Call) → σ → I.Reply c × σ} {ok : σ → Prop} (view : σ → τ)
    (lawful : ∀ c s, ok s → law c (view s) (serve c s).1 (view (serve c s).2) ∧ ok (serve c s).2)
    (n : Nat) (p : Plan I α) {s : σ} (hs : ok s) :
    ∃ es, Course law p (view s) es (p.runFor serve n s).1 (view (p.runFor serve n s).2) := by
  induction p generalizing s n with
  | done a => exact ⟨[], by cases n <;> exact .done⟩
  | ask c k ih =>
    cases n with
    | zero => exact ⟨[], .killed⟩
    | succ n =>
      exact Course.exists_ask rfl (lawful c s hs).1 (ih (serve c s).1 n (lawful c s hs).2)

theorem course_run {serve : (c : I.Call) → σ → I.Reply c × σ} {ok : σ → Prop}
    (lawful : ∀ c s, ok s → law c s (serve c s).1 (serve c s).2 ∧ ok (serve c s).2)
    (p : Plan I α) {s : σ} (hs : ok s) :
    Course law p s (p.events serve s) (some (p.run serve s).1) (p.run serve s).2 ∧ ok (p.run serve s).2 := by
  have h := course_view id lawful p hs
  have hseen : (p.events serve s).map (Event.seen id) = p.events serve s := List.map_id _
  rwa [hseen] at h

def passes (serve : (c : I.Call) → σ → I.Reply c × σ) (check : I.Call → σ → Bool) : Plan I α → σ → Bool
  | .done _, _ => true
  | .ask c k, s => check c s && (k (serve c s).1).passes serve check (serve c s).2

theorem course_passes {serve : (c : I.Call) → σ → I.Reply c × σ} {check : I.Call → σ → Bool}
    (lawful : ∀ c s, check c s = true → law c s (serve c s).1 (serve c s).2) {p : Plan I α} {s : σ}
    (h : p.passes serve check s = true) : Course law p s (p.events serve s) (some (p.run serve s).1) (p.run serve s).2 := by
  induction p generalizing s with
  | done a => exact .done
  | ask c k ih =>
    obtain ⟨hc, hk⟩ := Bool.and_eq_true_iff.mp h
    exact .ask (lawful c s hc) (ih _ hk)

theorem events_keep {serve : (c : I.Call) → σ → I.Reply c × σ} {ok : σ → Prop} (keeps : ∀ c s, ok s → ok (serve c s).2)
    (p : Plan I α) {s : σ} (hs : ok s) : ∀ e ∈ p.events serve s, ok e.after := by
  induction p generalizing s with
  | done a => simp [events]
  | ask c k ih =>
    intro e he
    obtain rfl | he := List.mem_cons.mp he
    · exact keeps c s hs
    · exact ih _ (keeps c s hs) e he

theorem Course.with_events {extra : Event I σ → Prop} {p : Plan I α} {a : α} (h : Course law p s es (some a) s')
    (he : ∀ e ∈ es, extra e) : Course (fun c s r t => law c s r t ∧ extra ⟨c, r, t⟩) p s es (some a) s' := by
  generalize ho : some a = o at h
  induction h with
  | done => exact .done
  | killed => cases ho
  | cut => cases ho
  | ask hl rest ih =>
    exact .ask ⟨hl, he _ (List.mem_cons_self ..)⟩ (ih (fun e h => he e (List.mem_cons_of_mem _ h)) ho)

def Uses (allowed : I.Call → Prop) : Plan I α → Prop
  | .done _ => True
  | .ask c k => allowed c ∧ ∀ r, (k r).Uses allowed

theorem uses_bind {allowed : I.Call → Prop} {p : Plan I α} {f : α → Plan I β}
    (hp : p.Uses allowed) (hf : ∀ a, (f a).Uses allowed) : (p.bind f).Uses allowed := by
  induction p with
  | done a => exact hf a
  | ask c k ih => exact ⟨hp.1, fun r => ih r (hp.2 r)⟩

theorem Uses.mono {allowed more : I.Call → Prop} (h : ∀ c, allowed c → more c) {p : Plan I α}
    (hp : p.Uses allowed) : p.Uses more := by
  induction p with
  | done a => exact trivial
  | ask c k ih => exact ⟨h c hp.1, fun r => ih r (hp.2 r)⟩

theorem uses_trace {allowed : I.Call → Prop} {p : Plan I α} (hp : p.Uses allowed)
    (serve : (c : I.Call) → σ → I.Reply c × σ) (s : σ) : ∀ e ∈ p.trace serve s, allowed e.1 := by
  induction p generalizing s with
  | done a => simp [trace]
  | ask c k ih =>
    intro e he
    obtain rfl | he := List.mem_cons.mp he
    · exact hp.1
    · exact ih _ (hp.2 _) _ e he

theorem uses_of_all {allowed : I.Call → Prop} (h : ∀ c, allowed c) (p : Plan I α) : p.Uses allowed := by
  induction p with
  | done a => exact trivial
  | ask c k ih => exact ⟨h c, ih⟩

theorem uses_lower {carry : (c : J.Call) → Plan I (J.Reply c)} {allowed : I.Call → Prop}
    (h : ∀ c, (carry c).Uses allowed) (p : Plan J α) : (p.lower carry).Uses allowed := by
  induction p with
  | done a => exact trivial
  | ask c k ih => exact uses_bind (h c) ih

theorem filter_trace {check : I.Call → Bool} {p : Plan I α} (h : p.Uses fun c => check c = false)
    (serve : (c : I.Call) → σ → I.Reply c × σ) (x : σ) : (p.trace serve x).filter (fun e => check e.1) = [] := by
  refine List.filter_eq_nil_iff.mpr fun e he => ?_
  rw [uses_trace h serve x e he]
  exact Bool.false_ne_true

theorem Course.uses {allowed : I.Call → Prop} {p : Plan I α} {o : Option α}
    (h : Course law p s es o s') (hp : p.Uses allowed) : ∀ e ∈ es, allowed e.call := by
  induction h with
  | done => simp
  | killed => simp
  | cut => simp
  | ask _ _ ih =>
    intro e he
    obtain rfl | he := List.mem_cons.mp he
    · exact hp.1
    · exact ih (hp.2 _) e he

theorem Course.keeps {allowed : I.Call → Prop} {P : σ → Prop} {p : Plan I α} {o : Option α}
    (h : Course law p s es o s') (hp : p.Uses allowed)
    (step : ∀ c s r t, allowed c → P s → law c s r t → P t) (hs : P s) : P s' := by
  induction h with
  | done => exact hs
  | killed => exact hs
  | cut h => exact step _ _ _ _ hp.1 hs h
  | ask h rest ih => exact ih (hp.2 _) (step _ _ _ _ hp.1 hs h)

theorem Course.still {allowed : I.Call → Prop} {p : Plan I α} {o : Option α} (h : Course law p s es o s')
    (hp : p.Uses allowed) (step : ∀ c r t, allowed c → law c s r t → t = s) : s' = s := by
  have hs : ∀ c u r t, allowed c → u = s → law c u r t → t = s := by
    rintro c u r t hc rfl hl
    exact step c r t hc hl
  exact h.keeps hp hs rfl

def Within (allowed : I.Call → Prop) (ends : α → Prop) : Plan I α → Prop
  | .done a => ends a
  | .ask c k => allowed c ∧ ∀ r, (k r).Within allowed ends

theorem Within.bind {allowed : I.Call → Prop} {between : α → Prop} {ends : β → Prop} {p : Plan I α} {f : α → Plan I β}
    (hp : p.Within allowed between) (hf : ∀ a, between a → (f a).Within allowed ends) : (p.bind f).Within allowed ends := by
  induction p with
  | done a => exact hf a hp
  | ask c k ih => exact ⟨hp.1, fun r => ih r (hp.2 r)⟩

theorem Uses.within {allowed : I.Call → Prop} {p : Plan I α} (hp : p.Uses allowed) : p.Within allowed fun _ => True := by
  induction p with
  | done a => exact trivial
  | ask c k ih => exact ⟨hp.1, fun r => ih r (hp.2 r)⟩

theorem Course.ends {allowed : I.Call → Prop} {ends : α → Prop} {p : Plan I α} {a : α}
    (h : p.Course law s es (some a) s') (hp : p.Within allowed ends) : ends a := by
  generalize ho : some a = o at h
  induction h with
  | done =>
    cases ho
    exact hp
  | killed => cases ho
  | cut => cases ho
  | ask _ _ ih => exact ih (hp.2 _) ho

theorem Course.within {law : Law I σ} {carry : (c : J.Call) → Plan I (J.Reply c)} {allowed : J.Call → Prop}
    {ends : α → Prop} {P : σ → Prop} {p : Plan J α} {s s' : σ} {es : List (Event I σ)} {a : α}
    (h : (p.lower carry).Course law s es (some a) s') (hp : p.Within allowed ends)
    (step : ∀ c s es r t, allowed c → P s → (carry c).Course law s es (some r) t → P t) (hs : P s) : P s' ∧ ends a := by
  induction p generalizing s es with
  | done b =>
    obtain ⟨-, ho, rfl⟩ := h.of_done
    cases ho
    exact ⟨hs, hp⟩
  | ask c k ih =>
    obtain ⟨ho, -⟩ | ⟨r, t, es₁, es₂, rfl, hc, hrest⟩ := h.of_lower_ask
    · cases ho
    · exact ih r hrest (hp.2 r) (step c s es₁ r t hp.1 hs hc)

section Tells

variable {P P' P'' : σ → Prop} {p : Plan I α} {a : α}

/-- Wherever it is carried out under a condition, the plan comes to the same result, and another condition holds then. -/
def Tells (law : Law I σ) (P : σ → Prop) (p : Plan I α) (a : α) (P' : σ → Prop) : Prop :=
  ∀ s es o s', P s → p.Course law s es (some o) s' → o = a ∧ P' s'

theorem tells_done (h : ∀ s, P s → P' s) : Tells law P (.done a) a P' := by
  intro s es o s' hs hc
  obtain ⟨-, ho, rfl⟩ := hc.of_done
  cases ho
  exact ⟨rfl, h _ hs⟩

theorem tells_ask {c : I.Call} {r : I.Reply c} {k : I.Reply c → Plan I α}
    (hc : ∀ s r' t, P s → law c s r' t → r' = r ∧ P' t) (hk : Tells law P' (k r) a P'') : Tells law P (.ask c k) a P'' := by
  intro s es o s' hs h
  obtain ⟨ho, -⟩ | ⟨r', t, es', rfl, hl, hrest⟩ := h.of_ask
  · cases ho
  · obtain ⟨rfl, ht⟩ := hc s r' t hs hl
    exact hk t es' o s' ht hrest

theorem tells_ask_done {c : I.Call} {r : I.Reply c} {k : I.Reply c → Plan I α}
    (hc : ∀ s r' t, P s → law c s r' t → r' = r ∧ P' t) (hk : k r = .done a) : Tells law P (.ask c k) a P' := by
  refine tells_ask hc ?_
  rw [hk]
  exact tells_done fun _ h => h

theorem Tells.bind {b : β} {f : α → Plan I β} (hp : Tells law P p a P') (hf : Tells law P' (f a) b P'') :
    Tells law P (p.bind f) b P'' := by
  intro s es o s' hs h
  obtain ⟨ho, -⟩ | ⟨a', t, es₁, es₂, rfl, hc, hrest⟩ := h.of_bind
  · cases ho
  · obtain ⟨rfl, ht⟩ := hp s es₁ a' t hs hc
    exact hf t es₂ o s' ht hrest

theorem Tells.mono {Q Q' : σ → Prop} (h : Tells law P p a P') (hQ : ∀ s, Q s → P s) (hQ' : ∀ s, P' s → Q' s) :
    Tells law Q p a Q' := by
  intro s es o s' hs hc
  obtain ⟨ho, hs'⟩ := h s es o s' (hQ s hs) hc
  exact ⟨ho, hQ' s' hs'⟩

end Tells

theorem run_lower (carry : (c : J.Call) → Plan I (J.Reply c)) (serve : (c : I.Call) → σ → I.Reply c × σ)
    (p : Plan J α) (s : σ) :
    (p.lower carry).run serve s = p.run (fun c s => (carry c).run serve s) s := by
  induction p generalizing s with
  | done a => rfl
  | ask c k ih =>
    simp only [lower, run_bind, run]
    exact ih _ _

end Plan

namespace Attempt

variable {I : Interface} {α β ε φ σ : Type} {law : Law I σ} {s s' : σ} {es : List (Event I σ)}

theorem plan_bind (x : Attempt I ε α) (f : α → Attempt I ε β) :
    plan (x >>= f) = (plan x).bind fun
      | .ok a => plan (f a)
      | .error e => .done (.error e) := by
  show Plan.bind _ _ = _
  congr 1
  funext r
  cases r <;> rfl

theorem plan_ofReply_bind (p : Plan I (Except φ α)) (wrap : φ → ε) (f : α → Attempt I ε β) :
    plan (ofReply p wrap >>= f) = p.bind fun
      | .ok a => plan (f a)
      | .error e => .done (.error (wrap e)) := by
  rw [plan_bind, plan, ofReply, ExceptT.run_mk, Plan.bind_bind]
  congr 1
  funext r
  cases r <;> rfl

theorem of_bind {x : Attempt I ε α} {f : α → Attempt I ε β} {o : Option (Except ε β)}
    (h : (plan (x >>= f)).Course law s es o s') :
    (o = none ∧ (plan x).Course law s es none s') ∨
      (∃ e, o = some (.error e) ∧ (plan x).Course law s es (some (.error e)) s') ∨
      ∃ a t es₁ es₂, es = es₁ ++ es₂ ∧ (plan x).Course law s es₁ (some (.ok a)) t ∧
        (plan (f a)).Course law t es₂ o s' := by
  rw [plan_bind] at h
  obtain h | ⟨r, t, es₁, es₂, rfl, hx, hf⟩ := h.of_bind
  · exact .inl h
  · cases r with
    | error e =>
      obtain ⟨rfl, rfl, rfl⟩ := hf.of_done
      rw [List.append_nil]
      exact .inr (.inl ⟨e, rfl, hx⟩)
    | ok a => exact .inr (.inr ⟨a, t, es₁, es₂, rfl, hx, hf⟩)

theorem of_ofReply {p : Plan I (Except φ α)} {wrap : φ → ε} {o : Option (Except ε α)}
    (h : (plan (ofReply p wrap)).Course law s es o s') :
    ∃ o', p.Course law s es o' s' ∧ o = o'.map (Except.mapError wrap) := by
  change (p.bind _).Course law s es o s' at h
  obtain ⟨rfl, hp⟩ | ⟨r, t, es₁, es₂, rfl, hp, hf⟩ := h.of_bind
  · exact ⟨none, hp, rfl⟩
  · cases r with
    | error e =>
      obtain ⟨rfl, rfl, rfl⟩ := hf.of_done
      exact ⟨_, by rwa [List.append_nil], rfl⟩
    | ok a =>
      obtain ⟨rfl, rfl, rfl⟩ := hf.of_done
      exact ⟨_, by rwa [List.append_nil], rfl⟩

theorem told {p : Plan I (Except φ α)} {wrap : φ → ε} {o : Option (Except ε α)} {P : Prop} {Q : α → Prop}
    (h : (plan (ofReply p wrap)).Course law s es o s')
    (hp : ∀ {o'}, p.Course law s es o' s' → P ∧ ∀ r, o' = some r → ∀ a, r = .ok a → Q a) :
    P ∧ ∀ a, o = some (.ok a) → Q a := by
  obtain ⟨o', hp', rfl⟩ := of_ofReply h
  obtain ⟨hP, hQ⟩ := hp hp'
  refine ⟨hP, fun a ha => ?_⟩
  obtain _ | e | b := o'
  · cases ha
  · cases ha
  · cases ha
    exact hQ _ rfl a rfl

theorem of_bind_some {x : Attempt I ε α} {f : α → Attempt I ε β} {r : Except ε β}
    (h : (plan (x >>= f)).Course law s es (some r) s') :
    (∃ e, r = .error e ∧ (plan x).Course law s es (some (.error e)) s') ∨
      ∃ a t es₁ es₂, es = es₁ ++ es₂ ∧ (plan x).Course law s es₁ (some (.ok a)) t ∧
        (plan (f a)).Course law t es₂ (some r) s' := by
  obtain ⟨ho, -⟩ | ⟨e, ho, h⟩ | h := of_bind h
  · cases ho
  · exact .inl ⟨e, Option.some.inj ho, h⟩
  · exact .inr h

theorem of_bind_ok {x : Attempt I ε α} {f : α → Attempt I ε β} {b : β}
    (h : (plan (x >>= f)).Course law s es (some (.ok b)) s') :
    ∃ a t es₁ es₂, es = es₁ ++ es₂ ∧ (plan x).Course law s es₁ (some (.ok a)) t ∧
      (plan (f a)).Course law t es₂ (some (.ok b)) s' := by
  obtain ⟨e, hr, -⟩ | h := of_bind_some h
  · cases hr
  · exact h

theorem of_ofReply_ok {p : Plan I (Except φ α)} {wrap : φ → ε} {a : α}
    (h : (plan (ofReply p wrap)).Course law s es (some (.ok a)) s') : p.Course law s es (some (.ok a)) s' := by
  obtain ⟨o, hp, ho⟩ := of_ofReply h
  cases o with
  | none => cases ho
  | some r =>
    cases r with
    | error e => cases ho
    | ok b =>
      cases ho
      exact hp

theorem run_ofReply (serve : (c : I.Call) → σ → I.Reply c × σ) (p : Plan I (Except φ α)) (wrap : φ → ε) (s : σ) :
    (plan (ofReply p wrap)).run serve s = ((p.run serve s).1.mapError wrap, (p.run serve s).2) := by
  rw [plan, ofReply, ExceptT.run_mk, Plan.run_bind]
  cases (p.run serve s).1 <;> rfl

theorem uses_bind {allowed : I.Call → Prop} {x : Attempt I ε α} {f : α → Attempt I ε β}
    (hx : (plan x).Uses allowed) (hf : ∀ a, (plan (f a)).Uses allowed) : (plan (x >>= f)).Uses allowed := by
  rw [plan_bind]
  refine Plan.uses_bind hx fun r => ?_
  cases r with
  | error e => exact trivial
  | ok a => exact hf a

theorem uses_ofReply {allowed : I.Call → Prop} {p : Plan I (Except φ α)} {wrap : φ → ε} (hp : p.Uses allowed) :
    (plan (ofReply p wrap)).Uses allowed := by
  refine Plan.uses_bind hp fun r => ?_
  cases r <;> exact trivial

end Attempt

namespace Setup

variable {α σ : Type} {law : Law setup σ}

/-- What a call to the kernel is answered, as a part of setting up. -/
def kernelLaw (law : Law setup σ) : Law kernel σ := fun c => law (.kernel c)

def ofEvent (e : Event kernel σ) : Event setup σ := ⟨.kernel e.call, e.reply, e.after⟩

theorem ofEvent_injective {e e' : Event kernel σ} (h : ofEvent e = ofEvent e') : e = e' := by
  obtain ⟨c, r, t⟩ := e
  obtain ⟨c', r', t'⟩ := e'
  cases h
  rfl

theorem uses_ofKernel {allowed : setup.Call → Prop} {p : Plan kernel α} (h : p.Uses fun c => allowed (.kernel c)) :
    (ofKernel p).Uses allowed := by
  induction p with
  | done a => exact trivial
  | ask c k ih => exact ⟨h.1, fun r => ih r (h.2 r)⟩

theorem course_ofKernel {p : Plan kernel α} {s s' : σ} {es : List (Event setup σ)} {o : Option α}
    (h : (ofKernel p).Course law s es o s') :
    ∃ es', es = es'.map ofEvent ∧ p.Course (kernelLaw law) s es' o s' := by
  induction p generalizing s es with
  | done a =>
    obtain ⟨rfl, rfl, rfl⟩ := Plan.Course.of_done h
    exact ⟨[], rfl, .done⟩
  | ask c k ih =>
    obtain ⟨rfl, rfl, rfl | ⟨r, hl⟩⟩ | ⟨r, t, es', rfl, hl, rest⟩ := Plan.Course.of_ask h
    · exact ⟨[], rfl, .killed⟩
    · exact ⟨[], rfl, .cut hl⟩
    · obtain ⟨es'', rfl, h'⟩ := ih r rest
      exact ⟨⟨c, r, t⟩ :: es'', rfl, .ask hl h'⟩

theorem tells_ofKernel {P P' : σ → Prop} {p : Plan kernel α} {a : α}
    (h : Plan.Tells (kernelLaw law) P p a P') : Plan.Tells law P (ofKernel p) a P' := by
  intro s es o s' hs hc
  obtain ⟨es', -, hc⟩ := course_ofKernel hc
  exact h s es' o s' hs hc

end Setup

end Provision
