import Provision.Http.Exchange
import Provision.Proofs.Machine
import Mathlib.Data.List.Forall2

set_option autoImplicit false

namespace Provision

namespace Http

variable (timed : Bool) (first : String) (all : Headers)

def redirected : Nat → Url → Url → Plan kernel (Except Failure Response)
  | 0, u, _ => .done (.error (.redirects u.text))
  | more + 1, u, target =>
    if Url.Wire.isHttp target then follow timed first all more (headersFor all u target) target
    else .done (.error (badScheme target))

def heard (more : Nat) (u : Url) : Answer → Plan kernel (Except Failure Response)
  | .closed =>
    .done (.error (.unsent first ["client error (SendRequest)", "connection closed before message completed"]))
  | .silence => .done (.error (silent timed first))
  | .head status location body =>
    match target? u status location with
    | none => .done (.ok ⟨u, status, body⟩)
    | some target => redirected timed first all more u target

theorem follow_eq (more : Nat) (h : Headers) (u : Url) :
    follow timed first all more h u = .ask (.exchange (requestFor h u)) (heard timed first all more u) := by
  have hafter : ∀ k : Answer → Plan kernel (Except Failure Response), (∀ r, k r = heard timed first all more u r) →
      Plan.ask (I := kernel) (.exchange (requestFor h u)) k =
        .ask (.exchange (requestFor h u)) (heard timed first all more u) :=
    fun k hk => congrArg _ (funext hk)
  cases more
  all_goals
    unfold follow
    refine hafter _ fun r => ?_
    cases r with
    | head status location body =>
      change (match target? u status location with | none => _ | some target => _) =
        match target? u status location with | none => _ | some target => _
      cases target? u status location <;> rfl
    | _ => rfl

theorem get_induction {timed : Bool} {P : Plan kernel (Except Failure Response) → Prop} (herror : ∀ f, P (.done (.error f)))
    (hstep : ∀ first all more h u, (∀ target, P (redirected timed first all more u target)) →
      P (follow timed first all more h u))
    {h : Headers} {url : String} : P (get timed h url) := by
  have hfollow : ∀ first all more h u, P (follow timed first all more h u) := by
    intro first all more
    induction more with
    | zero => exact fun h u => hstep first all 0 h u fun _ => herror _
    | succ more ih =>
      intro h u
      refine hstep first all (more + 1) h u fun target => ?_
      simp only [redirected]
      split
      · exact ih _ _
      · exact herror _
  unfold get
  cases Url.read url with
  | error e => exact herror _
  | ok u =>
    dsimp only
    split
    · exact herror _
    · split
      · exact herror _
      · split
        · exact herror _
        · exact hfollow _ _ _ _ _

theorem uses_get (timed : Bool) (h : Headers) (url : String) : (get timed h url).Uses (I := kernel) Kernel.Online := by
  refine get_induction (P := Plan.Uses (I := kernel) Kernel.Online) (fun _ => trivial) ?_
  intro first all more h u hnext
  rw [follow_eq]
  refine ⟨⟨_, rfl⟩, fun r => ?_⟩
  cases r with
  | head status location body =>
    simp only [heard]
    cases target? u status location with
    | none => exact trivial
    | some target => exact hnext target
  | _ => exact trivial

def answer? {σ : Type} : Event kernel σ → Option Answer
  | ⟨.exchange _, r, _⟩ => some r
  | _ => none

theorem answer?_of_offline {σ : Type} {e : Event kernel σ} (h : Kernel.Offline e.call) : answer? e = none := by
  obtain ⟨c, r, s⟩ := e
  cases c with
  | exchange q => exact absurd rfl (h q)
  | _ => rfl

theorem answers_of_uses {σ α : Type} {law : Law kernel σ} {p : Plan kernel α} {s s' : σ} {es : List (Event kernel σ)}
    {o : Option α} (h : p.Course law s es o s') (hp : p.Uses (I := kernel) Kernel.Offline) :
    es.filterMap answer? = [] := by
  rw [List.filterMap_eq_nil_iff]
  exact fun e he => answer?_of_offline (h.uses hp e he)

variable {timed first all} {cwd : Place}

/-- The work leaves the disk alone, and a response that it gives is that of the last answer. -/
def Relays (cwd : Place) (p : Plan kernel (Except Failure Response)) : Prop :=
  ∀ ⦃d d' : Disk⦄ ⦃es : List (Event kernel Disk)⦄ ⦃o : Option (Except Failure Response)⦄,
    p.Course (Kernel.strict cwd) d es o d' → d' = d ∧ ∀ r, o = some (.ok r) →
      ∃ location, (es.filterMap answer?).getLast? = some (.head r.status location r.body)

theorem relays_error (f : Failure) : Relays cwd (.done (.error f)) := by
  intro d d' es o hc
  obtain ⟨rfl, rfl, rfl⟩ := hc.of_done
  exact ⟨rfl, nofun⟩

theorem relays_heard {more : Nat} {u : Url} (hnext : ∀ target, Relays cwd (redirected timed first all more u target))
    (r : Answer) {d d' : Disk} {es : List (Event kernel Disk)} {o : Option (Except Failure Response)}
    (hc : (heard timed first all more u r).Course (Kernel.strict cwd) d es o d') :
    d' = d ∧ ∀ q, o = some (.ok q) →
      ∃ location, (r :: es.filterMap answer?).getLast? = some (.head q.status location q.body) := by
  have hlater : Relays cwd (heard timed first all more u r) → d' = d ∧ ∀ q, o = some (.ok q) →
      ∃ location, (r :: es.filterMap answer?).getLast? = some (.head q.status location q.body) := by
    intro hrelays
    obtain ⟨rfl, hlast⟩ := hrelays hc
    refine ⟨rfl, fun q hq => ?_⟩
    obtain ⟨location, hlast⟩ := hlast q hq
    exact ⟨location, by simp [List.getLast?_cons, hlast]⟩
  cases r with
  | closed => exact hlater (relays_error _)
  | silence => exact hlater (relays_error _)
  | head status location body =>
    simp only [heard] at hc hlater
    cases htarget : target? u status location with
    | some target =>
      rw [htarget] at hlater
      exact hlater (hnext target)
    | none =>
      rw [htarget] at hc
      obtain ⟨rfl, rfl, rfl⟩ := hc.of_done
      refine ⟨rfl, ?_⟩
      rintro q ⟨⟩
      exact ⟨location, rfl⟩

theorem relays_exchange {more : Nat} {u : Url} (hnext : ∀ target, Relays cwd (redirected timed first all more u target))
    (h : Headers) : Relays cwd (follow timed first all more h u) := by
  intro d d' es o hc
  rw [follow_eq] at hc
  obtain ⟨rfl, rfl, rfl | ⟨_, rfl⟩⟩ | ⟨r, t, es', rfl, rfl, hrest⟩ := hc.of_ask
  · exact ⟨rfl, nofun⟩
  · exact ⟨rfl, nofun⟩
  · exact relays_heard hnext r hrest

theorem relays_get (timed : Bool) (h : Headers) (url : String) : Relays cwd (get timed h url) :=
  get_induction relays_error fun _ _ _ h _ hnext => relays_exchange hnext h

def Body.Alike (b b' : Body) : Prop := b = b' ∨ (b.ending = .complete ∧ b'.ending = .complete ∧ b.bytes = b'.bytes)

/-- Answers that differ at most in how a complete body comes in pieces. -/
def Answer.Alike : Answer → Answer → Prop
  | .head status location body, .head status' location' body' => status = status' ∧ location = location' ∧ body.Alike body'
  | a, a' => a = a'

/-- Responses that differ at most in how a complete body comes in pieces. -/
def Response.Alike (r r' : Response) : Prop := r.url = r'.url ∧ r.status = r'.status ∧ r.body.Alike r'.body

end Http

def Outcome {α β ε : Type} (R : α → β → Prop) : Except ε α → Except ε β → Prop
  | .ok a, .ok b => R a b
  | .error e, .error e' => e = e'
  | _, _ => False

theorem outcome_eq {α ε : Type} {a b : Except ε α} : Outcome Eq a b ↔ a = b := by
  cases a <;> cases b <;> simp [Outcome]

namespace Machine

open Http (Answer)

variable {α β γ δ ε φ : Type} {R : α → β → Prop} {S : γ → δ → Prop}

/-- Two pieces of work, done where the answers of the network are alike and all else is the same, come to related
results and leave machines that differ only in answers that are alike. -/
def Agree (R : α → β → Prop) (p : Plan kernel α) (q : Plan kernel β) : Prop :=
  ∀ ⦃m : Machine⦄ ⦃answers : List Answer⦄, List.Forall₂ Answer.Alike m.answers answers →
    ∃ rest, List.Forall₂ Answer.Alike (m.run p).2.answers rest ∧
      (run { m with answers := answers } q).2 = { (m.run p).2 with answers := rest } ∧
      R (m.run p).1 (run { m with answers := answers } q).1

theorem agree_done {a : α} {b : β} (h : R a b) : Agree R (.done a) (.done b) :=
  fun _ answers halike => ⟨answers, halike, rfl, h⟩

theorem Agree.bind {p : Plan kernel α} {q : Plan kernel β} {f : α → Plan kernel γ} {g : β → Plan kernel δ} (h : Agree R p q)
    (hf : ∀ a b, R a b → Agree S (f a) (g b)) : Agree S (p.bind f) (q.bind g) := by
  intro m answers halike
  obtain ⟨rest, hrest, hstate, hr⟩ := h halike
  have hnext := hf _ _ hr hrest
  simp only [run, Plan.run_bind] at hstate hnext ⊢
  rwa [hstate]

theorem Agree.attempt {x : Kernel.Work ε α} {y : Kernel.Work ε β} {f : α → Kernel.Work ε γ} {g : β → Kernel.Work ε δ}
    (h : Agree (Outcome R) x.plan y.plan) (hf : ∀ a b, R a b → Agree (Outcome S) (f a).plan (g b).plan) :
    Agree (Outcome S) (x >>= f).plan (y >>= g).plan := by
  rw [Attempt.plan_bind, Attempt.plan_bind]
  refine h.bind fun a b hab => ?_
  cases a <;> cases b
  · exact agree_done hab
  · exact hab.elim
  · exact hab.elim
  · exact hf _ _ hab

theorem Agree.ofReply {p : Plan kernel (Except φ α)} {q : Plan kernel (Except φ β)} (h : Agree (Outcome R) p q)
    (wrap : φ → ε) :
    Agree (Outcome R) (Attempt.ofReply p wrap).plan (Attempt.ofReply q wrap).plan := by
  refine h.bind fun a b hab => ?_
  cases a <;> cases b
  · exact agree_done (congrArg wrap hab)
  · exact hab.elim
  · exact hab.elim
  · exact agree_done hab

theorem agree_offline {p q : Plan kernel (Except ε α)} (hq : q.Uses (I := kernel) Kernel.Offline)
    (h : ∀ m : Machine, m.run p = m.run q) : Agree (Outcome Eq) p q := by
  intro m answers halike
  rw [run_offline hq m answers, h]
  exact ⟨answers, (answers_offline hq m).symm ▸ halike, rfl, outcome_eq.mpr rfl⟩

end Machine

namespace Http

variable {timed : Bool} {first : String} {all : Headers}

/-- What comes of the work differs at most in how a complete body comes in pieces. -/
def Steady (p : Plan kernel (Except Failure Response)) : Prop := Machine.Agree (Outcome Response.Alike) p p

theorem steady_error (f : Failure) : Steady (.done (.error f)) := Machine.agree_done rfl

theorem steady_exchange {more : Nat} {u : Url} (hnext : ∀ target, Steady (redirected timed first all more u target))
    (h : Headers) : Steady (follow timed first all more h u) := by
  have hexchange : Machine.Agree Answer.Alike (Kernel.exchange (requestFor h u)) (Kernel.exchange (requestFor h u)) := by
    intro m answers halike
    obtain ⟨disk, cwd, env, given, requests, journal⟩ := m
    cases halike with
    | nil => exact ⟨[], .nil, rfl, rfl⟩
    | @cons a a' rest rest' ha hrest => exact ⟨rest', hrest, rfl, ha⟩
  have hfollow : follow timed first all more h u =
      (Kernel.exchange (requestFor h u)).bind (heard timed first all more u) := follow_eq timed first all more h u
  rw [Steady, hfollow]
  refine hexchange.bind fun a a' ha => ?_
  cases a with
  | closed =>
    cases ha
    exact steady_error _
  | silence =>
    cases ha
    exact steady_error _
  | head status location body =>
    cases a' with
    | closed => cases ha
    | silence => cases ha
    | head status' location' body' =>
      obtain ⟨rfl, rfl, hbody⟩ := ha
      simp only [heard]
      cases target? u status location with
      | none => exact Machine.agree_done ⟨rfl, rfl, hbody⟩
      | some target => exact hnext target

theorem steady_get (timed : Bool) (h : Headers) (url : String) : Steady (get timed h url) :=
  get_induction steady_error fun _ _ _ h _ hnext => steady_exchange hnext h

end Http

end Provision
