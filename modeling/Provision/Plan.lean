/-!
Plans: finite trees of calls. A plan says which calls a piece of work makes and how it goes on
after each reply; it does not say who answers. The same plan can be run on a machine, cut off after
any number of calls, watched, or carried out through the calls of another interface.
-/

set_option autoImplicit false

namespace Provision

/-- The calls that a plan may make, and what each of them is answered with. -/
structure Interface where
  Call : Type
  Reply : Call → Type

inductive Plan (I : Interface) (α : Type) : Type where
  | done (a : α)
  | ask (c : I.Call) (k : I.Reply c → Plan I α)

namespace Plan

variable {I J : Interface} {α β σ : Type}

def bind : Plan I α → (α → Plan I β) → Plan I β
  | .done a, f => f a
  | .ask c k, f => .ask c fun r => (k r).bind f

instance : Monad (Plan I) where
  pure := .done
  bind := Plan.bind

theorem bind_done (p : Plan I α) : p.bind .done = p := by
  induction p with
  | done a => rfl
  | ask c k ih => exact congrArg (Plan.ask c) (funext ih)

theorem bind_bind {γ : Type} (p : Plan I α) (f : α → Plan I β) (g : β → Plan I γ) :
    (p.bind f).bind g = p.bind fun a => (f a).bind g := by
  induction p with
  | done a => rfl
  | ask c k ih => exact congrArg (Plan.ask c) (funext ih)

instance : LawfulMonad (Plan I) := LawfulMonad.mk' (Plan I)
  (fun p => bind_done p)
  (fun _ _ => rfl)
  (fun p f g => bind_bind p f g)

def call (c : I.Call) : Plan I (I.Reply c) := .ask c .done

/-- Answers every call from a state that the answers may change. -/
def run (serve : (c : I.Call) → σ → I.Reply c × σ) : Plan I α → σ → α × σ
  | .done a, s => (a, s)
  | .ask c k, s => (k (serve c s).1).run serve (serve c s).2

theorem run_bind (serve : (c : I.Call) → σ → I.Reply c × σ) (p : Plan I α) (f : α → Plan I β) (s : σ) :
    (p.bind f).run serve s = (f (p.run serve s).1).run serve (p.run serve s).2 := by
  induction p generalizing s with
  | done a => rfl
  | ask c k ih => exact ih _ _

/-- The state after the first `n` calls, when the process is killed there; the result if it ended before. -/
def runFor (serve : (c : I.Call) → σ → I.Reply c × σ) : Nat → Plan I α → σ → Option α × σ
  | _, .done a, s => (some a, s)
  | 0, .ask _ _, s => (none, s)
  | n + 1, .ask c k, s => (k (serve c s).1).runFor serve n (serve c s).2

def trace (serve : (c : I.Call) → σ → I.Reply c × σ) : Plan I α → σ → List ((c : I.Call) × I.Reply c)
  | .done _, _ => []
  | .ask c k, s => ⟨c, (serve c s).1⟩ :: (k (serve c s).1).trace serve (serve c s).2

def lower (carry : (c : I.Call) → Plan J (I.Reply c)) : Plan I α → Plan J α
  | .done a => .done a
  | .ask c k => (carry c).bind fun r => (k r).lower carry

theorem lower_bind (carry : (c : I.Call) → Plan J (I.Reply c)) (p : Plan I α) (f : α → Plan I β) :
    (p.bind f).lower carry = (p.lower carry).bind fun a => (f a).lower carry := by
  induction p with
  | done a => rfl
  | ask c k ih =>
    simp only [bind, lower, bind_bind]
    exact congrArg ((carry c).bind) (funext ih)

end Plan

/-- Work that can fail: a plan whose result is an error or a value. -/
abbrev Attempt (I : Interface) (ε : Type) := ExceptT ε (Plan I)

namespace Attempt

variable {I : Interface} {α ε φ : Type}

def ofReply (p : Plan I (Except φ α)) (wrap : φ → ε) : Attempt I ε α :=
  ExceptT.mk (p.bind fun
    | .ok a => .done (.ok a)
    | .error e => .done (.error (wrap e)))

def plan (x : Attempt I ε α) : Plan I (Except ε α) := x.run

end Attempt

end Provision
