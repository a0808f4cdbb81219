import Provision.Fetch
import Provision.Proofs.Http.Ended

/-!
The attempts of a fetch. What an attempt comes to decides whether there is another one; a warning and a pause
stand between two of them, and what the last one comes to is what the fetch comes to.
-/

set_option autoImplicit false

namespace Provision

namespace Fetch

/-- What stands between an attempt that failed and the next one. -/
def between (tag : String) (attempt : Nat) (e : Error) : Plan kernel Unit := do
  Kernel.log .warn .fetch (warning tag attempt e)
  Kernel.pause (delay attempt)

/-- How it goes on after an attempt that is not the last one there may be. -/
def onward (try_ : Plan kernel (Except Error Release)) (tag : String) (more attempt : Nat) :
    Except Error Release → Plan kernel (Except Error Release)
  | .ok r => .done (.ok r)
  | .error e =>
    if isRetryable e then (between tag attempt e).bind fun _ => attempts try_ tag more (attempt + 1) else .done (.error e)

theorem attempts_succ (try_ : Plan kernel (Except Error Release)) (tag : String) (more attempt : Nat) :
    attempts try_ tag (more + 1) attempt = try_.bind (onward try_ tag more attempt) := by
  refine congrArg try_.bind (funext fun r => ?_)
  cases r <;> rfl

def logged? : Exchanged kernel → Option Log.Entry
  | ⟨.log e, _⟩ => some e
  | _ => none

def paused? : Exchanged kernel → Option Nat
  | ⟨.pause milliseconds, _⟩ => some milliseconds
  | _ => none

section Went

variable {σ : Type} (serve : (c : kernel.Call) → σ → kernel.Reply c × σ) (try_ : Plan kernel (Except Error Release))
  (tag : String)

/-- How it went with attempts of which there may be `limit`, the first of them with the number `first`. There were `n`.
They began in the worlds `world 0`, `world 1` and so on; all but the last failed, with the errors `fault 0`, `fault 1`
and so on. -/
structure Went (first limit n : Nat) (world : Nat → σ) (fault : Nat → Error) : Prop where
  pos : 0 < n
  le : n ≤ limit
  failed : ∀ i, i + 1 < n → (try_.run serve (world i)).1 = .error (fault i) ∧ isRetryable (fault i) = true
  next : ∀ i, i + 1 < n →
    world (i + 1) = ((between tag (first + i) (fault i)).run serve (try_.run serve (world i)).2).2
  ended : n = limit ∨ ∀ e, (try_.run serve (world (n - 1))).1 = .error e → isRetryable e = false

/-- The calls of an attempt that another one follows, with the warning and the pause behind it. -/
def lap (attempt : Nat) (x : σ) (e : Error) : List (Exchanged kernel) :=
  try_.trace serve x ++ [⟨.log ⟨.warn, .fetch, warning tag attempt e⟩, ()⟩, ⟨.pause (delay attempt), ()⟩]

def forerun (first : Nat) (world : Nat → σ) (fault : Nat → Error) (n : Nat) : List (Exchanged kernel) :=
  (List.range n).flatMap fun i => lap serve try_ tag (first + i) (world i) (fault i)

variable {serve try_ tag} {first limit n : Nat} {x : σ} {e : Error} {world : Nat → σ} {fault : Nat → Error}

def put {α : Type} (a : α) (f : Nat → α) : Nat → α
  | 0 => a
  | i + 1 => f i

theorem Went.cons (h : Went serve try_ tag (first + 1) limit n world fault) (hx : (try_.run serve x).1 = .error e)
    (he : isRetryable e = true) (hnext : world 0 = ((between tag first e).run serve (try_.run serve x).2).2) :
    Went serve try_ tag first (limit + 1) (n + 1) (put x world) (put e fault) where
  pos := Nat.succ_pos n
  le := Nat.succ_le_succ h.le
  failed := by
    rintro (_ | i) hi
    · exact ⟨hx, he⟩
    · exact h.failed i (by omega)
  next := by
    rintro (_ | i) hi
    · exact hnext
    · have hi := h.next i (by omega)
      rwa [Nat.add_right_comm, Nat.add_assoc] at hi
  ended := by
    have hpos := h.pos
    cases n with
    | zero => omega
    | succ n => exact h.ended.imp (congrArg (· + 1)) id

theorem Went.follows (h : Went serve try_ tag first limit n world fault) {i : Nat} (hi : i < n) (hmore : i + 1 < limit) :
    i + 1 < n ↔ ∃ e, (try_.run serve (world i)).1 = .error e ∧ isRetryable e = true := by
  refine ⟨fun hnext => ⟨_, h.failed i hnext⟩, ?_⟩
  rintro ⟨e, he, hr⟩
  by_contra hlast
  obtain rfl : i = n - 1 := by omega
  obtain hn | hend := h.ended
  · omega
  · rw [hend e he] at hr
    cases hr

theorem forerun_succ :
    forerun serve try_ tag first (put x world) (put e fault) (n + 1) =
      lap serve try_ tag first x e ++ forerun serve try_ tag (first + 1) world fault n := by
  rw [forerun, List.range_succ_eq_map, List.flatMap_cons, List.flatMap_map]
  refine congrArg (fun f => _ ++ (List.range n).flatMap f) (funext fun i => ?_)
  exact congrArg (lap serve try_ tag · (world i) (fault i)) (by omega)

theorem lap_eq (attempt : Nat) : lap serve try_ tag attempt x e =
    try_.trace serve x ++ (between tag attempt e).trace serve (try_.run serve x).2 := rfl

theorem Went.single (h : limit = 0 ∨ ∀ e, (try_.run serve x).1 = .error e → isRetryable e = false) :
    Went serve try_ tag first (limit + 1) 1 (fun _ => x) fault where
  pos := Nat.one_pos
  le := Nat.succ_le_succ (Nat.zero_le _)
  failed := fun i hi => absurd hi (by omega)
  next := fun i hi => absurd hi (by omega)
  ended := h.imp_left (congrArg (· + 1) ∘ Eq.symm)

variable (serve try_ tag) in
theorem attempts_go (more first : Nat) (x : σ) : ∃ n world fault, Went serve try_ tag first (more + 1) n world fault ∧
    world 0 = x ∧ (attempts try_ tag more first).run serve x = try_.run serve (world (n - 1)) ∧
    (attempts try_ tag more first).trace serve x =
      forerun serve try_ tag first world fault (n - 1) ++ try_.trace serve (world (n - 1)) := by
  -- on how many more there may be; the sequences grow at their front, with the attempt that failed
  induction more generalizing first x with
  | zero => exact ⟨1, fun _ => x, fun _ => .state "", .single (.inl rfl), rfl, rfl, rfl⟩
  | succ more ih =>
    rw [attempts_succ, Plan.run_bind, Plan.trace_bind]
    have hsingle : ∀ o, (try_.run serve x).1 = o → (∀ e, o = .error e → isRetryable e = false) →
        onward try_ tag more first o = .done o := by
      intro o _ ho
      cases o with
      | ok r => rfl
      | error e => simp [onward, ho e rfl]
    by_cases hpass : ∀ e, (try_.run serve x).1 = .error e → isRetryable e = false
    · rw [hsingle _ rfl hpass]
      exact ⟨1, fun _ => x, fun _ => .state "", .single (.inr hpass), rfl, rfl, by simp [Plan.trace, forerun]⟩
    · obtain ⟨e, he, hr⟩ : ∃ e, (try_.run serve x).1 = .error e ∧ isRetryable e = true := by
        simpa using hpass
      obtain ⟨n, world, fault, hwent, hfirst, hrun, htrace⟩ :=
        ih (first + 1) ((between tag first e).run serve (try_.run serve x).2).2
      have hpos := hwent.pos
      obtain ⟨n, rfl⟩ : ∃ m, n = m + 1 := ⟨n - 1, by omega⟩
      simp only [he, onward, hr, if_true, Plan.run_bind, Plan.trace_bind]
      refine ⟨n + 2, put x world, put e fault, hwent.cons he hr hfirst, rfl, hrun, ?_⟩
      rw [htrace, ← List.append_assoc, ← lap_eq, ← List.append_assoc]
      exact congrArg (· ++ _) forerun_succ.symm

section Told

variable {β : Type} {f : Exchanged kernel → Option β} (hf : ∀ r a, f ⟨.exchange r, a⟩ = none)
  (hquiet : try_.Uses (I := kernel) Kernel.Online)
include hf hquiet

theorem filterMap_attempt (x : σ) : (try_.trace serve x).filterMap f = [] := by
  refine List.filterMap_eq_nil_iff.mpr fun e he => ?_
  obtain ⟨c, a⟩ := e
  obtain ⟨r, rfl⟩ := Plan.uses_trace hquiet serve x ⟨c, a⟩ he
  exact hf r a

theorem filterMap_forerun (n : Nat) :
    (forerun serve try_ tag first world fault n ++ try_.trace serve x).filterMap f =
      (List.range n).flatMap fun i => [⟨.log ⟨.warn, .fetch, warning tag (first + i) (fault i)⟩, ()⟩,
        ⟨.pause (delay (first + i)), ()⟩].filterMap f := by
  simp only [List.filterMap_append, forerun, List.filterMap_flatMap, lap, filterMap_attempt hf hquiet, List.nil_append,
    List.append_nil]

end Told

theorem logged_forerun (hquiet : try_.Uses (I := kernel) Kernel.Online) (n : Nat) :
    (forerun serve try_ tag first world fault n ++ try_.trace serve x).filterMap logged? =
      (List.range n).map fun i => ⟨.warn, .fetch, warning tag (first + i) (fault i)⟩ := by
  rw [filterMap_forerun (fun _ _ => rfl) hquiet, List.map_eq_flatMap]
  rfl

theorem paused_forerun (hquiet : try_.Uses (I := kernel) Kernel.Online) (n : Nat) :
    (forerun serve try_ tag 1 world fault n ++ try_.trace serve x).filterMap paused? =
      (List.range n).map fun i => 500 * Nat.pow 2 i := by
  rw [filterMap_forerun (fun _ _ => rfl) hquiet, List.map_eq_flatMap]
  refine congrArg (fun f => (List.range n).flatMap f) (funext fun i => ?_)
  show [500 * Nat.pow 2 (1 + i - 1)] = [500 * Nat.pow 2 i]
  rw [Nat.add_sub_cancel_left]

end Went

section Release

variable {σ : Type} (serve : (c : kernel.Call) → σ → kernel.Reply c × σ)

def verdict (tag : String) : Except Http.Failure Http.Response → Except Error Release
  | .error f => .error (.http f)
  | .ok r => if isSuccess r.status then decode r.body else .error (.refused tag r.status)

theorem once_eq (repo tag : String) (token : Option String) :
    once repo tag token = (Http.get true (headers token) (address repo tag)).bind fun r => .done (verdict tag r) := by
  unfold once
  -- with the address at hand, reading it would be tried
  generalize address repo tag = url
  refine congrArg (Plan.bind _) (funext fun r => ?_)
  cases r with
  | error f => rfl
  | ok r =>
    show (if isSuccess r.status = true then Plan.done _ else Plan.done _) = Plan.done (if isSuccess r.status = true then _ else _)
    split <;> rfl

theorem uses_once {repo tag : String} {token : Option String} {p : Plan kernel (Except Error Release)}
    (hp : once repo tag token = p) : p.Uses (I := kernel) Kernel.Online := by
  rw [once_eq] at hp
  generalize address repo tag = url at hp
  subst hp
  exact Plan.uses_bind (Http.uses_get true (headers token) url) fun r => trivial

theorem warning_text (tag : String) {i : Nat} (hi : i < 2) (e : Error) :
    warning tag (1 + i) e =
      "Fetching release '" ++ tag ++ "' failed (attempt " ++ toString (1 + i) ++ "/3): " ++ e.message ++ "; retrying in " ++
        if i = 0 then "500ms" else "1s" := by
  have hwait : delayText (delay (1 + i)) = if i = 0 then "500ms" else "1s" := by
    obtain rfl | rfl : i = 0 ∨ i = 1 := by omega
    · decide
    · decide
  have hlimit : "/" ++ toString maxAttempts ++ "): " = "/3): " := by decide
  have hrest (rest : String) : "/" ++ (toString maxAttempts ++ ("): " ++ rest)) = "/3): " ++ rest := by
    rw [← hlimit, String.append_assoc, String.append_assoc]
  unfold warning
  rw [hwait]
  simp only [String.append_assoc, hrest]

/-- A fetch makes attempts until one of them succeeds or fails for good, and no more than three. What that one comes to
is what the fetch comes to, with the world as it leaves it. There is a numbered warning and a pause behind each attempt
but the last, and the pauses grow twofold. -/
theorem release_retries (repo tag : String) (token : Option String) (x : σ) :
    let try_ := once repo tag token
    let job := release repo tag token
    ∃ n world fault, Went serve try_ tag 1 3 n world fault ∧ world 0 = x ∧
      job.run serve x = try_.run serve (world (n - 1)) ∧
      job.trace serve x = forerun serve try_ tag 1 world fault (n - 1) ++ try_.trace serve (world (n - 1)) ∧
      (∀ i, ∀ e ∈ try_.trace serve (world i), Kernel.Online e.1) ∧
      (job.trace serve x).filterMap logged? =
        (List.range (n - 1)).map (fun i => ⟨.warn, .fetch,
          "Fetching release '" ++ tag ++ "' failed (attempt " ++ toString (1 + i) ++ "/3): " ++ (fault i).message ++
            "; retrying in " ++ if i = 0 then "500ms" else "1s"⟩) ∧
      (job.trace serve x).filterMap paused? = (List.range (n - 1)).map (fun i => 500 * Nat.pow 2 i) := by
  have hjob : release repo tag token = attempts (once repo tag token) tag 2 1 := rfl
  rw [hjob]
  -- an attempt at hand would be tried at every step
  generalize htry : once repo tag token = try_
  have hquiet := uses_once htry
  obtain ⟨n, world, fault, hwent, hfirst, hrun, htrace⟩ := attempts_go serve try_ tag 2 1 x
  refine ⟨n, world, fault, hwent, hfirst, hrun, htrace, fun i => Plan.uses_trace hquiet serve _, ?_, ?_⟩
  · rw [htrace, logged_forerun hquiet]
    refine List.map_congr_left fun i hi => ?_
    have hle := hwent.le
    rw [warning_text tag (by rw [List.mem_range] at hi; omega)]
  · rw [htrace, paused_forerun hquiet]

end Release

end Fetch

end Provision
