import Provision.Proofs.Fetch

/-!
What can be the trouble with an attempt, as seen on the network, and which troubles another attempt follows.
-/

set_option autoImplicit false

namespace Provision.Fetch

open Http (Failure Response Ended turn?)

inductive Trouble where
  /-- No request could be made of the address, of the token or of where an answer led. -/
  | unbuilt
  /-- The connection was closed, or the time was up, before the head of an answer came. -/
  | unheard
  /-- The answers led on and on. -/
  | endless
  | refused (status : Nat)
  /-- The connection was closed, or the time was up, inside the body. -/
  | broken
  /-- The body came as a whole and was no release. -/
  | unreadable
  deriving DecidableEq, Repr

namespace Trouble

/-- The trouble with an attempt, told from how its exchange ended. -/
inductive Of : Except Failure Response → Trouble → Prop where
  | unbuilt {url : Option String} {cause : String} : Of (.error (.unbuilt url cause)) .unbuilt
  | unheard {url : String} {causes : List String} : Of (.error (.unsent url causes)) .unheard
  | endless {url : String} : Of (.error (.redirects url)) .endless
  | refused {r : Response} (status : isSuccess r.status = false) : Of (.ok r) (.refused r.status)
  | broken {r : Response} (status : isSuccess r.status = true) (body : r.body.ending ≠ .complete) : Of (.ok r) .broken
  | unreadable {r : Response} (status : isSuccess r.status = true) (body : r.body.ending = .complete)
      (text : Release.readBytes? r.body.bytes = none) : Of (.ok r) .unreadable

/-- The troubles that another attempt follows, if there may be one. -/
def isRenewed : Trouble → Bool
  | .unbuilt | .unheard | .endless => true
  | .refused status => 500 ≤ status
  | .broken | .unreadable => false

variable {reply : Except Failure Response} {k : Trouble}

theorem Of.fails (tag : String) (h : Of reply k) : ∃ e, verdict tag reply = .error e ∧ isRetryable e = k.isRenewed := by
  cases h with
  | unbuilt => exact ⟨_, rfl, rfl⟩
  | unheard => exact ⟨_, rfl, rfl⟩
  | endless => exact ⟨_, rfl, rfl⟩
  | refused hs => exact ⟨.refused tag _, by simp [verdict, hs], rfl⟩
  | @broken r hs hb =>
    obtain ⟨u, status, pieces, ending⟩ := r
    cases ending with
    | complete => exact absurd rfl hb
    | cut => exact ⟨_, by simp [verdict, hs, decode]; rfl, rfl⟩
    | silence => exact ⟨_, by simp [verdict, hs, decode]; rfl, rfl⟩
  | unreadable hs hb ht => exact ⟨_, by simp [verdict, hs, decode, hb, ht]; rfl, rfl⟩

end Trouble

theorem decode_eq_ok {body : Http.Body} {r : Release} (h : decode body = .ok r) :
    body.ending = .complete ∧ Release.readBytes? body.bytes = some r := by
  unfold decode at h
  cases hb : body.ending with
  | complete =>
    simp only [hb] at h
    cases ht : Release.readBytes? body.bytes with
    | none =>
      rw [ht] at h
      cases h
    | some r' =>
      rw [ht] at h
      cases h
      exact ⟨rfl, rfl⟩
  | cut =>
    rw [hb] at h
    cases h
  | silence =>
    rw [hb] at h
    cases h

theorem verdict_eq_ok {tag : String} {reply : Except Failure Response} {release : Release}
    (h : verdict tag reply = .ok release) : ∃ r, reply = .ok r ∧ isSuccess r.status = true ∧ r.body.ending = .complete ∧
      Release.readBytes? r.body.bytes = some release := by
  cases reply with
  | error f => cases h
  | ok r =>
    simp only [verdict] at h
    split at h
    next hs => exact ⟨r, rfl, hs, decode_eq_ok h⟩
    next => cases h

theorem trouble_of_ended (tag : String) {turns : List Http.Turn} {reply : Except Failure Response}
    (h : Ended true turns reply) : (∃ release, verdict tag reply = .ok release) ∨ ∃ k, Trouble.Of reply k := by
  cases h with
  | unbuilt => exact .inr ⟨_, .unbuilt⟩
  | closed => exact .inr ⟨_, .unheard⟩
  | silence => exact .inr ⟨_, .unheard⟩
  | astray => exact .inr ⟨_, .unbuilt⟩
  | endless => exact .inr ⟨_, .endless⟩
  | @heard before h u status location body =>
    cases hs : isSuccess status with
    | false => exact .inr ⟨_, .refused hs⟩
    | true =>
      by_cases hb : body.ending = .complete
      · cases ht : Release.readBytes? body.bytes with
        | none => exact .inr ⟨_, .unreadable hs hb ht⟩
        | some release => exact .inl ⟨release, by simp [verdict, hs, decode, hb, ht]⟩
      · exact .inr ⟨_, .broken hs hb⟩

section Release

variable {σ : Type} (serve : (c : kernel.Call) → σ → kernel.Reply c × σ)

theorem ended_once {repo tag : String} {token : Option String} {p : Plan kernel (Except Error Release)}
    (hp : once repo tag token = p) (s : σ) :
    ∃ reply, Ended true ((p.trace serve s).filterMap turn?) reply ∧ (p.run serve s).1 = verdict tag reply := by
  rw [once_eq] at hp
  generalize address repo tag = url at hp
  subst hp
  refine ⟨((Http.get true (headers token) url).run serve s).1, ?_, by rw [Plan.run_bind]; rfl⟩
  rw [Plan.trace_bind]
  exact (List.append_nil _).symm ▸ Http.ended_run serve true (headers token) url s

/-- Every attempt of a fetch gives a release, or there is a trouble with it. Another attempt follows one that is not the
third if no request could be made, no head of an answer came, the answers led on and on or the status was one from 500
up, and only then. -/
theorem trouble_renewed (repo tag : String) (token : Option String) (x : σ) :
    let try_ := once repo tag token
    let job := release repo tag token
    ∃ n world fault, Went serve try_ tag 1 3 n world fault ∧ world 0 = x ∧
      job.run serve x = try_.run serve (world (n - 1)) ∧
      job.trace serve x = forerun serve try_ tag 1 world fault (n - 1) ++ try_.trace serve (world (n - 1)) ∧
      ∀ i < n, ∃ reply, Ended true ((try_.trace serve (world i)).filterMap turn?) reply ∧
        (try_.run serve (world i)).1 = verdict tag reply ∧
        ((∃ release, verdict tag reply = .ok release) ∨ ∃ k, Trouble.Of reply k) ∧
        (i + 1 < 3 → (i + 1 < n ↔ ∃ k, Trouble.Of reply k ∧ k.isRenewed = true)) := by
  have hjob : release repo tag token = attempts (once repo tag token) tag 2 1 := rfl
  rw [hjob]
  generalize htry : once repo tag token = try_
  obtain ⟨n, world, fault, hwent, hfirst, hrun, htrace⟩ := attempts_go serve try_ tag 2 1 x
  refine ⟨n, world, fault, hwent, hfirst, hrun, htrace, fun i hi => ?_⟩
  obtain ⟨reply, hended, hreply⟩ := ended_once serve htry (world i)
  have htrouble := trouble_of_ended tag hended
  refine ⟨reply, hended, hreply, htrouble, fun hthird => ?_⟩
  rw [hwent.follows hi hthird, hreply]
  constructor
  · -- the error tells whether another attempt follows, and the trouble tells the error
    rintro ⟨e, he, hr⟩
    obtain ⟨release, hok⟩ | ⟨k, hk⟩ := htrouble
    · cases he.symm.trans hok
    · obtain ⟨e', he', hr'⟩ := hk.fails tag
      cases he.symm.trans he'
      exact ⟨k, hk, hr'.symm.trans hr⟩
  · rintro ⟨k, hk, hr⟩
    obtain ⟨e, he, hr'⟩ := hk.fails tag
    exact ⟨e, he, hr'.trans hr⟩

end Release

def online (answers : List Http.Answer) : Machine := ⟨.empty, [], [], answers, [], []⟩

/-- How many requests a fetch makes, and how many warnings it gives. -/
def tally (answers : List Http.Answer) : Nat × Nat :=
  let m := ((online answers).run (release releaseRepo "t" none)).2
  (m.requests.length, m.journal.length)

def page : Http.Body := ⟨["\x7b\"id\":5,\"assets\":[]\x7d".toUTF8], .complete⟩

def torn (ending : Http.Ending) : Http.Body := ⟨["\x7b\"id\":5,".toUTF8], ending⟩

/-- A body that breaks off is not asked for again, though it would come the second time. What will not change is asked
for three times: an answer that leads to where no request can go, answers that lead on and on, and a status that is no
server's trouble. -/
theorem renewals_misplaced :
    tally [.head 200 none (torn .cut), .head 200 none page] = (1, 0) ∧
      tally [.head 200 none (torn .silence), .head 200 none page] = (1, 0) ∧
      tally (.replicate 3 (.head 302 (some "ftp://a.b/") ⟨[], .complete⟩)) = (3, 2) ∧
      tally (.replicate 33 (.head 302 (some "/x") ⟨[], .complete⟩)) = (33, 2) ∧
      tally (.replicate 3 (.head 600 none ⟨[], .complete⟩)) = (3, 2) :=
  ⟨by decide +kernel, by decide +kernel, by decide +kernel, by decide +kernel, by decide +kernel⟩

end Provision.Fetch
