import Provision.Proofs.Fetch.Trouble
import Provision.Proofs.Disk.Sound

set_option autoImplicit false

namespace Provision.Fetch

variable {σ : Type} {law : Law kernel σ} {s s' : σ} {es : List (Event kernel σ)} {repo tag : String} {token : Option String}
  {release : Release} {try_ : Plan kernel (Except Error Release)}

/-- The last of the answers is a successful one, and its whole body is read as the release. -/
def Taken (answers : List Http.Answer) (release : Release) : Prop :=
  ∃ status location body, answers.getLast? = some (.head status location body) ∧ isSuccess status = true ∧
    body.ending = .complete ∧ Release.readBytes? body.bytes = some release

theorem Taken.behind {answers : List Http.Answer} (h : Taken answers release) (before : List Http.Answer) :
    Taken (before ++ answers) release := by
  obtain ⟨status, location, body, hlast, h⟩ := h
  exact ⟨status, location, body, by simp [List.getLast?_append, hlast], h⟩

theorem taken_once (hp : once repo tag token = try_) (hc : try_.Course law s es (some (.ok release)) s') :
    Taken (es.filterMap Http.answer?) release := by
  rw [once_eq] at hp
  generalize address repo tag = url at hp
  subst hp
  obtain ⟨reply, t, es₁, es₂, rfl, hget, hdone⟩ := hc.of_bind_some
  obtain ⟨rfl, hv, -⟩ := hdone.of_done
  obtain ⟨r, rfl, hs, hcomplete, htext⟩ := verdict_eq_ok (Option.some.inj hv).symm
  obtain ⟨location, hlast⟩ := (Http.ended_get hget).last
  refine ⟨r.status, location, r.body, ?_, hs, hcomplete, htext⟩
  rw [List.append_nil, Http.answers_turns, hlast]

theorem taken_attempts (htry : ∀ {s es s'}, try_.Course law s es (some (.ok release)) s' →
    Taken (es.filterMap Http.answer?) release) {more attempt : Nat}
    (hc : (attempts try_ tag more attempt).Course law s es (some (.ok release)) s') :
    Taken (es.filterMap Http.answer?) release := by
  induction more generalizing attempt s es with
  | zero => exact htry hc
  | succ more ih =>
    rw [attempts_succ] at hc
    obtain ⟨r, t, es₁, es₂, rfl, hfirst, hrest⟩ := hc.of_bind_some
    cases r with
    | ok r =>
      obtain ⟨rfl, ho, -⟩ := hrest.of_done
      cases ho
      rw [List.append_nil]
      exact htry hfirst
    | error e =>
      simp only [onward] at hrest
      split at hrest
      · obtain ⟨_, t', es₃, es₄, rfl, -, hlater⟩ := hrest.of_bind_some
        rw [List.filterMap_append, List.filterMap_append]
        exact ((ih hlater).behind _).behind _
      · obtain ⟨-, ho, -⟩ := hrest.of_done
        cases ho

theorem taken_release (hc : (Fetch.release repo tag token).Course law s es (some (.ok release)) s') :
    Taken (es.filterMap Http.answer?) release := by
  have hjob : Fetch.release repo tag token = attempts (once repo tag token) tag 2 1 := rfl
  rw [hjob] at hc
  generalize htry : once repo tag token = try_ at hc
  exact taken_attempts (taken_once htry) hc

theorem uses_attempts {allowed : kernel.Call → Prop} (hlog : ∀ e, allowed (.log e)) (hpause : ∀ n, allowed (.pause n))
    (htry : try_.Uses (I := kernel) allowed) (more attempt : Nat) :
    (attempts try_ tag more attempt).Uses (I := kernel) allowed := by
  induction more generalizing attempt with
  | zero => exact htry
  | succ more ih =>
    rw [attempts_succ]
    refine Plan.uses_bind htry fun r => ?_
    cases r with
    | ok r => exact trivial
    | error e =>
      simp only [onward]
      split
      · exact ⟨hlog _, fun _ => ⟨hpause _, fun _ => ih _⟩⟩
      · exact trivial

theorem direct_release {job : Plan kernel (Except Error Release)} (hjob : Fetch.release repo tag token = job) :
    job.Uses (I := kernel) Kernel.Direct := by
  have hattempts : Fetch.release repo tag token = attempts (once repo tag token) tag 2 1 := rfl
  rw [hattempts] at hjob
  -- an attempt at hand would be tried at every step
  generalize htry : once repo tag token = try_ at hjob
  subst hjob
  refine uses_attempts (fun _ => nofun) (fun _ => nofun) ((uses_once htry).mono ?_) 2 1
  rintro c ⟨r, rfl⟩
  exact nofun

end Provision.Fetch
