import Provision.Proofs.Download
import Provision.Proofs.Http.Ended

set_option autoImplicit false

namespace Provision

namespace Download

variable {cwd : Place} {dest : Path} {mode : Option Nat} {agent : Option String} {url : String} {d d' : Disk}
  {es : List (Event kernel Disk)} {r : Except Error Unit}

theorem stays_of_isError {status : Nat} (h : isError status = true) : Http.isRedirect status = false := by
  simp only [isError, Bool.and_eq_true, decide_eq_true_eq] at h
  have hlow : ∀ s ∈ [301, 302, 303, 307, 308], s < 400 := by decide
  refine Bool.eq_false_iff.mpr fun hr => ?_
  have := hlow status (List.contains_iff_mem.mp hr)
  omega

/-- All that was there is still there, and the destination is what it was. -/
structure Untouched (cwd : Place) (dest : Path) (d d' : Disk) : Prop where
  kept : ∀ p v, d.get? p = some v → d'.get? p = some v
  dest : ∀ p v, d.find cwd dest = .ok (p, v) → d'.find cwd dest = .ok (p, v)

/-- The complete body of the last answer, whose status tells of no error, stands at the destination. All else is as it
was, but for directories on the way there that were missing. -/
def Kept (cwd : Place) (dest : Path) (mode : Option Nat) (answers : List Http.Answer) (d d' : Disk) : Prop :=
  ∃ status location body dir d₁, answers.getLast? = some (.head status location body) ∧ isError status = false ∧
    body.ending = .complete ∧ dest.parent? = some dir ∧ Grown cwd dir d d₁ ∧ Placed cwd dest mode body.bytes d₁ d'

theorem kept_or_untouched (hd : d.Sound)
    (hc : (file agent url dest mode).plan.Course (Kernel.strict cwd) d es (some r) d') :
    (r = .ok () ∧ Kept cwd dest mode (es.filterMap Http.answer?) d d') ∨ ((∃ e, r = .error e) ∧ Untouched cwd dest d d') := by
  cases hdir : dest.parent? with
  | none =>
    unfold file at hc
    rw [hdir] at hc
    obtain ⟨-, ho, rfl⟩ := Plan.Course.of_done hc
    cases ho
    exact .inr ⟨⟨_, rfl⟩, fun _ _ h => h, fun _ _ h => h⟩
  | some dir =>
    obtain ⟨d₁, hgrown, ⟨e, rfl, hsame, hfind⟩ | ⟨rfl, status, location, body, hlast, hs, hcomplete, hplaced⟩⟩ :=
      course_file hdir hd hc
    · exact .inr ⟨⟨e, rfl⟩, fun p v hv => (hsame p).trans (hgrown.kept p v hv), hfind⟩
    · exact .inl ⟨rfl, status, location, body, dir, d₁, hlast, hs, hcomplete, hdir, hgrown, hplaced⟩

def onward (url : String) (dir dest : Path) (mode : Option Nat) :
    Except Http.Failure Http.Response → Kernel.Work Error Unit
  | .error f => throw (.http f)
  | .ok a => if isError a.status then throw (.http (.status a.status a.url.text)) else keep url dir dest mode a.body

theorem offline_onward (url : String) (dir dest : Path) (mode : Option Nat) (reply : Except Http.Failure Http.Response) :
    (onward url dir dest mode reply).plan.Uses (I := kernel) Kernel.Offline := by
  cases reply with
  | error f => exact trivial
  | ok a =>
    rw [onward]
    split
    · exact trivial
    · exact offline_keep url dir dest mode a.body

theorem course_asked {σ : Type} {law : Law kernel σ} {s s' : σ} {es : List (Event kernel σ)}
    (hc : (file agent url dest mode).plan.Course law s es (some r) s') :
    (es.filterMap Http.answer? = [] ∧ ∃ e, r = .error e ∧ ∀ f, e ≠ .http f) ∨
      ∃ dir t t' es₁ es₂ es₃ reply, es = es₁ ++ (es₂ ++ es₃) ∧ es.filterMap Http.answer? = es₂.filterMap Http.answer? ∧
        (Http.get false (headers agent) url).Course law t es₂ (some reply) t' ∧
        (onward url dir dest mode reply).plan.Course law t' es₃ (some r) s' := by
  cases hdir : dest.parent? with
  | none =>
    unfold file at hc
    rw [hdir] at hc
    obtain ⟨rfl, ho, -⟩ := Plan.Course.of_done hc
    cases ho
    exact .inl ⟨rfl, _, rfl, nofun⟩
  | some dir =>
    rw [file_eq hdir] at hc
    obtain ⟨e, ho, hmade⟩ | ⟨_, t, es₁, es', rfl, hmade, hc₁⟩ := Attempt.of_bind_some hc
    · cases ho
      obtain ⟨o, -, ho⟩ := Attempt.of_ofReply hmade
      refine .inl ⟨Http.answers_of_uses hmade (Attempt.uses_ofReply (offline_makeDirs dir)), e, rfl, ?_⟩
      cases o with
      | none => cases ho
      | some made =>
        cases made with
        | ok u => cases ho
        | error fault =>
          cases ho
          nofun
    -- the two ways on, behind an error and behind a response, are one
    · have honward : ∃ t' es₂ es₃ reply, es' = es₂ ++ es₃ ∧
          (Http.get false (headers agent) url).Course law t es₂ (some reply) t' ∧
          (onward url dir dest mode reply).plan.Course law t' es₃ (some r) s' := by
        rw [Attempt.plan_ofReply_bind] at hc₁
        obtain ⟨reply, t', es₂, es₃, rfl, hget, hrest⟩ := hc₁.of_bind_some
        refine ⟨t', es₂, es₃, reply, rfl, hget, ?_⟩
        cases reply <;> exact hrest
      obtain ⟨t', es₂, es₃, reply, rfl, hget, hrest⟩ := honward
      refine .inr ⟨dir, t, t', es₁, es₂, es₃, reply, rfl, ?_, hget, hrest⟩
      rw [List.filterMap_append, List.filterMap_append,
        Http.answers_of_uses hmade (Attempt.uses_ofReply (offline_makeDirs dir)),
        Http.answers_of_uses hrest (offline_onward url dir dest mode reply), List.nil_append, List.append_nil]

section Refused

variable {status : Nat} {location : Option String} {body : Http.Body}

theorem refused_of_isError (hc : (file agent url dest mode).plan.Course (Kernel.strict cwd) d es (some r) d')
    (hlast : (es.filterMap Http.answer?).getLast? = some (.head status location body)) (hs : isError status = true) :
    ∃ u : Url, r = .error (.http (.status status u.text)) := by
  obtain ⟨hnone, -⟩ | ⟨dir, t, t', es₁, es₂, es₃, reply, rfl, hanswers, hget, hrest⟩ := course_asked hc
  · rw [hnone] at hlast
    cases hlast
  · rw [hanswers, Http.answers_turns] at hlast
    obtain ⟨u, rfl⟩ := (Http.ended_get hget).of_stays hlast (stays_of_isError hs)
    rw [onward, if_pos hs] at hrest
    obtain ⟨-, ho, -⟩ := Plan.Course.of_done hrest
    cases ho
    exact ⟨u, rfl⟩

end Refused

section Accepting

/-- The answer with 200 in place of a status that a download does not tell from it. -/
def accepted : Http.Answer → Http.Answer
  | .head status location body =>
    if isError status || (Http.isRedirect status && location.isSome) then .head status location body
    else .head 200 location body
  | a => a

def accepting (m : Machine) : Machine := { m with answers := m.answers.map accepted }

def Akin (a b : Http.Response) : Prop :=
  a.url = b.url ∧ a.body = b.body ∧ (a.status = b.status ∨ isError a.status = false ∧ isError b.status = false)

/-- On a machine with the other network the work comes to what is not told apart. -/
def Blind (p : Plan kernel (Except Http.Failure Http.Response)) : Prop :=
  ∀ m : Machine, ((accepting m).run p).2 = accepting (m.run p).2 ∧ Outcome Akin (m.run p).1 ((accepting m).run p).1

theorem blind_error (f : Http.Failure) : Blind (.done (.error f)) := fun _ => ⟨rfl, rfl⟩

theorem blind_exchange {timed : Bool} {first : String} {all : Http.Headers} {more : Nat} {u : Url}
    (hnext : ∀ target, Blind (Http.redirected timed first all more u target)) (h : Http.Headers) :
    Blind (Http.follow timed first all more h u) := by
  have hheard : ∀ (m : Machine) a, ((accepting m).run (Http.heard timed first all more u (accepted a))).2 =
      accepting (m.run (Http.heard timed first all more u a)).2 ∧
      Outcome Akin (m.run (Http.heard timed first all more u a)).1
        ((accepting m).run (Http.heard timed first all more u (accepted a))).1 := by
    intro m a
    cases a with
    | closed => exact ⟨rfl, rfl⟩
    | silence => exact ⟨rfl, rfl⟩
    | head status location body =>
      simp only [accepted]
      split
      · simp only [Http.heard]
        cases Http.target? u status location with
        | none => exact ⟨rfl, rfl, rfl, .inl rfl⟩
        | some target => exact hnext target m
      · -- the client stays where it is, with either status
        rename_i hs
        simp only [Bool.or_eq_true, Bool.and_eq_true, not_or, not_and, Bool.not_eq_true] at hs
        have hhere : Http.target? u status location = none := by
          cases location with
          | none => rfl
          | some l =>
            refine Http.target?_of_stays (Bool.eq_false_iff.mpr fun hr => ?_)
            cases hs.2 hr
        simp only [Http.heard, hhere, Http.target?_of_stays (show Http.isRedirect 200 = false from rfl)]
        exact ⟨rfl, rfl, rfl, .inr ⟨hs.1, rfl⟩⟩
  intro m
  rw [Http.follow_eq]
  obtain ⟨disk, cwd, env, answers, requests, journal⟩ := m
  cases answers with
  | nil => exact hheard ⟨disk, cwd, env, [], requests ++ [Http.requestFor h u], journal⟩ .closed
  | cons a rest => exact hheard ⟨disk, cwd, env, rest, requests ++ [Http.requestFor h u], journal⟩ a

theorem blind_get (timed : Bool) (h : Http.Headers) (url : String) : Blind (Http.get timed h url) :=
  Http.get_induction blind_error fun _ _ _ h _ hnext => blind_exchange hnext h

theorem accepting_offline {α : Type} {p : Plan kernel α} (hp : p.Uses (I := kernel) Kernel.Offline) (m : Machine) :
    (accepting m).run p = ((m.run p).1, accepting (m.run p).2) := by
  rw [accepting, Machine.run_offline hp m, accepting, Machine.answers_offline hp m]

theorem run_accepting (m : Machine) (agent : Option String) (url : String) (dest : Path) (mode : Option Nat) :
    (accepting m).run (file agent url dest mode).plan =
      ((m.run (file agent url dest mode).plan).1, accepting (m.run (file agent url dest mode).plan).2) := by
  cases hdir : dest.parent? with
  | none =>
    unfold file
    rw [hdir]
    rfl
  | some dir =>
    rw [file_eq hdir]
    have hmake := accepting_offline (offline_makeDirs dir) m
    simp only [Attempt.plan_ofReply_bind, Machine.run, Plan.run_bind] at hmake ⊢
    rw [hmake]
    generalize (Kernel.makeDirs dir).run Machine.serve m = made
    obtain ⟨made | made, m⟩ := made
    · rfl
    obtain ⟨hstate, hreply⟩ := blind_get false (headers agent) url m
    simp only [Machine.run, Plan.run_bind] at hstate hreply ⊢
    rw [hstate]
    -- the two replies are akin, and that is all that is needed of them
    generalize (Http.get false (headers agent) url).run Machine.serve m = x at hreply ⊢
    generalize ((Http.get false (headers agent) url).run Machine.serve (accepting m)).1 = y at hreply ⊢
    obtain ⟨e | a, m⟩ := x <;> obtain e' | b := y
    · cases hreply
      rfl
    · exact hreply.elim
    · exact hreply.elim
    · obtain ⟨hurl, hbody, hstatus⟩ := hreply
      have hkeep := accepting_offline (offline_keep url dir dest mode a.body) m
      simp only [← hurl, ← hbody]
      obtain hstatus | ⟨ha, hb⟩ := hstatus
      · simp only [← hstatus]
        split
        · rfl
        · exact hkeep
      · simp only [ha, hb, Bool.false_eq_true, if_false]
        exact hkeep

end Accepting

end Download

end Provision
