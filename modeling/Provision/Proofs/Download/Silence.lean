import Provision.Proofs.Download.Status

/-!
Servers that fall silent. A timer runs while a download waits for a piece of a body, and none while it waits for the
head of an answer: there it waits for ever. Main statement: `stuck_iff_headless`.
-/

set_option autoImplicit false

namespace Provision

namespace Attempt

variable {I : Interface} {α β ε φ : Type} {P : ε → Prop}

/-- The errors that work can come to, whatever it is answered. -/
def Errs (P : ε → Prop) (x : Attempt I ε α) : Prop := x.plan.Within (fun _ => True) fun r => ∀ e, r = .error e → P e

theorem errs_pure (a : α) : Errs P (pure a : Attempt I ε α) := fun _ he => nomatch he

theorem errs_ofReply (p : Plan I (Except φ α)) {wrap : φ → ε} (h : ∀ f, P (wrap f)) : Errs P (ofReply p wrap) := by
  refine (Plan.uses_of_all (fun _ => trivial) p).within.bind fun r _ => ?_
  cases r with
  | ok a => exact errs_pure a
  | error f =>
    rintro _ ⟨⟩
    exact h f

theorem Errs.bind {x : Attempt I ε α} {f : α → Attempt I ε β} (hx : Errs P x) (hf : ∀ a, Errs P (f a)) :
    Errs P (x >>= f) := by
  rw [Errs, plan_bind]
  refine Plan.Within.bind hx fun r hr => ?_
  cases r with
  | ok a => exact hf a
  | error e =>
    rintro _ ⟨⟩
    exact hr e rfl

end Attempt

namespace Download

def Stuck (r : Except Error Unit) : Prop := ∃ url, r = .error (.http (.unending url))

def Timely (e : Error) : Prop := ∀ url, e ≠ .http (.unending url)

section Keep

variable {url : String} {dir dest temp : Path} {mode : Option Nat} {body : Http.Body} {hnd : Handle}

theorem timely_writeAll (pieces : List ByteArray) (n : Nat) : Attempt.Errs Timely (writeAll hnd pieces n) := by
  induction pieces generalizing n with
  | nil => exact Attempt.errs_pure n
  | cons piece rest ih => exact (Attempt.errs_ofReply _ fun _ => nofun).bind fun _ => ih _

theorem timely_settle : Attempt.Errs Timely (ExceptT.mk (.done (settle url body.ending)) : Kernel.Work Error Unit) := by
  intro e he
  cases hending : body.ending with
  | complete => simp [hending, settle] at he
  | cut | silence =>
    rw [hending] at he
    cases he
    rintro first ⟨⟩

theorem timely_fill : Attempt.Errs Timely (fill url dest mode temp hnd body) := by
  have hdress : Attempt.Errs Timely (dress temp mode) := by
    cases mode with
    | none => exact Attempt.errs_pure ()
    | some mode => exact Attempt.errs_ofReply _ fun _ => nofun
  rw [fill_eq]
  refine (timely_writeAll body.pieces 0).bind fun k => timely_settle.bind fun _ => ?_
  refine (Attempt.errs_ofReply _ fun _ => nofun).bind fun _ => ?_
  refine (Attempt.errs_ofReply _ fun _ => nofun).bind fun _ => hdress.bind fun _ => ?_
  exact (Attempt.errs_ofReply _ fun _ => nofun).bind fun _ => Attempt.errs_pure k

theorem timely_keep : Attempt.Errs Timely (keep url dir dest mode body) := by
  refine (Attempt.errs_ofReply _ fun _ => nofun).bind fun made => ?_
  refine Plan.Within.bind timely_fill fun r hr => ?_
  cases r with
  | ok k => exact ⟨trivial, fun _ => Attempt.errs_pure ()⟩
  | error e =>
    refine ⟨trivial, fun _ => ?_⟩
    rintro _ ⟨⟩
    exact hr e rfl

end Keep

def fails : (c : Kernel.Call) → Kernel.Reply c → Bool
  | .createTemp _ _, .error _ => true
  | .write _ _, .error _ => true
  | _, _ => false

def Unkept {σ : Type} (es : List (Event kernel σ)) (e : Error) : Prop :=
  (∃ context fault, e = .io context fault) ∧ ∃ x ∈ es, fails x.call x.reply = true

section Course

variable {σ : Type} {law : Law kernel σ} {s s' : σ} {es : List (Event kernel σ)} {agent : Option String} {url : String}
  {dir dest : Path} {mode : Option Nat} {body : Http.Body} {r : Except Error Unit}

theorem Unkept.mono {es' : List (Event kernel σ)} {e : Error} (h : Unkept es e) (hsub : es ⊆ es') : Unkept es' e := by
  obtain ⟨hio, x, hx, hfails⟩ := h
  exact ⟨hio, x, hsub hx, hfails⟩

theorem unkept_writeAll {hnd : Handle} {pieces : List ByteArray} {n : Nat} {e : Error}
    (hc : (writeAll hnd pieces n).plan.Course law s es (some (.error e)) s') : Unkept es e := by
  induction pieces generalizing s es n with
  | nil =>
    obtain ⟨-, ho, -⟩ := Plan.Course.of_done hc
    cases ho
  | cons piece rest ih =>
    rw [writeAll] at hc
    obtain ⟨e', ho, hwrite⟩ | ⟨_, t, es₁, es₂, rfl, -, hrest⟩ := Attempt.of_bind_some hc
    · cases ho
      obtain ⟨o, hcall, ho⟩ := Attempt.of_ofReply hwrite
      obtain ⟨rfl, -⟩ | ⟨reply, rfl, rfl, -⟩ := hcall.of_call
      · cases ho
      cases reply with
      | ok u => cases ho
      | error fault =>
        cases ho
        exact ⟨⟨_, fault, rfl⟩, _, List.mem_singleton.mpr rfl, rfl⟩
    · exact (ih hrest).mono (List.subset_append_right es₁ es₂)

theorem keep_silent (hsilent : body.ending = .silence)
    (hc : (keep url dir dest mode body).plan.Course law s es (some r) s') :
    ∃ e, r = .error e ∧ (e = .stalled url patience ∨ Unkept es e) := by
  rw [keep] at hc
  obtain ⟨e, ho, hcreate⟩ | ⟨⟨temp, hnd⟩, t, es₁, es₂, rfl, -, hrest⟩ := Attempt.of_bind_some hc
  · cases ho
    obtain ⟨o, hcall, ho⟩ := Attempt.of_ofReply hcreate
    obtain ⟨rfl, -⟩ | ⟨reply, rfl, rfl, -⟩ := hcall.of_call
    · cases ho
    cases reply with
    | ok u => cases ho
    | error fault =>
      cases ho
      exact ⟨_, rfl, .inr ⟨⟨_, fault, rfl⟩, _, List.mem_singleton.mpr rfl, rfl⟩⟩
  change Plan.Course _ (Plan.bind (fill url dest mode temp hnd body).plan _) _ _ _ _ at hrest
  obtain ⟨filled, u, es₃, es₄, rfl, hfill, hend⟩ := hrest.of_bind_some
  obtain ⟨e, rfl, he⟩ : ∃ e, filled = .error e ∧ (e = .stalled url patience ∨ Unkept es₃ e) := by
    rw [fill_eq] at hfill
    obtain ⟨e, ho, hwrite⟩ | ⟨n, v, _, _, rfl, -, hsettle⟩ := Attempt.of_bind_some hfill
    · cases ho
      exact ⟨e, rfl, .inr (unkept_writeAll hwrite)⟩
    · rw [hsilent] at hsettle
      obtain ⟨-, ho, -⟩ := Plan.Course.of_done hsettle
      cases ho
      exact ⟨_, rfl, .inl rfl⟩
  -- the private file is removed, and the failure stays what it was
  obtain ⟨_, v, _, -, -, hdone⟩ := Plan.Course.of_ask_some hend
  obtain ⟨-, ho, -⟩ := Plan.Course.of_done hdone
  cases ho
  refine ⟨e, rfl, he.imp_right fun hunkept => hunkept.mono ?_⟩
  exact List.subset_append_of_subset_right es₁ (List.subset_append_left es₃ _)

theorem stuck_onward {reply : Except Http.Failure Http.Response}
    (hc : (onward url dir dest mode reply).plan.Course law s es (some r) s') :
    Stuck r ↔ ∃ first, reply = .error (.unending first) := by
  cases reply with
  | error f =>
    obtain ⟨-, ho, -⟩ := Plan.Course.of_done hc
    cases ho
    simp [Stuck]
  | ok a =>
    refine iff_of_false ?_ nofun
    rintro ⟨first, rfl⟩
    rw [onward] at hc
    split at hc
    · obtain ⟨-, ho, -⟩ := Plan.Course.of_done hc
      cases ho
    · exact hc.ends timely_keep _ rfl first rfl

theorem stuck_iff (hc : (file agent url dest mode).plan.Course law s es (some r) s') :
    Stuck r ↔ (es.filterMap Http.answer?).getLast? = some .silence := by
  obtain ⟨hnone, e, rfl, he⟩ | ⟨dir, t, t', es₁, es₂, es₃, reply, rfl, hanswers, hget, hrest⟩ := course_asked hc
  · rw [hnone]
    refine iff_of_false ?_ nofun
    rintro ⟨first, hstuck⟩
    exact he _ (Except.error.inj hstuck)
  · rw [stuck_onward hrest, (Http.ended_get hget).unending_iff, hanswers, Http.answers_turns]
    exact and_iff_right rfl

theorem silent_body {status : Nat} {location : Option String}
    (hc : (file agent url dest mode).plan.Course law s es (some r) s')
    (hlast : (es.filterMap Http.answer?).getLast? = some (.head status location body)) (hsilent : body.ending = .silence) :
    ∃ e, r = .error e ∧ (e = .stalled url patience ∨ (∃ f, e = .http f) ∧ Timely e ∨ Unkept es e) := by
  -- the head has come, so nothing is waited for without end
  have htimely : ¬ Stuck r := by
    rw [stuck_iff hc, hlast]
    simp
  obtain ⟨hnone, -⟩ | ⟨dir, t, t', es₁, es₂, es₃, reply, rfl, hanswers, hget, hrest⟩ := course_asked hc
  · rw [hnone] at hlast
    cases hlast
  rw [hanswers, Http.answers_turns] at hlast
  have hhttp {f : Http.Failure} (hr : r = .error (.http f)) : Timely (.http f) := by
    rintro first ⟨⟩
    exact htimely ⟨first, hr⟩
  cases reply with
  | error f =>
    obtain ⟨-, ho, -⟩ := Plan.Course.of_done hrest
    cases ho
    exact ⟨_, rfl, .inr (.inl ⟨⟨f, rfl⟩, hhttp rfl⟩)⟩
  | ok a =>
    obtain ⟨location', ha⟩ := (Http.ended_get hget).last
    obtain ⟨rfl, -, rfl⟩ : a.status = status ∧ location' = location ∧ a.body = body := by
      simpa [hlast, eq_comm] using ha
    rw [onward] at hrest
    split at hrest
    · obtain ⟨-, ho, -⟩ := Plan.Course.of_done hrest
      cases ho
      exact ⟨_, rfl, .inr (.inl ⟨⟨_, rfl⟩, hhttp rfl⟩)⟩
    · obtain ⟨e, rfl, he⟩ := keep_silent hsilent hrest
      refine ⟨e, rfl, he.imp_right fun hunkept => .inr (hunkept.mono ?_)⟩
      exact List.subset_append_of_subset_right es₁ (List.subset_append_right es₂ es₃)

end Course

/-- A download waits for ever if and only if the head of the last answer does not come. Silence inside a body ends it as
stalled, or with another error of the exchange that comes in time, if the disk does not fail before. Whatever has not
been downloaded leaves the destination and all else as it was. -/
theorem stuck_iff_headless {cwd : Place} {dest : Path} {mode : Option Nat} {agent : Option String} {url : String}
    {d d' : Disk} {es : List (Event kernel Disk)} {r : Except Error Unit} (hd : d.Sound)
    (hc : (file agent url dest mode).plan.Course (Kernel.strict cwd) d es (some r) d') :
    (Stuck r ↔ (es.filterMap Http.answer?).getLast? = some .silence) ∧
    (∀ status location body, (es.filterMap Http.answer?).getLast? = some (.head status location body) →
      body.ending = .silence →
        ∃ e, r = .error e ∧ (e = .stalled url patience ∨ (∃ f, e = .http f) ∧ Timely e ∨ Unkept es e)) ∧
    (r ≠ .ok () → Untouched cwd dest d d') := by
  refine ⟨stuck_iff hc, fun status location body => silent_body hc, fun hr => ?_⟩
  obtain ⟨ho, -⟩ | ⟨-, h⟩ := kept_or_untouched hd hc
  · exact absurd ho hr
  · exact h

def filled₀ : Disk := ⟨[(["d".toList], .file 0 0o644 "old".toUTF8)], 1⟩

theorem sound_filled₀ : filled₀.Sound := Disk.sound_of_isSound (by decide +kernel)

def hushed (a : Http.Answer) : Machine := ⟨filled₀, [], [], [a], [], []⟩

/-- Silence behind the first piece of a body. -/
theorem stuck_iff_headless_body :
    let plan := (file none "http://assets.invalid/x" "d" (some 0o755)).plan
    let m := hushed (.head 200 none ⟨["part".toUTF8], .silence⟩)
    m.disk.Sound ∧ (m.run plan).1 = .error (.stalled "http://assets.invalid/x" patience) ∧ ¬ Stuck (m.run plan).1 ∧
      Untouched [] "d" m.disk (m.run plan).2.disk := by
  intro plan m
  have hanswers : ((plan.events Machine.serve m).map (Event.seen Machine.disk)).filterMap Http.answer? = m.answers := by
    decide +kernel
  have hstalled : (m.run plan).1 = .error (.stalled "http://assets.invalid/x" patience) := by decide +kernel
  obtain ⟨hstuck, -, huntouched⟩ := stuck_iff_headless sound_filled₀ (m.course_strict plan)
  rw [hanswers] at hstuck
  refine ⟨sound_filled₀, hstalled, fun h => ?_, huntouched ?_⟩
  · exact absurd (hstuck.mp h) (by decide +kernel)
  · rw [hstalled]
    nofun

/-- Not every silence is given up: no timer runs before the head of an answer. -/
theorem headless_stuck :
    ¬ ∀ (m : Machine) (agent : Option String) (url : String) (dest : Path) (mode : Option Nat), m.disk.Sound →
      ¬ Stuck (m.run (file agent url dest mode).plan).1 := by
  intro h
  have hunending : ((hushed .silence).run (file none "http://assets.invalid/x" "d" (some 0o755)).plan).1 =
      .error (.http (.unending "http://assets.invalid/x")) := by decide +kernel
  exact h (hushed .silence) none "http://assets.invalid/x" "d" (some 0o755) sound_filled₀ ⟨_, hunending⟩

end Download

end Provision
