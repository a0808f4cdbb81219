import Provision.Proofs.Http

/-!
How getting something ends, told from what was asked and answered: no request could be made, the last one was not
answered, the last answer led to where the client does not go, or it is the response.
-/

set_option autoImplicit false

namespace Provision

namespace Http

abbrev Turn := Request × Answer

def turn? : Exchanged kernel → Option Turn
  | ⟨.exchange r, a⟩ => some (r, a)
  | _ => none

def Turn.Leads (x : Turn) : Prop :=
  ∃ h u status location body t, x = (requestFor h u, .head status location body) ∧
    target? u status location = some t ∧ Url.Wire.isHttp t = true

/-- How getting something ends, with all that was asked and answered for it. -/
inductive Ended (timed : Bool) : List Turn → Except Failure Response → Prop where
  /-- Nothing was asked, as no request could be made. -/
  | unbuilt {url : Option String} {cause : String} : Ended timed [] (.error (.unbuilt url cause))
  | closed {before : List Turn} {r : Request} {first : String} (followed : ∀ x ∈ before, x.Leads) :
      Ended timed (before ++ [(r, .closed)])
        (.error (.unsent first ["client error (SendRequest)", "connection closed before message completed"]))
  | silence {before : List Turn} {r : Request} {first : String} (followed : ∀ x ∈ before, x.Leads) :
      Ended timed (before ++ [(r, .silence)]) (.error (silent timed first))
  /-- The client was sent to where no request can go. -/
  | astray {before : List Turn} {h : Headers} {u t : Url} {status : Nat} {location : Option String} {body : Body}
      (followed : ∀ x ∈ before, x.Leads) (led : target? u status location = some t) (scheme : Url.Wire.isHttp t = false) :
      Ended timed (before ++ [(requestFor h u, .head status location body)]) (.error (badScheme t))
  /-- The client was sent on once more than it follows. -/
  | endless {before : List Turn} {h : Headers} {u t : Url} {status : Nat} {location : Option String} {body : Body}
      (followed : ∀ x ∈ before, x.Leads) (led : target? u status location = some t) (many : before.length = redirectLimit) :
      Ended timed (before ++ [(requestFor h u, .head status location body)]) (.error (.redirects u.text))
  | heard {before : List Turn} {h : Headers} {u : Url} {status : Nat} {location : Option String} {body : Body}
      (followed : ∀ x ∈ before, x.Leads) (here : target? u status location = none) :
      Ended timed (before ++ [(requestFor h u, .head status location body)]) (.ok ⟨u, status, body⟩)

variable {σ : Type} {law : Law kernel σ} {timed : Bool} {s s' : σ} {es : List (Event kernel σ)}
  {r : Except Failure Response}

def turns (es : List (Event kernel σ)) : List Turn := (es.map Event.said).filterMap turn?

theorem answers_turns (es : List (Event kernel σ)) : es.filterMap answer? = (turns es).map Prod.snd := by
  induction es with
  | nil => rfl
  | cons e es ih =>
    obtain ⟨c, r, t⟩ := e
    rw [turns] at ih ⊢
    cases c with
    | exchange q => exact congrArg (r :: ·) ih
    | _ => exact ih

section Follow

variable {first : String} {all h : Headers} {more : Nat} {u : Url} {before : List Turn}

theorem ended_exchange (hbefore : ∀ x ∈ before, x.Leads)
    (hnext : ∀ status location body t, target? u status location = some t → ∀ {s es},
      (redirected timed first all more u t).Course law s es (some r) s' →
      Ended timed (before ++ (requestFor h u, .head status location body) :: turns es) r)
    (hc : (follow timed first all more h u).Course law s es (some r) s') : Ended timed (before ++ turns es) r := by
  rw [follow_eq] at hc
  obtain ⟨a, t, es', rfl, -, hrest⟩ := hc.of_ask_some
  cases a with
  | closed =>
    obtain ⟨rfl, ho, -⟩ := hrest.of_done
    cases ho
    exact .closed hbefore
  | silence =>
    obtain ⟨rfl, ho, -⟩ := hrest.of_done
    cases ho
    exact .silence hbefore
  | head status location body =>
    simp only [heard] at hrest
    cases htarget : target? u status location with
    | none =>
      rw [htarget] at hrest
      obtain ⟨rfl, ho, -⟩ := hrest.of_done
      cases ho
      exact .heard hbefore htarget
    | some target =>
      rw [htarget] at hrest
      exact hnext status location body target htarget hrest

theorem ended_follow (hbefore : ∀ x ∈ before, x.Leads) (hmore : before.length + more = redirectLimit)
    (hc : (follow timed first all more h u).Course law s es (some r) s') : Ended timed (before ++ turns es) r := by
  -- along the way what was followed and what still may be make up the limit
  induction more generalizing h u before s es with
  | zero =>
    refine ended_exchange hbefore (fun status location body t ht s es hrest => ?_) hc
    obtain ⟨rfl, ho, -⟩ := hrest.of_done
    cases ho
    exact .endless hbefore ht hmore
  | succ more ih =>
    refine ended_exchange hbefore (fun status location body t ht s es hrest => ?_) hc
    simp only [redirected] at hrest
    split at hrest
    next hhttp =>
      rw [List.append_cons]
      refine ih (List.forall_mem_append.mpr ⟨hbefore, List.forall_mem_singleton.mpr ?_⟩) (by simp; omega) hrest
      exact ⟨h, u, status, location, body, t, rfl, ht, hhttp⟩
    next hhttp =>
      obtain ⟨rfl, ho, -⟩ := hrest.of_done
      cases ho
      exact .astray hbefore ht (Bool.eq_false_iff.mpr hhttp)

end Follow

theorem ended_get {h : Headers} {url : String} (hc : (get timed h url).Course law s es (some r) s') :
    Ended timed (turns es) r := by
  have hunbuilt : ∀ url cause, Plan.Course law (.done (.error (.unbuilt url cause))) s es (some r) s' →
      Ended timed (turns es) r := by
    intro url cause h
    obtain ⟨rfl, ho, -⟩ := h.of_done
    cases ho
    exact .unbuilt
  unfold get at hc
  cases hread : Url.read url with
  | error e =>
    rw [hread] at hc
    exact hunbuilt _ _ hc
  | ok u =>
    rw [hread] at hc
    dsimp only at hc
    split at hc
    · exact hunbuilt _ _ hc
    · split at hc
      · exact hunbuilt _ _ hc
      · split at hc
        · exact hunbuilt _ _ hc
        · exact ended_follow (List.forall_mem_nil _) rfl hc

theorem ended_run (serve : (c : kernel.Call) → σ → kernel.Reply c × σ) (timed : Bool) (h : Headers) (url : String) (s : σ) :
    Ended timed (((get timed h url).trace serve s).filterMap turn?) ((get timed h url).run serve s).1 := by
  rw [Plan.trace_eq_events]
  let anything : Law kernel σ := fun _ _ _ _ => True
  let anywhere : σ → Prop := fun _ => True
  have hany : ∀ c s, anywhere s → anything c s (serve c s).1 (serve c s).2 ∧ anywhere (serve c s).2 :=
    fun _ _ _ => ⟨trivial, trivial⟩
  have hs : anywhere s := trivial
  exact ended_get (Plan.course_run hany (get timed h url) hs).1

section Last

variable {all : List Turn} {status : Nat} {location : Option String} {body : Body}

theorem target?_of_stays {u : Url} (h : isRedirect status = false) : target? u status location = none := by
  cases location <;> simp [target?, h]

theorem Ended.of_stays (h : Ended timed all r)
    (hlast : (all.map Prod.snd).getLast? = some (.head status location body)) (hstays : isRedirect status = false) :
    ∃ u, r = .ok ⟨u, status, body⟩ := by
  have hsnoc : ∀ {before : List Turn} {r : Request} {a : Answer},
      ((before ++ [(r, a)]).map Prod.snd).getLast? = some (.head status location body) → a = .head status location body := by
    intro before r a h
    simpa using h
  cases h with
  | unbuilt => cases hlast
  | closed => cases hsnoc hlast
  | silence => cases hsnoc hlast
  | astray _ led =>
    cases hsnoc hlast
    rw [target?_of_stays hstays] at led
    cases led
  | endless _ led =>
    cases hsnoc hlast
    rw [target?_of_stays hstays] at led
    cases led
  | heard =>
    cases hsnoc hlast
    exact ⟨_, rfl⟩

theorem Ended.unending_iff (h : Ended timed all r) :
    (∃ url, r = .error (.unending url)) ↔ timed = false ∧ (all.map Prod.snd).getLast? = some .silence := by
  cases h with
  | silence =>
    cases timed with
    | false => exact iff_of_true ⟨_, rfl⟩ ⟨rfl, by simp⟩
    | true => exact iff_of_false nofun nofun
  | unbuilt => exact iff_of_false nofun nofun
  | _ => exact iff_of_false nofun fun hlast => by simp at hlast

theorem Ended.last {r : Response} (h : Ended timed all (.ok r)) :
    ∃ location, (all.map Prod.snd).getLast? = some (.head r.status location r.body) := by
  cases h with
  | @heard _ _ _ _ location => exact ⟨location, by simp⟩

end Last

end Http

end Provision
