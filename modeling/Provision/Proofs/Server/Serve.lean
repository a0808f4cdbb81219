import Provision.Proofs.Server.Install

/-!
Starts that hand the binary out as it is, because the version they know of is the one that is wanted. What
they hand out was left by an install of that version, unless the binary was removed since then for another
version and the version in the record was not.
-/

set_option autoImplicit false

namespace Provision.Server

def inquires : Setup.Call → Bool
  | .confirm _ _ => true
  | .fetch _ => true
  | _ => false

/-- The latest completed install of a version left this at the place of the binary, and that has happened since. -/
def Latest (L : Lodging) (H : History) (w : String) (x : Option Node) (since : History) : Prop :=
  ∃ before st es, H = before ++ by_ st es ++ since ∧ st.version = w ∧ Installed L st es x ∧
    ∀ A st' es' B x', since = A ++ by_ st' es' ++ B → st'.version = w → ¬ Installed L st' es' x'

section Serve

variable {L : Lodging} {H : History} {d d' : Disk} {st : Start} {es : List (Event setup Disk)} {s : Store}

theorem Backed.latest {w : String} (h : Backed L H d w) :
    ∃ x since, Latest L H w x since ∧ ((∃ p ∈ since, Removes L p.2 ∧ (p.1.version = w → p.1.memory ≠ none)) ∨
      d.get? L.binary = x ∨ d.get? L.binary = none) := by
  obtain ⟨A, st, es, B, x, rfl, hw, hi, hB, hx⟩ := h
  refine ⟨x, B, ⟨A, st, es, rfl, hw, hi, ?_⟩, ?_⟩
  · rintro A' st' es' B' x' rfl hw' hi'
    obtain ⟨before, e, rfl, hc, -⟩ := hi'.last
    have hmem : (st', e) ∈ A' ++ by_ st' (before ++ [e]) ++ B' := by simp [by_]
    exact (hB _ hmem hw').1 hc
  · obtain ⟨p, hp, hr⟩ | hx := hx
    · exact .inl ⟨p, hp, hr, fun hv => (hB p hp hv).2 hr⟩
    · exact .inr hx

theorem installing_inquires {tag binary : String} {r : Except Error Path × Store}
    (hc : ((Script.installing st.settings st.site st.tool tag binary L.dest s).lower Deed.plan).Course (law L) d es
      (some r) d') : ∃ e ∈ es, inquires e.call = true := by
  obtain ⟨a, t, es₁, es₂, rfl, hf, -⟩ := hc.of_lower_ask_some
  obtain rfl := Plan.Course.call_events hf
  exact ⟨_, List.mem_append_left _ (List.mem_singleton_self _), rfl⟩

theorem deciding_inquires {tag binary : String} {r : Except Error Path × Store}
    (hv : s.record.serverVersion ≠ some st.version)
    (hc : ((Script.deciding st.settings st.site st.tool tag binary L.dest s).lower Deed.plan).Course (law L) d es
      (some r) d') : ∃ e ∈ es, inquires e.call = true := by
  unfold Script.deciding at hc
  rw [if_neg (show ¬ s.record.serverVersion = some st.settings.package.version from hv)] at hc
  by_cases ha : st.settings.updates.ask = true
  · rw [if_pos ha] at hc
    obtain ⟨a, t, es₁, es₂, rfl, hf, -⟩ := hc.of_lower_ask_some
    obtain rfl := Plan.Course.call_events hf
    exact ⟨_, List.mem_append_left _ (List.mem_singleton_self _), rfl⟩
  · rw [if_neg ha] at hc
    exact installing_inquires hc

theorem script_current (h : L.Lodged d) (suits : Suits L st) (override : st.site.serverPath = none)
    (tag : st.settings.package.releaseTag ≠ none) {p : Path} {s' : Store}
    (hc : ((script st.settings st.site st.tool s).lower Deed.plan).Course (law L) d es (some (.ok p, s')) d')
    (unasked : ∀ e ∈ es, inquires e.call = false) :
    p = L.dest ∧ d' = d ∧ s.record.serverVersion = some st.version ∧ d.get? L.binary ≠ none := by
  obtain ⟨tag, htag⟩ := Option.ne_none_iff_exists'.mp tag
  simp only [script, override, htag, suits.platform, placeOf_eq L suits.storage] at hc
  obtain ⟨there, t, es₁, es₂, rfl, hlook, hrest⟩ := hc.of_lower_ask_some
  obtain ⟨rfl, -, hthere⟩ := course_look st h hlook
  have hquiet : ¬ ∃ e ∈ es₂, inquires e.call = true := by
    rintro ⟨e, he, hi⟩
    rw [unasked e (List.mem_append_right _ he)] at hi
    cases hi
  cases there with
  | true =>
    by_cases hv : s.record.serverVersion = some st.version
    · change ((Script.deciding st.settings st.site st.tool tag L.platform.binary L.dest s).lower Deed.plan).Course
        (law L) t es₂ (some (.ok p, s')) d' at hrest
      unfold Script.deciding at hrest
      rw [if_pos (show s.record.serverVersion = some st.settings.package.version from hv)] at hrest
      obtain ⟨-, ho, rfl⟩ := Plan.Course.of_done hrest
      cases ho
      exact ⟨rfl, rfl, hv, hthere rfl⟩
    · exact absurd (deciding_inquires hv hrest) hquiet
  -- without the binary the version is forgotten, if there was one, and then somebody is asked
  | false =>
    change Plan.Course _ ((if s.record.serverVersion.isSome = true then _ else _ : Script).lower _) _ _ _ _ at hrest
    by_cases hsome : s.record.serverVersion.isSome = true
    · rw [if_pos hsome] at hrest
      obtain ⟨r, u, es₃, es₄, rfl, -, hdecide⟩ := Plan.Course.of_lower_ask_some hrest
      cases r with
      | error e =>
        obtain ⟨-, ho, -⟩ := Plan.Course.of_done hdecide
        cases ho
      | ok _ =>
        obtain ⟨e, he, hi⟩ := deciding_inquires (s := stamped s none) nofun hdecide
        exact absurd ⟨e, List.mem_append_right _ he, hi⟩ hquiet
    · rw [if_neg hsome] at hrest
      have hv : s.record.serverVersion ≠ some st.version := by
        intro he
        rw [he] at hsome
        exact hsome rfl
      exact absurd (deciding_inquires hv hrest) hquiet

/-- The binary that is handed out without a question or a fetch is the one that the latest completed install of
the wanted version left, unless it was removed since then, by a start for another version or by one that went on
with a record in memory. -/
theorem served_of_installed {allowed : Start → Prop} {mem : Option Store} (h : Reached L allowed H d mem)
    (suits : Suits L st) (memory : st.memory = none ∨ st.memory = mem) (override : st.site.serverPath = none)
    (tag : st.settings.package.releaseTag ≠ none) {p : Path} {r : Option Store}
    (course : st.plan.Course (law L) d es (some (.ok p, r)) d') (unasked : ∀ e ∈ es, inquires e.call = false) :
    p = L.dest ∧ d' = d ∧ d.get? L.binary ≠ none ∧ ∃ x since, Latest L H st.version x since ∧
      (d.get? L.binary = x ∨
        ∃ p ∈ since, Removes L p.2 ∧ (p.1.version = st.version → p.1.memory ≠ none)) := by
  obtain ⟨-, -, ho⟩ | ⟨s, es₁, es₂, rfl, -, hheld, -, hrest⟩ := start_cases (held_of_reached h) suits memory course
  · obtain ho | ⟨e, ho⟩ := ho <;> cases ho
  rw [plan_get] at hrest
  obtain ⟨ho, -⟩ | ⟨a, t, es₃, es₄, rfl, hscript, hdone⟩ := hrest.of_bind
  · cases ho
  obtain ⟨rfl, ho, rfl⟩ := hdone.of_done
  obtain ⟨q, s'⟩ := a
  cases ho
  have hquiet : ∀ e ∈ es₃, inquires e.call = false := fun e he => unasked e (by simp [he])
  obtain ⟨rfl, rfl, hv, hthere⟩ := script_current hheld.lodged suits override tag hscript hquiet
  obtain ⟨x, since, hlatest, hx⟩ := ((hheld.memory s rfl).2 st.version hv).latest
  refine ⟨rfl, rfl, hthere, x, since, hlatest, ?_⟩
  obtain hr | hx | hn := hx
  · exact .inr hr
  · exact .inl hx
  · exact absurd hn hthere

end Serve

section Switch

open Trial

/-- The disk after a start for one version, and after one for another version whose patch failed. -/
def firstDisk : Disk := good₀.after (start₀ "1" true) disk₀
def secondDisk : Disk := bad₀.after (start₀ "2" true) firstDisk

def firstEvents : List (Event setup Disk) := (start₀ "1" true).plan.events good₀.serve disk₀
def secondEvents : List (Event setup Disk) := (start₀ "2" true).plan.events bad₀.serve firstDisk
def thirdEvents : List (Event setup Disk) := (start₀ "1" true).plan.events good₀.serve secondDisk

def switchHistory : History := by_ (start₀ "1" true) firstEvents ++ by_ (start₀ "2" true) secondEvents

theorem reached_switch : ∃ mem, Reached lodging₀ (fun st => st.memory = none) switchHistory secondDisk mem := by
  have hfresh : Reached good₀.lodging (fun st => st.memory = none) [] disk₀ none := .fresh fresh_disk₀
  obtain ⟨h₁, hd₁⟩ := reached_start hfresh fresh_disk₀.lodged (suits_start₀ "1" true) rfl rfl
  obtain ⟨h₂, -⟩ := reached_start (T := bad₀) h₁ hd₁ (suits_start₀ "2" true) rfl rfl
  exact ⟨_, h₂⟩

set_option maxRecDepth 100000 in
theorem course_switch : ∃ r d, (start₀ "1" true).plan.Course (law lodging₀) secondDisk thirdEvents
    (some (.ok lodging₀.dest, r)) d := by
  obtain ⟨mem, hreached⟩ := reached_switch
  have hlodged : good₀.lodging.Lodged secondDisk := (held_of_reached hreached).lodged
  obtain ⟨hc, -⟩ := Plan.course_run good₀.lawful (start₀ "1" true).plan hlodged
  have hpath : ((start₀ "1" true).plan.run good₀.serve secondDisk).1.1.toOption = some lodging₀.dest := by decide +kernel
  generalize (start₀ "1" true).plan.run good₀.serve secondDisk = run at hc hpath
  obtain ⟨⟨a, r⟩, d⟩ := run
  cases a with
  | error e => cases hpath
  | ok p =>
    cases hpath
    exact ⟨r, d, hc⟩

set_option maxRecDepth 100000 in
theorem unasked_switch : ∀ e ∈ thirdEvents, inquires e.call = false := by
  have h : (thirdEvents.all fun e => !inquires e.call) = true := by decide +kernel
  simpa using h

theorem served_of_installed_switch : ∃ x since, Latest lodging₀ switchHistory "1" x since ∧
    (secondDisk.get? lodging₀.binary = x ∨
      ∃ p ∈ since, Removes lodging₀ p.2 ∧ (p.1.version = "1" → p.1.memory ≠ none)) := by
  obtain ⟨mem, hreached⟩ := reached_switch
  obtain ⟨r, d, hc⟩ := course_switch
  exact (served_of_installed hreached (suits_start₀ "1" true) (.inl rfl) rfl nofun hc unasked_switch).2.2.2

set_option maxRecDepth 100000 in
/-- A start for the first version is handed what the failed start for the second version has left. -/
theorem switch_serves_other :
    (∃ mem, Reached lodging₀ (fun st => st.memory = none) switchHistory secondDisk mem) ∧
      (∃ r d, (start₀ "1" true).plan.Course (law lodging₀) secondDisk thirdEvents (some (.ok lodging₀.dest, r)) d) ∧
      (∀ e ∈ thirdEvents, inquires e.call = false) ∧
      ∀ x since, Latest lodging₀ switchHistory "1" x since → secondDisk.get? lodging₀.binary ≠ x := by
  refine ⟨reached_switch, course_switch, unasked_switch, ?_⟩
  rintro x since ⟨before, st, es, hH, hv, hi, -⟩ rfl
  obtain ⟨es', e, rfl, -, he⟩ := hi.last
  have hmem : (st, e) ∈ switchHistory := by
    rw [hH]
    simp [by_]
  have hfirst : (firstEvents.all fun e => e.after.get? lodging₀.binary ≠ secondDisk.get? lodging₀.binary) = true := by
    decide +kernel
  obtain hmem | hmem := List.mem_append.mp hmem
  · obtain ⟨e', he', heq⟩ := List.mem_map.mp hmem
    cases heq
    have hne := List.all_eq_true.mp hfirst e he'
    exact of_decide_eq_true hne he.symm
  · obtain ⟨e', -, heq⟩ := List.mem_map.mp hmem
    cases heq
    exact absurd hv (by decide)

end Switch

end Provision.Server
