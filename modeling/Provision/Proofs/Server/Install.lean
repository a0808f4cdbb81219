import Provision.Proofs.Store
import Provision.Proofs.Server.Trial

/-!
The version in the record and the binary beside it. Every deed of finding the server keeps them together,
wherever the process is killed and whatever fails: a recorded version has a completed install behind it, and
what that install left is there until a start for another version removes it.
-/

set_option autoImplicit false

namespace Provision.Server

variable {L : Lodging} {d d' : Disk} {st : Start} {es : List (Event setup Disk)}

section Deeds

/-- The calls that neither remove the binary nor have to do with the end of an install. -/
def Calm (c : setup.Call) : Prop :=
  (∀ p, c ≠ .kernel (.unlink p)) ∧ ∀ url dest mode label, c ≠ .download url dest mode label

/-- Events that neither remove the binary nor complete an install. -/
def Quiet (L : Lodging) (st : Start) (es : List (Event setup Disk)) : Prop :=
  ∀ e ∈ es, ¬ Removes L e ∧ ¬ Completes L st e

theorem Quiet.removes (h : Quiet L st es) : ∀ e ∈ es, ¬ Removes L e := fun e he => (h e he).1

theorem Quiet.completes (h : Quiet L st es) : ∀ e ∈ es, ¬ Completes L st e := fun e he => (h e he).2

theorem not_removes_of_call {e : Event setup Disk} (h : e.call ≠ .kernel (.unlink L.dest)) : ¬ Removes L e := by
  rintro ⟨r, t, rfl, -⟩
  exact h rfl

theorem Completes.call {e : Event setup Disk} (h : Completes L st e) :
    e.call = .kernel (.unlink (Patch.aside L.dest)) ∨ ∃ url mode label, e.call = .download url L.dest mode label := by
  obtain ⟨-, e', rfl, t, rfl⟩ | ⟨-, url, mode, label, d, rfl⟩ := h
  · exact .inl rfl
  · exact .inr ⟨url, mode, label, rfl⟩

theorem quiet_of_uses {α : Type} {p : Plan setup α} {o : Option α} (hp : p.Uses (I := setup) Calm)
    (hc : p.Course (law L) d es o d') : Quiet L st es := by
  intro e he
  obtain ⟨hu, hd⟩ := hc.uses hp e he
  refine ⟨not_removes_of_call (hu _), fun h => ?_⟩
  obtain h | ⟨url, mode, label, h⟩ := h.call
  · exact hu _ h
  · exact hd _ _ _ _ h

theorem course_call {c : setup.Call} (hc : Calm c) (hlaw : ∀ r t, law L c d r t → t = d)
    {o : Option (setup.Reply c)} (h : (Plan.call c).Course (law L) d es o d') : d' = d ∧ Quiet L st es := by
  have huses : (Plan.call c).Uses (I := setup) Calm := ⟨hc, fun _ => trivial⟩
  refine ⟨?_, quiet_of_uses huses h⟩
  obtain ⟨-, -, rfl | ⟨r, hl⟩⟩ | ⟨r, -, -, hl⟩ := h.of_call
  · rfl
  · exact hlaw r d' hl
  · exact hlaw r d' hl

theorem course_look (st : Start) (h : L.Lodged d) {o : Option Bool}
    (hc : (Deed.plan (.look L.dest)).Course (law L) d es o d') :
    d' = d ∧ Quiet L st es ∧ (o = some true → d.get? L.binary ≠ none) := by
  have huses : (Kernel.exists_ L.dest).Uses (I := kernel) fun c => c = .inspect L.dest := by
    refine ⟨rfl, fun r => ?_⟩
    cases r <;> exact trivial
  have hquiet : Quiet L st es := quiet_of_uses (Setup.uses_ofKernel (huses.mono (by rintro c rfl; simp [Calm]))) hc
  obtain ⟨es', rfl, hc'⟩ := Setup.course_ofKernel hc
  obtain ⟨rfl, rfl, rfl | ⟨r, rfl, -⟩⟩ | ⟨r, t, es'', rfl, ⟨rfl, hr⟩, hrest⟩ := hc'.of_ask
  · exact ⟨rfl, hquiet, nofun⟩
  · exact ⟨rfl, hquiet, nofun⟩
  · cases r with
    | error e =>
      obtain ⟨-, rfl, rfl⟩ := hrest.of_done
      exact ⟨rfl, hquiet, nofun⟩
    | ok kind =>
      obtain ⟨-, rfl, rfl⟩ := hrest.of_done
      refine ⟨rfl, hquiet, fun _ => ?_⟩
      obtain hr | ⟨e, he⟩ := hr
      · exact h.inspect hr.symm
      · cases he

theorem course_save (st : Start) (h : L.Lodged d) {s : Store} (hp : s.path = L.statePath) {o : Option (Except Error Unit)}
    (hc : (Deed.plan (.save s)).Course (law L) d es o d') : Lodging.Lodged.Saved L s d o d' ∧ Quiet L st es := by
  have hquiet : Quiet L st es :=
    quiet_of_uses (Setup.uses_ofKernel (s.uses_save.mono fun c hu => ⟨by simpa using hu, by simp⟩)) hc
  obtain ⟨es', rfl, hc'⟩ := Setup.course_ofKernel hc
  exact ⟨h.save hp hc', hquiet⟩

theorem unlink_law (h : L.Lodged d) {r : kernel.Reply (.unlink L.dest)} (hl : Kernel.law L.cwd L.Spares (.unlink L.dest) d r d') :
    L.Spares d d' ∧ ((r = .ok () ∧ d'.get? L.binary = none) ∨ (∃ e, r = .error e ∧ d'.get? L.binary = d.get? L.binary ∧
      (e.isMissing = true → d'.get? L.binary = none))) := by
  obtain ⟨⟨e, rfl, rfl⟩ | ⟨u, rfl, hu⟩, hm⟩ := hl
  · refine ⟨.refl h, .inr ⟨e, rfl, rfl, fun he => ?_⟩⟩
    exact h.unlink_missing L.plain_binary (by simp [Lodging.names]) (hm e rfl he) he
  · refine ⟨h.unlink_spares (.inl rfl) hu, .inl ⟨rfl, ?_⟩⟩
    obtain ⟨rfl, -⟩ := h.unlink L.plain_binary hu
    rw [Disk.get?_erase d (by simp)]
    exact if_pos rfl

theorem course_remove (st : Start) (h : L.Lodged d) {o : Option (Except Fault Unit)}
    (hc : (Deed.plan (.remove L.dest)).Course (law L) d es o d') :
    L.Spares d d' ∧ (∀ e ∈ es, ¬ Completes L st e) ∧ ((o = some (.ok ()) ∧ ∃ e ∈ es, Removes L e) ∨
      (o ≠ some (.ok ()) ∧ (∀ e ∈ es, ¬ Removes L e) ∧
        (d'.get? L.binary = d.get? L.binary ∨ d'.get? L.binary = none))) := by
  -- a removal is no part of an install
  have hcomp : ∀ e ∈ es, ¬ Completes L st e := by
    intro e he hcm
    have hcall := hc.uses (Deed.uses_remove L.dest) e he
    obtain h | ⟨url, mode, label, h⟩ := hcm.call
    · rw [hcall] at h
      exact L.dest_ne_aside (by simpa using h)
    · rw [hcall] at h
      cases h
  obtain ⟨es', rfl, hc'⟩ := Setup.course_ofKernel hc
  obtain ⟨rfl, rfl, rfl | ⟨r, hl⟩⟩ | ⟨r, t, es'', rfl, hl, hrest⟩ := hc'.of_ask
  · exact ⟨.refl h, hcomp, .inr ⟨(fun ho => by cases ho), by simp, .inl rfl⟩⟩
  · obtain ⟨hs, hcut⟩ := unlink_law h hl
    refine ⟨hs, hcomp, .inr ⟨(fun ho => by cases ho), by simp, ?_⟩⟩
    obtain ⟨-, hn⟩ | ⟨e, -, he, -⟩ := hcut
    · exact .inr hn
    · exact .inl he
  obtain ⟨hs, ⟨rfl, hn⟩ | ⟨e, rfl, hkept, hn⟩⟩ := unlink_law h hl
  · obtain ⟨rfl, rfl, rfl⟩ := hrest.of_done
    exact ⟨hs, hcomp, .inl ⟨rfl, _, List.mem_cons_self .., .ok (), d', rfl, (fun _ he => by cases he), hn⟩⟩
  · change Plan.Course _ (if e.isMissing = true then Plan.done (Except.ok ()) else Plan.done (Except.error e)) t es''
      o d' at hrest
    by_cases he : e.isMissing = true
    · rw [if_pos he] at hrest
      obtain ⟨rfl, rfl, rfl⟩ := hrest.of_done
      refine ⟨hs, hcomp, .inl ⟨rfl, _, List.mem_cons_self .., .error e, d', rfl, ?_, hn he⟩⟩
      rintro f ⟨⟩
      exact he
    · rw [if_neg he] at hrest
      obtain ⟨rfl, rfl, rfl⟩ := hrest.of_done
      refine ⟨hs, hcomp, .inr ⟨(fun ho => by cases ho), ?_, .inl hkept⟩⟩
      intro e' he' hr
      obtain rfl := List.mem_singleton.mp he'
      obtain ⟨r', t', hev, hmissing, -⟩ := hr
      cases hev
      exact he (hmissing e rfl)

theorem course_patch (st : Start) (h : L.Lodged d) {tool : Path} {o : Option (Except Error Unit)}
    (hc : (Deed.plan (.patch tool L.dest)).Course (law L) d es o d') :
    L.Spares d d' ∧ (∀ e ∈ es, ¬ Removes L e) ∧ (o ≠ some (.ok ()) → ∀ e ∈ es, ¬ Completes L st e) := by
  have huses : (Deed.plan (.patch tool L.dest)).Uses (I := setup) fun c =>
      ∃ c', c = .kernel c' ∧ Patch.Makes tool L.dest c' :=
    Setup.uses_ofKernel ((Patch.uses_patch tool L.dest).mono fun c hm => ⟨c, rfl, hm⟩)
  have hremoves : ∀ e ∈ es, ¬ Removes L e := by
    intro e he
    obtain ⟨c, hcall, hm⟩ := hc.uses huses e he
    refine not_removes_of_call fun hu => ?_
    obtain rfl : c = .unlink L.dest := by simpa [hcall] using hu
    obtain hm | hm | hm | ⟨e, hm⟩ | ⟨args, input, hm⟩ := hm
    · cases hm
    · cases hm
    · exact L.dest_ne_aside (by simpa using hm)
    · cases hm
    · cases hm
  obtain ⟨es', rfl, hc'⟩ := Setup.course_ofKernel hc
  refine ⟨h.patch (fun _ _ _ hs => hs) hc', hremoves, fun ho e he hcm => ?_⟩
  obtain ⟨hok, -⟩ | ⟨-, hn⟩ := Patch.course_ends hc'
  · exact ho hok
  obtain ⟨e', he', rfl⟩ := List.mem_map.mp he
  obtain ⟨-, e'', hev, hclean⟩ | ⟨-, url, mode, label, t, hev⟩ := hcm
  · obtain rfl := Setup.ofEvent_injective hev
    exact hn _ he' hclean
  · cases congrArg Event.call hev

end Deeds

def Claims (L : Lodging) (d : Disk) (w : String) : Prop := ∃ r, L.stored d = some r ∧ r.serverVersion = some w

/-- What is true between any two calls: the versions on disk and in memory have an install behind them. -/
structure Held (L : Lodging) (H : History) (d : Disk) (mem : Option Store) : Prop where
  lodged : L.Lodged d
  lone : d.Lone L.draft
  claims : ∀ w, Claims L d w → Backed L H d w
  memory : ∀ s, mem = some s → s.path = L.statePath ∧ ∀ w, s.record.serverVersion = some w → Backed L H d w

/-- Behind a removal the versions are backed whatever becomes of the binary. -/
structure Cleared (L : Lodging) (H : History) (d : Disk) (s : Store) : Prop where
  lodged : L.Lodged d
  lone : d.Lone L.draft
  claims : ∀ w, Claims L d w → Gone L H w
  path : s.path = L.statePath
  memory : ∀ w, s.record.serverVersion = some w → Gone L H w

section Invariant

variable {H : History} {s : Store} {mem : Option Store}

theorem Claims.of_stored {w : String} (h : L.stored d' = L.stored d) (hc : Claims L d' w) : Claims L d w := by
  obtain ⟨r, hr, hw⟩ := hc
  exact ⟨r, h ▸ hr, hw⟩

theorem Held.forget (h : Held L H d mem) : Held L H d none where
  lodged := h.lodged
  lone := h.lone
  claims := h.claims
  memory := by simp

theorem Held.quiet (h : Held L H d mem) (hs : L.Spares d d')
    (hb : d'.get? L.binary = d.get? L.binary ∨ d'.get? L.binary = none) (hq : Quiet L st es) :
    Held L (H ++ by_ st es) d' mem where
  lodged := hs.lodged
  lone := hs.lone h.lone
  claims := fun w hw =>
    (h.claims w (hw.of_stored (Lodging.Lodged.stored_congr hs.record))).quiet hq.removes (fun _ => hq.completes) hb
  memory := fun s hm =>
    ⟨(h.memory s hm).1, fun w hw => ((h.memory s hm).2 w hw).quiet hq.removes (fun _ => hq.completes) hb⟩

theorem Held.same (h : Held L H d mem) (hq : Quiet L st es) : Held L (H ++ by_ st es) d mem :=
  h.quiet (.refl h.lodged) (.inl rfl) hq

theorem Cleared.held (h : Cleared L H d s) : Held L H d (some s) where
  lodged := h.lodged
  lone := h.lone
  claims := fun w hw => h.claims w hw d
  memory := by
    rintro s ⟨⟩
    exact ⟨h.path, fun w hw => h.memory w hw d⟩

theorem Cleared.spares (h : Cleared L H d s) (hs : L.Spares d d') (hq : Quiet L st es) :
    Cleared L (H ++ by_ st es) d' s where
  lodged := hs.lodged
  lone := hs.lone h.lone
  claims := fun w hw =>
    (h.claims w (hw.of_stored (Lodging.Lodged.stored_congr hs.record))).quiet hq.removes fun _ => hq.completes
  path := h.path
  memory := fun w hw => (h.memory w hw).quiet hq.removes fun _ => hq.completes

theorem Cleared.installed (h : Cleared L H d s) (hs : L.Spares d d') (hr : ∀ e ∈ es, ¬ Removes L e)
    (hi : Installed L st es (d'.get? L.binary)) : Held L (H ++ by_ st es) d' (some s) := by
  have hback : ∀ w, Gone L H w → Backed L (H ++ by_ st es) d' w := by
    intro w hw
    by_cases hv : st.version = w
    · -- this install is now the latest of its version
      rw [← hv]
      exact hi.backed
    · exact hw.quiet hr (fun he => absurd he hv) d'
  refine ⟨hs.lodged, hs.lone h.lone,
    fun w hw => hback w (h.claims w (hw.of_stored (Lodging.Lodged.stored_congr hs.record))), ?_⟩
  rintro s ⟨⟩
  exact ⟨h.path, fun w hw => hback w (h.memory w hw)⟩

theorem Held.saved (h : Held L H d (some s)) {o : Option (Except Error Unit)}
    (hs : Lodging.Lodged.Saved L s d o d') (hq : Quiet L st es) : Held L (H ++ by_ st es) d' (some s) := by
  have hbinary : d'.get? L.binary = d.get? L.binary :=
    hs.same _ (Lodging.Lodged.binary_ne_record L) (Lodging.Lodged.binary_ne_draft L)
      (h.lone.not_twins (Lodging.Lodged.binary_ne_draft L))
  have hback : ∀ w, Backed L H d w → Backed L (H ++ by_ st es) d' w :=
    fun w hw => hw.quiet hq.removes (fun _ => hq.completes) (.inl hbinary)
  refine ⟨hs.lodged, hs.lone h.lone, fun w hw => ?_, ?_⟩
  · obtain ⟨hr, -⟩ | ⟨hr, -⟩ := hs.stored h.lone
    · exact hback w (h.claims w (hw.of_stored hr))
    · obtain ⟨r, hr', hw⟩ := hw
      obtain rfl : s.record = r := Option.some.inj (hr.symm.trans hr')
      exact hback w ((h.memory s rfl).2 w hw)
  · rintro s ⟨⟩
    exact ⟨(h.memory s rfl).1, fun w hw => hback w ((h.memory s rfl).2 w hw)⟩

def Upholds (L : Lodging) (st : Start) (H : History) (d : Disk) (p : Script) : Prop :=
  ∀ es d' o, (p.lower Deed.plan).Course (law L) d es o d' → Held L (H ++ by_ st es) d' (o.map (·.2))

theorem upholds_done (h : Held L H d (some s)) (r : Except Error Path) : Upholds L st H d (.done (r, s)) := by
  intro es d' o hc
  obtain ⟨rfl, rfl, rfl⟩ := Plan.Course.of_done hc
  simpa using h

theorem upholds_ask {deed : Deed} {k : deed.Reply → Script}
    (killed : ∀ es d', deed.plan.Course (law L) d es none d' → Held L (H ++ by_ st es) d' none)
    (next : ∀ es d' r, deed.plan.Course (law L) d es (some r) d' → Upholds L st (H ++ by_ st es) d' (k r)) :
    Upholds L st H d (.ask (I := deeds) deed k) := by
  intro es d' o hc
  obtain ⟨rfl, hk⟩ | ⟨r, t, es₁, es₂, rfl, hr, hrest⟩ := hc.of_lower_ask
  · exact killed es d' hk
  · have hn := next es₁ t r hr es₂ d' o hrest
    simpa using hn

theorem upholds_saving {next : Script} (h : Held L H d (some s))
    (hnext : ∀ es t, Held L (H ++ by_ st es) t (some s) → L.stored t = some s.record →
      Upholds L st (H ++ by_ st es) t next) : Upholds L st H d (Script.saving s next) := by
  refine upholds_ask (fun es t hk => ?_) fun es t r hr => ?_
  · obtain ⟨hs, hq⟩ := course_save st h.lodged (h.memory s rfl).1 hk
    exact (h.saved hs hq).forget
  · obtain ⟨hs, hq⟩ := course_save st h.lodged (h.memory s rfl).1 hr
    have hheld : Held L (H ++ by_ st es) t (some s) := h.saved hs hq
    cases r with
    | error e => exact upholds_done hheld _
    | ok u =>
      refine hnext es t hheld ?_
      obtain ⟨-, ho⟩ | ⟨hstored, -⟩ := hs.stored h.lone
      · exact absurd rfl ho
      · exact hstored

def Still (L : Lodging) (d : Disk) (deed : Deed) : Prop :=
  ∀ st es o d', deed.plan.Course (law L) d es o d' → d' = d ∧ Quiet L st es

theorem still_log (text : String) : Still L d (.log text) := by
  intro st es o d' hc
  have hlaw : ∀ r t, law L (.kernel (.log ⟨.info, .server, text⟩)) d r t → t = d := fun _ _ h => h
  exact course_call (by simp [Calm]) hlaw hc

theorem still_fetch (tag : String) : Still L d (.fetch tag) := by
  intro st es o d' hc
  have hlaw : ∀ r t, law L (.fetch tag) d r t → t = d := fun _ _ h => h
  exact course_call (by simp [Calm]) hlaw hc

theorem still_confirm (message action : String) : Still L d (.confirm message action) := by
  intro st es o d' hc
  have hlaw : ∀ r t, law L (.confirm message action) d r t → t = d := fun _ _ h => h
  exact course_call (by simp [Calm]) hlaw hc

theorem still_look (h : L.Lodged d) : Still L d (.look L.dest) := by
  intro st es o d' hc
  obtain ⟨hd, hq, -⟩ := course_look st h hc
  exact ⟨hd, hq⟩

theorem upholds_still {deed : Deed} {k : deed.Reply → Script} (hs : Still L d deed) (h : Held L H d mem)
    (next : ∀ es r, Held L (H ++ by_ st es) d mem → Upholds L st (H ++ by_ st es) d (k r)) :
    Upholds L st H d (.ask (I := deeds) deed k) := by
  refine upholds_ask (fun es t hk => ?_) fun es t r hr => ?_
  · obtain ⟨rfl, hq⟩ := hs st es _ t hk
    exact (h.same hq).forget
  · obtain ⟨rfl, hq⟩ := hs st es _ t hr
    exact next es r (h.same hq)

theorem upholds_recording (h : Held L H d (some s)) (hv : Backed L H d st.version) :
    Upholds L st H d (Script.recording st.settings st.site L.dest s) := by
  have h₁ : Held L H d (some (stamped s (some st.version))) := by
    refine ⟨h.lodged, h.lone, h.claims, ?_⟩
    rintro s₁ ⟨⟩
    refine ⟨(h.memory s rfl).1, ?_⟩
    rintro w ⟨⟩
    exact hv
  refine upholds_saving h₁ fun es t h₁' _ => ?_
  have h₂ : Held L (H ++ by_ st es) t (some (checked (stamped s (some st.version)) st.site.now)) := by
    refine ⟨h₁'.lodged, h₁'.lone, h₁'.claims, ?_⟩
    rintro s₂ ⟨⟩
    exact ⟨(h₁'.memory _ rfl).1, (h₁'.memory _ rfl).2⟩
  refine upholds_saving h₂ fun es' t' h₂' _ => ?_
  exact upholds_still (still_log _) h₂' fun _ _ h => upholds_done h _

theorem course_download (st : Start) (h : L.Lodged d) {url : String} {mode : Option Nat} {label : String}
    {o : Option (Except Error Unit)} (hc : (Deed.plan (.download url L.dest mode label)).Course (law L) d es o d') :
    L.Spares d d' ∧ (∀ e ∈ es, ¬ Removes L e) ∧
      (st.site.patches = true ∨ o ≠ some (.ok ()) → ∀ e ∈ es, ¬ Completes L st e) ∧
      ∀ r, o = some r → es = [⟨.download url L.dest mode label, r, d'⟩] := by
  have hremoves : ∀ e ∈ es, ¬ Removes L e := by
    have huses : (Deed.plan (.download url L.dest mode label)).Uses (I := setup)
        fun c => c ≠ .kernel (.unlink L.dest) := ⟨by simp, fun _ => trivial⟩
    exact fun e he => not_removes_of_call (hc.uses huses e he)
  have hlaw : ∀ r t, law L (.download url L.dest mode label) d r t → L.Spares d t := by
    rintro r t (rfl | hl)
    · exact .refl h
    · exact hl
  obtain ⟨rfl, rfl, rfl | ⟨r, hl⟩⟩ | ⟨r, rfl, rfl, hl⟩ := Plan.Course.of_call hc
  · exact ⟨.refl h, hremoves, by simp, nofun⟩
  · exact ⟨hlaw r d' hl, hremoves, by simp, nofun⟩
  · refine ⟨hlaw r d' hl, hremoves, fun hn e he hcm => ?_, ?_⟩
    · obtain rfl := List.mem_singleton.mp he
      obtain ⟨-, e', hev, t, rfl⟩ | ⟨hp, url', mode', label', t, hev⟩ := hcm
      · cases congrArg Event.call hev
      · cases hev
        obtain hp' | ho := hn
        · rw [hp] at hp'
          cases hp'
        · exact ho rfl
    · rintro r' ⟨⟩
      rfl

theorem upholds_downloading (h : Cleared L H d s) (url : String) (mode : Option Nat) (label : String) :
    Upholds L st H d (.ask (I := deeds) (.download url L.dest mode label)
      (Script.orFail s id (Script.patching st.settings st.site st.tool L.dest s))) := by
  refine upholds_ask (fun es t hk => ?_) fun es t r hr => ?_
  · obtain ⟨hs, hq, hcm, -⟩ := course_download st h.lodged hk
    exact (h.spares hs fun e he => ⟨hq e he, hcm (.inr nofun) e he⟩).held.forget
  obtain ⟨hs, hq, hcm, he⟩ := course_download st h.lodged hr
  cases r with
  | error e => exact upholds_done (h.spares hs fun e he => ⟨hq e he, hcm (.inr nofun) e he⟩).held _
  | ok u =>
    have hes := he _ rfl
    change Upholds L st (H ++ by_ st es) t (Script.patching st.settings st.site st.tool L.dest s)
    unfold Script.patching
    -- what completes the install is the patch, if there has to be one, and the download if not
    by_cases hpatch : st.site.patches = true
    · have hcleared : Cleared L (H ++ by_ st es) t s := h.spares hs fun e he => ⟨hq e he, hcm (.inl hpatch) e he⟩
      rw [if_pos hpatch]
      refine upholds_ask (fun es' t' hk => ?_) fun es' t' r hr' => ?_
      · obtain ⟨hs', hq', hcm'⟩ := course_patch st hcleared.lodged hk
        exact (hcleared.spares hs' fun e he => ⟨hq' e he, hcm' nofun e he⟩).held.forget
      · obtain ⟨hs', hq', hcm'⟩ := course_patch st hcleared.lodged hr'
        cases r with
        | error e => exact upholds_done (hcleared.spares hs' fun e he => ⟨hq' e he, hcm' nofun e he⟩).held _
        | ok u =>
          have hinst : Installed L st (es ++ es') (t'.get? L.binary) :=
            ⟨url, mode, label, t, es', t', by rw [hes]; rfl, rfl, .inl ⟨hpatch, hr'⟩⟩
          have hremoves : ∀ e ∈ es ++ es', ¬ Removes L e := by
            intro e he
            obtain he | he := List.mem_append.mp he
            · exact hq e he
            · exact hq' e he
          have hheld := h.installed (hs.trans hs') hremoves hinst
          have hb := hinst.backed (H := H)
          rw [by_append, ← List.append_assoc] at hheld hb
          exact upholds_recording hheld hb
    · rw [if_neg hpatch]
      have hinst : Installed L st es (t.get? L.binary) :=
        ⟨url, mode, label, t, [], t, hes, rfl, .inr ⟨by simpa using hpatch, rfl, rfl⟩⟩
      exact upholds_recording (h.installed hs hq hinst) hinst.backed

/-- What is in memory is not the wanted version, and it is what is on disk unless the start went on with an
older copy. -/
structure Outdated (L : Lodging) (st : Start) (d : Disk) (s : Store) : Prop where
  other : s.record.serverVersion ≠ some st.version
  link : st.memory = none → ∀ w, Claims L d w → s.record.serverVersion = some w

theorem upholds_replacing (h : Held L H d (some s)) (ho : Outdated L st d s) (url : String) :
    Upholds L st H d (Script.replacing st.settings st.site st.tool url L.dest s) := by
  refine upholds_ask (fun es t hk => ?_) fun es t r hr => ?_
  · obtain ⟨hs, hcm, ⟨ho, -⟩ | ⟨-, hq, hb⟩⟩ := course_remove st h.lodged hk
    · cases ho
    · exact (h.quiet hs hb fun e he => ⟨hq e he, hcm e he⟩).forget
  · obtain ⟨hs, hcm, ⟨hok, hrem⟩ | ⟨hfail, hq, hb⟩⟩ := course_remove st h.lodged hr
    · obtain rfl : r = .ok () := Option.some.inj hok
      have hcleared : Cleared L (H ++ by_ st es) t s := by
        refine ⟨hs.lodged, hs.lone h.lone, fun w hw => ?_, (h.memory s rfl).1, fun w hw => ?_⟩
        · have hw' := hw.of_stored (Lodging.Lodged.stored_congr hs.record)
          -- a start that goes by the disk gets here only with another version on it
          refine (h.claims w hw').gone hrem hcm fun he hm => ho.other ?_
          rw [ho.link hm w hw', he]
        · refine ((h.memory s rfl).2 w hw).gone hrem hcm fun he _ => ho.other ?_
          rw [hw, he]
      exact upholds_downloading hcleared url _ _
    · have hheld : Held L (H ++ by_ st es) t (some s) :=
        h.quiet hs hb fun e he => ⟨hq e he, hcm e he⟩
      cases r with
      | ok u => exact absurd rfl hfail
      | error e => exact upholds_done hheld _

theorem upholds_installing (h : Held L H d (some s)) (ho : Outdated L st d s) (tag binary : String) :
    Upholds L st H d (Script.installing st.settings st.site st.tool tag binary L.dest s) := by
  refine upholds_still (still_fetch tag) h fun es r h' => ?_
  cases r with
  | error e => exact upholds_done h' _
  | ok release =>
    dsimp only
    cases release.asset? binary with
    | none => exact upholds_done h' _
    | some asset => exact upholds_replacing h' ho asset.url

theorem upholds_deciding (h : Held L H d (some s))
    (link : st.memory = none → ∀ w, Claims L d w → s.record.serverVersion = some w) (tag binary : String) :
    Upholds L st H d (Script.deciding st.settings st.site st.tool tag binary L.dest s) := by
  unfold Script.deciding
  by_cases hv : s.record.serverVersion = some st.settings.package.version
  · rw [if_pos hv]
    exact upholds_done h _
  rw [if_neg hv]
  have ho : Outdated L st d s := ⟨hv, link⟩
  by_cases ha : st.settings.updates.ask = true
  · rw [if_pos ha]
    refine upholds_still (still_confirm _ _) h fun es r h' => ?_
    cases r with
    | true => exact upholds_installing h' ho tag binary
    | false => exact upholds_still (still_log _) h' fun _ _ h'' => upholds_done h'' _
  · rw [if_neg ha]
    exact upholds_installing h ho tag binary

theorem upholds_looking (h : Held L H d (some s))
    (link : st.memory = none → ∀ w, Claims L d w → s.record.serverVersion = some w) (tag binary : String) :
    Upholds L st H d (Script.looking st.settings st.site st.tool tag binary L.dest s) := by
  refine upholds_still (still_look h.lodged) h fun es r h' => ?_
  cases r with
  | true => exact upholds_deciding h' link tag binary
  | false =>
    change Upholds L st (H ++ by_ st es) d (if s.record.serverVersion.isSome = true then _ else _)
    split
    · have hstamped : Held L (H ++ by_ st es) d (some (stamped s none)) := by
        refine ⟨h'.lodged, h'.lone, h'.claims, ?_⟩
        rintro s' ⟨⟩
        exact ⟨(h'.memory s rfl).1, nofun⟩
      refine upholds_saving hstamped fun es' t h'' hstored => upholds_deciding h'' ?_ tag binary
      rintro - w ⟨r, hr, hw⟩
      rw [hstored] at hr
      cases hr
      exact hw
    · exact upholds_deciding h' link tag binary

theorem upholds_script (h : Held L H d (some s)) (suits : Suits L st)
    (link : st.memory = none → ∀ w, Claims L d w → s.record.serverVersion = some w) :
    Upholds L st H d (script st.settings st.site st.tool s) := by
  unfold script
  cases st.site.serverPath with
  | some path => exact upholds_done h _
  | none =>
    cases st.settings.package.releaseTag with
    | none => exact upholds_done h _
    | some tag =>
      simp only [suits.platform, placeOf_eq L suits.storage]
      exact upholds_looking h link tag _

theorem held_get (h : Held L H d (some s)) (suits : Suits L st)
    (link : st.memory = none → ∀ w, Claims L d w → s.record.serverVersion = some w)
    {o : Option (Except Error Path × Option Store)}
    (hc : (((get st.settings st.site st.tool).plan s).bind fun r => .done (r.1, some r.2)).Course (law L) d es o d') :
    Held L (H ++ by_ st es) d' (o.bind (·.2)) := by
  rw [plan_get] at hc
  obtain ⟨rfl, hk⟩ | ⟨r, t, es₁, es₂, rfl, hr, hrest⟩ := hc.of_bind
  · exact upholds_script h suits link es d' none hk
  · obtain ⟨rfl, rfl, rfl⟩ := hrest.of_done
    have hheld := upholds_script h suits link es₁ _ (some r) hr
    simpa using hheld

theorem start_cases (h : Held L H d mem) (suits : Suits L st) (hm : st.memory = none ∨ st.memory = mem)
    {o : Option (Except Error Path × Option Store)} (hc : st.plan.Course (law L) d es o d') :
    (d' = d ∧ Quiet L st es ∧ (o = none ∨ ∃ e, o = some (.error e, none))) ∨
      ∃ s es₁ es₂, es = es₁ ++ es₂ ∧ Quiet L st es₁ ∧ Held L H d (some s) ∧
        (st.memory = none → ∀ w, Claims L d w → s.record.serverVersion = some w) ∧
        (((get st.settings st.site st.tool).plan s).bind fun r => .done (r.1, some r.2)).Course (law L) d es₂ o d' := by
  unfold Start.plan at hc
  cases hmem : st.memory with
  | some s =>
    rw [hmem] at hc hm
    obtain hm | rfl := hm
    · cases hm
    · exact .inr ⟨s, [], es, rfl, by simp [Quiet], h, nofun, hc⟩
  | none =>
    rw [hmem, suits.storage] at hc
    -- loading neither removes the binary nor installs one
    have hload : ∀ {es o t}, (Setup.ofKernel (Store.load L.statePath).plan).Course (law L) d es o t →
        t = d ∧ Quiet L st es ∧
          ∀ s, o = some (.ok s) → s.path = L.statePath ∧ s.record = (L.stored d).getD .empty := by
      intro es o t hc
      have hq : Quiet L st es := quiet_of_uses (Setup.uses_ofKernel ((Store.uses_load L.statePath).mono fun c hu => ?_)) hc
      · obtain ⟨es', rfl, hc'⟩ := Setup.course_ofKernel hc
        obtain ⟨rfl, hs⟩ := h.lodged.load hc'
        exact ⟨rfl, hq, hs⟩
      · obtain rfl | ⟨e, rfl⟩ := hu <;> simp [Calm]
    obtain ⟨rfl, hk⟩ | ⟨r, t, es₁, es₂, rfl, hr, hrest⟩ := Plan.Course.of_bind hc
    · obtain ⟨rfl, hq, -⟩ := hload hk
      exact .inl ⟨rfl, hq, .inl rfl⟩
    obtain ⟨rfl, hq, hs⟩ := hload hr
    cases r with
    | error e =>
      obtain ⟨rfl, rfl, rfl⟩ := Plan.Course.of_done hrest
      exact .inl ⟨rfl, by simpa using hq, .inr ⟨e, rfl⟩⟩
    | ok s =>
      obtain ⟨hpath, hrecord⟩ := hs s rfl
      -- a record that makes no sense claims no version, as the empty one
      have hclaims : ∀ w, Claims L t w ↔ s.record.serverVersion = some w := by
        intro w
        rw [hrecord, Claims]
        cases L.stored t with
        | none => simp [Record.empty]
        | some r => simp
      have hheld : Held L H t (some s) := by
        refine ⟨h.lodged, h.lone, h.claims, ?_⟩
        rintro s ⟨⟩
        exact ⟨hpath, fun w hw => h.claims w ((hclaims w).mpr hw)⟩
      exact .inr ⟨s, es₁, es₂, rfl, hq, hheld, fun _ w hw => (hclaims w).mp hw, hrest⟩

theorem held_start (h : Held L H d mem) (suits : Suits L st) (hm : st.memory = none ∨ st.memory = mem)
    {o : Option (Except Error Path × Option Store)} (hc : st.plan.Course (law L) d es o d') :
    Held L (H ++ by_ st es) d' (o.bind (·.2)) := by
  obtain ⟨rfl, hq, ho⟩ | ⟨s, es₁, es₂, rfl, hq, hheld, link, hrest⟩ := start_cases h suits hm hc
  · have hnone : o.bind (·.2) = none := by
      obtain rfl | ⟨e, rfl⟩ := ho <;> rfl
    rw [hnone]
    exact (h.same hq).forget
  · have hloaded : Held L (H ++ by_ st es₁) d (some s) := hheld.same hq
    have hget := held_get hloaded suits link hrest
    simpa using hget

theorem held_of_fresh (h : Fresh L d) : Held L [] d none where
  lodged := h.lodged
  lone := Disk.lone_of_none (h.empty _)
  claims := by
    rintro w ⟨r, hr, -⟩
    have hnone : d.get? L.record = none := h.empty _
    simp [Lodging.stored, hnone] at hr
  memory := by simp

theorem held_of_reached {allowed : Start → Prop} (h : Reached L allowed H d mem) : Held L H d mem := by
  induction h with
  | fresh h => exact held_of_fresh h
  | start before suits ok memory course ih => exact held_start ih suits memory course

theorem allowed_of_reached {allowed : Start → Prop} (h : Reached L allowed H d mem) : ∀ p ∈ H, allowed p.1 := by
  induction h with
  | fresh h => simp
  | start before suits ok memory course ih =>
    intro p hp
    obtain hp | hp := List.mem_append.mp hp
    · exact ih p hp
    · obtain ⟨e, -, rfl⟩ := List.mem_map.mp hp
      exact ok

end Invariant

/-- With one version wanted all the time, and every start loading the record: if the record names that version
and something is at the place of the binary, it is what a completed install left there. -/
theorem installed_of_recorded {v : String} {H : History} {d : Disk} {mem : Option Store}
    (h : Reached L (fun st => st.memory = none ∧ st.version = v) H d mem)
    (recorded : Claims L d v) (there : d.get? L.binary ≠ none) :
    ∃ A st es B, H = A ++ by_ st es ++ B ∧ Installed L st es (d.get? L.binary) := by
  obtain ⟨A, st, es, B, x, rfl, -, hi, hB, hx⟩ := (held_of_reached h).claims v recorded
  refine ⟨A, st, es, B, rfl, ?_⟩
  obtain ⟨p, hp, hr⟩ | hx | hx := hx
  · obtain ⟨hmem, hver⟩ := allowed_of_reached h p (List.mem_append_right _ hp)
    exact absurd hmem ((hB p hp hver).2 hr)
  · rwa [hx]
  · exact absurd hx there

set_option maxRecDepth 100000 in
theorem installed_of_recorded_start :
    ∃ A st es B, by_ (Trial.start₀ "1" true) ((Trial.start₀ "1" true).plan.events Trial.good₀.serve Trial.disk₀) =
        A ++ by_ st es ++ B ∧
      Installed Trial.lodging₀ st es (some (.file 1 executableMode "one, patched".toUTF8)) := by
  have hfresh : Reached Trial.good₀.lodging (fun st => st.memory = none ∧ st.version = "1") [] Trial.disk₀ none :=
    .fresh Trial.fresh_disk₀
  obtain ⟨hreached, -⟩ := Trial.reached_start hfresh Trial.fresh_disk₀.lodged (Trial.suits_start₀ "1" true) ⟨rfl, rfl⟩ rfl
  have hversion : (Trial.lodging₀.stored (Trial.good₀.after (Trial.start₀ "1" true) Trial.disk₀)).bind
      (·.serverVersion) = some "1" := by decide +kernel
  have hbinary : (Trial.good₀.after (Trial.start₀ "1" true) Trial.disk₀).get? Trial.good₀.lodging.binary =
      some (.file 1 executableMode "one, patched".toUTF8) := by decide +kernel
  have hi := installed_of_recorded hreached (Option.bind_eq_some_iff.mp hversion) (by simp [hbinary])
  rwa [hbinary] at hi

end Provision.Server
