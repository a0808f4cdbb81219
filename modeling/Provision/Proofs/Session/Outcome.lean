import Provision.Proofs.Session.Damaged

/-!
What a start comes to. It succeeds just if the record is loaded, the server is found from what the nightly step has left
of it, and that server can be started; what goes wrong in the nightly step itself is only logged. Where a start fails
behind its record, the last that the editor hears of it is the message with which it fails.
-/

set_option autoImplicit false

namespace Provision

theorem Exit.isSuccess_iff {e : Exit} : e.isSuccess = true ↔ e = .code 0 := by
  cases e with
  | code n => cases n <;> simp [Exit.isSuccess]
  | signal n => simp [Exit.isSuccess]

namespace Setup

def Call.isHosted : Call → Bool
  | .confirm _ _ => true
  | .warn _ => true
  | .showError _ => true
  | .install _ => true
  | .reload => true
  | _ => false

def Call.showsError : Call → Bool
  | .showError _ => true
  | _ => false

theorem Call.not_showsError_of_not_isHosted {c : Call} (h : c.isHosted = false) : c.showsError = false := by
  cases c <;> simp_all [Call.isHosted, Call.showsError]

theorem ofKernel_unheard {α : Type} (p : Plan kernel α) : (ofKernel p).Uses (I := setup) fun c => c.isHosted = false :=
  uses_ofKernel (Plan.uses_of_all (fun _ => rfl) p)

theorem ofKernel_shows_nothing {α : Type} (p : Plan kernel α) :
    (ofKernel p).Uses (I := setup) fun c => c.showsError = false :=
  (ofKernel_unheard p).mono fun _ => Call.not_showsError_of_not_isHosted

end Setup

theorem Server.get_shows_nothing (settings : Settings) (site : Site) (tool : Path) (s : Store) :
    ((get settings site tool).plan s).Uses (I := setup) fun c => c.showsError = false := by
  rw [plan_get]
  refine Plan.uses_lower (fun deed => ?_) _
  cases deed with
  | confirm message action => exact ⟨rfl, fun _ => trivial⟩
  | fetch tag => exact ⟨rfl, fun _ => trivial⟩
  | download url dest mode label => exact ⟨rfl, fun _ => trivial⟩
  | look dest => exact Setup.ofKernel_shows_nothing _
  | save s => exact Setup.ofKernel_shows_nothing _
  | remove dest => exact Setup.ofKernel_shows_nothing _
  | patch tool dest => exact Setup.ofKernel_shows_nothing _
  | log text => exact Setup.ofKernel_shows_nothing _

namespace Session

open Setup (Call)

variable {σ : Type} {serve : (c : setup.Call) → σ → setup.Reply c × σ} {x : σ}

/-- A program that is asked for its version runs and says that all is well. -/
def Starts (serve : (c : setup.Call) → σ → setup.Reply c × σ) (x : σ) (server : Path) : Prop :=
  ∃ f, (serve (.kernel (.launch server ["--version"] ByteArray.empty)) x).1 = .ok f ∧ f.exit = .code 0

theorem probe_iff (serve : (c : kernel.Call) → σ → kernel.Reply c × σ) (x : σ) (server : Path) :
    ((probe server).run serve x).1 = true ↔
      ∃ f, (serve (.launch server ["--version"] ByteArray.empty) x).1 = .ok f ∧ f.exit = .code 0 := by
  have hlaunch : ((Kernel.launch server ["--version"] ByteArray.empty).run serve x).1 =
      (serve (.launch server ["--version"] ByteArray.empty) x).1 := rfl
  change ((Plan.bind _ _).run serve x).1 = true ↔ _
  rw [Plan.run_bind, hlaunch]
  cases (serve (.launch server ["--version"] ByteArray.empty) x).1 with
  | error e => simp [Plan.run, pure]
  | ok f =>
    refine Exit.isSuccess_iff.trans ⟨fun h => ⟨f, rfl, h⟩, ?_⟩
    rintro ⟨g, ⟨⟩, h⟩
    exact h

theorem run_probe (serve : (c : setup.Call) → σ → setup.Reply c × σ) (x : σ) (server : Path) :
    ((Setup.ofKernel (probe server)).run serve x).1 = true ↔ Starts serve x server := by
  have hlower : (Setup.ofKernel (probe server)).run serve x = (probe server).run (fun c x => serve (.kernel c) x) x :=
    Plan.run_lower _ _ _ _
  rw [hlower]
  exact probe_iff _ _ _

def Mentions (text part : String) : Prop := part.toList <:+: text.toList

theorem mentions_end (front part : String) : Mentions (front ++ part) part := by
  rw [Mentions, String.toList_append]
  exact (List.suffix_append _ _).isInfix

theorem Mentions.more {text part : String} (h : Mentions text part) (back : String) : Mentions (text ++ back) part := by
  rw [Mentions, String.toList_append]
  exact h.trans (List.prefix_append _ _).isInfix

theorem mentions_failedToLoad (e : Error) : Mentions (failedToLoad e) e.message ∧ Mentions (failedToLoad e) manual :=
  ⟨((mentions_end _ e.message).more _).more manual, mentions_end _ manual⟩

theorem mentions_notAvailable (server : Path) :
    Mentions (notAvailable server) server.text ∧ Mentions (notAvailable server) manual :=
  ⟨((mentions_end _ server.text).more _).more manual, mentions_end _ manual⟩

def hosted (es : List (Exchanged setup)) : List (Exchanged setup) := es.filter fun e => e.1.isHosted

def shown (es : List (Exchanged setup)) : List (Exchanged setup) := es.filter fun e => e.1.showsError

@[simp] theorem hosted_append (es es' : List (Exchanged setup)) : hosted (es ++ es') = hosted es ++ hosted es' :=
  List.filter_append _ _

@[simp] theorem shown_append (es es' : List (Exchanged setup)) : shown (es ++ es') = shown es ++ shown es' :=
  List.filter_append _ _

theorem shown_of_hosted {es : List (Exchanged setup)} (h : hosted es = []) : shown es = [] := by
  rw [hosted, List.filter_eq_nil_iff] at h
  rw [shown, List.filter_eq_nil_iff]
  intro e he
  rw [Call.not_showsError_of_not_isHosted (by simpa using h e he)]
  exact Bool.false_ne_true

/-- The server was not found or cannot be started, and a message says so. -/
def Blames (serve : (c : setup.Call) → σ → setup.Reply c × σ) (x : σ) (found : Except Error Path) (message : String) :
    Prop :=
  Mentions message manual ∧
    ((∃ e, found = .error e ∧ Mentions message e.message) ∨
      ∃ server, found = .ok server ∧ ¬ Starts serve x server ∧ Mentions message server.text)

theorem run_failWith (serve : (c : setup.Call) → σ → setup.Reply c × σ) (x : σ) (message : String) :
    ((failWith message).run serve x).1 = .error [message] ∧
    hosted ((failWith message).trace serve x) = [⟨.showError message, ()⟩] := ⟨rfl, rfl⟩

theorem conclude_cases (serve : (c : setup.Call) → σ → setup.Reply c × σ) (x : σ) (found : Except Error Path)
    (s : Store) :
    (∃ server, found = .ok server ∧ Starts serve x server ∧ ((conclude (found, s)).run serve x).1 = .ok ⟨s, server⟩ ∧
      hosted ((conclude (found, s)).trace serve x) = []) ∨
    ∃ message, ((conclude (found, s)).run serve x).1 = .error [message] ∧ Blames serve x found message ∧
      hosted ((conclude (found, s)).trace serve x) = [⟨.showError message, ()⟩] := by
  cases found with
  | error e =>
    obtain ⟨hmessage, hmanual⟩ := mentions_failedToLoad e
    obtain ⟨hrun, htrace⟩ := run_failWith serve x (failedToLoad e)
    exact .inr ⟨_, hrun, ⟨hmanual, .inl ⟨e, rfl, hmessage⟩⟩, htrace⟩
  | ok server =>
    have hquiet : hosted ((Setup.ofKernel (probe server)).trace serve x) = [] :=
      Plan.filter_trace (Setup.ofKernel_unheard _) serve x
    have hstarts := run_probe serve x server
    simp only [conclude, Plan.run_bind, Plan.trace_bind, hosted, List.filter_append] at hquiet ⊢
    rw [hquiet]
    cases hprobe : ((Setup.ofKernel (probe server)).run serve x).1 with
    | true =>
      exact .inl ⟨server, rfl, hstarts.mp hprobe, rfl, rfl⟩
    | false =>
      obtain ⟨hmessage, hmanual⟩ := mentions_notAvailable server
      have hnot : ¬ Starts serve x server := fun h => by
        rw [hstarts.mpr h] at hprobe
        cases hprobe
      exact .inr ⟨notAvailable server, rfl, ⟨hmanual, .inr ⟨server, rfl, hnot, hmessage⟩⟩, rfl⟩

def grumbles : Except Error Unit → List (Exchanged setup)
  | .ok () => []
  | .error e => [⟨.kernel (.log ⟨.error, .session, "Nightly extension update failed: " ++ e.message⟩), ()⟩]

theorem nightlyStep_cases (settings : Settings) (site : Site) (s : Store) :
    let update := (Nightly.update settings site).plan s
    ((nightlyStep settings site true s).run serve x).1 = (update.run serve x).1.2 ∧
      (nightlyStep settings site true s).trace serve x = update.trace serve x ++ grumbles (update.run serve x).1.1 := by
  intro update
  have hstep : nightlyStep settings site true s = update.bind fun r => match r.1 with
      | .ok () => .done r.2
      | .error e => (Setup.ofKernel (Kernel.log .error .session ("Nightly extension update failed: " ++ e.message))).bind
          fun _ => .done r.2 := by
    show Plan.bind _ _ = _
    congr 1
  rw [hstep, Plan.run_bind, Plan.trace_bind]
  obtain ⟨⟨r, s⟩, y⟩ := update.run serve x
  cases r <;> exact ⟨rfl, rfl⟩

section Loaded

variable (settings : Settings) (site : Site) (wanted : Bool)

/-- What is found of the server behind the nightly step, and where the world is then. -/
def search (serve : (c : setup.Call) → σ → setup.Reply c × σ) (s : Store) (x : σ) : (Except Error Path × Store) × σ :=
  let left := (nightlyStep settings site wanted s).run serve x
  ((Server.get settings site Patch.defaultTool).plan left.1).run serve left.2

variable {site} {s : Store} {y : σ}
  (loaded : (Setup.ofKernel (Store.load (site.storage / Store.fileName)).plan).run serve x = (.ok s, y))

include loaded

/-- A start whose record was loaded goes on with the nightly step and the search, of which no error is shown, and comes
to what the end of it comes to. -/
theorem run_loaded :
    let found := search settings site wanted serve s y
    ((activate settings site wanted).run serve x).1 = ((conclude found.1).run serve found.2).1 ∧
      ∃ before, (activate settings site wanted).trace serve x = before ++ (conclude found.1).trace serve found.2 ∧
        shown before = shown ((nightlyStep settings site wanted s).trace serve y) := by
  intro found
  have hload := Plan.filter_trace
    (Setup.ofKernel_shows_nothing (Store.load (site.storage / Store.fileName)).plan) serve x
  have hget := Plan.filter_trace (Server.get_shows_nothing settings site Patch.defaultTool
    ((nightlyStep settings site wanted s).run serve y).1) serve ((nightlyStep settings site wanted s).run serve y).2
  rw [activate_eq, Plan.run_bind, Plan.trace_bind, loaded]
  simp only [Plan.run_bind, Plan.trace_bind]
  -- of what comes before the end, only the nightly step can show anything
  refine ⟨rfl, _, ((List.append_assoc _ _ _).trans (congrArg (_ ++ ·) (List.append_assoc _ _ _))).symm, ?_⟩
  rw [shown, List.filter_append, List.filter_append, hload, hget]
  simp [shown]

theorem activate_ok_iff (session : Session) :
    let found := search settings site wanted serve s y
    ((activate settings site wanted).run serve x).1 = .ok session ↔
      found.1 = (.ok session.server, session.store) ∧ Starts serve found.2 session.server := by
  intro found
  obtain ⟨hend, -⟩ := run_loaded settings wanted loaded
  rw [hend]
  obtain ⟨server, hserver, hstarts, hok, -⟩ | ⟨message, herror, ⟨-, hblames⟩, -⟩ :=
    conclude_cases serve found.2 found.1.1 found.1.2
  · constructor
    · intro hrun
      obtain rfl : (⟨found.1.2, server⟩ : Session) = session := Except.ok.inj (hok.symm.trans hrun)
      exact ⟨Prod.ext hserver rfl, hstarts⟩
    · rintro ⟨hfound, -⟩
      rw [hfound] at hserver
      cases hserver
      exact hok.trans (by rw [hfound])
  · constructor
    · intro hrun
      cases herror.symm.trans hrun
    · rintro ⟨hfound, hstarts⟩
      rw [hfound] at hblames
      obtain ⟨e, he, -⟩ | ⟨server, hserver, hnot, -⟩ := hblames
      · cases he
      · cases hserver
        exact absurd hstarts hnot

theorem activate_complains {messages : List String}
    (failed : ((activate settings site wanted).run serve x).1 = .error messages) :
    let found := search settings site wanted serve s y
    ∃ message, messages = [message] ∧
      (hosted ((activate settings site wanted).trace serve x)).getLast? = some ⟨.showError message, ()⟩ ∧
        Blames serve found.2 found.1.1 message := by
  intro found
  obtain ⟨hend, before, htrace, -⟩ := run_loaded settings wanted loaded
  rw [hend] at failed
  obtain ⟨server, -, -, hok, -⟩ | ⟨message, herror, hblames, hlast⟩ :=
    conclude_cases serve found.2 found.1.1 found.1.2
  · cases hok.symm.trans failed
  · refine ⟨message, Except.error.inj (failed.symm.trans herror), ?_, hblames⟩
    rw [htrace, hosted_append, hlast, List.getLast?_concat]

theorem activate_shown {session : Session} (started : ((activate settings site wanted).run serve x).1 = .ok session) :
    shown ((activate settings site wanted).trace serve x) =
      shown ((nightlyStep settings site wanted s).trace serve y) := by
  obtain ⟨hend, before, htrace, hbefore⟩ := run_loaded settings wanted loaded
  rw [hend] at started
  obtain ⟨server, -, -, -, hquiet⟩ | ⟨message, herror, -⟩ := conclude_cases serve
    (search settings site wanted serve s y).2 (search settings site wanted serve s y).1.1 _
  · rw [htrace, shown_append, shown_of_hosted hquiet, List.append_nil, hbefore]
  · cases herror.symm.trans started

end Loaded

/-- A start succeeds just if the record is loaded, the server is found from what the nightly step has left, and it
can be started; the session is of that server then. Of the nightly step only what it left of the record counts, and
its failure is no more than a line in the log. A start that fails behind its record has as the last call to the editor
the message that it fails with, which names the manual and what went wrong. One that succeeds has shown nothing but
what the nightly step has. -/
theorem activate_decides (serve : (c : setup.Call) → σ → setup.Reply c × σ) (settings : Settings) (site : Site)
    (wanted : Bool) (x : σ) :
    let start := activate settings site wanted
    let loaded := (Setup.ofKernel (Store.load (site.storage / Store.fileName)).plan).run serve x
    let nightly (s : Store) := nightlyStep settings site wanted s
    let found (s : Store) := search settings site wanted serve s loaded.2
    (∀ session, (start.run serve x).1 = .ok session ↔ ∃ s, loaded.1 = .ok s ∧
      (found s).1 = (.ok session.server, session.store) ∧ Starts serve (found s).2 session.server) ∧
    (∀ s, loaded.1 = .ok s →
      let update := (Nightly.update settings site).plan s
      if wanted then
        ((nightly s).run serve loaded.2).1 = (update.run serve loaded.2).1.2 ∧
          (nightly s).trace serve loaded.2 = update.trace serve loaded.2 ++ grumbles (update.run serve loaded.2).1.1
      else nightly s = .done s) ∧
    (∀ s messages, loaded.1 = .ok s → (start.run serve x).1 = .error messages → ∃ message, messages = [message] ∧
      (hosted (start.trace serve x)).getLast? = some ⟨.showError message, ()⟩ ∧
        Blames serve (found s).2 (found s).1.1 message) ∧
    ∀ s session, loaded.1 = .ok s → (start.run serve x).1 = .ok session →
      shown (start.trace serve x) = shown ((nightly s).trace serve loaded.2) := by
  intro start loaded nightly found
  -- what the load gives, as a pair with the world that it leaves
  have hloaded {r : Except Error Store} (h : loaded.1 = r) :
      (Setup.ofKernel (Store.load (site.storage / Store.fileName)).plan).run serve x = (r, loaded.2) := Prod.ext h rfl
  refine ⟨fun session => ⟨fun hrun => ?_, ?_⟩, fun s hs => ?_, fun s messages hs hrun => ?_, fun s session hs hrun => ?_⟩
  · cases hl : loaded.1 with
    | error e =>
      rw [run_activate, hloaded hl] at hrun
      cases hrun
    | ok s => exact ⟨s, rfl, (activate_ok_iff settings wanted (hloaded hl) session).mp hrun⟩
  · rintro ⟨s, hs, h⟩
    exact (activate_ok_iff settings wanted (hloaded hs) session).mpr h
  · cases wanted with
    | true => exact nightlyStep_cases settings site s
    | false => rfl
  · exact activate_complains settings wanted (hloaded hs) hrun
  · exact activate_shown settings wanted (hloaded hs) hrun

end Session

end Provision
