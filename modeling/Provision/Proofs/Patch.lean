import Provision.Setup
import Provision.Proofs.Lodging

/-!
Removing and patching the binary in a storage directory: which calls are made for it, and that the record
stays as it is.
-/

set_option autoImplicit false

namespace Provision

namespace Patch

def Makes (tool dest : Path) (c : Kernel.Call) : Prop :=
  c = .rename dest (aside dest) ∨ c = .rename (aside dest) dest ∨ c = .unlink (aside dest) ∨ (∃ e, c = .log e) ∨
    ∃ args input, c = .launch tool args input

def judged (tool dest : Path) : Except Fault Finished → Except Error Unit
  | .error e => .error (.patch dest ("failed to spawn " ++ tool.text ++ ": " ++ e.message))
  | .ok f => if f.exit.isSuccess then .ok () else .error (.patch dest (trimmed f.err))

theorem judged_eq_ok {tool dest : Path} {reply : Except Fault Finished} (h : judged tool dest reply = .ok ()) :
    ∃ f, reply = .ok f ∧ f.exit.isSuccess = true := by
  cases reply with
  | error e => cases h
  | ok f =>
    refine ⟨f, rfl, ?_⟩
    by_cases hf : f.exit.isSuccess = true
    · exact hf
    · simp [judged, hf] at h

theorem runTool_judged (tool source dest : Path) : (runTool tool source dest).plan =
    .ask (.launch tool ["-E", "-", "--arg", "src", source.text, "-o", dest.text] expression.toUTF8)
      fun r => .done (judged tool dest r) := by
  change Plan.ask _ _ = Plan.ask _ _
  congr 1
  funext r
  cases r with
  | error e => rfl
  | ok f =>
    change (if f.exit.isSuccess = true then _ else _) = Plan.done (if f.exit.isSuccess = true then _ else _)
    split <;> rfl

theorem uses_runTool (tool source dest : Path) :
    (runTool tool source dest).plan.Uses (I := kernel) fun c => ∃ args input, c = .launch tool args input := by
  rw [runTool_judged]
  exact ⟨⟨_, _, rfl⟩, fun _ => trivial⟩

theorem uses_patch (tool dest : Path) : (patch tool dest).plan.Uses (I := kernel) (Makes tool dest) := by
  refine ⟨.inl rfl, fun r => ?_⟩
  cases r with
  | error e => exact trivial
  | ok u =>
    refine ⟨.inr (.inr (.inr (.inl ⟨_, rfl⟩))), fun _ => ?_⟩
    change Plan.Uses _ (Plan.bind (runTool tool (aside dest) dest).plan _)
    refine Plan.uses_bind ((uses_runTool tool (aside dest) dest).mono fun c hc => .inr (.inr (.inr (.inr hc)))) fun r => ?_
    cases r with
    | error failure =>
      refine ⟨.inr (.inl rfl), fun r => ?_⟩
      cases r with
      | ok u => exact trivial
      | error e => exact ⟨.inr (.inr (.inr (.inl ⟨_, rfl⟩))), fun _ => trivial⟩
    | ok u =>
      refine ⟨.inr (.inr (.inl rfl)), fun r => ?_⟩
      cases r <;> exact trivial

theorem runTool_plan (tool source dest : Path) : ∃ args input k,
    (runTool tool source dest).plan = .ask (.launch tool args input) k ∧ args ≠ ["--version"] ∧ ∀ r, ∃ a, k r = .done a :=
  ⟨_, _, _, runTool_judged tool source dest, by simp, fun r => ⟨judged tool dest r, rfl⟩⟩

theorem patch_plan (tool dest : Path) : ∃ k, (patch tool dest).plan = .ask (.rename dest (aside dest)) k ∧
    (∀ e, ∃ a, k (.error e : Except Fault Unit) = .done a) ∧
    ∃ entry k', k (.ok () : Except Fault Unit) = .ask (.log entry) (fun _ => (runTool tool (aside dest) dest).plan.bind k') ∧
      (∀ failure, ∃ k'', k' (.error failure) = .ask (.rename (aside dest) dest) k'' ∧
        k'' (.ok () : Except Fault Unit) = .done (.error failure) ∧
        ∀ e, ∃ entry, k'' (.error e : Except Fault Unit) = .ask (.log entry) fun _ => .done (.error failure)) ∧
      ∃ k'', k' (.ok ()) = .ask (.unlink (aside dest)) k'' ∧ ∀ r : Except Fault Unit, ∃ a, k'' r = .done a := by
  refine ⟨_, rfl, fun e => ⟨_, rfl⟩, _, _, rfl, fun failure => ⟨_, rfl, rfl, fun e => ⟨_, rfl⟩⟩, _, rfl, fun r => ?_⟩
  cases r with
  | error e => exact ⟨_, rfl⟩
  | ok u => exact ⟨_, rfl⟩

section Ends

variable {σ : Type} {law : Law kernel σ} {tool dest : Path} {s s' : σ} {es : List (Event kernel σ)}

/-- What was moved aside is gone, as the tool has done its work. -/
def Cleans (dest : Path) (e : Event kernel σ) : Prop :=
  ∃ t, e = ⟨.unlink (aside dest), (.ok () : Except Fault Unit), t⟩

theorem not_cleans {e : Event kernel σ} (h : e.call ≠ .unlink (aside dest)) : ¬ Cleans dest e := by
  rintro ⟨t, rfl⟩
  exact h rfl

theorem not_cleans_error {f : Fault} {t : σ} :
    ¬ Cleans dest (⟨.unlink (aside dest), (.error f : Except Fault Unit), t⟩ : Event kernel σ) := by
  rintro ⟨t, ⟨⟩⟩

theorem runTool_never_cleans {o : Option (Except Error Unit)}
    (h : (runTool tool (aside dest) dest).plan.Course law s es o s') : ∀ e ∈ es, ¬ Cleans dest e := by
  intro e he
  obtain ⟨args, input, hc⟩ := h.uses (uses_runTool tool (aside dest) dest) e he
  exact not_cleans (by simp [hc])

theorem runTool_ok {source : Path} (h : (runTool tool source dest).plan.Course law s es (some (.ok ())) s') :
    ∃ args input f, law (.launch tool args input) s (.ok f : Except Fault Finished) s' ∧ f.exit.isSuccess = true := by
  rw [runTool_judged] at h
  obtain ⟨r, t, es', -, hlaunch, hrest⟩ := h.of_ask_some
  obtain ⟨-, ho, rfl⟩ := hrest.of_done
  obtain ⟨f, rfl, hf⟩ := judged_eq_ok (Option.some.inj ho).symm
  exact ⟨_, _, f, hlaunch, hf⟩

/-- A patch that succeeds is one that the tool has done its work for, and ends with the removal of what was moved
aside; no other patch gets through that. -/
theorem course_cases {o : Option (Except Error Unit)} (h : (patch tool dest).plan.Course law s es o s') :
    (o = some (.ok ()) ∧ ∃ before t t' args input f, es = before ++ [⟨.unlink (aside dest), (.ok () : Except Fault Unit), s'⟩] ∧
      law (.launch tool args input) t (.ok f : Except Fault Finished) t' ∧ f.exit.isSuccess = true ∧
      law (.unlink (aside dest)) t' (.ok () : Except Fault Unit) s') ∨
      (o ≠ some (.ok ()) ∧ ∀ e ∈ es, ¬ Cleans dest e) := by
  obtain ⟨rfl, rfl, -⟩ | ⟨r, s₁, es₁, rfl, -, h₁⟩ := h.of_ask
  · exact .inr ⟨nofun, by simp⟩
  cases r with
  | error e =>
    obtain ⟨rfl, rfl, -⟩ := h₁.of_done
    exact .inr ⟨nofun, by simp [not_cleans]⟩
  | ok u =>
  obtain ⟨rfl, rfl, -⟩ | ⟨⟨⟩, s₂, es₂, rfl, -, h₂⟩ := h₁.of_ask
  · exact .inr ⟨nofun, by simp [not_cleans]⟩
  change Plan.Course law ((runTool tool (aside dest) dest).plan.bind _) s₂ es₂ o s' at h₂
  obtain ⟨rfl, hk⟩ | ⟨r, s₃, es₃, es₄, rfl, hr, h₃⟩ := h₂.of_bind
  · exact .inr ⟨nofun, by simpa [not_cleans] using runTool_never_cleans hk⟩
  -- nothing up to here is the removal of what was moved aside
  have hbefore := runTool_never_cleans hr
  cases r with
  | error failure =>
    obtain ⟨rfl, rfl, -⟩ | ⟨r, s₄, es₅, rfl, -, h₄⟩ := h₃.of_ask
    · exact .inr ⟨nofun, by simpa [not_cleans] using hbefore⟩
    cases r with
    | ok u =>
      obtain ⟨rfl, rfl, -⟩ := h₄.of_done
      exact .inr ⟨nofun, by simpa [not_cleans, or_imp, forall_and] using hbefore⟩
    | error e =>
      obtain ⟨rfl, rfl, -⟩ | ⟨⟨⟩, s₅, es₆, rfl, -, h₅⟩ := h₄.of_ask
      · exact .inr ⟨nofun, by simpa [not_cleans, or_imp, forall_and] using hbefore⟩
      · obtain ⟨rfl, rfl, -⟩ := h₅.of_done
        exact .inr ⟨nofun, by simpa [not_cleans, or_imp, forall_and] using hbefore⟩
  | ok u =>
    obtain ⟨rfl, rfl, -⟩ | ⟨r, s₄, es₅, rfl, hunlink, h₄⟩ := h₃.of_ask
    · exact .inr ⟨nofun, by simpa [not_cleans] using hbefore⟩
    cases r with
    | ok u =>
      obtain ⟨rfl, rfl, rfl⟩ := h₄.of_done
      obtain ⟨args, input, f, hlaunch, hf⟩ := runTool_ok hr
      exact .inl ⟨rfl, _, s₂, s₃, args, input, f, (List.append_assoc [_, _] es₃ [_]).symm, hlaunch, hf, hunlink⟩
    | error e =>
      obtain ⟨rfl, rfl, -⟩ := h₄.of_done
      exact .inr ⟨nofun, by simpa [not_cleans, not_cleans_error, or_imp, forall_and] using hbefore⟩

theorem course_ends {o : Option (Except Error Unit)} (h : (patch tool dest).plan.Course law s es o s') :
    (o = some (.ok ()) ∧ ∃ before e, es = before ++ [e] ∧ Cleans dest e ∧ e.after = s') ∨
      (o ≠ some (.ok ()) ∧ ∀ e ∈ es, ¬ Cleans dest e) :=
  (course_cases h).imp_left fun ⟨ho, before, _, _, _, _, _, hes, _⟩ => ⟨ho, before, _, hes, ⟨s', rfl⟩, rfl⟩

end Ends

end Patch

namespace Lodging

variable {L : Lodging} {d d' : Disk}

/-- The directory stays in order and the record as it is, and the draft gets no second name. -/
structure Spares (L : Lodging) (d d' : Disk) : Prop where
  lodged : L.Lodged d'
  record : d'.get? L.record = d.get? L.record
  lone : d.Lone L.draft → d'.Lone L.draft

theorem Spares.refl (h : L.Lodged d) : Spares L d d := ⟨h, rfl, id⟩

theorem Spares.trans {d'' : Disk} (h : Spares L d d') (h' : Spares L d' d'') : Spares L d d'' :=
  ⟨h'.lodged, h'.record.trans h.record, fun hl => h'.lone (h.lone hl)⟩

namespace Lodged

theorem apart_binary {n : Name} (hn : L.Binary n) : n ≠ recordName ∧ n ≠ draftName := by
  have h := L.names_nodup
  simp only [names, List.nodup_cons, List.mem_cons, not_or] at h
  obtain rfl | rfl := hn
  · exact ⟨fun e => h.1.2.1 e.symm, fun e => h.2.1.1 e.symm⟩
  · exact ⟨fun e => h.1.2.2.1 e.symm, fun e => h.2.1.2.1 e.symm⟩

theorem binary_ne_record (L : Lodging) : L.binary ≠ L.record := by
  intro he
  rw [Lodging.binary, Lodging.record, List.cons.injEq] at he
  exact (apart_binary (.inl rfl)).1 he.1

theorem binary_ne_draft (L : Lodging) : L.binary ≠ L.draft := by
  intro he
  rw [Lodging.binary, Lodging.draft, List.cons.injEq] at he
  exact (apart_binary (.inl rfl)).2 he.1

theorem draft_apart {n : Name} (hn : L.Binary n) : ¬ n :: L.home <:+ L.draft := fun hs =>
  (apart_binary hn).2 (L.apart hs (List.suffix_refl _))

theorem spares_of_same (h : L.Lodged d) (sound : d'.Sound) {m n : Name} (hm : L.Binary m)
    (hn : L.Binary n) (same : ∀ p, ¬ m :: L.home <:+ p → ¬ n :: L.home <:+ p → d'.get? p = d.get? p)
    (lone : d.Lone L.draft → d'.Lone L.draft) : Spares L d d' := by
  have hown : ∀ k, L.Binary k → k ∈ L.names := by
    rintro k (rfl | rfl) <;> simp [names]
  have hrecord : d'.get? L.record = d.get? L.record :=
    same _ (fun hs => (apart_binary hm).1 (L.apart hs (List.suffix_refl _))) fun hs =>
      (apart_binary hn).1 (L.apart hs (List.suffix_refl _))
  have hdraft : d'.get? L.draft = d.get? L.draft := same _ (draft_apart hm) (draft_apart hn)
  refine ⟨h.change sound (fun p v hp hv _ => (same p ?_ ?_).trans hv) ?_ ?_, hrecord, lone⟩
  · exact fun hs => hp (L.own_of_name (hown m hm) hs)
  · exact fun hs => hp (L.own_of_name (hown n hn) hs)
  · intro t
    rw [hrecord]
    exact h.record t
  · intro t
    rw [hdraft]
    exact h.draft t

theorem rename_spares (h : L.Lodged d) {m n : Name} (hm : L.Binary m)
    (hn : L.Binary n) (hne : m ≠ n)
    (hr : d.rename L.cwd (L.storage / ⟨m⟩) (L.storage / ⟨n⟩) = .ok d') : Spares L d d' := by
  obtain ⟨-, -, ⟨-, rfl⟩ | ⟨-, rfl, -⟩⟩ := h.rename hm.plain hn.plain hne hr
  · exact .refl h
  refine h.spares_of_same (h.sound_move hne) hm hn (fun p hp hq => ?_) fun hl => ?_
  · rw [Disk.get?_move d (by simp) (by simp), if_neg hq, if_neg hp]
  · exact hl.move (by simp) (by simp) (draft_apart hm) (draft_apart hn)

theorem unlink_spares (h : L.Lodged d) {n : Name} (hn : L.Binary n)
    (hu : d.unlink L.cwd (L.storage / ⟨n⟩) = .ok d') : Spares L d d' := by
  obtain ⟨rfl, hdir⟩ := h.unlink hn.plain hu
  refine h.spares_of_same (h.sound.erase (by simp) hdir) hn hn (fun p hp _ => ?_) fun hl => ?_
  · rw [Disk.get?_erase d (by simp), if_neg]
    rintro rfl
    exact hp (List.suffix_refl _)
  · refine hl.erase (by simp) ?_
    rintro he
    exact draft_apart hn (he ▸ List.suffix_refl _)

theorem patch {outside : Disk → Disk → Prop} (hout : ∀ d d', L.Lodged d → outside d d' → Spares L d d')
    (h : L.Lodged d) {tool : Path} {es : List (Event kernel Disk)} {o : Option (Except Error Unit)}
    (hc : (Patch.patch tool L.dest).plan.Course (Kernel.law L.cwd outside) d es o d') : Spares L d d' := by
  refine hc.keeps (Patch.uses_patch tool L.dest) (fun c u r t hm hu hl => ?_) (.refl h)
  have hlodged := hu.lodged
  refine hu.trans ?_
  obtain rfl | rfl | rfl | ⟨e, rfl⟩ | ⟨args, input, rfl⟩ := hm
  · obtain ⟨e, -, rfl⟩ | ⟨_, -, hr⟩ := hl
    · exact .refl hlodged
    · rw [L.aside_eq] at hr
      exact hlodged.rename_spares (.inl rfl) (.inr rfl) L.binary_ne_aside hr
  · obtain ⟨e, -, rfl⟩ | ⟨_, -, hr⟩ := hl
    · exact .refl hlodged
    · rw [L.aside_eq] at hr
      exact hlodged.rename_spares (.inr rfl) (.inl rfl) L.binary_ne_aside.symm hr
  · obtain ⟨⟨e, -, rfl⟩ | ⟨_, -, hr⟩, -⟩ := hl
    · exact .refl hlodged
    · rw [L.aside_eq] at hr
      exact hlodged.unlink_spares (.inr rfl) hr
  · obtain rfl := hl
    exact .refl hlodged
  · obtain rfl | hl := hl
    · exact .refl hlodged
    · exact hout u t hlodged hl

end Lodged

end Lodging

end Provision
