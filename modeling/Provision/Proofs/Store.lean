import Provision.Proofs.Lodging
import Provision.Proofs.Record

set_option autoImplicit false

namespace Provision

namespace Store

/-- The calls of a save: directories are made, and the draft is made, written and moved. -/
def Saves : kernel.Call → Prop
  | .makeDir _ | .inspect _ | .create _ | .write _ _ | .sync _ | .rename _ _ => True
  | _ => False

theorem saves_save (s : Store) : s.save.plan.Uses (I := kernel) Saves := by
  have hrest : s.publish.plan.Uses (I := kernel) Saves := by
    refine Attempt.uses_bind (Attempt.uses_ofReply ⟨trivial, fun r => trivial⟩) fun h => ?_
    refine Attempt.uses_bind (Attempt.uses_ofReply ⟨trivial, fun r => trivial⟩) fun _ => ?_
    refine Attempt.uses_bind (Attempt.uses_ofReply ⟨trivial, fun r => trivial⟩) fun _ => ?_
    exact Attempt.uses_ofReply ⟨trivial, fun r => trivial⟩
  cases h : s.path.parent? with
  | none =>
    unfold save
    rw [h]
    exact hrest
  | some parent =>
    rw [save_eq h]
    refine Attempt.uses_bind (Attempt.uses_ofReply ?_) fun _ => hrest
    refine Plan.Uses.mono ?_ (Kernel.uses_makeChain fun _ _ => trivial)
    rintro c (⟨a, rfl, -⟩ | ⟨a, rfl⟩) <;> exact trivial

theorem uses_save (s : Store) : s.save.plan.Uses (I := kernel) fun c => ∀ p, c ≠ .unlink p := by
  refine s.saves_save.mono ?_
  rintro c hc p rfl
  exact hc

theorem save_begins (s : Store) :
    ∃ c k, s.save.plan = .ask c k ∧ ((∃ p, c = .makeDir p) ∨ c = .create s.sibling) := by
  cases hp : s.path.parent? with
  | none =>
    unfold save
    rw [hp]
    exact ⟨_, _, rfl, .inr rfl⟩
  | some parent =>
    rw [save_eq hp, Attempt.plan_bind]
    unfold Kernel.makeDirs Path.ancestors
    rw [List.cons_append, Kernel.makeChain]
    by_cases hempty : parent.chars.isEmpty = true
    · rw [if_pos hempty]
      exact ⟨_, _, rfl, .inr rfl⟩
    · rw [if_neg hempty]
      exact ⟨_, _, rfl, .inl ⟨_, rfl⟩⟩

def Publishes {σ : Type} (s : Store) (e : Event kernel σ) : Prop :=
  ∃ t, e = ⟨.rename s.sibling s.path, (.ok () : Except Fault Unit), t⟩

/-- Whenever the work fails, the draft has not taken the place of the record. -/
def Withholds {σ α : Type} (s : Store) (law : Law kernel σ) (w : Kernel.Work Error α) : Prop :=
  ∀ x es e y, w.plan.Course law x es (some (.error e)) y → ∀ ev ∈ es, ¬ s.Publishes ev

section Withholds

variable {σ α β : Type} {s : Store} {law : Law kernel σ}

theorem withholds_bind {p : Plan kernel (Except Fault α)} {wrap : Fault → Error} {f : α → Kernel.Work Error β}
    (hp : p.Uses (I := kernel) fun c => ∀ p q, c ≠ .rename p q) (hf : ∀ a, s.Withholds law (f a)) :
    s.Withholds law (Attempt.ofReply p wrap >>= f) := by
  intro x es e y hc
  have hquiet : ∀ {es : List (Event kernel σ)} {x y : σ} {o : Option (Except Error α)},
      (Attempt.plan (Attempt.ofReply p wrap)).Course law x es o y → ∀ ev ∈ es, ¬ s.Publishes ev := by
    rintro es x y o hc ev hev ⟨t, rfl⟩
    obtain ⟨o', hc, -⟩ := Attempt.of_ofReply hc
    exact hc.uses hp _ hev _ _ rfl
  obtain ⟨e', -, hx⟩ | ⟨a, t, es₁, es₂, rfl, hx, hrest⟩ := Attempt.of_bind_some hc
  · exact hquiet hx
  · intro ev hev
    obtain hev | hev := List.mem_append.mp hev
    · exact hquiet hx ev hev
    · exact hf a _ _ _ _ hrest ev hev

theorem withholds_rename : s.Withholds law (Attempt.ofReply (Kernel.rename s.sibling s.path) (.io "failed to rename temp state file")) := by
  intro x es e y hc
  obtain ⟨o, hc, ho⟩ := Attempt.of_ofReply hc
  obtain ⟨rfl, -⟩ | ⟨r, rfl, rfl, -⟩ := hc.of_call
  · cases ho
  · intro ev hev ⟨t, he⟩
    rw [List.mem_singleton.mp hev] at he
    cases he
    cases ho

theorem withholds_publish : s.Withholds law s.publish := by
  refine withholds_bind ⟨by simp, fun _ => trivial⟩ fun h => ?_
  refine withholds_bind ⟨by simp, fun _ => trivial⟩ fun _ => ?_
  exact withholds_bind ⟨by simp, fun _ => trivial⟩ fun _ => withholds_rename

theorem withholds_save : s.Withholds law s.save := by
  cases hp : s.path.parent? with
  | none =>
    unfold save
    rw [hp]
    exact withholds_publish
  | some parent =>
    rw [save_eq hp]
    refine withholds_bind ?_ fun _ => withholds_publish
    refine (Kernel.uses_makeChain fun _ _ => trivial).mono ?_
    rintro c (⟨a, rfl, -⟩ | ⟨a, rfl⟩) <;> simp

end Withholds

/-- The record that is made of what was read, unless there is no telling. -/
def recalled : Except Fault ByteArray → Option Record
  | .ok data => (String.fromUTF8? data).map fun text => (Record.read? text.toList).getD .empty
  | .error e => if e.isMissing then some .empty else none

def corrupt (path : Path) : Log.Entry := ⟨.warn, .store, "Ignoring corrupt state file " ++ path.text⟩

def unreadable (path : Path) : Error := .io ("failed to read state file " ++ path.text) .notText

def judge (path : Path) : Except Fault ByteArray → Plan kernel (Except Error Store)
  | .error e =>
    if e.isMissing then .done (.ok ⟨path, .empty⟩) else .done (.error (.io ("failed to read state file " ++ path.text) e))
  | .ok data =>
    match String.fromUTF8? data with
    | none => .done (.error (unreadable path))
    | some text =>
      match Record.read? text.toList with
      | some record => .done (.ok ⟨path, record⟩)
      | none => .ask (.log (corrupt path)) fun _ => .done (.ok ⟨path, .empty⟩)

theorem load_plan (path : Path) : (load path).plan = .ask (.read path) (judge path) := by
  change Plan.ask _ _ = _
  congr 1
  funext r
  cases r with
  | error e =>
    simp only [judge]
    split <;> rename_i he <;> simp [Plan.bind, bind, pure, he]
  | ok data =>
    simp only [judge, Plan.bind, bind, pure]
    cases String.fromUTF8? data with
    | none => rfl
    | some text =>
      simp only [Plan.bind]
      cases Record.read? text.toList <;> rfl

theorem load_replied (path : Path) :
    ∃ k, (load path).plan = .ask (.read path) k ∧ ∀ r : Except Fault ByteArray, ∃ x : Except Error Store,
      (k r = .done x ∨ ∃ e, k r = .ask (.log e) fun _ => .done x) ∧
        ∀ s, x = .ok s ↔ s.path = path ∧ recalled r = some s.record := by
  have hfound : ∀ {a : Option Record} {record : Record}, a = some record →
      ∀ s : Store, (.ok ⟨path, record⟩ : Except Error Store) = .ok s ↔ s.path = path ∧ a = some s.record := by
    rintro a record rfl ⟨file, record'⟩
    simp [eq_comm]
  refine ⟨judge path, load_plan path, fun r => ?_⟩
  cases r with
  | error e =>
    simp only [judge]
    by_cases he : e.isMissing = true
    · rw [if_pos he]
      exact ⟨_, .inl rfl, hfound (by rw [recalled, if_pos he])⟩
    · rw [if_neg he]
      exact ⟨_, .inl rfl, fun s => by simp [recalled, he]⟩
  | ok data =>
    simp only [judge]
    cases htext : String.fromUTF8? data with
    | none => exact ⟨_, .inl rfl, fun s => by simp [recalled, htext]⟩
    | some text =>
      simp only []
      cases hrecord : Record.read? text.toList with
      | some record => exact ⟨_, .inl rfl, hfound (by simp [recalled, htext, hrecord])⟩
      | none => exact ⟨_, .inr ⟨_, rfl⟩, hfound (by simp [recalled, htext, hrecord])⟩

theorem uses_load (path : Path) : (load path).plan.Uses (I := kernel) fun c => c = .read path ∨ ∃ e, c = .log e := by
  obtain ⟨k, hload, hk⟩ := load_replied path
  rw [hload]
  refine ⟨.inl rfl, fun r => ?_⟩
  obtain ⟨x, hr | ⟨e, hr⟩, -⟩ := hk r
  · rw [hr]
    exact trivial
  · rw [hr]
    exact ⟨.inr ⟨e, rfl⟩, fun _ => trivial⟩

theorem load_run {σ : Type} (serve : (c : kernel.Call) → σ → kernel.Reply c × σ) (x : σ) (path : Path) (s : Store) :
    ((load path).plan.run serve x).1 = .ok s ↔ s.path = path ∧ recalled (serve (.read path) x).1 = some s.record := by
  obtain ⟨k, hload, hk⟩ := load_replied path
  rw [hload, Plan.run]
  obtain ⟨o, hr | ⟨e, hr⟩, ho⟩ := hk (serve (.read path) x).1
  · rw [hr]
    exact ho s
  · rw [hr]
    exact ho s

theorem load_still {cwd : Place} {outside : Disk → Disk → Prop} {path : Path} {d d' : Disk}
    {es : List (Event kernel Disk)} {o : Option (Except Error Store)}
    (hc : (load path).plan.Course (Kernel.law cwd outside) d es o d') : d' = d := by
  refine hc.still (uses_load _) ?_
  rintro c r t (rfl | ⟨e, rfl⟩) hl
  · exact hl.1
  · exact hl

theorem course_load {cwd : Place} {outside : Disk → Disk → Prop} {path : Path} {d d' : Disk}
    {es : List (Event kernel Disk)} {s : Store}
    (hc : (load path).plan.Course (Kernel.law cwd outside) d es (some (.ok s)) d') :
    s.path = path ∧ recalled (d.read cwd path) = some s.record := by
  obtain ⟨k, hload, hk⟩ := load_replied path
  rw [hload] at hc
  obtain ⟨r, t, es', -, ⟨rfl, hr⟩, hrest⟩ := hc.of_ask_some
  obtain ⟨x, hdone, hx⟩ := hk r
  obtain rfl : x = .ok s := by
    obtain hdone | ⟨e, hlog⟩ := hdone
    · rw [hdone] at hrest
      obtain ⟨-, ho, -⟩ := hrest.of_done
      exact (Option.some.inj ho).symm
    · rw [hlog] at hrest
      obtain ⟨u, t', es'', -, -, hrest⟩ := hrest.of_ask_some
      obtain ⟨-, ho, -⟩ := hrest.of_done
      exact (Option.some.inj ho).symm
  obtain ⟨hpath, hrecalled⟩ := (hx s).mp rfl
  obtain hr | ⟨e, rfl, hn⟩ := hr
  · exact ⟨hpath, hr ▸ hrecalled⟩
  -- Reading fails at any time, but then it does not say that the file is missing.
  · simp [recalled, hn] at hrecalled

theorem recalled_text (r : Record) : recalled (.ok r.text.toUTF8) = some r := by
  have ht : r.text.toList = r.write := by simp [Record.text]
  simp only [recalled, Record.fromUTF8?_text, Option.map_some, ht, Record.read?_write, Option.getD_some]

theorem load_text (path : Path) (r : Record) :
    ∃ k, (load path).plan = .ask (.read path) k ∧ k (.ok r.text.toUTF8 : Except Fault ByteArray) = .done (.ok ⟨path, r⟩) := by
  have ht : r.text.toList = r.write := by simp [Record.text]
  refine ⟨judge path, load_plan path, ?_⟩
  simp only [judge, Record.fromUTF8?_text, ht, Record.read?_write]

end Store

namespace Lodging

/-- The record that is on the disk, if there is one that makes sense. -/
def stored (L : Lodging) (d : Disk) : Option Record := do
  let v ← d.get? L.record
  let data ← v.contents.toOption
  let text ← String.fromUTF8? data
  Record.read? text.toList

variable {L : Lodging} {outside : Disk → Disk → Prop} {d d' : Disk} {es : List (Event kernel Disk)}

namespace Lodged

/-- The record on disk after a save is the old one, and the save has not succeeded, or it is the new one,
and the save has not failed. What is changed besides is the draft alone, under all names that it has. -/
structure Saved (L : Lodging) (s : Store) (d : Disk) (o : Option (Except Error Unit)) (d' : Disk) : Prop where
  lodged : L.Lodged d'
  same : ∀ p, p ≠ L.record → p ≠ L.draft → d.twins L.draft p = false → d'.get? p = d.get? p
  lone : d.Lone L.draft → d'.Lone L.draft
  record : ((d.twins L.draft L.record = false → d'.get? L.record = d.get? L.record) ∧ o ≠ some (.ok ())) ∨
    ((∃ serial mode, d'.get? L.record = some (.file serial mode s.record.text.toUTF8)) ∧ ∀ e, o ≠ some (.error e))

theorem published (h : L.Lodged d) {s : Store} (hp : s.path = L.statePath) {o : Option (Except Error Unit)}
    (hpub : Berth.Ready.Published L.berth L.home s d o d') : Saved L s d o d' := by
  obtain ⟨hr, ho⟩ | ⟨t, serial, mode, hr, hv, hren, ho⟩ := hpub
  · exact ⟨h.rewritten hr, fun p _ => hr.same p, hr.lone, .inl ⟨hr.same _ record_ne_draft, ho⟩⟩
  · rw [hp] at hren
    obtain ⟨hd', hrecord, hsame, hlone⟩ := (h.rewritten hr).rename_draft hv hren
    exact ⟨hd', fun p h₁ h₂ htwins => (hsame p h₁ h₂).trans (hr.same p h₂ htwins), fun hl => hlone (hr.lone hl),
      .inr ⟨⟨serial, mode, hrecord⟩, ho⟩⟩

theorem published_read (h : L.Lodged d) {s : Store} (hp : s.path = L.statePath)
    (hpub : Berth.Ready.Published L.berth L.home s d (some (.ok ())) d') :
    d'.read L.cwd L.statePath = .ok s.record.text.toUTF8 := by
  obtain ⟨hd', -, -, ⟨-, ho⟩ | ⟨⟨_, _, hrecord⟩, -⟩⟩ := h.published hp hpub
  · exact absurd rfl ho
  obtain ⟨-, ho⟩ | ⟨t, serial, mode, hr, hv, hren, -⟩ := hpub
  · exact absurd rfl ho
  rw [hp] at hren
  obtain ⟨hheld, -⟩ := (h.rewritten hr).ready.rename hv hren
  have hadmits : Disk.admits L.statePath = .ok () := ((Disk.holder_join plain_record).mp hheld).1
  rw [hd'.read, hadmits, hrecord]
  rfl

theorem publishes (h : L.Lodged d) {s : Store} (hp : s.path = L.statePath) {o : Option (Except Error Unit)}
    (hc : s.save.plan.Course (Kernel.law L.cwd outside) d es o d') : Berth.Ready.Published L.berth L.home s d o d' := by
  obtain ⟨parent, hparent, habove⟩ := Path.parent?_join L.storage plain_record
  exact h.ready.save (L.sibling_eq hp) (by rw [hp]; exact hparent) habove hc

theorem save (h : L.Lodged d) {s : Store} (hp : s.path = L.statePath) {o : Option (Except Error Unit)}
    (hc : s.save.plan.Course (Kernel.law L.cwd outside) d es o d') : Saved L s d o d' :=
  h.published hp (h.publishes hp hc)

theorem stored_of_file {r : Record} {serial mode : Nat}
    (h : d.get? L.record = some (.file serial mode r.text.toUTF8)) : L.stored d = some r := by
  have ht : r.text.toList = r.write := by simp [Record.text]
  simp only [stored, h, Node.contents, Except.toOption, Record.fromUTF8?_text, ht, Record.read?_write,
    Option.bind_eq_bind, Option.bind_some]

theorem stored_congr {d : Disk} (h : d'.get? L.record = d.get? L.record) : L.stored d' = L.stored d := by
  rw [stored, stored, h]

theorem Saved.stored {s : Store} {d : Disk} {o : Option (Except Error Unit)} (h : Saved L s d o d')
    (hlone : d.Lone L.draft) :
    (L.stored d' = L.stored d ∧ o ≠ some (.ok ())) ∨ (L.stored d' = some s.record ∧ ∀ e, o ≠ some (.error e)) := by
  obtain ⟨hr, ho⟩ | ⟨⟨serial, mode, hr⟩, ho⟩ := h.record
  · exact .inl ⟨stored_congr (hr (hlone.not_twins record_ne_draft)), ho⟩
  · exact .inr ⟨stored_of_file hr, ho⟩

theorem read_ok (h : L.Lodged d) {data : ByteArray} (hr : d.read L.cwd L.statePath = .ok data) :
    ∃ v, d.get? L.record = some v ∧ v.contents = .ok data := by
  rw [h.read] at hr
  cases ha : Disk.admits L.statePath with
  | error e =>
    rw [ha] at hr
    cases hr
  | ok u =>
    rw [ha] at hr
    cases hv : d.get? L.record with
    | none =>
      rw [hv] at hr
      cases hr
    | some v =>
      rw [hv] at hr
      exact ⟨v, rfl, hr⟩

theorem read_missing (h : L.Lodged d) {e : Fault} (hr : d.read L.cwd L.statePath = .error e)
    (he : e.isMissing = true) : d.get? L.record = none := by
  rw [h.read] at hr
  cases ha : Disk.admits L.statePath with
  | error e' =>
    rw [ha] at hr
    obtain rfl : e' = e := by simpa [Except.bind] using hr
    have hm := Disk.admits_missing (Path.join_ne_nil L.storage plain_record) ha
    rw [he] at hm
    cases hm
  | ok u =>
    rw [ha] at hr
    cases hv : d.get? L.record with
    | none => rfl
    | some v =>
      rw [hv] at hr
      change v.contents = .error e at hr
      cases v with
      | dir =>
        cases hr
        cases he
      | device dev => cases dev <;> cases hr
      | file s m x => cases hr
      | link t => cases hr
      | tool t => cases hr

theorem load (h : L.Lodged d) {o : Option (Except Error Store)}
    (hc : (Store.load L.statePath).plan.Course (Kernel.law L.cwd outside) d es o d') :
    d' = d ∧ ∀ s, o = some (.ok s) → s.path = L.statePath ∧ s.record = (L.stored d).getD .empty := by
  refine ⟨Store.load_still hc, ?_⟩
  rintro s rfl
  obtain ⟨hpath, hrecalled⟩ := Store.course_load hc
  refine ⟨hpath, ?_⟩
  cases hr : d.read L.cwd L.statePath with
  | ok data =>
    obtain ⟨v, hv, hdata⟩ := h.read_ok hr
    rw [hr, Store.recalled] at hrecalled
    obtain ⟨text, htext, he⟩ := Option.map_eq_some_iff.mp hrecalled
    simp [stored, hv, hdata, Except.toOption, htext, he]
  | error e =>
    rw [hr, Store.recalled] at hrecalled
    by_cases he : e.isMissing = true
    · rw [if_pos he] at hrecalled
      simp [stored, h.read_missing hr he, Option.some.inj hrecalled.symm]
    · rw [if_neg he] at hrecalled
      cases hrecalled

end Lodged

end Lodging

end Provision
