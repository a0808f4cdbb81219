import Provision.Proofs.Server.History

set_option autoImplicit false

namespace Provision.Server

structure Trial where
  lodging : Lodging
  release : Release
  /-- What a download puts in the place of the binary. -/
  file : ByteArray
  /-- What the build tool makes of it, if it does not fail. -/
  patched : Option ByteArray

namespace Trial

variable (T : Trial)

def step {α : Type} (d : Disk) (permitted : Bool) (r : Except Fault (α × Disk)) : Except Fault α × Disk :=
  match permitted, r with
  | true, .ok (a, d') => (.ok a, d')
  | true, .error e => (.error e, d)
  | false, _ => (.error (.os .denied), d)

def draftPath : Path := T.lodging.storage / ⟨Lodging.draftName⟩

def isDraft (d : Disk) (h : Handle) : Bool :=
  match d.get? T.lodging.draft with
  | some (.file serial _ _) => h = .file serial
  | _ => false

def hasDraft (d : Disk) : Bool :=
  match d.get? T.lodging.draft with
  | some (.file _ _ _) => true
  | _ => false

def renames (d : Disk) (p q : Path) : Bool :=
  (p = T.draftPath && q = T.lodging.statePath && T.hasDraft d) ||
    (p = T.lodging.dest && q = Patch.aside T.lodging.dest) || (p = Patch.aside T.lodging.dest && q = T.lodging.dest)

def unlinks (p : Path) : Bool := p = T.lodging.dest || p = Patch.aside T.lodging.dest

def deposit (d : Disk) (data : ByteArray) : Except Error Unit × Disk :=
  if d.get? T.lodging.binary = none then (.ok (), d.addFile T.lodging.binary executableMode data)
  else (.error (.state "there already"), d)

def serve : (c : setup.Call) → Disk → setup.Reply c × Disk
  | .kernel (.inspect p), d => (d.inspect T.lodging.cwd p, d)
  | .kernel (.read p), d => (d.read T.lodging.cwd p, d)
  | .kernel (.makeDir _), d => (.error (.os .exists_), d)
  | .kernel (.create p), d => step d (p = T.draftPath) (d.create T.lodging.cwd p)
  | .kernel (.createTemp _ _), d => (.error (.os .denied), d)
  | .kernel (.write h data), d => step d (T.isDraft d h) ((d.write h data).map fun d' => ((), d'))
  | .kernel (.flush h), d => (Disk.flush h, d)
  | .kernel (.sync h), d => (Disk.sync h, d)
  | .kernel (.setMode _ _), d => (.error (.os .denied), d)
  | .kernel (.rename p q), d => step d (T.renames d p q) ((d.rename T.lodging.cwd p q).map fun d' => ((), d'))
  | .kernel (.unlink p), d => step d (T.unlinks p) ((d.unlink T.lodging.cwd p).map fun d' => ((), d'))
  | .kernel (.locate _), d => (none, d)
  | .kernel (.launch _ _ _), d =>
    match T.patched with
    | none => (.ok ⟨.code 1, ByteArray.empty, ByteArray.empty⟩, d)
    | some data => (.ok ⟨.code 0, ByteArray.empty, ByteArray.empty⟩, (T.deposit d data).2)
  | .kernel (.exchange _), d => (.closed, d)
  | .kernel (.pause _), d => ((), d)
  | .kernel (.log _), d => ((), d)
  | .fetch _, d => (.ok T.release, d)
  | .download _ _ _ _, d => T.deposit d T.file
  | .confirm _ _, d => (true, d)
  | .warn _, d => ((), d)
  | .showError _, d => ((), d)
  | .install _, d => (.ok (), d)
  | .reload, d => ((), d)

variable {T} {d : Disk}

theorem took_step {α : Type} (d : Disk) (permitted : Bool) (r : Except Fault (α × Disk)) :
    Kernel.Took d (step d permitted r).1 (step d permitted r).2 fun a => r = .ok (a, (step d permitted r).2) := by
  cases permitted with
  | false => exact .inl ⟨_, rfl, rfl⟩
  | true =>
    cases r with
    | error e => exact .inl ⟨_, rfl, rfl⟩
    | ok v => exact .inr ⟨v.1, rfl, rfl⟩

theorem step_error {α : Type} {permitted : Bool} {r : Except Fault (α × Disk)} {e : Fault}
    (h : (step d permitted r).1 = .error e) : r = .error e ∨ e = .os .denied := by
  cases permitted with
  | false =>
    cases h
    exact .inr rfl
  | true =>
    cases r with
    | error e' =>
      cases h
      exact .inl rfl
    | ok v => cases h

theorem step_keeps {α : Type} {P : Disk → Prop} {permitted : Bool} {r : Except Fault (α × Disk)} (h : P d)
    (hr : ∀ a d', permitted = true → r = .ok (a, d') → P d') : P (step d permitted r).2 := by
  cases permitted with
  | false => exact h
  | true =>
    cases r with
    | error e => exact h
    | ok v => exact hr v.1 v.2 rfl rfl

theorem map_unit {r : Except Fault Disk} {a : Unit} {d' : Disk} (h : (r.map fun d' => ((), d')) = .ok (a, d')) :
    r = .ok d' := by
  cases r with
  | error e => cases h
  | ok d'' =>
    cases h
    rfl

theorem took_map (d : Disk) (permitted : Bool) (r : Except Fault Disk) :
    Kernel.Took d (step d permitted (r.map fun d' => ((), d'))).1 (step d permitted (r.map fun d' => ((), d'))).2
      fun _ => r = .ok (step d permitted (r.map fun d' => ((), d'))).2 := by
  obtain h | ⟨a, hr, h⟩ := took_step d permitted (r.map fun d' => ((), d'))
  · exact .inl h
  · exact .inr ⟨a, hr, map_unit h⟩

theorem isDraft_iff {hnd : Handle} (h : T.isDraft d hnd = true) :
    ∃ serial mode data, d.get? T.lodging.draft = some (.file serial mode data) ∧ hnd = .file serial := by
  unfold isDraft at h
  split at h
  · rename_i serial mode data hv
    exact ⟨serial, mode, data, hv, of_decide_eq_true h⟩
  · cases h

theorem hasDraft_iff (h : T.hasDraft d = true) :
    ∃ serial mode data, d.get? T.lodging.draft = some (.file serial mode data) := by
  unfold hasDraft at h
  split at h
  · rename_i serial mode data hv
    exact ⟨serial, mode, data, hv⟩
  · cases h

theorem lodged_rename (h : T.lodging.Lodged d) {p q : Path} {d' : Disk} (hp : T.renames d p q = true)
    (hr : d.rename T.lodging.cwd p q = .ok d') : T.lodging.Lodged d' := by
  have hne := T.lodging.binary_ne_aside
  simp only [renames, Bool.or_eq_true, Bool.and_eq_true, decide_eq_true_eq] at hp
  obtain (⟨⟨rfl, rfl⟩, hd⟩ | ⟨rfl, rfl⟩) | ⟨rfl, rfl⟩ := hp
  · obtain ⟨serial, mode, data, hv⟩ := hasDraft_iff hd
    exact (h.rename_draft hv hr).1
  · rw [T.lodging.aside_eq] at hr
    exact (h.rename_spares (.inl rfl) (.inr rfl) hne hr).1
  · rw [T.lodging.aside_eq] at hr
    exact (h.rename_spares (.inr rfl) (.inl rfl) hne.symm hr).1

theorem lodged_unlink (h : T.lodging.Lodged d) {p : Path} {d' : Disk} (hp : T.unlinks p = true)
    (hu : d.unlink T.lodging.cwd p = .ok d') : T.lodging.Lodged d' := by
  simp only [unlinks, Bool.or_eq_true, decide_eq_true_eq] at hp
  obtain rfl | rfl := hp
  · exact (h.unlink_spares (.inl rfl) hu).1
  · rw [T.lodging.aside_eq] at hu
    exact (h.unlink_spares (.inr rfl) hu).1

theorem deposit_spares (h : T.lodging.Lodged d) (data : ByteArray) : T.lodging.Spares d (T.deposit d data).2 := by
  unfold deposit
  by_cases hn : d.get? T.lodging.binary = none
  · rw [if_pos hn]
    have hroot : T.lodging.binary ≠ [] := by simp [Lodging.binary]
    have hsame : ∀ p, p ≠ T.lodging.binary → (d.addFile T.lodging.binary executableMode data).get? p = d.get? p :=
      fun p hp => (Disk.get?_addFile d hroot executableMode data p).trans (if_neg hp)
    refine h.spares_of_same (h.sound.addFile h.dir hn _ _) (.inl rfl) (.inl rfl) (fun p hp _ => hsame p ?_) fun hl => ?_
    · rintro rfl
      exact hp (List.suffix_refl _)
    · exact hl.beside (h.sound.lone_new hroot _ _) (Lodging.Lodged.binary_ne_draft _).symm hsame
  · rw [if_neg hn]
    exact .refl h

theorem lawful (c : setup.Call) (d : Disk) (h : T.lodging.Lodged d) :
    law T.lodging c d (T.serve c d).1 (T.serve c d).2 ∧ T.lodging.Lodged (T.serve c d).2 := by
  cases c with
  | kernel c =>
    cases c with
    | inspect p => exact ⟨⟨rfl, .inl rfl⟩, h⟩
    | read p => exact ⟨⟨rfl, .inl rfl⟩, h⟩
    | makeDir p => exact ⟨.inl ⟨_, rfl, rfl⟩, h⟩
    | create p =>
      refine ⟨took_step _ _ _, step_keeps h fun hnd d' hp hc => ?_⟩
      rw [of_decide_eq_true hp] at hc
      exact h.rewritten (h.ready.create hc).1
    | createTemp dir stem => exact ⟨.inl rfl, h⟩
    | write hnd data =>
      refine ⟨?_, step_keeps h fun a d' hp hw => ?_⟩
      · obtain ⟨e, hr, hd⟩ | ⟨a, hr, hw⟩ := took_map d (T.isDraft d hnd) (d.write hnd data)
        · exact .inr ⟨e, hr, .inl hd⟩
        · exact .inl ⟨hr, hw⟩
      · obtain ⟨serial, mode, old, hv, rfl⟩ := isDraft_iff hp
        exact h.rewritten (Disk.Rewritten.write h.sound hv (map_unit hw)).1
    | flush hnd => exact ⟨⟨rfl, .inl rfl⟩, h⟩
    | sync hnd => exact ⟨⟨rfl, .inl rfl⟩, h⟩
    | setMode p mode => exact ⟨.inl rfl, h⟩
    | rename p q => exact ⟨took_map _ _ _, step_keeps h fun a d' hp hr => lodged_rename h hp (map_unit hr)⟩
    -- where it says that nothing is there, it is the disk that says so
    | unlink p =>
      refine ⟨⟨took_map _ _ _, fun e hr he => ?_⟩, step_keeps h fun a d' hp hu => lodged_unlink h hp (map_unit hu)⟩
      obtain hu | rfl := step_error hr
      · cases hu' : d.unlink T.lodging.cwd p with
        | error e' =>
          rw [hu'] at hu
          cases hu
          rfl
        | ok d' =>
          rw [hu'] at hu
          cases hu
      · cases he
    | locate name => exact ⟨rfl, h⟩
    | launch program args input =>
      cases hp : T.patched with
      | none =>
        simp only [serve, hp]
        exact ⟨.inl rfl, h⟩
      | some data =>
        simp only [serve, hp]
        exact ⟨.inr (deposit_spares h data), (deposit_spares h data).1⟩
    | exchange r => exact ⟨rfl, h⟩
    | pause ms => exact ⟨rfl, h⟩
    | log e => exact ⟨rfl, h⟩
  | fetch tag => exact ⟨rfl, h⟩
  | download url dest mode label => exact ⟨.inr (deposit_spares h _), (deposit_spares h _).1⟩
  | confirm message action => exact ⟨rfl, h⟩
  | warn message => exact ⟨rfl, h⟩
  | showError message => exact ⟨rfl, h⟩
  | install package => exact ⟨.inl rfl, h⟩
  | reload => exact ⟨rfl, h⟩

section Concrete

def lodging₀ : Lodging := ⟨[], "/s", ["s".toList], .linux⟩

def disk₀ : Disk := ⟨[(lodging₀.home, .dir)], 0⟩

theorem get?_disk₀ (p : Place) : disk₀.get? p = if p = [] ∨ p = lodging₀.home then some .dir else none := by
  cases p with
  | nil => rfl
  | cons n p =>
    simp only [Disk.get?, disk₀, List.lookup_cons, List.lookup_nil]
    by_cases h : n :: p = lodging₀.home
    · rw [h]
      simp
    · simp [h, beq_eq_false_iff_ne.mpr h]

theorem sound_disk₀ : disk₀.Sound where
  alike := by
    intro p q s m m' x x' h
    rw [get?_disk₀] at h
    split at h <;> cases h
  fresh := by
    intro p s m x h
    rw [get?_disk₀] at h
    split at h <;> cases h
  inside := by
    intro n p v h
    rw [get?_disk₀] at h ⊢
    split at h
    · rename_i hp
      simp only [reduceCtorEq, false_or, lodging₀, List.cons.injEq] at hp
      simp [hp.2]
    · cases h

theorem fresh_disk₀ : Fresh lodging₀ disk₀ where
  sound := sound_disk₀
  enters := by decide
  dir := rfl
  empty := by
    intro n
    rw [get?_disk₀]
    exact if_neg (by simp [lodging₀])

def start₀ (version : String) (patches : Bool) : Start :=
  ⟨⟨none, none, ⟨.stable, false, 3600⟩, ⟨version, some version⟩⟩,
    ⟨none, none, "x86_64", "linux", lodging₀.storage, patches, ⟨2020, 7, 14, 12, 0, 0, 0, by decide⟩⟩, "tool", none⟩

theorem suits_start₀ (version : String) (patches : Bool) : Suits lodging₀ (start₀ version patches) := ⟨rfl, rfl⟩

def release₀ : Release := ⟨1, none, none, [⟨"rust-analyzer-linux", "url", 1⟩]⟩

/-- A world in which the build tool works, and one in which it fails. -/
def good₀ : Trial := ⟨lodging₀, release₀, "one".toUTF8, some "one, patched".toUTF8⟩
def bad₀ : Trial := ⟨lodging₀, release₀, "two".toUTF8, none⟩

def after (T : Trial) (st : Start) (d : Disk) : Disk := (st.plan.run T.serve d).2

theorem reached_start {T : Trial} {H : History} {d : Disk} {mem : Option Store} {allowed : Start → Prop} {st : Start}
    (h : Reached T.lodging allowed H d mem) (hd : T.lodging.Lodged d) (suits : Suits T.lodging st) (ok : allowed st)
    (memory : st.memory = none) :
    Reached T.lodging allowed (H ++ by_ st (st.plan.events T.serve d)) (T.after st d) (st.plan.run T.serve d).1.2 ∧
      T.lodging.Lodged (T.after st d) := by
  obtain ⟨hc, hl⟩ := Plan.course_run T.lawful st.plan hd
  exact ⟨.start h suits ok (.inl memory) hc, hl⟩

end Concrete

end Trial

end Provision.Server
