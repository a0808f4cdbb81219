import Provision.Proofs.Settings
import Provision.Settings.File
import Provision.Machine
import Provision.Proofs.Record

/-!
Loading the settings: what is made of the bytes of a file, and how little of a document it depends on. Main statement:
`load_alike`.
-/

set_option autoImplicit false

namespace Provision.Settings

def verdict (path : Path) : Option Settings → Except Error (Settings × Origin)
  | some s => .ok (s, .file path)
  | none => .error (.invalid path)

def judge (path : Path) : Except Fault ByteArray → Except Error (Settings × Origin)
  | .ok data =>
    match String.fromUTF8? data with
    | some text => verdict path (read? text.toList)
    | none => .error (.unreadable path .notText)
  | .error e => if e.isMissing then .ok (.default, .defaults) else .error (.unreadable path e)

theorem load_plan (path : Path) : (load path).plan = .ask (.read path) fun r => .done (judge path r) := by
  change Plan.ask _ _ = _
  congr 1
  funext r
  cases r with
  | error e =>
    simp only [judge]
    split <;> rename_i he <;> simp [Plan.bind, pure, he]
  | ok data =>
    simp only [judge, Plan.bind, pure]
    cases String.fromUTF8? data with
    | none => rfl
    | some text => cases htext : read? text.toList <;> simp [Plan.bind, verdict, htext]

section Run

variable {σ : Type} {serve : (c : kernel.Call) → σ → kernel.Reply c × σ} {x : σ} {path : Path} {text : String}

theorem run_load : (load path).plan.run serve x = (judge path (serve (.read path) x).1, (serve (.read path) x).2) := by
  rw [load_plan]
  rfl

theorem judge_text : judge path (.ok text.toUTF8) = verdict path (read? text.toList) := by
  have htext : String.fromUTF8? text.toUTF8 = some text := Utf8.fromUTF8?_eq_some.mpr rfl
  simp only [judge, htext]

end Run

/-- The text is a document, and the numbers in it are numbers that can be held. -/
structure Parses (cs : List Char) (es : Toml.Entries) : Prop where
  read : Toml.read? cs = some es
  readable : entriesReadable es = true

theorem Parses.of_beq {cs : List Char} {es : Toml.Entries} (h : (Toml.read? cs).any (Toml.entriesBeq es))
    (hr : entriesReadable es = true) : Parses cs es := by
  obtain ⟨es', hread, hes⟩ := (Option.any_eq_true _ _).mp h
  exact ⟨by rw [hread, Toml.entriesBeq_eq es es' hes], hr⟩

theorem Parses.read?_eq_some {cs : List Char} {es : Toml.Entries} (h : Parses cs es) (hs : Sectioned es) (s : Settings) :
    read? cs = some s ↔ ∀ k : Setting, k.told s = k.due es := by
  have hread : read? cs = ofEntries? es := by simp [read?, h.read]
  rw [hread, ofEntries?_eq_some_iff hs]
  exact and_iff_right (skipped_of_readable h.readable)

/-- Two documents that give the same for everything that can be set load alike, whatever else stands in them and in
whatever order: both as the settings that say what is given, and what the defaults say of all else, or both as
settings that are not valid. -/
theorem load_alike {text text' : String} {es es' : Toml.Entries} (parses : Parses text.toList es)
    (parses' : Parses text'.toList es') (sectioned : Sectioned es) (sectioned' : Sectioned es')
    (alike : ∀ k : Setting, Option.Rel Toml.Same (k.given? es) (k.given? es')) :
    ∃ r : Option Settings, (∀ s, r = some s ↔ ∀ k : Setting, k.told s = k.due es) ∧
      ∀ {σ : Type} (serve : (c : kernel.Call) → σ → kernel.Reply c × σ) (path : Path) (x : σ),
        (serve (.read path) x).1 = .ok text.toUTF8 ∨ (serve (.read path) x).1 = .ok text'.toUTF8 →
          (load path).plan.run serve x = (verdict path r, (serve (.read path) x).2) := by
  have hsame : read? text.toList = read? text'.toList := by
    refine Option.ext fun s => ?_
    rw [parses.read?_eq_some sectioned, parses'.read?_eq_some sectioned']
    exact forall_congr' fun k => Setting.told_eq_due_iff (alike k) s
  refine ⟨read? text.toList, parses.read?_eq_some sectioned, fun serve path x hread => ?_⟩
  rw [run_load]
  obtain hread | hread := hread
  · rw [hread, judge_text]
  · rw [hread, judge_text, hsame]

section Concrete

/-- A document, and one that gives the same in another order and another spelling, and more besides. -/
def plain₀ : String := "[updates]\nchannel=\"nightly\"\n[package]\nversion=\"7\"\n"
def ornate₀ : String := "to=\"\"\npackage.version=\"7\"\n[updates]\nchannel=\"nightly\"\n"

def plainEntries₀ : Toml.Entries :=
  [("updates".toList, .table .defined [("channel".toList, .text "nightly".toList)]),
   ("package".toList, .table .defined [("version".toList, .text "7".toList)])]

def ornateEntries₀ : Toml.Entries :=
  [("to".toList, .text []), ("package".toList, .table .dotted [("version".toList, .text "7".toList)]),
   ("updates".toList, .table .defined [("channel".toList, .text "nightly".toList)])]

def nightly₀ : Settings := ⟨none, none, ⟨.nightly, true, 3600⟩, ⟨"7", none⟩⟩

def machine₀ : Machine :=
  ⟨(Disk.empty.addFile ["a".toList] Disk.plainMode plain₀.toUTF8).addFile ["b".toList] Disk.plainMode ornate₀.toUTF8,
    [], [], [], [], []⟩

theorem load_alike_ornate :
    Parses plain₀.toList plainEntries₀ ∧ Parses ornate₀.toList ornateEntries₀ ∧
      Sectioned plainEntries₀ ∧ Sectioned ornateEntries₀ ∧
      (∀ k : Setting, k.given? plainEntries₀ = k.given? ornateEntries₀) ∧
      (load "a").plan.run Machine.serve machine₀ = (.ok (nightly₀, .file "a"), machine₀) ∧
      (load "b").plan.run Machine.serve machine₀ = (.ok (nightly₀, .file "b"), machine₀) := by
  have hplain : Parses plain₀.toList plainEntries₀ := .of_beq (by decide +kernel) (by decide +kernel)
  have hornate : Parses ornate₀.toList ornateEntries₀ := .of_beq (by decide +kernel) (by decide +kernel)
  have hsections : Sectioned plainEntries₀ := ⟨by decide +kernel, by decide +kernel⟩
  have hsections' : Sectioned ornateEntries₀ := ⟨by decide +kernel, by decide +kernel⟩
  have halike (k : Setting) : k.given? plainEntries₀ = k.given? ornateEntries₀ := by
    cases k <;> rfl
  obtain ⟨r, hr, hload⟩ := load_alike hplain hornate hsections hsections' fun k => by
    rw [halike k]
    cases k.given? ornateEntries₀ with
    | none => exact .none
    | some t => exact .some (.refl t)
  have hnightly : r = some nightly₀ := (hr nightly₀).mpr fun k => by
    cases k <;> rfl
  subst hnightly
  exact ⟨hplain, hornate, hsections, hsections', halike, hload Machine.serve "a" machine₀ (.inl rfl),
    hload Machine.serve "b" machine₀ (.inr rfl)⟩

end Concrete

end Provision.Settings
