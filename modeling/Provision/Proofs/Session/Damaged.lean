import Provision.Proofs.Record.Encoding
import Provision.Proofs.Session.Apart

/-!
A record that is damaged: what loading makes of the bytes of a file, whatever they are. Bytes that are text count as
the record that the text stands for, or else as nothing; bytes that are no text are a failure, and a start ends with
it.
-/

set_option autoImplicit false

namespace Provision

namespace Store

section Run

variable {σ : Type} {serve : (c : kernel.Call) → σ → kernel.Reply c × σ} {x : σ} {path : Path} {data : ByteArray}
  {text : String}

theorem run_load : (load path).plan.run serve x =
    (judge path (serve (.read path) x).1).run serve (serve (.read path) x).2 := by
  rw [load_plan]
  rfl

theorem load_missing (h : (serve (.read path) x).1 = .error (.os .missing)) :
    (load path).plan.run serve x = (.ok ⟨path, .empty⟩, (serve (.read path) x).2) := by
  rw [run_load, h]
  rfl

theorem load_encoded {r : Record} (h : (serve (.read path) x).1 = .ok text.toUTF8) (hr : Record.Encodes text.toList r) :
    (load path).plan.run serve x = (.ok ⟨path, r⟩, (serve (.read path) x).2) := by
  have htext : String.fromUTF8? text.toUTF8 = some text := Utf8.fromUTF8?_eq_some.mpr rfl
  have hread := Record.read?_eq_some.mpr hr
  rw [run_load, h]
  simp only [judge, htext, hread, Plan.run]

theorem load_corrupt (h : (serve (.read path) x).1 = .ok text.toUTF8) (hr : ∀ r : Record, ¬ Record.Encodes text.toList r) :
    (load path).plan.run serve x =
      (.ok ⟨path, .empty⟩, (serve (.log (corrupt path)) (serve (.read path) x).2).2) := by
  have htext : String.fromUTF8? text.toUTF8 = some text := Utf8.fromUTF8?_eq_some.mpr rfl
  have hread : Record.read? text.toList = none :=
    Option.eq_none_iff_forall_ne_some.mpr fun r he => hr r (Record.read?_eq_some.mp he)
  rw [run_load, h]
  simp only [judge, htext, hread, Plan.run]

theorem load_unreadable (h : (serve (.read path) x).1 = .ok data) (hdata : ∀ text : String, text.toUTF8 ≠ data) :
    (load path).plan.run serve x = (.error (unreadable path), (serve (.read path) x).2) := by
  have htext : String.fromUTF8? data = none := Utf8.fromUTF8?_eq_none.mpr hdata
  rw [run_load, h]
  simp only [judge, htext, Plan.run]

end Run

end Store

namespace Session

def onward (settings : Settings) (site : Site) (wanted : Bool) (store : Store) : Plan setup (Except (List String) Session) :=
  (nightlyStep settings site wanted store).bind fun store =>
    ((Server.get settings site Patch.defaultTool).plan store).bind conclude

section Start

open Store (load corrupt unreadable)

variable {σ : Type} {serve : (c : setup.Call) → σ → setup.Reply c × σ} {disk : σ → Disk} {cwd : Place}
  {outside : Disk → Disk → Prop} {x : σ} {path : Path} {place : Place} {serial mode : Nat} {data : ByteArray}

theorem run_activate (settings : Settings) (site : Site) (wanted : Bool) (x : σ) :
    (activate settings site wanted).run serve x =
      match (Setup.ofKernel (load (site.storage / Store.fileName)).plan).run serve x with
      | (.ok store, y) => (onward settings site wanted store).run serve y
      | (.error e, y) => (.error (("failed to load " ++ (site.storage / Store.fileName).text) :: e.chain), y) := by
  rw [activate_eq, Plan.run_bind]
  obtain ⟨r, y⟩ := (Setup.ofKernel (load (site.storage / Store.fileName)).plan).run serve x
  cases r <;> rfl

theorem disk_load (lawful : ∀ c x, Setup.law cwd outside c (disk x) (serve c x).1 (disk (serve c x).2)) (path : Path) (x : σ) :
    disk ((Setup.ofKernel (load path).plan).run serve x).2 = disk x := by
  have hlawful : ∀ c x, True → Setup.law cwd outside c (disk x) (serve c x).1 (disk (serve c x).2) ∧ True :=
    fun c x _ => ⟨lawful c x, trivial⟩
  have hc := (Plan.course_view disk hlawful (Setup.ofKernel (load path).plan) (s := x) trivial).1
  obtain ⟨es, -, hc'⟩ := Setup.course_ofKernel hc
  exact Store.load_still hc'

/-- Loading a record from a file that can be read, whatever its bytes are, leaves the disk as it is. It gives the record
that the file stands for, and one that is empty, as if there were no file, for any other text. Only what is no text
is a failure, with which a start ends; behind anything else it goes on. -/
theorem load_decides (lawful : ∀ c x, Setup.law cwd outside c (disk x) (serve c x).1 (disk (serve c x).2))
    (file : (disk x).find cwd path = .ok (place, .file serial mode data))
    (readable : ∀ e, (serve (.kernel (.read path)) x).1 ≠ .error e) :
    let loaded := (Setup.ofKernel (load path).plan).run serve x
    let y := (serve (.kernel (.read path)) x).2
    disk loaded.2 = disk x ∧
    (∀ (text : String) (record : Record), text.toUTF8 = data → Record.Encodes text.toList record →
      loaded = (.ok ⟨path, record⟩, y)) ∧
    (∀ text : String, text.toUTF8 = data → (∀ record, ¬ Record.Encodes text.toList record) →
      loaded = (.ok ⟨path, .empty⟩, (serve (.kernel (.log (corrupt path))) y).2)) ∧
    (∀ z, (serve (.kernel (.read path)) z).1 = .error (.os .missing) →
      (Setup.ofKernel (load path).plan).run serve z = (.ok ⟨path, .empty⟩, (serve (.kernel (.read path)) z).2)) ∧
    ((∀ text : String, text.toUTF8 ≠ data) → loaded = (.error (unreadable path), y)) ∧
    ∀ (settings : Settings) (site : Site) (wanted : Bool), site.storage / Store.fileName = path →
      (activate settings site wanted).run serve x =
        match loaded with
        | (.ok store, y) => (onward settings site wanted store).run serve y
        | (.error e, y) => (.error (("failed to load " ++ path.text) :: e.chain), y) := by
  intro loaded y
  -- loading is the work of the kernel alone, so it is run by its calls
  have hrun : ∀ z, (Setup.ofKernel (load path).plan).run serve z =
      (load path).plan.run (fun c z => serve (.kernel c) z) z := Plan.run_lower _ _ _
  have hread : (serve (.kernel (.read path)) x).1 = .ok data := by
    obtain ⟨-, hr | ⟨e, he, -⟩⟩ := lawful (.kernel (.read path)) x
    · rw [hr, Disk.read_eq, file]
      rfl
    · exact absurd he (readable e)
  refine ⟨disk_load lawful path x, ?_, ?_, ?_, ?_, ?_⟩
  · rintro text record rfl hr
    exact (hrun x).trans (Store.load_encoded hread hr)
  · rintro text rfl hr
    exact (hrun x).trans (Store.load_corrupt hread hr)
  · intro z hz
    exact (hrun z).trans (Store.load_missing hz)
  · intro hdata
    exact (hrun x).trans (Store.load_unreadable hread hdata)
  · rintro settings site wanted rfl
    exact run_activate settings site wanted x

end Start

section Concrete

open Server.Trial (lodging₀ disk₀)
open Nightly (settings₀ site₀ noon online)
open Store (load unreadable)

def scrawled₀ (data : ByteArray) : Disk := disk₀.addFile lodging₀.record Disk.plainMode data

theorem find_scrawled₀ (data : ByteArray) :
    (scrawled₀ data).find [] lodging₀.statePath = .ok (lodging₀.record, .file 0 Disk.plainMode data) := rfl

theorem lawful_solitude (W : Solitude) (c : setup.Call) (d : Disk) :
    Setup.law W.cwd (fun _ _ => True) c d (W.serve c d).1 (W.serve c d).2 := by
  cases c with
  | kernel c =>
    exact Setup.law_mono (c := .kernel c) (fun _ => trivial) (W.lawful (L := ⟨W.cwd, "/", [], .linux⟩) rfl (.kernel c) d)
  | download url dest mode label => exact .inl rfl
  | install package => exact .inl rfl
  | _ => rfl

theorem read_scrawled₀ (data : ByteArray) (e : Fault) :
    (online.serve (.kernel (.read lodging₀.statePath)) (scrawled₀ data)).1 ≠ .error e := nofun

/-- An object that was never finished counts as nothing. -/
theorem load_decides_torn :
    (scrawled₀ "\x7b\"releaseId\": 7".toUTF8).find [] lodging₀.statePath =
        .ok (lodging₀.record, .file 0 Disk.plainMode "\x7b\"releaseId\": 7".toUTF8) ∧
      (Setup.ofKernel (load lodging₀.statePath).plan).run online.serve (scrawled₀ "\x7b\"releaseId\": 7".toUTF8) =
        (.ok ⟨lodging₀.statePath, .empty⟩, scrawled₀ "\x7b\"releaseId\": 7".toUTF8) := by
  obtain ⟨-, -, hcorrupt, -⟩ := load_decides (lawful_solitude online) (find_scrawled₀ _) (read_scrawled₀ _)
  refine ⟨rfl, hcorrupt _ rfl fun r hr => ?_⟩
  have hread : Record.read? "\x7b\"releaseId\": 7".toList = none := by decide +kernel
  cases hread.symm.trans (Record.read?_eq_some.mpr hr)

/-- A single byte that is no text. Neither the record is loaded nor a session started. -/
theorem load_blocked :
    (scrawled₀ ⟨#[0xFF]⟩).find [] lodging₀.statePath = .ok (lodging₀.record, .file 0 Disk.plainMode ⟨#[0xFF]⟩) ∧
      ((Setup.ofKernel (load lodging₀.statePath).plan).run online.serve (scrawled₀ ⟨#[0xFF]⟩)).1 =
        .error (unreadable lodging₀.statePath) ∧
      ((activate settings₀ (site₀ noon) false).run online.serve (scrawled₀ ⟨#[0xFF]⟩)).1 =
        .error (("failed to load " ++ lodging₀.statePath.text) :: (unreadable lodging₀.statePath).chain) := by
  have hdata : ∀ text : String, text.toUTF8 ≠ ⟨#[0xFF]⟩ := Utf8.fromUTF8?_eq_none.mp (by decide +kernel)
  have hload : (Setup.ofKernel (load lodging₀.statePath).plan).run online.serve (scrawled₀ ⟨#[0xFF]⟩) =
      (.error (unreadable lodging₀.statePath), scrawled₀ ⟨#[0xFF]⟩) :=
    (Plan.run_lower _ _ _ _).trans (Store.load_unreadable rfl hdata)
  refine ⟨rfl, congrArg Prod.fst hload, ?_⟩
  have hpath : (site₀ noon).storage / Store.fileName = lodging₀.statePath := rfl
  rw [run_activate, hpath, hload]

end Concrete

end Session

end Provision
