import Provision.Platform
import Provision.Patch
import Provision.Proofs.Berth

/-!
The storage directory: where it is, which names in it the program uses, and what the steps on these names
do to the disk. The four names are those of the record, of its draft, of the binary and of the binary that
was moved aside.
-/

set_option autoImplicit false

namespace Provision

/-- A storage directory, as a path and as the place that the path leads to. -/
structure Lodging where
  cwd : Place
  storage : Path
  home : Place
  platform : Platform

namespace Lodging

def recordName : Name := "state.json".toList
def draftName : Name := "state.tmp".toList

variable (L : Lodging)

def binaryName : Name := L.platform.binary.toList
def asideName : Name := L.binaryName ++ "-orig".toList

def names : List Name := [recordName, draftName, L.binaryName, L.asideName]

def statePath : Path := L.storage / Store.fileName
def dest : Path := L.storage / Path.ofString L.platform.binary

def record : Place := recordName :: L.home
def draft : Place := draftName :: L.home
def binary : Place := L.binaryName :: L.home
def aside : Place := L.asideName :: L.home

def movedTo (home : Place) : Lodging := { L with home := home }

/-- The place has one of the names in the storage directory, or lies below one. -/
def Own (p : Place) : Prop := ∃ n ∈ L.names, n :: L.home <:+ p

/-- The path leads to the directory, whatever has the program's own names in it, and the record and its
draft are no links. -/
structure Lodged (d : Disk) : Prop where
  sound : d.Sound
  way : ∀ d' : Disk, (∀ p, ¬ L.Own p → d'.get? p = d.get? p) → d'.enters L.cwd L.storage = .ok L.home
  dir : d.get? L.home = some .dir
  record : ∀ target, d.get? L.record ≠ some (.link target)
  draft : ∀ target, d.get? L.draft ≠ some (.link target)

theorem plain_record : Path.Plain recordName := by decide

theorem plain_draft : Path.Plain draftName := by decide

def berth : Berth := ⟨L.cwd, L.storage, recordName, draftName, plain_record, plain_draft, by decide⟩

theorem plain_binary : Path.Plain L.binaryName := by
  unfold binaryName
  cases L.platform <;> decide

theorem plain_aside : Path.Plain L.asideName := by
  unfold asideName binaryName
  cases L.platform <;> decide

def Binary (n : Name) : Prop := n = L.binaryName ∨ n = L.asideName

variable {L} in
theorem Binary.plain {n : Name} (hn : L.Binary n) : Path.Plain n := by
  obtain rfl | rfl := hn
  · exact L.plain_binary
  · exact L.plain_aside

theorem names_nodup : L.names.Nodup := by
  unfold names asideName binaryName
  cases L.platform <;> decide

theorem binary_ne_aside : L.binaryName ≠ L.asideName := by
  have h := L.names_nodup
  simp only [names, List.nodup_cons, List.mem_cons, not_or] at h
  exact h.2.2.1.1

theorem short {n : Name} (hn : n ∈ L.names) : Disk.byteLength n ≤ Disk.nameLimit := by
  have h : ∀ n ∈ L.names, Disk.byteLength n ≤ Disk.nameLimit := by
    unfold names asideName binaryName
    cases L.platform <;> decide
  exact h n hn

theorem statePath_eq : L.statePath = L.storage / ⟨recordName⟩ := rfl

theorem dest_eq : L.dest = L.storage / ⟨L.binaryName⟩ := rfl

theorem sibling_eq {s : Store} (h : s.path = L.statePath) : s.sibling = L.storage / ⟨draftName⟩ := by
  have he : Path.Plain (Path.stem recordName ++ '.' :: "tmp".toList) := by decide
  rw [Store.sibling, h, statePath_eq, Path.withExtension_join L.storage plain_record he]
  rfl

theorem aside_eq : Patch.aside L.dest = L.storage / ⟨L.asideName⟩ := by
  rw [Patch.aside, dest_eq, Path.suffixed_join L.storage L.plain_binary "-orig" L.plain_aside]
  rfl

theorem dest_ne_aside : L.dest ≠ Patch.aside L.dest := by
  rw [aside_eq]
  exact fun he => L.binary_ne_aside (Path.join_injective L.storage L.plain_binary L.plain_aside he)

theorem own_of_name {n : Name} (hn : n ∈ L.names) {p : Place} (hp : n :: L.home <:+ p) : L.Own p := ⟨n, hn, hp⟩

theorem not_own_home : ¬ L.Own L.home := by
  rintro ⟨n, -, h⟩
  have hl := h.length_le
  rw [List.length_cons] at hl
  omega

theorem apart {m n : Name} {p : Place} (hm : m :: L.home <:+ p) (hn : n :: L.home <:+ p) : m = n := by
  have h := List.suffix_of_suffix_length_le hm hn (by simp)
  simpa using h.eq_of_length (by simp)

def around (d : Disk) : Disk :=
  { d with entries := d.entries.filter fun e => !(L.names.any fun n => Disk.isUnder (n :: L.home) e.1) }

theorem get?_around (d : Disk) {p : Place} (hp : ¬ L.Own p) : (L.around d).get? p = d.get? p := by
  by_cases hroot : p = []
  · subst hroot
    rfl
  · have hany : (L.names.any fun n => Disk.isUnder (n :: L.home) p) = false := by
      rw [← Bool.not_eq_true, List.any_eq_true]
      rintro ⟨n, hn, hunder⟩
      exact hp ⟨n, hn, Disk.isUnder_iff.mp hunder⟩
    have h := Disk.lookup_filter d.entries (fun q => !(L.names.any fun n => Disk.isUnder (n :: L.home) q)) p
    rw [Disk.get?_of_ne _ hroot, Disk.get?_of_ne _ hroot, around]
    simpa [hany] using h

theorem not_own_of_around {d : Disk} {p : Place} {v : Node} (h : (L.around d).get? p = some v) : ¬ L.Own p := by
  rintro ⟨n, hn, hunder⟩
  have hroot : p ≠ [] := by
    rintro rfl
    simp at hunder
  have hany : (L.names.any fun n => Disk.isUnder (n :: L.home) p) = true :=
    List.any_eq_true.mpr ⟨n, hn, Disk.isUnder_iff.mpr hunder⟩
  have hfilter := Disk.lookup_filter d.entries (fun q => !(L.names.any fun n => Disk.isUnder (n :: L.home) q)) p
  rw [Disk.get?_of_ne _ hroot, around] at h
  simp only [hany, Bool.not_true, Bool.false_eq_true, if_false] at hfilter
  cases hfilter.symm.trans h

namespace Lodged

variable {L} {d d' : Disk}

theorem way_on (h : L.Lodged d) (roads : ∀ p v, ¬ L.Own p → d.get? p = some v → (v = .dir ∨ ∃ target, v = .link target) →
    d'.get? p = some v) : d'.enters L.cwd L.storage = .ok L.home := by
  have hroads : Disk.Roads (L.around d) d' := by
    intro p v hv hroad
    have hp := L.not_own_of_around hv
    exact roads p v hp ((L.get?_around d hp).symm.trans hv) hroad
  exact hroads.walkFrom (h.way _ fun _ => L.get?_around d) ((L.get?_around d L.not_own_home).trans h.dir)

theorem change (h : L.Lodged d) (sound : d'.Sound) (roads : ∀ p v, ¬ L.Own p → d.get? p = some v →
      (v = .dir ∨ ∃ target, v = .link target) → d'.get? p = some v)
    (hrecord : ∀ target, d'.get? L.record ≠ some (.link target))
    (hdraft : ∀ target, d'.get? L.draft ≠ some (.link target)) : L.Lodged d' where
  sound := sound
  way := fun _ h'' => h.way_on fun p v hp hv hroad => (h'' p hp).trans (roads p v hp hv hroad)
  dir := roads _ _ L.not_own_home h.dir (.inl rfl)
  record := hrecord
  draft := hdraft

theorem enters (h : L.Lodged d) : d.enters L.cwd L.storage = .ok L.home := h.way d fun _ _ => rfl

theorem holder (h : L.Lodged d) {n : Name} (hn : Path.Plain n) {dir : Place} {last : Disk.Last}
    (hh : d.holder L.cwd (L.storage / ⟨n⟩) = .ok (dir, last)) : dir = L.home ∧ last = .name n false := by
  obtain ⟨-, he, -, -, hl⟩ := (Disk.holder_join hn).mp hh
  rw [h.enters] at he
  exact ⟨(Except.ok.inj he).symm, hl⟩

theorem inspect (h : L.Lodged d) {kind : Kind} (hi : d.inspect L.cwd L.dest = .ok kind) : d.get? L.binary ≠ none := by
  unfold Disk.inspect at hi
  cases hf : d.find L.cwd L.dest with
  | error e =>
    rw [hf] at hi
    cases hi
  | ok r =>
    obtain ⟨home, he, -, hn⟩ := Disk.enters_of_find L.plain_binary hf
    obtain rfl : L.home = home := Except.ok.inj (h.enters.symm.trans he)
    exact hn

theorem read (h : L.Lodged d) :
    d.read L.cwd L.statePath = (Disk.admits L.statePath).bind fun _ =>
      (d.get? L.record).elim (.error (.os .missing)) Node.contents := by
  have hs : ¬ Disk.byteLength recordName > Disk.nameLimit := by decide
  have hf := Disk.find_join (n := recordName) plain_record h.enters h.dir h.record
  rw [Disk.read_eq, statePath_eq, hf]
  cases Disk.admits (L.storage / ⟨recordName⟩) with
  | error e => rfl
  | ok u =>
    simp only [Except.bind, hs, if_false, Lodging.record]
    cases d.get? (recordName :: L.home) <;> rfl

theorem own_draft : L.Own L.draft := L.own_of_name (by simp [names]) (List.suffix_refl _)

theorem own_record : L.Own L.record := L.own_of_name (by simp [names]) (List.suffix_refl _)

theorem record_ne_draft : L.record ≠ L.draft := by
  have h : recordName ≠ draftName := by decide
  simpa [Lodging.record, Lodging.draft] using h

theorem ready (h : L.Lodged d) : L.berth.Ready L.home d := ⟨h.sound, h.enters, h.dir, h.draft⟩

theorem rewritten (h : L.Lodged d) (hr : Disk.Rewritten L.draft d d') : L.Lodged d' := by
  refine h.change hr.sound (fun p v _ => hr.roads p v) (fun t ht => ?_) (h.ready.rewritten hr).draft
  exact h.record t (hr.roads_back _ _ ht (.inr ⟨t, rfl⟩))

theorem rename (h : L.Lodged d) {m n : Name} (hm : Path.Plain m) (hn : Path.Plain n) (hne : m ≠ n)
    (hr : d.rename L.cwd (L.storage / ⟨m⟩) (L.storage / ⟨n⟩) = .ok d') :
    ∃ v, d.get? (m :: L.home) = some v ∧ ((d.twins (m :: L.home) (n :: L.home) = true ∧ d' = d) ∨
      (d.twins (m :: L.home) (n :: L.home) = false ∧ d' = d.move (m :: L.home) (n :: L.home) ∧
        (v.isDir = false → d.get? (n :: L.home) ≠ some .dir))) := by
  obtain ⟨dir, m', _, dir', n', _, v, hp, hq, hv, -, hmove⟩ := Disk.rename_eq_ok hr
  obtain ⟨rfl, he⟩ := h.holder hm hp
  obtain ⟨rfl, he'⟩ := h.holder hn hq
  cases he
  cases he'
  refine ⟨v, hv, ?_⟩
  obtain ⟨hsame | htwins, rfl⟩ | ⟨-, hmove⟩ := hmove
  · exact absurd (List.cons.inj hsame).1 hne
  · exact .inl ⟨htwins, rfl⟩
  · exact .inr hmove

theorem sound_move (h : L.Lodged d) {m n : Name} (hne : m ≠ n) :
    (d.move (m :: L.home) (n :: L.home)).Sound := by
  refine h.sound.move (by simp) h.dir (fun hs => hne ?_) (fun hs => hne ?_)
  · exact L.apart hs (List.suffix_refl _)
  · exact L.apart (List.suffix_refl _) hs

theorem rename_draft (h : L.Lodged d) {serial mode : Nat} {data : ByteArray}
    (hv : d.get? L.draft = some (.file serial mode data))
    (hr : d.rename L.cwd (L.storage / ⟨draftName⟩) L.statePath = .ok d') :
    L.Lodged d' ∧ d'.get? L.record = some (.file serial mode data) ∧
      (∀ p, p ≠ L.record → p ≠ L.draft → d'.get? p = d.get? p) ∧ (d.Lone L.draft → d'.Lone L.draft) := by
  obtain ⟨-, ⟨htwins, rfl⟩ | ⟨-, -, hm⟩⟩ := h.ready.rename hv hr
  · exact ⟨h, (h.sound.twins_eq htwins).trans hv, fun _ _ _ => rfl, id⟩
  have hrecord : d'.get? L.record = some (.file serial mode data) := hm.arrived.trans hv
  have hdraft : d'.get? L.draft = none := hm.left
  refine ⟨h.change hm.sound (fun p v hp hv _ => (hm.same p ?_ ?_).trans hv) ?_ ?_, hrecord,
    fun p h₁ h₂ => hm.same p h₂ h₁, fun _ => Disk.lone_of_none hdraft⟩
  · rintro rfl
    exact hp own_draft
  · rintro rfl
    exact hp own_record
  · intro t
    rw [hrecord]
    simp
  · intro t
    rw [hdraft]
    simp

theorem unlink (h : L.Lodged d) {n : Name} (hn : Path.Plain n) (hu : d.unlink L.cwd (L.storage / ⟨n⟩) = .ok d') :
    d' = d.erase (n :: L.home) ∧ d.get? (n :: L.home) ≠ some .dir := by
  obtain ⟨dir, n', hh, -, hd, he⟩ := Disk.unlink_eq_ok hu
  obtain ⟨rfl, hl⟩ := h.holder hn hh
  cases hl
  exact ⟨he, hd⟩

theorem unlink_missing (h : L.Lodged d) {n : Name} (hn : Path.Plain n) (hs : n ∈ L.names) {e : Fault}
    (hu : d.unlink L.cwd (L.storage / ⟨n⟩) = .error e) (he : e.isMissing = true) : d.get? (n :: L.home) = none := by
  unfold Disk.unlink at hu
  cases ha : Disk.admits (L.storage / ⟨n⟩) with
  | error e' =>
    rw [Disk.holder_error ha] at hu
    obtain rfl : e' = e := by simpa [bind, Except.bind] using hu
    have hm := Disk.admits_missing (Path.join_ne_nil L.storage hn) ha
    rw [he] at hm
    cases hm
  | ok u =>
    have hh : d.holder L.cwd (L.storage / ⟨n⟩) = .ok (L.home, .name n false) :=
      (Disk.holder_join hn).mpr ⟨ha, h.enters, h.dir, L.short hs, rfl⟩
    rw [hh] at hu
    simp only [bind, Except.bind, Bool.false_eq_true, if_false] at hu
    split at hu
    · assumption
    · cases hu
      cases he
    · cases hu

end Lodged

end Lodging

end Provision
