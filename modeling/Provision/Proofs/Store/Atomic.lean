import Provision.Proofs.Store.Contents
import Provision.Proofs.Machine

/-!
Changes to the record at a path, one after the other, with failures between them and processes that are killed
and started again. At every moment the contents at the path are the old ones or the new ones as a whole; a change
that fails leaves the old ones, and one that succeeds writes all that was changed since the record was loaded.
-/

set_option autoImplicit false

namespace Provision

namespace Store

/-- The name of the file that is written before it takes the place of the one with a name. -/
def draftName (n : Name) : Name := Path.stem n ++ '.' :: "tmp".toList

/-- What the path of a record and the disk have to be for its contents to be safe. The path has a last name, the
name has another extension than the draft, the draft is no link, the path does not lead to the draft, whatever
that is, nor to another name of the file that the draft is, and every `..` in front of the name stands behind
directories that are there. -/
structure Fit (cwd : Place) (path : Path) (n : Name) (d : Disk) : Prop where
  sound : d.Sound
  name : path.fileName? = some n
  extension : Path.extension? n ≠ some "tmp".toList
  draft : ∀ home target, d.enters cwd path.front = .ok home → d.get? (draftName n :: home) ≠ some (.link target)
  apart : ∀ home, d.enters cwd path.front = .ok home → ∀ d' : Disk, (∀ p, p ≠ draftName n :: home → d'.get? p = d.get? p) →
    ∀ s m data, d'.find cwd path ≠ .ok (draftName n :: home, .file s m data)
  single : ∀ home, d.enters cwd path.front = .ok home → ∀ q v, d.find cwd path = .ok (q, v) →
    d.twins (draftName n :: home) q = false
  footed : d.Footed cwd path.front

namespace Fit

variable {cwd : Place} {path : Path} {n : Name} {d : Disk}

theorem plain_draft (h : Fit cwd path n d) : Path.Plain (draftName n) :=
  (Path.ending h.name).1.extended (by decide) (by decide) (by decide)

def berth (h : Fit cwd path n d) : Berth where
  cwd := cwd
  dir := path.front
  name := n
  draft := draftName n
  plainName := (Path.ending h.name).1
  plainDraft := h.plain_draft
  apart := fun e => h.extension (Path.extension?_of_eq (by decide) e.symm)

theorem moors (h : Fit cwd path n d) : h.berth.Moors path := by
  obtain ⟨hn, hparent, hext, hending⟩ := Path.ending h.name
  exact ⟨hparent, (hext _).trans (Path.withExtension_join path.front hn h.plain_draft), hending⟩

end Fit

end Store

namespace Berth

variable {B : Berth} {home : Place} {d : Disk}

/-- If the way to the directory goes by a link with the name of the file, the path of the file leads to a
directory, so there is no record to be had from it. -/
theorem Open.clear (ho : B.Open home d) {r : Record} (hr : Store.recalled (d.read B.cwd B.file) = some r)
    {target : Path} (ht : d.get? (B.name :: home) = some (.link target)) :
    (d.erase (B.name :: home)).enters B.cwd B.dir = .ok home := by
  have hroads : Disk.RoadsBut (B.name :: home) d (d.erase (B.name :: home)) := by
    intro p v hp hv _
    rw [Disk.get?_erase _ (by simp), if_neg hp, hv]
  obtain h | ⟨target', j, y, ht', hy, hwalk⟩ := Disk.walkFrom_around hroads (by simp [ht]) ho.1 ho.2
  · exact h
  obtain rfl : target = target' := by simpa [ht] using ht'
  obtain ⟨e, he, hread⟩ := Disk.read_link_dir B.plainName ho.1 ho.2 ht hwalk hy
  have hread : d.read B.cwd B.file = .error e := hread
  rw [hread, Store.recalled, if_neg (by simp [he])] at hr
  cases hr

end Berth

namespace Store

variable {cwd : Place} {outside : Disk → Disk → Prop} {path : Path} {n : Name} {d₀ d d' : Disk}
  {es : List (Event kernel Disk)}

theorem Fit.calm (h : Fit cwd path n d) {r : Record} (hr : recalled (d.read cwd path) = some r) :
    h.berth.Calm path d := by
  by_cases hopen : ∃ home, h.berth.Open home d
  · obtain ⟨home, ho⟩ := hopen
    refine .inl ⟨home, ⟨h.sound, ho.1, ho.2, fun target => h.draft home target ho.1⟩, ?_, h.apart home ho.1,
      h.single home ho.1⟩
    intro hpath target ht
    rw [hpath] at hr
    exact ho.clear hr ht
  · exact .inr ⟨h.sound, fun home ho => hopen ⟨home, ho⟩, h.footed⟩

theorem course_update {σ : Type} {law : Law kernel σ} {r : Record} {c : Change} {x y : σ} {es : List (Event kernel σ)}
    {o : Option (Except Error Unit × Store)} (hc : (update c ⟨path, r⟩).Course law x es o y) :
    ∃ o', (save ⟨path, c.apply r⟩).plan.Course law x es o' y ∧ o = o'.map fun u => (u, ⟨path, c.apply r⟩) := by
  change (Plan.bind (save ⟨path, c.apply r⟩).plan fun u => .done (u, ⟨path, c.apply r⟩)).Course law x es o y at hc
  obtain ⟨rfl, hsave⟩ | ⟨u, t, es₁, es₂, rfl, hsave, hrest⟩ := hc.of_bind
  · exact ⟨none, hsave, rfl⟩
  · obtain ⟨rfl, rfl, rfl⟩ := hrest.of_done
    exact ⟨some u, by rwa [List.append_nil], rfl⟩

/-- A process that has loaded a record, with the changes that it has made to it since, saved or not. -/
structure Keeper where
  store : Store
  loaded : Record
  changes : List Change

def Keeper.record (k : Keeper) : Record := k.changes.foldl (fun r c => c.apply r) k.loaded

/-- What can have come about, starting with a record that is loaded: changes one by one, saved or not, processes that
are killed while they save, and others that load the record after them. -/
inductive Tended (cwd : Place) (outside : Disk → Disk → Prop) (path : Path) (d₀ : Disk) : Disk → Option Keeper → Prop where
  | loaded {es : List (Event kernel Disk)} {s : Store} {d : Disk}
      (h : (load path).plan.Course (Kernel.law cwd outside) d₀ es (some (.ok s)) d) :
      Tended cwd outside path d₀ d (some ⟨s, s.record, []⟩)
  | changed {k : Keeper} {c : Change} {es : List (Event kernel Disk)} {r : Except Error Unit} {s : Store} {d d' : Disk}
      (before : Tended cwd outside path d₀ d (some k))
      (h : (k.store.update c).Course (Kernel.law cwd outside) d es (some (r, s)) d') :
      Tended cwd outside path d₀ d' (some ⟨s, k.loaded, k.changes ++ [c]⟩)
  | killed {k : Keeper} {c : Change} {es : List (Event kernel Disk)} {d d' : Disk}
      (before : Tended cwd outside path d₀ d (some k))
      (h : (k.store.update c).Course (Kernel.law cwd outside) d es none d') : Tended cwd outside path d₀ d' none
  | reloaded {k : Option Keeper} {es : List (Event kernel Disk)} {s : Store} {d d' : Disk}
      (before : Tended cwd outside path d₀ d k)
      (h : (load path).plan.Course (Kernel.law cwd outside) d es (some (.ok s)) d') :
      Tended cwd outside path d₀ d' (some ⟨s, s.record, []⟩)

theorem Fit.update (fit : Fit cwd path n d₀) (h : fit.berth.Calm path d) {r : Record} {c : Change}
    {o : Option (Except Error Unit × Store)} (hc : (Store.update c ⟨path, r⟩).Course (Kernel.law cwd outside) d es o d') :
    ∃ o', fit.berth.Kept ⟨path, c.apply r⟩ d o' d' ∧ o = o'.map fun u => (u, ⟨path, c.apply r⟩) := by
  obtain ⟨o', hsave, ho⟩ := course_update hc
  have hcalm : fit.berth.Calm (⟨path, c.apply r⟩ : Store).path d := h
  exact ⟨o', hcalm.save fit.moors hsave, ho⟩

theorem Tended.calm (fit : Fit cwd path n d₀) {k : Option Keeper} (h : Tended cwd outside path d₀ d k) :
    fit.berth.Calm path d ∧ ∀ k', k = some k' → k'.store = ⟨path, k'.record⟩ := by
  have hload : ∀ {d d' : Disk} {es : List (Event kernel Disk)} {s : Store},
      (load path).plan.Course (Kernel.law cwd outside) d es (some (.ok s)) d' →
      ∀ k', some (⟨s, s.record, []⟩ : Keeper) = some k' → k'.store = ⟨path, k'.record⟩ := by
    rintro d d' es s hc k' ⟨⟩
    obtain ⟨rfl, -⟩ := course_load hc
    rfl
  -- the contents stay safe from change to change, and memory runs ahead of them
  induction h with
  | loaded hc =>
    obtain ⟨-, hr⟩ := course_load hc
    obtain rfl := load_still hc
    exact ⟨fit.calm hr, hload hc⟩
  | reloaded before hc ih =>
    obtain rfl := load_still hc
    exact ⟨ih.1, hload hc⟩
  | killed before hc ih =>
    rw [ih.2 _ rfl] at hc
    obtain ⟨o', ⟨hcalm, -⟩, -⟩ := fit.update ih.1 hc
    exact ⟨hcalm, by rintro k' ⟨⟩⟩
  | @changed k c es r s d d' before hc ih =>
    rw [ih.2 _ rfl] at hc
    obtain ⟨o', ⟨hcalm, -⟩, ho⟩ := fit.update ih.1 hc
    refine ⟨hcalm, ?_⟩
    rintro k' ⟨⟩
    obtain rfl : s = ⟨path, c.apply k.record⟩ := by
      cases o' with
      | none => cases ho
      | some u => exact (Prod.mk.inj (Option.some.inj ho)).2
    simp [Keeper.record]

/-- Whatever was changed, failed and killed before, a further change leaves the old contents at the path or the new
ones as a whole, at every step. If it fails, they are the old ones; if it succeeds, a new process loads all changes
that were made since the record was loaded, and no draft is left. -/
theorem update_keeps_contents (fit : Fit cwd path n d₀) {k : Keeper} (before : Tended cwd outside path d₀ d (some k))
    {c : Change} {o : Option (Except Error Unit × Store)} (hc : (k.store.update c).Course (Kernel.law cwd outside) d es o d') :
    (∀ t, (t = d' ∨ ∃ e ∈ es, e.after = t) →
      t.contents cwd path = d.contents cwd path ∨ t.contents cwd path = some (c.apply k.record).text.toUTF8) ∧
    (∀ e s, o = some (.error e, s) → s = ⟨path, c.apply k.record⟩ ∧ d'.contents cwd path = d.contents cwd path) ∧
    (∀ s, o = some (.ok (), s) → s = ⟨path, c.apply k.record⟩ ∧
      d'.look cwd (path.withExtension "tmp".toList) = .error (.os .missing) ∧
      ∀ (σ : Type) (serve : (c : kernel.Call) → σ → kernel.Reply c × σ) (x : σ),
        (serve (.read path) x).1 = d'.read cwd path → ((load path).plan.run serve x).1 = .ok s) := by
  obtain ⟨hcalm, hstore⟩ := before.calm fit
  rw [hstore k rfl] at hc
  refine ⟨?_, ?_, ?_⟩
  -- a process that is killed behind any of the events has left what a whole course may leave
  · have hstep : ∀ {t : Disk} {es : List (Event kernel Disk)} {o : Option (Except Error Unit × Store)},
        (update c ⟨path, k.record⟩).Course (Kernel.law cwd outside) d es o t → t.contents cwd path = d.contents cwd path ∨
          t.contents cwd path = some (c.apply k.record).text.toUTF8 := by
      intro t es o hc
      obtain ⟨o', ⟨-, ⟨hsame, -⟩ | ⟨hread, -⟩⟩, -⟩ := fit.update hcalm hc
      · exact .inl hsame
      · exact .inr (congrArg Except.toOption hread)
    rintro t (rfl | ⟨e, he, rfl⟩)
    · exact hstep hc
    · obtain ⟨es', hstopped⟩ := hc.stopped he
      exact hstep hstopped
  · rintro e s rfl
    obtain ⟨o', ⟨-, hor⟩, ho⟩ := fit.update hcalm hc
    cases o' with
    | none => cases ho
    | some r =>
      obtain ⟨rfl, rfl⟩ := Prod.mk.inj (Option.some.inj ho)
      obtain ⟨hsame, -⟩ | ⟨-, -, hnot⟩ := hor
      · exact ⟨rfl, hsame⟩
      · exact absurd rfl (hnot e)
  · rintro s rfl
    obtain ⟨o', ⟨-, hor⟩, ho⟩ := fit.update hcalm hc
    cases o' with
    | none => cases ho
    | some r =>
      obtain ⟨rfl, rfl⟩ := Prod.mk.inj (Option.some.inj ho)
      obtain ⟨-, hnot⟩ | ⟨hread, hlook, -⟩ := hor
      · exact absurd rfl hnot
      · refine ⟨rfl, ?_, fun σ serve x hx => ?_⟩
        · rw [fit.moors.sibling]
          exact hlook
        · refine (load_run serve x path _).mpr ⟨rfl, ?_⟩
          rw [hx]
          exact (congrArg recalled hread).trans (recalled_text _)

/-- A machine with nothing but a disk, which the process runs at the root of. -/
def machine (d : Disk) : Machine := ⟨d, [], [], [], [], []⟩

def deep : Path := "a/s.json"

theorem fit_deep : Fit [] deep "s.json".toList .empty where
  sound := Disk.sound_empty
  name := by decide
  extension := by decide
  draft := by
    intro home target h
    cases h
  apart := by
    intro home h
    cases h
  single := by
    intro home h
    cases h
  footed := ⟨[], [['a']], by decide, by decide, .inl rfl⟩

/-- The machine after a process was killed that had written its draft, but not renamed it. -/
def interrupted : Machine := ((update (.releaseId 5) ⟨deep, .empty⟩).runFor Machine.serve 4 (machine .empty)).2

theorem tended_interrupted :
    Tended [] (fun _ _ => True) deep .empty interrupted.disk (some ⟨⟨deep, .empty⟩, .empty, []⟩) := by
  have hload := (machine .empty).course (load deep).plan
  have hdisk : ((machine .empty).run (load deep).plan).2.disk = .empty := rfl
  have hfirst : ((machine .empty).run (load deep).plan).1 = .ok ⟨deep, .empty⟩ := by decide +kernel
  rw [hfirst, hdisk] at hload
  obtain ⟨es, hkilled⟩ := (machine .empty).course_killed 4 (update (.releaseId 5) ⟨deep, .empty⟩)
  have hnone : ((update (.releaseId 5) ⟨deep, .empty⟩).runFor Machine.serve 4 (machine .empty)).1 = none := by decide +kernel
  rw [hnone] at hkilled
  have hreload := interrupted.course (load deep).plan
  have hsecond : (interrupted.run (load deep).plan).1 = .ok ⟨deep, .empty⟩ := by decide +kernel
  rw [hsecond] at hreload
  have htended := (Tended.loaded hload).killed hkilled
  obtain hstill := load_still hreload
  rw [hstill] at hreload
  exact htended.reloaded hreload

/-- Behind a process that was killed half way, another one saves a change and leaves nothing of the first. -/
theorem update_keeps_contents_interrupted :
    (interrupted.disk.look [] "a/s.tmp").isOk = true ∧
      (interrupted.run (update (.serverVersion (some "1")) ⟨deep, .empty⟩)).2.disk.look [] "a/s.tmp" = .error (.os .missing) ∧
      ((interrupted.run (update (.serverVersion (some "1")) ⟨deep, .empty⟩)).2.run (load deep).plan).1 =
        .ok ⟨deep, ⟨none, none, some "1"⟩⟩ := by
  have hc := interrupted.course (update (.serverVersion (some "1")) ⟨deep, .empty⟩)
  have hresult : (interrupted.run (update (.serverVersion (some "1")) ⟨deep, .empty⟩)).1 =
      (.ok (), ⟨deep, ⟨none, none, some "1"⟩⟩) := by decide +kernel
  obtain ⟨-, -, h⟩ := update_keeps_contents fit_deep tended_interrupted hc
  obtain ⟨-, hlook, hload⟩ := h _ (congrArg some hresult)
  exact ⟨by decide +kernel, hlook, hload Machine Machine.serve _ rfl⟩

/-- A record that cannot be seen at its path as long as the directory in front of `..` is missing. -/
def covered : Machine := machine ⟨[(["s.tmp".toList], .dir),
  (["s.json".toList], .file 0 0o644 "\x7b\"serverVersion\":\"1\"\x7d".toUTF8)], 1⟩

def crossed : Machine := machine ⟨[(["s.json".toList], .link "s.tmp"), (["s.tmp".toList], .file 0 0o644 "\x7b\x7d".toUTF8)], 1⟩

def paired : Machine := machine ⟨[(["s.json".toList], .file 0 0o644 "\x7b\x7d".toUTF8),
  (["s.tmp".toList], .file 0 0o644 "\x7b\x7d".toUTF8)], 1⟩

/-- A path with a `..` behind a missing directory can come to show other contents though the change fails, one that
leads to the draft shows half a record while it is written, and so does one that leads to another name of the draft's
file, where the draft is left behind, too. -/
theorem contents_change_unfit :
    (Path.fileName? "a/../s.json" = some "s.json".toList ∧ Path.fileName? "s.json" = some "s.json".toList ∧
      Path.extension? "s.json".toList ≠ some "tmp".toList) ∧
    ((covered.run (load "a/../s.json").plan).1 = .ok ⟨"a/../s.json", .empty⟩ ∧
      covered.disk.look [] "a/../s.tmp" = .error (.os .missing) ∧
      covered.disk.contents [] "a/../s.json" = none ∧
      (covered.run (update (.releaseId 5) ⟨"a/../s.json", .empty⟩)).1.1.isOk = false ∧
      (covered.run (update (.releaseId 5) ⟨"a/../s.json", .empty⟩)).2.disk.contents [] "a/../s.json" =
        some "\x7b\"serverVersion\":\"1\"\x7d".toUTF8) ∧
    ((crossed.run (load "s.json").plan).1 = .ok ⟨"s.json", .empty⟩ ∧
      (∃ mode data, crossed.disk.look [] "s.tmp" = .ok (.file 0 mode data)) ∧
      crossed.disk.contents [] "s.json" = some "\x7b\x7d".toUTF8 ∧
      ∃ e ∈ (update (.releaseId 5) ⟨"s.json", .empty⟩).events Machine.serve crossed,
        e.after.disk.contents [] "s.json" = some ByteArray.empty) ∧
    ((paired.run (load "s.json").plan).1 = .ok ⟨"s.json", .empty⟩ ∧
      paired.disk.find [] "s.json" = .ok (["s.json".toList], .file 0 0o644 "\x7b\x7d".toUTF8) ∧
      paired.disk.contents [] "s.json" = some "\x7b\x7d".toUTF8 ∧
      (∃ e ∈ (update (.releaseId 5) ⟨"s.json", .empty⟩).events Machine.serve paired,
        e.after.disk.contents [] "s.json" = some ByteArray.empty) ∧
      (paired.run (update (.releaseId 5) ⟨"s.json", .empty⟩)).1.1.isOk = true ∧
      ((paired.run (update (.releaseId 5) ⟨"s.json", .empty⟩)).2.disk.look [] "s.tmp").isOk = true) := by
  refine ⟨by decide, ⟨?_, ?_, ?_, ?_, ?_⟩, ⟨?_, ⟨0o644, "\x7b\x7d".toUTF8, ?_⟩, ?_, ?_⟩, ?_, ?_, ?_, ?_, ?_, ?_⟩
  · decide +kernel
  · decide +kernel
  · decide +kernel
  · decide +kernel
  · decide +kernel
  · decide +kernel
  · decide +kernel
  · decide +kernel
  · refine ⟨((update (.releaseId 5) ⟨"s.json", .empty⟩).events Machine.serve crossed).get ⟨0, ?_⟩, List.get_mem _ _, ?_⟩
    · decide +kernel
    · decide +kernel
  · decide +kernel
  · decide +kernel
  · decide +kernel
  · refine ⟨((update (.releaseId 5) ⟨"s.json", .empty⟩).events Machine.serve paired).get ⟨0, ?_⟩, List.get_mem _ _, ?_⟩
    · decide +kernel
    · decide +kernel
  · decide +kernel
  · decide +kernel

end Store

end Provision
