import Provision.Proofs.Store
import Provision.Proofs.Disk.Footed

/-!
The contents at the path of a record, and what a save does to them when the directory may not be there, the path
may be a link, every step may fail and the process may be killed: they are the old ones or the new ones.
-/

set_option autoImplicit false

namespace Provision

namespace Disk

def look (d : Disk) (cwd : Place) (p : Path) : Except Fault Node := do
  match ← d.holder cwd p with
  | (_, .dots) => .ok .dir
  | (dir, .name n _) =>
    match d.get? (n :: dir) with
    | some v => .ok v
    | none => .error (.os .missing)

def contents (d : Disk) (cwd : Place) (p : Path) : Option ByteArray := (d.read cwd p).toOption

end Disk

namespace Berth

variable (B : Berth)

def Open (home : Place) (d : Disk) : Prop := d.enters B.cwd B.dir = .ok home ∧ d.get? home = some .dir

/-- The directory is not there, and making directories on the way to it will bring none to light that was. -/
structure Shut (d : Disk) : Prop where
  sound : d.Sound
  shut : ∀ home, ¬ B.Open home d
  footed : d.Footed B.cwd B.dir

/-- The path names the file, perhaps with a demand for a directory behind the name. -/
structure Moors (path : Path) : Prop where
  parent : path.parent? = B.file.parent?
  sibling : path.withExtension "tmp".toList = B.sketch
  ending : path = B.file ∨ path.AsksDir

/-- The directory is there, its path does not go by a link that has the name of the file, and whatever the draft
is, the path does not lead to it, nor to another name of it. -/
structure Sited (path : Path) (home : Place) (d : Disk) : Prop extends B.Ready home d where
  clear : path = B.file → ∀ target, d.get? (B.name :: home) = some (.link target) →
    (d.erase (B.name :: home)).enters B.cwd B.dir = .ok home
  aside : ∀ d' : Disk, (∀ p, p ≠ B.draft :: home → d'.get? p = d.get? p) →
    ∀ s m data, d'.find B.cwd path ≠ .ok (B.draft :: home, .file s m data)
  single : ∀ q v, d.find B.cwd path = .ok (q, v) → d.twins (B.draft :: home) q = false

def Calm (path : Path) (d : Disk) : Prop := (∃ home, B.Sited path home d) ∨ B.Shut d

variable {B} {path : Path} {home : Place} {outside : Disk → Disk → Prop} {d d' : Disk} {es : List (Event kernel Disk)}

theorem name_ne_draft : B.name :: home ≠ B.draft :: home := fun e => B.apart (List.cons.inj e).1.symm

theorem home_ne {n : Name} : home ≠ n :: home := fun e => by simpa using congrArg List.length e

theorem Shut.makeDir (h : B.Shut d) {a : Path} (ha : a.Above B.dir) (hne : a.chars ≠ [])
    (hm : d.makeDir B.cwd a = .ok d') :
    B.Shut d' ∨ ∃ home, d'.Sound ∧ B.Open home d' ∧ ∀ n, d'.get? (n :: home) = none := by
  obtain ⟨x, hadded, henters, -⟩ := h.footed.makeDir h.sound ha hne hm
  by_cases hopen : ∃ home, B.Open home d'
  · obtain ⟨home, ho⟩ := hopen
    obtain rfl := henters home ho.1
    exact .inr ⟨home, hadded.sound, ho, hadded.empty⟩
  · exact .inl ⟨hadded.sound, fun home ho => hopen ⟨home, ho⟩, h.footed.keep hadded.roads⟩

theorem Moors.find (hp : B.Moors path) {r : Place × Node} (h : d.find B.cwd path = .ok r) :
    r.2 = .dir ∨ (path = B.file ∧ ∃ home, B.Open home d ∧ d.get? (B.name :: home) ≠ none) := by
  obtain rfl | hasks := hp.ending
  · obtain ⟨home, he, hd, hn⟩ := Disk.enters_of_find B.plainName h
    exact .inr ⟨rfl, home, ⟨he, hd⟩, hn⟩
  · exact .inl (Disk.find_asksDir hasks h)

theorem Open.unique {home' : Place} (h : B.Open home d) (h' : B.Open home' d) : home = home' :=
  Except.ok.inj (h.1.symm.trans h'.1)

theorem Moors.contents_none (hp : B.Moors path) (h : ∀ home, B.Open home d → d.get? (B.name :: home) = none) :
    d.contents B.cwd path = none := by
  rw [Disk.contents, Disk.read_eq]
  cases hf : d.find B.cwd path with
  | error e => rfl
  | ok r =>
    obtain hdir | ⟨-, home, ho, hn⟩ := hp.find hf
    · obtain ⟨place, v⟩ := r
      obtain rfl : v = .dir := hdir
      rfl
    · exact absurd (h home ho) hn

theorem Shut.contents (h : B.Shut d) (hp : B.Moors path) : d.contents B.cwd path = none :=
  hp.contents_none fun home ho => absurd ho (h.shut home)

theorem Open.sited (ho : B.Open home d) (hp : B.Moors path) (hs : d.Sound) (hempty : ∀ n, d.get? (n :: home) = none) :
    B.Sited path home d where
  sound := hs
  enters := ho.1
  dir := ho.2
  draft := fun target => by simp [hempty]
  clear := fun _ target ht => by simp [hempty] at ht
  aside := by
    intro d' hsame s m data hf
    have hroads : Disk.Roads d d' := by
      intro p v hv _
      have hpd : p ≠ B.draft :: home := by
        rintro rfl
        rw [hempty] at hv
        cases hv
      exact (hsame p hpd).trans hv
    have ho' : B.Open home d' := ⟨hroads.walkFrom ho.1 ho.2, hroads home .dir ho.2 (.inl rfl)⟩
    obtain hdir | ⟨-, home', ho'', hn⟩ := hp.find hf
    · cases hdir
    · obtain rfl := ho'.unique ho''
      exact hn ((hsame _ name_ne_draft).trans (hempty B.name))
  single := fun q v _ => by simp [Disk.twins, hempty]

namespace Sited

theorem aside_files (h : B.Sited path home d)
    (same : ∀ p, p ≠ B.draft :: home → d'.get? p = d.get? p ∨ (d.HasFile p ∧ d'.HasFile p)) {s m : Nat} {data : ByteArray} :
    d'.find B.cwd path ≠ .ok (B.draft :: home, .file s m data) := by
  intro hf
  have hv := (Disk.find_iff.mp hf).2.2
  have hget := Disk.get?_put d (p := B.draft :: home) (by simp) (.file s m data)
  have hdraft := (hget (B.draft :: home)).trans (if_pos rfl)
  -- the old disk with the new draft has the same directories and links
  have hroads : Disk.Roads d' (d.put (B.draft :: home) (.file s m data)) := by
    intro p v hpv hroad
    by_cases hp : p = B.draft :: home
    · subst hp
      exact hdraft.trans (hv.symm.trans hpv)
    · rw [hget, if_neg hp]
      obtain he | ⟨-, s', m', data', hfile⟩ := same p hp
      · exact he ▸ hpv
      · exact absurd (Option.some.inj (hpv.symm.trans hfile)) (Disk.Rewritten.not_file hroad s' m' data')
  exact h.aside _ (fun p hp => (hget p).trans (if_neg hp)) s m data (hroads.find hf (hdraft.trans hv.symm))

theorem same_or_file (hr : Disk.Rewritten (B.draft :: home) d d') {p : Place} (hp : p ≠ B.draft :: home) :
    d'.get? p = d.get? p ∨ (d.HasFile p ∧ d'.HasFile p) := by
  cases ht : d.twins (B.draft :: home) p with
  | false => exact .inl (hr.same p hp ht)
  | true =>
    obtain ⟨s, m, m', data, data', -, hfile⟩ := Disk.twins_iff.mp ht
    exact .inr ⟨⟨s, m', data', hfile⟩, hr.hasFile ⟨s, m', data', hfile⟩⟩

theorem rewritten (h : B.Sited path home d) (hr : Disk.Rewritten (B.draft :: home) d d') : B.Sited path home d' where
  toReady := h.toReady.rewritten hr
  clear := by
    intro hpath target ht
    have hclear := h.clear hpath target (hr.roads_back _ _ ht (.inr ⟨target, rfl⟩))
    have hroads : Disk.Roads (d.erase (B.name :: home)) (d'.erase (B.name :: home)) := by
      intro p v hv hroad
      rw [Disk.get?_erase _ (by simp)] at hv ⊢
      split at hv
      · cases hv
      · rename_i hp
        rw [if_neg hp]
        exact hr.roads p v hv hroad
    refine hroads.walkFrom hclear ?_
    rw [Disk.get?_erase _ (by simp), if_neg home_ne]
    exact h.dir
  aside := by
    intro d'' hsame s m data
    refine h.aside_files fun p hp => ?_
    simpa only [Disk.HasFile, hsame p hp] using same_or_file hr hp
  single := by
    intro q v hf
    rw [← Bool.not_eq_true]
    intro ht
    obtain ⟨s, m, m', data, data', -, hfile⟩ := Disk.twins_iff.mp ht
    obtain rfl : v = .file s m' data' := Option.some.inj ((Disk.find_iff.mp hf).2.2.symm.trans hfile)
    have hq : q ≠ B.draft :: home := by
      rintro rfl
      exact h.aside_files (fun p hp => same_or_file hr hp) hf
    rw [hr.twins q hq] at ht
    obtain ⟨s, -, m', -, data', -, hold⟩ := Disk.twins_iff.mp ht
    obtain ⟨w, hw⟩ := hr.roads_back.find_at hf ⟨s, m', data', hold⟩
    rw [h.single q w hw] at ht
    cases ht

theorem contents (h : B.Sited path home d) (hr : Disk.Rewritten (B.draft :: home) d d') :
    d'.contents B.cwd path = d.contents B.cwd path := by
  have hsame : ∀ {t t' : Disk} {r : Place × Node}, B.Sited path home t → t.find B.cwd path = .ok r →
      (t'.get? (B.draft :: home) = t.get? (B.draft :: home) ∨ t.get? (B.draft :: home) = none ∨
        t.HasFile (B.draft :: home)) →
      (∀ p, p ≠ B.draft :: home → t.twins (B.draft :: home) p = false → t'.get? p = t.get? p) →
      Disk.Roads t t' → t'.find B.cwd path = .ok r := by
    rintro t t' ⟨q, v⟩ ht hf hkept hoff hroads
    refine hroads.find hf ?_
    by_cases hq : q = B.draft :: home
    · subst hq
      have hv := (Disk.find_iff.mp hf).2.2
      obtain he | hnone | ⟨s, m, data, hfile⟩ := hkept
      · exact he
      · rw [hnone] at hv
        cases hv
      · rw [hfile] at hv
        cases hv
        exact absurd hf (ht.aside t (fun _ _ => rfl) s m data)
    · exact hoff q hq (ht.single q v hf)
  refine Disk.read_congr fun r => ⟨fun hf => ?_, fun hf => ?_⟩
  · refine hsame (h.rewritten hr) hf ?_ (fun p hp ht => ?_) hr.roads_back
    · obtain he | ⟨hfile, -⟩ := hr.kept
      · exact .inl he.symm
      · exact .inr (.inr hfile)
    · rw [hr.twins p hp] at ht
      exact (hr.same p hp ht).symm
  · refine hsame h hf ?_ hr.same hr.roads
    obtain he | ⟨-, hnone⟩ := hr.kept
    · exact .inl he
    · exact .inr hnone

theorem moved_enters (h : B.Sited B.file home d) {serial mode : Nat} {data : ByteArray}
    (hv : d.get? (B.draft :: home) = some (.file serial mode data)) (hnotdir : d.get? (B.name :: home) ≠ some .dir)
    (hmoved : Disk.Moved (B.draft :: home) (B.name :: home) d d') : d'.enters B.cwd B.dir = .ok home := by
  have hkeep : ∀ p v, p ≠ B.name :: home → d.get? p = some v → (v = .dir ∨ ∃ target, v = .link target) →
      d'.get? p = some v := by
    intro p v hp hpv hroad
    have hpd : p ≠ B.draft :: home := by
      rintro rfl
      rw [hv] at hpv
      cases hpv
      obtain h | ⟨_, h⟩ := hroad <;> cases h
    exact (hmoved.same p hpd hp).trans hpv
  by_cases hlink : ∃ target, d.get? (B.name :: home) = some (.link target)
  · obtain ⟨target, ht⟩ := hlink
    have hroads : Disk.Roads (d.erase (B.name :: home)) d' := by
      intro p v hpv hroad
      rw [Disk.get?_erase _ (by simp)] at hpv
      split at hpv
      · cases hpv
      · rename_i hp
        exact hkeep p v hp hpv hroad
    refine hroads.walkFrom (h.clear rfl target ht) ?_
    rw [Disk.get?_erase _ (by simp), if_neg home_ne]
    exact h.dir
  · have hroads : Disk.Roads d d' := by
      intro p v hpv hroad
      refine hkeep p v ?_ hpv hroad
      rintro rfl
      obtain rfl | ⟨target, rfl⟩ := hroad
      · exact hnotdir hpv
      · exact hlink ⟨target, hpv⟩
    exact hroads.walkFrom h.enters h.dir

theorem renamed (h : B.Sited B.file home d) {serial mode : Nat} {data : ByteArray}
    (hv : d.get? (B.draft :: home) = some (.file serial mode data)) (hr : d.rename B.cwd B.sketch B.file = .ok d') :
    B.Sited B.file home d' ∧ d'.read B.cwd B.file = .ok data ∧ d'.look B.cwd B.sketch = .error (.os .missing) := by
  obtain ⟨dir, n, slash, _, _, _, _, hsource, -⟩ := Disk.rename_eq_ok hr
  obtain ⟨rfl, he⟩ := h.holder B.plainDraft hsource
  cases he
  obtain ⟨htarget, ⟨htwins, -⟩ | ⟨-, hnotdir, hmoved⟩⟩ := h.toReady.rename hv hr
  · -- the path leads to the file, so the file is no second name of the draft
    obtain ⟨s, -, m, -, old, -, hfile⟩ := Disk.twins_iff.mp htwins
    rw [h.single _ _ (Disk.find_of_holder htarget hfile nofun)] at htwins
    cases htwins
  have hname : d'.get? (B.name :: dir) = some (.file serial mode data) := hmoved.arrived.trans hv
  have hdir : d'.get? dir = some .dir := (hmoved.same _ home_ne home_ne).trans h.dir
  have henters : d'.enters B.cwd B.dir = .ok dir := h.moved_enters hv hnotdir hmoved
  obtain ⟨hadmits, -, -, hlen, -⟩ := (Disk.holder_join B.plainName).mp htarget
  have hholder : d'.holder B.cwd B.file = .ok (dir, .name B.name false) :=
    (Disk.holder_join B.plainName).mpr ⟨hadmits, henters, hdir, hlen, rfl⟩
  obtain ⟨hadmits', -, -, hlen', -⟩ := (Disk.holder_join B.plainDraft).mp hsource
  have hholder' : d'.holder B.cwd B.sketch = .ok (dir, .name B.draft false) :=
    (Disk.holder_join B.plainDraft).mpr ⟨hadmits', henters, hdir, hlen', rfl⟩
  refine ⟨⟨⟨hmoved.sound, henters, hdir, fun target => by simp [hmoved.left]⟩, fun _ target ht => ?_, ?_,
    fun q v _ => by simp [Disk.twins, hmoved.left]⟩, ?_, ?_⟩
  · rw [hname] at ht
    cases ht
  · -- the file is no link, so a path to it does not lead on to the draft
    intro d'' hsame s m data' hf
    have hroads : Disk.Roads d' d'' := by
      intro p v hpv _
      have hpd : p ≠ B.draft :: dir := by
        rintro rfl
        rw [hmoved.left] at hpv
        cases hpv
      exact (hsame p hpd).trans hpv
    have hname'' := (hsame _ name_ne_draft).trans hname
    have hf' := Disk.find_of_holder (hroads.holder hholder) hname'' (by simp)
    have he := Except.ok.inj (hf.symm.trans hf')
    exact name_ne_draft (congrArg Prod.fst he).symm
  · rw [Disk.read_eq, Disk.find_of_holder hholder hname (by simp)]
    rfl
  · rw [Disk.look, hholder']
    simp [bind, Except.bind, hmoved.left]

end Sited

/-- The contents at the path are the old ones, and the save has not succeeded, or they are the new ones and no
draft is left, and the save has not failed. -/
def Kept (B : Berth) (s : Store) (d : Disk) (o : Option (Except Error Unit)) (d' : Disk) : Prop :=
  B.Calm s.path d' ∧ ((d'.contents B.cwd s.path = d.contents B.cwd s.path ∧ o ≠ some (.ok ())) ∨
    (d'.read B.cwd s.path = .ok s.record.text.toUTF8 ∧ d'.look B.cwd B.sketch = .error (.os .missing) ∧
      ∀ e, o ≠ some (.error e)))

theorem Sited.published {s : Store} (h : B.Sited s.path home d) (hp : B.Moors s.path) {o : Option (Except Error Unit)}
    (hpub : Ready.Published B home s d o d') : B.Kept s d o d' := by
  obtain ⟨hr, ho⟩ | ⟨t, serial, mode, hr, hv, hren, ho⟩ := hpub
  · exact ⟨.inl ⟨home, h.rewritten hr⟩, .inl ⟨h.contents hr, ho⟩⟩
  have ht := h.rewritten hr
  obtain hfile | hasks := hp.ending
  · rw [hfile] at ht hren
    obtain ⟨hsited, hread, hlook⟩ := ht.renamed hv hren
    refine ⟨.inl ⟨home, hfile ▸ hsited⟩, .inr ⟨hfile ▸ hread, hlook, ho⟩⟩
  · -- a file is not given a name that asks for a directory
    obtain ⟨dir, n, slash, _, _, _, _, hsource, -⟩ := Disk.rename_eq_ok hren
    obtain ⟨rfl, he⟩ := ht.holder B.plainDraft hsource
    cases he
    obtain ⟨dir', n', htarget, -⟩ := Disk.moved_of_rename ht.sound hsource hv rfl hren
    exact absurd htarget (Disk.holder_asksDir hasks)

theorem holder_ne (h : ∀ home, ¬ B.Open home d) {n : Name} (hn : Path.Plain n) (r : Place × Disk.Last) :
    d.holder B.cwd (B.dir / ⟨n⟩) ≠ .ok r := by
  intro hh
  obtain ⟨dir, last⟩ := r
  obtain ⟨-, he, hd, -⟩ := (Disk.holder_join hn).mp hh
  exact h dir ⟨he, hd⟩

theorem publish_still (h : ∀ home, ¬ B.Open home d) {s : Store} (hs : s.sibling = B.sketch) {o : Option (Except Error Unit)}
    (hc : s.publish.plan.Course (Kernel.law B.cwd outside) d es o d') : d' = d ∧ o ≠ some (.ok ()) := by
  have hcreate : ∀ r t, Kernel.law B.cwd outside (.create B.sketch) d r t → t = d ∧ ∀ hnd, r ≠ .ok hnd := by
    rintro r t (⟨e, rfl, rfl⟩ | ⟨hnd, rfl, hc⟩)
    · exact ⟨rfl, fun _ ho => by cases ho⟩
    · have hholder := holder_ne h B.plainDraft
      obtain ⟨dir, n, hh, -⟩ := Disk.create_eq_ok (fun _ _ _ _ hh => absurd hh (hholder _)) hc
      exact absurd hh (hholder _)
  rw [Store.publish, hs] at hc
  have hstill : ∀ {es : List (Event kernel Disk)} {t : Disk} {o : Option (Except Error Handle)} {wrap : Fault → Error},
      (Attempt.plan (Attempt.ofReply (Kernel.create B.sketch) wrap)).Course (Kernel.law B.cwd outside) d es o t →
        t = d ∧ ∀ hnd, o ≠ some (.ok hnd) := by
    intro es t o wrap hreply
    obtain ⟨o', hcall, rfl⟩ := Attempt.of_ofReply hreply
    obtain ⟨rfl, rfl, rfl | ⟨r, hl⟩⟩ | ⟨r, rfl, rfl, hl⟩ := hcall.of_call
    · exact ⟨rfl, fun _ ho => by cases ho⟩
    · exact ⟨(hcreate r t hl).1, fun _ ho => by cases ho⟩
    · refine ⟨(hcreate r t hl).1, fun hnd ho => ?_⟩
      cases r with
      | error e => cases ho
      | ok hnd' => exact (hcreate _ t hl).2 hnd' rfl
  obtain ⟨rfl, hcall⟩ | ⟨e, rfl, hcall⟩ | ⟨hnd, t, _, _, -, hcall, -⟩ := Attempt.of_bind hc
  · exact ⟨(hstill hcall).1, by simp⟩
  · exact ⟨(hstill hcall).1, by simp⟩
  · exact absurd rfl ((hstill hcall).2 hnd)

theorem Shut.publish (h : B.Shut d) {s : Store} (hp : B.Moors s.path) {o : Option (Except Error Unit)}
    (hc : s.publish.plan.Course (Kernel.law B.cwd outside) d es o d') : B.Kept s d o d' := by
  obtain ⟨rfl, ho⟩ := publish_still h.shut hp.sibling hc
  exact ⟨.inr h, .inl ⟨rfl, ho⟩⟩

theorem Calm.step (h : B.Calm path d) (hp : B.Moors path) {c : kernel.Call} {r : kernel.Reply c}
    (hc : (∃ a, c = .makeDir a ∧ a.Above B.dir ∧ a.chars ≠ []) ∨ ∃ a, c = .inspect a)
    (hl : Kernel.law B.cwd outside c d r d') :
    B.Calm path d' ∧ d'.contents B.cwd path = d.contents B.cwd path ∧ ∀ home, B.Ready home d → d' = d := by
  obtain ⟨a, rfl, ha, hne⟩ | ⟨a, rfl⟩ := hc
  · obtain ⟨e, -, rfl⟩ | ⟨u, -, hm⟩ := hl
    · exact ⟨h, rfl, fun _ _ => rfl⟩
    have hvain : ∀ home, ¬ B.Ready home d := by
      intro home hready
      obtain ⟨e, he⟩ := Disk.makeDir_above hready.enters ha hne
      rw [he] at hm
      cases hm
    obtain ⟨home, hsited⟩ | hshut := h
    · exact absurd hsited.toReady (hvain home)
    refine ⟨?_, ?_, fun home hready => absurd hready (hvain home)⟩
    · obtain hshut' | ⟨home, hsound, hopen, hempty⟩ := hshut.makeDir ha hne hm
      · exact .inr hshut'
      · exact .inl ⟨home, hopen.sited hp hsound hempty⟩
    · rw [hshut.contents hp]
      obtain hshut' | ⟨home, hsound, hopen, hempty⟩ := hshut.makeDir ha hne hm
      · exact hshut'.contents hp
      · refine hp.contents_none fun home' ho' => ?_
        obtain rfl := hopen.unique ho'
        exact hempty B.name
  · obtain ⟨rfl, -⟩ := hl
    exact ⟨h, rfl, fun _ _ => rfl⟩

theorem Calm.makeDirs (h : B.Calm path d) (hp : B.Moors path) {dir : Path} (hdir : ∀ a ∈ dir.ancestors, a.Above B.dir)
    {o : Option (Except Fault Unit)} (hc : (Kernel.makeDirs dir).Course (Kernel.law B.cwd outside) d es o d') :
    B.Calm path d' ∧ d'.contents B.cwd path = d.contents B.cwd path := by
  refine hc.keeps (Kernel.uses_makeChain hdir) (fun c t r t' hm ht hl => ?_)
    (P := fun t => B.Calm path t ∧ t.contents B.cwd path = d.contents B.cwd path) ⟨h, rfl⟩
  obtain ⟨hcalm, hsame, -⟩ := ht.1.step hp hm hl
  exact ⟨hcalm, hsame.trans ht.2⟩

theorem Kept.of_contents {s : Store} {t : Disk} {o : Option (Except Error Unit)}
    (ht : t.contents B.cwd s.path = d.contents B.cwd s.path) (h : B.Kept s t o d') : B.Kept s d o d' := by
  refine ⟨h.1, h.2.imp_left ?_⟩
  rintro ⟨hsame, ho⟩
  exact ⟨hsame.trans ht, ho⟩

theorem course_save {law : Law kernel Disk} {s : Store} (hp : s.path.parent? = B.file.parent?)
    {o : Option (Except Error Unit)} (hc : s.save.plan.Course law d es o d') :
    ∃ parent : Path, (∀ a ∈ parent.ancestors, a.Above B.dir) ∧
      ((o ≠ some (.ok ()) ∧ ∃ o', (Kernel.makeDirs parent).Course law d es o' d') ∨
        ∃ t es₁ es₂, (Kernel.makeDirs parent).Course law d es₁ (some (.ok ())) t ∧
          s.publish.plan.Course law t es₂ o d') := by
  obtain ⟨parent, hparent, habove⟩ := Path.parent?_join B.dir B.plainName
  rw [Store.save_eq (hp.trans hparent)] at hc
  refine ⟨parent, habove, ?_⟩
  obtain ⟨rfl, hmake⟩ | ⟨e, rfl, hmake⟩ | ⟨_, t, es₁, es₂, -, hmake, hrest⟩ := Attempt.of_bind hc
  · obtain ⟨o', hmake, -⟩ := Attempt.of_ofReply hmake
    exact .inl ⟨nofun, o', hmake⟩
  · obtain ⟨o', hmake, -⟩ := Attempt.of_ofReply hmake
    exact .inl ⟨nofun, o', hmake⟩
  · exact .inr ⟨t, es₁, es₂, Attempt.of_ofReply_ok hmake, hrest⟩

theorem Calm.save {s : Store} (h : B.Calm s.path d) (hp : B.Moors s.path) {o : Option (Except Error Unit)}
    (hc : s.save.plan.Course (Kernel.law B.cwd outside) d es o d') : B.Kept s d o d' := by
  obtain ⟨parent, habove, ⟨ho, o', hmake⟩ | ⟨t, _, _, hmake, hrest⟩⟩ := course_save hp.parent hc
  · obtain ⟨hcalm, hsame⟩ := h.makeDirs hp habove hmake
    exact ⟨hcalm, .inl ⟨hsame, ho⟩⟩
  · obtain ⟨⟨home, hsited⟩ | hshut, hsame⟩ := h.makeDirs hp habove hmake
    · exact .of_contents hsame (hsited.published hp (hsited.publish hp.sibling hrest))
    · exact .of_contents hsame (hshut.publish hp hrest)

end Berth

end Provision
