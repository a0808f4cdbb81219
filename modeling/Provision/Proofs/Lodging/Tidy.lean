import Provision.Nightly
import Provision.Proofs.Patch
import Provision.Proofs.Store.Contents
import Provision.Proofs.Server.History

/-!
A storage directory that is in order, or that is not there yet and will be empty when it is made. No step that the
program takes on a name of its own disturbs the order, and none but a save changes what is read as the record.
-/

set_option autoImplicit false

namespace Provision

namespace Lodging

variable (L : Lodging)

def packageName : Name := Nightly.asset.toList

def package : Path := L.storage / Path.ofString Nightly.asset

theorem plain_package : Path.Plain packageName := by decide

theorem package_not_name : packageName ∉ L.names := by
  unfold names asideName binaryName
  cases L.platform <;> decide

theorem package_ne {n : Name} (hn : n ∈ L.names) (home : Place) : packageName :: home ≠ n :: home := by
  intro he
  obtain ⟨rfl, -⟩ := List.cons.inj he
  exact L.package_not_name hn

theorem package_not_own (home : Place) : ¬ (L.movedTo home).Own (packageName :: home) := by
  rintro ⟨n, hn, hs⟩
  have he : n :: home = packageName :: home := hs.eq_of_length (by simp [movedTo])
  exact L.package_not_name ((List.cons.inj he).1 ▸ hn)

/-- The directory is in order, and the package in it is no link. -/
structure Homely (home : Place) (d : Disk) : Prop where
  lodged : (L.movedTo home).Lodged d
  package : ∀ target, d.get? (packageName :: home) ≠ some (.link target)

/-- The directory is in order, or it is not there and making it will not bring to light one that was. -/
def Tidy (d : Disk) : Prop := (∃ home, L.Homely home d) ∨ L.berth.Shut d

/-- The directory stays in order, and what is read as the record stays the same. -/
def Respects (d d' : Disk) : Prop := L.Tidy d' ∧ d'.read L.cwd L.statePath = d.read L.cwd L.statePath

variable {L} {home : Place} {outside : Disk → Disk → Prop} {d d' d'' : Disk} {es : List (Event kernel Disk)}

theorem Tidy.refl (h : L.Tidy d) : L.Respects d d := ⟨h, rfl⟩

theorem Respects.trans (h : L.Respects d d') (h' : L.Respects d' d'') : L.Respects d d'' := ⟨h'.1, h'.2.trans h.2⟩

theorem Lodged.around (h : L.Lodged d) {x : Place} (hx : x ≠ []) (hown : ¬ L.Own x) (hdir : d.get? x ≠ some .dir)
    (hlink : ∀ target, d.get? x ≠ some (.link target)) (sound : d'.Sound) (same : ∀ p, p ≠ x → d'.get? p = d.get? p) :
    L.Lodged d' := by
  have hne : ∀ {p : Place}, L.Own p → p ≠ x := by
    rintro p hp rfl
    exact hown hp
  have hhome : L.home ≠ x := by
    rintro rfl
    exact hdir h.dir
  refine ⟨sound, fun t ht => ?_, (same _ hhome).trans h.dir, fun target => ?_, fun target => ?_⟩
  · -- with the old entry back in its place the disk differs from the old one in the program's own names only
    obtain ⟨u, hux, hu⟩ : ∃ u : Disk, u.get? x = d.get? x ∧ ∀ p, p ≠ x → u.get? p = t.get? p := by
      cases hv : d.get? x with
      | none =>
        have hget := Disk.get?_erase t hx
        exact ⟨t.erase x, (hget x).trans (if_pos rfl), fun p hp => (hget p).trans (if_neg hp)⟩
      | some v =>
        have hget := Disk.get?_put t hx v
        exact ⟨t.put x v, (hget x).trans (if_pos rfl), fun p hp => (hget p).trans (if_neg hp)⟩
    have hback : u.enters L.cwd L.storage = .ok L.home := by
      refine h.way u fun p hp => ?_
      by_cases he : p = x
      · rw [he, hux]
      · rw [hu p he, ht p hp, same p he]
    have hroads : Disk.Roads u t := by
      intro p v hv hroad
      by_cases he : p = x
      · rw [he, hux] at hv
        obtain rfl | ⟨target, rfl⟩ := hroad
        · exact absurd hv hdir
        · exact absurd hv (hlink target)
      · exact (hu p he).symm.trans hv
    exact hroads.walkFrom hback ((hu _ hhome).trans ((ht _ L.not_own_home).trans ((same _ hhome).trans h.dir)))
  · rw [same _ (hne own_record)]
    exact h.record target
  · rw [same _ (hne own_draft)]
    exact h.draft target

namespace Homely

theorem respects (h : L.Homely home d) (h' : L.Homely home d')
    (hsame : d'.get? (recordName :: home) = d.get? (recordName :: home)) : L.Respects d d' := by
  have hread := h.lodged.read
  have hread' := h'.lodged.read
  refine ⟨.inl ⟨home, h'⟩, ?_⟩
  rw [show L.statePath = (L.movedTo home).statePath from rfl, show L.cwd = (L.movedTo home).cwd from rfl, hread, hread',
    show (L.movedTo home).record = recordName :: home from rfl, hsame]

theorem spared (h : L.Homely home d) (hs : (L.movedTo home).Spares d d')
    (hsame : d'.get? (packageName :: home) = d.get? (packageName :: home)) : L.Respects d d' :=
  h.respects ⟨hs.lodged, fun target => by rw [hsame]; exact h.package target⟩ hs.record

theorem unlink_package (h : L.Homely home d) (hu : d.unlink L.cwd L.package = .ok d') : L.Respects d d' := by
  obtain ⟨dir, n, hh, -, hdir, rfl⟩ := Disk.unlink_eq_ok hu
  obtain ⟨hd, he⟩ := h.lodged.holder plain_package hh
  obtain rfl : home = dir := hd.symm
  cases he
  change d.get? (packageName :: home) ≠ some .dir at hdir
  have hget := Disk.get?_erase d (p := packageName :: home) (by simp)
  have hsame : ∀ p, p ≠ packageName :: home → (d.erase (packageName :: home)).get? p = d.get? p :=
    fun p hp => (hget p).trans (if_neg hp)
  refine h.respects ⟨h.lodged.around (by simp) (L.package_not_own home) hdir h.package
    (h.lodged.sound.erase (by simp) hdir) hsame, fun target => ?_⟩ (hsame _ (L.package_ne (by simp [names]) home).symm)
  rw [hget, if_pos rfl]
  simp

theorem unlink (h : L.Homely home d) {n : Name} (hn : L.Binary n) (hu : d.unlink L.cwd (L.storage / ⟨n⟩) = .ok d') :
    L.Respects d d' := by
  have hs := h.lodged.unlink_spares hn hu
  obtain ⟨rfl, -⟩ := h.lodged.unlink hn.plain hu
  refine h.spared hs ?_
  rw [Disk.get?_erase _ (by simp), if_neg]
  obtain rfl | rfl := hn
  · exact L.package_ne (by simp [names]) home
  · exact L.package_ne (by simp [names]) home

theorem rename (h : L.Homely home d) {m n : Name} (hm : L.Binary m) (hn : L.Binary n) (hne : m ≠ n)
    (hr : d.rename L.cwd (L.storage / ⟨m⟩) (L.storage / ⟨n⟩) = .ok d') : L.Respects d d' := by
  have hs := h.lodged.rename_spares hm hn hne hr
  have happart : ∀ k, L.Binary k → ¬ k :: home <:+ packageName :: home := by
    rintro k hk hsuffix
    refine L.package_not_own home ⟨k, ?_, hsuffix⟩
    obtain rfl | rfl := hk <;> simp [movedTo, names, binaryName, asideName]
  refine h.spared hs ?_
  obtain ⟨-, -, ⟨-, rfl⟩ | ⟨-, rfl, -⟩⟩ := h.lodged.rename hm.plain hn.plain hne hr
  · rfl
  · have hget := Disk.get?_move d (p := m :: home) (q := n :: home) (by simp) (by simp) (packageName :: home)
    exact hget.trans (by rw [if_neg (happart n hn), if_neg (happart m hm)])

theorem published (h : L.Homely home d) {s : Store} (hp : s.path = L.statePath) {o : Option (Except Error Unit)}
    (hpub : Berth.Ready.Published L.berth home s d o d') : L.Homely home d' := by
  refine ⟨(h.lodged.published hp hpub).lodged, fun target ht => ?_⟩
  obtain ⟨hr, -⟩ | ⟨t, serial, mode, hr, hv, hren, -⟩ := hpub
  · exact h.package target (hr.roads_back _ _ ht (.inr ⟨target, rfl⟩))
  · rw [hp] at hren
    obtain ⟨-, -, hsame, -⟩ := (h.lodged.rewritten hr).rename_draft hv hren
    rw [hsame _ (L.package_ne (by simp [names]) home) (L.package_ne (by simp [names]) home)] at ht
    exact h.package target (hr.roads_back _ _ ht (.inr ⟨target, rfl⟩))

theorem of_empty (hs : d.Sound) (ho : L.berth.Open home d) (hempty : ∀ n, d.get? (n :: home) = none) :
    L.Homely home d where
  lodged := Server.Fresh.lodged (L := L.movedTo home) ⟨hs, ho.1, ho.2, hempty⟩
  package := fun target => by simp [hempty]

end Homely

namespace Tidy

theorem unlink_package (h : L.Tidy d) (hu : d.unlink L.cwd L.package = .ok d') : L.Respects d d' := by
  obtain ⟨home, hh⟩ | hshut := h
  · exact hh.unlink_package hu
  · obtain ⟨dir, n, hholder, -⟩ := Disk.unlink_eq_ok hu
    exact absurd hholder (Berth.holder_ne hshut.shut plain_package _)

theorem unlink (h : L.Tidy d) {n : Name} (hn : L.Binary n) (hu : d.unlink L.cwd (L.storage / ⟨n⟩) = .ok d') :
    L.Respects d d' := by
  obtain ⟨home, hh⟩ | hshut := h
  · exact hh.unlink hn hu
  · obtain ⟨dir, n, hholder, -⟩ := Disk.unlink_eq_ok hu
    exact absurd hholder (Berth.holder_ne hshut.shut hn.plain _)

theorem rename (h : L.Tidy d) {m n : Name} (hm : L.Binary m) (hn : L.Binary n) (hne : m ≠ n)
    (hr : d.rename L.cwd (L.storage / ⟨m⟩) (L.storage / ⟨n⟩) = .ok d') : L.Respects d d' := by
  obtain ⟨home, hh⟩ | hshut := h
  · exact hh.rename hm hn hne hr
  · obtain ⟨dir, _, _, _, _, _, _, hholder, -⟩ := Disk.rename_eq_ok hr
    exact absurd hholder (Berth.holder_ne hshut.shut hm.plain _)

theorem makeDirs (h : L.Tidy d) {dir : Path} (hdir : ∀ a ∈ dir.ancestors, a.Above L.storage)
    {o : Option (Except Fault Unit)} (hc : (Kernel.makeDirs dir).Course (Kernel.law L.cwd outside) d es o d') :
    L.Tidy d' := by
  refine Kernel.makeDirs_keeps hdir (fun ha hne ht hm => ?_) h hc
  obtain ⟨home, hh⟩ | hshut := ht
  · obtain ⟨e, he⟩ := Disk.makeDir_above hh.lodged.enters ha hne
    cases he.symm.trans hm
  · obtain hshut' | ⟨home, hsound, hopen, hempty⟩ := hshut.makeDir ha hne hm
    · exact .inr hshut'
    · exact .inl ⟨home, .of_empty hsound hopen hempty⟩

theorem save (h : L.Tidy d) {s : Store} (hp : s.path = L.statePath) {o : Option (Except Error Unit)}
    (hc : s.save.plan.Course (Kernel.law L.cwd outside) d es o d') :
    L.Tidy d' ∧ (o = some (.ok ()) → d'.read L.cwd L.statePath = .ok s.record.text.toUTF8) := by
  obtain ⟨parent, habove, ⟨ho, o', hmake⟩ | ⟨t, _, _, hmake, hrest⟩⟩ :=
    Berth.course_save (B := L.berth) (by rw [hp]; rfl) hc
  · exact ⟨h.makeDirs habove hmake, fun h => absurd h ho⟩
  · obtain ⟨home, hh⟩ | hshut := h.makeDirs habove hmake
    · have hpub := hh.lodged.ready.publish (L.sibling_eq hp) hrest
      refine ⟨.inl ⟨home, hh.published hp hpub⟩, ?_⟩
      rintro rfl
      exact hh.lodged.published_read hp hpub
    · obtain ⟨rfl, ho⟩ := Berth.publish_still hshut.shut (L.sibling_eq hp) hrest
      exact ⟨.inr hshut, fun h => absurd h ho⟩

end Tidy

end Lodging

end Provision
