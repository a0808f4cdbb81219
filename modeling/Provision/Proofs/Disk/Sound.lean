import Provision.Proofs.Disk.Temp
import Provision.Proofs.Law

set_option autoImplicit false

namespace Provision

namespace Disk

variable {d d' : Disk} {cwd : Place} {p q : Path}

theorem hasChildren_of_get? {n : Name} {place : Place} {v : Node} (h : d.get? (n :: place) = some v) :
    d.hasChildren place = true := by
  refine List.any_eq_true.mpr ⟨_, mem_of_get? (by simp) h, ?_⟩
  simp

theorem rename_tree {dir dir' : Place} {n n' : Name} {slash slash' : Bool} (hsound : d.Sound) (h : d.rename cwd p q = .ok d')
    (hp : d.holder cwd p = .ok (dir, .name n slash)) (hq : d.holder cwd q = .ok (dir', .name n' slash'))
    (hv : d.get? (n :: dir) = some .dir) (hne : n :: dir ≠ n' :: dir') :
    ¬ n :: dir <:+ n' :: dir' ∧ ∀ k, d.get? (k :: n' :: dir') = none := by
  have htwins : d.twins (n :: dir) (n' :: dir') = false := by simp [twins, hv]
  have hbelow : ¬ isUnder (n :: dir) (n' :: dir') = true := by
    intro hunder
    simp [Disk.rename, hp, hq, bind, Except.bind, hv, hne, htwins, hunder, Node.isDir] at h
  refine ⟨mt isUnder_iff.mpr hbelow, fun k => ?_⟩
  cases hk : d.get? (k :: n' :: dir') with
  | none => rfl
  | some w =>
    have hfull := hasChildren_of_get? hk
    have htarget := hsound.inside hk
    simp [Disk.rename, hp, hq, bind, Except.bind, hv, hne, htwins, hbelow, htarget, hfull, Node.isDir] at h

namespace Sound

theorem makeDir (h : d.Sound) (hm : d.makeDir cwd p = .ok d') : d'.Sound := by
  obtain ⟨dir, n, slash, hh, hnone, rfl⟩ := makeDir_eq_ok hm
  obtain ⟨-, _, -, -, hdir, -⟩ := holder_name.mp hh
  exact h.put hdir (by simp [hnone]) nofun

theorem create (h : d.Sound) {hnd : Handle} (hc : d.create cwd p = .ok (hnd, d')) : d'.Sound := by
  obtain ⟨dir, n, hdir, hopened⟩ := opened_of_openFrom (create_iff.mp hc).1
  exact (hopened.rewritten h hdir).1.sound

theorem createTemp (h : d.Sound) {stem : Name} {made : Path × Handle} (hc : d.createTemp cwd p stem = .ok (made, d')) :
    d'.Sound := by
  obtain ⟨place, hfind, -, -, -, -, rfl⟩ := createTemp_inv hc
  exact h.addFile (find_iff.mp hfind).2.2 (freeName_eq d place stem).1 _ _

theorem write (h : d.Sound) {hnd : Handle} {data : ByteArray} (hw : d.write hnd data = .ok d') : d'.Sound := by
  cases hnd with
  | file s =>
    obtain rfl : d.revise s (· ++ data) = d' := Except.ok.inj hw
    exact h.revise s _
  | device dev =>
    obtain rfl := write_device hw
    exact h

theorem setMode (h : d.Sound) {mode : Nat} (hm : d.setMode cwd p mode = .ok d') : d'.Sound := by
  unfold Disk.setMode at hm
  obtain ⟨⟨place, v⟩, -, hm⟩ := bind_eq_ok.mp hm
  cases v with
  | file s m data =>
    obtain rfl : d.chmod s mode = d' := Except.ok.inj hm
    exact h.chmod s mode
  | _ =>
    obtain rfl : d = d' := Except.ok.inj hm
    exact h

theorem unlink (h : d.Sound) (hu : d.unlink cwd p = .ok d') : d'.Sound := by
  obtain ⟨dir, n, -, -, hleaf, rfl⟩ := unlink_eq_ok hu
  exact h.erase (by simp) hleaf

theorem rename (h : d.Sound) (hr : d.rename cwd p q = .ok d') : d'.Sound := by
  obtain ⟨dir, n, slash, dir', n', slash', v, hp, hq, hv, -, ⟨-, rfl⟩ | ⟨hne, -, rfl, hleaf⟩⟩ := rename_eq_ok hr
  · exact h
  have hdir' : d.get? dir' = some .dir := by
    obtain ⟨-, _, -, -, hdir, -⟩ := holder_name.mp hq
    exact hdir
  cases hd : v.isDir with
  | false => exact (h.move_leaf hv hd hdir' (hleaf hd) hne).1
  | true =>
    obtain rfl : v = .dir := by
      cases v with
      | dir => rfl
      | _ => cases hd
    obtain ⟨hbelow, hempty⟩ := rename_tree h hr hp hq hv hne
    refine h.move (by simp) hdir' hbelow ?_
    -- the way up from the directory would lead to an entry right below the empty target
    rintro ⟨below, hway⟩
    obtain rfl | ⟨below, k, rfl⟩ := below.eq_nil_or_concat'
    · exact hne hway.symm
    · rw [List.append_assoc, List.singleton_append] at hway
      have hnone : d.get? (below ++ k :: n' :: dir') = none := by
        cases below with
        | nil => exact hempty k
        | cons => exact h.below (by simp [hempty k]) _ (by simp)
      rw [hway, hv] at hnone
      cases hnone

end Sound

end Disk

namespace Kernel

variable {cwd : Place} {d d' : Disk}

/-- A call that the disk or the network answers, and no other program. -/
def Direct (c : kernel.Call) : Prop := ∀ program args input, c ≠ .launch program args input

theorem Took.sound {α : Type} {r : Except Fault α} {step : α → Prop} (h : Took d r d' step) (hd : d.Sound)
    (hstep : ∀ a, step a → d'.Sound) : d'.Sound := by
  obtain ⟨e, -, rfl⟩ | ⟨a, -, ha⟩ := h
  · exact hd
  · exact hstep a ha

theorem strict_sound {c : kernel.Call} {r : kernel.Reply c} (hc : Direct c) (hd : d.Sound) (h : strict cwd c d r d') :
    d'.Sound := by
  cases c with
  | makeDir p => exact Took.sound h hd fun _ => hd.makeDir
  | create p => exact Took.sound h hd fun _ => hd.create
  | createTemp dir stem => exact Took.sound h hd fun _ => hd.createTemp
  | setMode p mode => exact Took.sound h hd fun _ => hd.setMode
  | rename p q => exact Took.sound h hd fun _ => hd.rename
  | write hnd data =>
    obtain ⟨-, hw⟩ | ⟨e, -, rfl | ⟨part, rest, -, hw⟩⟩ := h
    · exact hd.write hw
    · exact hd
    · exact hd.write hw
  | unlink p =>
    obtain ⟨e, -, -, rfl⟩ | ⟨-, hu⟩ := h
    · exact hd
    · exact hd.unlink hu
  | launch program args input => exact absurd rfl (hc program args input)
  | inspect p => exact h.1 ▸ hd
  | read p => exact h.1 ▸ hd
  | flush hnd => exact h.1 ▸ hd
  | sync hnd => exact h.1 ▸ hd
  | locate name => exact (show d' = d from h) ▸ hd
  | exchange q => exact (show d' = d from h) ▸ hd
  | pause ms => exact (show d' = d from h) ▸ hd
  | log e => exact (show d' = d from h) ▸ hd

theorem sound_of_course {α : Type} {p : Plan kernel α} {es : List (Event kernel Disk)} {o : Option α}
    (hp : p.Uses (I := kernel) Direct) (hd : d.Sound) (hc : p.Course (strict cwd) d es o d') : d'.Sound :=
  hc.keeps hp (fun _ _ _ _ hc hd hl => strict_sound hc hd hl) hd

end Kernel

end Provision
