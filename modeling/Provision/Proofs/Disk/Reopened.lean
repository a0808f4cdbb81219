import Provision.Proofs.Disk.Step

set_option autoImplicit false

namespace Provision.Disk

variable {d d' d'' : Disk} {cwd : Place} {p : Path}

theorem walkFrom_resumed {k : Nat} {here q : Place} {a : List Name} (h : walkFrom d k here a = .ok q) (j : Nat) :
    ∃ i, ∀ b, walkFrom d i here (a ++ b) = walkFrom d (j + 1) q b := by
  obtain ⟨used, -, hbehind⟩ := walkFrom_behind h
  exact ⟨j + 1 + used, hbehind j⟩

theorem leads_of_openFrom {links : Nat} {hnd : Handle} (h : d.openFrom true plainMode links cwd p = .ok (hnd, d')) :
    admits p = .ok () ∧ ∃ n dir k, d.get? dir = some .dir ∧ d.Opened (n :: dir) hnd d' ∧
      walkFrom d' k (startOf cwd p) (stepsOf p) = .ok (n :: dir) := by
  induction links generalizing cwd p with
  | zero => cases h
  | succ links ih =>
    obtain ⟨dir, n, hh, hrest⟩ := openFrom_eq_ok h
    obtain ⟨ha, before, hs, hw, hd, h₁, h₂, hlen⟩ := stepsOf_holder hh
    have hlong : ¬ byteLength n > nameLimit := by omega
    refine ⟨ha, ?_⟩
    rw [hs]
    obtain ho | ⟨target, hv, hopen⟩ := hrest
    · have hw' := ho.roads.walkFrom hw hd
      obtain ⟨i, hi⟩ := walkFrom_resumed hw' 0
      refine ⟨n, dir, i, hd, ho, ?_⟩
      rw [hi, walkFrom]
      obtain ⟨s, m, -, hv⟩ | ⟨dev, -, hv⟩ := ho.leaf (by simp) <;>
        simp only [walkPlain, ho.roads dir .dir hd (.inl rfl), h₁, h₂, hlong, if_false, hv]
    · obtain ⟨-, n', dir', k, hd', ho, hk⟩ := ih hopen
      have hw' := ho.roads.walkFrom hw hd
      have hv' := ho.roads _ _ hv (.inr ⟨target, rfl⟩)
      obtain ⟨i, hi⟩ := walkFrom_resumed hw' k
      refine ⟨n', dir', i, hd', ho, ?_⟩
      rw [hi, walkFrom]
      simp only [walkPlain, ho.roads dir .dir hd (.inl rfl), h₁, h₂, hlong, if_false, hv', List.append_nil]
      exact hk

theorem find_of_walk {k : Nat} {x : Place} {v : Node} (ha : admits p = .ok ())
    (hw : walkFrom d k (startOf cwd p) (stepsOf p) = .ok x) (hv : d.get? x = some v) (hloop : d.isLoop cwd p = false) :
    d.find cwd p = .ok (x, v) := by
  obtain hw | hw := walkFrom_links hw (linkLimit + 1)
  · exact find_iff.mpr ⟨ha, hw, hv⟩
  · rw [isLoop, resolve, ha] at hloop
    simp [bind, Except.bind, hw, Except.mapError] at hloop

theorem find_created {hnd : Handle} (h : d.create cwd p = .ok (hnd, d')) :
    ∃ n dir, d.get? dir = some .dir ∧ d.Opened (n :: dir) hnd d' ∧ ∃ v, d'.find cwd p = .ok (n :: dir, v) := by
  obtain ⟨hopen, hloop⟩ := create_iff.mp h
  obtain ⟨ha, n, dir, k, hd, ho, hw⟩ := leads_of_openFrom hopen
  refine ⟨n, dir, hd, ho, ?_⟩
  obtain ⟨s, m, rfl, hv⟩ | ⟨dev, rfl, hv⟩ := ho.leaf (by simp)
  · exact ⟨_, find_of_walk ha hw hv hloop⟩
  · exact ⟨_, find_of_walk ha hw hv hloop⟩

theorem roads_revise (d : Disk) (serial : Nat) (f : ByteArray → ByteArray) : Roads d (d.revise serial f) := by
  intro p v hv hroad
  rw [get?_revise, hv]
  obtain rfl | ⟨target, rfl⟩ := hroad <;> rfl

theorem find_written {hnd : Handle} {data : ByteArray} (hc : d.create cwd p = .ok (hnd, d'))
    (hw : d'.write hnd data = .ok d'') :
    (∃ x s m, d''.find cwd p = .ok (x, .file s m data)) ∨
      ∃ x dev, d''.find cwd p = .ok (x, .device dev) ∧ (dev = .full → data.isEmpty = true) := by
  obtain ⟨n, dir, -, ho, v, hf⟩ := find_created hc
  obtain ⟨s, m, rfl, hleaf⟩ | ⟨dev, rfl, hleaf⟩ := ho.leaf (by simp)
  · obtain rfl : d'.revise s (· ++ data) = d'' := Except.ok.inj hw
    obtain ⟨ha, hwalk, -⟩ := find_iff.mp hf
    have hv : (d'.revise s (· ++ data)).get? (n :: dir) = some (.file s m data) := by
      rw [get?_revise, hleaf]
      simp [Node.revised]
    have hwalk' := (roads_revise d' s (· ++ data)).leads hwalk (.inr ⟨s, m, data, hv⟩)
    exact .inl ⟨_, s, m, find_iff.mpr ⟨ha, hwalk', hv⟩⟩
  · obtain rfl := write_device hw
    obtain rfl := Option.some.inj (hleaf.symm.trans (find_iff.mp hf).2.2)
    refine .inr ⟨_, dev, hf, ?_⟩
    rintro rfl
    cases hdata : data.isEmpty with
    | true => rfl
    | false => simp [write, hdata] at hw

end Provision.Disk
