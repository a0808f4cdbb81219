import Provision.Proofs.Disk.Step
import Provision.Proofs.Instant
import Mathlib.Data.List.Nodup
import Mathlib.Data.List.Perm.Subperm

set_option autoImplicit false

namespace Provision

namespace Path

variable {n : Name}

theorem suffix_join (a dir : Path) (hn : Plain n) : (dir / ⟨n⟩ : Path).chars <:+ (a / dir / ⟨n⟩ : Path).chars := by
  have hdir : dir.chars <:+ (a / dir : Path).chars := by
    show dir.chars <:+ (Path.join a dir).chars
    unfold join
    split
    · exact List.suffix_refl _
    · split
      · exact List.suffix_append _ _
      · exact ⟨a.chars ++ ['/'], by simp⟩
  obtain ⟨front, hfront⟩ := hdir
  have hjoin : ∀ p : Path, (p / ⟨n⟩ : Path).chars =
      if p.chars = [] ∨ p.chars.getLast? = some '/' then p.chars ++ n else p.chars ++ '/' :: n := by
    intro p
    show (Path.join p ⟨n⟩).chars = _
    rw [join, isAbsolute_plain hn]
    by_cases h : p.chars = [] ∨ p.chars.getLast? = some '/'
    · rw [if_pos h, if_neg (by simp), if_pos (by simpa using h)]
    · rw [if_neg h, if_neg (by simp), if_neg (by simpa using h)]
  rw [hjoin, hjoin, ← hfront]
  by_cases hempty : dir.chars = []
  · rw [if_pos (.inl hempty), hempty]
    split
    · exact ⟨front ++ [], by simp⟩
    · exact ⟨front ++ ['/'], by simp⟩
  · have hne : front ++ dir.chars ≠ [] := by simp [hempty]
    have hlast : (front ++ dir.chars).getLast? = dir.chars.getLast? := by
      cases hl : dir.chars.getLast? with
      | none => exact absurd (List.getLast?_eq_none_iff.mp hl) hempty
      | some c => simp [List.getLast?_append, hl]
    simp only [hempty, hne, false_or, hlast]
    split
    · exact ⟨front, by simp⟩
    · exact ⟨front, by simp⟩

end Path

namespace Disk

variable {d d' : Disk} {cwd place : Place} {dir : Path} {stem n : Name}

theorem byteLength_append (a b : List Char) : byteLength (a ++ b) = byteLength a + byteLength b := by
  induction a with
  | nil => simp [byteLength]
  | cons c a ih =>
    simp only [byteLength, List.cons_append, List.foldr_cons] at ih ⊢
    omega

theorem admits_suffix {p q : Path} (hp : p.chars ≠ []) (hs : p.chars <:+ q.chars) (h : admits q = .ok ()) :
    admits p = .ok () := by
  unfold admits at h ⊢
  obtain ⟨front, hq⟩ := hs
  rw [← hq] at h
  split at h
  · cases h
  · rename_i hzero
    split at h
    · cases h
    · split at h
      · cases h
      · rename_i hlong
        rw [byteLength_append] at hlong
        have hzero' : ¬ p.chars.contains (Char.ofNat 0) = true := by
          intro hc
          exact hzero (List.contains_iff_mem.mpr (List.mem_append_right _ (List.contains_iff_mem.mp hc)))
        rw [if_neg hzero', if_neg hp, if_neg (by omega)]

theorem tempName_injective (stem : Name) {i j : Nat} (h : tempName stem i = tempName stem j) : i = j := by
  have hp : Decimal.padded 6 i = Decimal.padded 6 j := List.append_cancel_left h
  rw [← Decimal.value_padded 6 i, hp, Decimal.value_padded]

theorem exists_free (d : Disk) (place : Place) (stem : Name) :
    ∃ i < d.entries.length + 1, d.get? (tempName stem i :: place) = none := by
  by_contra hno
  push Not at hno
  have hsub : ((List.range (d.entries.length + 1)).map fun i => tempName stem i :: place) ⊆ d.entries.map Prod.fst := by
    intro p hp
    obtain ⟨i, hi, rfl⟩ := List.mem_map.mp hp
    by_contra hout
    refine hno i (List.mem_range.mp hi) ?_
    rw [get?_of_ne _ (by simp), List.lookup_eq_none_iff]
    intro e he
    have hne : tempName stem i :: place ≠ e.1 := fun heq => hout (List.mem_map.mpr ⟨e, he, heq.symm⟩)
    simpa using hne
  have hinj : Function.Injective fun i => tempName stem i :: place :=
    fun i j h => tempName_injective stem (List.cons.inj h).1
  have hnodup : ((List.range (d.entries.length + 1)).map fun i => tempName stem i :: place).Nodup :=
    List.Nodup.map hinj List.nodup_range
  have hlen := (List.Nodup.subperm hnodup hsub).length_le
  simp only [List.length_map, List.length_range] at hlen
  omega

theorem freeName_eq (d : Disk) (place : Place) (stem : Name) :
    d.get? (d.freeName place stem :: place) = none ∧ ∃ i, d.freeName place stem = tempName stem i := by
  obtain ⟨i, hi, hfree⟩ := exists_free d place stem
  have hfound : ∃ n, ((List.range (d.entries.length + 1)).map (tempName stem)).find?
      (fun n => (d.get? (n :: place)).isNone) = some n := by
    rw [← Option.isSome_iff_exists, List.find?_isSome]
    exact ⟨tempName stem i, List.mem_map.mpr ⟨i, List.mem_range.mpr hi, rfl⟩, by simp [hfree]⟩
  obtain ⟨n, hn⟩ := hfound
  have hname : d.freeName place stem = n := by
    rw [freeName]
    simp only [hn, Option.getD_some]
  obtain ⟨j, -, rfl⟩ := List.mem_map.mp (List.mem_of_find?_eq_some hn)
  rw [hname]
  exact ⟨by simpa using List.find?_some hn, j, rfl⟩

theorem plain_tempName {i : Nat} (hstem : Path.Plain stem) (hlong : 2 ≤ stem.length) : Path.Plain (tempName stem i) where
  filled := by simp [tempName, hstem.filled]
  whole := by
    intro h
    obtain h | h := List.mem_append.mp h
    · exact hstem.whole h
    · have hdigit := Decimal.digits_padded 6 i '/' h
      revert hdigit
      decide
  notHere := by
    intro h
    have hlen := congrArg List.length h
    simp only [tempName, List.length_append, List.length_cons, List.length_nil] at hlen
    omega
  notUp := by
    intro h
    have hlen := congrArg List.length h
    have hpos : 0 < (Decimal.padded 6 i).length := List.length_pos_iff.mpr (Decimal.padded_ne_nil 6 i)
    simp only [tempName, List.length_append, List.length_cons, List.length_nil] at hlen
    omega

theorem enters_of_find_dir {v : Node} (h : d.find cwd (if dir.chars = [] then "." else dir) = .ok (place, v)) :
    v = .dir → d.enters cwd dir = .ok place := by
  rintro rfl
  obtain ⟨-, hw, hd⟩ := find_iff.mp h
  by_cases hempty : dir.chars = []
  · obtain rfl : dir = ⟨[]⟩ := by cases dir; simpa using hempty
    have hsteps : stepsOf (Path.ofString ".") = [['.']] := by decide
    have hstart : startOf cwd (Path.ofString ".") = cwd := rfl
    rw [if_pos rfl, hsteps, hstart] at hw
    have hcwd := (walkFrom_cons hw).1
    simpa [walkFrom, walkPlain, hcwd, enters, startOf, Path.isAbsolute, Path.steps, Path.segments] using hw
  · rw [if_neg hempty] at hw
    by_cases hslash : dir.chars.getLast? = some '/'
    · have hsteps : stepsOf dir = dir.steps ++ [['.']] := by simp [stepsOf, hslash, Path.steps]
      rw [hsteps] at hw
      obtain ⟨q, j, hq, hdot⟩ := walkFrom_append hw
      have hqd := (walkFrom_cons hdot).1
      obtain rfl : q = place := by simpa [walkFrom, walkPlain, hqd] using hdot
      exact hq
    · have hsteps : stepsOf dir = dir.steps := by simp [stepsOf, hslash, Path.steps]
      rwa [hsteps] at hw

theorem createTemp_inv {temp : Path} {hnd : Handle} (h : d.createTemp cwd dir stem = .ok ((temp, hnd), d')) :
    ∃ place, d.find cwd (if dir.chars = [] then "." else dir) = .ok (place, .dir) ∧
      admits (⟨'/' :: Path.joined cwd.reverse⟩ / dir / ⟨d.freeName place stem⟩) = .ok () ∧
      byteLength (d.freeName place stem) ≤ nameLimit ∧ temp = dir / ⟨d.freeName place stem⟩ ∧ hnd = .file d.next ∧
      d' = d.addFile (d.freeName place stem :: place) privateMode ByteArray.empty := by
  unfold createTemp at h
  obtain ⟨⟨place, v⟩, hf, h⟩ := bind_eq_ok.mp h
  cases v with
  | dir =>
    obtain ⟨_, ha, h⟩ := bind_eq_ok.mp h
    split at h
    · cases h
    · rename_i hlen
      cases h
      exact ⟨place, hf, ha, by omega, rfl, rfl, rfl⟩
  | _ => cases h

theorem createTemp_eq_ok {temp : Path} {hnd : Handle} (hd : d.Sound) (hstem : Path.Plain stem) (hlong : 2 ≤ stem.length)
    (h : d.createTemp cwd dir stem = .ok ((temp, hnd), d')) :
    ∃ n place, d.holder cwd temp = .ok (place, .name n false) ∧ d.get? (n :: place) = none ∧ hnd = .file d.next ∧
      Rewritten (n :: place) d d' ∧ d'.get? (n :: place) = some (.file d.next privateMode ByteArray.empty) := by
  obtain ⟨place, hf, ha, hlen, rfl, rfl, rfl⟩ := createTemp_inv h
  obtain ⟨hfree, i, hi⟩ := freeName_eq d place stem
  have hplain : Path.Plain (d.freeName place stem) := hi ▸ plain_tempName hstem hlong
  have hplace : d.get? place = some .dir := (find_iff.mp hf).2.2
  have hadmits := admits_suffix (Path.join_ne_nil dir hplain) (Path.suffix_join _ dir hplain) ha
  refine ⟨d.freeName place stem, place, ?_, hfree, rfl, Rewritten.addFile hd hplace hfree _ _⟩
  exact (holder_join hplain).mpr ⟨hadmits, enters_of_find_dir hf rfl, hplace, by omega, rfl⟩

theorem setMode_eq_ok {p : Path} {s m mode : Nat} {data : ByteArray} (hd : d.Sound)
    (hh : d.holder cwd p = .ok (place, .name n false)) (hv : d.get? (n :: place) = some (.file s m data))
    (h : d.setMode cwd p mode = .ok d') :
    Rewritten (n :: place) d d' ∧ d'.get? (n :: place) = some (.file s mode data) := by
  have hf := find_of_holder hh hv (by simp)
  unfold setMode at h
  simp only [hf, bind, Except.bind, Except.ok.injEq] at h
  subst h
  exact Rewritten.chmod hd hv mode

theorem unlink_file {p : Path} (hh : d.holder cwd p = .ok (place, .name n false)) (hv : d.HasFile (n :: place)) :
    d.unlink cwd p = .ok (d.erase (n :: place)) := by
  obtain ⟨s, m, data, hv⟩ := hv
  unfold unlink
  simp [hh, hv, bind, Except.bind]

end Disk

end Provision
