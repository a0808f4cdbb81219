import Provision.Proofs.Patch
import Provision.Proofs.Delivery

/-!
Patching never loses the binary. While the build tool works the binary waits beside its place; if the tool fails it is
moved back over whatever the tool has left, and only a directory can be in the way of that.
-/

set_option autoImplicit false

namespace Provision

namespace Patch

open Disk (Roads)

variable {cwd dir : Place} {tool dest : Path} {n : Name} {d d' t t' : Disk}

def asideName (n : Name) : Name := n ++ "-orig".toList

theorem asideName_ne (n : Name) (dir : Place) : asideName n :: dir ≠ n :: dir := by
  intro h
  have hlen := congrArg List.length (List.cons.inj h).1
  simp [asideName] at hlen

theorem aside_apart (n : Name) (dir : Place) : ¬ n :: dir <:+ asideName n :: dir := by
  intro h
  exact asideName_ne n dir (h.eq_of_length rfl).symm

/-- The law of a disk that takes every step that can be taken; what the tool does to it is left open. -/
def law (cwd : Place) (outside : Disk → Disk → Prop) : Law kernel Disk
  | .rename p q, d, r, d' => r = (d.rename cwd p q).map (fun _ => ()) ∧ d' = (d.rename cwd p q).toOption.getD d
  | .unlink p, d, r, d' => r = (d.unlink cwd p).map (fun _ => ()) ∧ d' = (d.unlink cwd p).toOption.getD d
  | .launch _ _ _, d, _, d' => outside d d'
  | c, d, r, d' => Kernel.strict cwd c d r d'

/-- Nothing is changed but the entry at a place, what is below it, and, if it is a file, the file under its other names. -/
structure Confined (x : Place) (t t' : Disk) : Prop where
  sound : t'.Sound
  same : ∀ p, ¬ x <:+ p → t.twins x p = false → t'.get? p = t.get? p

theorem confined_addFile (h : t.Sound) (hdir : t.get? dir = some .dir) (hn : t.get? (n :: dir) = none) (mode : Nat)
    (data : ByteArray) : Confined (n :: dir) t (t.addFile (n :: dir) mode data) where
  sound := h.addFile hdir hn mode data
  same := by
    intro p hp _
    have hne : p ≠ n :: dir := by
      rintro rfl
      exact hp (List.suffix_refl _)
    rw [Disk.get?_addFile t (by simp), if_neg hne]

theorem confined_revise (h : t.Sound) {s m : Nat} {data : ByteArray} (hv : t.get? (n :: dir) = some (.file s m data))
    (f : ByteArray → ByteArray) : Confined (n :: dir) t (t.revise s f) where
  sound := h.revise s f
  same := fun p hp htwins => (Disk.Rewritten.revise h hv f).1.same p (by rintro rfl; exact hp (List.suffix_refl _)) htwins

/-- What the path names is no directory, the way to it goes neither by that entry nor by the one that it is moved to, and
these are not names of one file. -/
structure Placed (cwd : Place) (dest : Path) (dir : Place) (n : Name) (d : Disk) : Prop where
  sound : d.Sound
  way : (d.without [n :: dir, asideName n :: dir]).holder cwd dest = .ok (dir, .name n false)
  leaf : ∃ v, d.get? (n :: dir) = some v ∧ v.isDir = false
  single : d.twins (n :: dir) (asideName n :: dir) = false

/-- The entry waits beside its place, and there alone something else may have been done. -/
structure Waits (cwd : Place) (dest : Path) (dir : Place) (n : Name) (d t : Disk) : Prop where
  sound : t.Sound
  free : d.get? (asideName n :: dir) ≠ some .dir
  beside : (d.without [n :: dir, asideName n :: dir]).holder cwd (aside dest) = .ok (dir, .name (asideName n) false)
  waits : t.get? (asideName n :: dir) = d.get? (n :: dir)
  same : ∀ p, ¬ n :: dir <:+ p → p ≠ asideName n :: dir → t.get? p = d.get? p

theorem holder_aside (way : d.holder cwd dest = .ok (dir, .name n false)) (roads : Roads d t) {place : Place} {m : Name}
    {slash : Bool} (h : t.holder cwd (aside dest) = .ok (place, .name m slash)) :
    place = dir ∧ m = asideName n ∧ slash = false ∧
      d.holder cwd (aside dest) = .ok (dir, .name (asideName n) false) := by
  obtain ⟨-, before, hs, hw, hd, -, -, -, hslash⟩ := Disk.holder_name.mp way
  obtain ⟨ha, before', hs', hw', -, hdot, hup, hlen, hslash'⟩ := Disk.holder_name.mp h
  have hlast : dest.chars.getLast? ≠ some '/' := by simpa using hslash
  have hchars : dest.chars ≠ [] := by
    intro he
    simp [Path.steps, he, Path.segments] at hs
  have hstart : Disk.startOf cwd (aside dest) = Disk.startOf cwd dest := by
    rw [Disk.startOf, Disk.startOf, aside, Path.isAbsolute_suffixed hchars]
  have hsteps : (aside dest).steps = before ++ [asideName n] := Path.steps_suffixed hs hlast (by decide)
  obtain ⟨rfl, hm⟩ := List.append_inj' (hs'.symm.trans hsteps) rfl
  obtain rfl : m = asideName n := by simpa using hm
  have hend : (aside dest).chars.getLast? = some 'g' := by simp [aside, Path.suffixed]
  obtain rfl : slash = false := by simpa [hend] using hslash'
  rw [hstart] at hw'
  obtain rfl : place = dir := Except.ok.inj (hw'.symm.trans (roads.walkFrom hw hd))
  exact ⟨rfl, rfl, rfl, Disk.holder_name.mpr ⟨ha, before', hs', hstart ▸ hw, hd, hdot, hup, hlen, hslash'⟩⟩

namespace Placed

theorem named (h : Placed cwd dest dir n d) : d.holder cwd dest = .ok (dir, .name n false) :=
  (Disk.roads_without d _).holder h.way

theorem below (h : Placed cwd dest dir n d) {p : Place} (hp : n :: dir <:+ p) (hne : p ≠ n :: dir) : d.get? p = none := by
  obtain ⟨v, hv, hleaf⟩ := h.leaf
  obtain ⟨y, rfl⟩ := hp
  have hdir : d.get? (n :: dir) ≠ some .dir := by
    rw [hv]
    rintro ⟨⟩
    cases hleaf
  refine h.sound.below hdir y ?_
  rintro rfl
  exact hne rfl

theorem roads (h : Placed cwd dest dir n d) (haside : d.get? (asideName n :: dir) ≠ some .dir)
    (same : ∀ p, ¬ n :: dir <:+ p → p ≠ asideName n :: dir → t.get? p = d.get? p) :
    Roads (d.without [n :: dir, asideName n :: dir]) t := by
  intro p v hv hroad
  obtain ⟨hv, hp⟩ := Disk.get?_without_eq_some.mp hv
  have hne : p ≠ asideName n :: dir := by
    rintro rfl
    obtain hp | rfl := hp
    · simp at hp
    · exact haside hv
  have hapart : ¬ n :: dir <:+ p := by
    intro hs
    by_cases he : p = n :: dir
    · subst he
      obtain ⟨w, hw, hleaf⟩ := h.leaf
      obtain rfl : v = w := Option.some.inj (hv.symm.trans hw)
      obtain hp | rfl := hp
      · simp at hp
      · cases hleaf
    · rw [h.below hs he] at hv
      cases hv
  exact (same p hapart hne).trans hv

theorem rename (h : Placed cwd dest dir n d) (hr : d.rename cwd dest (aside dest) = .ok t) :
    Waits cwd dest dir n d t ∧ t.get? (n :: dir) = none := by
  obtain ⟨v, hv, hleaf⟩ := h.leaf
  obtain ⟨place, m, haside, hmove⟩ := Disk.moved_of_rename h.sound h.named hv hleaf hr
  obtain ⟨rfl, rfl, -, -⟩ := holder_aside h.named (fun _ _ hp _ => hp) haside
  obtain ⟨-, -, -, hbeside⟩ := holder_aside h.way (Disk.roads_without d _) haside
  obtain ⟨he | htwins, -⟩ | ⟨-, -, hdir, hmoved⟩ := hmove
  · exact absurd he.symm (asideName_ne n place)
  · cases h.single.symm.trans htwins
  refine ⟨⟨hmoved.sound, hdir, hbeside, hmoved.arrived, fun p hp hne => hmoved.same p ?_ hne⟩, hmoved.left⟩
  rintro rfl
  exact hp (List.suffix_refl _)

end Placed

namespace Waits

theorem confined (h : Waits cwd dest dir n d t) (hnone : t.get? (n :: dir) = none) (hc : Confined (n :: dir) t t') :
    Waits cwd dest dir n d t' where
  sound := hc.sound
  free := h.free
  beside := h.beside
  waits := (hc.same _ (aside_apart n dir) (by simp [Disk.twins, hnone])).trans h.waits
  same := fun p hp hne => (hc.same p hp (by simp [Disk.twins, hnone])).trans (h.same p hp hne)

theorem holders (h : Waits cwd dest dir n d t) (hd : Placed cwd dest dir n d) :
    t.holder cwd dest = .ok (dir, .name n false) ∧ t.holder cwd (aside dest) = .ok (dir, .name (asideName n) false) := by
  have hroads := hd.roads h.free h.same
  exact ⟨hroads.holder hd.way, hroads.holder h.beside⟩

theorem back (h : Waits cwd dest dir n d t) (hd : Placed cwd dest dir n d) :
    (t.get? (n :: dir) = some .dir ∧ ∃ e, t.rename cwd (aside dest) dest = .error e) ∨
      ∃ d', t.rename cwd (aside dest) dest = .ok d' ∧ ∀ p, p ≠ asideName n :: dir → d'.get? p = d.get? p := by
  obtain ⟨v, hv, hleaf⟩ := hd.leaf
  obtain ⟨hhere, hbeside⟩ := h.holders hd
  have hwaits := h.waits.trans hv
  -- below what is no directory there is nothing, before and afterwards
  have hrest : t.get? (n :: dir) ≠ some .dir → ∀ p, p ≠ n :: dir → p ≠ asideName n :: dir → t.get? p = d.get? p := by
    intro hdir p hx hp
    by_cases hunder : n :: dir <:+ p
    · obtain ⟨y, rfl⟩ := hunder
      have hy : y ≠ [] := by
        rintro rfl
        exact hx rfl
      rw [h.sound.below hdir y hy, hd.below (List.suffix_append _ _) hx]
    · exact h.same p hunder hp
  cases htwins : t.twins (asideName n :: dir) (n :: dir) with
  | true =>
    -- what the tool has left is what waits, under its old name
    have hagain := h.sound.twins_eq htwins
    refine .inr ⟨t, Disk.rename_twins hbeside hhere htwins, fun p hp => ?_⟩
    by_cases hx : p = n :: dir
    · rw [hx, hagain, h.waits]
    · refine hrest ?_ p hx hp
      rw [hagain, hwaits]
      rintro ⟨⟩
      cases hleaf
  | false =>
    obtain ⟨hdir, he⟩ | ⟨hdir, hr⟩ := Disk.rename_leaf hbeside hhere hwaits hleaf (asideName_ne n dir) htwins
    · exact .inl ⟨hdir, he⟩
    obtain ⟨-, -, -, -, hhome, -⟩ := Disk.holder_name.mp hhere
    obtain ⟨-, hget⟩ := h.sound.move_leaf hwaits hleaf hhome hdir (asideName_ne n dir)
    refine .inr ⟨_, hr, fun p hp => ?_⟩
    rw [hget]
    by_cases hx : p = n :: dir
    · rw [if_pos hx, hx, hv]
    · rw [if_neg hx, if_neg hp]
      exact hrest hdir p hx hp

theorem cleared (h : Waits cwd dest dir n d t) (hd : Placed cwd dest dir n d) :
    t.unlink cwd (aside dest) = .ok (t.erase (asideName n :: dir)) := by
  obtain ⟨v, hv, hleaf⟩ := hd.leaf
  obtain ⟨-, hbeside⟩ := h.holders hd
  have hwaits := h.waits.trans hv
  unfold Disk.unlink
  simp only [hbeside, bind, Except.bind, hwaits]
  cases v with
  | dir => cases hleaf
  | _ => rfl

end Waits

section Course

variable {outside : Disk → Disk → Prop} {es : List (Event kernel Disk)} {r : Except Error Unit}

/-- The tool was run, was answered for and has left the disk so. -/
def Ran (es : List (Event kernel Disk)) (reply : Except Fault Finished) (left : Disk) : Prop :=
  ∃ program args input, (⟨.launch program args input, reply, left⟩ : Event kernel Disk) ∈ es

theorem not_ran {es : List (Event kernel Disk)} (h : ∀ e ∈ es, ∀ program args input, e.call ≠ .launch program args input)
    (reply : Except Fault Finished) (left : Disk) : ¬ Ran es reply left := by
  rintro ⟨program, args, input, he⟩
  exact h _ he program args input rfl

theorem ran_between (before : List (Event kernel Disk)) {after : List (Event kernel Disk)} {program : Path}
    {args : List String} {input : ByteArray}
    {reply : Except Fault Finished} {left : Disk}
    (hbefore : ∀ e ∈ before, ∀ program args input, e.call ≠ .launch program args input)
    (hafter : ∀ e ∈ after, ∀ program args input, e.call ≠ .launch program args input) (reply' : Except Fault Finished)
    (left' : Disk) :
    Ran (before ++ ⟨.launch program args input, reply, left⟩ :: after) reply' left' ↔ reply' = reply ∧ left' = left := by
  constructor
  · rintro ⟨program', args', input', he⟩
    obtain he | he := List.mem_append.mp he
    · exact absurd rfl (hbefore _ he _ _ _)
    · obtain he | he := List.mem_cons.mp he
      · cases he
        exact ⟨rfl, rfl⟩
      · exact absurd rfl (hafter _ he _ _ _)
  · rintro ⟨rfl, rfl⟩
    exact ⟨program, args, input, List.mem_append_right _ (List.mem_cons_self ..)⟩

def opening (dest : Path) (t : Disk) : List (Event kernel Disk) :=
  [⟨.rename dest (aside dest), (.ok () : Except Fault Unit), t⟩,
    ⟨.log ⟨.info, .patch, "Patching executable " ++ dest.text⟩, (), t⟩]

theorem course_went (h : (patch tool dest).plan.Course (law cwd outside) d es (some r) d') :
    ((∃ e, d.rename cwd dest (aside dest) = .error e) ∧ d' = d ∧ (∃ e, r = .error e) ∧ ∀ reply left, ¬ Ran es reply left) ∨
      ∃ t reply left, d.rename cwd dest (aside dest) = .ok t ∧ outside t left ∧
        (∀ reply' left', Ran es reply' left' ↔ reply' = reply ∧ left' = left) ∧
        ((∃ failure, judged tool dest reply = .error failure ∧ r = .error failure ∧
            d' = (left.rename cwd (aside dest) dest).toOption.getD left) ∨
          (judged tool dest reply = .ok () ∧ ∀ d'', left.unlink cwd (aside dest) = .ok d'' → r = .ok () ∧ d' = d'')) := by
  obtain ⟨r₁, t, es₁, rfl, ⟨hr, ht⟩, h₁⟩ := h.of_ask_some
  -- the entry is moved aside, or nothing more is done
  cases hmoved : d.rename cwd dest (aside dest) with
  | error e =>
    rw [hmoved] at hr ht
    subst hr ht
    obtain ⟨rfl, ho, rfl⟩ := h₁.of_done
    cases ho
    exact .inl ⟨⟨e, rfl⟩, rfl, ⟨_, rfl⟩, not_ran (by simp)⟩
  | ok t₁ =>
  rw [hmoved] at hr ht
  obtain rfl : r₁ = .ok () := hr
  obtain rfl : t = t₁ := ht
  obtain ⟨⟨⟩, t₂, es₂, rfl, hlog, h₂⟩ := h₁.of_ask_some
  obtain rfl : t₂ = t := hlog
  change Plan.Course _ ((runTool tool (aside dest) dest).plan.bind _) _ _ _ _ at h₂
  rw [runTool_judged] at h₂
  obtain ⟨reply, left, es₃, rfl, hran, h₃⟩ := Plan.Course.of_ask_some h₂
  change Plan.Course _ ((Plan.done (judged tool dest reply)).bind _) _ _ _ _ at h₃
  refine .inr ⟨t₂, reply, left, rfl, hran, ?_⟩
  -- the entry is moved back after a failure, and removed after a success
  cases hjudged : judged tool dest reply with
  | error failure =>
    rw [hjudged] at h₃
    obtain ⟨r₄, t₄, es₄, rfl, ⟨hr, rfl⟩, h₄⟩ := Plan.Course.of_ask_some h₃
    cases r₄ with
    | ok u =>
      obtain ⟨rfl, ho, rfl⟩ := Plan.Course.of_done h₄
      cases ho
      exact ⟨ran_between (opening dest t₂) (by simp [opening]) (by simp), .inl ⟨failure, rfl, rfl, rfl⟩⟩
    | error e =>
      obtain ⟨⟨⟩, t₅, es₅, rfl, hwarn, h₅⟩ := Plan.Course.of_ask_some h₄
      obtain ⟨rfl, ho, rfl⟩ := Plan.Course.of_done h₅
      cases ho
      exact ⟨ran_between (opening dest t₂) (by simp [opening]) (by simp), .inl ⟨failure, rfl, rfl, hwarn⟩⟩
  | ok u =>
    rw [hjudged] at h₃
    obtain ⟨r₄, t₄, es₄, rfl, ⟨hr, rfl⟩, h₄⟩ := Plan.Course.of_ask_some h₃
    cases r₄ with
    | ok u =>
      obtain ⟨rfl, ho, rfl⟩ := Plan.Course.of_done h₄
      cases ho
      refine ⟨ran_between (opening dest t₂) (by simp [opening]) (by simp), .inr ⟨rfl, fun d'' hu => ?_⟩⟩
      rw [hu]
      exact ⟨rfl, rfl⟩
    | error e =>
      obtain ⟨rfl, ho, rfl⟩ := Plan.Course.of_done h₄
      refine ⟨ran_between (opening dest t₂) (by simp [opening]) (by simp), .inr ⟨rfl, fun d'' hu => ?_⟩⟩
      rw [hu] at hr
      cases hr

theorem law_rename {p q : Path} (h : d.rename cwd p q = .ok t) :
    law cwd outside (.rename p q) d (.ok () : Except Fault Unit) t := by
  constructor
  · rw [h]
    rfl
  · rw [h]
    rfl

theorem law_rename_error {p q : Path} {e : Fault} (h : d.rename cwd p q = .error e) :
    law cwd outside (.rename p q) d (.error e : Except Fault Unit) d := by
  constructor
  · rw [h]
    rfl
  · rw [h]
    rfl

theorem course_of_failure {reply : Except Fault Finished} {left : Disk} {failure : Error}
    (hmoved : d.rename cwd dest (aside dest) = .ok t) (hout : outside t left)
    (hjudged : judged tool dest reply = .error failure) :
    ∃ es, (patch tool dest).plan.Course (law cwd outside) d es (some (.error failure))
      ((left.rename cwd (aside dest) dest).toOption.getD left) := by
  obtain ⟨k, hplan, -, entry, k', hlog, hfailing, -⟩ := patch_plan tool dest
  obtain ⟨k'', hback, hdone, hstuck⟩ := hfailing failure
  -- the course is put together from its end: the way back, the run of the tool, the log and the move
  have hend : ∃ es, (k' (.error failure)).Course (law cwd outside) left es (some (.error failure))
      ((left.rename cwd (aside dest) dest).toOption.getD left) := by
    cases hr : left.rename cwd (aside dest) dest with
    | ok d'' =>
      have hdone : (k'' (.ok () : Except Fault Unit)).Course (law cwd outside) d'' [] (some (.error failure)) d'' := by
        rw [hdone]
        exact .done
      exact Plan.Course.exists_ask hback (law_rename hr) ⟨[], hdone⟩
    | error e =>
      obtain ⟨warning, hwarn⟩ := hstuck e
      exact Plan.Course.exists_ask hback (law_rename_error hr)
        (Plan.Course.exists_ask hwarn (r := ()) (t := left) rfl ⟨[], .done⟩)
  have hrun : ∃ es, ((runTool tool (aside dest) dest).plan.bind k').Course (law cwd outside) t es (some (.error failure))
      ((left.rename cwd (aside dest) dest).toOption.getD left) := by
    rw [runTool_judged]
    refine Plan.Course.exists_ask (r := reply) rfl hout ?_
    change ∃ es, Plan.Course _ (k' (judged tool dest reply)) _ _ _ _
    rw [hjudged]
    exact hend
  exact Plan.Course.exists_ask hplan (law_rename hmoved) (Plan.Course.exists_ask hlog (r := ()) (t := t) rfl hrun)

/-- Patching never loses the binary. A tool that fails is reported with what it printed, whether or not the binary can be
moved back. If the tool does nothing elsewhere, nothing else is changed, and the path still names the same entry: after
a failure that is as it was, or the tool has left a directory there and it waits beside it; after a success it is what
the tool has left, and nothing waits. -/
theorem restores_or_replaces (course : (patch tool dest).plan.Course (law cwd outside) d es (some r) d') :
    (∀ f left, Ran es (.ok f) left → f.exit.isSuccess = false → r = .error (.patch dest (trimmed f.err))) ∧
    ∀ dir n, Placed cwd dest dir n d → (∀ t t', outside t t' → Confined (n :: dir) t t') →
      d'.holder cwd dest = .ok (dir, .name n false) ∧
      (∀ p, ¬ n :: dir <:+ p → p ≠ asideName n :: dir → d'.get? p = d.get? p) ∧
      (∀ e, r = .error e →
        (∀ p, n :: dir <:+ p → d'.get? p = d.get? p) ∨
          ((∃ reply left, Ran es reply left ∧ left.get? (n :: dir) = some .dir ∧
              ∀ p, n :: dir <:+ p → d'.get? p = left.get? p) ∧
            d'.get? (asideName n :: dir) = d.get? (n :: dir))) ∧
      (r = .ok () →
        (∃ f left, Ran es (.ok f) left ∧ f.exit.isSuccess = true ∧ ∀ p, n :: dir <:+ p → d'.get? p = left.get? p) ∧
          d'.get? (asideName n :: dir) = none) := by
  obtain ⟨⟨e, hstuck⟩, rfl, ⟨failure, rfl⟩, hnever⟩ | ⟨t, reply, left, hmoved, hout, honce, hend⟩ := course_went course
  -- the entry was not moved
  · refine ⟨fun f left hran => absurd hran (hnever _ _), fun dir n hd hconfined => ?_⟩
    exact ⟨hd.named, fun _ _ _ => rfl, fun _ _ => .inl fun _ _ => rfl, fun hok => by cases hok⟩
  refine ⟨fun f left' hran hf => ?_, fun dir n hd hconfined => ?_⟩
  · obtain ⟨rfl, rfl⟩ := (honce _ _).mp hran
    obtain ⟨failure, hjudged, rfl, -⟩ | ⟨hjudged, -⟩ := hend
    · simpa [judged, hf, eq_comm] using hjudged
    · simp [judged, hf] at hjudged
  have hran := (honce reply left).mpr ⟨rfl, rfl⟩
  obtain ⟨hwaits, hnone⟩ := hd.rename hmoved
  have hleft := hwaits.confined hnone (hconfined t left hout)
  -- it was moved, so it waits beside its place whatever the tool has left there
  obtain ⟨failure, hjudged, rfl, rfl⟩ | ⟨hjudged, hdone⟩ := hend
  · obtain ⟨hdir, e, hback⟩ | ⟨d'', hback, hsame⟩ := hleft.back hd
    · rw [hback]
      refine ⟨(hleft.holders hd).1, hleft.same, fun _ _ => .inr ⟨⟨reply, left, hran, hdir, fun _ _ => rfl⟩, hleft.waits⟩,
        fun hok => by cases hok⟩
    · rw [hback]
      have hroads := hd.roads hleft.free fun p _ hp => hsame p hp
      refine ⟨hroads.holder hd.way, fun p _ hp => hsame p hp, fun _ _ => .inl fun p hp => hsame p ?_,
        fun hok => by cases hok⟩
      rintro rfl
      exact aside_apart n dir hp
  · obtain ⟨rfl, rfl⟩ := hdone _ (hleft.cleared hd)
    -- a success takes nothing away but what waits, and that is below no other place
    have hget := Disk.get?_erase left (p := asideName n :: dir) (by simp)
    have hsame : ∀ p, ¬ n :: dir <:+ p → p ≠ asideName n :: dir → (left.erase (asideName n :: dir)).get? p = d.get? p := by
      intro p hp hne
      rw [hget, if_neg hne]
      exact hleft.same p hp hne
    obtain ⟨f, rfl, hf⟩ := judged_eq_ok hjudged
    refine ⟨(hd.roads hleft.free hsame).holder hd.way, hsame, fun e he => (by cases he),
      fun _ => ⟨⟨f, left, hran, hf, fun p hp => ?_⟩, ?_⟩⟩
    · rw [hget, if_neg]
      rintro rfl
      exact aside_apart n dir hp
    · rw [hget, if_pos rfl]

end Course

def disk₀ : Disk := ⟨[(["b".toList], .file 0 0o755 "one".toUTF8), (["b-orig".toList], .file 1 0o755 "old".toUTF8)], 2⟩

/-- A tool that fails when it has written half of its output: the binary is there again, and with the rest that was
beside it before nothing of the output is left. -/
theorem restores_or_replaces_half : Placed [] "b" [] ['b'] disk₀ ∧ ∃ es failure d',
    (patch "tool" "b").plan.Course (law [] (Confined [['b']])) disk₀ es (some (.error failure)) d' ∧
      failure = .patch "b" (trimmed "no\n".toUTF8) ∧ ∀ p, [['b']] <:+ p → d'.get? p = disk₀.get? p := by
  have hplaced : Placed [] "b" [] ['b'] disk₀ := ⟨Disk.sound_of_isSound (by decide +kernel), rfl, ⟨_, rfl, rfl⟩, rfl⟩
  obtain ⟨t, hmoved⟩ : ∃ t, disk₀.rename [] "b" (aside "b") = .ok t := ⟨_, rfl⟩
  obtain ⟨hwaits, hfree⟩ := hplaced.rename hmoved
  have hconfined := confined_addFile hwaits.sound rfl hfree 0o755 "half".toUTF8
  obtain ⟨hdir, -⟩ | ⟨d', hback, hagain⟩ := (hwaits.confined hfree hconfined).back hplaced
  · rw [Disk.get?_addFile t (by simp), if_pos rfl] at hdir
    cases hdir
  have hjudged : judged "tool" "b" (.ok ⟨.code 1, .empty, "no\n".toUTF8⟩) = .error (.patch "b" (trimmed "no\n".toUTF8)) := rfl
  obtain ⟨es, hcourse⟩ := course_of_failure hmoved hconfined hjudged
  rw [hback] at hcourse
  obtain ⟨-, hkept⟩ := restores_or_replaces hcourse
  obtain ⟨-, -, herror, -⟩ := hkept [] ['b'] hplaced fun _ _ h => h
  refine ⟨hplaced, es, _, d', hcourse, rfl, ?_⟩
  obtain hkept | ⟨⟨reply, left, -, hdir, hleft⟩, -⟩ := herror _ rfl
  · exact hkept
  · have hfile := (hleft _ (List.suffix_refl _)).symm.trans (hagain [['b']] (by decide))
    rw [hdir] at hfile
    cases hfile

def linked₀ : Disk := ⟨[(["t".toList], .dir), (["l".toList], .link "t")], 0⟩

/-- A binary with the name that it is moved to as a second one. -/
def paired₀ : Disk := ⟨[(["b".toList], .file 0 0o755 "one".toUTF8), (["b-orig".toList], .file 0 0o755 "one".toUTF8)], 1⟩

/-- A way to the binary that goes by the very link that is moved aside is closed then, and the link is not moved back. And
a binary that has the name that it is moved to already stays where it is, so that a tool that writes over it in its
place has written over what would be moved back. -/
theorem way_closed : (¬ ∀ (cwd dir : Place) (n : Name) (tool dest : Path) (d d' : Disk) es failure, d.Sound →
    d.holder cwd dest = .ok (dir, .name n false) → (∃ v, d.get? (n :: dir) = some v ∧ v.isDir = false) →
    (patch tool dest).plan.Course (law cwd (Confined (n :: dir))) d es (some (.error failure)) d' →
    d'.get? (n :: dir) = d.get? (n :: dir) ∨
      (d'.get? (n :: dir) = some .dir ∧ d'.get? (asideName n :: dir) = d.get? (n :: dir))) ∧
    ¬ ∀ (cwd dir : Place) (n : Name) (tool dest : Path) (d d' : Disk) es failure, d.Sound →
    (d.without [n :: dir, asideName n :: dir]).holder cwd dest = .ok (dir, .name n false) →
    (∃ v, d.get? (n :: dir) = some v ∧ v.isDir = false) →
    (patch tool dest).plan.Course (law cwd (Confined (n :: dir))) d es (some (.error failure)) d' →
    d'.get? (n :: dir) = d.get? (n :: dir) ∨
      (d'.get? (n :: dir) = some .dir ∧ d'.get? (asideName n :: dir) = d.get? (n :: dir)) := by
  constructor
  · intro h
    have hsound : linked₀.Sound := Disk.sound_of_isSound (by decide +kernel)
    have hmoved : linked₀.rename [] "l/../l" (aside "l/../l") = .ok (linked₀.move [['l']] [asideName ['l']]) := rfl
    have hidle : Confined [['l']] (linked₀.move [['l']] [asideName ['l']]) (linked₀.move [['l']] [asideName ['l']]) :=
      ⟨Disk.sound_of_isSound (by decide +kernel), fun _ _ _ => rfl⟩
    have hjudged : judged "tool" "l/../l" (.error (.os .missing)) = .error (.patch "l/../l" _) := rfl
    obtain ⟨es, hcourse⟩ := course_of_failure hmoved hidle hjudged
    obtain hsame | ⟨hdir, -⟩ := h [] [] ['l'] "tool" "l/../l" linked₀ _ es _ hsound rfl ⟨_, rfl, rfl⟩ hcourse
    · exact absurd hsame (by decide +kernel)
    · exact absurd hdir (by decide +kernel)
  · intro h
    have hsound : paired₀.Sound := Disk.sound_of_isSound (by decide +kernel)
    have hstays : paired₀.rename [] "b" (aside "b") = .ok paired₀ := rfl
    have hwrites : Confined [['b']] paired₀ (paired₀.revise 0 fun _ => "half".toUTF8) := confined_revise hsound rfl _
    have hjudged : judged "tool" "b" (.ok ⟨.code 1, .empty, "no\n".toUTF8⟩) = .error (.patch "b" (trimmed "no\n".toUTF8)) :=
      rfl
    obtain ⟨es, hcourse⟩ := course_of_failure hstays hwrites hjudged
    obtain hsame | ⟨hdir, -⟩ := h [] [] ['b'] "tool" "b" paired₀ _ es _ hsound rfl ⟨_, rfl, rfl⟩ hcourse
    · exact absurd hsame (by decide +kernel)
    · exact absurd hdir (by decide +kernel)

end Patch

end Provision
