import Provision.Proofs.Patch
import Provision.Proofs.Server.Script

/-!
Runs of the program over one storage directory: any number of starts, each of which may be killed at every
call, and what is known of the binary from the version in the record.
-/

set_option autoImplicit false

namespace Provision.Server

/-- One start of the program. A call in a process that has loaded the record before goes on with that one. -/
structure Start where
  settings : Settings
  site : Site
  tool : Path
  memory : Option Store

namespace Start

def version (st : Start) : String := st.settings.package.version

/-- Loads the record unless it is in memory, and then finds the server. -/
def plan (st : Start) : Plan setup (Except Error Path × Option Store) :=
  match st.memory with
  | some s => ((get st.settings st.site st.tool).plan s).bind fun r => .done (r.1, some r.2)
  | none => (Setup.ofKernel (Store.load (st.site.storage / Store.fileName)).plan).bind fun
    | .error e => .done (.error e, none)
    | .ok s => ((get st.settings st.site st.tool).plan s).bind fun r => .done (r.1, some r.2)

end Start

/-- What happened so far: the calls with their answers, each with the start that made it. -/
abbrev History := List (Start × Event setup Disk)

def by_ (st : Start) (es : List (Event setup Disk)) : History := es.map fun e => (st, e)

@[simp] theorem by_append (st : Start) (es es' : List (Event setup Disk)) : by_ st (es ++ es') = by_ st es ++ by_ st es' :=
  List.map_append

@[simp] theorem by_nil (st : Start) : by_ st [] = [] := rfl

variable (L : Lodging)

theorem placeOf_eq {site : Site} (h : site.storage = L.storage) : placeOf site L.platform = L.dest := by
  rw [placeOf, h]
  rfl

/-- The start works on the storage directory, on the platform of the binary there. -/
structure Suits (st : Start) : Prop where
  storage : st.site.storage = L.storage
  platform : Platform.detect st.site.arch st.site.os = .ok L.platform

/-- Other programs may do anything that leaves the record as it is and gives its draft no second name. -/
abbrev law : Law setup Disk := Setup.law L.cwd L.Spares

/-- The path leads to a directory with nothing in it. -/
structure Fresh (d : Disk) : Prop where
  sound : d.Sound
  enters : d.enters L.cwd L.storage = .ok L.home
  dir : d.get? L.home = some .dir
  empty : ∀ n, d.get? (n :: L.home) = none

variable {L} in
theorem Fresh.lodged {d : Disk} (h : Fresh L d) : L.Lodged d where
  sound := h.sound
  way := by
    intro d' hd'
    -- nothing was in the directory, so the walk that led to it met none of the names that may change
    have hroads : d.Roads d' := by
      intro p v hv _
      rw [hd' p, hv]
      rintro ⟨n, -, x, rfl⟩
      have hx : d.get? (x ++ n :: L.home) = none := by
        by_cases hx : x = []
        · rw [hx]
          exact h.empty n
        · exact h.sound.below (by simp [h.empty n]) x hx
      rw [hx] at hv
      cases hv
    exact hroads.walkFrom h.enters h.dir
  dir := h.dir
  record := by simp [Lodging.record, h.empty]
  draft := by simp [Lodging.draft, h.empty]

/-- What can have happened after some starts, each of which was allowed, and what is in memory then. -/
inductive Reached (allowed : Start → Prop) : History → Disk → Option Store → Prop where
  | fresh {d : Disk} (h : Fresh L d) : Reached allowed [] d none
  | start {H : History} {d d' : Disk} {mem : Option Store} {st : Start} {es : List (Event setup Disk)}
      {o : Option (Except Error Path × Option Store)} (before : Reached allowed H d mem) (suits : Suits L st)
      (ok : allowed st) (memory : st.memory = none ∨ st.memory = mem)
      (course : st.plan.Course (law L) d es o d') : Reached allowed (H ++ by_ st es) d' (o.bind (·.2))

/-- The binary was removed, or it was found missing when it was to be removed; now nothing is in its place. -/
def Removes (e : Event setup Disk) : Prop :=
  ∃ (r : Except Fault Unit) (d : Disk), e = ⟨.kernel (.unlink L.dest), r, d⟩ ∧
    (∀ f, r = .error f → f.isMissing = true) ∧ d.get? L.binary = none

/-- The events of an install that was completed, a download and a patch if there has to be one, and what
they left at the place of the binary. -/
def Installed (st : Start) (es : List (Event setup Disk)) (x : Option Node) : Prop :=
  ∃ url mode label d₁ ps d₂, es = ⟨.download url L.dest mode label, (.ok () : Except Error Unit), d₁⟩ :: ps ∧
    x = d₂.get? L.binary ∧
    ((st.site.patches = true ∧
        (Setup.ofKernel (Patch.patch st.tool L.dest).plan).Course (law L) d₁ ps (some (.ok ())) d₂) ∨
      (st.site.patches = false ∧ ps = [] ∧ d₂ = d₁))

def Completes (st : Start) (e : Event setup Disk) : Prop :=
  (st.site.patches = true ∧ ∃ e', e = Setup.ofEvent e' ∧ Patch.Cleans L.dest e') ∨
    (st.site.patches = false ∧
      ∃ url mode label d, e = ⟨.download url L.dest mode label, (.ok () : Except Error Unit), d⟩)

/-- An install of a version was completed, and no start for that version has completed one since. What it left
is still there, or nothing is, or a start has got past the removal of the binary since then, which was for another
version or did not go by the disk. -/
def Backed (H : History) (d : Disk) (w : String) : Prop :=
  ∃ A st es B x, H = A ++ by_ st es ++ B ∧ st.version = w ∧ Installed L st es x ∧
    (∀ p ∈ B, p.1.version = w → ¬ Completes L p.1 p.2 ∧ (Removes L p.2 → p.1.memory ≠ none)) ∧
    ((∃ p ∈ B, Removes L p.2) ∨ d.get? L.binary = x ∨ d.get? L.binary = none)

section Backed

variable {L} {H : History} {d d' : Disk} {w : String} {st : Start} {es : List (Event setup Disk)} {x : Option Node}

theorem Installed.last (h : Installed L st es x) :
    ∃ before e, es = before ++ [e] ∧ Completes L st e ∧ x = e.after.get? L.binary := by
  obtain ⟨url, mode, label, d₁, ps, d₂, rfl, rfl, ⟨hp, hc⟩ | ⟨hp, rfl, rfl⟩⟩ := h
  · obtain ⟨es', rfl, hc'⟩ := Setup.course_ofKernel hc
    obtain ⟨-, before, e, rfl, hclean, rfl⟩ | ⟨ho, -⟩ := Patch.course_ends hc'
    · refine ⟨⟨.download url L.dest mode label, (.ok () : Except Error Unit), d₁⟩ :: before.map Setup.ofEvent,
        Setup.ofEvent e, ?_, .inl ⟨hp, e, rfl, hclean⟩, rfl⟩
      rw [List.map_append]
      rfl
    · exact absurd rfl ho
  · exact ⟨[], _, rfl, .inr ⟨hp, url, mode, label, d₂, rfl⟩, rfl⟩

/-- Backed whatever is on the disk, as the binary was removed since. -/
def Gone (L : Lodging) (H : History) (w : String) : Prop := ∀ d, Backed L H d w

theorem Backed.quiet (h : Backed L H d w) (hq : ∀ e ∈ es, ¬ Removes L e)
    (hc : st.version = w → ∀ e ∈ es, ¬ Completes L st e)
    (hb : d'.get? L.binary = d.get? L.binary ∨ d'.get? L.binary = none) : Backed L (H ++ by_ st es) d' w := by
  obtain ⟨A, st₀, es₀, B, x, rfl, hw, hi, hB, hx⟩ := h
  refine ⟨A, st₀, es₀, B ++ by_ st es, x, by simp, hw, hi, ?_, ?_⟩
  · intro p hp hver
    obtain hp | hp := List.mem_append.mp hp
    · exact hB p hp hver
    · obtain ⟨e, he, rfl⟩ := List.mem_map.mp hp
      exact ⟨hc hver e he, fun hr => absurd hr (hq e he)⟩
  · obtain ⟨p, hp, hr⟩ | hx | hx := hx
    · exact .inl ⟨p, List.mem_append_left _ hp, hr⟩
    · obtain hb | hb := hb
      · exact .inr (.inl (hb.trans hx))
      · exact .inr (.inr hb)
    · obtain hb | hb := hb
      · exact .inr (.inr (hb.trans hx))
      · exact .inr (.inr hb)

theorem Backed.gone (h : Backed L H d w) (hr : ∃ e ∈ es, Removes L e) (hc : ∀ e ∈ es, ¬ Completes L st e)
    (hst : st.version = w → st.memory ≠ none) : Gone L (H ++ by_ st es) w := by
  intro d'
  obtain ⟨A, st₀, es₀, B, x, rfl, hw, hi, hB, -⟩ := h
  refine ⟨A, st₀, es₀, B ++ by_ st es, x, by simp, hw, hi, ?_, ?_⟩
  · intro p hp hver
    obtain hp | hp := List.mem_append.mp hp
    · exact hB p hp hver
    · obtain ⟨e, he, rfl⟩ := List.mem_map.mp hp
      exact ⟨hc e he, fun _ => hst hver⟩
  · obtain ⟨e, he, hrem⟩ := hr
    exact .inl ⟨(st, e), List.mem_append_right _ (List.mem_map_of_mem he), hrem⟩

theorem Gone.quiet (h : Gone L H w) (hq : ∀ e ∈ es, ¬ Removes L e)
    (hc : st.version = w → ∀ e ∈ es, ¬ Completes L st e) : Gone L (H ++ by_ st es) w :=
  fun d => (h d).quiet hq hc (.inl rfl)

theorem Installed.backed (h : Installed L st es (d.get? L.binary)) : Backed L (H ++ by_ st es) d st.version :=
  ⟨H, st, es, [], _, by simp, rfl, h, by simp, .inr (.inl rfl)⟩

end Backed

end Provision.Server
