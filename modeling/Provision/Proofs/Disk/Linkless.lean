import Provision.Proofs.Disk.Temp
import Provision.Proofs.Disk.Ways
import Provision.Proofs.Path.Components

set_option autoImplicit false

namespace Provision.Disk

variable {d : Disk} {cwd here home : Place} {p q : Path} {a b names : List Name}

theorem stepsOf_behind (p : Path) {q : Path} (hq : q.chars ≠ []) (hrel : q.isAbsolute = false) :
    stepsOf (p / q) = p.steps ++ stepsOf q := by
  have hsteps := Path.steps_behind p hrel
  unfold Path.steps at hsteps
  unfold stepsOf
  rw [Path.getLast?_behind p hq hrel, hsteps]
  split
  · rw [List.append_assoc]; rfl
  · rfl

theorem filter_stepsOf (p : Path) : (stepsOf p).filter (· ≠ ['.']) = p.names := by
  have hsteps := Path.filter_steps p
  rw [Path.steps] at hsteps
  unfold stepsOf
  split
  · rw [List.filter_append, hsteps]
    simp
  · exact hsteps

theorem admits_iff : admits p = .ok () ↔ Char.ofNat 0 ∉ p.chars ∧ p.chars ≠ [] ∧ byteLength p.chars ≤ pathLimit := by
  unfold admits
  split
  · simp_all
  · split
    · simp_all
    · split
      · simp_all
      · simp_all

theorem byteLength_behind (p : Path) {k : Path} (hk : k.isAbsolute = false) :
    byteLength p.chars + byteLength k.chars ≤ byteLength (p / k).chars ∧
      byteLength (p / k).chars ≤ byteLength p.chars + 1 + byteLength k.chars := by
  have hslash : byteLength ['/'] = 1 := rfl
  obtain rfl | ⟨-, c, -, hc, h⟩ := Path.join_cases p
  · rw [Path.join_empty]
    simp [byteLength]
  · have hlen : byteLength (p / k).chars = byteLength c + 1 + byteLength k.chars := by
      rw [h k hk, ← List.singleton_append, byteLength_append, byteLength_append, hslash, Nat.add_assoc]
    obtain hc | hc := hc
    · rw [hc]
      omega
    · rw [hc, byteLength_append, hslash]
      omega

def Linkless (d : Disk) : Prop := ∀ p target, d.get? p ≠ some (.link target)

theorem linkless_of_entries (h : ∀ e ∈ d.entries, ∀ target, e.2 ≠ .link target) : d.Linkless := by
  intro p target hp
  by_cases hne : p = []
  · subst hne
    cases hp
  · exact h (p, .link target) (mem_of_get? hne hp) target rfl

def Leads (d : Disk) (here : Place) (names : List Name) (home : Place) : Prop :=
  walkPlain d here names = .ok (.there home) ∧ d.get? home = some .dir

namespace Linkless

variable (h : d.Linkless)

include h

theorem not_halted {dir : Place} {target : Path} {rest : List Name} :
    walkPlain d here names ≠ .ok (.link dir target rest) := by
  induction names generalizing here with
  | nil => simp [walkPlain]
  | cons n names ih =>
    intro hw
    simp only [walkPlain] at hw
    split at hw
    · split at hw
      · exact ih hw
      · split at hw
        · exact ih hw
        · split at hw
          · cases hw
          · split at hw
            · cases hw
            · exact h _ _ (by assumption)
            · exact ih hw
    · cases hw

theorem walkFrom_iff {k : Nat} :
    walkFrom d (k + 1) here names = .ok home ↔ walkPlain d here names = .ok (.there home) := by
  rw [walkFrom]
  cases hw : walkPlain d here names with
  | error e => simp
  | ok halt =>
    cases halt with
    | there q => simp
    | link dir target rest => exact absurd hw h.not_halted

theorem walkPlain_append_iff : walkPlain d here (a ++ b) = .ok (.there home) ↔
    ∃ q, walkPlain d here a = .ok (.there q) ∧ walkPlain d q b = .ok (.there home) := by
  rw [walkPlain_append]
  cases hw : walkPlain d here a with
  | error e => simp
  | ok halt =>
    cases halt with
    | there q => simp
    | link dir target rest => exact absurd hw h.not_halted

end Linkless

theorem dir_of_walkPlain {n : Name} {halt : Halt} (h : walkPlain d here (n :: names) = .ok halt) :
    d.get? here = some .dir := by
  by_contra hne
  rw [walkPlain] at h
  split at h
  · contradiction
  · cases h

theorem Leads.start (h : d.Leads here names home) : d.get? here = some .dir := by
  obtain ⟨hw, hdir⟩ := h
  cases names with
  | nil =>
    obtain rfl : here = home := by simpa [walkPlain] using hw
    exact hdir
  | cons n names => exact dir_of_walkPlain hw

theorem Leads.unique {home' : Place} (h : d.Leads here names home) (h' : d.Leads here names home') : home = home' := by
  simpa [h.1] using h'.1

theorem leads_append (h : d.Linkless) : d.Leads here (a ++ b) home ↔ ∃ q, d.Leads here a q ∧ d.Leads q b home := by
  rw [Leads, h.walkPlain_append_iff]
  constructor
  · rintro ⟨⟨q, ha, hb⟩, hdir⟩
    exact ⟨q, ⟨ha, Leads.start ⟨hb, hdir⟩⟩, hb, hdir⟩
  · rintro ⟨q, ⟨ha, -⟩, hb, hdir⟩
    exact ⟨⟨q, ha, hb⟩, hdir⟩

theorem leads_filter (h : d.Linkless) : d.Leads here (names.filter (· ≠ ['.'])) home ↔ d.Leads here names home := by
  induction names generalizing here with
  | nil => rfl
  | cons n names ih =>
    by_cases hn : n = ['.']
    · subst hn
      have hstay : d.Leads here (['.'] :: names) home ↔ d.get? here = some .dir ∧ d.Leads here names home := by
        constructor
        · intro hl
          have hdir := hl.start
          exact ⟨hdir, by simpa [walkPlain, hdir] using hl.1, hl.2⟩
        · rintro ⟨hdir, hl⟩
          exact ⟨by simpa [walkPlain, hdir] using hl.1, hl.2⟩
      -- without its dot the walk starts in the directory all the same, if it ends in one
      rw [hstay]
      simp only [List.filter_cons, ne_eq, not_true, decide_false, Bool.false_eq_true, if_false]
      exact ih.trans ⟨fun hl => ⟨hl.start, hl⟩, And.right⟩
    · have hkeep : (n :: names).filter (· ≠ ['.']) = [n] ++ names.filter (· ≠ ['.']) := by simp [hn]
      have hwhole : n :: names = [n] ++ names := rfl
      rw [hkeep, hwhole, leads_append h, leads_append h]
      exact exists_congr fun q => and_congr_right fun _ => ih

theorem find_dir_iff (h : d.Linkless) : d.find cwd p = .ok (home, .dir) ↔
    admits p = .ok () ∧ d.Leads (startOf cwd p) p.names home := by
  rw [find_iff, h.walkFrom_iff, ← filter_stepsOf, leads_filter h]
  rfl

theorem find_behind (h : d.Linkless) {place : Place} {v : Node} (hq : q.chars ≠ []) (hrel : q.isAbsolute = false) :
    d.find cwd (p / q) = .ok (place, v) ↔
      admits (p / q) = .ok () ∧ ∃ home, d.Leads (startOf cwd p) p.names home ∧
        walkPlain d home (stepsOf q) = .ok (.there place) ∧ d.get? place = some v := by
  have hstart : startOf cwd (p / q) = startOf cwd p := by rw [startOf, startOf, Path.isAbsolute_behind p hrel]
  rw [find_iff, h.walkFrom_iff, hstart, stepsOf_behind p hq hrel, h.walkPlain_append_iff, ← Path.filter_steps p]
  refine and_congr_right fun _ => ?_
  constructor
  · rintro ⟨⟨home, hp, hwalk⟩, hv⟩
    have hne : stepsOf q ≠ [] := by
      intro hnil
      have hsteps := Path.steps_ne_nil hq hrel
      unfold stepsOf at hnil
      split at hnil
      · simp at hnil
      · exact hsteps hnil
    obtain ⟨n, rest, hcons⟩ := List.exists_cons_of_ne_nil hne
    have hdir := dir_of_walkPlain (hcons ▸ hwalk)
    exact ⟨home, (leads_filter h).mpr ⟨hp, hdir⟩, hwalk, hv⟩
  · rintro ⟨home, hl, hwalk, hv⟩
    exact ⟨⟨home, ((leads_filter h).mp hl).1, hwalk⟩, hv⟩

end Provision.Disk
