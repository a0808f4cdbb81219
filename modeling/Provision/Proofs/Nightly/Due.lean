import Provision.Proofs.Instant.Elapsed
import Provision.Proofs.Nightly.Pace

/-!
When a look for a newer build is due, counted by the nanoseconds that elapse between two points in time, and that a
start fetches the newest release exactly then.
-/

set_option autoImplicit false

namespace Provision.Nightly

open Instant (Plain Elapsed)

def Fetches {σ : Type} (es : List (Event setup σ)) : Prop := ∃ e ∈ es, ∃ t, e.call = .fetch t

/-- Nothing is on record, or more nanoseconds have elapsed since the last look than the interval has. -/
def Overdue (r : Record) (interval : UInt64) (now : Instant) : Prop :=
  r.releaseId = none ∨ r.lastCheck = none ∨
    ∃ last n, r.lastCheck = some last ∧ Elapsed n last now ∧ interval.toNat * 1000000000 < n

section Due

variable {r : Record} {interval : UInt64} {now last : Instant}

theorem isDue_recorded {id : UInt64} (hid : r.releaseId = some id) (hlast : r.lastCheck = some last) :
    isDue r interval now = true ↔ ((interval.toNat * 1000000000 : Nat) : Int) < now.since last := by
  simp [isDue, hid, hlast]

theorem isDue_iff_overdue (hnow : now.Plain) (hplain : ∀ t, r.lastCheck = some t → t.Plain) :
    isDue r interval now = true ↔ Overdue r interval now := by
  cases hid : r.releaseId with
  | none => simp [isDue, Overdue, hid]
  | some id =>
    cases hlast : r.lastCheck with
    | none => simp [isDue, Overdue, hlast]
    | some last =>
      rw [isDue_recorded hid hlast, Instant.lt_since_iff (hplain last hlast) hnow]
      simp [Overdue, hid, hlast]

theorem isDue_later (hnow : now.Plain) (hplain : ∀ t, r.lastCheck = some t → t.Plain) {n : Nat} {later : Instant}
    (helapsed : Elapsed n now later) (h : isDue r interval now = true) : isDue r interval later = true := by
  cases hid : r.releaseId with
  | none => simp [isDue, hid]
  | some id =>
    cases hlast : r.lastCheck with
    | none => simp [isDue, hlast]
    | some last =>
      have hp := hplain last hlast
      obtain ⟨hlater, hcount⟩ := helapsed.nanos hnow
      rw [isDue_recorded hid hlast] at h ⊢
      rw [Instant.since_plain hnow hp] at h
      rw [Instant.since_plain hlater hp]
      omega

theorem isDue_shorter {longer : UInt64} (hle : interval ≤ longer) (h : isDue r longer now = true) :
    isDue r interval now = true := by
  have hseconds : interval.toNat ≤ longer.toNat := UInt64.le_iff_toNat_le.mp hle
  have hnanos : ((interval.toNat * 1000000000 : Nat) : Int) ≤ (longer.toNat * 1000000000 : Nat) :=
    Int.ofNat_le.mpr (Nat.mul_le_mul_right _ hseconds)
  cases hid : r.releaseId with
  | none => simp [isDue, hid]
  | some id =>
    cases hlast : r.lastCheck with
    | none => simp [isDue, hlast]
    | some last =>
      rw [isDue_recorded hid hlast] at h ⊢
      exact Int.lt_of_le_of_lt hnanos h

theorem not_isDue_ahead (hnow : now.Plain) {id : UInt64} (hid : r.releaseId = some id) (hlast : r.lastCheck = some last)
    {n : Nat} (helapsed : Elapsed n now last) : isDue r interval now = false := by
  obtain ⟨hp, hcount⟩ := helapsed.nanos hnow
  rw [Bool.eq_false_iff, Ne, isDue_recorded hid hlast, Instant.since_plain hnow hp]
  omega

end Due

section Fetches

variable {σ : Type} {law : Law setup σ} {settings : Settings} {site : Site} {s s' : Store} {x y : σ}
  {es : List (Event setup σ)} {r : Except Error Unit}

theorem not_fetches_nil : ¬ Fetches ([] : List (Event setup σ)) := by
  rintro ⟨e, he, -⟩
  cases he

theorem looking_fetches (h : ((Script.looking site s).lower Deed.plan).Course law x es (some (r, s')) y) : Fetches es := by
  obtain ⟨a, t, es₁, es₂, rfl, hfetch, -⟩ := h.of_lower_ask_some
  obtain rfl := Plan.Course.call_events hfetch
  exact ⟨_, List.mem_append_left _ (List.mem_singleton_self _), tag, rfl⟩

theorem update_looks (h : ((update settings site).plan s).Course law x es (some (r, s')) y) :
    (settings.package.releaseTag ≠ none ∧ settings.updates.channel = .nightly ∧
        isDue s.record settings.updates.interval site.now = true ∧ Fetches es) ∨
      (¬ (settings.package.releaseTag ≠ none ∧ settings.updates.channel = .nightly ∧
        isDue s.record settings.updates.interval site.now = true) ∧ ¬ Fetches es ∧ r = .ok () ∧ s' = s) := by
  rw [plan_script, script] at h
  cases htag : settings.package.releaseTag with
  | none =>
    simp only [htag] at h
    obtain ⟨rfl, ho, -⟩ := Plan.Course.of_done h
    cases ho
    exact .inr ⟨by simp, not_fetches_nil, rfl, rfl⟩
  | some t =>
    cases hchannel : settings.updates.channel with
    | stable =>
      simp only [htag, hchannel] at h
      split at h
      -- the warning about the tag is no fetch
      · obtain ⟨a, t, es₁, es₂, rfl, hwarn, hrest⟩ := h.of_lower_ask_some
        obtain rfl := Plan.Course.call_events hwarn
        obtain ⟨rfl, ho, -⟩ := Plan.Course.of_done hrest
        cases ho
        refine .inr ⟨by simp, ?_, rfl, rfl⟩
        rintro ⟨e, he, t, hcall⟩
        rw [List.append_nil, List.mem_singleton] at he
        rw [he] at hcall
        cases hcall
      · obtain ⟨rfl, ho, -⟩ := Plan.Course.of_done h
        cases ho
        exact .inr ⟨by simp, not_fetches_nil, rfl, rfl⟩
    | nightly =>
      simp only [htag, hchannel] at h
      split at h
      · rename_i hdue
        exact .inl ⟨by simp, rfl, hdue, looking_fetches h⟩
      · rename_i hdue
        obtain ⟨rfl, ho, -⟩ := Plan.Course.of_done h
        cases ho
        exact .inr ⟨fun hall => hdue hall.2.2, not_fetches_nil, rfl, rfl⟩

/-- A start fetches the newest release exactly if the build comes from a release, nightly builds are wanted, and nothing
is on record or more nanoseconds have elapsed since the last look than the interval has; otherwise it ends well and
leaves the record as it is. No difference of two points in time is beyond 2^63 milliseconds, what is due stays due, a
longer interval makes nothing due, and neither does a look that is recorded for now or for later. -/
theorem fetches_iff_due (plain : site.now.Plain) (recorded : ∀ t, s.record.lastCheck = some t → t.Plain)
    (course : ((update settings site).plan s).Course law x es (some (r, s')) y) :
    (Fetches es ↔ settings.package.releaseTag ≠ none ∧ settings.updates.channel = .nightly ∧
      Overdue s.record settings.updates.interval site.now) ∧
    (¬ Fetches es → r = .ok () ∧ s' = s) ∧
    (∀ last, s.record.lastCheck = some last →
      -(2 ^ 63 * 1000000) < site.now.since last ∧ site.now.since last < 2 ^ 63 * 1000000) ∧
    (∀ n later, Elapsed n site.now later → isDue s.record settings.updates.interval site.now = true →
      isDue s.record settings.updates.interval later = true) ∧
    (∀ shorter, shorter ≤ settings.updates.interval → isDue s.record settings.updates.interval site.now = true →
      isDue s.record shorter site.now = true) ∧
    (∀ last n, s.record.releaseId ≠ none → s.record.lastCheck = some last → Elapsed n site.now last →
      ¬ Fetches es) := by
  have hiff : isDue s.record settings.updates.interval site.now = true ↔
      Overdue s.record settings.updates.interval site.now := isDue_iff_overdue plain recorded
  -- all that is told of the fetches is told of the looks that are due
  have hlooks := update_looks course
  refine ⟨?_, ?_, fun last hlast => Instant.since_bounded _ _ plain (recorded last hlast), ?_, ?_, ?_⟩
  · rw [← hiff]
    obtain ⟨htag, hchannel, hdue, hf⟩ | ⟨hnot, hf, -⟩ := hlooks
    · exact iff_of_true hf ⟨htag, hchannel, hdue⟩
    · exact iff_of_false hf hnot
  · intro hnot
    obtain ⟨-, -, -, hf⟩ | ⟨-, -, hend⟩ := hlooks
    · exact absurd hf hnot
    · exact hend
  · intro n later helapsed hdue
    exact isDue_later plain recorded helapsed hdue
  · intro shorter hle hdue
    exact isDue_shorter hle hdue
  · intro last n hid hlast helapsed hf
    obtain ⟨id, hid⟩ := Option.ne_none_iff_exists'.mp hid
    obtain ⟨-, -, hdue, -⟩ | ⟨-, hnot, -⟩ := hlooks
    · rw [not_isDue_ahead plain hid hlast helapsed] at hdue
      cases hdue
    · exact hnot hf

/-- Six hours after the last look, with an interval of one hour. -/
theorem fetches_iff_due_evening : evening.Plain ∧ noon.Plain ∧
    Fetches ((step₀ evening ⟨store₀.path, ⟨some noon, some 7, none⟩⟩).events online.serve Disk.empty) := by
  have hnoon : noon.Plain := by decide
  have hevening : evening.Plain := by decide
  have hcourse := online.course (L := Server.Trial.lodging₀) rfl
    (step₀ evening ⟨store₀.path, ⟨some noon, some 7, none⟩⟩) Disk.empty
  have hrecorded : ∀ t, some noon = some t → t.Plain := by
    rintro t ⟨⟩
    exact hnoon
  have helapsed : Elapsed 21600000000000 noon evening := (Instant.elapsed_iff hnoon hevening).mpr (by decide)
  have hnow : (site₀ evening).now.Plain := hevening
  have hdue := fetches_iff_due hnow hrecorded hcourse
  exact ⟨hevening, hnoon, hdue.1.mpr ⟨nofun, rfl, .inr (.inr ⟨noon, _, rfl, helapsed, by decide⟩)⟩⟩

end Fetches

end Provision.Nightly
