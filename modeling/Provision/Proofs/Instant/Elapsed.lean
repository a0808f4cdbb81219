import Provision.Proofs.Instant.Order

set_option autoImplicit false

namespace Provision

namespace Calendar

theorem isLeap_iff (year : Int) : isLeap year = true ↔ year % 4 = 0 ∧ (year % 100 ≠ 0 ∨ year % 400 = 0) := by
  simp [isLeap]

theorem dayNumber_month (year : Int) (month : Nat) (h : 1 ≤ month ∧ month < 12) :
    dayNumber year (month + 1) 1 = dayNumber year month 1 + daysIn year month := by
  have hleap := isLeap_iff year
  have hmonths : month = 1 ∨ month = 2 ∨ month = 3 ∨ month = 4 ∨ month = 5 ∨ month = 6 ∨ month = 7 ∨ month = 8 ∨
      month = 9 ∨ month = 10 ∨ month = 11 := by omega
  by_cases hl : isLeap year = true
  · have hyear := hleap.mp hl
    rcases hmonths with rfl | rfl | rfl | rfl | rfl | rfl | rfl | rfl | rfl | rfl | rfl <;>
      simp [dayNumber, daysToMonth, daysToMarch, daysIn, hl] <;> omega
  · have hyear := mt hleap.mpr hl
    rcases hmonths with rfl | rfl | rfl | rfl | rfl | rfl | rfl | rfl | rfl | rfl | rfl <;>
      simp [dayNumber, daysToMonth, daysToMarch, daysIn, hl] <;> omega

theorem dayNumber_year (year : Int) : dayNumber (year + 1) 1 1 = dayNumber year 12 1 + 31 := by
  simp [dayNumber, daysToMonth]
  omega

theorem dayNumber_day (year : Int) (month day : Nat) : dayNumber year month day = dayNumber year month 1 + day - 1 := by
  unfold dayNumber
  omega

theorem dayNumber_months (year : Int) {m n : Nat} (hm : 1 ≤ m) (hn : n ≤ 12) (h : m < n) :
    dayNumber year m 1 + daysIn year m ≤ dayNumber year n 1 := by
  induction n with
  | zero => omega
  | succ n ih =>
    rcases Nat.lt_or_ge m n with hlt | hge
    · have hprev := ih (by omega) hlt
      have hnext := dayNumber_month year n (by omega)
      omega
    · have hsame : m = n := by omega
      subst hsame
      exact Int.le_of_eq (dayNumber_month year _ (by omega)).symm

theorem dayNumber_within {year : Int} {month day : Nat} (hm : 1 ≤ month ∧ month ≤ 12)
    (hd : 1 ≤ day ∧ day ≤ daysIn year month) :
    dayNumber year 1 1 ≤ dayNumber year month day ∧ dayNumber year month day < dayNumber (year + 1) 1 1 := by
  have hday := dayNumber_day year month day
  have hnext := dayNumber_year year
  constructor
  · rcases Nat.lt_or_ge 1 month with h | h
    · have hfirst := dayNumber_months year (by omega) hm.2 h
      omega
    · have hone : month = 1 := by omega
      subst hone
      omega
  · rcases Nat.lt_or_ge month 12 with h | h
    · have hlast := dayNumber_months year hm.1 (by omega) h
      omega
    · have htwelve : month = 12 := by omega
      subst htwelve
      have hdec : daysIn year 12 = 31 := rfl
      omega

theorem dayNumber_years {a b : Int} (h : a ≤ b) : dayNumber a 1 1 + (b - a) ≤ dayNumber b 1 1 := by
  simp [dayNumber, daysToMonth, daysToMarch]
  omega

theorem dayNumber_injective {y y' : Int} {m m' d d' : Nat} (hm : 1 ≤ m ∧ m ≤ 12) (hm' : 1 ≤ m' ∧ m' ≤ 12)
    (hd : 1 ≤ d ∧ d ≤ daysIn y m) (hd' : 1 ≤ d' ∧ d' ≤ daysIn y' m') (h : dayNumber y m d = dayNumber y' m' d') :
    y = y' ∧ m = m' ∧ d = d' := by
  have hin := dayNumber_within hm hd
  have hin' := dayNumber_within hm' hd'
  have hyear : y = y' := by
    rcases Int.lt_trichotomy y y' with hlt | heq | hgt
    · have hbetween := dayNumber_years (a := y + 1) (b := y') (by omega)
      omega
    · exact heq
    · have hbetween := dayNumber_years (a := y' + 1) (b := y) (by omega)
      omega
  subst hyear
  have hday := dayNumber_day y m d
  have hday' := dayNumber_day y m' d'
  have hmonth : m = m' := by
    rcases Nat.lt_trichotomy m m' with hlt | heq | hgt
    · have hbehind := dayNumber_months y hm.1 hm'.2 hlt
      omega
    · exact heq
    · have hbehind := dayNumber_months y hm'.1 hm.2 hgt
      omega
  subst hmonth
  exact ⟨rfl, rfl, by omega⟩

end Calendar

namespace Instant

open Calendar

def Plain (t : Instant) : Prop := t.nano < 1000000000

instance (t : Instant) : Decidable t.Plain := inferInstanceAs (Decidable (t.nano < 1000000000))

/-- The point in time a nanosecond later. There is none after the last year. -/
def next? (t : Instant) : Option Instant :=
  if t.nano + 1 < 1000000000 then of? t.year t.month t.day t.hour t.minute t.second (t.nano + 1)
  else if t.second + 1 < 60 then of? t.year t.month t.day t.hour t.minute (t.second + 1) 0
  else if t.minute + 1 < 60 then of? t.year t.month t.day t.hour (t.minute + 1) 0 0
  else if t.hour + 1 < 24 then of? t.year t.month t.day (t.hour + 1) 0 0 0
  else of? (dayAfter t.year t.month t.day).1 (dayAfter t.year t.month t.day).2.1 (dayAfter t.year t.month t.day).2.2 0 0 0 0

/-- So many nanoseconds elapse from one point in time to another. -/
inductive Elapsed : Nat → Instant → Instant → Prop where
  | none (t : Instant) : Elapsed 0 t t
  | more {n : Nat} {a b c : Instant} (before : Elapsed n a b) (h : b.next? = some c) : Elapsed (n + 1) a c

theorem of?_eq_some {y : Int} {m d h mi s n : Nat} {t : Instant} (ht : of? y m d h mi s n = some t) :
    t.year = y ∧ t.month = m ∧ t.day = d ∧ t.hour = h ∧ t.minute = mi ∧ t.second = s ∧ t.nano = n := by
  unfold of? at ht
  split at ht
  · cases ht
    exact ⟨rfl, rfl, rfl, rfl, rfl, rfl, rfl⟩
  · cases ht

theorem nanos_of? {y : Int} {m d h mi s n : Nat} {t : Instant} (ht : of? y m d h mi s n = some t) :
    (t.Plain ↔ n < 1000000000) ∧
      t.nanos = (Calendar.dayNumber y m d * 86400 + ((h * 3600 + mi * 60 + s : Nat) : Int)) * 1000000000 + n := by
  obtain ⟨rfl, rfl, rfl, rfl, rfl, rfl, rfl⟩ := of?_eq_some ht
  exact ⟨.rfl, rfl⟩

theorem dayNumber_dayAfter {y : Int} {m d : Nat} (hm : 1 ≤ m ∧ m ≤ 12) (hd : 1 ≤ d ∧ d ≤ daysIn y m) :
    Calendar.dayNumber (dayAfter y m d).1 (dayAfter y m d).2.1 (dayAfter y m d).2.2 = Calendar.dayNumber y m d + 1 := by
  have hday := dayNumber_day y m d
  unfold dayAfter
  split
  · have hnext := dayNumber_day y m (d + 1)
    simp only
    omega
  · split
    · have hmonth := dayNumber_month y m (by omega)
      simp only
      omega
    · have htwelve : m = 12 := by omega
      subst htwelve
      have hyear := dayNumber_year y
      have hdec : daysIn y 12 = 31 := rfl
      simp only
      omega

theorem nanos_next {t t' : Instant} (ht : t.Plain) (h : t.next? = some t') : t'.Plain ∧ t'.nanos = t.nanos + 1 := by
  have hv := t.valid
  have hnano : t.nano < 1000000000 := ht
  have hseconds := hv.seconds
  have hminutes := hv.minutes
  have hhours := hv.hours
  have hcount : t.nanos = (t.dayNumber * 86400 + t.clock) * 1000000000 + t.nano := rfl
  unfold dayNumber clock at hcount
  unfold next? at h
  split at h
  · obtain ⟨hplain, hnext⟩ := nanos_of? h
    exact ⟨hplain.mpr (by omega), by omega⟩
  split at h
  · obtain ⟨hplain, hnext⟩ := nanos_of? h
    exact ⟨hplain.mpr (by omega), by omega⟩
  split at h
  · obtain ⟨hplain, hnext⟩ := nanos_of? h
    exact ⟨hplain.mpr (by omega), by omega⟩
  split at h
  · obtain ⟨hplain, hnext⟩ := nanos_of? h
    exact ⟨hplain.mpr (by omega), by omega⟩
  · obtain ⟨hplain, hnext⟩ := nanos_of? h
    have hday := dayNumber_dayAfter hv.months hv.days
    exact ⟨hplain.mpr (by omega), by omega⟩

theorem Elapsed.nanos {n : Nat} {a b : Instant} (ha : a.Plain) (h : Elapsed n a b) : b.Plain ∧ b.nanos = a.nanos + n := by
  induction h with
  | none t => exact ⟨ha, by simp⟩
  | more before hnext ih =>
    obtain ⟨hb, hcount⟩ := ih ha
    obtain ⟨hc, hone⟩ := nanos_next hb hnext
    exact ⟨hc, by omega⟩

theorem valid_dayAfter {y : Int} {m d : Nat} (hm : 1 ≤ m ∧ m ≤ 12) (hd : 1 ≤ d ∧ d ≤ daysIn y m) :
    (1 ≤ (dayAfter y m d).2.1 ∧ (dayAfter y m d).2.1 ≤ 12) ∧
      (1 ≤ (dayAfter y m d).2.2 ∧ (dayAfter y m d).2.2 ≤ daysIn (dayAfter y m d).1 (dayAfter y m d).2.1) ∧
      ((dayAfter y m d).1 = y ∨ ((dayAfter y m d).1 = y + 1 ∧ m = 12 ∧ d = 31)) := by
  have hpos : ∀ (y : Int) (m : Nat), 1 ≤ daysIn y m := by
    intro y m
    unfold daysIn
    split
    · split <;> omega
    all_goals omega
  unfold dayAfter
  split
  · exact ⟨hm, ⟨by simp, by assumption⟩, .inl rfl⟩
  · split
    · exact ⟨⟨by simp, by simp only; omega⟩, ⟨Nat.le_refl 1, hpos _ _⟩, .inl rfl⟩
    · have htwelve : m = 12 := by omega
      subst htwelve
      have hdec : daysIn y 12 = 31 := rfl
      exact ⟨⟨Nat.le_refl 1, by simp⟩, ⟨Nat.le_refl 1, hpos _ _⟩, .inr ⟨rfl, rfl, by omega⟩⟩

def limit : Int := Calendar.dayNumber (lastYear + 1) 1 1 * 86400 * 1000000000

theorem nanos_lt_limit {t : Instant} (ht : t.Plain) : t.nanos < limit := by
  have hnano : t.nano < 1000000000 := ht
  have hclock := t.clock_lt
  have hyear := t.valid.years.2
  have hin := dayNumber_within t.valid.months t.valid.days
  have hyears := dayNumber_years (a := t.year + 1) (b := lastYear + 1) (by omega)
  unfold nanos dayNumber limit
  omega

theorem year_lt_lastYear {t : Instant} (h : t.nanos + 1 < limit) (hmonth : t.month = 12) (hday : t.day = 31)
    (hhour : t.hour = 23) (hminute : t.minute = 59) (hsecond : t.second = 59) (hnano : t.nano = 999999999) :
    t.year < lastYear := by
  have hyear := t.valid.years.2
  rcases Int.lt_or_eq_of_le hyear with hlt | heq
  · exact hlt
  · have hend := dayNumber_year lastYear
    have hlast := dayNumber_day lastYear 12 31
    unfold nanos dayNumber clock limit at h
    rw [heq, hmonth, hday, hhour, hminute, hsecond, hnano] at h
    omega

theorem next?_ne_none {t : Instant} (ht : t.Plain) (h : t.nanos + 1 < limit) : ∃ t', t.next? = some t' := by
  have hv := t.valid
  have hhours := hv.hours
  have hminutes := hv.minutes
  have hseconds := hv.seconds
  have hnano : t.nano < 1000000000 := ht
  have hof : ∀ {y : Int} {m d h mi s n : Nat}, Valid y m d h mi s n → ∃ t', of? y m d h mi s n = some t' := by
    intro y m d h mi s n hvalid
    exact ⟨_, dif_pos hvalid⟩
  unfold next?
  split
  · exact hof ⟨hv.years, hv.months, hv.days, hv.hours, hv.minutes, hv.seconds, .inl (by assumption)⟩
  split
  · exact hof ⟨hv.years, hv.months, hv.days, hv.hours, hv.minutes, by assumption, .inl (by omega)⟩
  split
  · exact hof ⟨hv.years, hv.months, hv.days, hv.hours, by assumption, by omega, .inl (by omega)⟩
  split
  · exact hof ⟨hv.years, hv.months, hv.days, by assumption, by omega, by omega, .inl (by omega)⟩
  · obtain ⟨hmonth, hday, hyear⟩ := valid_dayAfter hv.months hv.days
    have hyears := hv.years
    have hnext : firstYear ≤ (dayAfter t.year t.month t.day).1 ∧ (dayAfter t.year t.month t.day).1 ≤ lastYear := by
      rcases hyear with hsame | ⟨hnext, htwelve, hlast⟩
      · omega
      · have hless := year_lt_lastYear h htwelve hlast (by omega) (by omega) (by omega) (by omega)
        omega
    exact hof ⟨hnext, hmonth, hday, by omega, by omega, by omega, .inl (by omega)⟩

theorem eq_of_nanos_eq {a b : Instant} (ha : a.Plain) (hb : b.Plain) (h : a.nanos = b.nanos) : a = b := by
  have hn : a.nano < 1000000000 := ha
  have hn' : b.nano < 1000000000 := hb
  have hclock := a.clock_lt
  have hclock' := b.clock_lt
  unfold nanos at h
  have hdate : a.dayNumber = b.dayNumber := by omega
  have htime : a.clock = b.clock := by omega
  have hnano : a.nano = b.nano := by omega
  obtain ⟨hyear, hmonth, hday⟩ := dayNumber_injective a.valid.months b.valid.months a.valid.days b.valid.days hdate
  have hminutes := a.valid.minutes
  have hminutes' := b.valid.minutes
  have hseconds := a.valid.seconds
  have hseconds' := b.valid.seconds
  unfold clock at htime
  have hhour : a.hour = b.hour := by omega
  have hminute : a.minute = b.minute := by omega
  have hsecond : a.second = b.second := by omega
  cases a
  cases b
  simp only [Instant.mk.injEq] at *
  exact ⟨hyear, hmonth, hday, hhour, hminute, hsecond, hnano⟩

theorem elapsed_iff {n : Nat} {a b : Instant} (ha : a.Plain) (hb : b.Plain) : Elapsed n a b ↔ b.nanos = a.nanos + n := by
  refine ⟨fun h => (h.nanos ha).2, fun h => ?_⟩
  have hlimit := nanos_lt_limit hb
  -- one nanosecond after the other, and after the last of them it is the time that was given
  have hreach : ∀ k : Nat, k ≤ n → ∃ c, Elapsed k a c := by
    intro k hk
    induction k with
    | zero => exact ⟨a, .none a⟩
    | succ k ih =>
      obtain ⟨c, hc⟩ := ih (by omega)
      obtain ⟨hplain, hcount⟩ := hc.nanos ha
      obtain ⟨c', hnext⟩ := next?_ne_none hplain (by omega)
      exact ⟨c', .more hc hnext⟩
  obtain ⟨c, hc⟩ := hreach n (Nat.le_refl n)
  obtain ⟨hplain, hcount⟩ := hc.nanos ha
  exact eq_of_nanos_eq hplain hb (hcount.trans h.symm) ▸ hc

theorem since_plain {a b : Instant} (ha : a.Plain) (hb : b.Plain) : a.since b = a.nanos - b.nanos := by
  have ha' : ¬ a.nano ≥ 1000000000 := Nat.not_le.mpr ha
  have hb' : ¬ b.nano ≥ 1000000000 := Nat.not_le.mpr hb
  have hzero : inserted a b = 0 := by simp [inserted, ha', hb']
  simp [since, hzero]

theorem lt_since_iff {a b : Instant} (ha : a.Plain) (hb : b.Plain) (k : Nat) :
    (k : Int) < b.since a ↔ ∃ n, Elapsed n a b ∧ k < n := by
  rw [since_plain hb ha]
  constructor
  · intro h
    refine ⟨(b.nanos - a.nanos).toNat, (elapsed_iff ha hb).mpr ?_, ?_⟩ <;> omega
  · rintro ⟨n, hn, hk⟩
    have hcount := (elapsed_iff ha hb).mp hn
    omega

theorem since_bounded (a b : Instant) (ha : a.Plain) (hb : b.Plain) :
    -(9223372036854775808 * 1000000) < a.since b ∧ a.since b < 9223372036854775808 * 1000000 := by
  have hbound : ∀ t : Instant, t.Plain →
      -100000000 * 86400 * 1000000000 < t.nanos ∧ t.nanos < 100000000 * 86400 * 1000000000 := by
    intro t ht
    have hnano : t.nano < 1000000000 := ht
    have hclock := t.clock_lt
    have hin := dayNumber_within t.valid.months t.valid.days
    have hyears := t.valid.years
    have hfirst := dayNumber_years hyears.1
    have hlast := dayNumber_years (a := t.year + 1) (b := lastYear + 1) (by omega)
    have hlow : -100000000 < Calendar.dayNumber firstYear 1 1 := by decide
    have hhigh : Calendar.dayNumber (lastYear + 1) 1 1 < 100000000 := by decide
    unfold nanos dayNumber
    omega
  rw [since_plain ha hb]
  have h₁ := hbound a ha
  have h₂ := hbound b hb
  omega

end Instant

end Provision
