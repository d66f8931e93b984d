import CardPayments.Proofs.Time.Ordinary

/-!
# Instants that can be shown

The zone is behind universal time, so that the local times of the first hours of the calendar lie before its
beginning: a date and time can be shown if and only if its instant is `Zone.earliest` or later and lies in the
calendar (`Shown.time_isOk_iff`).  A time without an offset is a local time of the zone, and so never too early
(`Zone.earliest_le_of_naive`).
-/

namespace CardPayments

theorem LocalTime.isSome_ofTicks?_iff {n : Int} :
    (ofTicks? n).isSome = true ↔ 0 ≤ n ∧ n < (Date.dayCount * ticksPerDay : Nat) := by
  constructor
  · intro h
    obtain ⟨t, ht⟩ := Option.isSome_iff_exists.1 h
    have hticks := ofTicks?_eq_some ht
    have hlt := t.isLt
    omega
  · rintro ⟨hlow, hhigh⟩
    obtain ⟨t, ht⟩ := exists_ofTicks? hlow hhigh
    exact Option.isSome_of_eq_some ht

namespace Zone

/-- The first instant that has a local time in the calendar: 6 hours, 36 minutes and 36 seconds after its
beginning. -/
def earliest : Int := -meanTime

theorem ticks_toOffset {ticks : Int} (h : IsOffset ticks) : (toOffset ticks).ticks = ticks := by
  rw [toOffset, Offset.ofTicks?, dif_pos h.2]
  rfl

theorem neg_of_mem_changes {c : Change} (hc : c ∈ changes) : c.offset < 0 := by
  have hhours : ∀ entry ∈ changeTable, entry.2.2.2.2 < 0 := by decide
  obtain ⟨entry, hentry, rfl⟩ := List.mem_map.1 hc
  have hneg := hhours entry hentry
  show entry.2.2.2.2 * 3600 * (ticksPerSecond : Int) < 0
  unfold ticksPerSecond
  omega

theorem offsetAt_neg (instant : Int) : offsetAt instant < 0 :=
  offsetAt_go (P := fun offset => offset < 0) instant (by decide) fun _ => neg_of_mem_changes

theorem offsetOfLocal_neg (time : LocalTime) : offsetOfLocal time < 0 :=
  offsetOfLocal_go (P := fun offset => offset < 0) time.ticks (by decide) fun _ => neg_of_mem_changes

/-- On the first day of the calendar local mean time is kept. -/
theorem offsetAt_of_lt {instant : Int} (h : instant < ticksPerDay) : offsetAt instant = meanTime := by
  have hlater : ∀ c ∈ changes, (2 * ticksPerDay : Int) ≤ c.instant := by decide +kernel
  unfold offsetAt
  cases hchanges : changes with
  | nil => rfl
  | cons change later =>
    have hfirst := hlater change (by rw [hchanges]; exact List.mem_cons_self)
    rw [offsetAt.go, if_pos (by omega)]

theorem offsetOfLocal_of_lt {time : LocalTime} (h : time.ticks < ticksPerDay) :
    offsetOfLocal time = meanTime := by
  have hlater : ∀ c ∈ changes, (2 * ticksPerDay : Int) ≤ c.instant := by decide +kernel
  have hmean : -(ticksPerDay : Int) < meanTime := by decide
  unfold offsetOfLocal
  cases hchanges : changes with
  | nil => rfl
  | cons change later =>
    have hfirst := hlater change (by rw [hchanges]; exact List.mem_cons_self)
    have hmax := le_max_left meanTime change.offset
    rw [offsetOfLocal.go, if_pos (by omega)]

/-- An instant of the calendar has a local time there unless it is too early. -/
theorem isSome_show?_iff {instant : Int} (hhigh : instant < (Date.dayCount * ticksPerDay : Nat)) :
    (show? instant).isSome = true ↔ earliest ≤ instant := by
  have hneg := offsetAt_neg instant
  rw [show?, DateTime.ofInstant?, Option.isSome_map, LocalTime.isSome_ofTicks?_iff,
    ticks_toOffset (isOffset_offsetAt instant)]
  by_cases hearly : instant < ticksPerDay
  · rw [offsetAt_of_lt hearly] at hneg ⊢
    unfold earliest
    omega
  · have hless := (isOffset_offsetAt instant).2
    have hfirst : earliest < ticksPerDay := by decide
    omega

theorem earliest_le_of_naive (time : LocalTime) : earliest ≤ instantOf (.naive time) := by
  have hneg := offsetOfLocal_neg time
  show earliest ≤ (time.ticks : Int) - (toOffset (offsetOfLocal time)).ticks
  rw [ticks_toOffset (isOffset_offsetOfLocal time)]
  by_cases hearly : time.ticks < ticksPerDay
  · rw [offsetOfLocal_of_lt hearly]
    unfold earliest
    omega
  · have hfirst : earliest < ticksPerDay := by decide
    omega

end Zone

open Zone

/-- The instant of a date and time lies in the calendar, and so does its local time in the zone. -/
def DateTime.IsShowable (d : DateTime) : Prop :=
  earliest ≤ instantOf d ∧ instantOf d < (Date.dayCount * ticksPerDay : Nat)

namespace Shown

/-- **Times that can be shown**: a date and time can be shown if and only if its instant lies in the calendar
and is not too early. -/
theorem time_isOk_iff (d : DateTime) : (time d).isOk = true ↔ d.IsShowable := by
  have hparts : (time d).isOk = true ↔
      (universal? (instantOf d)).isSome = true ∧ (inZone d).isSome = true := by
    unfold time localTime
    cases universal? (instantOf d) <;> cases inZone d <;> simp [Except.map, Except.isOk, Except.toBool]
  have huniversal : (universal? (instantOf d)).isSome = true ↔
      0 ≤ instantOf d ∧ instantOf d < (Date.dayCount * ticksPerDay : Nat) := by
    have hsame : instantOf d + Offset.utc.ticks = instantOf d := Int.add_zero _
    rw [universal?, DateTime.ofInstant?, Option.isSome_map, hsame, LocalTime.isSome_ofTicks?_iff]
  have hpositive : 0 ≤ earliest := by decide
  rw [hparts, huniversal, DateTime.IsShowable]
  cases d with
  | naive t =>
    have hlow := earliest_le_of_naive t
    have hshown : (inZone (.naive t)).isSome = true := rfl
    constructor
    · rintro ⟨⟨-, hhigh⟩, -⟩
      exact ⟨hlow, hhigh⟩
    · rintro ⟨-, hhigh⟩
      exact ⟨⟨by omega, hhigh⟩, hshown⟩
  | aware t offset =>
    constructor
    · rintro ⟨⟨-, hhigh⟩, hshown⟩
      exact ⟨(isSome_show?_iff hhigh).1 hshown, hhigh⟩
    · rintro ⟨hlow, hhigh⟩
      exact ⟨⟨by omega, hhigh⟩, (isSome_show?_iff hhigh).2 hlow⟩

end Shown

end CardPayments
