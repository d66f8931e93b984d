import CardPayments.Payment.Result
import CardPayments.Proofs.Failure
import CardPayments.Proofs.Time.IsoText
import CardPayments.Store.Column

/-!
# Times of the local zone

Every offset of the zone is a second or more and less than a day, whatever the instant
(`isOffset_offsetAt`, `isOffset_offsetOfLocal`).  An instant that is shown in the zone is therefore the
instant of what is shown, and the text of it is read back (`Shown.time_eq_ok`).
-/

namespace CardPayments

/-! ### Instants and local times -/

theorem LocalTime.ofTicks?_eq_some {n : Int} {t : LocalTime} (h : ofTicks? n = some t) :
    (t.ticks : Int) = n := by
  unfold ofTicks? at h
  split_ifs at h with _ hn
  cases h
  exact Int.toNat_of_nonneg hn

/-- The instant at which a local time of universal time is kept is the one that it denotes. -/
theorem Offer.toUniversal_eq_ok {d : DateTime} {t : LocalTime} (h : toUniversal d = .ok t) :
    (t.ticks : Int) = Zone.instantOf d := by
  unfold toUniversal at h
  cases hticks : LocalTime.ofTicks? (Zone.instantOf d) with
  | none =>
    rw [hticks] at h
    cases h
  | some u =>
    rw [hticks] at h
    cases h
    exact LocalTime.ofTicks?_eq_some hticks

/-- A local time of universal time is kept as it is. -/
theorem Offer.toUniversal_utc (t : LocalTime) : toUniversal (.aware t Offset.utc) = .ok t := by
  have hinstant : Zone.instantOf (.aware t Offset.utc) = t.ticks := Int.sub_zero _
  rw [toUniversal, hinstant, t.ofTicks?_ticks]

namespace Zone

/-! ### The offsets of the zone -/

/-- Microseconds that are an offset of a second or more. -/
def IsOffset (ticks : Int) : Prop := ticksPerSecond ≤ ticks.natAbs ∧ ticks.natAbs < ticksPerDay

theorem isOffset_meanTime : IsOffset meanTime := ⟨by decide, by decide⟩

theorem isOffset_of_mem_changes {c : Change} (hc : c ∈ changes) : IsOffset c.offset := by
  have hhours : ∀ entry ∈ changeTable, -24 < entry.2.2.2.2 ∧ entry.2.2.2.2 < 0 := by decide
  obtain ⟨entry, hentry, rfl⟩ := List.mem_map.1 hc
  obtain ⟨hlow, hhigh⟩ := hhours entry hentry
  show ticksPerSecond ≤ (entry.2.2.2.2 * 3600 * (ticksPerSecond : Int)).natAbs ∧
    (entry.2.2.2.2 * 3600 * (ticksPerSecond : Int)).natAbs < ticksPerDay
  unfold ticksPerDay ticksPerSecond
  omega

variable {P : Int → Prop}

/-- What is so of the first offset and of those of all changes is so of every offset. -/
theorem offsetAt_go (instant : Int) {before : Int} {later : List Change} (hbefore : P before)
    (hlater : ∀ c ∈ later, P c.offset) : P (offsetAt.go instant before later) := by
  induction later generalizing before with
  | nil => exact hbefore
  | cons change later ih =>
    rw [List.forall_mem_cons] at hlater
    rw [offsetAt.go]
    split_ifs
    · exact hbefore
    · exact ih hlater.1 hlater.2

theorem offsetOfLocal_go (time : Int) {before : Int} {later : List Change} (hbefore : P before)
    (hlater : ∀ c ∈ later, P c.offset) : P (offsetOfLocal.go time before later) := by
  induction later generalizing before with
  | nil => exact hbefore
  | cons change later ih =>
    rw [List.forall_mem_cons] at hlater
    rw [offsetOfLocal.go]
    split_ifs
    · exact hbefore
    · exact ih hlater.1 hlater.2

theorem isOffset_offsetAt (instant : Int) : IsOffset (offsetAt instant) :=
  offsetAt_go instant isOffset_meanTime fun _ => isOffset_of_mem_changes

theorem isOffset_offsetOfLocal (time : LocalTime) : IsOffset (offsetOfLocal time) :=
  offsetOfLocal_go time.ticks isOffset_meanTime fun _ => isOffset_of_mem_changes

/-- The offset of so many microseconds is read back. -/
theorem isReadableOffset_toOffset {ticks : Int} (h : IsOffset ticks) :
    DateTime.IsReadableOffset (toOffset ticks) := by
  have hoffset : toOffset ticks = ⟨ticks, h.2⟩ := by
    rw [toOffset, Offset.ofTicks?, dif_pos h.2]
    rfl
  rw [hoffset]
  exact .inr h.1

/-! ### Shown instants -/

/-- What is shown of an instant denotes it. -/
theorem instantOf_of_show? {instant : Int} {d : DateTime} (h : show? instant = some d) :
    instantOf d = instant ∧ ∃ t, d = .aware t (toOffset (offsetAt instant)) := by
  obtain ⟨t, ht, rfl⟩ := Option.map_eq_some_iff.1 h
  have hticks := LocalTime.ofTicks?_eq_some ht
  refine ⟨?_, t, rfl⟩
  show (t.ticks : Int) - (toOffset (offsetAt instant)).ticks = instant
  rw [hticks]
  omega

end Zone

namespace Shown

open Zone

/-- A date and time in the zone has an offset, denotes the same instant, and is read back. -/
theorem inZone_eq_some {d shown : DateTime} (h : inZone d = some shown) :
    instantOf shown = instantOf d ∧ shown.IsReadable ∧ ∃ t offset, shown = .aware t offset := by
  cases d with
  | aware t offset =>
    obtain ⟨hinstant, u, rfl⟩ := instantOf_of_show? h
    exact ⟨hinstant, isReadableOffset_toOffset (isOffset_offsetAt _), u, _, rfl⟩
  | naive t =>
    rw [← Option.some.inj h]
    exact ⟨rfl, isReadableOffset_toOffset (isOffset_offsetOfLocal t), t, _, rfl⟩

theorem localTime_eq_ok {d shown : DateTime} (h : localTime d = .ok shown) :
    inZone d = some shown := by
  unfold localTime at h
  split at h
  · next hshown =>
    rw [hshown, Except.ok.inj h]
  · cases h

/-- The text that is shown of a date and time is read as a date and time with an offset that denotes the
same instant. -/
theorem time_eq_ok {d : DateTime} {v : Json.Value} (h : time d = .ok v) :
    ∃ text t offset, v = .text text ∧ DateTime.read text = .ok (some (.aware t offset)) ∧
      instantOf (.aware t offset) = instantOf d := by
  obtain ⟨shown, hshown, rfl⟩ := map_eq_ok.1 h
  obtain ⟨hinstant, hreadable, t, offset, rfl⟩ := inZone_eq_some (localTime_eq_ok hshown)
  exact ⟨_, t, offset, rfl, DateTime.read_isoText hreadable, hinstant⟩

end Shown

end CardPayments
