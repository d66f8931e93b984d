import CardPayments.Proofs.Provider.Payload
import CardPayments.Proofs.Time.Zone

/-!
# Ordinary times

In the first and the last year of the calendar a change of the offset may lead out of it.  Times with an
offset in the years between are ordinary (`DateTime.IsOrdinary`): their instants can be stored
(`IsOrdinary.toUniversal_isOk`) and shown in the local zone (`IsOrdinary.time_isOk`), and the ISO text of
one is read as one by the reader of the provider's dates (`Provider.exists_readDate`).
-/

namespace CardPayments

/-- The date and time has an offset, and its local year is one from 2 to 9998. -/
def DateTime.IsOrdinary : DateTime → Prop
  | .naive _ => False
  | .aware t _ => 2 ≤ t.fields.date.year ∧ t.fields.date.year ≤ 9998

namespace LocalTime

/-- Between the first and the last year there is more than a day to either end of the calendar. -/
theorem ticks_bounds {t : LocalTime} (hlow : 2 ≤ t.fields.date.year) (hhigh : t.fields.date.year ≤ 9998) :
    2 * ticksPerDay ≤ t.ticks ∧ t.ticks + 2 * ticksPerDay < Date.dayCount * ticksPerDay := by
  set n := t.ticks / ticksPerDay with hn
  have hyear : t.fields.date.year = (Date.splitYear n).1 := by
    show (Date.ofDayNumber (t.ticks / ticksPerDay)).year = _
    rw [← hn, Date.ofDayNumber_eq]
  obtain ⟨hdays, hday⟩ := Date.splitYear_spec n
  rw [hyear] at hlow hhigh
  have hlength : (Date.splitYear n).2 < 366 := by
    rw [Date.sum_monthLengths] at hday
    split_ifs at hday <;> omega
  have hfirst : 2 ≤ n := by
    unfold Date.daysBeforeYear at hdays
    dsimp only at hdays
    omega
  have hlast : n + 3 < Date.dayCount := by
    unfold Date.daysBeforeYear at hdays
    unfold Date.dayCount
    dsimp only at hdays
    omega
  have hrest : t.ticks = n * ticksPerDay + t.ticks % ticksPerDay := (Nat.div_add_mod' _ _).symm
  have hless : t.ticks % ticksPerDay < ticksPerDay := Nat.mod_lt _ (by decide)
  unfold Date.dayCount at hlast ⊢
  unfold ticksPerDay ticksPerSecond at hrest hless ⊢
  omega

theorem exists_ofTicks? {n : Int} (hlow : 0 ≤ n) (hhigh : n < (Date.dayCount * ticksPerDay : Nat)) :
    ∃ t, ofTicks? n = some t := by
  have hlt : n.toNat < Date.dayCount * ticksPerDay := by omega
  exact ⟨⟨n.toNat, hlt⟩, by rw [ofTicks?, dif_pos hlt, if_pos hlow]⟩

end LocalTime

namespace DateTime.IsOrdinary

open Zone

variable {d : DateTime}

/-- Less than a day before or after the instant of an ordinary time there still is a local time. -/
theorem exists_ofTicks? (h : d.IsOrdinary) (offset : Offset) :
    ∃ t, LocalTime.ofTicks? (instantOf d + offset.ticks) = some t := by
  cases d with
  | naive t => exact h.elim
  | aware t own =>
    obtain ⟨hlow, hhigh⟩ := LocalTime.ticks_bounds h.1 h.2
    have hown : own.ticks.natAbs < ticksPerDay := own.isLt
    have hoffset : offset.ticks.natAbs < ticksPerDay := offset.isLt
    have hinstant : instantOf (.aware t own) = (t.ticks : Int) - own.ticks := rfl
    rw [hinstant]
    exact LocalTime.exists_ofTicks? (by omega) (by omega)

theorem toUniversal_isOk (h : d.IsOrdinary) : (Offer.toUniversal d).isOk = true := by
  obtain ⟨t, ht⟩ := h.exists_ofTicks? Offset.utc
  have hinstant : instantOf d + Offset.utc.ticks = instantOf d := Int.add_zero _
  rw [hinstant] at ht
  rw [Offer.toUniversal, ht]
  rfl

/-- An ordinary time can be shown. -/
theorem time_isOk (h : d.IsOrdinary) : ∃ v, Shown.time d = .ok v := by
  obtain ⟨t, ht⟩ := h.exists_ofTicks? Offset.utc
  let offset := toOffset (offsetAt (instantOf d))
  obtain ⟨u, hu⟩ := h.exists_ofTicks? offset
  have huniversal : universal? (instantOf d) = some (.aware t Offset.utc) := by
    rw [universal?, DateTime.ofInstant?, ht]
    rfl
  have hshown : show? (instantOf d) = some (.aware u offset) := by
    rw [show?, DateTime.ofInstant?, hu]
    rfl
  have hzone : Shown.inZone d = some (.aware u offset) := by
    cases d with
    | naive t => exact h.elim
    | aware s own => exact hshown
  refine ⟨.text (DateTime.aware u offset).isoText, ?_⟩
  rw [Shown.time, Shown.localTime, huniversal, hzone]
  rfl

/-- The text of an ordinary time is read as an ordinary time. -/
theorem exists_read (h : d.IsOrdinary) : ∃ d', DateTime.read d.isoText = .ok (some d') ∧ d'.IsOrdinary := by
  cases d with
  | naive t => exact h.elim
  | aware t offset =>
    obtain ⟨offset', hread⟩ := DateTime.exists_read_aware t offset
    exact ⟨_, hread, h⟩

end DateTime.IsOrdinary

namespace Provider

open Json

/-- A date of the provider: none, or the text of an ordinary time. -/
def IsDate (v : Value) : Prop := v = .null ∨ ∃ d : DateTime, d.IsOrdinary ∧ v = .text d.isoText

/-- Dates of the provider are read, as ordinary times if there are any. -/
theorem exists_readDate {v : Value} (h : IsDate v) :
    ∃ date, readDate v = .ok date ∧ ∀ d, date = some d → d.IsOrdinary := by
  unfold readDate
  rcases h with rfl | ⟨d, hd, rfl⟩
  · exact ⟨none, rfl, nofun⟩
  · split_ifs
    · obtain ⟨d', hread, hd'⟩ := hd.exists_read
      refine ⟨some d', ?_, ?_⟩
      · rw [show (Value.text d.isoText).display = d.isoText from rfl, hread]
        rfl
      · rintro _ ⟨⟩
        exact hd'
    · exact ⟨none, rfl, nofun⟩

end Provider

end CardPayments
