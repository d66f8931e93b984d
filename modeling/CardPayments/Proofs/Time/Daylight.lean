import CardPayments.Proofs.Time.Zone
import Mathlib.Tactic.Common

/-!
# Daylight time

From 1996 on the table of the zone follows a rule: daylight time is kept from the first Sunday of April to the last
Sunday of October of the years until 2022, in 2001 from the first Sunday of May to the last Sunday of September, and
changes at two o'clock of the local time that is kept before it (`Zone.season`).  At all other instants of these
years standard time is kept: `Zone.offsetAt_eq`.

The table and the rule are compared once (`Zone.changes_eq`); that the offset at an instant is that of the season
it lies in is an induction over seasons that follow each other, whichever they are.
-/

namespace CardPayments

namespace Date

/-- The first Sunday of a month. -/
def firstSunday (year month : Nat) : Date := ⟨year, month, 7 - weekday ⟨year, month, 1⟩⟩

/-- The last Sunday of a month. -/
def lastSunday (year month : Nat) : Date :=
  let length := ((monthLengths year)[month - 1]?).getD 0
  ⟨year, month, length - (weekday ⟨year, month, length⟩ + 1) % 7⟩

end Date

namespace Zone

deriving instance DecidableEq for Change

/-! ### The rule -/

/-- Six hours behind universal time. -/
def standardTime : Int := -6 * 3600 * (ticksPerSecond : Int)

/-- Five hours behind universal time. -/
def daylightTime : Int := -5 * 3600 * (ticksPerSecond : Int)

/-- The instant of two o'clock on a day, in local time of the given offset. -/
def twoOClock (day : Date) (offset : Int) : Int := ((⟨day, 2, 0, 0, 0⟩ : TimeFields).ticks : Int) - offset

/-- A season of daylight time. -/
structure Season where
  /-- The first instant of it. -/
  start : Int
  /-- The first instant after it. -/
  stop : Int
  deriving DecidableEq

/-- An instant lies in a season. -/
def Season.Holds (s : Season) (instant : Int) : Prop := s.start ≤ instant ∧ instant < s.stop

instance (s : Season) (instant : Int) : Decidable (s.Holds instant) :=
  inferInstanceAs (Decidable (s.start ≤ instant ∧ instant < s.stop))

/-- The season of a year between two of its months. -/
def seasonBetween (year first last : Nat) : Season :=
  ⟨twoOClock (Date.firstSunday year first) standardTime, twoOClock (Date.lastSunday year last) daylightTime⟩

/-- The season of a year; that of 2001 was shorter. -/
def season (year : Nat) : Season := if year = 2001 then seasonBetween year 5 9 else seasonBetween year 4 10

/-- The seasons of the years from 1996 to 2022. -/
def seasons : List Season := (List.range' 1996 27).map season

/-- Daylight time is kept at an instant. -/
def IsDaylight (instant : Int) : Prop := ∃ s ∈ seasons, s.Holds instant

instance (instant : Int) : Decidable (IsDaylight instant) :=
  inferInstanceAs (Decidable (∃ s ∈ seasons, s.Holds instant))

/-- The beginning of 1996. -/
def beginOf1996 : Int := ((⟨⟨1996, 1, 1⟩, 0, 0, 0, 0⟩ : TimeFields).ticks : Int)

/-! ### The table follows the rule -/

/-- The changes that come with a season. -/
def Season.changes (s : Season) : List Change := [⟨s.start, daylightTime⟩, ⟨s.stop, standardTime⟩]

/-- The changes before 1996. -/
def earlyChanges : List Change := Zone.changes.take 14

/-- From 1996 on the changes are those of the seasons. -/
theorem changes_eq : changes = earlyChanges ++ seasons.flatMap Season.changes := by decide +kernel

theorem earlyChanges_le : ∀ c ∈ earlyChanges, c.instant ≤ beginOf1996 := by decide +kernel

theorem getLast?_earlyChanges : earlyChanges.getLast?.map Change.offset = some standardTime := by decide +kernel

/-- Every season ends after it has begun, and before the next one begins. -/
theorem seasons_apart : (∀ s ∈ seasons, s.start ≤ s.stop) ∧ seasons.Pairwise fun s s' => s.stop ≤ s'.start := by
  decide +kernel

/-! ### The offset at an instant -/

variable {instant : Int}

/-- Changes that have happened count only for the offset that they left. -/
theorem offsetAt_go_append {before : Int} {early later : List Change} (h : ∀ c ∈ early, c.instant ≤ instant) :
    offsetAt.go instant before (early ++ later) =
      offsetAt.go instant ((early.getLast?.map Change.offset).getD before) later := by
  induction early generalizing before with
  | nil => rfl
  | cons c early ih =>
    rw [List.forall_mem_cons] at h
    rw [List.cons_append, offsetAt.go, if_neg (Int.not_lt.2 h.1), ih h.2]
    cases early with
    | nil => rfl
    | cons c' early => rw [List.getLast?_cons_cons]; rfl

/-- The offset among seasons that follow each other, when standard time is kept before the first of them. -/
theorem offsetAt_go_seasons {seasons : List Season} (hstop : ∀ s ∈ seasons, s.start ≤ s.stop)
    (happart : seasons.Pairwise fun s s' => s.stop ≤ s'.start) :
    offsetAt.go instant standardTime (seasons.flatMap Season.changes) =
      if ∃ s ∈ seasons, s.Holds instant then daylightTime else standardTime := by
  induction seasons with
  | nil =>
    rw [if_neg]
    · rfl
    · rintro ⟨s, hs, -⟩
      cases hs
  | cons s later ih =>
    rw [List.forall_mem_cons] at hstop
    rw [List.pairwise_cons] at happart
    have hgo : offsetAt.go instant standardTime ((s :: later).flatMap Season.changes) =
        if instant < s.start then standardTime
        else if instant < s.stop then daylightTime
        else offsetAt.go instant standardTime (later.flatMap Season.changes) := rfl
    rw [hgo, ih hstop.2 happart.2]
    simp only [List.exists_mem_cons_iff]
    -- The instant lies before the season, in it, or after it.
    by_cases hbefore : instant < s.start
    · rw [if_pos hbefore, if_neg]
      rintro (⟨hstart, -⟩ | ⟨s', hs', hstart, -⟩)
      · omega
      · have hnext := happart.1 s' hs'
        omega
    · by_cases hin : instant < s.stop
      · rw [if_neg hbefore, if_pos hin, if_pos (.inl ⟨Int.not_lt.1 hbefore, hin⟩)]
      · have hafter : ¬s.Holds instant := fun h => hin h.2
        simp only [if_neg hbefore, if_neg hin, hafter, false_or]

/-- **The rule of daylight time**: from 1996 on the offset of the zone is that of daylight time in a season, and
that of standard time at all other instants. -/
theorem offsetAt_eq (h : beginOf1996 ≤ instant) :
    offsetAt instant = if IsDaylight instant then daylightTime else standardTime := by
  have hearly (c : Change) (hc : c ∈ earlyChanges) : c.instant ≤ instant := (earlyChanges_le c hc).trans h
  rw [offsetAt, changes_eq, offsetAt_go_append hearly, getLast?_earlyChanges]
  exact offsetAt_go_seasons seasons_apart.1 seasons_apart.2

end Zone

end CardPayments
