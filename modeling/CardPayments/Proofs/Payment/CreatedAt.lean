import CardPayments.Proofs.Payment.Answer
import CardPayments.Proofs.Time.Daylight
import CardPayments.Proofs.Time.Shown

/-!
# The time of a result

What a client is told about the time of a payment is a text, and the reader of the provider's dates understands it:
as a local time of the zone with its offset, which denotes the instant that was meant.  A time with an offset moves
to the offset of the zone at its instant, a time without one stays as it is and gets the offset under which a
transaction of that time is stored (`PaymentResult.keepsInstant`).
-/

namespace CardPayments

open Json Zone

/-- What is to be said of a date and time that was read off the text in which another one was shown. -/
structure KeepsInstant (d : DateTime) (t : LocalTime) (offset : Offset) : Prop where
  /-- Both denote the same instant. -/
  instant : instantOf (.aware t offset) = instantOf d
  /-- An offset becomes the one that the zone has at the instant. -/
  offset_of_aware : ∀ u own, d = .aware u own → offset.ticks = offsetAt (instantOf d)
  /-- From 1996 on this is the one of the rule of daylight time. -/
  offset_by_rule : ∀ u own, d = .aware u own → beginOf1996 ≤ instantOf d →
    offset.ticks = if IsDaylight (instantOf d) then daylightTime else standardTime
  /-- Without an offset the local time stays as it is. -/
  time_of_naive : ∀ u, d = .naive u → t = u
  /-- A transaction of the date and time can be stored, and is stored under the instant. -/
  stored : ∀ draft : TransactionDraft, draft.transactionDate = .time d →
    (Field.instant "transaction_date" false draft.transactionDate).IsSound ∧
      ∀ key, ∃ stored, (draft.row key).transactionDate = some stored ∧
        (stored.ticks : Int) = instantOf (.aware t offset)

namespace Shown

/-- What is shown of a time is read as one of the zone, by the offset at its instant or as it is. -/
theorem inZone_cases {d shown : DateTime} (h : inZone d = some shown) :
    (∃ u own t, d = .aware u own ∧ shown = .aware t (toOffset (offsetAt (instantOf d)))) ∨
      ∃ u, d = .naive u ∧ shown = .aware u (toOffset (offsetOfLocal u)) := by
  cases d with
  | aware u own =>
    obtain ⟨-, t, rfl⟩ := instantOf_of_show? h
    exact .inl ⟨u, own, t, rfl, rfl⟩
  | naive u => exact .inr ⟨u, rfl, (Option.some.inj h).symm⟩

/-- A time that is shown lies in the calendar, and so can be stored. -/
theorem toUniversal_of_localTime {d shown : DateTime} (h : localTime d = .ok shown) :
    ∃ stored, Offer.toUniversal d = .ok stored ∧ (stored.ticks : Int) = instantOf d := by
  unfold localTime at h
  split at h
  · next u _ huniversal _ =>
    obtain ⟨stored, hstored, -⟩ := Option.map_eq_some_iff.1 huniversal
    have hsame : instantOf d + Offset.utc.ticks = instantOf d := Int.add_zero _
    rw [hsame] at hstored
    exact ⟨stored, by rw [Offer.toUniversal, hstored], LocalTime.ofTicks?_eq_some hstored⟩
  · cases h

/-- What is read off the text of a time keeps its instant. -/
theorem keepsInstant_of_time {d : DateTime} {v : Value} (h : time d = .ok v) :
    ∃ text t offset, v = .text text ∧ Provider.readDate (.text text) = .ok (some (.aware t offset)) ∧
      KeepsInstant d t offset := by
  obtain ⟨shown, hlocal, rfl⟩ := map_eq_ok.1 h
  have hzone := localTime_eq_ok hlocal
  obtain ⟨hinstant, hreadable, t, offset, rfl⟩ := inZone_eq_some hzone
  obtain ⟨stored, hstored, hticks⟩ := toUniversal_of_localTime hlocal
  have hoffset : ∀ u own, d = .aware u own → offset.ticks = offsetAt (instantOf d) := by
    rintro u own rfl
    rcases inZone_cases hzone with ⟨_, _, _, -, hshown⟩ | ⟨_, ⟨⟩, _⟩
    obtain ⟨-, rfl⟩ := DateTime.aware.inj hshown
    exact ticks_toOffset (isOffset_offsetAt _)
  have hread : Provider.readDate (.text (DateTime.aware t offset).isoText) = .ok (some (.aware t offset)) := by
    have htruthy : (Value.text (DateTime.aware t offset).isoText).isTruthy = true := by
      cases htext : (DateTime.aware t offset).isoText with
      | nil =>
        have hnil := DateTime.read_isoText hreadable
        rw [htext] at hnil
        cases hnil
      | cons c rest => rfl
    rw [Provider.readDate, if_pos htruthy, Value.display, DateTime.read_isoText hreadable]
    rfl
  refine ⟨_, t, offset, rfl, hread, hinstant, hoffset, fun u own hd hlate => ?_, ?_, fun draft hdraft => ?_⟩
  · rw [hoffset u own hd, offsetAt_eq hlate]
  · rintro u rfl
    rcases inZone_cases hzone with ⟨_, _, _, ⟨⟩, _⟩ | ⟨_, hnaive, hshown⟩
    obtain rfl := DateTime.naive.inj hnaive
    obtain ⟨rfl, -⟩ := DateTime.aware.inj hshown
    rfl
  · rw [hdraft]
    refine ⟨Field.isSound_instant.2 (isOk_iff.2 ⟨stored, hstored⟩), fun key => ⟨stored, ?_, ?_⟩⟩
    · show draft.transactionDate.instant = some stored
      rw [hdraft, Offer.instant, Offer.readInstant, hstored]
      rfl
    · rw [hticks, hinstant]

end Shown

namespace PaymentResult

/-- **The time of a result keeps its instant**: when a result can be sent, the text of its time is read as a date
and time with an offset that denotes the same instant.  A time with an offset has got the offset of the zone at
this instant, from 1996 on by the rule of daylight time; a time without one has kept its local time, and denotes
the instant under which a transaction of that time is stored. -/
theorem keepsInstant {r : PaymentResult} {answer : Value} (h : r.toJson = .ok answer) :
    ∃ text t offset, answer.field? "created_at" = some (.text text) ∧
      Provider.readDate (.text text) = .ok (some (.aware t offset)) ∧ KeepsInstant r.createdAt t offset := by
  obtain ⟨-, -, -, -, -, -, shown, hshown, htime⟩ := PaymentService.Attempt.field?_of_toJson h
  obtain ⟨text, t, offset, rfl, hread, hkeeps⟩ := Shown.keepsInstant_of_time htime
  exact ⟨text, t, offset, hshown, hread, hkeeps⟩

/-! ### Trials -/

/-- A result of the time that a text denotes. -/
def trialOf (time : Text) : PaymentResult :=
  ⟨"ch_1", "ORD-1", "cus_1", .finite false 10000 (-2), "MXN", "completed",
    ((DateTime.read time).toOption.join).getD default, .null, .null, .null⟩

/-- The last microsecond of daylight time, seen from elsewhere. -/
def trialLastOfDaylight : Text := "2022-10-30T12:29:59.999999+05:30"

/-- A local time of the hour that was skipped when daylight time began. -/
def trialSkipped : Text := "2022-04-03T02:30:00"

theorem trial_keepsInstant :
    (∃ answer t offset, (trialOf trialLastOfDaylight).toJson = .ok answer ∧
      answer.field? "created_at" = some (.text "2022-10-30T01:59:59.999999-05:00") ∧
      KeepsInstant (trialOf trialLastOfDaylight).createdAt t offset) ∧
    ∃ answer t offset, (trialOf trialSkipped).toJson = .ok answer ∧
      answer.field? "created_at" = some (.text "2022-04-03T02:30:00-06:00") ∧
      KeepsInstant (trialOf trialSkipped).createdAt t offset := by
  have hshown (time shown : Text)
      (h : (trialOf time).toJson.toOption.bind (Value.field? "created_at") = some (.text shown)) :
      ∃ answer t offset, (trialOf time).toJson = .ok answer ∧
        answer.field? "created_at" = some (.text shown) ∧
        KeepsInstant (trialOf time).createdAt t offset := by
    obtain ⟨answer, hanswer, hfield⟩ := Option.bind_eq_some_iff.1 h
    have hok : (trialOf time).toJson = .ok answer := by
      cases hjson : (trialOf time).toJson with
      | error e =>
        rw [hjson] at hanswer
        cases hanswer
      | ok v =>
        rw [hjson] at hanswer
        rw [Option.some.inj hanswer]
    obtain ⟨text, t, offset, -, -, hkeeps⟩ := keepsInstant hok
    exact ⟨answer, t, offset, hok, hfield, hkeeps⟩
  exact ⟨hshown _ _ (by rfl), hshown _ _ (by rfl)⟩

end PaymentResult

end CardPayments
