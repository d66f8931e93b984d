import CardPayments.Proofs.Text.Numeral
import CardPayments.Proofs.Text.Storable
import CardPayments.Proofs.Time.Calendar
import CardPayments.Time.Reader

/-!
# ISO texts are read back

`DateTime.readIso?` takes what `DateTime.isoText` writes for a date and time and finds that date and time
again (`readIso?_isoText`).  The text falls into a date, a clock time and an offset, and each part is read
back by itself: the numerals have fixed widths, and what stands between them is no digit.

The one thing that is not read back is an offset of less than a second that is not zero, which the reader
takes for universal time.
-/

namespace CardPayments

open Text

/-! ### The parts of a local time -/

namespace LocalTime

theorem isReal_date (t : LocalTime) : t.fields.date.IsReal :=
  Date.isReal_ofDayNumber (Nat.div_lt_of_lt_mul (Nat.mul_comm _ _ ▸ t.isLt))

/-- The parts of a local time make up the same number of microseconds. -/
theorem ticks_fields (t : LocalTime) : t.fields.ticks = t.ticks := by
  have hday : t.fields.date.dayNumber = t.ticks / ticksPerDay := Date.dayNumber_ofDayNumber _
  unfold TimeFields.ticks
  rw [hday]
  unfold fields ticksPerDay ticksPerSecond
  dsimp only
  omega

theorem ofTicks?_ticks (t : LocalTime) : ofTicks? (t.ticks : Int) = some t := by
  unfold ofTicks?
  rw [dif_pos (show (t.ticks : Int).toNat < Date.dayCount * ticksPerDay from t.isLt),
    if_pos (Int.natCast_nonneg t.ticks)]
  rfl

/-- A local time is made of its parts. -/
theorem toLocal_fields (t : LocalTime) : t.fields.toLocal = .ok t := by
  obtain ⟨hyear, hyear', hmonth, hmonth', hday, hday'⟩ := t.isReal_date
  have hhour : t.fields.hour < 24 := Nat.mod_lt _ (by decide)
  have hminute : t.fields.minute < 60 := Nat.mod_lt _ (by decide)
  have hsecond : t.fields.second < 60 := Nat.mod_lt _ (by decide)
  unfold TimeFields.toLocal
  dsimp only
  rw [if_neg (by omega), if_neg (by omega), if_neg (by omega), if_neg (by omega), if_neg (by omega),
    if_neg (by omega), ticks_fields, ofTicks?_ticks]

end LocalTime

namespace DateTime

/-! ### Digits and other code points -/

theorem ne_of_isAsciiDigit {c d : CodePoint} (hc : c.isAsciiDigit = true)
    (hd : d.isAsciiDigit = false) : c ≠ d := by
  rintro rfl
  rw [hc] at hd
  cases hd

/-- A numeral of two digits begins with a digit. -/
theorem exists_ofNatPadded_two {n : Nat} (h : n < 100) :
    ∃ c d, c.isAsciiDigit = true ∧ ofNatPadded 2 n = [c, d] := by
  obtain ⟨c, d, hnumeral⟩ := List.length_eq_two.1 (length_ofNatPadded (by decide) (show n < 10 ^ 2 from h))
  exact ⟨c, d, isAsciiDigit_of_mem_ofNatPadded (by rw [hnumeral]; exact List.mem_cons_self), hnumeral⟩

/-! ### The date -/

/-- The date of an ISO text. -/
def dateText (d : Date) : Text :=
  ofNatPadded 4 d.year ++ CodePoint.ofChar '-' :: (ofNatPadded 2 d.month ++
    CodePoint.ofChar '-' :: ofNatPadded 2 d.day)

section

variable {d : Date} (hyear : d.year < 10000) (hmonth : d.month < 100) (hday : d.day < 100)

include hyear hmonth hday

theorem length_dateText : (dateText d).length = 10 := by
  rw [dateText, List.length_append, List.length_cons, List.length_append, List.length_cons,
    length_ofNatPadded (by decide) (show d.year < 10 ^ 4 from hyear),
    length_ofNatPadded (by decide) (show d.month < 10 ^ 2 from hmonth),
    length_ofNatPadded (by decide) (show d.day < 10 ^ 2 from hday)]

/-- Behind a hyphen in fifth place comes no week: the date takes ten code points. -/
theorem dateLength_dateText (rest : Text) : dateLength (dateText d ++ rest) = some 10 := by
  have hlength : 10 ≤ (dateText d ++ rest).length := by
    rw [List.length_append, length_dateText hyear hmonth hday]
    exact Nat.le_add_right 10 _
  obtain ⟨c, e, hc, hnumeral⟩ := exists_ofNatPadded_two hmonth
  have hyears : (ofNatPadded 4 d.year).length = 4 :=
    length_ofNatPadded (by decide) (show d.year < 10 ^ 4 from hyear)
  have hhyphen : standsAt '-' 4 (dateText d ++ rest) = true := by
    rw [standsAt, dateText, List.append_assoc, List.getElem?_append_right (Nat.le_of_eq hyears), hyears]
    exact decide_eq_true rfl
  have hweek : standsAt 'W' 5 (dateText d ++ rest) = false := by
    rw [standsAt, dateText, List.append_assoc,
      List.getElem?_append_right (by rw [hyears]; decide), hyears, hnumeral]
    exact decide_eq_false fun h => ne_of_isAsciiDigit hc (by decide) (Option.some.inj h)
  unfold dateLength
  rw [if_neg (by omega), if_pos hhyphen, if_neg (by rw [hweek]; decide)]

theorem readDate?_dateText : readDate? (dateText d) = some d := by
  obtain ⟨c, e, hc, hnumeral⟩ := exists_ofNatPadded_two hmonth
  have hweek (rest : Text) : dropStart? "W" (ofNatPadded 2 d.month ++ rest) = none := by
    rw [hnumeral]
    exact if_neg (Ne.symm (ne_of_isAsciiDigit hc (by decide)))
  have hlast : takeDigits? 2 (ofNatPadded 2 d.day) = some (d.day, []) := by
    rw [← List.append_nil (ofNatPadded 2 d.day)]
    exact takeDigits?_ofNatPadded (by decide) (show d.day < 10 ^ 2 from hday) []
  have hextended (rest : Text) : standsAt '-' 0 (CodePoint.ofChar '-' :: rest) = true := decide_eq_true rfl
  have hhyphen (rest : Text) : dropHyphen? true (CodePoint.ofChar '-' :: rest) = some rest := rfl
  unfold readDate?
  rw [dateText, takeDigits?_ofNatPadded (by decide) (show d.year < 10 ^ 4 from hyear)]
  simp only [Option.bind_eq_bind, Option.bind_some, hextended, if_true, List.drop_succ_cons,
    List.drop_zero, hweek, takeDigits?_ofNatPadded (by decide) (show d.month < 10 ^ 2 from hmonth),
    hhyphen, hlast, List.isEmpty_nil]

/-- A text of a date, a separator and more is read as that date with the time that comes after it. -/
theorem readIso?_dateText {separator : CodePoint} {rest : Text} (hseparator : separator.isSurrogate = false)
    (hrest : rest.IsStorable) : readIso? (dateText d ++ separator :: rest) = readTime? d rest := by
  have hlength : (dateText d).length = 10 := length_dateText hyear hmonth hday
  have hstorable : IsStorable (dateText d ++ separator :: rest) := by
    simp [dateText, CodePoint.isSurrogate_ofChar, hseparator, hrest]
  have hlong : ¬(dateText d ++ separator :: rest).length < 7 := by
    rw [List.length_append, hlength]
    omega
  have hwith : withSeparator (dateText d ++ separator :: rest) = dateText d ++ separator :: rest := by
    have hnone : ([7, 8, 10].find? fun place =>
        ((dateText d ++ separator :: rest)[place]?.map CodePoint.isSurrogate).getD false) = none := by
      refine List.find?_eq_none.2 fun place _ => ?_
      cases hplace : (dateText d ++ separator :: rest)[place]? with
      | none => exact Bool.false_ne_true
      | some c =>
        show ¬c.isSurrogate = true
        rw [hstorable c (List.mem_of_getElem? hplace)]
        exact Bool.false_ne_true
    rw [withSeparator, hnone]
  have hwhole : ¬(dateText d ++ separator :: rest).any CodePoint.isSurrogate = true := by
    rw [List.any_eq_true]
    rintro ⟨c, hc, hsurrogate⟩
    rw [hstorable c hc] at hsurrogate
    cases hsurrogate
  unfold readIso?
  dsimp only
  rw [if_neg hlong, hwith, if_neg hwhole, dateLength_dateText hyear hmonth hday]
  simp only [Option.bind_eq_bind, Option.bind_some, List.take_left' hlength, List.drop_left' hlength,
    readDate?_dateText hyear hmonth hday]

end

/-! ### The clock time -/

/-- A field of two digits and its colon. -/
theorem readFields?_colon {followed : Bool} {left n : Nat} {colons : Option Bool} {fields : List Nat}
    {more : Text} (hcolons : colons.getD true = true) (hn : n < 100) (hmore : more ≠ []) :
    readFields? followed (left + 1) colons fields
        (ofNatPadded 2 n ++ CodePoint.ofChar ':' :: more) =
      readFields? followed left (some true) (fields ++ [n]) more := by
  have hempty : ¬(more.isEmpty = true ∧ (CodePoint.ofChar ':').value < 0x80) := fun h =>
    hmore (List.isEmpty_iff.1 h.1)
  rw [readFields?, takeDigits?_ofNatPadded (by decide) (show n < 10 ^ 2 from hn)]
  simp only [Option.bind_eq_bind, Option.bind_some, if_neg hempty, decide_true, hcolons, Bool.and_true,
    if_true]

/-- The last field of two digits with the fraction behind it. -/
theorem readFields?_fraction {followed : Bool} {left n microsecond : Nat} {fields : List Nat}
    (hn : n < 100) (hmicrosecond : microsecond < 1000000) :
    readFields? followed (left + 1) (some true) fields (ofNatPadded 2 n ++ fractionText microsecond) =
      some (.ofFields (fields ++ [n]) microsecond followed) := by
  rw [readFields?, takeDigits?_ofNatPadded (by decide) (show n < 10 ^ 2 from hn)]
  by_cases hzero : microsecond = 0
  · subst hzero
    rfl
  · have hlength : (ofNatPadded 6 microsecond).length = 6 := length_ofNatPadded (by decide) hmicrosecond
    have hdigits : takeDigits? 6 (ofNatPadded 6 microsecond) = some (microsecond, []) := by
      rw [← List.append_nil (ofNatPadded 6 microsecond)]
      exact takeDigits?_ofNatPadded (by decide) hmicrosecond []
    have hread : readFraction? (fields ++ [n]) followed (ofNatPadded 6 microsecond) =
        some (.ofFields (fields ++ [n]) microsecond followed) := by
      unfold readFraction?
      dsimp only
      rw [hlength, show min 6 6 = 6 from rfl, hdigits]
      show some (ClockReading.ofFields _ (microsecond * 1) followed) = _
      rw [Nat.mul_one]
    have hempty : ¬((ofNatPadded 6 microsecond).isEmpty = true ∧ (CodePoint.ofChar '.').value < 0x80) := by
      rintro ⟨hnil, _⟩
      rw [List.isEmpty_iff.1 hnil] at hlength
      cases hlength
    have hpoint : fractionText microsecond = CodePoint.ofChar '.' :: ofNatPadded 6 microsecond :=
      if_neg hzero
    have hcolon : ¬CodePoint.ofChar '.' = CodePoint.ofChar ':' := by decide
    rw [hpoint]
    simp only [Option.bind_eq_bind, Option.bind_some, if_neg hempty, hcolon, decide_false,
      Bool.and_false, Bool.false_eq_true, if_false, true_or, if_true]
    exact hread

/-- The clock time of an ISO text. -/
def clockText (hour minute second microsecond : Nat) : Text :=
  ofNatPadded 2 hour ++ CodePoint.ofChar ':' :: (ofNatPadded 2 minute ++
    CodePoint.ofChar ':' :: (ofNatPadded 2 second ++ fractionText microsecond))

theorem ofNatPadded_two_append_ne_nil {n : Nat} (h : n < 100) (t : Text) : ofNatPadded 2 n ++ t ≠ [] := by
  obtain ⟨c, d, _, hnumeral⟩ := exists_ofNatPadded_two h
  rw [hnumeral]
  exact List.cons_ne_nil _ _

theorem readClock?_clockText {followed : Bool} {hour minute second microsecond : Nat} (hhour : hour < 100)
    (hminute : minute < 100) (hsecond : second < 100) (hmicrosecond : microsecond < 1000000) :
    readClock? followed (clockText hour minute second microsecond) =
      some ⟨hour, minute, second, microsecond, followed⟩ := by
  rw [readClock?, clockText, readFields?_colon rfl hhour (ofNatPadded_two_append_ne_nil hminute _),
    readFields?_colon rfl hminute (ofNatPadded_two_append_ne_nil hsecond _),
    readFields?_fraction hsecond hmicrosecond]
  rfl

/-- A clock time of hours and minutes alone. -/
theorem readClock?_minutes {followed : Bool} {hour minute : Nat} (hhour : hour < 100)
    (hminute : minute < 100) :
    readClock? followed (ofNatPadded 2 hour ++ CodePoint.ofChar ':' :: ofNatPadded 2 minute) =
      some ⟨hour, minute, 0, 0, followed⟩ := by
  have hfraction : fractionText 0 = [] := rfl
  rw [← List.append_nil (ofNatPadded 2 minute), readClock?,
    readFields?_colon rfl hhour (ofNatPadded_two_append_ne_nil hminute _), ← hfraction,
    readFields?_fraction hminute (by decide)]
  rfl

/-- No code point of a clock time begins an offset. -/
theorem not_beginsOffset_of_mem_clockText {hour minute second microsecond : Nat} {c : CodePoint}
    (hc : c ∈ clockText hour minute second microsecond) : beginsOffset c = false := by
  have hdigit {c : CodePoint} (h : c.isAsciiDigit = true) : beginsOffset c = false := by
    simp only [beginsOffset, Bool.or_eq_false_iff, decide_eq_false_iff_not]
    exact ⟨⟨ne_of_isAsciiDigit h (by decide), ne_of_isAsciiDigit h (by decide)⟩,
      ne_of_isAsciiDigit h (by decide)⟩
  have hnumeral {width n : Nat} (h : c ∈ ofNatPadded width n) : beginsOffset c = false :=
    hdigit (isAsciiDigit_of_mem_ofNatPadded h)
  have hcolon : beginsOffset (CodePoint.ofChar ':') = false := by decide
  unfold clockText at hc
  simp only [List.mem_append, List.mem_cons] at hc
  rcases hc with h | rfl | h | rfl | h | h
  · exact hnumeral h
  · exact hcolon
  · exact hnumeral h
  · exact hcolon
  · exact hnumeral h
  · unfold fractionText at h
    split_ifs at h
    · cases h
    · rcases List.mem_cons.1 h with rfl | h
      · decide
      · exact hnumeral h

/-! ### The offset -/

/-- An offset is read back: it is universal time, or a second or more away from it. -/
def IsReadableOffset (offset : Offset) : Prop :=
  offset = Offset.utc ∨ ticksPerSecond ≤ offset.ticks.natAbs

/-- The sign of an offset. -/
def offsetSign (offset : Offset) : CodePoint := CodePoint.ofChar (if offset.ticks < 0 then '-' else '+')

theorem beginsOffset_offsetSign (offset : Offset) : beginsOffset (offsetSign offset) = true := by
  unfold offsetSign
  split_ifs <;> decide

/-- The text of an offset is its sign and a clock time, of which the seconds may be missing. -/
theorem offsetText_eq (offset : Offset) :
    let seconds := offset.ticks.natAbs / ticksPerSecond
    let fraction := offset.ticks.natAbs % ticksPerSecond
    offsetText offset = offsetSign offset ::
      if seconds % 60 = 0 ∧ fraction = 0 then
        ofNatPadded 2 (seconds / 3600) ++ CodePoint.ofChar ':' :: ofNatPadded 2 (seconds / 60 % 60)
      else clockText (seconds / 3600) (seconds / 60 % 60) (seconds % 60) fraction := by
  intro seconds fraction
  have hsign : ofString (if offset.ticks < 0 then "-" else "+") = [offsetSign offset] := by
    unfold offsetSign
    split_ifs <;> rfl
  unfold offsetText
  dsimp only
  rw [hsign]
  split_ifs
  · show _ ++ _ ++ [CodePoint.ofChar ':'] ++ _ ++ [] = _
    simp only [List.append_assoc, List.cons_append, List.nil_append, List.append_nil]
    rfl
  · show _ ++ _ ++ [CodePoint.ofChar ':'] ++ _ ++ ([CodePoint.ofChar ':'] ++ _ ++ _) = _
    simp only [clockText, List.append_assoc, List.cons_append, List.nil_append]
    rfl

/-- The clock time of an offset is read as it is, whether its seconds are written or not. -/
theorem readClock?_offset (offset : Offset) :
    let seconds := offset.ticks.natAbs / ticksPerSecond
    let fraction := offset.ticks.natAbs % ticksPerSecond
    readClock? false
      (if seconds % 60 = 0 ∧ fraction = 0 then
        ofNatPadded 2 (seconds / 3600) ++ CodePoint.ofChar ':' :: ofNatPadded 2 (seconds / 60 % 60)
      else clockText (seconds / 3600) (seconds / 60 % 60) (seconds % 60) fraction) =
      some ⟨seconds / 3600, seconds / 60 % 60, seconds % 60, fraction, false⟩ := by
  intro seconds fraction
  have hlt : offset.ticks.natAbs < 86400 * 1000000 := offset.isLt
  have hfraction : fraction < 1000000 := Nat.mod_lt _ (by decide)
  have hhour : seconds / 3600 < 100 := by
    have hseconds : seconds = offset.ticks.natAbs / 1000000 := rfl
    omega
  split_ifs with hwhole
  · rw [readClock?_minutes hhour (by omega), hwhole.1, hwhole.2]
  · exact readClock?_clockText hhour (by omega) (by omega) hfraction

theorem not_offsetSign_eq_Z (offset : Offset) : ¬offsetSign offset = CodePoint.ofChar 'Z' := by
  unfold offsetSign
  split_ifs <;> decide

theorem readOffset?_offsetText {offset : Offset} (h : IsReadableOffset offset) :
    readOffset? (offsetText offset) = some offset := by
  rcases h with rfl | hsecond
  · decide
  have hclock := readClock?_offset offset
  have hsign := not_offsetSign_eq_Z offset
  set seconds := offset.ticks.natAbs / ticksPerSecond with hseconds
  have hpos : seconds ≠ 0 := Nat.ne_of_gt (Nat.div_pos hsecond (by decide))
  have htotal : seconds / 3600 * 3600 + seconds / 60 % 60 * 60 + seconds % 60 = seconds := by omega
  have hticks : ((seconds : Int) * (ticksPerSecond : Nat) + (offset.ticks.natAbs % ticksPerSecond : Nat)) =
      (offset.ticks.natAbs : Int) := by
    rw [hseconds]
    unfold ticksPerSecond
    omega
  have hminus : (if offsetSign offset = CodePoint.ofChar '-' then -(offset.ticks.natAbs : Int)
      else offset.ticks.natAbs) = offset.ticks := by
    unfold offsetSign
    by_cases hneg : offset.ticks < 0
    · rw [if_pos hneg, if_pos rfl]
      omega
    · rw [if_neg hneg, if_neg (by decide)]
      omega
  rw [offsetText_eq, readOffset?]
  simp only [if_neg hsign, ← hseconds, hclock, Option.bind_eq_bind, Option.bind_some, htotal, if_neg hpos,
    hticks, hminus, Bool.false_eq_true, if_false]
  exact dif_pos offset.isLt

/-- An offset of less than a second is taken for universal time. -/
theorem readOffset?_offsetText_of_lt {offset : Offset} (h : offset.ticks.natAbs < ticksPerSecond) :
    readOffset? (offsetText offset) = some Offset.utc := by
  have hclock := readClock?_offset offset
  have hsign := not_offsetSign_eq_Z offset
  have hseconds : offset.ticks.natAbs / ticksPerSecond = 0 := Nat.div_eq_of_lt h
  rw [offsetText_eq, readOffset?]
  simp only [hseconds] at hclock ⊢
  simp only [if_neg hsign, hclock, Option.bind_eq_bind, Option.bind_some, Bool.false_eq_true, if_false]
  rfl

/-! ### Whole texts -/

/-- A date and time is read back: its offset, if it has one, is. -/
def IsReadable : DateTime → Prop
  | naive _ => True
  | aware _ offset => IsReadableOffset offset

theorem localText_eq (t : LocalTime) :
    localText t = dateText t.fields.date ++ CodePoint.ofChar 'T' ::
      clockText t.fields.hour t.fields.minute t.fields.second t.fields.microsecond := by
  unfold localText
  dsimp only
  show _ ++ [CodePoint.ofChar '-'] ++ _ ++ [CodePoint.ofChar '-'] ++ _ ++ [CodePoint.ofChar 'T'] ++ _ ++
    [CodePoint.ofChar ':'] ++ _ ++ [CodePoint.ofChar ':'] ++ _ ++ _ = _
  simp only [dateText, clockText, List.append_assoc, List.cons_append, List.nil_append]

/-- A local time with the text of an offset, or nothing, behind it. -/
theorem readIso?_localText (t : LocalTime) {rest : Text} (hrest : rest.IsStorable)
    (hbegins : ∀ c ∈ rest.head?, beginsOffset c = true) :
    readIso? (localText t ++ rest) =
      if rest.isEmpty then some (.naive t) else (readOffset? rest).map (.aware t) := by
  obtain ⟨_, hyear, _, hmonth, _, _⟩ := t.isReal_date
  have hday : t.fields.date.day ≤ 31 := t.isReal_date.day_le_thirtyOne
  have hhour : t.fields.hour < 24 := Nat.mod_lt _ (by decide)
  have hminute : t.fields.minute < 60 := Nat.mod_lt _ (by decide)
  have hsecond : t.fields.second < 60 := Nat.mod_lt _ (by decide)
  have hmicrosecond : t.fields.microsecond < 1000000 := Nat.mod_lt _ (by decide)
  set clock := clockText t.fields.hour t.fields.minute t.fields.second t.fields.microsecond with hclock
  have hclockStorable : clock.IsStorable := by
    rw [hclock]
    unfold clockText fractionText
    split_ifs <;> simp [CodePoint.isSurrogate_ofChar]
  have htime (c : CodePoint) (hc : c ∈ clock) : (!beginsOffset c) = true := by
    rw [not_beginsOffset_of_mem_clockText hc]
    rfl
  have htake : (clock ++ rest).takeWhile (fun c => !beginsOffset c) = clock := by
    rw [List.takeWhile_append_of_pos htime]
    cases rest with
    | nil => exact List.append_nil clock
    | cons c rest => rw [List.takeWhile_cons_of_neg (by simp [hbegins c rfl]), List.append_nil]
  have hdrop : (clock ++ rest).dropWhile (fun c => !beginsOffset c) = rest := by
    rw [List.dropWhile_append_of_pos htime]
    cases rest with
    | nil => rfl
    | cons c rest => rw [List.dropWhile_cons_of_neg (by simp [hbegins c rfl])]
  have hread (followed : Bool) : readClock? followed clock = some ⟨t.fields.hour, t.fields.minute,
      t.fields.second, t.fields.microsecond, followed⟩ :=
    readClock?_clockText (by omega) (by omega) (by omega) hmicrosecond
  have hlocal : (⟨t.fields.date, t.fields.hour, t.fields.minute, t.fields.second,
      t.fields.microsecond⟩ : TimeFields).toLocal.toOption = some t := by
    show t.fields.toLocal.toOption = some t
    rw [t.toLocal_fields]
    rfl
  rw [localText_eq, List.append_assoc, List.cons_append, ← hclock,
    readIso?_dateText (by omega) (by omega) (by omega) (CodePoint.isSurrogate_ofChar 'T')
      (isStorable_append.2 ⟨hclockStorable, hrest⟩), readTime?]
  simp only [htake, hdrop, hread, Option.bind_eq_bind, Option.bind_some, hlocal]
  cases rest with
  | nil => rfl
  | cons c rest => cases readOffset? (c :: rest) <;> rfl

/-- A local time and the text of an offset are read as that local time at the offset that is read. -/
theorem readIso?_aware (t : LocalTime) (offset : Offset) :
    readIso? (aware t offset).isoText = (readOffset? (offsetText offset)).map (.aware t) := by
  have hsign : ∀ c ∈ (offsetText offset).head?, beginsOffset c = true := by
    rw [offsetText_eq]
    rintro c ⟨⟩
    exact beginsOffset_offsetSign offset
  have hstorable : (offsetText offset).IsStorable := by
    unfold offsetText fractionText
    dsimp only
    split_ifs <;> simp
  have hnonempty : ¬(offsetText offset).isEmpty = true := by
    rw [offsetText_eq]
    exact Bool.false_ne_true
  rw [isoText, readIso?_localText t hstorable hsign, if_neg hnonempty]

/-- **ISO texts are read back**: the text of a date and time is read as that date and time. -/
theorem readIso?_isoText {d : DateTime} (h : d.IsReadable) : readIso? d.isoText = some d := by
  cases d with
  | naive t =>
    have hread := readIso?_localText t isStorable_nil nofun
    rw [List.append_nil] at hread
    exact hread
  | aware t offset =>
    rw [readIso?_aware, readOffset?_offsetText h]
    rfl

/-- The text of a date and time is read back by the lenient reader, too. -/
theorem read_isoText {d : DateTime} (h : d.IsReadable) : read d.isoText = .ok (some d) := by
  rw [read, readIso?_isoText h]

/-- Whatever its offset, a local time is read back, and with it some offset. -/
theorem exists_read_aware (t : LocalTime) (offset : Offset) :
    ∃ offset', read (aware t offset).isoText = .ok (some (aware t offset')) := by
  by_cases h : offset.ticks.natAbs < ticksPerSecond
  · exact ⟨Offset.utc, by rw [read, readIso?_aware, readOffset?_offsetText_of_lt h]; rfl⟩
  · exact ⟨offset, read_isoText (.inr (Nat.le_of_not_lt h))⟩

end DateTime

end CardPayments
