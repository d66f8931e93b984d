import CardPayments.Proofs.Json.Readable

/-!
# Why a document is refused

Reading stops at something that is no JSON, or at a whole number with more digits than are converted.  The latter
happens to nobody whose document does not hold so many digits in a row (`Json.fault_of_read`).
-/

namespace CardPayments

namespace Json

open Text

variable {α β : Type} {fuel opening : Nat} {t left source : Text}

/-- So many digits stand in a row somewhere in the text. -/
def HoldsDigits (source : Text) (n : Nat) : Prop :=
  ∃ digits : Text, digits.IsNumeral ∧ digits.length = n ∧ digits <:+: source

/-- The fault is no JSON, or a number of the document that is too long. -/
def Fault.IsFoundIn (source : Text) : Fault → Prop
  | .malformed .. => True
  | .numeral fault => ∃ n, fault = .tooLong n ∧ Numeral.digitLimit < n ∧ HoldsDigits source n

/-- If a reader stops, then at a fault that is found in the document. -/
def StopsAtFault (source : Text) (x : Except Stop α) : Prop :=
  ∀ stop, x = .error stop → (stop.toFault source).IsFoundIn source

theorem stopsAtFault_ok (a : α) : StopsAtFault source (.ok a : Except Stop α) := nofun

theorem stopsAtFault_malformed (problem : Problem) (left : Nat) :
    StopsAtFault source (.error (.malformed problem left) : Except Stop α) := by
  rintro _ ⟨⟩
  trivial

/-- Readers one after the other stop at a fault if both do. -/
theorem StopsAtFault.bind {x : Except Stop α} {f : α → Except Stop β} (hx : StopsAtFault source x)
    (hf : ∀ a, x = .ok a → StopsAtFault source (f a)) : StopsAtFault source (x >>= f) := by
  refine bind_cases (fun stop hstop => ?_) hf
  rintro _ ⟨⟩
  exact hx stop hstop

/-! ### Texts -/

theorem stopsAtFault_lowSurrogate? (t : Text) : StopsAtFault source (lowSurrogate? t) := by
  unfold lowSurrogate?
  split
  · split_ifs
    · split
      · exact stopsAtFault_malformed _ _
      · exact stopsAtFault_ok _
    · exact stopsAtFault_ok _
  · exact stopsAtFault_ok _

theorem stopsAtFault_readEscape (opening : Nat) (t : Text) : StopsAtFault source (readEscape opening t) := by
  cases t with
  | nil => exact stopsAtFault_malformed _ _
  | cons c rest =>
    rw [readEscape]
    by_cases hunit : c = CodePoint.ofChar 'u'
    · rw [if_pos hunit]
      cases hexUnit? rest with
      | none => exact stopsAtFault_malformed _ _
      | some n =>
        dsimp only
        split_ifs
        · exact stopsAtFault_malformed _ _
        · -- Only the other half of a pair can still be wrong.
          cases hlow : lowSurrogate? (rest.drop 4) with
          | error stop =>
            rintro _ ⟨⟩
            exact stopsAtFault_lowSurrogate? _ stop hlow
          | ok low =>
            cases low with
            | none => exact stopsAtFault_ok _
            | some d => exact stopsAtFault_ok _
        · exact stopsAtFault_ok _
    · rw [if_neg hunit]
      cases unescape? c with
      | none => exact stopsAtFault_malformed _ _
      | some d => exact stopsAtFault_ok _

theorem stopsAtFault_readString (opening skipped : Nat) (t : Text) :
    StopsAtFault source (readString opening skipped t) := by
  induction t generalizing skipped with
  | nil => exact stopsAtFault_malformed _ _
  | cons c rest ih =>
    rw [readString]
    split_ifs
    · exact ih _
    · exact stopsAtFault_ok _
    · cases hescape : readEscape opening rest with
      | error stop =>
        rintro _ ⟨⟩
        exact stopsAtFault_readEscape opening rest stop hescape
      | ok escaped =>
        dsimp only
        cases hread : readString opening escaped.2 rest with
        | error stop =>
          rintro _ ⟨⟩
          exact ih _ stop hread
        | ok read => exact stopsAtFault_ok _
    · exact stopsAtFault_malformed _ _
    · cases hread : readString opening 0 rest with
      | error stop =>
        rintro _ ⟨⟩
        exact ih _ stop hread
      | ok read => exact stopsAtFault_ok _

theorem stopsAtFault_expect (c : CodePoint) (problem : Problem) (t : Text) :
    StopsAtFault source (expect c problem t) := by
  cases t with
  | nil => exact stopsAtFault_malformed _ _
  | cons d rest =>
    rw [expect]
    split_ifs
    · exact stopsAtFault_ok _
    · exact stopsAtFault_malformed _ _

theorem stopsAtFault_readName (t : Text) : StopsAtFault source (readName t) := by
  refine (stopsAtFault_expect _ _ t).bind fun afterQuote _ => ?_
  refine (stopsAtFault_readString _ _ afterQuote).bind fun read _ => ?_
  exact (stopsAtFault_expect _ _ _).bind fun afterColon _ => stopsAtFault_ok _

/-! ### Numbers -/

/-- The digits of the whole part stand in the document. -/
theorem holdsDigits_splitWhole (ht : t <:+ source) : HoldsDigits source (splitWhole t).1.length := by
  have hdigits : HoldsDigits source (t.takeWhile CodePoint.isAsciiDigit).length :=
    ⟨_, fun c hc => List.mem_takeWhile_imp hc, rfl, ((List.takeWhile_prefix _).isInfix).trans ht.isInfix⟩
  cases t with
  | nil => exact hdigits
  | cons c rest =>
    rw [splitWhole]
    split_ifs with hzero
    · refine ⟨[c], ?_, rfl, List.IsInfix.trans ⟨[], rest, rfl⟩ ht.isInfix⟩
      rintro _ hmem
      rw [List.mem_singleton.1 hmem, hzero]
      decide
    · exact hdigits

theorem stopsAtFault_readUnsigned (size : Nat) (negative : Bool) (ht : t <:+ source) :
    StopsAtFault source (readUnsigned size negative t) := by
  unfold readUnsigned
  dsimp only
  split_ifs with hempty hwhole hlong
  · exact stopsAtFault_malformed _ _
  · rintro _ ⟨⟩
    exact ⟨_, rfl, hlong, holdsDigits_splitWhole ht⟩
  · exact stopsAtFault_ok _
  · exact stopsAtFault_ok _

theorem stopsAtFault_readNumber (ht : t <:+ source) : StopsAtFault source (readNumber t) := by
  by_cases hminus : t.head? = some (CodePoint.ofChar '-')
  · obtain ⟨u, rfl⟩ := List.head?_eq_some_iff.1 hminus
    rw [readNumber_minus]
    exact stopsAtFault_readUnsigned _ _ (List.IsSuffix.trans (List.suffix_cons _ u) ht)
  · rw [readNumber_of_head? hminus]
    exact stopsAtFault_readUnsigned _ _ ht

/-! ### Documents -/

/-- A property of texts that all of them have. -/
theorem readsTexts_true : ReadsTexts (fun _ => True) source := fun _ _ _ _ _ _ => trivial

/-- What is left behind a value is the end of the document. -/
theorem isSuffix_of_readValue {v : Value} (ht : t <:+ source) (h : readValue fuel t = .ok (v, left)) :
    left <:+ source :=
  ((readsWell readsTexts_true fuel).value t v left ht h).2

theorem isSuffix_of_readName {name : Text} (ht : t <:+ source) (h : readName t = .ok (name, left)) :
    left <:+ source :=
  (readsTexts_true.name ht h).2

/-- Within a bound, the readers stop at faults of the document. -/
structure StopWell (source : Text) (fuel : Nat) : Prop where
  value : ∀ t, t <:+ source → StopsAtFault source (readValue fuel t)
  items : ∀ t, t <:+ source → StopsAtFault source (readItems fuel t)
  fields : ∀ before t, t <:+ source → StopsAtFault source (readFields fuel before t)

theorem stopWell_zero : StopWell source 0 :=
  ⟨fun _ _ => stopsAtFault_malformed _ _, fun _ _ => stopsAtFault_malformed _ _,
    fun _ _ _ => stopsAtFault_malformed _ _⟩

theorem StopWell.value_succ (h : StopWell source fuel) (ht : t <:+ source) :
    StopsAtFault source (readValue (fuel + 1) t) := by
  cases t with
  | nil => exact stopsAtFault_malformed _ _
  | cons c rest =>
    have hgap : skipGap rest <:+ source :=
      List.IsSuffix.trans (isSuffix_skipGap rest) (List.IsSuffix.trans (List.suffix_cons c rest) ht)
    rw [readValue]
    split_ifs
    · exact (stopsAtFault_readString _ _ rest).bind fun _ _ => stopsAtFault_ok _
    · cases closed? (CodePoint.ofChar ']') (skipGap rest) with
      | some left => exact stopsAtFault_ok _
      | none => exact (h.items _ hgap).bind fun _ _ => stopsAtFault_ok _
    · cases closed? (CodePoint.ofChar '\x7d') (skipGap rest) with
      | some left => exact stopsAtFault_ok _
      | none => exact (h.fields _ _ hgap).bind fun _ _ => stopsAtFault_ok _
    · cases readWord? (c :: rest) with
      | some word => exact stopsAtFault_ok _
      | none => exact stopsAtFault_readNumber ht

theorem StopWell.items_succ (h : StopWell source fuel) (ht : t <:+ source) :
    StopsAtFault source (readItems (fuel + 1) t) := by
  rw [readItems]
  refine (h.value t ht).bind fun read hread => ?_
  have hgap : skipGap read.2 <:+ source :=
    List.IsSuffix.trans (isSuffix_skipGap _) (isSuffix_of_readValue ht hread)
  dsimp only
  cases closed? (CodePoint.ofChar ']') (skipGap read.2) with
  | some left => exact stopsAtFault_ok _
  | none =>
    refine (stopsAtFault_expect _ _ _).bind fun next hnext => ?_
    have hcomma : next <:+ source := List.IsSuffix.trans (isSuffix_of_expect hnext) hgap
    exact (h.items _ (List.IsSuffix.trans (isSuffix_skipGap next) hcomma)).bind fun _ _ => stopsAtFault_ok _

theorem StopWell.fields_succ (h : StopWell source fuel) (before : List (Text × Value)) (ht : t <:+ source) :
    StopsAtFault source (readFields (fuel + 1) before t) := by
  rw [readFields]
  refine (stopsAtFault_readName t).bind fun name hname => ?_
  have hcolon : name.2 <:+ source := isSuffix_of_readName ht hname
  refine (h.value _ hcolon).bind fun read hread => ?_
  have hgap : skipGap read.2 <:+ source :=
    List.IsSuffix.trans (isSuffix_skipGap _) (isSuffix_of_readValue hcolon hread)
  dsimp only
  cases closed? (CodePoint.ofChar '\x7d') (skipGap read.2) with
  | some left => exact stopsAtFault_ok _
  | none =>
    refine (stopsAtFault_expect _ _ _).bind fun next hnext => ?_
    have hcomma : next <:+ source := List.IsSuffix.trans (isSuffix_of_expect hnext) hgap
    exact h.fields _ _ (List.IsSuffix.trans (isSuffix_skipGap next) hcomma)

theorem stopWell (source : Text) (fuel : Nat) : StopWell source fuel := by
  -- As in reading, one induction on the bound serves the three readers.
  induction fuel with
  | zero => exact stopWell_zero
  | succ fuel ih =>
    exact ⟨fun _ => ih.value_succ, fun _ => ih.items_succ, fun before _ => ih.fields_succ before⟩

/-- **A document is refused because it is no JSON**, or because there are more digits in a row in it than are
converted. -/
theorem fault_of_read {fault : Fault} (h : Json.read t = .error fault) : fault.IsFoundIn t := by
  have hdocument : StopsAtFault t (readDocument t) := by
    unfold readDocument
    dsimp only
    split_ifs
    · exact stopsAtFault_malformed _ _
    · refine ((stopWell t _).value _ (isSuffix_skipGap t)).bind fun read _ => ?_
      split_ifs
      · exact stopsAtFault_ok _
      · exact stopsAtFault_malformed _ _
  rw [Json.read] at h
  cases hread : readDocument t with
  | ok v =>
    rw [hread] at h
    cases h
  | error stop =>
    rw [hread] at h
    obtain rfl := Except.error.inj h
    exact hdocument stop hread

end Json

end CardPayments
