import CardPayments.Proofs.Failure
import CardPayments.Proofs.Json.RoundTrip

/-!
# Values that are read can be written

Whatever `Json.read` reads is a value that a document can denote (`Json.isDocument_of_read`): no whole number
has more digits than are converted, and a field that arrives twice is one field.  Its texts are whole if the
document holds no halves of surrogate pairs outside escapes, and then it is received as it is when it is written
again.
-/

namespace CardPayments

namespace Json

open Text Value

variable {P : Text → Prop} {fuel : Nat} {t left source : Text} {v : Value}

/-- The fields of an object that a document can denote, all of whose texts and names have a property. -/
structure AreFields (P : Text → Prop) (fields : List (Text × Value)) : Prop where
  nodup : (fields.map Prod.fst).Nodup
  names : ∀ f ∈ fields, P f.1
  values : ∀ f ∈ fields, f.2.IsDocument P

theorem areFields_nil : AreFields P [] := ⟨List.nodup_nil, List.forall_mem_nil _, List.forall_mem_nil _⟩

theorem AreFields.isDocument {fields : List (Text × Value)} (h : AreFields P fields) :
    (object fields).IsDocument P := .object fields h.nodup h.names h.values

theorem mem_insertField {fields : List (Text × Value)} {name : Text} {f : Text × Value}
    (h : f ∈ insertField name v fields) : f = (name, v) ∨ f ∈ fields := by
  induction fields with
  | nil => exact .inl (List.mem_singleton.1 h)
  | cons g fields ih =>
    rw [insertField] at h
    split_ifs at h with hname
    · exact (List.mem_cons.1 h).imp_right (List.mem_cons_of_mem g)
    · rcases List.mem_cons.1 h with rfl | h
      · exact .inr List.mem_cons_self
      · exact (ih h).imp_right (List.mem_cons_of_mem g)

theorem nodup_insertField {fields : List (Text × Value)} {name : Text} (h : (fields.map Prod.fst).Nodup) :
    ((insertField name v fields).map Prod.fst).Nodup := by
  induction fields with
  | nil => exact List.nodup_singleton name
  | cons g fields ih =>
    rw [List.map_cons, List.nodup_cons] at h
    rw [insertField]
    split_ifs with hname
    · rw [List.map_cons, List.nodup_cons, ← hname]
      exact h
    · rw [List.map_cons, List.nodup_cons]
      refine ⟨fun hmem => ?_, ih h.2⟩
      obtain ⟨f, hf, hfirst⟩ := List.mem_map.1 hmem
      rcases mem_insertField hf with rfl | hf
      · exact hname hfirst.symm
      · exact h.1 (List.mem_map.2 ⟨f, hf, hfirst⟩)

/-- A field that arrives takes its place among the others. -/
theorem AreFields.insertField {fields : List (Text × Value)} {name : Text} (h : AreFields P fields)
    (hname : P name) (hv : v.IsDocument P) : AreFields P (insertField name v fields) := by
  refine ⟨nodup_insertField h.nodup, fun f hf => ?_, fun f hf => ?_⟩
  · rcases mem_insertField hf with rfl | hf
    · exact hname
    · exact h.names f hf
  · rcases mem_insertField hf with rfl | hf
    · exact hv
    · exact h.values f hf

/-! ### Parts of a document -/

theorem isSuffix_skipGap (t : Text) : skipGap t <:+ t := List.dropWhile_suffix isGap

theorem isSuffix_of_closed? {c : CodePoint} (h : closed? c t = some left) : left <:+ t := by
  cases t with
  | nil => cases h
  | cons d t =>
    rw [closed?] at h
    obtain ⟨-, h⟩ := Option.ite_none_right_eq_some.1 h
    rw [← Option.some.inj h]
    exact List.suffix_cons d t

theorem isSuffix_of_expect {c : CodePoint} {problem : Problem} (h : expect c problem t = .ok left) : left <:+ t := by
  cases t with
  | nil => cases h
  | cons d t =>
    rw [expect] at h
    split_ifs at h
    rw [← Except.ok.inj h]
    exact List.suffix_cons d t

theorem eq_append_of_dropStart? {s : Text} (h : dropStart? s t = some left) : t = s ++ left := by
  induction s generalizing t with
  | nil => exact Option.some.inj h
  | cons c s ih =>
    cases t with
    | nil => cases h
    | cons d t =>
      rw [dropStart?] at h
      obtain ⟨hsame, h⟩ := Option.ite_none_right_eq_some.1 h
      rw [hsame, ih h]
      rfl

theorem isDocument_of_readWord? (h : readWord? t = some (v, left)) : v.IsDocument P ∧ left <:+ t := by
  obtain ⟨word, hword, hmap⟩ := List.exists_of_findSome?_eq_some h
  obtain ⟨left, hleft, hpair⟩ := Option.map_eq_some_iff.1 hmap
  obtain ⟨rfl, rfl⟩ := Prod.mk.inj hpair
  refine ⟨?_, ?_⟩
  · simp only [words, List.mem_cons, List.not_mem_nil, or_false] at hword
    rcases hword with rfl | rfl | rfl | rfl | rfl | rfl
    · exact .null
    · exact .bool true
    · exact .bool false
    all_goals exact .float _
  · rw [eq_append_of_dropStart? hleft]
    exact List.suffix_append _ _

/-! ### Numbers -/

theorem isSuffix_splitDigits (t : Text) : (splitDigits t).2 <:+ t := List.dropWhile_suffix _

theorem isSuffix_splitWhole (t : Text) : (splitWhole t).2 <:+ t := by
  cases t with
  | nil => exact List.suffix_refl _
  | cons c t =>
    rw [splitWhole]
    split_ifs
    · exact List.suffix_cons c t
    · exact isSuffix_splitDigits _

theorem isSuffix_splitFraction (t : Text) : (splitFraction t).2 <:+ t := by
  cases t with
  | nil => exact List.suffix_refl _
  | cons c t =>
    unfold splitFraction
    dsimp only
    split_ifs
    · exact List.IsSuffix.trans (isSuffix_splitDigits t) (List.suffix_cons c t)
    · exact List.suffix_refl _

theorem isSuffix_splitSign (t : Text) : (splitSign t).2 <:+ t := by
  cases t with
  | nil => exact List.suffix_refl _
  | cons c t =>
    rw [splitSign]
    split_ifs
    · exact List.suffix_cons c t
    · exact List.suffix_cons c t
    · exact List.suffix_refl _

theorem isSuffix_splitExponent (t : Text) : (splitExponent t).2 <:+ t := by
  cases t with
  | nil => exact List.suffix_refl _
  | cons c t =>
    unfold splitExponent
    dsimp only
    by_cases hletter : c.asciiLower = CodePoint.ofChar 'e' ∧ (!(splitDigits (splitSign t).2).1.isEmpty) = true
    · rw [if_pos hletter]
      have hdigits := List.IsSuffix.trans (isSuffix_splitDigits (splitSign t).2) (isSuffix_splitSign t)
      exact List.IsSuffix.trans hdigits (List.suffix_cons c t)
    · rw [if_neg hletter]

theorem natAbs_signedValue (negative : Bool) (digits : List Nat) :
    (Numeral.signedValue negative digits).natAbs = valueOfDigits digits := by
  cases negative with
  | true => exact (Int.natAbs_neg _).trans (Int.natAbs_natCast _)
  | false => exact Int.natAbs_natCast _

/-- A whole number has no more digits than are read. -/
theorem length_signedValue_le {whole : Text} (negative : Bool) (h : whole.length ≤ Numeral.digitLimit) :
    (ofNat (Numeral.signedValue negative (whole.filterMap CodePoint.asciiDigit?)).natAbs).length ≤
      Numeral.digitLimit := by
  have hlt : number whole < 10 ^ Numeral.digitLimit :=
    (number_lt whole).trans_le (Nat.pow_le_pow_right (by decide) h)
  rw [natAbs_signedValue]
  exact length_ofNat_le (by decide) hlt

theorem isDocument_of_readUnsigned {size : Nat} {negative : Bool} (h : readUnsigned size negative t = .ok (v, left)) :
    v.IsDocument P ∧ left <:+ t := by
  have hleft := List.IsSuffix.trans (List.IsSuffix.trans
    (isSuffix_splitExponent (splitFraction (splitWhole t).2).2)
    (isSuffix_splitFraction (splitWhole t).2)) (isSuffix_splitWhole t)
  unfold readUnsigned at h
  dsimp only at h
  split_ifs at h with hempty hwhole hlong
  · obtain ⟨rfl, rfl⟩ := Prod.mk.inj (Except.ok.inj h)
    exact ⟨.int _ (length_signedValue_le negative (not_lt.1 hlong)), hleft⟩
  · obtain ⟨rfl, rfl⟩ := Prod.mk.inj (Except.ok.inj h)
    exact ⟨.float _, hleft⟩

theorem isDocument_of_readNumber (h : readNumber t = .ok (v, left)) : v.IsDocument P ∧ left <:+ t := by
  by_cases hminus : t.head? = some (CodePoint.ofChar '-')
  · obtain ⟨u, rfl⟩ := List.head?_eq_some_iff.1 hminus
    rw [readNumber_minus] at h
    obtain ⟨hv, hleft⟩ := isDocument_of_readUnsigned h
    exact ⟨hv, List.IsSuffix.trans hleft (List.suffix_cons _ u)⟩
  · rw [readNumber_of_head? hminus] at h
    exact isDocument_of_readUnsigned h

/-! ### Documents -/

variable (P source) in
/-- The texts that stand in a document have a property. -/
def ReadsTexts : Prop :=
  ∀ opening u t left, u <:+ source → readString opening 0 u = .ok (t, left) → P t

variable (P source fuel) in
/-- What is read from a part of a document within a bound is what a document can denote, and what is left is the
end of it. -/
structure ReadsWell : Prop where
  value : ∀ t v left, t <:+ source → readValue fuel t = .ok (v, left) → v.IsDocument P ∧ left <:+ source
  items : ∀ t items left, t <:+ source → readItems fuel t = .ok (items, left) →
    (∀ v ∈ items, v.IsDocument P) ∧ left <:+ source
  fields : ∀ before t fields left, AreFields P before → t <:+ source →
    readFields fuel before t = .ok (fields, left) → AreFields P fields ∧ left <:+ source

theorem ReadsTexts.name {name : Text} (hP : ReadsTexts P source) (ht : t <:+ source)
    (h : readName t = .ok (name, left)) : P name ∧ left <:+ source := by
  unfold readName at h
  obtain ⟨afterQuote, hquote, h⟩ := bind_eq_ok.1 h
  obtain ⟨⟨read, afterName⟩, hread, h⟩ := bind_eq_ok.1 h
  obtain ⟨afterColon, hcolon, h⟩ := bind_eq_ok.1 h
  obtain ⟨rfl, rfl⟩ := Prod.mk.inj (pure_eq_ok.1 h)
  have hfirst : afterQuote <:+ source := List.IsSuffix.trans (isSuffix_of_expect hquote) ht
  have hname : afterName <:+ source := List.IsSuffix.trans (isSuffix_of_readString hread) hfirst
  have hlast : afterColon <:+ source :=
    List.IsSuffix.trans (List.IsSuffix.trans (isSuffix_of_expect hcolon) (isSuffix_skipGap afterName)) hname
  exact ⟨hP _ _ _ _ hfirst hread, List.IsSuffix.trans (isSuffix_skipGap afterColon) hlast⟩

theorem readsWell_zero : ReadsWell P 0 source := ⟨nofun, nofun, nofun⟩

theorem ReadsWell.value_list (h : ReadsWell P fuel source) (ht : t <:+ source)
    (hread : readValue (fuel + 1) (CodePoint.ofChar '[' :: t) = .ok (v, left)) :
    v.IsDocument P ∧ left <:+ source := by
  have hgap : skipGap t <:+ source := List.IsSuffix.trans (isSuffix_skipGap t) ht
  rw [readValue, if_neg (by decide), if_pos rfl] at hread
  cases hclosed : closed? (CodePoint.ofChar ']') (skipGap t) with
  | some after =>
    rw [hclosed] at hread
    obtain ⟨rfl, rfl⟩ := Prod.mk.inj (Except.ok.inj hread)
    exact ⟨.list [] (List.forall_mem_nil _), List.IsSuffix.trans (isSuffix_of_closed? hclosed) hgap⟩
  | none =>
    rw [hclosed] at hread
    obtain ⟨⟨items, after⟩, hitems, hread⟩ := bind_eq_ok.1 hread
    obtain ⟨rfl, rfl⟩ := Prod.mk.inj (pure_eq_ok.1 hread)
    obtain ⟨hdocuments, hleft⟩ := h.items _ _ _ hgap hitems
    exact ⟨.list _ hdocuments, hleft⟩

theorem ReadsWell.value_object (h : ReadsWell P fuel source) (ht : t <:+ source)
    (hread : readValue (fuel + 1) (CodePoint.ofChar '\x7b' :: t) = .ok (v, left)) :
    v.IsDocument P ∧ left <:+ source := by
  have hgap : skipGap t <:+ source := List.IsSuffix.trans (isSuffix_skipGap t) ht
  rw [readValue, if_neg (by decide), if_neg (by decide), if_pos rfl] at hread
  cases hclosed : closed? (CodePoint.ofChar '\x7d') (skipGap t) with
  | some after =>
    rw [hclosed] at hread
    obtain ⟨rfl, rfl⟩ := Prod.mk.inj (Except.ok.inj hread)
    exact ⟨areFields_nil.isDocument, List.IsSuffix.trans (isSuffix_of_closed? hclosed) hgap⟩
  | none =>
    rw [hclosed] at hread
    obtain ⟨⟨fields, after⟩, hfields, hread⟩ := bind_eq_ok.1 hread
    obtain ⟨rfl, rfl⟩ := Prod.mk.inj (pure_eq_ok.1 hread)
    obtain ⟨hdocuments, hleft⟩ := h.fields _ _ _ _ areFields_nil hgap hfields
    exact ⟨hdocuments.isDocument, hleft⟩

/-- What begins neither a text nor a list nor an object is a word or a number. -/
theorem isDocument_of_readValue_plain {c : CodePoint} (hquote : c ≠ CodePoint.ofChar '"')
    (hlist : c ≠ CodePoint.ofChar '[') (hobject : c ≠ CodePoint.ofChar '\x7b')
    (hread : readValue (fuel + 1) (c :: t) = .ok (v, left)) : v.IsDocument P ∧ left <:+ c :: t := by
  rw [readValue, if_neg hquote, if_neg hlist, if_neg hobject] at hread
  cases hword : readWord? (c :: t) with
  | some found =>
    rw [hword] at hread
    obtain ⟨rfl, rfl⟩ := Prod.mk.inj (Except.ok.inj hread)
    exact isDocument_of_readWord? hword
  | none =>
    rw [hword] at hread
    exact isDocument_of_readNumber hread

theorem ReadsWell.value_succ (h : ReadsWell P fuel source) (hP : ReadsTexts P source) (ht : t <:+ source)
    (hread : readValue (fuel + 1) t = .ok (v, left)) : v.IsDocument P ∧ left <:+ source := by
  cases t with
  | nil => cases hread
  | cons c rest =>
    have hrest : rest <:+ source := List.IsSuffix.trans (List.suffix_cons c rest) ht
    by_cases hquote : c = CodePoint.ofChar '"'
    · rw [readValue, if_pos hquote] at hread
      obtain ⟨⟨text, after⟩, hstring, hread⟩ := bind_eq_ok.1 hread
      obtain ⟨rfl, rfl⟩ := Prod.mk.inj (pure_eq_ok.1 hread)
      exact ⟨.text _ (hP _ _ _ _ hrest hstring), List.IsSuffix.trans (isSuffix_of_readString hstring) hrest⟩
    by_cases hlist : c = CodePoint.ofChar '['
    · subst hlist
      exact h.value_list hrest hread
    by_cases hobject : c = CodePoint.ofChar '\x7b'
    · subst hobject
      exact h.value_object hrest hread
    obtain ⟨hv, hleft⟩ := isDocument_of_readValue_plain (P := P) hquote hlist hobject hread
    exact ⟨hv, List.IsSuffix.trans hleft ht⟩

theorem ReadsWell.items_succ {items : List Value} (h : ReadsWell P fuel source) (ht : t <:+ source)
    (hread : readItems (fuel + 1) t = .ok (items, left)) : (∀ v ∈ items, v.IsDocument P) ∧ left <:+ source := by
  rw [readItems] at hread
  obtain ⟨⟨v, after⟩, hvalue, hread⟩ := bind_eq_ok.1 hread
  obtain ⟨hv, hafter⟩ := h.value _ _ _ ht hvalue
  have hgap : skipGap after <:+ source := List.IsSuffix.trans (isSuffix_skipGap after) hafter
  dsimp only at hread
  cases hclosed : closed? (CodePoint.ofChar ']') (skipGap after) with
  | some rest =>
    rw [hclosed] at hread
    obtain ⟨rfl, rfl⟩ := Prod.mk.inj (pure_eq_ok.1 hread)
    exact ⟨List.forall_mem_singleton.2 hv, List.IsSuffix.trans (isSuffix_of_closed? hclosed) hgap⟩
  | none =>
    rw [hclosed] at hread
    obtain ⟨next, hnext, hread⟩ := bind_eq_ok.1 hread
    obtain ⟨⟨others, rest⟩, hothers, hread⟩ := bind_eq_ok.1 hread
    obtain ⟨rfl, rfl⟩ := Prod.mk.inj (pure_eq_ok.1 hread)
    have hcomma : next <:+ source := List.IsSuffix.trans (isSuffix_of_expect hnext) hgap
    obtain ⟨hdocuments, hleft⟩ := h.items _ _ _ (List.IsSuffix.trans (isSuffix_skipGap next) hcomma) hothers
    exact ⟨List.forall_mem_cons.2 ⟨hv, hdocuments⟩, hleft⟩

theorem ReadsWell.fields_succ {before fields : List (Text × Value)} (h : ReadsWell P fuel source)
    (hP : ReadsTexts P source) (hbefore : AreFields P before) (ht : t <:+ source)
    (hread : readFields (fuel + 1) before t = .ok (fields, left)) : AreFields P fields ∧ left <:+ source := by
  rw [readFields] at hread
  obtain ⟨⟨name, afterColon⟩, hname, hread⟩ := bind_eq_ok.1 hread
  obtain ⟨hPname, hcolon⟩ := hP.name ht hname
  obtain ⟨⟨v, after⟩, hvalue, hread⟩ := bind_eq_ok.1 hread
  obtain ⟨hv, hafter⟩ := h.value _ _ _ hcolon hvalue
  have hnow : AreFields P (insertField name v before) := hbefore.insertField hPname hv
  have hgap : skipGap after <:+ source := List.IsSuffix.trans (isSuffix_skipGap after) hafter
  dsimp only at hread
  cases hclosed : closed? (CodePoint.ofChar '\x7d') (skipGap after) with
  | some rest =>
    rw [hclosed] at hread
    obtain ⟨rfl, rfl⟩ := Prod.mk.inj (pure_eq_ok.1 hread)
    exact ⟨hnow, List.IsSuffix.trans (isSuffix_of_closed? hclosed) hgap⟩
  | none =>
    rw [hclosed] at hread
    obtain ⟨next, hnext, hread⟩ := bind_eq_ok.1 hread
    have hcomma : next <:+ source := List.IsSuffix.trans (isSuffix_of_expect hnext) hgap
    exact h.fields _ _ _ _ hnow (List.IsSuffix.trans (isSuffix_skipGap next) hcomma) hread

theorem readsWell (hP : ReadsTexts P source) (fuel : Nat) : ReadsWell P fuel source := by
  -- The bound falls with every call of the three readers, so one induction on it serves them all.
  induction fuel with
  | zero => exact readsWell_zero
  | succ fuel ih =>
    refine ⟨fun t v left ht h => ih.value_succ hP ht h, fun t items left ht h => ih.items_succ ht h, ?_⟩
    exact fun before t fields left hbefore ht h => ih.fields_succ hP hbefore ht h

/-- **Values that are read can be written**: what is read from a document is what a document can denote, and its
texts are whole if the document holds no halves of surrogate pairs outside escapes. -/
theorem isDocument_of_read (h : Json.read t = .ok v) : v.IsDocument fun s => t.IsStorable → IsWhole s := by
  have htexts : ReadsTexts (fun s => t.IsStorable → IsWhole s) t := fun opening u s left hu hread ht =>
    isWhole_of_readString (ht.of_subset hu.subset) hread
  have hdocument : readDocument t = .ok v := mapError_eq_ok.1 h
  unfold readDocument at hdocument
  dsimp only at hdocument
  -- A document that begins with a byte order mark is not read at all.
  by_cases hmark : t.head?.map CodePoint.value = some 0xFEFF
  · rw [if_pos hmark] at hdocument
    cases hdocument
  rw [if_neg hmark] at hdocument
  obtain ⟨⟨w, rest⟩, hvalue, hdocument⟩ := bind_eq_ok.1 hdocument
  obtain ⟨hw, -⟩ := (readsWell htexts _).value _ _ _ (isSuffix_skipGap t) hvalue
  dsimp only at hdocument
  split_ifs at hdocument
  rwa [pure_eq_ok.1 hdocument]

end Json

end CardPayments
