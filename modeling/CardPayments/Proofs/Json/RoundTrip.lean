import CardPayments.Proofs.Json.Encodable
import CardPayments.Proofs.Json.Number
import CardPayments.Proofs.Json.Text

/-!
# Written values are read again

`Value.toText` writes every value that is writable as a document that `Json.read` reads: its numbers are
finite, and its whole numbers have no more digits than are converted.  What is read is `Value.received`
(`Json.read_toText`), which is the value itself if the value is one that a document can denote
(`Value.IsDocument`) and its texts are whole (`Value.received_eq_self`): no object has two fields of one name,
and no half of a surrogate pair stands directly before its other half.
-/

namespace CardPayments

namespace Json

open Text Decimal

namespace Value

/-! ### What is received -/

mutual

/-- The value that is read when a value is written. -/
def received : Value → Value
  | text t => text (joined t)
  | list items => list (itemsReceived items)
  | object fields => object ((fieldsReceived fields).foldl (fun fields f => insertField f.1 f.2 fields) [])
  | v => v

/-- The items of a list that are read. -/
def itemsReceived : List Value → List Value
  | [] => []
  | v :: rest => v.received :: itemsReceived rest

/-- The names and the values of fields that are read, one after the other. -/
def fieldsReceived : List (Text × Value) → List (Text × Value)
  | [] => []
  | (name, v) :: rest => (joined name, v.received) :: fieldsReceived rest

end

/-- Can the value be written as a document that is read? -/
inductive IsWritable : Value → Prop where
  | null : IsWritable null
  | bool (b : Bool) : IsWritable (bool b)
  | int (n : Int) : (ofNat n.natAbs).length ≤ Numeral.digitLimit → IsWritable (int n)
  | float (negative : Bool) (index : Fin 0x7FF0000000000000) : IsWritable (float (.finite negative index))
  | text (t : Text) : IsWritable (text t)
  | list (items : List Value) : (∀ v ∈ items, v.IsWritable) → IsWritable (list items)
  | object (fields : List (Text × Value)) : (∀ f ∈ fields, f.2.IsWritable) → IsWritable (object fields)

/-- Can the value be what a document denotes, all of whose texts and names have a property? -/
inductive IsDocument (P : Text → Prop) : Value → Prop where
  | null : IsDocument P null
  | bool (b : Bool) : IsDocument P (bool b)
  | int (n : Int) : (ofNat n.natAbs).length ≤ Numeral.digitLimit → IsDocument P (int n)
  | float (x : Binary64) : IsDocument P (float x)
  | text (t : Text) : P t → IsDocument P (text t)
  | list (items : List Value) : (∀ v ∈ items, IsDocument P v) → IsDocument P (list items)
  | object (fields : List (Text × Value)) : (fields.map Prod.fst).Nodup → (∀ f ∈ fields, P f.1) →
      (∀ f ∈ fields, IsDocument P f.2) → IsDocument P (object fields)

theorem IsWritable.nil : (Value.object []).IsWritable := .object [] (List.forall_mem_nil _)

theorem IsWritable.cons {name : Text} {v : Value} {fields : List (Text × Value)} (hv : v.IsWritable)
    (h : (Value.object fields).IsWritable) : (Value.object ((name, v) :: fields)).IsWritable := by
  cases h with
  | object _ hfields => exact .object _ (List.forall_mem_cons.2 ⟨hv, hfields⟩)

end Value

open Value

/-! ### Gaps and brackets -/

variable {fuel : Nat} {c : CodePoint} {t u rest : Text} {v : Value}

/-- A text begins with something of ASCII that is neither a gap nor the end of a list. -/
def Begins (t : Text) : Prop :=
  ∃ c u, t = c :: u ∧ isGap c = false ∧ c ≠ CodePoint.ofChar ']' ∧ c.value < 0x80

theorem skipGap_of_begins (h : Begins t) : skipGap t = t := by
  obtain ⟨c, u, rfl, hc, -⟩ := h
  rw [skipGap, List.dropWhile_cons_of_neg (by rw [hc]; decide)]

theorem Begins.append (h : Begins t) (u : Text) : Begins (t ++ u) := by
  obtain ⟨c, s, rfl, hc, hne⟩ := h
  exact ⟨c, s ++ u, rfl, hc, hne⟩

theorem Begins.closed? (h : Begins t) : closed? (CodePoint.ofChar ']') t = none := by
  obtain ⟨c, u, rfl, -, hne, -⟩ := h
  exact if_neg hne

theorem begins_text (m : Magnitude) (h : m.IsWritten) (negative : Bool) : Begins (signText negative ++ m.text) := by
  cases negative with
  | true => exact ⟨_, _, rfl, by decide, by decide, by decide⟩
  | false =>
    obtain ⟨c, u, htext, hc⟩ := m.exists_cons h
    have hrange := CodePoint.value_of_isAsciiDigit hc
    refine ⟨c, u, htext, ?_, ?_, by omega⟩
    · simp only [isGap, Bool.or_eq_false_iff, decide_eq_false_iff_not]
      omega
    · rintro rfl
      exact absurd hc (by decide)

/-! ### Values without parts -/

/-- No word has a digit among its first two letters. -/
theorem words_cases : ∀ word ∈ words, ∃ a b w, word.1 = a :: b :: w ∧ a.isAsciiDigit = false ∧
    b.isAsciiDigit = false := by
  intro word hword
  simp only [words, List.mem_cons, List.not_mem_nil, or_false] at hword
  rcases hword with rfl | rfl | rfl | rfl | rfl | rfl
  all_goals exact ⟨_, _, _, rfl, by decide, by decide⟩

theorem readWord?_text {m : Magnitude} (h : m.IsWritten) (negative : Bool) (rest : Text) :
    readWord? (signText negative ++ m.text ++ rest) = none := by
  obtain ⟨d, u, htext, hd⟩ := m.exists_cons h
  have hne {a : CodePoint} (ha : a.isAsciiDigit = false) : a ≠ d := by
    rintro rfl
    rw [hd] at ha
    cases ha
  refine List.findSome?_eq_none_iff.2 fun word hword => ?_
  obtain ⟨a, b, w, hw, ha, hb⟩ := words_cases word hword
  rw [Option.map_eq_none_iff, hw, htext]
  cases negative with
  | false => exact if_neg (hne ha)
  | true =>
    show (if a = CodePoint.ofChar '-' then dropStart? (b :: w) (d :: (u ++ rest)) else none) = none
    rw [dropStart?, if_neg (hne hb), ite_self]

/-- Whatever begins with a sign or a digit is read as a number. -/
theorem readValue_text {m : Magnitude} (h : m.IsWritten) (negative : Bool) :
    readValue (fuel + 1) (signText negative ++ m.text ++ rest) =
      readNumber (signText negative ++ m.text ++ rest) := by
  have hword := readWord?_text h negative rest
  obtain ⟨c, u, hcons, hquote, hlist, hobject⟩ : ∃ c u, signText negative ++ m.text ++ rest = c :: u ∧
      c ≠ CodePoint.ofChar '"' ∧ c ≠ CodePoint.ofChar '[' ∧ c ≠ CodePoint.ofChar '\x7b' := by
    cases negative with
    | true => exact ⟨_, _, rfl, by decide, by decide, by decide⟩
    | false =>
      obtain ⟨d, u, htext, hd⟩ := m.exists_cons h
      refine ⟨d, u ++ rest, by rw [htext]; rfl, ?_, ?_, ?_⟩
      all_goals
        rintro rfl
        exact absurd hd (by decide)
  rw [hcons] at hword ⊢
  rw [readValue, if_neg hquote, if_neg hlist, if_neg hobject, hword]

theorem readValue_null : readValue (fuel + 1) (Value.null.toText ++ rest) = .ok (.null, rest) := by
  rfl

theorem readValue_bool (b : Bool) : readValue (fuel + 1) ((Value.bool b).toText ++ rest) = .ok (.bool b, rest) := by
  cases b <;> rfl

theorem readValue_int {n : Int} (hn : (ofNat n.natAbs).length ≤ Numeral.digitLimit) (hrest : Follows rest) :
    readValue (fuel + 1) ((Value.int n).toText ++ rest) = .ok (.int n, rest) := by
  rw [Value.toText, ← readNumber_ofInt hn hrest, ofInt_eq]
  exact readValue_text (isWritten_ofNat _) _

theorem readValue_float (negative : Bool) (index : Fin 0x7FF0000000000000) (hrest : Follows rest) :
    readValue (fuel + 1) ((Value.float (.finite negative index)).toText ++ rest) =
      .ok (.float (.finite negative index), rest) := by
  obtain ⟨m, hm, -, htext, -⟩ := exists_magnitude_writeFloat negative index
  rw [Value.toText, ← readNumber_writeFloat negative index hrest, htext]
  exact readValue_text hm negative

theorem readString_writeString (opening : Nat) (t rest : Text) :
    readString opening 0 (t.flatMap escape ++ "\"" ++ rest) = .ok (joined t, rest) := by
  rw [List.append_assoc]
  exact readString_escapes opening t rest

theorem readValue_string (t : Text) :
    readValue (fuel + 1) ((Value.text t).toText ++ rest) = .ok (.text (joined t), rest) := by
  show readValue (fuel + 1) (CodePoint.ofChar '"' :: (t.flatMap escape ++ "\"" ++ rest)) = _
  rw [readValue, if_pos rfl, readString_writeString]
  rfl

/-! ### Items and fields -/

/-- A value is read back, whatever follows it that can follow a value, when the bound is not too low. -/
def ReadsBack (v : Value) : Prop :=
  ∀ fuel rest, Follows rest → 2 * (v.toText ++ rest).length + 1 ≤ fuel →
    readValue fuel (v.toText ++ rest) = .ok (v.received, rest)

/-- The text of a writable value begins where it is looked for. -/
theorem begins_toText (h : v.IsWritable) : Begins v.toText := by
  cases h with
  | null => exact ⟨_, _, rfl, by decide, by decide, by decide⟩
  | bool b => cases b <;> exact ⟨_, _, rfl, by decide, by decide, by decide⟩
  | int n hn =>
    rw [Value.toText, ofInt_eq]
    exact begins_text _ (isWritten_ofNat _) _
  | float negative index =>
    obtain ⟨m, hm, -, htext, -⟩ := exists_magnitude_writeFloat negative index
    rw [Value.toText, htext]
    exact begins_text m hm negative
  | text t => exact ⟨_, _, rfl, by decide, by decide, by decide⟩
  | list items hitems => exact ⟨_, _, rfl, by decide, by decide, by decide⟩
  | object fields hfields => exact ⟨_, _, rfl, by decide, by decide, by decide⟩

theorem joinWith_singleton (s t : Text) : joinWith s [t] = t := List.intercalate_singleton

theorem joinWith_cons_cons (s t u : Text) (ts : List Text) :
    joinWith s (t :: u :: ts) = t ++ (s ++ joinWith s (u :: ts)) := by
  rw [joinWith, List.intercalate_cons_cons, List.append_assoc]
  rfl

theorem begins_joinWith (h : Begins t) (s : Text) (ts : List Text) : Begins (joinWith s (t :: ts)) := by
  cases ts with
  | nil =>
    rw [joinWith_singleton]
    exact h
  | cons u ts =>
    rw [joinWith_cons_cons]
    exact h.append _

/-- After an item the list is closed. -/
theorem readItems_last (h : readValue fuel t = .ok (v, CodePoint.ofChar ']' :: rest)) :
    readItems (fuel + 1) t = .ok ([v], rest) := by
  rw [readItems, h]
  rfl

/-- After an item comes the next one. -/
theorem readItems_more {items : List Value} (h : readValue fuel t = .ok (v, ", " ++ u)) (hu : Begins u)
    (hmore : readItems fuel u = .ok (items, rest)) : readItems (fuel + 1) t = .ok (v :: items, rest) := by
  rw [readItems, h]
  show (readItems fuel (skipGap u) >>= _) = _
  rw [skipGap_of_begins hu, hmore]
  rfl

theorem readItems_itemTexts (items : List Value) (hne : items ≠ []) (hwritable : ∀ v ∈ items, v.IsWritable)
    (hback : ∀ v ∈ items, ReadsBack v) (rest : Text) (fuel : Nat)
    (hfuel : 2 * (joinWith ", " (itemTexts items) ++ CodePoint.ofChar ']' :: rest).length + 2 ≤ fuel) :
    readItems fuel (joinWith ", " (itemTexts items) ++ CodePoint.ofChar ']' :: rest) =
      .ok (itemsReceived items, rest) := by
  induction items generalizing fuel with
  | nil => exact absurd rfl hne
  | cons v items ih =>
    rw [List.forall_mem_cons] at hwritable hback
    obtain ⟨fuel, rfl⟩ : ∃ k, fuel = k + 1 := ⟨fuel - 1, by omega⟩
    cases items with
    | nil =>
      rw [itemTexts, itemTexts, joinWith_singleton] at hfuel ⊢
      exact readItems_last (hback.1 fuel _ (follows_cons (by decide)) (by omega))
    | cons w items =>
      let others : Text := joinWith ", " (itemTexts (w :: items)) ++ CodePoint.ofChar ']' :: rest
      have hothers : Begins others :=
        (begins_joinWith (begins_toText (hwritable.2 w List.mem_cons_self)) _ _).append _
      have hsplit : joinWith ", " (itemTexts (v :: w :: items)) ++ CodePoint.ofChar ']' :: rest =
          v.toText ++ (", " ++ others) := by
        rw [itemTexts, itemTexts, joinWith_cons_cons, List.append_assoc, List.append_assoc]
        rfl
      have hcomma : (Text.ofString ", " ++ others).length = others.length + 2 := rfl
      have hlength : (v.toText ++ (Text.ofString ", " ++ others)).length = v.toText.length + (others.length + 2) :=
        List.length_append
      rw [hsplit] at hfuel ⊢
      have hbound : 2 * others.length + 2 ≤ fuel := by omega
      refine readItems_more (hback.1 fuel _ (follows_cons (by decide)) (by omega)) hothers ?_
      exact ih (List.cons_ne_nil w items) hwritable.2 hback.2 fuel hbound

/-- The name of a field is read, and the colon behind it. -/
theorem readName_writeString (name : Text) (h : skipGap t = t) :
    readName (writeString name ++ ": " ++ t) = .ok (joined name, t) := by
  have hopening : writeString name ++ ": " ++ t =
      CodePoint.ofChar '"' :: (name.flatMap escape ++ "\"" ++ (": " ++ t)) := by
    rw [List.append_assoc]
    rfl
  rw [hopening, readName]
  show (readString _ 0 (name.flatMap escape ++ "\"" ++ (": " ++ t)) >>= _) = _
  rw [readString_writeString]
  show Except.ok (joined name, skipGap t) = _
  rw [h]

variable {before fields : List (Text × Value)} {name : Text}

/-- After a field the object is closed. -/
theorem readFields_last (hname : readName t = .ok (name, u))
    (h : readValue fuel u = .ok (v, CodePoint.ofChar '\x7d' :: rest)) :
    readFields (fuel + 1) before t = .ok (insertField name v before, rest) := by
  rw [readFields, hname]
  show (readValue fuel u >>= _) = _
  rw [h]
  rfl

/-- After a field comes the next one. -/
theorem readFields_more {s : Text} (hname : readName t = .ok (name, s))
    (h : readValue fuel s = .ok (v, ", " ++ u)) (hu : Begins u)
    (hmore : readFields fuel (insertField name v before) u = .ok (fields, rest)) :
    readFields (fuel + 1) before t = .ok (fields, rest) := by
  rw [readFields, hname]
  show (readValue fuel s >>= _) = _
  rw [h]
  show readFields fuel (insertField name v before) (skipGap u) = _
  rw [skipGap_of_begins hu, hmore]

theorem readFields_fieldTexts (fields : List (Text × Value)) (hne : fields ≠ [])
    (hwritable : ∀ f ∈ fields, f.2.IsWritable) (hback : ∀ f ∈ fields, ReadsBack f.2)
    (before : List (Text × Value)) (rest : Text) (fuel : Nat)
    (hfuel : 2 * (joinWith ", " (fieldTexts fields) ++ CodePoint.ofChar '\x7d' :: rest).length + 2 ≤ fuel) :
    readFields fuel before (joinWith ", " (fieldTexts fields) ++ CodePoint.ofChar '\x7d' :: rest) =
      .ok ((fieldsReceived fields).foldl (fun fields f => insertField f.1 f.2 fields) before, rest) := by
  induction fields generalizing before fuel with
  | nil => exact absurd rfl hne
  | cons f fields ih =>
    obtain ⟨name, v⟩ := f
    rw [List.forall_mem_cons] at hwritable hback
    obtain ⟨fuel, rfl⟩ : ∃ k, fuel = k + 1 := ⟨fuel - 1, by omega⟩
    have hv : ReadsBack v := hback.1
    have hname (u : Text) : readName (writeString name ++ ": " ++ (v.toText ++ u)) =
        .ok (joined name, v.toText ++ u) :=
      readName_writeString name (skipGap_of_begins ((begins_toText hwritable.1).append u))
    have hshort (u : Text) : (v.toText ++ u).length ≤ (writeString name ++ ": " ++ (v.toText ++ u)).length := by
      have hlength : (writeString name ++ ": " ++ (v.toText ++ u)).length = _ := List.length_append
      omega
    cases fields with
    | nil =>
      rw [fieldTexts, fieldTexts, joinWith_singleton, List.append_assoc (writeString name ++ Text.ofString ": ")]
        at hfuel ⊢
      have hle := hshort (CodePoint.ofChar '\x7d' :: rest)
      exact readFields_last (hname _) (hv fuel _ (follows_cons (by decide)) (by omega))
    | cons g fields =>
      let others : Text := joinWith ", " (fieldTexts (g :: fields)) ++ CodePoint.ofChar '\x7d' :: rest
      have hothers : Begins others := by
        have hquote : Begins (writeString g.1 ++ ": " ++ g.2.toText) := ⟨_, _, rfl, by decide, by decide, by decide⟩
        exact (begins_joinWith hquote _ _).append _
      have hsplit : joinWith ", " (fieldTexts ((name, v) :: g :: fields)) ++ CodePoint.ofChar '\x7d' :: rest =
          writeString name ++ ": " ++ (v.toText ++ (", " ++ others)) := by
        simp only [others, fieldTexts, joinWith_cons_cons, List.append_assoc]
      have hcomma : (Text.ofString ", " ++ others).length = others.length + 2 := rfl
      have hlength : (v.toText ++ (Text.ofString ", " ++ others)).length = v.toText.length + (others.length + 2) :=
        List.length_append
      have hle := hshort (", " ++ others)
      rw [hsplit] at hfuel ⊢
      have hbound : 2 * others.length + 2 ≤ fuel := by omega
      refine readFields_more (hname _) (hv fuel _ (follows_cons (by decide)) (by omega)) hothers ?_
      exact ih (List.cons_ne_nil g fields) hwritable.2 hback.2 _ fuel hbound

/-- A list with items is read by reading its items. -/
theorem readValue_items {items : List Value} (ht : Begins t) (h : readItems fuel t = .ok (items, rest)) :
    readValue (fuel + 1) (CodePoint.ofChar '[' :: t) = .ok (.list items, rest) := by
  rw [readValue, if_neg (by decide), if_pos rfl, skipGap_of_begins ht, ht.closed?]
  dsimp only
  rw [h]
  rfl

/-- An object with fields is read by reading its fields. -/
theorem readValue_fields (ht : t.head? = some (CodePoint.ofChar '"'))
    (h : readFields fuel [] t = .ok (fields, rest)) :
    readValue (fuel + 1) (CodePoint.ofChar '\x7b' :: t) = .ok (.object fields, rest) := by
  obtain ⟨u, rfl⟩ := List.head?_eq_some_iff.1 ht
  rw [readValue, if_neg (by decide), if_neg (by decide), if_pos rfl]
  show (readFields fuel [] (CodePoint.ofChar '"' :: u) >>= _) = _
  rw [h]
  rfl

/-! ### Documents -/

/-- The bound leaves room for one step, so it is enough to look at what a step does. -/
theorem readsBack_of_succ (h : ∀ fuel rest, Follows rest → 2 * (v.toText ++ rest).length ≤ fuel →
    readValue (fuel + 1) (v.toText ++ rest) = .ok (v.received, rest)) : ReadsBack v := by
  intro fuel rest hrest hfuel
  obtain ⟨fuel, rfl⟩ : ∃ k, fuel = k + 1 := ⟨fuel - 1, by omega⟩
  exact h fuel rest hrest (by omega)

theorem readsBack_list {items : List Value} (hwritable : ∀ v ∈ items, v.IsWritable)
    (hback : ∀ v ∈ items, ReadsBack v) : ReadsBack (.list items) := by
  apply readsBack_of_succ
  intro fuel rest _ hfuel
  cases items with
  | nil => rfl
  | cons v items =>
    let inner : Text := joinWith ", " (itemTexts (v :: items)) ++ CodePoint.ofChar ']' :: rest
    have hinner : Begins inner := (begins_joinWith (begins_toText (hwritable v List.mem_cons_self)) _ _).append _
    have hsplit : (Value.list (v :: items)).toText ++ rest = CodePoint.ofChar '[' :: inner := by
      rw [Value.toText, List.append_assoc]
      rfl
    have hlength : (CodePoint.ofChar '[' :: inner).length = inner.length + 1 := rfl
    rw [hsplit] at hfuel ⊢
    have hbound : 2 * inner.length + 2 ≤ fuel := by omega
    exact readValue_items hinner (readItems_itemTexts _ (List.cons_ne_nil v items) hwritable hback rest fuel hbound)

theorem readsBack_object {fields : List (Text × Value)} (hwritable : ∀ f ∈ fields, f.2.IsWritable)
    (hback : ∀ f ∈ fields, ReadsBack f.2) : ReadsBack (.object fields) := by
  apply readsBack_of_succ
  intro fuel rest _ hfuel
  cases fields with
  | nil => rfl
  | cons f fields =>
    let inner : Text := joinWith ", " (fieldTexts (f :: fields)) ++ CodePoint.ofChar '\x7d' :: rest
    -- A field begins with the quote of its name, so nothing is skipped before it.
    have hinner : inner.head? = some (CodePoint.ofChar '"') := by
      cases fields <;> rfl
    have hsplit : (Value.object (f :: fields)).toText ++ rest = CodePoint.ofChar '\x7b' :: inner := by
      rw [Value.toText, List.append_assoc]
      rfl
    have hlength : (CodePoint.ofChar '\x7b' :: inner).length = inner.length + 1 := rfl
    rw [hsplit] at hfuel ⊢
    have hbound : 2 * inner.length + 2 ≤ fuel := by omega
    exact readValue_fields hinner
      (readFields_fieldTexts _ (List.cons_ne_nil f fields) hwritable hback [] rest fuel hbound)

/-- A writable value is read back. -/
theorem readsBack (h : v.IsWritable) : ReadsBack v := by
  -- The induction is on the depth of the value; the parts of a list or an object are read one after the other.
  induction h with
  | null => exact readsBack_of_succ fun _ _ _ _ => readValue_null
  | bool b => exact readsBack_of_succ fun _ _ _ _ => readValue_bool b
  | int n hn => exact readsBack_of_succ fun _ _ hrest _ => readValue_int hn hrest
  | float negative index => exact readsBack_of_succ fun _ _ hrest _ => readValue_float negative index hrest
  | text t => exact readsBack_of_succ fun _ _ _ _ => readValue_string t
  | list items hitems ih => exact readsBack_list hitems ih
  | object fields hfields ih => exact readsBack_object hfields ih

/-- A document without a gap in front is read from its first code point on. -/
theorem readDocument_of_begins (h : Begins t) :
    readDocument t = readValue (2 * t.length + 2) t >>= fun read =>
      if (skipGap read.2).isEmpty then pure read.1
      else throw (.malformed .extraData (skipGap read.2).length) := by
  have hmark : ¬t.head?.map CodePoint.value = some 0xFEFF := by
    obtain ⟨c, u, rfl, -, -, hascii⟩ := h
    intro hmark
    have hvalue : c.value = 0xFEFF := Option.some.inj hmark
    omega
  rw [readDocument, if_neg hmark, skipGap_of_begins h]

/-- **Written values are read again**: what is read is what is received of the value. -/
theorem read_toText (h : v.IsWritable) : Json.read v.toText = .ok v.received := by
  have hback := readsBack h (2 * v.toText.length + 2) [] follows_nil (by rw [List.append_nil]; omega)
  rw [List.append_nil] at hback
  rw [Json.read, readDocument_of_begins (begins_toText h), hback]
  rfl

/-- The text of a value that is received as it is can only be read as this value. -/
theorem read_of_toText (h : v.IsWritable) (ht : v.toText = t) (hv : v.received = v) : Json.read t = .ok v := by
  rw [← ht, read_toText h, hv]

/-! ### Values that are received as they are -/

namespace Value

theorem insertField_of_notMem {fields : List (Text × Value)} {name : Text} (v : Value)
    (h : name ∉ fields.map Prod.fst) : insertField name v fields = fields ++ [(name, v)] := by
  induction fields with
  | nil => rfl
  | cons f fields ih =>
    rw [List.map_cons, List.mem_cons, not_or] at h
    rw [insertField, if_neg (Ne.symm h.1), ih h.2]
    rfl

/-- Fields with names of their own are collected in their order. -/
theorem foldl_insertField {fields before : List (Text × Value)} (h : ((before ++ fields).map Prod.fst).Nodup) :
    fields.foldl (fun fields f => insertField f.1 f.2 fields) before = before ++ fields := by
  induction fields generalizing before with
  | nil => exact (List.append_nil before).symm
  | cons f fields ih =>
    have hnew : f.1 ∉ before.map Prod.fst := by
      rw [List.map_append, List.map_cons] at h
      intro hf
      exact List.disjoint_of_nodup_append h hf List.mem_cons_self
    have happend : before ++ f :: fields = before ++ [f] ++ fields := (List.append_cons before f fields)
    rw [happend] at h ⊢
    rw [List.foldl_cons, insertField_of_notMem f.2 hnew]
    exact ih h

theorem itemsReceived_eq_self {items : List Value} (h : ∀ v ∈ items, v.received = v) :
    itemsReceived items = items := by
  induction items with
  | nil => rfl
  | cons v items ih =>
    rw [List.forall_mem_cons] at h
    rw [itemsReceived, h.1, ih h.2]

theorem fieldsReceived_eq_self {fields : List (Text × Value)} (hnames : ∀ f ∈ fields, IsWhole f.1)
    (h : ∀ f ∈ fields, f.2.received = f.2) : fieldsReceived fields = fields := by
  induction fields with
  | nil => rfl
  | cons f fields ih =>
    rw [List.forall_mem_cons] at hnames h
    rw [fieldsReceived, hnames.1, h.1, ih hnames.2 h.2]

/-- A value that a document can denote is received as it is, if its texts are whole. -/
theorem received_eq_self (h : v.IsDocument IsWhole) : v.received = v := by
  induction h with
  | null => rfl
  | bool b => rfl
  | int n hn => rfl
  | float x => rfl
  | text t ht => rw [received, ht]
  | list items hitems ih => rw [received, itemsReceived_eq_self ih]
  | object fields hnodup hnames hfields ih =>
    have hfold := foldl_insertField (by rwa [List.nil_append] : (([] ++ fields).map Prod.fst).Nodup)
    rw [received, fieldsReceived_eq_self hnames ih, hfold, List.nil_append]

/-- A value that a document can denote can be written, if all its numbers are finite. -/
theorem IsDocument.isWritable {P : Text → Prop} (h : v.IsDocument P) (hstandard : v.isStandard = true) :
    v.IsWritable := by
  induction h with
  | null => exact .null
  | bool b => exact .bool b
  | int n hn => exact .int n hn
  | float x =>
    cases x with
    | finite negative index => exact .float negative index
    | infinite negative => cases hstandard
    | nan => cases hstandard
  | text t ht => exact .text t
  | list items hitems ih => exact .list items fun v hv => ih v hv (isStandard_of_mem_list hstandard v hv)
  | object fields hnodup hnames hfields ih =>
    exact .object fields fun f hf => ih f hf (isStandard_of_mem hstandard f hf)

theorem IsDocument.mono {P Q : Text → Prop} (h : v.IsDocument P) (hPQ : ∀ t, P t → Q t) : v.IsDocument Q := by
  induction h with
  | null => exact .null
  | bool b => exact .bool b
  | int n hn => exact .int n hn
  | float x => exact .float x
  | text t ht => exact .text t (hPQ t ht)
  | list items hitems ih => exact .list items ih
  | object fields hnodup hnames hfields ih => exact .object fields hnodup (fun f hf => hPQ f.1 (hnames f hf)) ih

end Value

end Json

end CardPayments
