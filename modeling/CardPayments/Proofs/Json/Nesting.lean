import CardPayments.Json.Nesting
import CardPayments.Proofs.Json.RoundTrip

/-!
# How deep a document may be nested

The text of a value that can be written is read by whoever has room for all the levels of the value, and by nobody
else: `Json.fits_toText_iff`.  A text is passed over bracket by bracket, which `Leads` says of each part of it; where
the room is at its end the part before the bracket is a document that breaks off, which `BreaksOff` says of the readers.
What is of no value at all is passed over too if it has no brackets (`leads_plain`).
-/

namespace CardPayments

namespace Json

open Text Decimal Value

variable {room : Nat} {place : Place} {c bracket : CodePoint} {s t u before : Text} {v : Value}

/-- Reading a document never gets to a bracket that opens a level for which there is no room. -/
def Fits (room : Nat) (t : Text) : Prop := overrun? room t = none

/-! ### Texts that are passed over -/

/-- A text leads from a place in a document, with some room, to another one. -/
def Leads (room : Nat) (place : Place) (t : Text) (room' : Nat) (place' : Place) : Prop :=
  ∀ rest, splitAtOverrun? room place (t ++ rest) =
    (splitAtOverrun? room' place' rest).map fun x => (t ++ x.1, x.2)

theorem leads_nil (room : Nat) (place : Place) : Leads room place [] room place :=
  fun _ => Option.map_id'.symm

theorem Leads.append {room' room'' : Nat} {place' place'' : Place} (h : Leads room place s room' place')
    (h' : Leads room' place' t room'' place'') : Leads room place (s ++ t) room'' place'' := by
  intro rest
  rw [List.append_assoc, h, h', Option.map_map]
  simp only [Function.comp_def, List.append_assoc]

/-- A text that leads to some place fits. -/
theorem Leads.fits {room' : Nat} {place' : Place} (h : Leads room .outside t room' place') : Fits room t := by
  have hpassed := h []
  rw [List.append_nil] at hpassed
  rw [Fits, overrun?, hpassed]
  rfl

/-- Every code point leads on, unless it opens a level for which there is no room. -/
theorem leads_singleton (h : ¬(place = .outside ∧ isOpening c = true ∧ room = 0)) :
    Leads room place [c] (roomAfter c room place) (place.after c) := by
  intro rest
  show splitAtOverrun? room place (c :: rest) = _
  rw [splitAtOverrun?, if_neg h]
  rfl

/-- Nothing begins or ends with it, neither a text nor a list nor an object. -/
def IsPlain (c : CodePoint) : Prop := c ≠ CodePoint.ofChar '"' ∧ isOpening c = false ∧ isClosing c = false

instance (c : CodePoint) : Decidable (IsPlain c) :=
  inferInstanceAs (Decidable (c ≠ CodePoint.ofChar '"' ∧ isOpening c = false ∧ isClosing c = false))

theorem leads_plain (h : ∀ c ∈ t, IsPlain c) : Leads room .outside t room .outside := by
  induction t with
  | nil => exact leads_nil _ _
  | cons c t ih =>
    rw [List.forall_mem_cons] at h
    obtain ⟨⟨hquote, hopening, hclosing⟩, hrest⟩ := h
    have hfirst : Leads room .outside [c] (roomAfter c room .outside) (Place.outside.after c) :=
      leads_singleton (by rw [hopening]; rintro ⟨-, ⟨⟩, -⟩)
    rw [roomAfter, hopening, hclosing, Place.after, if_neg hquote] at hfirst
    exact hfirst.append (ih hrest)

theorem leads_comma : Leads room .outside ", " room .outside := leads_plain (by decide)

/-- Where there is room for one more level, a list or an object may begin. -/
theorem leads_opening (h : isOpening c = true) : Leads (room + 1) .outside [c] room .outside := by
  rw [isOpening, Bool.or_eq_true, decide_eq_true_eq, decide_eq_true_eq] at h
  rcases h with rfl | rfl <;> exact leads_singleton (by rintro ⟨-, -, ⟨⟩⟩)

theorem leads_closing (h : isClosing c = true) : Leads room .outside [c] (room + 1) .outside := by
  rw [isClosing, Bool.or_eq_true, decide_eq_true_eq, decide_eq_true_eq] at h
  rcases h with rfl | rfl <;> exact leads_singleton (by rintro ⟨-, ⟨⟩, -⟩)

theorem leads_quoted (h : ∀ c ∈ t, c ≠ CodePoint.ofChar '"' ∧ c ≠ CodePoint.ofChar '\\') :
    Leads room .quoted t room .quoted := by
  induction t with
  | nil => exact leads_nil _ _
  | cons c t ih =>
    rw [List.forall_mem_cons] at h
    obtain ⟨⟨hquote, hbackslash⟩, hrest⟩ := h
    have hfirst : Leads room .quoted [c] room (Place.quoted.after c) := leads_singleton nofun
    rw [Place.after, if_neg hquote, if_neg hbackslash] at hfirst
    exact hfirst.append (ih hrest)

/-- What stands behind a backslash is in the text, whatever it is. -/
theorem leads_backslash (c : CodePoint) : Leads room .quoted [CodePoint.ofChar '\\', c] room .quoted :=
  (leads_singleton nofun : Leads room .quoted [CodePoint.ofChar '\\'] room .escaped).append (leads_singleton nofun)

theorem isSome_of_hexUnit? {n : Nat} (hlength : t.length = 4) (h : hexUnit? t = some n) :
    ∀ c ∈ t, c.hexDigit?.isSome = true := by
  obtain ⟨a, b, c, d, rfl⟩ : ∃ a b c d, t = [a, b, c, d] := by
    match t, hlength with
    | [a, b, c, d], _ => exact ⟨a, b, c, d, rfl⟩
  obtain ⟨_, ha, h⟩ := Option.bind_eq_some_iff.1 h
  obtain ⟨_, hb, h⟩ := Option.bind_eq_some_iff.1 h
  obtain ⟨_, hc, h⟩ := Option.bind_eq_some_iff.1 h
  obtain ⟨_, hd, -⟩ := Option.bind_eq_some_iff.1 h
  simp [ha, hb, hc, hd]

theorem leads_unitEscape {n : Nat} (h : n < 0x10000) : Leads room .quoted (unitEscape n) room .quoted := by
  have hunit := hexUnit?_ofNatHex h []
  rw [List.append_nil] at hunit
  have hdigits : ∀ c ∈ ofNatHex 4 n, c ≠ CodePoint.ofChar '"' ∧ c ≠ CodePoint.ofChar '\\' := by
    intro c hc
    have hdigit := isSome_of_hexUnit? (length_ofNatHex h) hunit c hc
    constructor <;> (rintro rfl; cases hdigit)
  exact (leads_backslash (CodePoint.ofChar 'u')).append (leads_quoted hdigits)

theorem leads_escape (c : CodePoint) : Leads room .quoted (escape c) room .quoted := by
  have hescaped := escaped_escape c
  generalize escape c = s at hescaped
  cases hescaped with
  | plain hquote hbackslash _ => exact leads_quoted (List.forall_mem_singleton.2 ⟨hquote, hbackslash⟩)
  | short letter _ _ => exact leads_backslash letter
  | unit h => exact leads_unitEscape h
  | pair high low hhigh hlow _ _ _ => exact (leads_unitEscape hhigh).append (leads_unitEscape hlow)

theorem leads_writeString (t : Text) : Leads room .outside (writeString t) room .outside := by
  have hopening : Leads room .outside [CodePoint.ofChar '"'] room .quoted := leads_singleton (by rintro ⟨-, ⟨⟩, -⟩)
  have hclosing : Leads room .quoted [CodePoint.ofChar '"'] room .outside := leads_singleton nofun
  have hescapes : Leads room .quoted (t.flatMap escape) room .quoted := by
    induction t with
    | nil => exact leads_nil _ _
    | cons c t ih => exact (leads_escape c).append ih
  exact (hopening.append hescapes).append hclosing

theorem isPlain_of_isAsciiDigit (h : c.isAsciiDigit = true) : IsPlain c := by
  have hne {d : CodePoint} (hd : d.isAsciiDigit = false) : c ≠ d := by
    rintro rfl
    rw [h] at hd
    cases hd
  simp only [IsPlain, isOpening, isClosing, Bool.or_eq_false_iff, decide_eq_false_iff_not]
  exact ⟨hne rfl, ⟨hne rfl, hne rfl⟩, hne rfl, hne rfl⟩

theorem leads_text {m : Magnitude} (h : m.IsWritten) (negative : Bool) :
    Leads room .outside (signText negative ++ m.text) room .outside := by
  have hsigns : ∀ c ∈ ([".", "e", "+", "-"] : List String).flatMap Text.ofString, IsPlain c := by decide
  refine Leads.append (leads_plain ?_) (leads_plain fun c hc => ?_)
  · cases negative <;> decide
  · exact (m.mem_text h hc).elim isPlain_of_isAsciiDigit (hsigns c)

/-! ### Values that fit -/

namespace Value

mutual

/-- How many lists and objects are nested in each other in a value. -/
def levels : Value → Nat
  | list items => itemsLevels items + 1
  | object fields => fieldsLevels fields + 1
  | _ => 0

/-- How many are nested in each other in one of the items. -/
def itemsLevels : List Value → Nat
  | [] => 0
  | v :: rest => max v.levels (itemsLevels rest)

/-- How many are nested in each other in the value of one of the fields. -/
def fieldsLevels : List (Text × Value) → Nat
  | [] => 0
  | (_, v) :: rest => max v.levels (fieldsLevels rest)

end

end Value

theorem leads_joinWith {ts : List Text} (h : ∀ t ∈ ts, Leads room .outside t room .outside) :
    Leads room .outside (joinWith ", " ts) room .outside := by
  induction ts with
  | nil => exact leads_nil _ _
  | cons t ts ih =>
    rw [List.forall_mem_cons] at h
    cases ts with
    | nil =>
      rw [joinWith_singleton]
      exact h.1
    | cons u ts =>
      rw [joinWith_cons_cons]
      exact h.1.append (leads_comma.append (ih h.2))

theorem leads_itemTexts {items : List Value}
    (h : ∀ v ∈ items, v.levels ≤ room → Leads room .outside v.toText room .outside)
    (hroom : itemsLevels items ≤ room) : ∀ t ∈ itemTexts items, Leads room .outside t room .outside := by
  induction items with
  | nil => exact List.forall_mem_nil _
  | cons v items ih =>
    rw [List.forall_mem_cons] at h
    obtain ⟨hv, hitems⟩ := max_le_iff.1 hroom
    exact List.forall_mem_cons.2 ⟨h.1 hv, ih h.2 hitems⟩

theorem leads_fieldTexts {fields : List (Text × Value)}
    (h : ∀ f ∈ fields, f.2.levels ≤ room → Leads room .outside f.2.toText room .outside)
    (hroom : fieldsLevels fields ≤ room) : ∀ t ∈ fieldTexts fields, Leads room .outside t room .outside := by
  induction fields with
  | nil => exact List.forall_mem_nil _
  | cons f fields ih =>
    rw [List.forall_mem_cons] at h
    obtain ⟨hv, hfields⟩ := max_le_iff.1 hroom
    exact List.forall_mem_cons.2
      ⟨((leads_writeString f.1).append (leads_plain (by decide))).append (h.1 hv), ih h.2 hfields⟩

/-- The text of a value is passed over if there is room for all its levels. -/
theorem leads_toText (h : v.IsWritable) (hroom : v.levels ≤ room) : Leads room .outside v.toText room .outside := by
  -- A level of the value is a bracket of the text: inside it there is room for one level less.
  induction h generalizing room with
  | null => exact leads_plain (by decide)
  | bool b => cases b <;> exact leads_plain (by decide)
  | int n hn =>
    rw [Value.toText, ofInt_eq]
    exact leads_text (isWritten_ofNat _) _
  | float negative index =>
    obtain ⟨m, hm, -, htext, -⟩ := exists_magnitude_writeFloat negative index
    rw [Value.toText, htext]
    exact leads_text hm negative
  | text t => exact leads_writeString t
  | list items hitems ih =>
    cases room with
    | zero => cases hroom
    | succ room =>
      have hitems := leads_joinWith (leads_itemTexts (fun v hv => ih v hv) (Nat.le_of_succ_le_succ hroom))
      exact ((leads_opening rfl).append hitems).append (leads_closing rfl)
  | object fields hfields ih =>
    cases room with
    | zero => cases hroom
    | succ room =>
      have hfields := leads_joinWith (leads_fieldTexts (fun f hf => ih f hf) (Nat.le_of_succ_le_succ hroom))
      exact ((leads_opening rfl).append hfields).append (leads_closing rfl)

/-! ### Values that do not fit -/

/-- A text is split at a bracket, whatever follows it. -/
def StopsAt (room : Nat) (t before : Text) (bracket : CodePoint) : Prop :=
  ∀ rest, splitAtOverrun? room .outside (t ++ rest) = some (before, bracket)

theorem StopsAt.append (h : StopsAt room t before bracket) (u : Text) : StopsAt room (t ++ u) before bracket := by
  intro rest
  rw [List.append_assoc]
  exact h _

theorem Leads.stopsAt {room' : Nat} (h : Leads room .outside s room' .outside)
    (h' : StopsAt room' t before bracket) : StopsAt room (s ++ t) (s ++ before) bracket := by
  intro rest
  rw [List.append_assoc, h, h']
  rfl

theorem StopsAt.joinWith_cons (h : StopsAt room t before bracket) (ts : List Text) :
    StopsAt room (joinWith ", " (t :: ts)) before bracket := by
  cases ts with
  | nil =>
    rw [joinWith_singleton]
    exact h
  | cons u ts =>
    rw [joinWith_cons_cons]
    exact h.append _

theorem Leads.stopsAt_joinWith {ts : List Text} (h : Leads room .outside t room .outside)
    (h' : StopsAt room (joinWith ", " ts) before bracket) :
    StopsAt room (joinWith ", " (t :: ts)) (t ++ (", " ++ before)) bracket := by
  cases ts with
  | nil => exact absurd (h' []) nofun
  | cons u ts =>
    rw [joinWith_cons_cons]
    exact h.stopsAt (leads_comma.stopsAt h')

/-- A reader gets to the end of a text, and expects a value there, when its bound is not too low. -/
def BreaksOff {α : Type} (bound : Nat) (read : Nat → Text → Except Stop α) (t : Text) : Prop :=
  ∀ fuel, 2 * t.length + bound ≤ fuel → read fuel t = .error (.malformed .expectingValue 0)

theorem breaksOff_of_succ {α : Type} {bound : Nat} {read : Nat → Text → Except Stop α}
    (h : ∀ fuel, 2 * t.length + bound ≤ fuel → read (fuel + 1) t = .error (.malformed .expectingValue 0)) :
    BreaksOff (bound + 1) read t := by
  intro fuel hfuel
  cases fuel with
  | zero => cases hfuel
  | succ fuel => exact h fuel (Nat.le_of_succ_le_succ hfuel)

theorem skipGap_of_eq_nil_or_begins (h : t = [] ∨ Begins t) : skipGap t = t := by
  rcases h with rfl | h
  · rfl
  · exact skipGap_of_begins h

theorem closed?_of_eq_nil_or_begins (h : t = [] ∨ Begins t) : closed? (CodePoint.ofChar ']') t = none := by
  rcases h with rfl | h
  · rfl
  · exact h.closed?

theorem breaksOff_nil : BreaksOff 1 readValue [] := breaksOff_of_succ fun _ _ => rfl

/-- Reading a list breaks off where reading its items does. -/
theorem BreaksOff.list (h : BreaksOff 2 readItems before) (hbegins : before = [] ∨ Begins before) :
    BreaksOff 1 readValue (CodePoint.ofChar '[' :: before) := by
  refine breaksOff_of_succ fun fuel hfuel => ?_
  rw [readValue, if_neg (by decide), if_pos rfl, skipGap_of_eq_nil_or_begins hbegins,
    closed?_of_eq_nil_or_begins hbegins]
  dsimp only
  rw [h fuel hfuel]
  rfl

/-- Reading an object breaks off where reading its fields does. -/
theorem BreaksOff.object (h : BreaksOff 2 (readFields · []) (CodePoint.ofChar '"' :: before)) :
    BreaksOff 1 readValue (CodePoint.ofChar '\x7b' :: CodePoint.ofChar '"' :: before) := by
  refine breaksOff_of_succ fun fuel hfuel => ?_
  have hfields : readFields fuel [] (CodePoint.ofChar '"' :: before) = _ := h fuel hfuel
  rw [readValue, if_neg (by decide), if_neg (by decide), if_pos rfl]
  show (readFields fuel [] (CodePoint.ofChar '"' :: before) >>= _) = _
  rw [hfields]
  rfl

/-- Reading items breaks off in the first one, -/
theorem BreaksOff.items (h : BreaksOff 1 readValue before) : BreaksOff 2 readItems before := by
  refine breaksOff_of_succ fun fuel hfuel => ?_
  rw [readItems, h fuel hfuel]
  rfl

/-- or in a later one. -/
theorem BreaksOff.items_cons (h : BreaksOff 2 readItems before) (hbegins : before = [] ∨ Begins before)
    (hv : v.IsWritable) : BreaksOff 2 readItems (v.toText ++ (", " ++ before)) := by
  refine breaksOff_of_succ fun fuel hfuel => ?_
  -- What the item takes of the bound, its own length makes up for.
  have hlength : (v.toText ++ (Text.ofString ", " ++ before)).length = v.toText.length + (before.length + 2) :=
    List.length_append
  have hread : readValue fuel (v.toText ++ (", " ++ before)) = .ok (v.received, ", " ++ before) :=
    readsBack hv fuel _ (follows_cons (by decide)) (by omega)
  rw [readItems, hread]
  show (readItems fuel (skipGap before) >>= _) = _
  rw [skipGap_of_eq_nil_or_begins hbegins, h fuel (by omega)]
  rfl

/-- Reading fields breaks off in the value of the first one, -/
theorem BreaksOff.fields (h : BreaksOff 1 readValue before) (hbegins : before = [] ∨ Begins before) (name : Text)
    (known : List (Text × Value)) : BreaksOff 2 (readFields · known) (writeString name ++ ": " ++ before) := by
  refine breaksOff_of_succ fun fuel hfuel => ?_
  have hlength : (writeString name ++ ": " ++ before).length = _ := List.length_append
  show readFields (fuel + 1) known _ = _
  rw [readFields, readName_writeString name (skipGap_of_eq_nil_or_begins hbegins)]
  show (readValue fuel before >>= _) = _
  rw [h fuel (by omega)]
  rfl

/-- or in that of a later one. -/
theorem BreaksOff.fields_cons (h : ∀ known, BreaksOff 2 (readFields · known) before) (hgap : skipGap before = before)
    (hv : v.IsWritable) (name : Text) (known : List (Text × Value)) :
    BreaksOff 2 (readFields · known) (writeString name ++ ": " ++ v.toText ++ (", " ++ before)) := by
  refine breaksOff_of_succ fun fuel hfuel => ?_
  have hlength : (writeString name ++ ": " ++ (v.toText ++ (", " ++ before))).length = _ := List.length_append
  have hlength' : (v.toText ++ (Text.ofString ", " ++ before)).length = v.toText.length + (before.length + 2) :=
    List.length_append
  rw [List.append_assoc] at hfuel
  have hread : readValue fuel (v.toText ++ (", " ++ before)) = .ok (v.received, ", " ++ before) :=
    readsBack hv fuel _ (follows_cons (by decide)) (by omega)
  show readFields (fuel + 1) known _ = _
  rw [List.append_assoc, readFields, readName_writeString name (skipGap_of_begins ((begins_toText hv).append _))]
  show (readValue fuel (v.toText ++ (", " ++ before)) >>= _) = _
  rw [hread]
  show readFields fuel _ (skipGap before) = _
  rw [hgap]
  exact h _ fuel (by omega)

/-- Reading the text of a value breaks off at a bracket for which there is no room. -/
def Overruns (room : Nat) (v : Value) : Prop :=
  ∃ before bracket, StopsAt room v.toText before bracket ∧ (before = [] ∨ Begins before) ∧
    BreaksOff 1 readValue before

theorem overruns_items {items : List Value} (hwritable : ∀ v ∈ items, v.IsWritable)
    (hoverrun : ∀ v ∈ items, room < v.levels → Overruns room v) (hroom : room < itemsLevels items) :
    ∃ before bracket, StopsAt room (joinWith ", " (itemTexts items)) before bracket ∧
      (before = [] ∨ Begins before) ∧ BreaksOff 2 readItems before := by
  induction items with
  | nil => cases hroom
  | cons v items ih =>
    rw [List.forall_mem_cons] at hwritable hoverrun
    -- The bracket stands in the first item, or else this is read and the bracket stands in a later one.
    by_cases hv : room < v.levels
    · obtain ⟨before, bracket, hstops, hbegins, hbreaks⟩ := hoverrun.1 hv
      exact ⟨before, bracket, hstops.joinWith_cons _, hbegins, hbreaks.items⟩
    · have hmore : room < itemsLevels items := (lt_max_iff.1 hroom).resolve_left hv
      obtain ⟨before, bracket, hstops, hbegins, hbreaks⟩ := ih hwritable.2 hoverrun.2 hmore
      have hleads := leads_toText hwritable.1 (not_lt.1 hv)
      exact ⟨_, bracket, hleads.stopsAt_joinWith hstops, .inr ((begins_toText hwritable.1).append _),
        hbreaks.items_cons hbegins hwritable.1⟩

theorem overruns_fields {fields : List (Text × Value)} (hwritable : ∀ f ∈ fields, f.2.IsWritable)
    (hoverrun : ∀ f ∈ fields, room < f.2.levels → Overruns room f.2) (hroom : room < fieldsLevels fields) :
    ∃ before bracket, StopsAt room (joinWith ", " (fieldTexts fields)) before bracket ∧
      before.head? = some (CodePoint.ofChar '"') ∧ ∀ known, BreaksOff 2 (readFields · known) before := by
  induction fields with
  | nil => cases hroom
  | cons f fields ih =>
    obtain ⟨name, v⟩ := f
    rw [List.forall_mem_cons] at hwritable hoverrun
    have hname : Leads room .outside (writeString name ++ ": ") room .outside :=
      (leads_writeString name).append (leads_plain (by decide))
    -- As with items, but what stands before the bracket begins with a name in any case.
    by_cases hv : room < v.levels
    · obtain ⟨before, bracket, hstops, hbegins, hbreaks⟩ := hoverrun.1 hv
      exact ⟨_, bracket, (hname.stopsAt hstops).joinWith_cons _, rfl, hbreaks.fields hbegins name⟩
    · have hmore : room < fieldsLevels fields := (lt_max_iff.1 hroom).resolve_left hv
      obtain ⟨before, bracket, hstops, hhead, hbreaks⟩ := ih hwritable.2 hoverrun.2 hmore
      have hwritten : v.IsWritable := hwritable.1
      have hleads := hname.append (leads_toText hwritten (not_lt.1 hv))
      have hgap : skipGap before = before := by
        obtain ⟨u, rfl⟩ := List.head?_eq_some_iff.1 hhead
        rfl
      exact ⟨_, bracket, hleads.stopsAt_joinWith hstops, rfl, BreaksOff.fields_cons hbreaks hgap hwritten name⟩

theorem overruns_toText (h : v.IsWritable) (hroom : room < v.levels) : Overruns room v := by
  -- Either this value opens the level for which there is no room, or one inside it does, where there is less room.
  induction h generalizing room with
  | list items hitems ih =>
    cases room with
    | zero => exact ⟨[], CodePoint.ofChar '[', fun rest => rfl, .inl rfl, breaksOff_nil⟩
    | succ room =>
      obtain ⟨before, bracket, hstops, hbegins, hbreaks⟩ :=
        overruns_items hitems (fun v hv => ih v hv) (Nat.lt_of_succ_lt_succ hroom)
      exact ⟨_, bracket, ((leads_opening rfl).stopsAt hstops).append _,
        .inr ⟨_, _, rfl, by decide, by decide, by decide⟩, hbreaks.list hbegins⟩
  | object fields hfields ih =>
    cases room with
    | zero => exact ⟨[], CodePoint.ofChar '\x7b', fun rest => rfl, .inl rfl, breaksOff_nil⟩
    | succ room =>
      obtain ⟨before, bracket, hstops, hhead, hbreaks⟩ :=
        overruns_fields hfields (fun f hf => ih f hf) (Nat.lt_of_succ_lt_succ hroom)
      obtain ⟨u, rfl⟩ := List.head?_eq_some_iff.1 hhead
      exact ⟨_, bracket, ((leads_opening rfl).stopsAt hstops).append _,
        .inr ⟨_, _, rfl, by decide, by decide, by decide⟩, (hbreaks []).object⟩
  | _ => cases hroom

/-- **Room for a value**: the text of a value fits exactly if there is room for all its levels. -/
theorem fits_toText_iff (h : v.IsWritable) : Fits room v.toText ↔ v.levels ≤ room := by
  by_cases hroom : v.levels ≤ room
  · exact iff_of_true (leads_toText h hroom).fits hroom
  · obtain ⟨before, bracket, hstops, hbegins, hbreaks⟩ := overruns_toText h (not_le.1 hroom)
    -- The whole text is split where the reading of what stands before breaks off.
    have hsplit := hstops []
    rw [List.append_nil] at hsplit
    have hread : readDocument before = .error (.malformed .expectingValue 0) := by
      rcases hbegins with rfl | hbegins
      · rfl
      · rw [readDocument_of_begins hbegins, hbreaks _ (Nat.le_succ _)]
        rfl
    have hbroken : Json.breaksOff before = true := by
      rw [Json.breaksOff, hread]
      rfl
    rw [Fits, overrun?, hsplit, Option.bind_some]
    dsimp only
    rw [if_pos hbroken]
    exact iff_of_false nofun hroom

theorem exists_overrun (h : v.IsWritable) (hroom : room < v.levels) :
    ∃ bracket, overrun? room v.toText = some bracket :=
  Option.ne_none_iff_exists'.1 (mt (fits_toText_iff h).1 (not_le.2 hroom))

end Json

end CardPayments
