import CardPayments.Json.Reader
import CardPayments.Json.Writer
import CardPayments.Proofs.Text.Storable

/-!
# Written texts are read again

Halves of surrogate pairs are written as escapes, and two of them that make a pair are read as one code point.
So a written text is read as `Json.joined` of it (`Json.readString_escapes`), and as itself if no half stands
directly before its other half.  Texts that are read are of this kind, unless the document holds halves that
are not escaped (`Json.isWhole_of_readString`).
-/

namespace CardPayments

namespace Json

/-- A text as it is read again: two halves of a surrogate pair next to each other become one code point. -/
def joined : Text → Text
  | [] => []
  | [c] => [c]
  | high :: low :: rest =>
    if high.isHighSurrogate && low.isLowSurrogate then joinSurrogates high low :: joined rest
    else high :: joined (low :: rest)

/-- No first half of a surrogate pair stands directly before a second one. -/
def IsWhole (t : Text) : Prop := joined t = t

variable {opening n : Nat} {c d : CodePoint} {s t u left : Text}

/-! ### Halves of surrogate pairs -/

theorem value_ofNat (h : n < 0x110000) : (CodePoint.ofNat n).value = n := by
  rw [CodePoint.ofNat, dif_pos h]

theorem eq_of_value (h : c.value = d.value) : c = d := by
  cases c
  cases d
  cases h
  rfl

theorem ofNat_value (c : CodePoint) : CodePoint.ofNat c.value = c := eq_of_value (value_ofNat c.isLt)

theorem isHigh_iff : c.isHighSurrogate = true ↔ 0xD800 ≤ c.value ∧ c.value ≤ 0xDBFF := by
  rw [CodePoint.isHighSurrogate, Bool.and_eq_true, decide_eq_true_eq, decide_eq_true_eq]

theorem isLow_iff : c.isLowSurrogate = true ↔ 0xDC00 ≤ c.value ∧ c.value ≤ 0xDFFF := by
  rw [CodePoint.isLowSurrogate, Bool.and_eq_true, decide_eq_true_eq, decide_eq_true_eq]

theorem isSurrogate_iff : c.isSurrogate = true ↔ c.isHighSurrogate = true ∨ c.isLowSurrogate = true := by
  rw [CodePoint.isSurrogate, Bool.and_eq_true, decide_eq_true_eq, decide_eq_true_eq, isHigh_iff, isLow_iff]
  omega

theorem not_isLow_of_isHigh (h : c.isHighSurrogate = true) : ¬c.isLowSurrogate = true := by
  rw [isHigh_iff] at h
  rw [isLow_iff]
  omega

/-- The code point of a pair is no half of one. -/
theorem isSurrogate_joinSurrogates (hc : c.isHighSurrogate = true) (hd : d.isLowSurrogate = true) :
    ¬(joinSurrogates c d).isSurrogate = true := by
  rw [isHigh_iff] at hc
  rw [isLow_iff] at hd
  have hvalue : (joinSurrogates c d).value = _ := value_ofNat (by omega)
  rw [isSurrogate_iff, isHigh_iff, isLow_iff, hvalue]
  omega

/-! ### Escapes -/

theorem hexDigit?_digitChar : ∀ d < 16, (CodePoint.ofChar (Nat.digitChar d)).hexDigit? = some d := by
  decide

/-- The last hexadecimal digit stands behind the numeral of the others. -/
theorem ofNatHex_succ {k : Nat} (hk : 0 < k) (n : Nat) :
    Text.ofNatHex (k + 1) n = Text.ofNatHex k (n / 16) ++ [CodePoint.ofChar (Nat.digitChar (n % 16))] := by
  unfold Text.ofNatHex
  rw [Nat.toDigits_eq_if (by decide)]
  split_ifs with hone
  · have hzero : (Nat.toDigits 16 0).map CodePoint.ofChar = [CodePoint.ofChar '0'] := rfl
    have hsame : List.replicate k (CodePoint.ofChar '0') =
        List.replicate (k - 1) (CodePoint.ofChar '0') ++ [CodePoint.ofChar '0'] := by
      rw [← List.replicate_succ', Nat.sub_add_cancel hk]
    dsimp only
    rw [Nat.div_eq_of_lt hone, Nat.mod_eq_of_lt hone, hzero, List.length_singleton, ← hsame]
    rfl
  · dsimp only
    rw [List.map_append, List.length_append, List.map_singleton, List.length_singleton, Nat.add_sub_add_right,
      List.append_assoc]

theorem hexUnit?_ofNatHex (h : n < 0x10000) (u : Text) : hexUnit? (Text.ofNatHex 4 n ++ u) = some n := by
  have hfirst : Text.ofNatHex 1 (n / 16 / 16 / 16) = [CodePoint.ofChar (Nat.digitChar (n / 16 / 16 / 16))] := by
    unfold Text.ofNatHex
    rw [Nat.toDigits_of_lt_base (by omega)]
    rfl
  have hvalue : ((n / 16 / 16 / 16 * 16 + n / 16 / 16 % 16) * 16 + n / 16 % 16) * 16 + n % 16 = n := by
    omega
  rw [ofNatHex_succ (by decide), ofNatHex_succ (by decide), ofNatHex_succ (by decide), hfirst]
  show hexUnit? (_ :: _ :: _ :: _ :: u) = _
  unfold hexUnit?
  dsimp only
  rw [hexDigit?_digitChar _ (by omega), hexDigit?_digitChar _ (by omega), hexDigit?_digitChar _ (by omega),
    hexDigit?_digitChar _ (by omega)]
  exact congrArg some hvalue

theorem unitEscape_eq (n : Nat) :
    unitEscape n = CodePoint.ofChar '\\' :: CodePoint.ofChar 'u' :: Text.ofNatHex 4 n := rfl

theorem length_ofNatHex (h : n < 0x10000) : (Text.ofNatHex 4 n).length = 4 := by
  have hfirst : (Nat.toDigits 16 n).length ≤ 4 := (Nat.length_toDigits_le_iff (by decide) (by decide)).2 h
  unfold Text.ofNatHex
  rw [List.length_append, List.length_replicate, List.length_map]
  omega

/-- Code points that belong to an escape are skipped. -/
theorem readString_skip {k : Nat} (hk : k ≤ t.length) :
    readString opening k t = readString opening 0 (t.drop k) := by
  induction t generalizing k with
  | nil =>
    obtain rfl := Nat.le_zero.1 hk
    rfl
  | cons c t ih =>
    cases k with
    | zero => rfl
    | succ k =>
      rw [readString, if_pos (Nat.succ_pos k)]
      exact ih (Nat.le_of_succ_le_succ hk)

/-- What follows an escape is read on its own. -/
theorem readString_escape {size : Nat} (hescape : readEscape opening (s ++ u) = .ok (c, size))
    (hsize : s.length = size) (hu : readString opening 0 u = .ok (t, left)) :
    readString opening 0 (CodePoint.ofChar '\\' :: (s ++ u)) = .ok (c :: t, left) := by
  have hrest : readString opening size (s ++ u) = .ok (t, left) := by
    rw [readString_skip (by rw [List.length_append]; omega), List.drop_left' hsize]
    exact hu
  rw [readString, if_neg (by decide), if_neg (by decide), if_pos rfl, hescape]
  dsimp only
  rw [hrest]

/-- The escape of a unit is read as the unit, if it is not the first half of a pair. -/
theorem readEscape_unit (hn : n < 0x10000) (hu : u ≠ [])
    (halone : (CodePoint.ofNat n).isHighSurrogate = true → lowSurrogate? u = .ok none) :
    readEscape opening (CodePoint.ofChar 'u' :: Text.ofNatHex 4 n ++ u) = .ok (CodePoint.ofNat n, 5) := by
  have hlength := length_ofNatHex hn
  have hlong : ¬(Text.ofNatHex 4 n ++ u).length = 4 := by
    have hpos := List.length_pos_iff.2 hu
    rw [List.length_append]
    omega
  rw [List.cons_append, readEscape, if_pos rfl, hexUnit?_ofNatHex hn]
  dsimp only
  rw [if_neg hlong, List.drop_left' hlength]
  split_ifs with hhigh
  · rw [halone hhigh]
  · rfl

/-- The escape of the second half of a pair is found. -/
theorem lowSurrogate?_unit (hn : n < 0x10000) (hu : u ≠ []) :
    lowSurrogate? (unitEscape n ++ u) =
      .ok (if (CodePoint.ofNat n).isLowSurrogate then some (CodePoint.ofNat n) else none) := by
  have hlong : 4 < (Text.ofNatHex 4 n ++ u).length := by
    have hpos := List.length_pos_iff.2 hu
    rw [List.length_append, length_ofNatHex hn]
    omega
  show lowSurrogate? (CodePoint.ofChar '\\' :: CodePoint.ofChar 'u' :: (Text.ofNatHex 4 n ++ u)) = _
  rw [lowSurrogate?, if_pos ⟨rfl, rfl, hlong⟩, hexUnit?_ofNatHex hn]

/-- The escapes of both halves of a pair are read as its code point. -/
theorem readEscape_pair {m : Nat} (hn : n < 0x10000) (hm : m < 0x10000) (hu : u ≠ [])
    (hhigh : (CodePoint.ofNat n).isHighSurrogate = true) (hlow : (CodePoint.ofNat m).isLowSurrogate = true) :
    readEscape opening (CodePoint.ofChar 'u' :: Text.ofNatHex 4 n ++ unitEscape m ++ u) =
      .ok (joinSurrogates (CodePoint.ofNat n) (CodePoint.ofNat m), 11) := by
  have hlength := length_ofNatHex hn
  have hlong : ¬(Text.ofNatHex 4 n ++ (unitEscape m ++ u)).length = 4 := by
    rw [List.length_append, List.length_append]
    have hpos : 0 < (unitEscape m).length := Nat.succ_pos _
    omega
  rw [List.append_assoc, List.cons_append, readEscape, if_pos rfl, hexUnit?_ofNatHex hn]
  dsimp only
  rw [if_neg hlong, List.drop_left' hlength, if_pos hhigh, lowSurrogate?_unit hm hu, if_pos hlow]

/-- The ways in which a code point is written inside a text. -/
inductive Escaped (c : CodePoint) : Text → Prop where
  /-- As it is. -/
  | plain : c ≠ CodePoint.ofChar '"' → c ≠ CodePoint.ofChar '\\' → ¬c.value ≤ 0x1F → Escaped c [c]
  /-- By a letter behind a backslash. -/
  | short (letter : CodePoint) : letter ≠ CodePoint.ofChar 'u' → unescape? letter = some c →
      Escaped c [CodePoint.ofChar '\\', letter]
  /-- By its number. -/
  | unit : c.value < 0x10000 → Escaped c (unitEscape c.value)
  /-- By the numbers of two halves. -/
  | pair (high low : Nat) : high < 0x10000 → low < 0x10000 →
      (CodePoint.ofNat high).isHighSurrogate = true → (CodePoint.ofNat low).isLowSurrogate = true →
      joinSurrogates (CodePoint.ofNat high) (CodePoint.ofNat low) = c →
      Escaped c (unitEscape high ++ unitEscape low)

theorem escaped_escape (c : CodePoint) : Escaped c (escape c) := by
  have hvalue (n : Nat) (hn : n < 0x110000) (h : c.value = n) : some (CodePoint.ofNat n) = some c := by
    rw [← h, ofNat_value]
  unfold escape
  split_ifs with hquote hbackslash hplain hn hr ht hf hb hunit
  · exact .short _ (by decide) (by rw [hquote]; rfl)
  · exact .short _ (by decide) (by rw [hbackslash]; rfl)
  · exact .plain hquote hbackslash (by omega)
  · exact .short (CodePoint.ofChar 'n') (by decide) (by rw [hn]; rfl)
  · exact .short (CodePoint.ofChar 'r') (by decide) (by rw [hr]; rfl)
  · exact .short (CodePoint.ofChar 't') (by decide) (by rw [ht]; rfl)
  · exact .short (CodePoint.ofChar 'f') (by decide) (hvalue _ (by decide) hf)
  · exact .short (CodePoint.ofChar 'b') (by decide) (hvalue _ (by decide) hb)
  · exact .unit hunit
  · have hlt := c.isLt
    have hhigh := value_ofNat (n := 0xD800 + (c.value - 0x10000) / 0x400) (by omega)
    have hlow := value_ofNat (n := 0xDC00 + (c.value - 0x10000) % 0x400) (by omega)
    refine .pair _ _ (by omega) (by omega) ?_ ?_ (eq_of_value ?_)
    · rw [isHigh_iff, hhigh]
      omega
    · rw [isLow_iff, hlow]
      omega
    · rw [joinSurrogates, hhigh, hlow, value_ofNat (by omega)]
      omega

/-- A written code point is read as itself, if it is not the first half of a pair. -/
theorem readString_of_escaped (h : Escaped c s) (hu : u ≠ [])
    (halone : c.isHighSurrogate = true → lowSurrogate? u = .ok none)
    (hread : readString opening 0 u = .ok (t, left)) : readString opening 0 (s ++ u) = .ok (c :: t, left) := by
  cases h with
  | plain hquote hbackslash hcontrol =>
    rw [List.singleton_append, readString, if_neg (by decide), if_neg hquote, if_neg hbackslash, if_neg hcontrol,
      hread]
  | short letter hletter hc =>
    refine readString_escape (s := [letter]) ?_ rfl hread
    rw [List.singleton_append, readEscape, if_neg hletter, hc]
    rfl
  | unit hlt =>
    have hescape : readEscape opening (CodePoint.ofChar 'u' :: Text.ofNatHex 4 c.value ++ u) = .ok (c, 5) := by
      have hunit : readEscape opening _ = _ := readEscape_unit hlt hu (by rwa [ofNat_value])
      rwa [ofNat_value] at hunit
    exact readString_escape hescape (congrArg Nat.succ (length_ofNatHex hlt)) hread
  | pair high low hhigh hlow hfirst hsecond hc =>
    have hescape : readEscape opening
        (CodePoint.ofChar 'u' :: Text.ofNatHex 4 high ++ unitEscape low ++ u) = .ok (c, 11) := by
      rw [readEscape_pair hhigh hlow hu hfirst hsecond, hc]
    refine readString_escape (s := CodePoint.ofChar 'u' :: Text.ofNatHex 4 high ++ unitEscape low) hescape ?_ hread
    rw [unitEscape_eq, List.length_append, List.length_cons, List.length_cons, List.length_cons,
      length_ofNatHex hhigh, length_ofNatHex hlow]

/-- A backslash and the letter of a unit are what an escape of a second half begins with. -/
theorem lowSurrogate?_of_ne (h : c ≠ CodePoint.ofChar '\\' ∨ d ≠ CodePoint.ofChar 'u') :
    lowSurrogate? (c :: d :: u) = .ok none := by
  rw [lowSurrogate?, if_neg]
  rintro ⟨hc, hd, -⟩
  rcases h with h | h
  · exact h hc
  · exact h hd

/-- A written code point is no second half of a pair, unless it is one itself. -/
theorem lowSurrogate?_of_escaped (h : Escaped c s) (hu : u ≠ []) (hc : ¬c.isLowSurrogate = true) :
    lowSurrogate? (s ++ u) = .ok none := by
  cases h with
  | plain hquote hbackslash hcontrol =>
    obtain ⟨d, rest, rfl⟩ := List.exists_cons_of_ne_nil hu
    exact lowSurrogate?_of_ne (.inl hbackslash)
  | short letter hletter hletterOf => exact lowSurrogate?_of_ne (.inr hletter)
  | unit hlt =>
    rw [lowSurrogate?_unit hlt hu, ofNat_value, if_neg hc]
  | pair high low hhigh hlow hfirst hsecond hpair =>
    have hrest : unitEscape low ++ u ≠ [] := List.cons_ne_nil _ _
    rw [List.append_assoc, lowSurrogate?_unit hhigh hrest, if_neg (not_isLow_of_isHigh hfirst)]

/-- Half of a pair is written by its number. -/
theorem escape_of_isSurrogate (h : c.isSurrogate = true) :
    escape c = unitEscape c.value ∧ c.value < 0x10000 := by
  rw [isSurrogate_iff, isHigh_iff, isLow_iff] at h
  have hne (d : CodePoint) (hd : d.value < 0xD800) : c ≠ d := by
    rintro rfl
    omega
  have hlt : c.value < 0x10000 := by omega
  refine ⟨?_, hlt⟩
  rw [escape, if_neg (hne _ (by decide)), if_neg (hne _ (by decide)), if_neg (by omega),
    if_neg (hne _ (by decide)), if_neg (hne _ (by decide)), if_neg (hne _ (by decide)), if_neg (by omega),
    if_neg (by omega), if_pos hlt]

/-- A code point beyond U+FFFF is written like the two halves of its pair. -/
theorem escape_joinSurrogates (hc : c.isHighSurrogate = true) (hd : d.isLowSurrogate = true) :
    escape (joinSurrogates c d) = escape c ++ escape d := by
  have hfirst := (escape_of_isSurrogate (isSurrogate_iff.2 (.inl hc))).1
  have hsecond := (escape_of_isSurrogate (isSurrogate_iff.2 (.inr hd))).1
  rw [isHigh_iff] at hc
  rw [isLow_iff] at hd
  have hvalue : (joinSurrogates c d).value = 0x10000 + (c.value - 0xD800) * 0x400 + (d.value - 0xDC00) :=
    value_ofNat (by omega)
  have hne (e : CodePoint) (he : e.value < 0x10000) : joinSurrogates c d ≠ e := by
    rintro rfl
    omega
  have hhigh : 0xD800 + ((joinSurrogates c d).value - 0x10000) / 0x400 = c.value := by omega
  have hlow : 0xDC00 + ((joinSurrogates c d).value - 0x10000) % 0x400 = d.value := by omega
  rw [hfirst, hsecond, escape, if_neg (hne _ (by decide)), if_neg (hne _ (by decide)), if_neg (by omega),
    if_neg (hne _ (by decide)), if_neg (hne _ (by decide)), if_neg (hne _ (by decide)), if_neg (by omega),
    if_neg (by omega), if_neg (by omega), hhigh, hlow]

/-- Whether the halves of pairs are joined or not, a text is written in the same way. -/
theorem writeString_joined (t : Text) : writeString (joined t) = writeString t := by
  have hescapes : (joined t).flatMap escape = t.flatMap escape := by
    induction t using joined.induct with
    | case1 => rfl
    | case2 c => rfl
    | case3 high low t hpair ih =>
      obtain ⟨hhigh, hlow⟩ := Bool.and_eq_true_iff.1 hpair
      rw [joined, if_pos hpair, List.flatMap_cons, List.flatMap_cons, List.flatMap_cons,
        escape_joinSurrogates hhigh hlow, ih, List.append_assoc]
    | case4 high low t hpair ih => rw [joined, if_neg hpair, List.flatMap_cons, List.flatMap_cons, ih]
  rw [writeString, writeString, hescapes]

/-- **Written texts are read again**, with the halves of pairs joined. -/
theorem readString_escapes (opening : Nat) (t rest : Text) :
    readString opening 0 (t.flatMap escape ++ CodePoint.ofChar '"' :: rest) = .ok (joined t, rest) := by
  have hne (s : Text) : s ++ CodePoint.ofChar '"' :: rest ≠ [] :=
    List.append_ne_nil_of_right_ne_nil s (List.cons_ne_nil _ _)
  have hend : readString opening 0 (CodePoint.ofChar '"' :: rest) = .ok ([], rest) := rfl
  have hquote : lowSurrogate? (CodePoint.ofChar '"' :: rest) = .ok none := by
    cases rest with
    | nil => rfl
    | cons d rest => exact lowSurrogate?_of_ne (.inl (by decide))
  induction t using joined.induct with
  | case1 => exact hend
  | case2 c =>
    rw [List.flatMap_singleton]
    exact readString_of_escaped (escaped_escape c) (List.cons_ne_nil _ _) (fun _ => hquote) hend
  | case3 high low t hpair ih =>
    obtain ⟨hhigh, hlow⟩ := Bool.and_eq_true_iff.1 hpair
    obtain ⟨hfirst, hhighlt⟩ := escape_of_isSurrogate (isSurrogate_iff.2 (.inl hhigh))
    obtain ⟨hsecond, hlowlt⟩ := escape_of_isSurrogate (isSurrogate_iff.2 (.inr hlow))
    have hescaped : Escaped (joinSurrogates high low) (unitEscape high.value ++ unitEscape low.value) :=
      .pair _ _ hhighlt hlowlt (by rwa [ofNat_value]) (by rwa [ofNat_value]) (by rw [ofNat_value, ofNat_value])
    rw [joined, if_pos hpair, List.flatMap_cons, List.flatMap_cons, hfirst, hsecond, ← List.append_assoc,
      List.append_assoc]
    -- The code point of the pair is not itself the first half of another one.
    refine readString_of_escaped hescaped (hne _) (fun h => ?_) ih
    exact absurd (isSurrogate_iff.2 (.inl h)) (isSurrogate_joinSurrogates hhigh hlow)
  | case4 high low t hpair ih =>
    rw [joined, if_neg hpair, List.flatMap_cons, List.append_assoc]
    refine readString_of_escaped (escaped_escape high) (hne _) (fun hhigh => ?_) ih
    rw [List.flatMap_cons, List.append_assoc]
    refine lowSurrogate?_of_escaped (escaped_escape low) (hne _) ?_
    rwa [hhigh, Bool.true_and] at hpair

/-! ### Texts that are read -/

theorem IsWhole.cons (h : IsWhole t) (halone : c.isHighSurrogate = true →
    ∀ d, t.head? = some d → ¬d.isLowSurrogate = true) : IsWhole (c :: t) := by
  cases t with
  | nil => rfl
  | cons d t =>
    rw [IsWhole, joined, if_neg, h]
    rw [Bool.and_eq_true]
    rintro ⟨hhigh, hlow⟩
    exact halone hhigh d rfl hlow

/-- A text that can be stored is whole. -/
theorem isWhole_of_isStorable (h : t.IsStorable) : IsWhole t := by
  induction t with
  | nil => rfl
  | cons c t ih =>
    obtain ⟨hc, ht⟩ := Text.isStorable_cons.1 h
    refine (ih ht).cons fun hhigh => ?_
    rw [isSurrogate_iff.2 (.inl hhigh)] at hc
    cases hc

theorem length_of_hexUnit? (h : hexUnit? t = some n) : 4 ≤ t.length := by
  match t with
  | _ :: _ :: _ :: _ :: rest => exact Nat.le_add_left 4 rest.length
  | [] | [_] | [_, _] | [_, _, _] => cases h

theorem isLow_of_lowSurrogate? (h : lowSurrogate? t = .ok (some d)) : d.isLowSurrogate = true := by
  unfold lowSurrogate? at h
  split at h
  · split_ifs at h
    · split at h
      · cases h
      · obtain ⟨hlow, hsome⟩ := Option.ite_none_right_eq_some.1 (Except.ok.inj h)
        rwa [← Option.some.inj hsome]
    · cases h
  · cases h

/-- The letters behind a backslash denote no halves. -/
theorem not_isSurrogate_of_unescape? (h : unescape? d = some c) : ¬c.isSurrogate = true := by
  unfold unescape? at h
  split_ifs at h with hself
  · rw [← Option.some.inj h]
    rcases hself with rfl | rfl | rfl <;> decide
  all_goals
    rw [← Option.some.inj h]
    decide

/-- The escape of a unit denotes no half because it is one of a pair, or it denotes the unit alone. -/
theorem readEscape_unit_cases {size : Nat} (h : readEscape opening (CodePoint.ofChar 'u' :: u) = .ok (c, size)) :
    ¬c.isSurrogate = true ∨ ∃ n, size = 5 ∧ 4 < u.length ∧ hexUnit? u = some n ∧ c = CodePoint.ofNat n ∧
      (c.isHighSurrogate = true → lowSurrogate? (u.drop 4) = .ok none) := by
  rw [readEscape, if_pos rfl] at h
  cases hunit : hexUnit? u with
  | none =>
    rw [hunit] at h
    cases h
  | some n =>
    rw [hunit] at h
    dsimp only at h
    by_cases hshort : u.length = 4
    · rw [if_pos hshort] at h
      cases h
    have hlength : 4 < u.length := Nat.lt_of_le_of_ne (length_of_hexUnit? hunit) (Ne.symm hshort)
    rw [if_neg hshort] at h
    by_cases hhigh : (CodePoint.ofNat n).isHighSurrogate = true
    · rw [if_pos hhigh] at h
      cases hnext : lowSurrogate? (u.drop 4) with
      | error stop =>
        rw [hnext] at h
        cases h
      | ok low =>
        rw [hnext] at h
        cases low with
        | none =>
          obtain ⟨rfl, rfl⟩ := Prod.mk.inj (Except.ok.inj h)
          exact .inr ⟨n, rfl, hlength, rfl, rfl, fun _ => rfl⟩
        | some low =>
          obtain ⟨rfl, rfl⟩ := Prod.mk.inj (Except.ok.inj h)
          exact .inl (isSurrogate_joinSurrogates hhigh (isLow_of_lowSurrogate? hnext))
    · rw [if_neg hhigh] at h
      obtain ⟨rfl, rfl⟩ := Prod.mk.inj (Except.ok.inj h)
      exact .inr ⟨n, rfl, hlength, rfl, rfl, fun h => absurd h hhigh⟩

/-- An escape denotes no half, or it is one of a unit, and no second half follows a first one. -/
theorem readEscape_cases {size : Nat} (h : readEscape opening t = .ok (c, size)) :
    ¬c.isSurrogate = true ∨ ∃ rest n, t = CodePoint.ofChar 'u' :: rest ∧ size = 5 ∧ 4 < rest.length ∧
      hexUnit? rest = some n ∧ c = CodePoint.ofNat n ∧
      (c.isHighSurrogate = true → lowSurrogate? (rest.drop 4) = .ok none) := by
  cases t with
  | nil => cases h
  | cons e rest =>
    by_cases he : e = CodePoint.ofChar 'u'
    · subst he
      rcases readEscape_unit_cases h with hc | ⟨n, hsize, hlength, hunit, hc, halone⟩
      · exact .inl hc
      · exact .inr ⟨rest, n, rfl, hsize, hlength, hunit, hc, halone⟩
    · rw [readEscape, if_neg he] at h
      cases hletter : unescape? e with
      | none =>
        rw [hletter] at h
        cases h
      | some d =>
        rw [hletter] at h
        cases h
        exact .inl (not_isSurrogate_of_unescape? hletter)

/-- A text that is read is empty, or begins with a code point as it stands, or with an escape. -/
theorem readString_cases (h : readString opening 0 (c :: u) = .ok (t, left)) :
    t = [] ∧ left = u ∨
      (∃ rest, readString opening 0 u = .ok (rest, left) ∧ t = c :: rest) ∨
      c = CodePoint.ofChar '\\' ∧ ∃ d size rest, readEscape opening u = .ok (d, size) ∧
        readString opening size u = .ok (rest, left) ∧ t = d :: rest := by
  rw [readString, if_neg (by decide)] at h
  split_ifs at h with hquote hbackslash
  · cases h
    exact .inl ⟨rfl, rfl⟩
  · right
    right
    cases hescape : readEscape opening u with
    | error stop =>
      rw [hescape] at h
      cases h
    | ok escaped =>
      rw [hescape] at h
      dsimp only at h
      cases hrest : readString opening escaped.2 u with
      | error stop =>
        rw [hrest] at h
        cases h
      | ok rest =>
        rw [hrest] at h
        cases h
        exact ⟨hbackslash, _, _, _, rfl, hrest, rfl⟩
  · right
    left
    cases hrest : readString opening 0 u with
    | error stop =>
      rw [hrest] at h
      cases h
    | ok rest =>
      rw [hrest] at h
      cases h
      exact ⟨_, rfl, rfl⟩

/-- The first code point of a text is no second half, if no escape in front of it denotes one. -/
theorem not_isLow_of_readString (hu : u.IsStorable) (halone : lowSurrogate? u = .ok none)
    (h : readString opening 0 u = .ok (t, left)) : ∀ d, t.head? = some d → ¬d.isLowSurrogate = true := by
  cases u with
  | nil => cases h
  | cons c u =>
    rcases readString_cases h with ⟨rfl, -⟩ | ⟨rest, -, rfl⟩ | ⟨rfl, d, size, rest, hescape, -, rfl⟩
    · exact nofun
    · rintro _ ⟨⟩ hlow
      have hc := hu c List.mem_cons_self
      rw [isSurrogate_iff.2 (.inr hlow)] at hc
      cases hc
    · rintro _ ⟨⟩ hlow
      rcases readEscape_cases hescape with hd | ⟨digits, n, rfl, -, hlength, hunit, rfl, -⟩
      · exact hd (isSurrogate_iff.2 (.inr hlow))
      · rw [lowSurrogate?, if_pos ⟨rfl, rfl, hlength⟩, hunit] at halone
        dsimp only at halone
        rw [if_pos hlow] at halone
        cases halone

/-- What is left behind a text was there before. -/
theorem isSuffix_of_readString {k : Nat} (h : readString opening k u = .ok (t, left)) : left <:+ u := by
  induction u generalizing k t with
  | nil => cases h
  | cons c u ih =>
    by_cases hk : 0 < k
    · rw [readString, if_pos hk] at h
      exact List.IsSuffix.trans (ih h) (List.suffix_cons c u)
    · obtain rfl : k = 0 := by omega
      rcases readString_cases h with ⟨-, rfl⟩ | ⟨rest, hread, -⟩ | ⟨-, d, size, rest, -, hread, -⟩
      · exact List.suffix_cons c left
      · exact List.IsSuffix.trans (ih hread) (List.suffix_cons c u)
      · exact List.IsSuffix.trans (ih hread) (List.suffix_cons c u)

/-- **Texts that are read are whole**, if the document holds no halves of pairs but in escapes. -/
theorem isWhole_of_readString {k : Nat} (hu : u.IsStorable) (h : readString opening k u = .ok (t, left)) :
    IsWhole t := by
  induction u generalizing k t with
  | nil => cases h
  | cons c u ih =>
    obtain ⟨hc, hrest⟩ := Text.isStorable_cons.1 hu
    by_cases hk : 0 < k
    · rw [readString, if_pos hk] at h
      exact ih hrest h
    · obtain rfl : k = 0 := by omega
      rcases readString_cases h with ⟨rfl, -⟩ | ⟨rest, hread, rfl⟩ | ⟨rfl, d, size, rest, hescape, hread, rfl⟩
      · rfl
      · refine (ih hrest hread).cons fun hhigh => ?_
        rw [isSurrogate_iff.2 (.inl hhigh)] at hc
        cases hc
      · -- A first half that is escaped has no escape of a second half behind it.
        refine (ih hrest hread).cons fun hhigh => ?_
        rcases readEscape_cases hescape with hd | ⟨digits, n, rfl, rfl, hlength, -, -, halone⟩
        · exact absurd (isSurrogate_iff.2 (.inl hhigh)) hd
        · rw [readString_skip (Nat.succ_le_of_lt (Nat.lt_succ_of_lt hlength))] at hread
          exact not_isLow_of_readString ((Text.isStorable_cons.1 hrest).2.drop 4) (halone hhigh) hread

end Json

end CardPayments
