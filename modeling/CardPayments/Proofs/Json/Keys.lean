import CardPayments.Proofs.Json.Readable

/-!
# Keys at any level

`Value.HasKey` says that a value, or an object somewhere inside it, has a field of a name.  A value that is
written and read again has no other keys than before (`Value.hasKey_of_received`): only a pair of halves could
make a new name, and what it makes lies beyond the first plane.
-/

namespace CardPayments

namespace Json

open Text

variable {t key : Text}

/-- A text that is read as one of the first plane was that text. -/
theorem eq_of_joined (hkey : ∀ c ∈ key, c.value < 0x10000) (h : joined t = key) : t = key := by
  induction t using joined.induct generalizing key with
  | case1 => exact h
  | case2 c => exact h
  | case3 high low t hpair ih =>
    rw [joined, if_pos hpair] at h
    obtain ⟨hhigh, hlow⟩ := Bool.and_eq_true_iff.1 hpair
    rw [isHigh_iff] at hhigh
    rw [isLow_iff] at hlow
    have hvalue : (joinSurrogates high low).value = _ := value_ofNat (by omega)
    have hplane := hkey (joinSurrogates high low) (by rw [← h]; exact List.mem_cons_self)
    omega
  | case4 high low t hpair ih =>
    rw [joined, if_neg hpair] at h
    subst h
    rw [← ih (List.forall_mem_cons.1 hkey).2 rfl]

namespace Value

/-- A value, or an object somewhere inside it, has a field of a name. -/
inductive HasKey (key : Text) : Value → Prop where
  /-- The value itself has it. -/
  | here {fields : List (Text × Value)} {v : Value} : (key, v) ∈ fields → HasKey key (object fields)
  /-- It is inside the value of a field. -/
  | field {fields : List (Text × Value)} {f : Text × Value} :
      f ∈ fields → HasKey key f.2 → HasKey key (object fields)
  /-- It is inside an item. -/
  | item {items : List Value} {v : Value} : v ∈ items → HasKey key v → HasKey key (list items)

variable {v : Value}

theorem mem_itemsReceived {items : List Value} {w : Value} (h : w ∈ itemsReceived items) :
    ∃ v ∈ items, w = v.received := by
  induction items with
  | nil => cases h
  | cons v items ih =>
    rcases List.mem_cons.1 h with rfl | h
    · exact ⟨v, List.mem_cons_self, rfl⟩
    · obtain ⟨v, hv, hw⟩ := ih h
      exact ⟨v, List.mem_cons_of_mem _ hv, hw⟩

theorem mem_fieldsReceived {fields : List (Text × Value)} {f : Text × Value} (h : f ∈ fieldsReceived fields) :
    ∃ g ∈ fields, f = (joined g.1, g.2.received) := by
  induction fields with
  | nil => cases h
  | cons g fields ih =>
    rcases List.mem_cons.1 h with rfl | h
    · exact ⟨g, List.mem_cons_self, rfl⟩
    · obtain ⟨g, hg, hf⟩ := ih h
      exact ⟨g, List.mem_cons_of_mem _ hg, hf⟩

theorem mem_foldl_insertField {fields before : List (Text × Value)} {f : Text × Value}
    (h : f ∈ fields.foldl (fun fields f => insertField f.1 f.2 fields) before) : f ∈ before ∨ f ∈ fields := by
  induction fields generalizing before with
  | nil => exact .inl h
  | cons g fields ih =>
    rcases ih h with h | h
    · rcases mem_insertField h with rfl | h
      · exact .inr List.mem_cons_self
      · exact .inl h
    · exact .inr (List.mem_cons_of_mem _ h)

/-- Whatever field an object is received with was one of its fields. -/
theorem exists_of_mem_received {fields received : List (Text × Value)} {f : Text × Value}
    (h : (object fields).received = object received) (hf : f ∈ received) :
    ∃ g ∈ fields, f = (joined g.1, g.2.received) := by
  rw [Value.received, object.injEq] at h
  rw [← h] at hf
  rcases mem_foldl_insertField hf with hf | hf
  · cases hf
  · exact mem_fieldsReceived hf

/-- **No new keys**: a name of the first plane that a received value has at some level, the value had. -/
theorem hasKey_of_received (hkey : ∀ c ∈ key, c.value < 0x10000) (h : v.received.HasKey key) : v.HasKey key := by
  generalize hw : v.received = w at h
  -- The induction is on where the key is in what was received.
  induction h generalizing v with
  | here hmem =>
    cases v with
    | object fields =>
      obtain ⟨g, hg, hpair⟩ := exists_of_mem_received hw hmem
      have hname : g.1 = key := eq_of_joined hkey (congrArg Prod.fst hpair).symm
      refine .here (v := g.2) ?_
      rw [← hname]
      exact hg
    | _ => cases hw
  | field hmem _ ih =>
    cases v with
    | object fields =>
      obtain ⟨g, hg, rfl⟩ := exists_of_mem_received hw hmem
      exact .field hg (ih rfl)
    | _ => cases hw
  | item hmem _ ih =>
    cases v with
    | list items =>
      rw [Value.received, list.injEq] at hw
      rw [← hw] at hmem
      obtain ⟨v, hv, rfl⟩ := mem_itemsReceived hmem
      exact .item hv (ih rfl)
    | _ => cases hw

end Value

end Json

end CardPayments
