import CardPayments.Proofs.Store.Column
import CardPayments.Proofs.Store.Table
import CardPayments.Store.Query
import Mathlib.Data.List.Sort

/-!
# Looking for a customer

A customer is looked for among candidates that are gathered by any comparison of texts, in whatever order the rows
come.  What is found depends on neither: it is the oldest row with exactly the given name and address
(`Store.IsOldestCustomer`), and nothing is found if and only if there is no such row (`Store.findsExactly`).  Only
a text that holds half of a surrogate pair cannot be looked for at all (`Store.trial_unaskable`).
-/

namespace CardPayments

namespace Store

/-! ### Rows by age -/

section Age

variable {ρ : Type} [Keyed ρ] {rows : List ρ} {p : ρ → Bool} {r r' : ρ}

/-- Is the one row not younger than the other? -/
def NotYounger (r r' : ρ) : Prop := Keyed.key r ≤ Keyed.key r'

instance : DecidableRel (NotYounger (ρ := ρ)) := fun r r' => Nat.decLe (Keyed.key r) (Keyed.key r')

instance : Std.Total (NotYounger (ρ := ρ)) := ⟨fun r r' => Nat.le_total (Keyed.key r) (Keyed.key r')⟩

instance : IsTrans ρ NotYounger := ⟨fun _ _ _ => Nat.le_trans⟩

/-- The rows are put in order by inserting one after the other. -/
theorem oldestFirst_eq_insertionSort : oldestFirst rows = rows.insertionSort NotYounger := by
  have hinsert (r : ρ) (rows : List ρ) : insertByKey r rows = rows.orderedInsert NotYounger r := by
    induction rows with
    | nil => rfl
    | cons first rest ih =>
      rw [insertByKey, ih]
      rfl
  induction rows with
  | nil => rfl
  | cons r rows ih =>
    rw [List.insertionSort_cons, ← ih, ← hinsert]
    rfl

theorem perm_oldestFirst : (oldestFirst rows).Perm rows := by
  rw [oldestFirst_eq_insertionSort]
  exact List.perm_insertionSort _ _

theorem mem_oldestFirst : r ∈ oldestFirst rows ↔ r ∈ rows := perm_oldestFirst.mem_iff

theorem pairwise_oldestFirst : (oldestFirst rows).Pairwise NotYounger := by
  rw [oldestFirst_eq_insertionSort]
  exact List.pairwise_insertionSort _ _

/-- Rows with keys of their own stand in the order of their keys. -/
theorem pairwise_lt_oldestFirst (h : (rows.map Keyed.key).Nodup) :
    (oldestFirst rows).Pairwise fun r r' => Keyed.key r < Keyed.key r' := by
  have hdistinct : ((oldestFirst rows).map Keyed.key).Nodup := (perm_oldestFirst.map _).nodup_iff.2 h
  exact pairwise_oldestFirst.imp₂ (fun _ _ => lt_of_le_of_ne) (List.pairwise_map.1 hdistinct)

/-- The order of rows depends on nothing but their keys. -/
theorem oldestFirst_map {f : ρ → ρ} (hkey : ∀ r, Keyed.key (f r) = Keyed.key r) :
    oldestFirst (rows.map f) = (oldestFirst rows).map f := by
  have hinsert (r : ρ) (rows : List ρ) : insertByKey (f r) (rows.map f) = (insertByKey r rows).map f := by
    induction rows with
    | nil => rfl
    | cons first rest ih =>
      simp only [List.map_cons, insertByKey, hkey]
      split_ifs
      · rfl
      · rw [ih, List.map_cons]
  induction rows with
  | nil => rfl
  | cons r rows ih =>
    show insertByKey (f r) (oldestFirst (rows.map f)) = _
    rw [ih, hinsert]
    rfl

/-- The first row with a property, by age, is not younger than any other one with it. -/
theorem find?_oldestFirst_eq_some (h : (oldestFirst rows).find? p = some r) :
    r ∈ rows ∧ p r = true ∧ ∀ r' ∈ rows, p r' = true → NotYounger r r' := by
  refine ⟨mem_oldestFirst.1 (List.mem_of_find?_eq_some h), List.find?_some h, fun r' hr' hp => ?_⟩
  obtain ⟨-, older, younger, hrows, holder⟩ := List.find?_eq_some_iff_append.1 h
  have hsorted : (oldestFirst rows).Pairwise NotYounger := pairwise_oldestFirst
  rw [hrows, List.pairwise_append, List.pairwise_cons] at hsorted
  have hmem := mem_oldestFirst.2 hr'
  rw [hrows] at hmem
  rcases List.mem_append.1 hmem with hmem | hmem
  · -- No row before it has the property.
    have hnot := holder r' hmem
    rw [hp] at hnot
    cases hnot
  · rcases List.mem_cons.1 hmem with rfl | hmem
    · exact Nat.le_refl _
    · exact hsorted.2.1.1 r' hmem

theorem find?_oldestFirst_eq_none : (oldestFirst rows).find? p = none ↔ ∀ r ∈ rows, ¬p r = true := by
  rw [List.find?_eq_none]
  exact ⟨fun h r hr => h r (mem_oldestFirst.2 hr), fun h r hr => h r (mem_oldestFirst.1 hr)⟩

end Age

/-! ### The customer of a name and an address -/

variable {s : Store} {alike : Text → Text → Bool} {name email : Text} {r : CustomerRow}

/-- The row is the oldest one with exactly the given name and address. -/
structure IsOldestCustomer (s : Store) (name email : Text) (r : CustomerRow) : Prop where
  mem : r ∈ s.customers.rows
  name_eq : r.name = name
  email_eq : r.email = email
  le : ∀ r' ∈ s.customers.rows, r'.name = name → r'.email = email → r.id ≤ r'.id

/-- As keys are distinct, only one row is the oldest. -/
theorem IsOldestCustomer.eq (hkeys : (s.customers.rows.map CustomerRow.id).Nodup)
    (hr : s.IsOldestCustomer name email r) {r' : CustomerRow} (hr' : s.IsOldestCustomer name email r') :
    r = r' :=
  List.inj_on_of_nodup_map hkeys hr.mem hr'.mem
    (Nat.le_antisymm (hr.le r' hr'.mem hr'.name_eq hr'.email_eq) (hr'.le r hr.mem hr.name_eq hr.email_eq))

/-- The candidates of a comparison by which every text is like itself hold all rows of the name and address. -/
theorem mem_candidates (halike : ∀ t, alike t t = true) (hr : r ∈ s.customers.rows) (hname : r.name = name)
    (hemail : r.email = email) :
    r ∈ s.customers.rows.filter fun r => alike r.name name && alike r.email email := by
  refine List.mem_filter.2 ⟨hr, ?_⟩
  rw [hname, hemail, halike, halike]
  rfl

/-- What is found is the oldest customer of the name and address. -/
theorem isOldestCustomer_of_findCustomerWith (halike : ∀ t, alike t t = true)
    (h : s.findCustomerWith alike name email = some r) : s.IsOldestCustomer name email r := by
  obtain ⟨hmem, hexact, hle⟩ := find?_oldestFirst_eq_some h
  obtain ⟨hname, hemail⟩ := of_decide_eq_true hexact
  refine ⟨(List.mem_filter.1 hmem).1, hname, hemail, fun r' hr' hname' hemail' => ?_⟩
  exact hle r' (mem_candidates halike hr' hname' hemail') (decide_eq_true ⟨hname', hemail'⟩)

theorem findCustomerWith_eq_none (halike : ∀ t, alike t t = true) :
    s.findCustomerWith alike name email = none ↔
      ∀ r ∈ s.customers.rows, ¬(r.name = name ∧ r.email = email) := by
  rw [findCustomerWith, find?_oldestFirst_eq_none]
  constructor
  · rintro h r hr ⟨hname, hemail⟩
    exact h r (mem_candidates halike hr hname hemail) (decide_eq_true ⟨hname, hemail⟩)
  · intro h r hr hexact
    exact h r (List.mem_filter.1 hr).1 (of_decide_eq_true hexact)

/-- The oldest customer of the name and address is found. -/
theorem findCustomerWith_eq_some_iff (hkeys : (s.customers.rows.map CustomerRow.id).Nodup)
    (halike : ∀ t, alike t t = true) :
    s.findCustomerWith alike name email = some r ↔ s.IsOldestCustomer name email r := by
  refine ⟨isOldestCustomer_of_findCustomerWith halike, fun hr => ?_⟩
  cases hfound : s.findCustomerWith alike name email with
  | none => exact absurd ⟨hr.name_eq, hr.email_eq⟩ ((findCustomerWith_eq_none halike).1 hfound r hr.mem)
  | some r' => rw [hr.eq hkeys (isOldestCustomer_of_findCustomerWith halike hfound)]

/-! ### Texts that cannot be looked for -/

/-- A text that cannot be stored is refused for the first half of a surrogate pair in it. -/
theorem exists_textFault {t : Text} (h : ¬t.IsStorable) :
    ∃ unit position count, Offer.textFault t = some (.unencodable unit position count) := by
  rw [← Offer.textFault_eq_none] at h
  unfold Offer.textFault at h ⊢
  dsimp only at h ⊢
  split at h
  · exact absurd rfl h
  · exact ⟨_, _, _, rfl⟩

theorem askCustomer_of_isStorable (hname : name.IsStorable) (hemail : email.IsStorable) :
    s.askCustomer name email = .ok (s.findCustomer? name email) := by
  rw [askCustomer, Offer.textFault_eq_none.2 hname, Offer.textFault_eq_none.2 hemail]
  rfl

theorem askCustomer_of_not_isStorable (h : ¬(name.IsStorable ∧ email.IsStorable)) :
    ∃ unit position count, s.askCustomer name email = .error (.unencodable unit position count) := by
  by_cases hemail : email.IsStorable
  · obtain ⟨unit, position, count, hfault⟩ := exists_textFault fun hname => h ⟨hname, hemail⟩
    exact ⟨unit, position, count, by rw [askCustomer, Offer.textFault_eq_none.2 hemail, hfault]; rfl⟩
  · obtain ⟨unit, position, count, hfault⟩ := exists_textFault hemail
    exact ⟨unit, position, count, by rw [askCustomer, hfault]; rfl⟩

/-! ### The main statement -/

/-- What is to be said of looking for a name and an address among the candidates of a comparison of texts. -/
structure FindsExactly (alike : Text → Text → Bool) (s : Store) (name email : Text) : Prop where
  /-- What the store answers is what is found, whatever the comparison. -/
  answer : name.IsStorable → email.IsStorable →
    s.askCustomer name email = .ok (s.findCustomerWith alike name email)
  /-- Texts that cannot be stored are refused. -/
  refused : ¬(name.IsStorable ∧ email.IsStorable) →
    ∃ unit position count, s.askCustomer name email = .error (.unencodable unit position count)
  /-- The oldest row of exactly the name and the address is found. -/
  found_iff : ∀ r, s.findCustomerWith alike name email = some r ↔ s.IsOldestCustomer name email r
  /-- Nothing is found exactly when there is no such row. -/
  notFound_iff : s.findCustomerWith alike name email = none ↔
    ∀ r ∈ s.customers.rows, ¬(r.name = name ∧ r.email = email)
  /-- Another comparison of texts, and another order of the rows, lead to the same. -/
  same : ∀ (alike' : Text → Text → Bool) (t : Store), (∀ u, alike' u u = true) →
    t.customers.rows.Perm s.customers.rows →
      t.findCustomerWith alike' name email = s.findCustomerWith alike name email

/-- The oldest customer is the same one in another order of the rows. -/
theorem isOldestCustomer_of_perm {t : Store} (h : t.customers.rows.Perm s.customers.rows) :
    t.IsOldestCustomer name email r ↔ s.IsOldestCustomer name email r := by
  constructor
  · rintro ⟨hmem, hname, hemail, hle⟩
    exact ⟨h.mem_iff.1 hmem, hname, hemail, fun r' hr' => hle r' (h.mem_iff.2 hr')⟩
  · rintro ⟨hmem, hname, hemail, hle⟩
    exact ⟨h.mem_iff.2 hmem, hname, hemail, fun r' hr' => hle r' (h.mem_iff.1 hr')⟩

theorem findCustomerWith_of_perm (hkeys : (s.customers.rows.map CustomerRow.id).Nodup)
    (halike : ∀ t, alike t t = true) {alike' : Text → Text → Bool} (halike' : ∀ t, alike' t t = true) {t : Store}
    (h : t.customers.rows.Perm s.customers.rows) :
    t.findCustomerWith alike' name email = s.findCustomerWith alike name email := by
  have hkeys' : (t.customers.rows.map CustomerRow.id).Nodup := (h.map _).nodup_iff.2 hkeys
  refine Option.ext fun r => ?_
  rw [findCustomerWith_eq_some_iff hkeys' halike', findCustomerWith_eq_some_iff hkeys halike,
    isOldestCustomer_of_perm h]

/-- **Looking for a customer is exact**: whatever the comparison of texts by which candidates are gathered, as long
as every text is like itself, and whatever the order of the rows, the oldest customer of exactly the given name and
address is found, and nobody if and only if there is none.  All texts can be looked for that can be stored. -/
theorem findsExactly {s : Store} (hkeys : (s.customers.rows.map CustomerRow.id).Nodup)
    {alike : Text → Text → Bool} (halike : ∀ t, alike t t = true) (name email : Text) :
    s.FindsExactly alike name email where
  answer hname hemail := by
    rw [askCustomer_of_isStorable hname hemail]
    exact congrArg _ (findCustomerWith_of_perm hkeys halike (fun _ => decide_eq_true rfl) (List.Perm.refl _))
  refused := askCustomer_of_not_isStorable
  found_iff r := findCustomerWith_eq_some_iff hkeys halike
  notFound_iff := findCustomerWith_eq_none halike
  same _ _ halike' hperm := findCustomerWith_of_perm hkeys halike halike' hperm

/-! ### Trials -/

/-- A comparison that does not see the case of letters. -/
def trialAlike (t u : Text) : Bool := t.map CodePoint.asciiLower = u.map CodePoint.asciiLower

/-- A customer with a key, a name and an address. -/
def trialCustomer (id : Nat) (name email : Text) : CustomerRow :=
  ⟨id, ⟨none, none, none, none⟩, "MX", name, email, "", "", 1⟩

/-- Two customers of one name and address, the younger one first, among others that differ in the case of letters. -/
def trialCustomers : Store :=
  { Store.empty with customers := ⟨[trialCustomer 9 "Ana" "a@x.mx", trialCustomer 2 "ANA" "a@x.mx",
      trialCustomer 5 "Ana" "a@x.mx", trialCustomer 7 "ana" "a@x.mx", trialCustomer 1 "Ana" "A@x.mx"], 10⟩ }

theorem trial_findsExactly :
    (trialCustomers.customers.rows.map CustomerRow.id).Nodup ∧ (∀ t, trialAlike t t = true) ∧
      trialCustomers.findCustomerWith trialAlike "Ana" "a@x.mx" = some (trialCustomer 5 "Ana" "a@x.mx") ∧
      trialCustomers.FindsExactly trialAlike "Ana" "a@x.mx" := by
  have hkeys : (trialCustomers.customers.rows.map CustomerRow.id).Nodup := by decide
  have halike (t : Text) : trialAlike t t = true := decide_eq_true rfl
  refine ⟨hkeys, halike, ?_, findsExactly hkeys halike _ _⟩
  decide +kernel

/-- Nobody has half of a surrogate pair for a name, and still the store does not answer that there is nobody. -/
theorem trial_unaskable :
    (∀ r ∈ trialCustomers.customers.rows, ¬(r.name = [CodePoint.ofNat 0xD800] ∧ r.email = "a@x.mx")) ∧
      trialCustomers.askCustomer [CodePoint.ofNat 0xD800] "a@x.mx" =
        .error (.unencodable (CodePoint.ofNat 0xD800) 0 1) := by
  refine ⟨by decide +kernel, ?_⟩
  rfl

end Store

end CardPayments
