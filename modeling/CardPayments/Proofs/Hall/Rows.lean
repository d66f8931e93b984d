import CardPayments.Proofs.Payment.Owners

/-!
# What a shared store holds

When payments are taken at the same time, what the store holds does not follow from where one payment began
and ended.  It follows from what was done: every group of rows that was taken is there under the key that was
answered (`Undergoes.find?_inserted`), a payment method perhaps with an owner (`Undergoes.find?_method`); keys
are given once (`Numbering.eq_of_key`); and a customer that was not there before was written by someone
(`Undergoes.mem_customers`).
-/

namespace CardPayments

namespace Table

variable {ρ : Type} [Keyed ρ] {t : Table ρ} {id k : Nat} {change : ρ → ρ}

theorem IsSorted.isKeyed (h : t.IsSorted) : t.IsKeyed := by
  refine ⟨h.fresh, ?_⟩
  rw [List.Nodup, List.pairwise_map]
  exact h.sorted.imp Nat.ne_of_lt

theorem key_ite (hkey : ∀ r, Keyed.key (change r) = Keyed.key r) (r : ρ) :
    Keyed.key (if Keyed.key r = k then change r else r) = Keyed.key r := by
  split_ifs
  · exact hkey r
  · rfl

theorem IsSorted.modify (h : t.IsSorted) (hkey : ∀ r, Keyed.key (change r) = Keyed.key r) :
    (t.modify k change).IsSorted := by
  refine ⟨h.fresh.modify hkey, ?_⟩
  show (t.rows.map fun r => if Keyed.key r = k then change r else r).Pairwise _
  rw [List.pairwise_map]
  simpa only [key_ite hkey] using h.sorted

/-- A change by a key is seen under this key only. -/
theorem find?_modify (hkey : ∀ r, Keyed.key (change r) = Keyed.key r) :
    (t.modify k change).find? id = (t.find? id).map fun r => if id = k then change r else r := by
  show (t.rows.map fun r => if Keyed.key r = k then change r else r).find? _ = _
  rw [List.find?_map]
  simp only [Function.comp_def, key_ite hkey]
  refine Option.map_congr fun r hr => ?_
  have hid : Keyed.key r = id := key_of_find? hr
  rw [hid]

/-- A row that was gained was not there before. -/
theorem not_mem_of_mem_since {before : Table ρ} {r : ρ} (ht : t.IsSorted) (h : before.rows <+: t.rows)
    (hr : r ∈ t.since before) : r ∉ before.rows := by
  intro hold
  have hsorted := ht.sorted
  rw [rows_eq_append_since h, List.pairwise_append] at hsorted
  exact absurd (hsorted.2.2 r hold r hr) (lt_irrefl _)

end Table

/-! ### Rows and deeds -/

/-- A payment method is as it was, or one of the deeds gave it an owner that can be stored. -/
def MethodRow.Becomes (r : MethodRow) (ds : List Deed) (r' : MethodRow) : Prop :=
  r' = r ∨ ∃ who now, .write (.owner r.id who now) (.ok (some r.id)) ∈ ds ∧
    Write.AreSound (ownerStamp who now).fields ∧ r' = r.stamped (ownerStamp who now)

/-- One of the deeds wrote a customer. -/
def CustomerRow.IsWritten (c : CustomerRow) (ds : List Deed) : Prop :=
  ∃ d now, .write (.customer d now) (.ok (some c.id)) ∈ ds ∧ c = d.row c.id

section

variable {r r' : MethodRow} {c : CustomerRow} {ds ds' : List Deed}

theorem MethodRow.Becomes.mono (h : r.Becomes ds r') (hds : ds ⊆ ds') : r.Becomes ds' r' :=
  h.imp_right fun ⟨who, now, hd, hrest⟩ => ⟨who, now, hds hd, hrest⟩

theorem MethodRow.Becomes.cons (h : r.Becomes ds r') (d : Deed) : r.Becomes (d :: ds) r' :=
  h.mono (List.subset_cons_self d ds)

theorem CustomerRow.IsWritten.cons (h : c.IsWritten ds) (d : Deed) : c.IsWritten (d :: ds) := by
  obtain ⟨draft, now, hd, hrow⟩ := h
  exact ⟨draft, now, List.mem_cons_of_mem d hd, hrow⟩

/-- The instant at which an owner that can be stored is given is one of the calendar. -/
theorem isOk_of_areSound_ownerStamp {who : Offer} {now : DateTime}
    (h : Write.AreSound (ownerStamp who now).fields) : (Offer.toUniversal now).isOk = true := by
  simp only [Write.AreSound, ownerStamp, AuditDraft.fields, List.forall_mem_cons,
    Field.isSound_instant] at h
  exact h.2.2.2.1

end

namespace Store

variable {s t u : Store} {ds : List Deed} {w : Write} {key : Option Nat}

/-- What every group of rows keeps that is among the deeds and fit to be written, all of the deeds keep. -/
theorem Undergoes.keeps {P : Store → Prop} (h : s.Undergoes ds t) (hs : P s)
    (hstep : ∀ {w u}, .write w (.ok (w.key? u)) ∈ ds → w.IsFit u → P u → P (w.effect u)) : P t := by
  induction h with
  | nil s => exact hs
  | call c reply _ ih => exact ih hs fun hd => hstep (List.mem_cons_of_mem _ hd)
  | lookup name email _ ih => exact ih hs fun hd => hstep (List.mem_cons_of_mem _ hd)
  | refused _ _ ih => exact ih hs fun hd => hstep (List.mem_cons_of_mem _ hd)
  | taken hw _ ih =>
    obtain ⟨hfit, rfl, rfl⟩ := Write.apply_eq_ok.1 hw
    exact ih (hstep List.mem_cons_self hfit hs) fun hd => hstep (List.mem_cons_of_mem _ hd)

/-! ### Tables that only grow -/

/-- Another store has all rows of a store as they are, but perhaps for the payment methods. -/
structure Grows (s t : Store) : Prop where
  providers : t.providers = s.providers
  customers : s.customers.rows <+: t.customers.rows
  keyInfos : s.keyInfos.rows <+: t.keyInfos.rows
  transactions : s.transactions.rows <+: t.transactions.rows
  histories : s.histories.rows <+: t.histories.rows
  logs : s.logs.rows <+: t.logs.rows
  details : s.details.rows <+: t.details.rows

theorem Grows.refl (s : Store) : s.Grows s :=
  ⟨rfl, List.prefix_rfl, List.prefix_rfl, List.prefix_rfl, List.prefix_rfl, List.prefix_rfl,
    List.prefix_rfl⟩

theorem Grows.trans (h : s.Grows t) (h' : t.Grows u) : s.Grows u where
  providers := h'.providers.trans h.providers
  customers := h.customers.trans h'.customers
  keyInfos := h.keyInfos.trans h'.keyInfos
  transactions := h.transactions.trans h'.transactions
  histories := h.histories.trans h'.histories
  logs := h.logs.trans h'.logs
  details := h.details.trans h'.details

theorem grows_effect (w : Write) (s : Store) : s.Grows (w.effect s) := by
  cases w with
  | method d => exact { Grows.refl s with }
  | customer d now =>
    exact { Grows.refl s with
      customers := List.prefix_append _ _
      keyInfos := List.prefix_append _ _ }
  | owner id who now => exact { Grows.refl s with }
  | transaction d notes now =>
    exact { Grows.refl s with
      transactions := List.prefix_append _ _
      histories := List.prefix_append _ _ }
  | log d request answer now =>
    exact { Grows.refl s with
      logs := List.prefix_append _ _
      details := List.prefix_append _ _ }

theorem Undergoes.grows (h : s.Undergoes ds t) : s.Grows t :=
  h.keeps (.refl s) fun _ _ hu => hu.trans (grows_effect _ _)

/-! ### Orderly stores -/

/-- A store as a database keeps it: the rows that payments write stand in the order of their keys, and the
names and addresses of the customers are texts that can be stored. -/
structure IsOrderly (s : Store) : Prop where
  methods : s.methods.IsSorted
  customers : s.customers.IsSorted
  transactions : s.transactions.IsSorted
  logs : s.logs.IsSorted
  storable : ∀ c ∈ s.customers.rows, c.name.IsStorable ∧ c.email.IsStorable

/-- The name and the address of a customer that is written can be stored. -/
theorem isStorable_row {d : CustomerDraft} {now : DateTime} (hfit : (Write.customer d now).IsFit s)
    (id : Nat) : (d.row id).name.IsStorable ∧ (d.row id).email.IsStorable := by
  have htext {column : Text} {o : Offer} (h : (Field.text column true o).IsSound) :
      o.requiredText.IsStorable := by
    obtain ⟨hstorable, hsome⟩ := Field.isSound_text.1 h
    obtain ⟨t, ht⟩ := Option.isSome_iff_exists.1 (hsome rfl)
    rw [Offer.requiredText, ht]
    exact hstorable t ht
  have hsound := hfit.1
  simp only [Write.AreSound, CustomerDraft.fields, AuditDraft.fields, List.cons_append, List.nil_append,
    List.forall_mem_cons] at hsound
  obtain ⟨_, _, _, _, _, hname, hemail, _⟩ := hsound
  exact ⟨htext hname, htext hemail⟩

theorem IsOrderly.effect (h : s.IsOrderly) (hfit : w.IsFit s) : (w.effect s).IsOrderly := by
  cases w with
  | method d => exact { h with methods := h.methods.insert rfl }
  | customer d now =>
    refine { h with customers := h.customers.insert rfl, storable := fun c hc => ?_ }
    rcases List.mem_append.1 hc with hc | hc
    · exact h.storable c hc
    · rw [List.mem_singleton.1 hc]
      exact isStorable_row hfit _
  | owner id who now =>
    exact { h with methods := h.methods.modify fun r => Write.key_stamped r (ownerStamp who now) }
  | transaction d notes now => exact { h with transactions := h.transactions.insert rfl }
  | log d request answer now => exact { h with logs := h.logs.insert rfl }

theorem Undergoes.isOrderly (h : s.Undergoes ds t) (hs : s.IsOrderly) : t.IsOrderly :=
  h.keeps hs fun _ hfit hu => hu.effect hfit

/-! ### Groups of rows that were taken -/

/-- The moment at which a group of rows was taken. -/
theorem Undergoes.exists_taken (h : s.Undergoes ds t) (hd : .write w (.ok key) ∈ ds) :
    ∃ u before after, ds = before ++ .write w (.ok key) :: after ∧ s.Undergoes before u ∧ w.IsFit u ∧
      key = w.key? u ∧ (w.effect u).Undergoes after t := by
  obtain ⟨before, after, rfl⟩ := List.append_of_mem hd
  obtain ⟨u, hbefore, hrest⟩ := undergoes_append.1 h
  obtain ⟨hfit, hkey, hafter⟩ := undergoes_written.1 hrest
  exact ⟨u, before, after, rfl, hbefore, hfit, hkey, hafter⟩

/-- A row that was added to a table that only grows is found under the key that was answered. -/
theorem Undergoes.find?_inserted {ρ : Type} [Keyed ρ] {make : Nat → ρ} {k : Nat} (h : s.Undergoes ds t)
    (table : Store → Table ρ) (hs : s.IsOrderly) (hd : .write w (.ok (some k)) ∈ ds)
    (hgrows : ∀ {u v : Store}, u.Grows v → (table u).rows <+: (table v).rows)
    (hsorted : ∀ {u : Store}, u.IsOrderly → (table u).IsSorted)
    (heffect : ∀ u, table (w.effect u) = (table u).insert make)
    (hkey : ∀ u, w.key? u = some (table u).next) (hmake : ∀ id, Keyed.key (make id) = id) :
    (table t).find? k = some (make k) := by
  obtain ⟨u, before, after, rfl, hbefore, _, hk, hafter⟩ := h.exists_taken hd
  obtain rfl : k = (table u).next := Option.some.inj (hk.trans (hkey u))
  have hthere : (table (w.effect u)).find? (table u).next = some (make (table u).next) := by
    rw [heffect]
    exact (hsorted (hbefore.isOrderly hs)).isKeyed.find?_insert (hmake _)
  exact Table.find?_of_prefix (hgrows hafter.grows) hthere

variable {k : Nat}

theorem Undergoes.find?_customer {d : CustomerDraft} {now : DateTime} (h : s.Undergoes ds t)
    (hs : s.IsOrderly) (hd : .write (.customer d now) (.ok (some k)) ∈ ds) :
    t.customers.find? k = some (d.row k) :=
  h.find?_inserted Store.customers hs hd Grows.customers IsOrderly.customers (fun _ => rfl)
    (fun _ => rfl) fun _ => rfl

theorem Undergoes.find?_transaction {d : TransactionDraft} {notes : Json.Value} {now : DateTime}
    (h : s.Undergoes ds t) (hs : s.IsOrderly)
    (hd : .write (.transaction d notes now) (.ok (some k)) ∈ ds) :
    t.transactions.find? k = some (d.row k) :=
  h.find?_inserted Store.transactions hs hd Grows.transactions IsOrderly.transactions
    (fun _ => rfl) (fun _ => rfl) fun _ => rfl

theorem Undergoes.find?_log {d : LogDraft} {request answer : Json.Value} {now : DateTime}
    (h : s.Undergoes ds t) (hs : s.IsOrderly)
    (hd : .write (.log d request answer now) (.ok (some k)) ∈ ds) :
    t.logs.find? k = some (d.row k) :=
  h.find?_inserted Store.logs hs hd Grows.logs IsOrderly.logs (fun _ => rfl) (fun _ => rfl)
    fun _ => rfl

/-! ### Keys -/

/-- The keys that are given to the groups of rows of one kind, one after the other. -/
structure Numbering where
  /-- The key that is given next. -/
  next : Store → Nat
  /-- Is a group of the kind? -/
  Counts : Write → Prop
  key?_eq : ∀ {w s}, Counts w → w.key? s = some (next s)
  next_effect : ∀ {w s}, Counts w → next (w.effect s) = next s + 1
  next_effect_of_not : ∀ {w s}, ¬Counts w → next (w.effect s) = next s

namespace Numbering

/-- The keys of payment methods. -/
def ofMethods : Numbering where
  next s := s.methods.next
  Counts w := ∃ d, w = .method d
  key?_eq := by
    rintro _ s ⟨d, rfl⟩
    rfl
  next_effect := by
    rintro _ s ⟨d, rfl⟩
    rfl
  next_effect_of_not := by
    rintro w s hw
    cases w with
    | method d => exact absurd ⟨d, rfl⟩ hw
    | _ => rfl

/-- The keys of customers. -/
def ofCustomers : Numbering where
  next s := s.customers.next
  Counts w := ∃ d now, w = .customer d now
  key?_eq := by
    rintro _ s ⟨d, now, rfl⟩
    rfl
  next_effect := by
    rintro _ s ⟨d, now, rfl⟩
    rfl
  next_effect_of_not := by
    rintro w s hw
    cases w with
    | customer d now => exact absurd ⟨d, now, rfl⟩ hw
    | _ => rfl

variable (N : Numbering) {k : Nat}

theorem next_le_effect (w : Write) (s : Store) : N.next s ≤ N.next (w.effect s) := by
  by_cases hw : N.Counts w
  · rw [N.next_effect hw]
    exact Nat.le_succ _
  · exact (N.next_effect_of_not hw).ge

theorem next_le (h : s.Undergoes ds t) : N.next s ≤ N.next t :=
  h.keeps (P := fun u => N.next s ≤ N.next u) le_rfl fun _ _ hu => hu.trans (N.next_le_effect _ _)

/-- A group of the kind gets a key that lies between the first one that was free and the last one. -/
theorem key_bounds (h : s.Undergoes ds t) (hw : N.Counts w) (hd : .write w (.ok (some k)) ∈ ds) :
    N.next s ≤ k ∧ k < N.next t := by
  obtain ⟨u, before, after, rfl, hbefore, _, hkey, hafter⟩ := h.exists_taken hd
  obtain rfl : k = N.next u := Option.some.inj (hkey.trans (N.key?_eq hw))
  have hlater := N.next_le hafter
  rw [N.next_effect hw] at hlater
  exact ⟨N.next_le hbefore, hlater⟩

/-- A group of the kind is never taken without a key. -/
theorem exists_key (h : s.Undergoes ds t) (hw : N.Counts w) (hd : .write w (.ok key) ∈ ds) :
    ∃ k, key = some k := by
  obtain ⟨u, before, after, rfl, hbefore, _, hkey, hafter⟩ := h.exists_taken hd
  exact ⟨_, hkey.trans (N.key?_eq hw)⟩

/-- A key is given once: whoever wrote groups of the kind under the same key is the same one. -/
theorem eq_of_key {ι : Type} {past : List (ι × Deed)} (h : s.Undergoes (past.map Prod.snd) t) {i j : ι}
    {w' : Write} (hw : N.Counts w) (hw' : N.Counts w')
    (hi : (i, .write w (.ok (some k))) ∈ past) (hj : (j, .write w' (.ok (some k))) ∈ past) : i = j := by
  obtain ⟨before, after, rfl⟩ := List.append_of_mem hi
  rw [List.map_append, List.map_cons] at h
  obtain ⟨u, hbefore, hrest⟩ := undergoes_append.1 h
  obtain ⟨_, hkey, hafter⟩ := undergoes_written.1 hrest
  obtain rfl : k = N.next u := Option.some.inj (hkey.trans (N.key?_eq hw))
  -- Smaller keys were given before, and greater ones after.
  rcases List.mem_append.1 hj with hj | hj
  · have hsmaller := (N.key_bounds hbefore hw' (List.mem_map_of_mem hj)).2
    exact absurd hsmaller (lt_irrefl _)
  · rcases List.mem_cons.1 hj with hsame | hj
    · exact (Prod.mk.inj hsame).1.symm
    · have hgreater := (N.key_bounds hafter hw' (List.mem_map_of_mem hj)).1
      rw [N.next_effect hw] at hgreater
      exact absurd hgreater (Nat.not_succ_le_self _)

end Numbering

/-! ### Payment methods -/

/-- A payment method stays, and what it becomes is owed to the deeds. -/
theorem Undergoes.find?_methods (h : s.Undergoes ds t) {r : MethodRow}
    (hr : s.methods.find? k = some r) : ∃ r', t.methods.find? k = some r' ∧ r.Becomes ds r' := by
  induction h generalizing r with
  | nil s => exact ⟨r, hr, .inl rfl⟩
  | call c reply _ ih => exact (ih hr).imp fun r' h => ⟨h.1, h.2.cons _⟩
  | lookup name email _ ih => exact (ih hr).imp fun r' h => ⟨h.1, h.2.cons _⟩
  | refused _ _ ih => exact (ih hr).imp fun r' h => ⟨h.1, h.2.cons _⟩
  | @taken s _ _ ds w key hw _ ih =>
    obtain ⟨hfit, hkey, rfl⟩ := Write.apply_eq_ok.1 hw
    obtain rfl : r.id = k := Table.key_of_find? hr
    by_cases howner : ∃ who now, w = .owner r.id who now
    · obtain ⟨who, now, rfl⟩ := howner
      have hthere : s.methods.has r.id = true := by
        rw [Table.has, hr]
        rfl
      rw [Write.key?, if_pos hthere] at hkey
      subst hkey
      have hstamped : ((Write.owner r.id who now).effect s).methods.find? r.id =
          some (r.stamped (ownerStamp who now)) := by
        rw [Write.effect, Table.find?_modify fun r => Write.key_stamped r _, hr, Option.map_some,
          if_pos rfl]
      -- If there is another owner later, nothing of this one is left.
      obtain ⟨r', hr', rfl | ⟨who', now', hd, hsound, rfl⟩⟩ := ih hstamped
      · exact ⟨_, hr', .inr ⟨who, now, List.mem_cons_self, hfit hthere, rfl⟩⟩
      · exact ⟨_, hr', .inr ⟨who', now', List.mem_cons_of_mem _ hd, hsound, rfl⟩⟩
    · have hsame : (w.effect s).methods.find? r.id = some r := by
        cases w with
        | method d => exact Table.find?_of_prefix (List.prefix_append _ _) hr
        | owner id who now =>
          have hne : r.id ≠ id := by
            rintro rfl
            exact howner ⟨who, now, rfl⟩
          rw [Write.effect, Table.find?_modify fun r => Write.key_stamped r _, hr, Option.map_some,
            if_neg hne]
        | _ => exact hr
      exact (ih hsame).imp fun r' h => ⟨h.1, h.2.cons _⟩

/-- A payment method that was written is found under the key that was answered. -/
theorem Undergoes.find?_method {d : MethodDraft} (h : s.Undergoes ds t) (hs : s.IsOrderly)
    (hd : .write (.method d) (.ok (some k)) ∈ ds) :
    ∃ r, t.methods.find? k = some r ∧ (d.row k).Becomes ds r := by
  obtain ⟨u, before, after, rfl, hbefore, _, hk, hafter⟩ := h.exists_taken hd
  obtain rfl : k = u.methods.next := Option.some.inj hk
  have hthere : (u.methods.insert d.row).find? u.methods.next = some (d.row u.methods.next) :=
    (hbefore.isOrderly hs).methods.isKeyed.find?_insert rfl
  obtain ⟨r, hr, hbecomes⟩ := hafter.find?_methods hthere
  exact ⟨r, hr, hbecomes.mono fun x hx => List.mem_append_right _ (List.mem_cons_of_mem _ hx)⟩

/-- A payment method to which an owner was given has this one, or one that was given to it later. -/
theorem Undergoes.find?_owned {who : Offer} {now : DateTime} {key : Nat} (h : s.Undergoes ds t)
    (hd : .write (.owner k who now) (.ok (some key)) ∈ ds) :
    ∃ (r : MethodRow) (who' : Offer) (now' : DateTime),
      t.methods.find? k = some (r.stamped (ownerStamp who' now')) ∧
      .write (.owner k who' now') (.ok (some k)) ∈ ds ∧ Write.AreSound (ownerStamp who' now').fields := by
  obtain ⟨u, before, after, rfl, hbefore, hfit, hkey, hafter⟩ := h.exists_taken hd
  have hthere : u.methods.has k = true := by
    by_contra hgone
    rw [Write.key?, if_neg hgone] at hkey
    cases hkey
  obtain rfl : key = k := by
    rw [Write.key?, if_pos hthere] at hkey
    exact Option.some.inj hkey
  obtain ⟨r, hr⟩ := Option.isSome_iff_exists.1 hthere
  obtain rfl : r.id = key := Table.key_of_find? hr
  have hstamped : ((Write.owner r.id who now).effect u).methods.find? r.id =
      some (r.stamped (ownerStamp who now)) := by
    rw [Write.effect, Table.find?_modify fun r => Write.key_stamped r _, hr, Option.map_some, if_pos rfl]
  obtain ⟨r', hr', rfl | ⟨who', now', hlater, hsound, rfl⟩⟩ := hafter.find?_methods hstamped
  · exact ⟨r, who, now, hr', hd, hfit hthere⟩
  · exact ⟨_, who', now', hr', List.mem_append_right _ (List.mem_cons_of_mem _ hlater), hsound⟩

/-- All rows stay as they are, as long as only payment methods that came later get an owner. -/
theorem Undergoes.extends (h : s.Undergoes ds t) (hs : s.methods.IsFresh)
    (hspares : ∀ {w key}, .write w (.ok (some key)) ∈ ds → w.SparesBelow s.methods.next) : s.Extends t := by
  refine h.keeps (.refl s) fun {w u} hd _ hu => ?_
  cases hkey : w.key? u with
  | some key =>
    rw [hkey] at hd
    exact hu.effect hs (hspares hd)
  | none =>
    rw [Write.effect_of_key?_eq_none hkey]
    exact hu

/-! ### Customers -/

/-- A customer was there before, or one of the deeds wrote it. -/
theorem Undergoes.mem_customers (h : s.Undergoes ds t) {c : CustomerRow} (hc : c ∈ t.customers.rows) :
    c ∈ s.customers.rows ∨ c.IsWritten ds := by
  induction h with
  | nil s => exact .inl hc
  | call _ _ _ ih => exact (ih hc).imp_right fun h => h.cons _
  | lookup _ _ _ ih => exact (ih hc).imp_right fun h => h.cons _
  | refused _ _ ih => exact (ih hc).imp_right fun h => h.cons _
  | @taken s _ _ ds w key hw _ ih =>
    obtain ⟨_, rfl, rfl⟩ := Write.apply_eq_ok.1 hw
    rcases ih hc with hold | hwritten
    · cases w with
      | customer d now =>
        rcases List.mem_append.1 hold with hold | hnew
        · exact .inl hold
        · obtain rfl := List.mem_singleton.1 hnew
          exact .inr ⟨d, now, List.mem_cons_self, rfl⟩
      | _ => exact .inl hold
    · exact .inr (hwritten.cons _)

/-- A customer that was found is there. -/
theorem Undergoes.mem_of_lookup {name email : Text} {c : CustomerRow} (h : s.Undergoes ds t)
    (hd : .lookup name email (.ok (some c)) ∈ ds) :
    c ∈ t.customers.rows ∧ c.name = name ∧ c.email = email := by
  obtain ⟨before, after, rfl⟩ := List.append_of_mem hd
  obtain ⟨u, _, hrest⟩ := undergoes_append.1 h
  obtain ⟨hanswer, hafter⟩ := undergoes_lookup.1 hrest
  obtain ⟨hmem, hpair⟩ := findCustomer?_eq_some (askCustomer_eq_ok hanswer.symm).symm
  exact ⟨hafter.grows.customers.subset hmem, hpair⟩

/-- Once there is a customer of a name and an address, the oldest one is found. -/
theorem IsOrderly.askCustomer (hs : s.IsOrderly) {c : CustomerRow} (hc : c ∈ s.customers.rows) :
    ∃ r ∈ s.customers.rows, s.askCustomer c.name c.email = .ok (some r) ∧
      (r.name = c.name ∧ r.email = c.email) ∧
      ∀ r' ∈ s.customers.rows, r'.name = c.name → r'.email = c.email → r.id ≤ r'.id := by
  obtain ⟨found, hanswer⟩ := askCustomer_isOk_iff.2 (hs.storable c hc)
  have hfound := askCustomer_eq_ok hanswer
  cases found with
  | none => exact absurd ⟨rfl, rfl⟩ (findCustomer?_eq_none.1 hfound.symm c hc)
  | some r =>
    have holdest := isOldestCustomer_of_findCustomerWith (fun _ => decide_eq_true rfl) hfound.symm
    exact ⟨r, holdest.mem, hanswer, ⟨holdest.name_eq, holdest.email_eq⟩, holdest.le⟩

end Store

end CardPayments
