import CardPayments.Store.Table
import Mathlib.Data.List.Basic
import Mathlib.Data.List.Nodup
import Mathlib.Tactic.Common

/-!
# Tables as they grow

Which keys a table has after a row was added or changed.  `Table.IsFresh` says that the key of the next
row is not given yet; adding and changing rows keep it, so that a change by a key that was just given
leaves all older rows as they are (`Table.modify_insert`).  `Table.since` is what a table has gained.
-/

namespace CardPayments

namespace Table

variable {ρ : Type} [Keyed ρ] {t : Table ρ} {id : Nat} {make : Nat → ρ} {change : ρ → ρ}

theorem has_iff : t.has id = true ↔ ∃ r ∈ t.rows, Keyed.key r = id := by
  unfold has find?
  rw [List.find?_isSome]
  simp only [decide_eq_true_eq]

/-- A row that is added is there under its key, and so are the older ones. -/
theorem has_insert :
    (t.insert make).has id = true ↔ t.has id = true ∨ Keyed.key (make t.next) = id := by
  simp only [has_iff, insert, List.mem_append, List.mem_singleton]
  constructor
  · rintro ⟨r, hr | rfl, h⟩
    · exact .inl ⟨r, hr, h⟩
    · exact .inr h
  · rintro (⟨r, hr, h⟩ | h)
    · exact ⟨r, .inl hr, h⟩
    · exact ⟨_, .inr rfl, h⟩

/-- A change that keeps the keys changes nothing about which keys there are. -/
theorem has_modify {k : Nat} (hkey : ∀ r, Keyed.key (change r) = Keyed.key r) :
    (t.modify k change).has id = t.has id := by
  rw [Bool.eq_iff_iff, has_iff, has_iff]
  simp only [modify, List.mem_map]
  constructor
  · rintro ⟨_, ⟨r, hr, rfl⟩, h⟩
    refine ⟨r, hr, ?_⟩
    split_ifs at h
    · rw [← hkey r, h]
    · exact h
  · rintro ⟨r, hr, rfl⟩
    refine ⟨_, ⟨r, hr, rfl⟩, ?_⟩
    split_ifs
    · exact hkey r
    · rfl

/-- Without a row of the key there is nothing to change. -/
theorem modify_of_not_has (h : t.has id = false) : t.modify id change = t := by
  have hrows : (t.rows.map fun r => if Keyed.key r = id then change r else r) = t.rows := by
    refine (List.map_congr_left fun r hr => if_neg fun hk => ?_).trans (List.map_id' _)
    rw [has_iff.2 ⟨r, hr, hk⟩] at h
    cases h
  rw [modify, hrows]

/-! ### Freshness -/

/-- The key of the next row is beyond all keys that were given. -/
def IsFresh (t : Table ρ) : Prop := ∀ r ∈ t.rows, Keyed.key r < t.next

theorem isFresh_empty : (empty : Table ρ).IsFresh := List.forall_mem_nil _

theorem IsFresh.insert (h : t.IsFresh) (hkey : Keyed.key (make t.next) = t.next) :
    (t.insert make).IsFresh := by
  intro r hr
  rcases List.mem_append.1 hr with hr | hr
  · exact Nat.lt_succ_of_lt (h r hr)
  · rw [List.mem_singleton.1 hr, hkey]
    exact Nat.lt_succ_self _

theorem IsFresh.modify (h : t.IsFresh) {k : Nat} (hkey : ∀ r, Keyed.key (change r) = Keyed.key r) :
    (t.modify k change).IsFresh := by
  intro r hr
  obtain ⟨old, hold, rfl⟩ := List.mem_map.1 hr
  show _ < t.next
  split_ifs
  · rw [hkey]
    exact h old hold
  · exact h old hold

/-- Keys that were given are not given again when their rows are gone. -/
theorem IsFresh.keep (h : t.IsFresh) {p : ρ → Bool} : (t.keep p).IsFresh := by
  intro r hr
  exact h r (List.mem_of_mem_filter hr)

/-- A change by the key of the row that was just added concerns this row only. -/
theorem modify_insert (h : t.IsFresh) (hkey : Keyed.key (make t.next) = t.next) :
    (t.insert make).modify t.next change = t.insert fun key => change (make key) := by
  have hold : (t.rows.map fun r => if Keyed.key r = t.next then change r else r) = t.rows := by
    refine (List.map_congr_left fun r hr => if_neg ?_).trans (List.map_id' _)
    exact Nat.ne_of_lt (h r hr)
  simp only [insert, modify, List.map_append, hold, List.map_cons, List.map_nil, hkey, if_true]

omit [Keyed ρ] in
/-- What is so of all rows and of a new one is so of all rows with the new one. -/
theorem forall_mem_insert {P : ρ → Prop} (hold : ∀ r ∈ t.rows, P r) (hnew : P (make t.next)) :
    ∀ r ∈ (t.insert make).rows, P r := by
  intro r hr
  rcases List.mem_append.1 hr with hr | hr
  · exact hold r hr
  · rw [List.mem_singleton.1 hr]
    exact hnew

/-! ### Distinct keys -/

/-- Every row has a key of its own, and so will the next one. -/
structure IsKeyed (t : Table ρ) : Prop where
  fresh : t.IsFresh
  distinct : (t.rows.map Keyed.key).Nodup

theorem isKeyed_of_rows_eq_nil (h : t.rows = []) : t.IsKeyed := by
  constructor
  · intro r hr
    rw [h] at hr
    cases hr
  · rw [h]
    exact List.nodup_nil

theorem IsKeyed.insert (h : t.IsKeyed) (hkey : Keyed.key (make t.next) = t.next) :
    (t.insert make).IsKeyed := by
  refine ⟨h.fresh.insert hkey, ?_⟩
  have hnew : t.next ∉ t.rows.map Keyed.key := by
    rw [List.mem_map]
    rintro ⟨r, hr, hnext⟩
    exact Nat.ne_of_lt (h.fresh r hr) hnext
  rw [Table.insert, List.map_append, List.map_singleton, hkey]
  exact List.Nodup.append h.distinct (List.nodup_singleton _)
    (List.disjoint_singleton.2 hnew)

theorem IsKeyed.keep (h : t.IsKeyed) {p : ρ → Bool} : (t.keep p).IsKeyed :=
  ⟨h.fresh.keep, h.distinct.sublist (List.filter_sublist.map _)⟩

/-- A change that keeps the keys keeps them distinct. -/
theorem IsKeyed.mapRows (h : t.IsKeyed) (hkey : ∀ r, Keyed.key (change r) = Keyed.key r) :
    IsKeyed { t with rows := t.rows.map change } := by
  have hkeys : (t.rows.map change).map Keyed.key = t.rows.map Keyed.key := by
    rw [List.map_map]
    exact List.map_congr_left fun r _ => hkey r
  constructor
  · intro r hr
    obtain ⟨old, hold, rfl⟩ := List.mem_map.1 hr
    rw [hkey]
    exact h.fresh old hold
  · show ((t.rows.map change).map Keyed.key).Nodup
    rw [hkeys]
    exact h.distinct

theorem IsKeyed.eq_of_key_eq (h : t.IsKeyed) {r r' : ρ} (hr : r ∈ t.rows) (hr' : r' ∈ t.rows)
    (hkey : Keyed.key r = Keyed.key r') : r = r' := List.inj_on_of_nodup_map h.distinct hr hr' hkey

/-- A row is found by its key. -/
theorem IsKeyed.find?_key (h : t.IsKeyed) {r : ρ} (hr : r ∈ t.rows) :
    t.find? (Keyed.key r) = some r := by
  cases hfound : t.find? (Keyed.key r) with
  | none =>
    have hnone := List.find?_eq_none.1 hfound r hr
    exact absurd (decide_eq_true rfl) hnone
  | some r' =>
    have hkey := List.find?_some hfound
    rw [decide_eq_true_eq] at hkey
    rw [h.eq_of_key_eq (List.mem_of_find?_eq_some hfound) hr hkey]

/-- The row that was just added is found by the key that it got. -/
theorem IsKeyed.find?_insert (h : t.IsKeyed) (hkey : Keyed.key (make t.next) = t.next) :
    (t.insert make).find? t.next = some (make t.next) := by
  have hfound := (h.insert hkey).find?_key (List.mem_append_right _ (List.mem_singleton_self _))
  rwa [hkey] at hfound

/-- A row that is found is still found when others come behind it. -/
theorem find?_of_prefix {t' : Table ρ} (h : t.rows <+: t'.rows) {r : ρ} (hr : t.find? id = some r) :
    t'.find? id = some r := by
  obtain ⟨later, hlater⟩ := h
  have hfirst : t.rows.find? (fun r => Keyed.key r = id) = some r := hr
  rw [find?, ← hlater, List.find?_append, hfirst, Option.some_or]

theorem key_of_find? {r : ρ} (h : t.find? id = some r) : Keyed.key r = id := by
  simpa using List.find?_some h

/-! ### Rows in the order of their keys -/

/-- The rows stand in the order of their keys, and so will the next one. -/
structure IsSorted (t : Table ρ) : Prop where
  fresh : t.IsFresh
  sorted : t.rows.Pairwise fun r r' => Keyed.key r < Keyed.key r'

theorem isSorted_of_rows_eq_nil (h : t.rows = []) : t.IsSorted := by
  refine ⟨(isKeyed_of_rows_eq_nil h).fresh, ?_⟩
  rw [h]
  exact List.Pairwise.nil

theorem IsSorted.insert (h : t.IsSorted) (hkey : Keyed.key (make t.next) = t.next) :
    (t.insert make).IsSorted := by
  refine ⟨h.fresh.insert hkey, ?_⟩
  rw [Table.insert, List.pairwise_append]
  refine ⟨h.sorted, List.pairwise_singleton _ _, ?_⟩
  intro r hr r' hr'
  rw [List.mem_singleton.1 hr', hkey]
  exact h.fresh r hr

/-! ### Gained rows -/

omit [Keyed ρ]

/-- The rows that a table has beyond those of an earlier one. -/
def since (t before : Table ρ) : List ρ := t.rows.drop before.rows.length

theorem since_self : t.since t = [] := List.drop_length

/-- A row that is added is gained. -/
theorem since_insert {before : Table ρ} (h : before.rows.length ≤ t.rows.length) :
    (t.insert make).since before = t.since before ++ [make t.next] :=
  List.drop_append_of_le_length h

theorem since_insert_self : (t.insert make).since t = [make t.next] := by
  rw [since_insert (Nat.le_refl _), since_self, List.nil_append]

/-- A table that only grew holds its earlier rows and those that it has gained. -/
theorem rows_eq_append_since {before : Table ρ} (h : before.rows <+: t.rows) :
    t.rows = before.rows ++ t.since before := List.prefix_iff_eq_append.1 h |>.symm

/-- What is gained after an earlier table is gained until some table between them, and then after that. -/
theorem since_append {first middle : Table ρ} (hfirst : first.rows <+: middle.rows)
    (hmiddle : middle.rows <+: t.rows) : t.since first = middle.since first ++ t.since middle := by
  have hlength : first.rows.length ≤ middle.rows.length := hfirst.length_le
  rw [since, rows_eq_append_since hmiddle, List.drop_append_of_le_length hlength]
  rfl

theorem mem_or_mem_since {before : Table ρ} (h : before.rows <+: t.rows) {r : ρ} (hr : r ∈ t.rows) :
    r ∈ before.rows ∨ r ∈ t.since before := by
  rw [rows_eq_append_since h] at hr
  exact List.mem_append.1 hr

end Table

end CardPayments
