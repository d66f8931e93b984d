import CardPayments.Proofs.Store.Table

/-!
# Tables that mirror each other

`Table.Mirrors t u of Agrees` says that the rows of `u` belong to those of `t`: every row of `t` has
exactly one of its own, which agrees with it, and there are no others.  Whatever adds a row to each of
the two, or removes the rows of `u` together with those to which they belong, keeps it so.
-/

namespace CardPayments

namespace Table

variable {ρ σ : Type} [Keyed ρ]

/-- Every row of a table has exactly one row of another table that refers to it, and the two agree; there
are no rows that refer to none. -/
structure Mirrors (t : Table ρ) (u : Table σ) (of : σ → Nat) (Agrees : ρ → σ → Prop) : Prop where
  /-- The rows have distinct keys, all of them smaller than the next one. -/
  keyed : t.IsKeyed
  /-- A row has exactly one of its own. -/
  single : ∀ r ∈ t.rows, ∃ c, u.rows.filter (fun c => of c = Keyed.key r) = [c] ∧ Agrees r c
  /-- Every row of the other table is that of a row. -/
  belongs : ∀ c ∈ u.rows, ∃ r ∈ t.rows, Keyed.key r = of c

variable {t : Table ρ} {u : Table σ} {of : σ → Nat} {Agrees Agrees' : ρ → σ → Prop}

theorem mirrors_of_rows_eq_nil (ht : t.rows = []) (hu : u.rows = []) : t.Mirrors u of Agrees := by
  refine ⟨isKeyed_of_rows_eq_nil ht, ?_, ?_⟩
  · intro r hr
    rw [ht] at hr
    cases hr
  · intro c hc
    rw [hu] at hc
    cases hc

theorem Mirrors.imp (h : t.Mirrors u of Agrees) (himp : ∀ r ∈ t.rows, ∀ c, Agrees r c → Agrees' r c) :
    t.Mirrors u of Agrees' := by
  refine { h with single := ?_ }
  intro r hr
  obtain ⟨c, hc, hagrees⟩ := h.single r hr
  exact ⟨c, hc, himp r hr c hagrees⟩

/-- A row and its own are added together. -/
theorem Mirrors.insert (h : t.Mirrors u of Agrees) {make : Nat → ρ} {make' : Nat → σ}
    (hkey : Keyed.key (make t.next) = t.next) (hof : of (make' u.next) = t.next)
    (hagrees : Agrees (make t.next) (make' u.next)) :
    (t.insert make).Mirrors (u.insert make') of Agrees := by
  have hrows : (u.insert make').rows = u.rows ++ [make' u.next] := rfl
  refine ⟨h.keyed.insert hkey, ?_, ?_⟩
  · intro r hr
    rw [hrows, List.filter_append]
    rcases List.mem_append.1 hr with hr | hr
    · -- The new row has another key than the older ones.
      have hother : of (make' u.next) ≠ Keyed.key r := by
        rw [hof]
        exact Nat.ne_of_gt (h.keyed.fresh r hr)
      obtain ⟨c, hc, hagree⟩ := h.single r hr
      refine ⟨c, ?_, hagree⟩
      rw [hc, List.filter_cons_of_neg (by simpa using hother), List.filter_nil, List.append_nil]
    · obtain rfl := List.mem_singleton.1 hr
      have hnone : u.rows.filter (fun c => of c = Keyed.key (make t.next)) = [] := by
        rw [List.filter_eq_nil_iff]
        intro c hc
        obtain ⟨old, hold, hkeyOf⟩ := h.belongs c hc
        rw [decide_eq_true_eq, ← hkeyOf, hkey]
        exact Nat.ne_of_lt (h.keyed.fresh old hold)
      refine ⟨make' u.next, ?_, hagrees⟩
      rw [hnone, List.nil_append, List.filter_cons_of_pos (by simp only [hof, hkey, decide_true]),
        List.filter_nil]
  · intro c hc
    rcases List.mem_append.1 hc with hc | hc
    · obtain ⟨r, hr, hkeyOf⟩ := h.belongs c hc
      exact ⟨r, List.mem_append_left _ hr, hkeyOf⟩
    · obtain rfl := List.mem_singleton.1 hc
      exact ⟨make t.next, List.mem_append_right _ (List.mem_singleton_self _), hkey.trans hof.symm⟩

/-- Rows go together with their own. -/
theorem Mirrors.keep (h : t.Mirrors u of Agrees) {p : ρ → Bool} {q : σ → Bool}
    (hpq : ∀ r ∈ t.rows, ∀ c, of c = Keyed.key r → q c = p r) :
    (t.keep p).Mirrors (u.keep q) of Agrees := by
  refine ⟨h.keyed.keep, ?_, ?_⟩
  · intro r hr
    obtain ⟨hr, hp⟩ := List.mem_filter.1 hr
    obtain ⟨c, hc, hagrees⟩ := h.single r hr
    refine ⟨c, ?_, hagrees⟩
    show (u.rows.filter q).filter _ = [c]
    -- Of the rows that refer to a row that stays, all stay.
    rw [List.filter_filter, ← hc]
    refine List.filter_congr fun c _ => ?_
    by_cases hof : of c = Keyed.key r
    · rw [hpq r hr c hof, hp, Bool.and_true]
    · simp only [hof, decide_false, Bool.false_and]
  · intro c hc
    obtain ⟨hc, hq⟩ := List.mem_filter.1 hc
    obtain ⟨r, hr, hkey⟩ := h.belongs c hc
    rw [hpq r hr c hkey.symm] at hq
    exact ⟨r, List.mem_filter.2 ⟨hr, hq⟩, hkey⟩

/-- Rows are changed without a change of their keys or of what their own agree with. -/
theorem Mirrors.mapRows (h : t.Mirrors u of Agrees) {change : ρ → ρ}
    (hkey : ∀ r, Keyed.key (change r) = Keyed.key r) (hagrees : ∀ r c, Agrees r c → Agrees (change r) c) :
    Mirrors { t with rows := t.rows.map change } u of Agrees := by
  refine ⟨h.keyed.mapRows hkey, ?_, ?_⟩
  · intro r hr
    obtain ⟨old, hold, rfl⟩ := List.mem_map.1 hr
    obtain ⟨c, hc, hagree⟩ := h.single old hold
    rw [hkey]
    exact ⟨c, hc, hagrees old c hagree⟩
  · intro c hc
    obtain ⟨r, hr, hkeyOf⟩ := h.belongs c hc
    exact ⟨change r, List.mem_map_of_mem hr, (hkey r).trans hkeyOf⟩

end Table

end CardPayments
