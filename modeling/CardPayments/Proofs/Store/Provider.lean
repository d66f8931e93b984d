import CardPayments.Proofs.Failure
import CardPayments.Proofs.Store.Table
import CardPayments.Store.Delete
import CardPayments.Store.Write

/-!
# The order of the payment providers

The rows of the payment providers stand in the order of their keys, whatever is written, changed or deleted
(`Store.insertProvider_sorted`, `Store.updateProvider_sorted`, `Store.delete_provider_sorted`).
-/

namespace CardPayments

namespace Table

variable {ρ : Type} [Keyed ρ] {t : Table ρ} {k : Nat} {change : ρ → ρ}

theorem IsSorted.keep (h : t.IsSorted) {p : ρ → Bool} : (t.keep p).IsSorted :=
  ⟨h.fresh.keep, h.sorted.sublist List.filter_sublist⟩

/-- A change that keeps the key under which it is made keeps the order. -/
theorem IsSorted.modify_at (h : t.IsSorted) (hkey : ∀ r, Keyed.key r = k → Keyed.key (change r) = k) :
    (t.modify k change).IsSorted := by
  have hkeys (r : ρ) : Keyed.key (if Keyed.key r = k then change r else r) = Keyed.key r := by
    split_ifs with hr
    · rw [hkey r hr, hr]
    · rfl
  constructor
  · intro r hr
    obtain ⟨old, hold, rfl⟩ := List.mem_map.1 hr
    rw [hkeys]
    exact h.fresh old hold
  · show (t.rows.map fun r => if Keyed.key r = k then change r else r).Pairwise _
    rw [List.pairwise_map]
    simpa only [hkeys] using h.sorted

end Table

namespace Store

variable {s s' : Store} {n id : Nat} {d : ProviderDraft}

theorem insertProvider_sorted (hs : s.providers.IsSorted) (h : s.insertProvider d = .ok (n, s')) :
    s'.providers.IsSorted := by
  unfold insertProvider at h
  obtain ⟨_, _, h⟩ := bind_eq_ok.1 h
  dsimp only at h
  split_ifs at h
  · cases h
  · obtain ⟨_, rfl⟩ := Prod.mk.inj (Except.ok.inj h)
    exact hs.insert rfl

theorem updateProvider_sorted {change : ProviderDraft → ProviderDraft} (hs : s.providers.IsSorted)
    (h : s.updateProvider id change = .ok (n, s')) : s'.providers.IsSorted := by
  unfold updateProvider at h
  split at h
  · obtain ⟨_, _, h⟩ := bind_eq_ok.1 h
    obtain ⟨_, rfl⟩ := Prod.mk.inj (Except.ok.inj h)
    exact hs
  · obtain ⟨_, _, h⟩ := bind_eq_ok.1 h
    dsimp only at h
    split_ifs at h
    · cases h
    · obtain ⟨_, rfl⟩ := Prod.mk.inj (Except.ok.inj h)
      exact hs.modify_at fun _ _ => rfl

theorem delete_provider_sorted {key : Json.Value} (hs : s.providers.IsSorted)
    (h : s.delete .provider key = .ok s') : s'.providers.IsSorted := by
  obtain ⟨row, _, h⟩ := bind_eq_ok.1 h
  unfold removeProvider at h
  split_ifs at h
  · obtain rfl := Except.ok.inj h
    exact hs.keep

end Store

end CardPayments
