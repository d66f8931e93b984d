import CardPayments.Proofs.Payment.Rows
import CardPayments.Proofs.Store.Lookup

/-!
# The customer of a payment

A payment writes at most one customer, and only when there is none of the name and address.  From the
moment in which the customer is known, its row is the one that is found by its key
(`Known.Agrees.exists_row`), and no later step changes the customers.
-/

namespace CardPayments

theorem Json.Value.display_orEmpty_text (t : Text) : (Json.Value.text t).orEmpty.display = t := by
  cases t <;> rfl

theorem Offer.requiredText_value {v : Json.Value} (h : v ≠ .null) :
    (Offer.value v).requiredText = v.display := by
  rw [requiredText, text_value h]
  rfl

namespace Store

variable {s : Store} {name email : Text}

theorem findCustomer?_eq_some {row : CustomerRow} (h : s.findCustomer? name email = some row) :
    row ∈ s.customers.rows ∧ row.name = name ∧ row.email = email := by
  have holdest := isOldestCustomer_of_findCustomerWith (fun _ => decide_eq_true rfl) h
  exact ⟨holdest.mem, holdest.name_eq, holdest.email_eq⟩

theorem findCustomer?_eq_none :
    s.findCustomer? name email = none ↔ ∀ r ∈ s.customers.rows, ¬(r.name = name ∧ r.email = email) :=
  findCustomerWith_eq_none fun _ => decide_eq_true rfl

/-- Who is found does not depend on customers of another name or address. -/
theorem findCustomer?_of_insert {t : Store} {make : Nat → CustomerRow}
    (h : t.customers = s.customers.insert make)
    (hother : ¬((make s.customers.next).name = name ∧ (make s.customers.next).email = email)) :
    t.findCustomer? name email = s.findCustomer? name email := by
  have hcandidates : (t.customers.rows.filter fun r => decide (r.name = name) && decide (r.email = email)) =
      s.customers.rows.filter fun r => decide (r.name = name) && decide (r.email = email) := by
    rw [h, Table.insert, List.filter_append, List.filter_cons_of_neg, List.filter_nil, List.append_nil]
    rw [Bool.and_eq_true, decide_eq_true_eq, decide_eq_true_eq]
    exact hother
  rw [findCustomer?, findCustomer?, findCustomerWith, findCustomerWith, hcandidates]

/-- When there was no customer of a name and an address, the new one is found. -/
theorem findCustomer?_of_append {t : Store} {row : CustomerRow} (hnone : s.findCustomer? name email = none)
    (h : t.customers.rows = s.customers.rows ++ [row]) (hname : row.name = name) (hemail : row.email = email) :
    t.findCustomer? name email = some row := by
  cases hfound : t.findCustomer? name email with
  | none =>
    rw [findCustomer?_eq_none, h] at hfound
    exact absurd ⟨hname, hemail⟩ (hfound row (List.mem_append_right _ (List.mem_singleton_self row)))
  | some found =>
    obtain ⟨hmem, hpair⟩ := findCustomer?_eq_some hfound
    rw [h] at hmem
    rcases List.mem_append.1 hmem with hmem | hmem
    · exact absurd hpair (findCustomer?_eq_none.1 hnone found hmem)
    · rw [List.mem_singleton.1 hmem]

end Store

namespace PaymentService

namespace Attempt

open Store

variable {a : Attempt} {s : Store} {g : Stage} {k : Known}

theorem customers_known :
    (s.after (a.written (.known k))).customers =
      if k.isNew then s.customers.insert (a.customerDraft k.method k.payer.customer).row
      else s.customers := by
  rw [written, knownGroups]
  split_ifs <;> rfl

/-- Until the customer is known, no customer is written. -/
theorem customers_of_not_known (hk : g.known? = none) :
    (s.after (a.written g)).customers = s.customers := by
  cases g <;> cases hk <;> rfl

/-- After the customer is known, no other one is written. -/
theorem customers_written (hk : g.known? = some k) :
    (s.after (a.written g)).customers = (s.after (a.written (.known k))).customers := by
  cases g <;> cases hk
  · rfl
  · rw [written_owned, after_append]
    rfl
  · rw [written_tokenized, written_owned, after_append, after_append]
    rfl
  · rw [written_logged, written_tokenized, written_owned, after_append, after_append, after_append]
    rfl
  · rw [written_charged, written_logged, written_tokenized, written_owned, after_append, after_append,
      after_append, after_append]
    rfl

/-- A payment that knows a new customer found none, and has written it. -/
theorem Known.Agrees.of_isNew (hk : k.Agrees a s) (hg : g.known? = some k) (hnew : k.isNew = true) :
    s.findCustomer? a.request.name a.request.email = none ∧
      (s.after (a.written g)).customers = s.customers.insert (a.customerDraft k.method k.payer.customer).row := by
  refine ⟨?_, ?_⟩
  · by_contra hfound
    obtain ⟨row, hrow⟩ := Option.ne_none_iff_exists'.1 hfound
    rw [(hk.found row hrow).1] at hnew
    cases hnew
  · rw [customers_written hg, customers_known, if_pos hnew]

/-- The customer of a payment is the row that is found by its key: it has the name and the address of the
request, and the provider's name for the customer. -/
theorem Known.Agrees.exists_row (hs : s.customers.IsKeyed) (hk : k.Agrees a s) (hg : g.known? = some k) :
    ∃ c, (s.after (a.written g)).customers.find? k.payer.id = some c ∧ c.name = a.request.name ∧
      c.email = a.request.email ∧ c.apiCustomerId = k.payer.name.display := by
  rw [customers_written hg, customers_known]
  cases hfound : s.findCustomer? a.request.name a.request.email with
  | some row =>
    obtain ⟨hold, hpayer⟩ := hk.found row hfound
    obtain ⟨hmem, hname, hemail⟩ := findCustomer?_eq_some hfound
    rw [hold, hpayer]
    exact ⟨row, hs.find?_key hmem, hname, hemail, (Json.Value.display_orEmpty_text _).symm⟩
  | none =>
    obtain ⟨hnew, hid⟩ := hk.notFound hfound
    rw [hnew, hid]
    exact ⟨_, hs.find?_insert rfl, rfl, rfl, Offer.requiredText_value Json.Value.orEmpty_ne_null⟩

end Attempt

end PaymentService

end CardPayments
