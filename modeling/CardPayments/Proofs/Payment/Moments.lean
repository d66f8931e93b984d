import CardPayments.Proofs.Payment.Groups
import CardPayments.Proofs.Program.Moments

/-!
# The moments of a payment

A payment writes at most one group of rows in every step, and it does so with the last deed of the step.
At every moment of it the store is therefore the one of a stage that it has reached, and it never passes
through any other (`PaymentService.passes_stage`).
-/

namespace CardPayments

/-- A deed leaves the store as it is: it is anything but a group of rows that is written. -/
def Deed.IsIdle : Deed → Prop
  | .write _ (.ok (some _)) => False
  | _ => True

namespace Store

variable {s t : Store} {ds : List Deed}

theorem Undergoes.eq_of_isIdle (h : s.Undergoes ds t) (hds : ∀ d ∈ ds, d.IsIdle) : t = s := by
  induction h with
  | nil s => rfl
  | call c reply _ ih => exact ih (List.forall_mem_cons.1 hds).2
  | lookup name email _ ih => exact ih (List.forall_mem_cons.1 hds).2
  | refused _ _ ih => exact ih (List.forall_mem_cons.1 hds).2
  | @taken s _ _ _ w key hw _ ih =>
    obtain ⟨_, hkey, rfl⟩ := Write.apply_eq_ok.1 hw
    obtain ⟨hidle, hrest⟩ := List.forall_mem_cons.1 hds
    rw [ih hrest]
    cases key with
    | some key => exact hidle.elim
    | none => exact Write.effect_of_key?_eq_none hkey.symm

end Store

namespace PaymentService

namespace Attempt

open Store

variable {a : Attempt} {s u : Store} {g i : Stage} {ds first : List Deed}

/-- Before the last deed of a step nothing is written. -/
theorem Step.exists_idle (h : a.Step g ds i) : ∃ idle d, ds = idle ++ [d] ∧ ∀ e ∈ idle, e.IsIdle := by
  have hcall {c : Provider.Call} {reply : Provider.Reply} : ∀ e ∈ [Deed.call c reply], e.IsIdle :=
    List.forall_mem_singleton.2 trivial
  cases h with
  | create reply key hreply =>
    exact ⟨[_, _], _, rfl, List.forall_mem_cons.2 ⟨trivial, hcall⟩⟩
  | tokenize reply key hreply => exact ⟨[_], _, rfl, hcall⟩
  | log reply key hreply hstatus => exact ⟨[_], _, rfl, hcall⟩
  | _ => exact ⟨[], _, rfl, List.forall_mem_nil _⟩

/-- Whatever a payment does when it halts, it writes nothing. -/
theorem Halts.isIdle {r : Except Failure PaymentResult} (h : a.Halts g ds r) : ∀ d ∈ ds, d.IsIdle := by
  -- At most three deeds, of which the last one is refused if it is a group of rows.
  cases h <;> simp [Deed.IsIdle]

/-- The first few deeds of a step leave the store of its stage, or they are all and leave that of the
next. -/
theorem Step.moment (h : a.Step g ds i) (hg : g.IsReached a s) (hfirst : first <+: ds)
    (hu : (s.after (a.written g)).Undergoes first u) :
    ∃ j, j.IsReached a s ∧ u = s.after (a.written j) := by
  obtain ⟨idle, d, rfl, hidle⟩ := h.exists_idle
  rcases List.prefix_concat_iff.1 hfirst with rfl | hfirst
  · exact ⟨i, h.undergoes hg hu⟩
  · exact ⟨g, hg, hu.eq_of_isIdle fun e he => hidle e (hfirst.subset he)⟩

/-- Where the first few of some deeds and others end: among the first ones, or behind them. -/
theorem prefix_append_cases {before after : List Deed} (h : first <+: before ++ after) :
    first <+: before ∨ ∃ more, first = before ++ more ∧ more <+: after := by
  rcases List.prefix_or_prefix_of_prefix h (List.prefix_append before after) with hshort | ⟨more, rfl⟩
  · exact .inl hshort
  · exact .inr ⟨more, rfl, (List.prefix_append_right_inj before).1 h⟩

/-- The first few deeds of some steps leave the store of a stage on the way. -/
theorem Steps.moment (h : a.Steps .begun ds g) (hfirst : first <+: ds) (hu : s.Undergoes first u) :
    ∃ j, j.IsReached a s ∧ u = s.after (a.written j) := by
  induction h with
  | refl =>
    obtain rfl := List.prefix_nil.1 hfirst
    exact ⟨.begun, ⟨trivial, trivial⟩, undergoes_nil.1 hu⟩
  | tail hsteps hstep ih =>
    rcases prefix_append_cases hfirst with hfirst | ⟨more, rfl, hmore⟩
    · exact ih hfirst
    · obtain ⟨m, hm, hlast⟩ := undergoes_append.1 hu
      obtain ⟨hg, rfl⟩ := hsteps.undergoes hm
      exact hstep.moment hg hmore hlast

end Attempt

variable {s : PaymentService} {now : DateTime} {request : PaymentRequest} {d : Desk} {ds : List Deed}
  {u : Store}

/-- At every moment of a payment the store is as it was, or as it is left at a stage that was reached. -/
theorem passes_stage (hd : d.methodVanishes = false) (h : Desk.Passes (s.process now request) d ds u) :
    u = d.store ∨
      ∃ a g, s.attempt now request = .ok a ∧ g.IsReached a d.store ∧ u = d.store.after (a.written g) := by
  have hu : d.store.Undergoes ds u := h.undergoes hd
  rcases process_does (d.run_does (s.process now request)) with
    ⟨e, _, hds, _⟩ | ⟨a, ha, g, before, last, hsteps, hhalts, hds⟩
  · have hnil : ds = [] := List.prefix_nil.1 (hds ▸ h.isPrefix)
    subst hnil
    exact .inl (Store.undergoes_nil.1 hu)
  · right
    rcases Attempt.prefix_append_cases (hds ▸ h.isPrefix) with hfirst | ⟨more, rfl, hmore⟩
    · obtain ⟨j, hj, rfl⟩ := hsteps.moment hfirst hu
      exact ⟨a, j, ha, hj, rfl⟩
    · obtain ⟨m, hm, hlast⟩ := Store.undergoes_append.1 hu
      obtain ⟨hg, rfl⟩ := hsteps.undergoes hm
      exact ⟨a, g, ha, hg, hlast.eq_of_isIdle fun e he => hhalts.isIdle e (hmore.subset he)⟩

end PaymentService

end CardPayments
