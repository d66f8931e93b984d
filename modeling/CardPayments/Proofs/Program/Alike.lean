import CardPayments.Proofs.Program.Deeds

/-!
# Programs that differ in what they send

Two programs are alike if they do the same, action by action and whatever the answers, but for what
their calls send, and even the calls look the same when part of them is concealed.  Whether two programs
are alike is decided from their parts (`Program.Alike.bind`, `Program.Alike.noting`), and alike programs
can only be told apart by what they send (`Desk.run_alike`).
-/

namespace CardPayments

namespace Program

variable {α β : Type} {conceal : Provider.Call → Provider.Call}

/-- Two programs do the same, but for calls that look the same when part of them is concealed. -/
inductive Alike (conceal : Provider.Call → Provider.Call) : Program α → Program α → Prop where
  /-- Both are over, with the same result. -/
  | done (x : α) : Alike conceal (.done x) (.done x)
  /-- Both have failed in the same way. -/
  | fail (e : Failure) : Alike conceal (.fail e) (.fail e)
  /-- Both do the same action. -/
  | act (a : Action) {next next' : a.Answer → Program α} :
      (∀ answer, Alike conceal (next answer) (next' answer)) →
      Alike conceal (.act a next) (.act a next')
  /-- Both make a call. -/
  | call {c c' : Provider.Call} {next next' : Provider.Reply → Program α} :
      conceal c = conceal c' → (∀ reply, Alike conceal (next reply) (next' reply)) →
      Alike conceal (.act (.call c) next) (.act (.call c') next')

namespace Alike

theorem refl (p : Program α) : p.Alike conceal p := by
  induction p with
  | done x => exact .done x
  | fail e => exact .fail e
  | act a next ih => exact .act a ih

theorem bind {p p' : Program α} {f f' : α → Program β} (hp : p.Alike conceal p')
    (hf : ∀ x, (f x).Alike conceal (f' x)) : (p >>= f).Alike conceal (p' >>= f') := by
  show (p.bind f).Alike conceal (p'.bind f')
  induction hp with
  | done x => exact hf x
  | fail e => exact .fail e
  | act a _ ih => exact .act a ih
  | call hc _ ih => exact .call hc ih

theorem noting {p p' : Program α} (entry : Failure → Journal.Entry) (hp : p.Alike conceal p') :
    (p.noting entry).Alike conceal (p'.noting entry) := by
  induction hp with
  | done x => exact .done x
  | fail e => exact .refl _
  | act a _ ih => exact .act a ih
  | call hc _ ih => exact .call hc ih

end Alike

end Program

namespace Desk

variable {α : Type} {conceal : Provider.Call → Provider.Call}

/-- What is on record about earlier calls has no influence on an action that makes none. -/
theorem perform_withCalls (d : Desk) (calls : List Provider.Call) {a : Action}
    (ha : ∀ c, a ≠ .call c) :
    ({ d with calls := calls } : Desk).perform a =
      ((d.perform a).1, { (d.perform a).2 with calls := calls }) := by
  cases a with
  | note entry => rfl
  | chooseToken =>
    show ({ d with calls := calls } : Desk).chooseToken =
      (d.chooseToken.1, { d.chooseToken.2 with calls := calls })
    unfold chooseToken
    dsimp only
    split <;> rfl
  | call c => exact absurd rfl (ha c)
  | findCustomer name email => rfl
  | commit w =>
    have hbefore : ({ d with calls := calls } : Desk).storeBefore w = d.storeBefore w := by
      cases w <;> rfl
    show ({ d with calls := calls } : Desk).commit w =
      ((d.commit w).1, { (d.commit w).2 with calls := calls })
    unfold commit
    rw [hbefore]
    cases d.storeBefore w with
    | error e => rfl
    | ok before =>
      dsimp only
      split <;> rfl

/-- The reply to a call depends neither on earlier calls nor on what is sent. -/
theorem call_withCalls (d : Desk) (calls : List Provider.Call) (c c' : Provider.Call) :
    ({ d with calls := calls } : Desk).call c' =
      ((d.call c).1, { (d.call c).2 with calls := calls ++ [c'] }) := by
  unfold Desk.call
  dsimp only
  split <;> rfl

/-- Alike programs have the same result and leave everything in the same state, but for the calls on
record, and those look the same as well when part of them is concealed. -/
theorem run_alike {p p' : Program α} (h : p.Alike conceal p') (d : Desk) (calls : List Provider.Call)
    (hcalls : calls.map conceal = d.calls.map conceal) :
    let run := d.run p
    let run' := ({ d with calls := calls } : Desk).run p'
    run'.1 = run.1 ∧ run'.2 = { run.2 with calls := run'.2.calls } ∧
      run'.2.calls.map conceal = run.2.calls.map conceal := by
  induction h generalizing d calls with
  | done x => exact ⟨rfl, rfl, hcalls⟩
  | fail e => exact ⟨rfl, rfl, hcalls⟩
  | act a _ ih =>
    -- An action is the same at both desks; only a call goes on record.
    by_cases ha : ∃ c, a = .call c
    · obtain ⟨c, rfl⟩ := ha
      have hrecord : (calls ++ [c]).map conceal = (d.call c).2.calls.map conceal := by
        rw [calls_call, List.map_append, hcalls, ← List.map_append]
      simp only [run, perform, d.call_withCalls calls c c]
      exact ih _ _ _ hrecord
    · have ha : ∀ c, a ≠ .call c := fun c hc => ha ⟨c, hc⟩
      simp only [run, d.perform_withCalls calls ha]
      refine ih _ _ _ ?_
      rw [d.calls_perform ha]
      exact hcalls
  | @call c c' _ _ hc _ ih =>
    have hrecord : (calls ++ [c']).map conceal = (d.call c).2.calls.map conceal := by
      rw [calls_call, List.map_append, List.map_append, hcalls, List.map_singleton,
        List.map_singleton, hc]
    simp only [run, perform, d.call_withCalls calls c c']
    exact ih _ _ _ hrecord

end Desk

end CardPayments
