import CardPayments.Proofs.Program.Deeds

/-!
# The parts of a run

A program that goes on with another one runs at the desk that the first one leaves (`Desk.run_bind`), and
does what the first one does before what the second one does (`Desk.deeds_bind`).  Noting a failure
changes nothing but the journal (`Desk.run_noting`).
-/

namespace CardPayments

namespace Desk

open Program

variable {α β : Type}

theorem run_bind (p : Program α) (f : α → Program β) (d : Desk) :
    run (p >>= f) d =
      match run p d with
      | (.ok x, d') => run (f x) d'
      | (.error e, d') => (.error e, d') := by
  show run (p.bind f) d = _
  induction p generalizing d with
  | done x => rfl
  | fail e => rfl
  | act a next ih => exact ih (d.perform a).1 (d.perform a).2

theorem deeds_bind (p : Program α) (f : α → Program β) (d : Desk) :
    deeds (p >>= f) d =
      deeds p d ++
        match run p d with
        | (.ok x, d') => deeds (f x) d'
        | (.error _, _) => [] := by
  show deeds (p.bind f) d = _
  induction p generalizing d with
  | done x => rfl
  | fail e => rfl
  | act a next ih =>
    have hrest := ih (d.perform a).1 (d.perform a).2
    simp only [Program.bind, deeds, run, List.append_assoc, hrest]

theorem run_bind_of_ok {p : Program α} {f : α → Program β} {d d' : Desk} {x : α}
    (h : run p d = (.ok x, d')) : run (p >>= f) d = run (f x) d' := by
  rw [run_bind, h]

theorem run_bind_of_error {p : Program α} {f : α → Program β} {d d' : Desk} {e : Failure}
    (h : run p d = (.error e, d')) : run (p >>= f) d = (.error e, d') := by
  rw [run_bind, h]

theorem deeds_bind_of_ok {p : Program α} {f : α → Program β} {d d' : Desk} {x : α}
    (h : run p d = (.ok x, d')) : deeds (p >>= f) d = deeds p d ++ deeds (f x) d' := by
  rw [deeds_bind, h]

theorem deeds_bind_of_error {p : Program α} {f : α → Program β} {d d' : Desk} {e : Failure}
    (h : run p d = (.error e, d')) : deeds (p >>= f) d = deeds p d := by
  rw [deeds_bind, h, List.append_nil]

/-- A failure that is noted leaves an entry in the journal, and all else is as it is otherwise. -/
theorem run_noting (entry : Failure → Journal.Entry) (p : Program α) (d : Desk) :
    run (p.noting entry) d =
      match run p d with
      | (.ok x, d') => (.ok x, d')
      | (.error e, d') => (.error e, d'.note (entry e)) := by
  induction p generalizing d with
  | done x => rfl
  | fail e => rfl
  | act a next ih => exact ih (d.perform a).1 (d.perform a).2

theorem deeds_noting (entry : Failure → Journal.Entry) (p : Program α) (d : Desk) :
    deeds (p.noting entry) d = deeds p d := by
  induction p generalizing d with
  | done x => rfl
  | fail e => rfl
  | act a next ih => exact congrArg _ (ih (d.perform a).1 (d.perform a).2)

theorem store_run_noting (entry : Failure → Journal.Entry) (p : Program α) (d : Desk) :
    (run (p.noting entry) d).1 = (run p d).1 ∧
      (run (p.noting entry) d).2.store = (run p d).2.store := by
  rw [run_noting]
  rcases run p d with ⟨e | x, d'⟩ <;> exact ⟨rfl, rfl⟩

end Desk

end CardPayments
