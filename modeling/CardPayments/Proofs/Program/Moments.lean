import CardPayments.Proofs.Program.Deeds

/-!
# The moments of a run

What a run leaves behind says nothing about what was there in between.  `Desk.Passes p d ds u` says that
at some moment of the run of `p` at the desk `d` the deeds `ds` are done and `u` is the store; the run
begins and ends with such a moment, and each is the store after the first few of its deeds
(`Desk.Passes.undergoes`).
-/

namespace CardPayments

variable {α : Type}

/-- At some moment of the run of a program at a desk these deeds are done, and this is the store. -/
inductive Desk.Passes : Program α → Desk → List Deed → Store → Prop where
  /-- Before the next action. -/
  | here (p : Program α) (d : Desk) : Passes p d [] d.store
  /-- After an action. -/
  | act {a : Action} {next : a.Answer → Program α} {d : Desk} {ds : List Deed} {u : Store} :
      Passes (next (d.perform a).1) (d.perform a).2 ds u →
      Passes (.act a next) d (a.deeds (d.perform a).1 ++ ds) u

namespace Desk

variable {p : Program α} {d : Desk} {ds : List Deed} {u : Store}

/-- A run ends with a moment at which all of its deeds are done. -/
theorem passes_end (p : Program α) (d : Desk) : Passes p d (deeds p d) (run p d).2.store := by
  induction p generalizing d with
  | done x => exact .here _ d
  | fail e => exact .here _ d
  | act a next ih => exact .act (ih _ _)

/-- At a moment of a run the first few of its deeds are done. -/
theorem Passes.isPrefix (h : Passes p d ds u) : ds <+: deeds p d := by
  induction h with
  | here p d => exact List.nil_prefix
  | act h ih => exact (List.prefix_append_right_inj _).2 ih

/-- The store at a moment of a run is the one that underwent the deeds until then. -/
theorem Passes.undergoes (h : Passes p d ds u) (hd : d.methodVanishes = false) :
    d.store.Undergoes ds u := by
  induction h with
  | here p d => exact .nil _
  | act h ih =>
    obtain ⟨haction, hd'⟩ := perform_undergoes _ hd _
    exact Store.undergoes_append.2 ⟨_, haction, ih hd'⟩

end Desk

/-! ### Results that nobody asks for -/

/-- The program without its result. -/
def Program.forget : Program α → Program Unit
  | done _ => done ()
  | fail e => fail e
  | act a next => act a fun answer => (next answer).forget

namespace Desk

variable {p : Program α} {d : Desk} {ds : List Deed} {u : Store}

theorem run_forget (p : Program α) (d : Desk) :
    (run p.forget d).2 = (run p d).2 ∧ deeds p.forget d = deeds p d := by
  induction p generalizing d with
  | done x => exact ⟨rfl, rfl⟩
  | fail e => exact ⟨rfl, rfl⟩
  | act a next ih =>
    obtain ⟨hrun, hdeeds⟩ := ih (d.perform a).1 (d.perform a).2
    exact ⟨hrun, congrArg _ hdeeds⟩

theorem passes_forget : Passes p.forget d ds u ↔ Passes p d ds u := by
  induction p generalizing d ds with
  | done x =>
    constructor <;>
    · rintro ⟨⟩
      exact .here _ d
  | fail e =>
    constructor <;>
    · rintro ⟨⟩
      exact .here _ d
  | act a next ih =>
    constructor
    · intro h
      cases h with
      | here => exact .here _ d
      | act h => exact .act ((ih _).1 h)
    · intro h
      cases h with
      | here => exact .here _ d
      | act h => exact .act ((ih _).2 h)

end Desk

end CardPayments
