import CardPayments.Proofs.Program.Parts

/-!
# Programs that only note their course

What a program notes on the way to a result: a failure that is noted goes on and ends the program, so a
program of which every part only notes its course has no other entries in the journal when it has a result
(`Program.IsQuiet`).  This is kept when programs go on with others (`IsQuiet.bind`) and when their failures
are noted (`IsQuiet.noting`).
-/

namespace CardPayments

namespace Program

open Desk

variable {α β : Type}

/-- Whenever the program has a result, it has added nothing but notes on its course to the journal. -/
def IsQuiet (p : Program α) : Prop :=
  ∀ (d : Desk) (x : α) (d' : Desk), d.run p = (.ok x, d') →
    ∃ entries : List Journal.Entry, d'.journal = d.journal ++ entries ∧ ∀ e ∈ entries, e.level = .info

theorem isQuiet_pure (x : α) : (pure x : Program α).IsQuiet := by
  intro d y d' h
  obtain ⟨_, rfl⟩ := Prod.mk.inj h
  exact ⟨[], (List.append_nil _).symm, List.forall_mem_nil _⟩

/-- A program that never has a result is quiet. -/
theorem isQuiet_of_fails {p : Program α} (h : ∀ d : Desk, ∃ e, (d.run p).1 = .error e) : p.IsQuiet := by
  intro d x d' hrun
  obtain ⟨e, he⟩ := h d
  rw [hrun] at he
  cases he

theorem isQuiet_ofExcept (x : Except Failure α) : (ofExcept x).IsQuiet := by
  cases x with
  | ok x => exact isQuiet_pure x
  | error e => exact isQuiet_of_fails fun _ => ⟨e, rfl⟩

theorem IsQuiet.bind {p : Program α} {f : α → Program β} (hp : p.IsQuiet) (hf : ∀ x, (f x).IsQuiet) :
    (p >>= f).IsQuiet := by
  intro d y d' h
  rcases hrun : d.run p with ⟨e | x, m⟩
  · rw [run_bind_of_error hrun] at h
    cases (Prod.mk.inj h).1
  · rw [run_bind_of_ok hrun] at h
    obtain ⟨first, hfirst, hfirstInfo⟩ := hp d x m hrun
    obtain ⟨second, hsecond, hsecondInfo⟩ := hf x m y d' h
    refine ⟨first ++ second, ?_, List.forall_mem_append.2 ⟨hfirstInfo, hsecondInfo⟩⟩
    rw [hsecond, hfirst, List.append_assoc]

/-- An entry about a failure is only written when there is no result. -/
theorem IsQuiet.noting {p : Program α} (hp : p.IsQuiet) (entry : Failure → Journal.Entry) :
    (p.noting entry).IsQuiet := by
  intro d y d' h
  rw [run_noting] at h
  rcases hrun : d.run p with ⟨e | x, m⟩ <;> rw [hrun] at h
  · cases (Prod.mk.inj h).1
  · obtain ⟨hx, rfl⟩ := Prod.mk.inj h
    obtain rfl := Except.ok.inj hx
    exact hp d x m hrun

theorem isQuiet_info (source : Journal.Source) (message : Text) :
    (note (Journal.info source message)).IsQuiet := by
  intro d y d' h
  obtain ⟨_, rfl⟩ := Prod.mk.inj h
  exact ⟨[Journal.info source message], rfl, List.forall_mem_singleton.2 rfl⟩

/-! ### Actions that note nothing -/

/-- An action that is no note leaves the journal as it is. -/
theorem journal_perform (d : Desk) {a : Action} (ha : ∀ entry, a ≠ .note entry) :
    (d.perform a).2.journal = d.journal := by
  cases a with
  | note entry => exact absurd rfl (ha entry)
  | chooseToken =>
    show d.chooseToken.2.journal = d.journal
    rw [Desk.chooseToken]
    split <;> rfl
  | call c =>
    show (d.call c).2.journal = d.journal
    unfold Desk.call
    dsimp only
    split <;> rfl
  | findCustomer name email => rfl
  | commit w =>
    show (d.commit w).2.journal = d.journal
    rw [Desk.commit]
    split
    · rfl
    · split <;> rfl

theorem isQuiet_act {a : Action} {next : a.Answer → Program α} (ha : ∀ entry, a ≠ .note entry)
    (hnext : ∀ answer, (next answer).IsQuiet) : (Program.act a next).IsQuiet := by
  intro d y d' h
  obtain ⟨entries, hentries, hinfo⟩ := hnext _ _ _ _ h
  rw [journal_perform d ha] at hentries
  exact ⟨entries, hentries, hinfo⟩

theorem isQuiet_chooseToken : chooseToken.IsQuiet := isQuiet_act nofun isQuiet_pure

theorem isQuiet_call (c : Provider.Call) : (call c).IsQuiet := isQuiet_act nofun isQuiet_pure

theorem isQuiet_findCustomer (name email : Text) : (findCustomer name email).IsQuiet :=
  isQuiet_act nofun isQuiet_ofExcept

theorem isQuiet_commit (w : Write) : (commit w).IsQuiet := isQuiet_act nofun isQuiet_ofExcept

theorem isQuiet_insert (w : Write) : (insert w).IsQuiet :=
  (isQuiet_commit w).bind fun _ => isQuiet_pure _

end Program

end CardPayments
