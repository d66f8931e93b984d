import CardPayments.Proofs.Program.Quiet
import Mathlib.Algebra.GroupWithZero.Nat

/-!
# How often a failure is noted

A failure that goes on through several parts of a program is noted by each of them.  How often that is does
not depend on the part in which it arose alone: a part that notes its own failures has done so once more.
`Program.IsNoted weight n p` therefore says that a failure of `p` is noted `n` times, and as many times more as
the deeds of the run weigh; and that nothing is noted as a failure, and no deed weighs anything, when there
is a result.  This is kept when programs go on with others (`IsNoted.bind`), and noting the failures of a
program notes them once more (`IsNoted.noting`).
-/

namespace CardPayments

/-! ### Journal.faults -/

namespace Journal

/-- The failures of which some entries tell, in order. -/
def faults (entries : List Entry) : List (Option Failure) :=
  (entries.filter fun entry => entry.level = .error).map Entry.failure

@[simp] theorem faults_append (first second : List Entry) :
    faults (first ++ second) = faults first ++ faults second := by
  simp only [faults, List.filter_append, List.map_append]

@[simp] theorem faults_error (source : Source) (message : Text) (e : Failure) :
    faults [error source message e] = [some e] := rfl

/-- Of which failure an entry tells, and how many entries tell of one, is seen in the list of the failures. -/
theorem of_faults_eq_replicate {entries : List Entry} {n : Nat} {e : Failure}
    (h : faults entries = List.replicate n (some e)) :
    (entries.countP fun entry => entry.level = .error) = n ∧
      ∀ entry ∈ entries, entry.level = .error → entry.failure = some e := by
  constructor
  · have hlength := congrArg List.length h
    rwa [faults, List.length_map, ← List.countP_eq_length_filter, List.length_replicate] at hlength
  · intro entry hentry hlevel
    have hmem : entry.failure ∈ faults entries :=
      List.mem_map_of_mem (List.mem_filter.2 ⟨hentry, decide_eq_true hlevel⟩)
    rw [h] at hmem
    exact List.eq_of_mem_replicate hmem

end Journal

/-! ### Program.IsNoted -/

namespace Program

open Desk Journal

variable {α β : Type} {weight : Deed → Nat} {n : Nat} {p : Program α}

/-- A failure of the program is noted a number of times, and as many times more as the deeds of the run weigh;
when there is a result, nothing is noted as a failure, and the deeds weigh nothing. -/
def IsNoted (weight : Deed → Nat) (n : Nat) (p : Program α) : Prop :=
  ∀ d : Desk, ∃ entries : List Journal.Entry, (d.run p).2.journal = d.journal ++ entries ∧
    match (d.run p).1 with
    | .ok _ => faults entries = [] ∧ ((d.deeds p).map weight).sum = 0
    | .error e => faults entries = List.replicate (n + ((d.deeds p).map weight).sum) (some e)

theorem isNoted_pure (x : α) : (pure x : Program α).IsNoted weight n := fun _ =>
  ⟨[], (List.append_nil _).symm, rfl, rfl⟩

theorem isNoted_fail (e : Failure) : (fail e : Program α).IsNoted weight 0 := fun _ =>
  ⟨[], (List.append_nil _).symm, rfl⟩

theorem isNoted_ofExcept (x : Except Failure α) : (ofExcept x).IsNoted weight 0 := by
  cases x with
  | ok x => exact isNoted_pure x
  | error e => exact isNoted_fail e

theorem IsNoted.bind {f : α → Program β} (hp : p.IsNoted weight n) (hf : ∀ x, (f x).IsNoted weight n) :
    (p >>= f).IsNoted weight n := by
  intro d
  obtain ⟨first, hfirst, hnoted⟩ := hp d
  rcases hrun : d.run p with ⟨e | x, m⟩ <;> rw [hrun] at hfirst hnoted
  · refine ⟨first, ?_, ?_⟩
    · rw [run_bind_of_error hrun]
      exact hfirst
    · rw [run_bind_of_error hrun, deeds_bind_of_error hrun]
      exact hnoted
  · -- Nothing is noted, and nothing weighs, until the second part begins.
    obtain ⟨hnone, hnothing⟩ := hnoted
    obtain ⟨second, hsecond, hnoted⟩ := hf x m
    rw [run_bind_of_ok hrun, deeds_bind_of_ok hrun, List.map_append, List.sum_append, hnothing, Nat.zero_add]
    refine ⟨first ++ second, ?_, ?_⟩
    · rw [hsecond, hfirst, List.append_assoc]
    · rw [faults_append, hnone]
      exact hnoted

/-- A failure that is noted is noted once more. -/
theorem IsNoted.noting (hp : p.IsNoted weight n) (source : Journal.Source) (message : Text) :
    (p.noting (Journal.error source message)).IsNoted weight (n + 1) := by
  intro d
  obtain ⟨entries, hentries, hnoted⟩ := hp d
  rw [run_noting, deeds_noting]
  rcases hrun : d.run p with ⟨e | x, m⟩ <;> rw [hrun] at hentries hnoted
  · refine ⟨entries ++ [Journal.error source message e], ?_, ?_⟩
    · show m.journal ++ [_] = _
      rw [hentries, List.append_assoc]
    · show faults (entries ++ [_]) = List.replicate _ (some e)
      have hnoted : faults entries = List.replicate (n + ((d.deeds p).map weight).sum) (some e) := hnoted
      rw [faults_append, hnoted, faults_error, ← List.replicate_succ', Nat.add_right_comm]
  · exact ⟨entries, hentries, hnoted⟩

/-! ### Single actions -/

/-- An action that is no note and does nothing that weighs. -/
theorem isNoted_act {a : Action} {next : a.Answer → Program α} (ha : ∀ entry, a ≠ .note entry)
    (hweight : ∀ answer, ((a.deeds answer).map weight).sum = 0)
    (hnext : ∀ answer, (next answer).IsNoted weight n) : (Program.act a next).IsNoted weight n := by
  intro d
  obtain ⟨entries, hentries, hnoted⟩ := hnext (d.perform a).1 (d.perform a).2
  rw [journal_perform d ha] at hentries
  refine ⟨entries, hentries, ?_⟩
  rw [deeds, List.map_append, List.sum_append, hweight, Nat.zero_add]
  exact hnoted

/-- An entry that tells of no failure. -/
theorem isNoted_note_bind {entry : Journal.Entry} (hentry : entry.level ≠ .error) {f : Unit → Program α}
    (hf : (f ()).IsNoted weight n) : (note entry >>= f).IsNoted weight n := by
  intro d
  obtain ⟨entries, hentries, hnoted⟩ := hf (d.note entry)
  have hnone : faults [entry] = [] := by
    rw [faults, List.filter_singleton, decide_eq_false hentry]
    rfl
  refine ⟨[entry] ++ entries, ?_, ?_⟩
  · rw [← List.append_assoc]
    exact hentries
  · rw [faults_append, hnone]
    exact hnoted

theorem isNoted_info_bind (source : Source) (message : Text) {f : Unit → Program α}
    (hf : (f ()).IsNoted weight n) : (note (info source message) >>= f).IsNoted weight n :=
  isNoted_note_bind (show Level.info ≠ .error by decide) hf

theorem isNoted_warning_bind (source : Source) (message : Text) {f : Unit → Program α}
    (hf : (f ()).IsNoted weight n) : (note (warning source message) >>= f).IsNoted weight n :=
  isNoted_note_bind (show Level.warning ≠ .error by decide) hf

theorem isNoted_chooseToken : chooseToken.IsNoted weight n :=
  isNoted_act nofun (fun _ => rfl) isNoted_pure

section

variable (hlookup : ∀ name email answer, weight (.lookup name email answer) = 0)
  (hwrite : ∀ w answer, weight (.write w answer) = 0)

include hlookup in
theorem isNoted_findCustomer (name email : Text) : (findCustomer name email).IsNoted weight 0 :=
  isNoted_act nofun (fun answer => Nat.add_eq_zero_iff.2 ⟨hlookup name email answer, rfl⟩) isNoted_ofExcept

include hwrite in
theorem isNoted_commit (w : Write) : (commit w).IsNoted weight 0 :=
  isNoted_act nofun (fun answer => Nat.add_eq_zero_iff.2 ⟨hwrite w answer, rfl⟩) isNoted_ofExcept

include hwrite in
theorem isNoted_insert (w : Write) : (insert w).IsNoted weight 0 :=
  (isNoted_commit hwrite w).bind fun _ => isNoted_pure _

end

/-- A call of which something is made, or nothing can be; its failures are noted, and each of them weighs
one. -/
theorem isNoted_call {c : Provider.Call} {read : Provider.Reply → Except Failure α}
    (hweight : ∀ reply, weight (.call c reply) = if (read reply).isOk then 0 else 1) (source : Journal.Source)
    (message : Text) :
    ((call c >>= fun reply => ofExcept (read reply)).noting (Journal.error source message)).IsNoted
      weight 0 := by
  intro d
  have hcall : (d.call c).2.journal = d.journal := journal_perform (a := .call c) d nofun
  have hrun : d.run (call c >>= fun reply => ofExcept (read reply)) =
      (d.call c).2.run (ofExcept (read (d.call c).1)) := rfl
  have hdeeds : d.deeds (call c >>= fun reply => ofExcept (read reply)) =
      .call c (d.call c).1 :: (d.call c).2.deeds (ofExcept (read (d.call c).1)) := rfl
  rw [run_noting, deeds_noting, hrun, hdeeds, List.map_cons, List.sum_cons, hweight]
  cases read (d.call c).1 with
  | ok x => exact ⟨[], by rw [List.append_nil]; exact hcall, rfl, rfl⟩
  | error e =>
    refine ⟨[Journal.error source message e], ?_, rfl⟩
    rw [← hcall]
    rfl

end Program

end CardPayments
