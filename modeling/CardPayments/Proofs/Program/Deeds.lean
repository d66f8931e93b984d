import CardPayments.Desk
import Mathlib.Data.List.Basic
import Mathlib.Tactic.Common

/-!
# What a program does

The deeds of a run are its calls, its looks into the store and the groups of rows that it offers to the
store, each with its answer; notes and the choice of a token are no deeds.  `Program.Does p ds r` says
that the deeds `ds` with the result `r` are one way for the program `p` to go, whatever the world
answers; `Desk.deeds` lists the deeds of the run at a desk, and `Desk.run_does` ties the two together.

What a run leaves behind follows from its deeds: `Store.Undergoes` says how the answers and the store
hang together (`Desk.run_undergoes`), and `Desk.exchanges` lists the calls of a run, each with the store
in which it was made (`Desk.calls_run`, `Desk.exchanges_eq`).
-/

namespace CardPayments

/-- Something that a program does to the world or learns from it, with the answer. -/
inductive Deed where
  /-- A call of the provider. -/
  | call (c : Provider.Call) (reply : Provider.Reply)
  /-- A look for a customer. -/
  | lookup (name email : Text) (answer : Except Failure (Option CustomerRow))
  /-- A group of rows that is offered to the store. -/
  | write (w : Write) (answer : Except Failure (Option Nat))

/-- A call with its reply, and with the store in which it was made. -/
structure Exchange where
  call : Provider.Call
  reply : Provider.Reply
  store : Store

/-- The deed that an action with its answer amounts to. -/
def Action.deeds : (a : Action) → a.Answer → List Deed
  | .note _, _ => []
  | .chooseToken, _ => []
  | .call c, reply => [.call c reply]
  | .findCustomer name email, answer => [.lookup name email answer]
  | .commit w, answer => [.write w answer]

/-! ### Program.Does -/

namespace Program

variable {α β : Type}

/-- The deeds and the result with which a program can end, whatever the answers to its actions. -/
inductive Does : Program α → List Deed → Except Failure α → Prop where
  /-- The program is over. -/
  | done (x : α) : Does (.done x) [] (.ok x)
  /-- The program has failed. -/
  | fail (e : Failure) : Does (.fail e) [] (.error e)
  /-- An action got an answer, and the program went on. -/
  | act {a : Action} {next : a.Answer → Program α} (answer : a.Answer) {ds : List Deed}
      {r : Except Failure α} : Does (next answer) ds r → Does (.act a next) (a.deeds answer ++ ds) r

theorem does_done {x : α} {ds : List Deed} {r : Except Failure α} :
    (Program.done x).Does ds r ↔ ds = [] ∧ r = .ok x := by
  constructor
  · rintro ⟨⟩
    exact ⟨rfl, rfl⟩
  · rintro ⟨rfl, rfl⟩
    exact .done x

@[simp] theorem does_pure {x : α} {ds : List Deed} {r : Except Failure α} :
    (pure x : Program α).Does ds r ↔ ds = [] ∧ r = .ok x := does_done

@[simp] theorem does_fail {e : Failure} {ds : List Deed} {r : Except Failure α} :
    (Program.fail e : Program α).Does ds r ↔ ds = [] ∧ r = .error e := by
  constructor
  · rintro ⟨⟩
    exact ⟨rfl, rfl⟩
  · rintro ⟨rfl, rfl⟩
    exact .fail e

theorem does_act {a : Action} {next : a.Answer → Program α} {ds : List Deed} {r : Except Failure α} :
    (Program.act a next).Does ds r ↔
      ∃ answer rest, ds = a.deeds answer ++ rest ∧ (next answer).Does rest r := by
  constructor
  · intro h
    cases h with
    | act answer h => exact ⟨answer, _, rfl, h⟩
  · rintro ⟨answer, rest, rfl, h⟩
    exact .act answer h

/-- A program that goes on with another one fails in the first, or is over there and ends as the second
does. -/
@[simp] theorem does_bind {p : Program α} {f : α → Program β} {ds : List Deed} {r : Except Failure β} :
    (p >>= f).Does ds r ↔
      (∃ e, p.Does ds (.error e) ∧ r = .error e) ∨
        ∃ x before after, p.Does before (.ok x) ∧ (f x).Does after r ∧ ds = before ++ after := by
  show (p.bind f).Does ds r ↔ _
  -- The first program decides how far it gets: it is over, has failed, or asks and goes on.
  induction p generalizing ds with
  | done x =>
    simp only [Program.bind, does_done]
    constructor
    · intro h
      exact .inr ⟨x, [], ds, ⟨rfl, rfl⟩, h, rfl⟩
    · rintro (⟨e, ⟨_, ⟨⟩⟩, _⟩ | ⟨_, _, after, ⟨rfl, ⟨⟩⟩, h, rfl⟩)
      exact h
  | fail e =>
    simp only [Program.bind, does_fail]
    constructor
    · rintro ⟨rfl, rfl⟩
      exact .inl ⟨e, ⟨rfl, rfl⟩, rfl⟩
    · rintro (⟨_, ⟨rfl, ⟨⟩⟩, rfl⟩ | ⟨_, _, _, ⟨_, ⟨⟩⟩, _⟩)
      exact ⟨rfl, rfl⟩
  | act a next ih =>
    simp only [Program.bind, does_act, ih]
    constructor
    · rintro ⟨answer, rest, rfl, ⟨e, h, rfl⟩ | ⟨x, before, after, h, hf, rfl⟩⟩
      · exact .inl ⟨e, ⟨answer, rest, rfl, h⟩, rfl⟩
      · exact .inr ⟨x, a.deeds answer ++ before, after, ⟨answer, before, rfl, h⟩, hf,
          (List.append_assoc ..).symm⟩
    · rintro (⟨e, ⟨answer, rest, rfl, h⟩, rfl⟩ | ⟨x, _, after, ⟨answer, before, rfl, h⟩, hf, rfl⟩)
      · exact ⟨answer, rest, rfl, .inl ⟨e, h, rfl⟩⟩
      · exact ⟨answer, before ++ after, List.append_assoc .., .inr ⟨x, before, after, h, hf, rfl⟩⟩

/-- A program whose failures are noted does what it does otherwise. -/
@[simp] theorem does_noting {entry : Failure → Journal.Entry} {p : Program α} {ds : List Deed}
    {r : Except Failure α} : (p.noting entry).Does ds r ↔ p.Does ds r := by
  induction p generalizing ds with
  | done x => rfl
  | fail e =>
    rw [noting, does_act]
    constructor
    · rintro ⟨_, rest, rfl, h⟩
      exact h
    · intro h
      exact ⟨(), ds, rfl, h⟩
  | act a next ih => simp only [noting, does_act, ih]

@[simp] theorem does_ofExcept {x : Except Failure α} {ds : List Deed} {r : Except Failure α} :
    (ofExcept x).Does ds r ↔ ds = [] ∧ r = x := by
  cases x with
  | ok x => exact does_done
  | error e => exact does_fail

/-- A program of one action whose answer is the result as it is. -/
theorem does_single {a : Action} {f : a.Answer → Except Failure α} {ds : List Deed}
    {r : Except Failure α} :
    (Program.act a fun answer => ofExcept (f answer)).Does ds r ↔
      ∃ answer, ds = a.deeds answer ∧ r = f answer := by
  simp only [does_act, does_ofExcept]
  constructor
  · rintro ⟨answer, rest, rfl, rfl, rfl⟩
    exact ⟨answer, List.append_nil _, rfl⟩
  · rintro ⟨answer, rfl, rfl⟩
    exact ⟨answer, [], (List.append_nil _).symm, rfl, rfl⟩

@[simp] theorem does_note {entry : Journal.Entry} {ds : List Deed} {r : Except Failure Unit} :
    (note entry).Does ds r ↔ ds = [] ∧ r = .ok () :=
  (does_single (f := .ok)).trans ⟨fun ⟨_, h⟩ => h, fun h => ⟨(), h⟩⟩

@[simp] theorem does_findCustomer {name email : Text} {ds : List Deed}
    {r : Except Failure (Option CustomerRow)} :
    (findCustomer name email).Does ds r ↔ ∃ answer, ds = [.lookup name email answer] ∧ r = answer :=
  does_single (a := .findCustomer name email) (f := fun answer => answer)

@[simp] theorem does_commit {w : Write} {ds : List Deed} {r : Except Failure (Option Nat)} :
    (commit w).Does ds r ↔ ∃ answer, ds = [.write w answer] ∧ r = answer :=
  does_single (a := .commit w) (f := fun answer => answer)

@[simp] theorem does_insert {w : Write} {ds : List Deed} {r : Except Failure Nat} :
    (insert w).Does ds r ↔ ∃ answer, ds = [.write w answer] ∧ r = answer.map (·.getD 0) := by
  simp only [insert, does_bind, does_commit, does_pure]
  constructor
  · rintro (⟨e, ⟨_, rfl, rfl⟩, rfl⟩ | ⟨key, _, _, ⟨_, rfl, rfl⟩, ⟨rfl, rfl⟩, rfl⟩)
    · exact ⟨.error e, rfl, rfl⟩
    · exact ⟨.ok key, rfl, rfl⟩
  · rintro ⟨answer, rfl, rfl⟩
    cases answer with
    | error e => exact .inl ⟨e, ⟨_, rfl, rfl⟩, rfl⟩
    | ok key => exact .inr ⟨key, _, _, ⟨_, rfl, rfl⟩, ⟨rfl, rfl⟩, rfl⟩

/-! ### Going on after an action -/

theorem bind_bind {γ : Type} (p : Program α) (f : α → Program β) (g : β → Program γ) :
    p >>= f >>= g = p >>= fun x => f x >>= g := by
  show (p.bind f).bind g = p.bind fun x => (f x).bind g
  induction p with
  | done x => rfl
  | fail e => rfl
  | act a next ih => simp only [Program.bind, ih]

@[simp] theorem does_note_bind {entry : Journal.Entry} {f : Unit → Program α} {ds : List Deed}
    {r : Except Failure α} : (note entry >>= f).Does ds r ↔ (f ()).Does ds r :=
  (@does_act α (.note entry) (fun _ => f ()) ds r).trans
    ⟨fun ⟨_, _, hds, h⟩ => hds ▸ h, fun h => ⟨(), ds, rfl, h⟩⟩

@[simp] theorem does_call_bind {c : Provider.Call} {f : Provider.Reply → Program α} {ds : List Deed}
    {r : Except Failure α} :
    (call c >>= f).Does ds r ↔ ∃ reply rest, ds = .call c reply :: rest ∧ (f reply).Does rest r :=
  does_act (a := .call c)

@[simp] theorem does_ofExcept_bind {x : Except Failure α} {f : α → Program β} {ds : List Deed}
    {r : Except Failure β} :
    (ofExcept x >>= f).Does ds r ↔
      (∃ e, x = .error e ∧ ds = [] ∧ r = .error e) ∨ ∃ y, x = .ok y ∧ (f y).Does ds r := by
  cases x with
  | ok y =>
    show (f y).Does ds r ↔ _
    constructor
    · intro h
      exact .inr ⟨y, rfl, h⟩
    · rintro (⟨_, ⟨⟩, _⟩ | ⟨_, ⟨⟩, h⟩)
      exact h
  | error e =>
    show (Program.fail e).Does ds r ↔ _
    rw [does_fail]
    constructor
    · rintro ⟨hds, hr⟩
      exact .inl ⟨e, rfl, hds, hr⟩
    · rintro (⟨_, ⟨⟩, hds, hr⟩ | ⟨_, ⟨⟩, _⟩)
      exact ⟨hds, hr⟩

@[simp] theorem does_chooseToken_bind {f : Text → Program α} {ds : List Deed} {r : Except Failure α} :
    (chooseToken >>= f).Does ds r ↔ ∃ token, (f token).Does ds r :=
  (does_act (a := .chooseToken)).trans
    ⟨fun ⟨token, _, hds, h⟩ => ⟨token, hds ▸ h⟩, fun ⟨token, h⟩ => ⟨token, ds, rfl, h⟩⟩

/-- A program that goes on with the answer to a single deed, which may be a failure. -/
theorem does_bind_of_single {p : Program α} {deed : Except Failure α → Deed}
    (hp : ∀ ds r, p.Does ds r ↔ ∃ answer, ds = [deed answer] ∧ r = answer) {f : α → Program β}
    {ds : List Deed} {r : Except Failure β} :
    (p >>= f).Does ds r ↔
      (∃ e, ds = [deed (.error e)] ∧ r = .error e) ∨
        ∃ x rest, ds = deed (.ok x) :: rest ∧ (f x).Does rest r := by
  simp only [does_bind, hp]
  constructor
  · rintro (⟨e, ⟨_, rfl, rfl⟩, rfl⟩ | ⟨x, _, after, ⟨_, rfl, rfl⟩, h, rfl⟩)
    · exact .inl ⟨e, rfl, rfl⟩
    · exact .inr ⟨x, after, rfl, h⟩
  · rintro (⟨e, rfl, rfl⟩ | ⟨x, rest, rfl, h⟩)
    · exact .inl ⟨e, ⟨_, rfl, rfl⟩, rfl⟩
    · exact .inr ⟨x, _, rest, ⟨_, rfl, rfl⟩, h, rfl⟩

theorem does_findCustomer_bind {name email : Text} {f : Option CustomerRow → Program α}
    {ds : List Deed} {r : Except Failure α} :
    (findCustomer name email >>= f).Does ds r ↔
      (∃ e, ds = [.lookup name email (.error e)] ∧ r = .error e) ∨
        ∃ found rest, ds = .lookup name email (.ok found) :: rest ∧ (f found).Does rest r :=
  does_bind_of_single fun _ _ => does_findCustomer

theorem does_commit_bind {w : Write} {f : Option Nat → Program α} {ds : List Deed}
    {r : Except Failure α} :
    (commit w >>= f).Does ds r ↔
      (∃ e, ds = [.write w (.error e)] ∧ r = .error e) ∨
        ∃ key rest, ds = .write w (.ok key) :: rest ∧ (f key).Does rest r :=
  does_bind_of_single fun _ _ => does_commit

/-- A program that goes on with the key of the first row of a new group. -/
theorem does_insert_bind {w : Write} {f : Nat → Program α} {ds : List Deed}
    {r : Except Failure α} :
    (insert w >>= f).Does ds r ↔
      (∃ e, ds = [.write w (.error e)] ∧ r = .error e) ∨
        ∃ key rest, ds = .write w (.ok key) :: rest ∧ (f (key.getD 0)).Does rest r := by
  rw [insert, bind_bind]
  exact does_commit_bind

/-- A program that does nothing more after the first one but make something of its result. -/
theorem does_bind_silent {p : Program α} {f : α → Program β} {g : α → β}
    (hf : ∀ x ds r, (f x).Does ds r ↔ ds = [] ∧ r = .ok (g x)) {ds : List Deed} {r : Except Failure β} :
    (p >>= f).Does ds r ↔ ∃ r', p.Does ds r' ∧ r = r'.map g := by
  simp only [does_bind, hf]
  constructor
  · rintro (⟨e, h, rfl⟩ | ⟨x, before, _, h, ⟨rfl, rfl⟩, rfl⟩)
    · exact ⟨.error e, h, rfl⟩
    · rw [List.append_nil]
      exact ⟨.ok x, h, rfl⟩
  · rintro ⟨r', h, rfl⟩
    cases r' with
    | error e => exact .inl ⟨e, h, rfl⟩
    | ok x => exact .inr ⟨x, ds, [], h, ⟨rfl, rfl⟩, (List.append_nil ds).symm⟩

theorem does_bind_pure {p : Program α} {g : α → β} {ds : List Deed} {r : Except Failure β} :
    (p >>= fun x => pure (g x)).Does ds r ↔ ∃ r', p.Does ds r' ∧ r = r'.map g :=
  does_bind_silent fun _ _ _ => does_pure

/-- Noting a result and passing it on changes nothing about what is done. -/
theorem does_bind_note {p : Program α} {entry : α → Journal.Entry} {ds : List Deed}
    {r : Except Failure α} :
    (p >>= fun x => note (entry x) >>= fun _ => pure x).Does ds r ↔ p.Does ds r := by
  have hf (x : α) (ds : List Deed) (r : Except Failure α) :
      (note (entry x) >>= fun _ => (pure x : Program α)).Does ds r ↔ ds = [] ∧ r = .ok (id x) := by
    rw [does_note_bind, does_pure]
    rfl
  rw [does_bind_silent hf]
  simp only [Except.map_id, id_eq, exists_eq_right']

end Program

/-! ### Store.Undergoes -/

/-- The store undergoes the deeds, one after the other, and becomes another one: its answers are those
of the deeds, and a group of rows that it refuses leaves it as it is. -/
inductive Store.Undergoes : Store → List Deed → Store → Prop where
  /-- Nothing happens. -/
  | nil (s : Store) : Undergoes s [] s
  /-- A call does not concern the store. -/
  | call {s t : Store} {ds : List Deed} (c : Provider.Call) (reply : Provider.Reply) :
      Undergoes s ds t → Undergoes s (.call c reply :: ds) t
  /-- A look changes nothing. -/
  | lookup {s t : Store} {ds : List Deed} (name email : Text) :
      Undergoes s ds t → Undergoes s (.lookup name email (s.askCustomer name email) :: ds) t
  /-- A group of rows is refused. -/
  | refused {s t : Store} {ds : List Deed} {w : Write} {e : Failure} :
      w.apply s = .error e → Undergoes s ds t → Undergoes s (.write w (.error e) :: ds) t
  /-- A group of rows is taken. -/
  | taken {s s' t : Store} {ds : List Deed} {w : Write} {key : Option Nat} :
      w.apply s = .ok (key, s') → Undergoes s' ds t → Undergoes s (.write w (.ok key) :: ds) t

namespace Store

variable {s t : Store} {ds before after : List Deed} {w : Write}

@[simp] theorem undergoes_nil : s.Undergoes [] t ↔ t = s := by
  constructor
  · rintro ⟨⟩
    rfl
  · rintro rfl
    exact .nil t

@[simp] theorem undergoes_call {c : Provider.Call} {reply : Provider.Reply} :
    s.Undergoes (.call c reply :: ds) t ↔ s.Undergoes ds t := by
  constructor
  · intro h
    cases h with
    | call _ _ h => exact h
  · exact .call c reply

@[simp] theorem undergoes_lookup {name email : Text} {answer : Except Failure (Option CustomerRow)} :
    s.Undergoes (.lookup name email answer :: ds) t ↔
      answer = s.askCustomer name email ∧ s.Undergoes ds t := by
  constructor
  · intro h
    cases h with
    | lookup _ _ h => exact ⟨rfl, h⟩
  · rintro ⟨rfl, h⟩
    exact .lookup name email h

@[simp] theorem undergoes_refused {e : Failure} :
    s.Undergoes (.write w (.error e) :: ds) t ↔ w.apply s = .error e ∧ s.Undergoes ds t := by
  constructor
  · intro h
    cases h with
    | refused hw h => exact ⟨hw, h⟩
  · rintro ⟨hw, h⟩
    exact .refused hw h

@[simp] theorem undergoes_taken {key : Option Nat} :
    s.Undergoes (.write w (.ok key) :: ds) t ↔ ∃ s', w.apply s = .ok (key, s') ∧ s'.Undergoes ds t := by
  constructor
  · intro h
    cases h with
    | taken hw h => exact ⟨_, hw, h⟩
  · rintro ⟨s', hw, h⟩
    exact .taken hw h

theorem undergoes_append :
    s.Undergoes (before ++ after) t ↔ ∃ m, s.Undergoes before m ∧ m.Undergoes after t := by
  constructor
  · intro h
    -- The store between the two parts is the one that the first deeds leave, whatever they were.
    induction before generalizing s with
    | nil => exact ⟨s, .nil s, h⟩
    | cons d ds ih =>
      cases h with
      | call c reply h =>
        obtain ⟨m, h1, h2⟩ := ih h
        exact ⟨m, .call c reply h1, h2⟩
      | lookup name email h =>
        obtain ⟨m, h1, h2⟩ := ih h
        exact ⟨m, .lookup name email h1, h2⟩
      | refused hw h =>
        obtain ⟨m, h1, h2⟩ := ih h
        exact ⟨m, .refused hw h1, h2⟩
      | taken hw h =>
        obtain ⟨m, h1, h2⟩ := ih h
        exact ⟨m, .taken hw h1, h2⟩
  · rintro ⟨m, h1, h2⟩
    induction h1 with
    | nil s => exact h2
    | call c reply _ ih => exact .call c reply (ih h2)
    | lookup name email _ ih => exact .lookup name email (ih h2)
    | refused hw _ ih => exact .refused hw (ih h2)
    | taken hw _ ih => exact .taken hw (ih h2)

/-! ### Store.exchanges -/

/-- The calls among deeds that a store undergoes. -/
def exchanges : Store → List Deed → List Exchange
  | _, [] => []
  | s, .call c reply :: ds => ⟨c, reply, s⟩ :: s.exchanges ds
  | s, .lookup _ _ _ :: ds => s.exchanges ds
  | s, .write w _ :: ds =>
    match w.apply s with
    | .ok (_, s') => s'.exchanges ds
    | .error _ => s.exchanges ds

theorem exchanges_write {answer : Except Failure (Option Nat)} :
    s.exchanges [.write w answer] = [] := by
  rw [exchanges]
  split <;> rfl

/-- The calls among deeds after which others follow. -/
theorem exchanges_append (h : s.Undergoes before t) :
    s.exchanges (before ++ after) = s.exchanges before ++ t.exchanges after := by
  induction h with
  | nil s => rfl
  | call c reply _ ih => exact congrArg _ ih
  | lookup name email _ ih => exact ih
  | refused hw _ ih =>
    simp only [List.cons_append, exchanges, hw]
    exact ih
  | taken hw _ ih =>
    simp only [List.cons_append, exchanges, hw]
    exact ih

end Store

/-! ### Desk.deeds -/

namespace Desk

variable {α : Type}

/-- The deeds of the run of a program. -/
def deeds : Program α → Desk → List Deed
  | .done _, _ => []
  | .fail _, _ => []
  | .act a next, d => a.deeds (d.perform a).1 ++ deeds (next (d.perform a).1) (d.perform a).2

/-- The run of a program is one of the ways for it to go. -/
theorem run_does (p : Program α) (d : Desk) : p.Does (deeds p d) (run p d).1 := by
  induction p generalizing d with
  | done x => exact .done x
  | fail e => exact .fail e
  | act a next ih => exact .act (d.perform a).1 (ih _ _)

/-- An action at a desk where nobody interferes. -/
theorem perform_undergoes (d : Desk) (hd : d.methodVanishes = false) (a : Action) :
    d.store.Undergoes (a.deeds (d.perform a).1) (d.perform a).2.store ∧
      (d.perform a).2.methodVanishes = false := by
  cases a with
  | note entry => exact ⟨.nil _, hd⟩
  | chooseToken =>
    show d.store.Undergoes [] d.chooseToken.2.store ∧ d.chooseToken.2.methodVanishes = false
    unfold chooseToken
    split <;> exact ⟨.nil _, hd⟩
  | call c =>
    show d.store.Undergoes [.call c (d.call c).1] (d.call c).2.store ∧
      (d.call c).2.methodVanishes = false
    rw [Store.undergoes_call, Store.undergoes_nil]
    unfold Desk.call
    dsimp only
    split <;> exact ⟨rfl, hd⟩
  | findCustomer name email => exact ⟨.lookup name email (.nil _), hd⟩
  | commit w =>
    show d.store.Undergoes [.write w (d.commit w).1] (d.commit w).2.store ∧
      (d.commit w).2.methodVanishes = false
    -- Nobody deletes the payment method before it gets its owner.
    have hbefore : d.storeBefore w = .ok d.store := by
      unfold storeBefore
      split
      · simp [hd]
      · rfl
    simp only [commit, hbefore]
    cases hw : w.apply d.store with
    | error e => exact ⟨.refused hw (.nil _), hd⟩
    | ok result => exact ⟨.taken hw (.nil _), hd⟩

/-- The store undergoes the deeds of a run when nobody interferes. -/
theorem run_undergoes (p : Program α) (d : Desk) (hd : d.methodVanishes = false) :
    d.store.Undergoes (deeds p d) (run p d).2.store := by
  induction p generalizing d with
  | done x => exact .nil _
  | fail e => exact .nil _
  | act a next ih =>
    obtain ⟨h, hd'⟩ := perform_undergoes d hd a
    exact Store.undergoes_append.2 ⟨_, h, ih _ _ hd'⟩

/-! ### Desk.exchanges -/

/-- The calls of the run of a program, in order. -/
def exchanges : Program α → Desk → List Exchange
  | .done _, _ => []
  | .fail _, _ => []
  | .act (.call c) next, d => ⟨c, (d.call c).1, d.store⟩ :: exchanges (next (d.call c).1) (d.call c).2
  | .act a next, d => exchanges (next (d.perform a).1) (d.perform a).2

/-- The calls of a run are those among its deeds when nobody interferes. -/
theorem exchanges_eq (p : Program α) (d : Desk) (hd : d.methodVanishes = false) :
    exchanges p d = d.store.exchanges (deeds p d) := by
  induction p generalizing d with
  | done x => rfl
  | fail e => rfl
  | act a next ih =>
    obtain ⟨h, hd'⟩ := perform_undergoes d hd a
    -- The calls after the action are made in the store that it left.
    rw [deeds, Store.exchanges_append h, ← ih _ _ hd']
    cases a with
    | call c => rfl
    | commit w =>
      show _ = d.store.exchanges [.write w (d.commit w).1] ++ _
      rw [Store.exchanges_write]
      rfl
    | _ => rfl

theorem calls_perform (d : Desk) {a : Action} (ha : ∀ c, a ≠ .call c) :
    (d.perform a).2.calls = d.calls := by
  cases a with
  | note entry => rfl
  | chooseToken =>
    show d.chooseToken.2.calls = d.calls
    rw [chooseToken]
    split <;> rfl
  | call c => exact absurd rfl (ha c)
  | findCustomer name email => rfl
  | commit w =>
    show (d.commit w).2.calls = d.calls
    rw [commit]
    split
    · rfl
    · split <;> rfl

/-- A call is answered with the reply that waits first, as it is taken in, and concerns nothing else. -/
theorem call_eq (d : Desk) (c : Provider.Call) :
    d.call c = ((d.replies.headD noReply).takenIn d.room,
      { d with calls := d.calls ++ [c], replies := d.replies.tail }) := by
  unfold Desk.call
  dsimp only
  split
  · next reply rest hreplies => rw [hreplies]; rfl
  · next hreplies => rw [hreplies]; rfl

theorem calls_call (d : Desk) (c : Provider.Call) : (d.call c).2.calls = d.calls ++ [c] := by
  rw [call_eq]

/-- The calls that are on record after a run are those before it and those of the run. -/
theorem calls_run (p : Program α) (d : Desk) :
    (run p d).2.calls = d.calls ++ (exchanges p d).map Exchange.call := by
  induction p generalizing d with
  | done x => simp [run, exchanges]
  | fail e => simp [run, exchanges]
  | act a next ih =>
    rw [run, ih]
    cases a with
    | call c =>
      show (d.call c).2.calls ++ _ = d.calls ++ c :: _
      rw [calls_call, List.append_assoc]
      rfl
    | _ => exact congrArg (· ++ _) (calls_perform d nofun)

/-! ### A single call -/

/-- Two desks have the same store, the same calls on record, the same replies that wait and the same room. -/
structure IsLike (d d' : Desk) : Prop where
  store : d'.store = d.store
  calls : d'.calls = d.calls
  replies : d'.replies = d.replies
  room : d'.room = d.room

theorem IsLike.trans {d d' d'' : Desk} (h : d.IsLike d') (h' : d'.IsLike d'') : d.IsLike d'' :=
  ⟨h'.store.trans h.store, h'.calls.trans h.calls, h'.replies.trans h.replies, h'.room.trans h.room⟩

/-- An action that is no deed leaves these things as they are. -/
theorem isLike_perform {d : Desk} {a : Action} (h : a.deeds (d.perform a).1 = []) : d.IsLike (d.perform a).2 := by
  cases a with
  | note entry => exact ⟨rfl, rfl, rfl, rfl⟩
  | chooseToken =>
    show d.IsLike d.chooseToken.2
    rw [chooseToken]
    split <;> exact ⟨rfl, rfl, rfl, rfl⟩
  | _ => cases h

theorem isLike_run {p : Program α} {d : Desk} (h : deeds p d = []) : d.IsLike (run p d).2 := by
  induction p generalizing d with
  | done x => exact ⟨rfl, rfl, rfl, rfl⟩
  | fail e => exact ⟨rfl, rfl, rfl, rfl⟩
  | act a next ih =>
    obtain ⟨hfirst, hrest⟩ := List.append_eq_nil_iff.1 h
    exact (isLike_perform hfirst).trans (ih _ hrest)

/-- The only deed of a run is a call: it is answered with the reply that waits first, as it is taken in. -/
theorem run_of_deeds_call {p : Program α} {d : Desk} {c : Provider.Call} {reply : Provider.Reply}
    (h : deeds p d = [.call c reply]) :
    reply = (d.replies.headD noReply).takenIn d.room ∧
      IsLike { d with calls := d.calls ++ [c], replies := d.replies.tail } (run p d).2 := by
  induction p generalizing d with
  | done x => cases h
  | fail e => cases h
  | act a next ih =>
    rcases List.append_eq_cons_iff.1 h with ⟨hfirst, hrest⟩ | ⟨others, hfirst, hrest⟩
    · -- The action is no deed, so the call comes later.
      have hlike := isLike_perform hfirst
      obtain ⟨hreply, hafter⟩ := ih _ hrest
      rw [hlike.replies, hlike.room] at hreply
      exact ⟨hreply, ⟨hafter.store.trans hlike.store,
        hafter.calls.trans (congrArg (· ++ [c]) hlike.calls),
        hafter.replies.trans (congrArg List.tail hlike.replies), hafter.room.trans hlike.room⟩⟩
    · cases a with
      | call c' =>
        obtain ⟨hcall, rfl⟩ := List.cons.inj hfirst
        obtain ⟨rfl, hreply⟩ := Deed.call.inj hcall
        have hcalled : d.perform (.call c') = d.call c' := rfl
        rw [hcalled, call_eq] at hreply
        have hdone := isLike_run hrest.symm
        rw [hcalled, call_eq] at hdone
        rw [run, hcalled, call_eq]
        exact ⟨hreply.symm, hdone⟩
      | _ => cases hfirst

end Desk

end CardPayments
