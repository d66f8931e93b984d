import CardPayments.Payment.Process
import CardPayments.Proofs.Program.Deeds

/-!
# Payments at the same time

A hall is a store with several clients around it, each of whom takes a payment of its own, with its own
replies and tokens.  The clients share nothing but the store, and a schedule says in which order they act;
an action is never interrupted (`Hall.advance`), but between any two actions of one client the others may do
as much as they like.

`Hall.history` lists what is done under a schedule, with the one who did it.  The store underwent all of it
(`Hall.history_undergoes`), and what one client did is the beginning of one of the ways for its payment to go
(`Hall.own_history_does`): nothing else is needed to reason about payments at the same time.  A client who is
left alone pays as at a desk (`Hall.exists_run_alone`).
-/

namespace CardPayments

/-- The result of a program that has ended. -/
def Program.result? {α : Type} : Program α → Option (Except Failure α)
  | .done x => some (.ok x)
  | .fail e => some (.error e)
  | .act _ _ => none

/-! ### Hall -/

/-- A client with the payment that it takes, and the desk with its replies and tokens. -/
structure Client where
  service : PaymentService
  /-- The time of the payment. -/
  now : DateTime
  request : PaymentRequest
  /-- The store of the desk does not matter. -/
  desk : Desk

/-- What a client still has to do, and its desk. -/
structure Seat where
  rest : Program PaymentResult
  desk : Desk

/-- Clients around a store. -/
structure Hall (n : Nat) where
  /-- The store that they share. -/
  store : Store
  seats : Fin n → Seat

namespace Hall

variable {n : Nat}

/-- The hall in which nobody has done anything yet. -/
def of (store : Store) (clients : Fin n → Client) : Hall n where
  store := store
  seats i := ⟨(clients i).service.process (clients i).now (clients i).request, (clients i).desk⟩

/-- The desk of a client, with the store that all share. -/
def deskOf (h : Hall n) (i : Fin n) : Desk := { (h.seats i).desk with store := h.store }

/-- A client does its next action, if there is one. -/
def advance (h : Hall n) (i : Fin n) : Hall n :=
  match (h.seats i).rest with
  | .act a next =>
    let (answer, desk) := (h.deskOf i).perform a
    ⟨desk.store, Function.update h.seats i ⟨next answer, desk⟩⟩
  | _ => h

/-- The clients act in the order of a schedule. -/
def run (h : Hall n) (schedule : List (Fin n)) : Hall n := schedule.foldl advance h

/-- What a client does with its next action. -/
def nextDeeds (h : Hall n) (i : Fin n) : List Deed :=
  match (h.seats i).rest with
  | .act a _ => a.deeds ((h.deskOf i).perform a).1
  | _ => []

/-- What is done under a schedule, and by whom. -/
def history (h : Hall n) : List (Fin n) → List (Fin n × Deed)
  | [] => []
  | i :: schedule => (h.nextDeeds i).map (i, ·) ++ (h.advance i).history schedule

/-- What one client did. -/
def own (i : Fin n) (past : List (Fin n × Deed)) : List Deed :=
  (past.filter fun x => x.1 = i).map Prod.snd

/-- Nobody deletes payment methods. -/
def IsPeaceful (h : Hall n) : Prop := ∀ i, (h.seats i).desk.methodVanishes = false

variable {h : Hall n} {i j : Fin n}

@[simp] theorem run_nil : h.run [] = h := rfl

@[simp] theorem run_cons {schedule : List (Fin n)} :
    h.run (i :: schedule) = (h.advance i).run schedule := rfl

theorem run_append {first later : List (Fin n)} :
    h.run (first ++ later) = (h.run first).run later := List.foldl_append

theorem history_append {first later : List (Fin n)} :
    h.history (first ++ later) = h.history first ++ (h.run first).history later := by
  induction first generalizing h with
  | nil => rfl
  | cons i first ih => rw [List.cons_append, history, ih, history, List.append_assoc, run_cons]

theorem mem_own {past : List (Fin n × Deed)} {d : Deed} : d ∈ own i past ↔ (i, d) ∈ past := by
  simp [own]

theorem own_append {past later : List (Fin n × Deed)} :
    own i (past ++ later) = own i past ++ own i later := by
  rw [own, List.filter_append, List.map_append, own, own]

/-- What a client does is its own. -/
theorem own_map_self {ds : List Deed} : own i (ds.map (i, ·)) = ds := by
  simp [own, List.filter_map, Function.comp_def]

theorem own_map_of_ne {ds : List Deed} (hij : j ≠ i) : own i (ds.map (j, ·)) = [] := by
  simp [own, List.filter_map, Function.comp_def, hij]

/-! ### One action -/

/-- What comes of a client's next action. -/
theorem advance_of_act {a : Action} {next : a.Answer → Program PaymentResult}
    (hrest : (h.seats i).rest = .act a next) :
    let answer := ((h.deskOf i).perform a).1
    let desk := ((h.deskOf i).perform a).2
    (h.advance i).store = desk.store ∧ (h.advance i).seats i = ⟨next answer, desk⟩ ∧
      h.nextDeeds i = a.deeds answer := by
  unfold advance nextDeeds
  rw [hrest]
  exact ⟨rfl, Function.update_self .., rfl⟩

/-- A client whose payment has ended does nothing. -/
theorem advance_of_ended (hrest : ∀ a next, (h.seats i).rest ≠ .act a next) :
    h.advance i = h ∧ h.nextDeeds i = [] := by
  unfold advance nextDeeds
  cases hp : (h.seats i).rest with
  | act a next => exact absurd hp (hrest a next)
  | _ => exact ⟨rfl, rfl⟩

/-- What the others do leaves a client at its place. -/
theorem seats_advance_of_ne (hij : i ≠ j) : (h.advance j).seats i = h.seats i := by
  unfold advance
  split
  · exact Function.update_of_ne hij _ _
  · rfl

/-- The store undergoes what a client does. -/
theorem advance_undergoes (hp : h.IsPeaceful) (i : Fin n) :
    h.store.Undergoes (h.nextDeeds i) (h.advance i).store ∧ (h.advance i).IsPeaceful := by
  by_cases hrest : ∃ a next, (h.seats i).rest = .act a next
  · obtain ⟨a, next, hrest⟩ := hrest
    obtain ⟨hstore, hseat, hdeeds⟩ := advance_of_act hrest
    obtain ⟨hundergoes, hpeace⟩ := Desk.perform_undergoes (h.deskOf i) (hp i) a
    rw [hstore, hdeeds]
    refine ⟨hundergoes, fun j => ?_⟩
    by_cases hij : j = i
    · subst hij
      rw [hseat]
      exact hpeace
    · rw [seats_advance_of_ne hij]
      exact hp j
  · obtain ⟨hadvance, hdeeds⟩ := advance_of_ended fun a next hact => hrest ⟨a, next, hact⟩
    rw [hadvance, hdeeds]
    exact ⟨.nil _, hp⟩

/-- What a client does with its next action belongs to its payment. -/
theorem nextDeeds_does {ds : List Deed} {r : Except Failure PaymentResult}
    (h' : ((h.advance i).seats i).rest.Does ds r) : (h.seats i).rest.Does (h.nextDeeds i ++ ds) r := by
  by_cases hrest : ∃ a next, (h.seats i).rest = .act a next
  · obtain ⟨a, next, hrest⟩ := hrest
    obtain ⟨_, hseat, hdeeds⟩ := advance_of_act hrest
    rw [hseat] at h'
    rw [hrest, hdeeds]
    exact .act _ h'
  · obtain ⟨hadvance, hdeeds⟩ := advance_of_ended fun a next hact => hrest ⟨a, next, hact⟩
    rw [hadvance] at h'
    rwa [hdeeds, List.nil_append]

/-- A look is answered from the store that all share. -/
theorem answer_of_lookup {name email : Text} {answer : Except Failure (Option CustomerRow)}
    (hd : .lookup name email answer ∈ h.nextDeeds i) : answer = h.store.askCustomer name email := by
  unfold nextDeeds at hd
  cases hrest : (h.seats i).rest with
  | act a next =>
    rw [hrest] at hd
    cases a with
    | findCustomer name' email' =>
      cases List.mem_singleton.1 hd
      rfl
    | note entry => cases hd
    | chooseToken => cases hd
    | call c => cases List.mem_singleton.1 hd
    | commit w => cases List.mem_singleton.1 hd
  | _ =>
    rw [hrest] at hd
    cases hd

/-! ### Whole schedules -/

/-- The store undergoes what is done under a schedule. -/
theorem history_undergoes (hp : h.IsPeaceful) (schedule : List (Fin n)) :
    h.store.Undergoes ((h.history schedule).map Prod.snd) (h.run schedule).store ∧
      (h.run schedule).IsPeaceful := by
  induction schedule generalizing h with
  | nil => exact ⟨.nil _, hp⟩
  | cons i schedule ih =>
    obtain ⟨hfirst, hp⟩ := advance_undergoes hp i
    obtain ⟨hlater, hp⟩ := ih hp
    have hdeeds : ((h.nextDeeds i).map (i, ·)).map Prod.snd = h.nextDeeds i := by
      simp [Function.comp_def]
    rw [history, List.map_append, hdeeds]
    exact ⟨Store.undergoes_append.2 ⟨_, hfirst, hlater⟩, hp⟩

/-- What a client did is the beginning of one of the ways for its payment to go, whatever the others did
in between. -/
theorem own_history_does (h : Hall n) (schedule : List (Fin n)) (i : Fin n) :
    ∃ more r, (h.seats i).rest.Does (own i (h.history schedule) ++ more) r := by
  induction schedule generalizing h with
  | nil => exact ⟨_, _, Desk.run_does (h.seats i).rest {}⟩
  | cons j schedule ih =>
    obtain ⟨more, r, hdoes⟩ := ih (h.advance j)
    refine ⟨more, r, ?_⟩
    rw [history, own_append]
    by_cases hij : i = j
    · subst hij
      rw [own_map_self, List.append_assoc]
      exact nextDeeds_does hdoes
    · rw [own_map_of_ne (Ne.symm hij), List.nil_append]
      rwa [seats_advance_of_ne hij] at hdoes

/-! ### A client alone -/

/-- A client who is left alone long enough comes to the end of its payment, and leaves its desk and the
store as its payment does. -/
theorem exists_run_alone (h : Hall n) (i : Fin n) :
    ∃ m, let alone := h.run (List.replicate m i)
      let payment := (h.deskOf i).run (h.seats i).rest
      alone.deskOf i = payment.2 ∧ (alone.seats i).rest.result? = some payment.1 := by
  generalize hp : (h.seats i).rest = p
  induction p generalizing h with
  | done x =>
    refine ⟨0, rfl, ?_⟩
    show (h.seats i).rest.result? = _
    rw [hp]
    rfl
  | fail e =>
    refine ⟨0, rfl, ?_⟩
    show (h.seats i).rest.result? = _
    rw [hp]
    rfl
  | act a next ih =>
    obtain ⟨hstore, hseat, _⟩ := advance_of_act hp
    have hdesk : (h.advance i).deskOf i = ((h.deskOf i).perform a).2 := by
      rw [deskOf, hstore, hseat]
    obtain ⟨m, hm⟩ := ih _ (h.advance i) (congrArg Seat.rest hseat)
    rw [hdesk] at hm
    exact ⟨m + 1, hm⟩

end Hall

end CardPayments
