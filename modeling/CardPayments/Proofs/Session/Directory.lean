import CardPayments.Proofs.Payment.Service
import CardPayments.Proofs.Session.Task
import CardPayments.Proofs.Store.Provider

/-!
# The directory that all share

Providers are written, changed and deleted while the shared directory is asked for, loaded again, forgotten, and
used to make payment services, in any order.  Each of these tasks loads the directory, forgets it or leaves it as
it is (`DirectoryTask.perform_becomes`).  So what the directory holds is known from the history of the tasks alone:
the providers as they were at the last load, if it was not forgotten after that (`Session.after_keepsDirectory`).
-/

namespace CardPayments

open Json

namespace Session

/-! ### Tasks -/

/-- One thing that is done with the payment providers or with the directory that all share. -/
inductive DirectoryTask where
  /-- A provider is written. -/
  | insert (draft : ProviderDraft)
  /-- A provider is changed. -/
  | update (key : Value) (change : ProviderDraft → ProviderDraft)
  /-- A provider is deleted. -/
  | delete (key : Value)
  /-- The directory is asked for. -/
  | ask
  /-- The directory is loaded again. -/
  | refresh
  /-- The directory is loaded again and reported on. -/
  | report
  /-- The directory is forgotten. -/
  | reset
  /-- A payment service is made. -/
  | construct (options : ServiceOptions)

namespace DirectoryTask

/-- What a task gives when it does not fail. -/
def Result : DirectoryTask → Type
  | insert _ => Nat
  | update _ _ => Nat
  | delete _ => Nat
  | ask => Directory
  | refresh => Nat
  | report => Text
  | reset => Unit
  | construct _ => PaymentService

/-- The operation of a task. -/
def op : (t : DirectoryTask) → Op t.Result
  | insert draft => change fun store => store.insertProvider draft
  | update key f => do
    let id ← lift (Store.keyOf? key)
    change fun store => store.updateProvider (id.getD 0) f
  | delete key => Session.delete .provider key
  | ask => sharedDirectory
  | refresh => do return (← refreshShared).size
  | report => do return (← refreshShared).report
  | reset => resetShared
  | construct options => makeService options none

/-- What comes of a task, and the session after it. -/
def perform (t : DirectoryTask) (s : Session) : Except Failure t.Result × Session := t.op.run.run s.cleared

/-- Does a task load the directory whether it is there or not? -/
def Refreshes (t : DirectoryTask) : Prop := t = refresh ∨ t = report

/-- Does a task ask for the directory? -/
def Asks (t : DirectoryTask) : Prop := t = ask ∨ ∃ options, t = construct options

/-- No task that needs the directory forgets it. -/
theorem ne_reset {t : DirectoryTask} (h : t.Refreshes ∨ t.Asks) : t ≠ reset := by
  rintro rfl
  rcases h with (h | h) | h | ⟨_, h⟩ <;> cases h

/-- Whoever makes a payment service says where customers return, which device session stands in for a missing
one, and at which account, unless the settings do. -/
def IsConfigured (settings : Settings) : DirectoryTask → Prop
  | construct options =>
    (PaymentService.orSetting options.redirectUrl settings.redirectUrl).isTruthy ∧
      (PaymentService.orSetting options.defaultDeviceSession settings.deviceSession).isTruthy ∧
        (options.account.isSome ∨
          (settings.merchantId.getD "").isTruthy ∧ (settings.privateKey.getD "").isTruthy)
  | _ => True

end DirectoryTask

open DirectoryTask

/-- The session after several tasks, one after the other. -/
def after (s : Session) (ts : List DirectoryTask) : Session := ts.foldl (fun s t => (t.perform s).2) s

/-! ### Histories -/

/-- After some tasks the directory is there: it was asked for or loaded, and not forgotten since. -/
def IsThere (ts : List DirectoryTask) : Prop :=
  ∃ past t later, ts = past ++ t :: later ∧ (t.Refreshes ∨ t.Asks) ∧ reset ∉ later

/-- After some tasks, the next one loads the directory: it does so whenever it comes, or asks for a directory
that is not there. -/
def Loads (past : List DirectoryTask) (t : DirectoryTask) : Prop := t.Refreshes ∨ t.Asks ∧ ¬IsThere past

/-- The directory is there, and was last loaded by the task that came after these. -/
def LastLoadedAfter (past ts : List DirectoryTask) : Prop :=
  ∃ t later, ts = past ++ t :: later ∧ Loads past t ∧ reset ∉ later ∧
    ∀ between u rest, later = between ++ u :: rest → ¬Loads (past ++ t :: between) u

section

variable {past ts later : List DirectoryTask} {t u : DirectoryTask}

/-- A task of a history with one more task is this one, or one of the history. -/
theorem concat_eq_append_cons : ts ++ [t] = past ++ u :: later ↔
    (past = ts ∧ u = t ∧ later = []) ∨ ∃ rest, later = rest ++ [t] ∧ ts = past ++ u :: rest := by
  constructor
  · intro h
    rcases later.eq_nil_or_concat' with rfl | ⟨rest, last, rfl⟩
    · obtain ⟨rfl, hlast⟩ := List.append_inj' h rfl
      obtain rfl := List.singleton_inj.1 hlast
      exact .inl ⟨rfl, rfl, rfl⟩
    · rw [← List.cons_append, ← List.append_assoc] at h
      obtain ⟨rfl, hlast⟩ := List.append_inj' h rfl
      obtain rfl := List.singleton_inj.1 hlast
      exact .inr ⟨rest, rfl, rfl⟩
  · rintro (⟨rfl, rfl, rfl⟩ | ⟨rest, rfl, rfl⟩)
    · rfl
    · rw [List.append_assoc, List.cons_append]

theorem not_isThere_nil : ¬IsThere [] := by
  rintro ⟨past, t, later, h, _⟩
  cases past <;> cases h

theorem isThere_concat : IsThere (ts ++ [t]) ↔ (t.Refreshes ∨ t.Asks) ∨ t ≠ reset ∧ IsThere ts := by
  constructor
  · rintro ⟨past, u, later, h, hu, hreset⟩
    rcases concat_eq_append_cons.1 h with ⟨rfl, rfl, rfl⟩ | ⟨rest, rfl, rfl⟩
    · exact .inl hu
    · rw [List.mem_append, List.mem_singleton, not_or] at hreset
      exact .inr ⟨Ne.symm hreset.2, past, u, rest, rfl, hu, hreset.1⟩
  · rintro (ht | ⟨ht, past, u, later, rfl, hu, hreset⟩)
    · exact ⟨ts, t, [], rfl, ht, List.not_mem_nil⟩
    · refine ⟨past, u, later ++ [t], concat_eq_append_cons.2 (.inr ⟨later, rfl, rfl⟩), hu, ?_⟩
      rw [List.mem_append, List.mem_singleton, not_or]
      exact ⟨hreset, Ne.symm ht⟩

theorem not_lastLoadedAfter_nil : ¬LastLoadedAfter past [] := by
  rintro ⟨t, later, h, _⟩
  cases past <;> cases h

/-- A task that loads the directory is the last one to do so, and one that neither loads nor forgets it leaves
the last one what it was. -/
theorem lastLoadedAfter_concat :
    LastLoadedAfter past (ts ++ [t]) ↔
      Loads ts t ∧ past = ts ∨ ¬Loads ts t ∧ t ≠ reset ∧ LastLoadedAfter past ts := by
  constructor
  · rintro ⟨u, later, h, hu, hreset, hlast⟩
    rcases concat_eq_append_cons.1 h with ⟨rfl, rfl, rfl⟩ | ⟨rest, rfl, rfl⟩
    · exact .inl ⟨hu, rfl⟩
    · rw [List.mem_append, List.mem_singleton, not_or] at hreset
      refine .inr ⟨hlast rest t [] rfl, Ne.symm hreset.2, u, rest, rfl, hu, hreset.1, ?_⟩
      rintro between w tail rfl
      exact hlast between w (tail ++ [t]) (concat_eq_append_cons.2 (.inr ⟨tail, rfl, rfl⟩))
  · rintro (⟨ht, rfl⟩ | ⟨ht, hreset, u, later, rfl, hu, hlater, hlast⟩)
    · refine ⟨t, [], rfl, ht, List.not_mem_nil, ?_⟩
      intro between u rest h
      cases between <;> cases h
    · refine ⟨u, later ++ [t], concat_eq_append_cons.2 (.inr ⟨later, rfl, rfl⟩), hu, ?_, ?_⟩
      · rw [List.mem_append, List.mem_singleton, not_or]
        exact ⟨hlater, Ne.symm hreset⟩
      · intro between w rest h
        rcases concat_eq_append_cons.1 h with ⟨rfl, rfl, rfl⟩ | ⟨tail, rfl, rfl⟩
        · exact ht
        · exact hlast between w tail rfl

theorem lastLoadedAfter_of_loads (h : Loads ts t) : LastLoadedAfter past (ts ++ [t]) ↔ past = ts := by
  rw [lastLoadedAfter_concat]
  constructor
  · rintro (⟨_, hpast⟩ | ⟨hload, _⟩)
    · exact hpast
    · exact absurd h hload
  · exact fun hpast => .inl ⟨h, hpast⟩

theorem not_lastLoadedAfter_of_reset : ¬LastLoadedAfter past (ts ++ [reset]) := by
  rw [lastLoadedAfter_concat]
  rintro (⟨hload, _⟩ | ⟨_, hreset, _⟩)
  · exact ne_reset (hload.imp_right And.left) rfl
  · exact hreset rfl

theorem lastLoadedAfter_of_not_loads (h : ¬Loads ts t) (hreset : t ≠ reset) :
    LastLoadedAfter past (ts ++ [t]) ↔ LastLoadedAfter past ts := by
  rw [lastLoadedAfter_concat]
  constructor
  · rintro (⟨hload, _⟩ | ⟨_, _, hlast⟩)
    · exact absurd hload h
    · exact hlast
  · exact fun hlast => .inr ⟨h, hreset, hlast⟩

end

/-! ### Running a task -/

section

variable {s : Session} {t : DirectoryTask}

/-- The directory that a session shows: the one that all share, or else the one that would be loaded. -/
def shown (s : Session) : Directory := s.directory.getD (.load s.desk.store)

/-- The session after the directory was loaded. -/
def loaded (s : Session) : Session :=
  { s with desk := s.desk.note (Directory.load s.desk.store).loadedEntry, directory := some (.load s.desk.store) }

theorem run_refreshShared (s : Session) :
    refreshShared.run.run s = (.ok (Directory.load s.desk.store), s.loaded) := rfl

theorem run_sharedDirectory (s : Session) :
    sharedDirectory.run.run s = (.ok s.shown, if s.directory = none then s.loaded else s) := by
  rw [sharedDirectory, run_get_bind, shown]
  cases hd : s.directory with
  | none => exact run_refreshShared s
  | some d => rfl

/-- What only changes the store, or fails, leaves the rest as it is. -/
theorem run_change {α : Type} (f : Store → Except Failure (α × Store)) (s : Session) :
    (change f).run.run s = match f s.desk.store with
      | .ok (a, store) => (.ok a, { s with desk := { s.desk with store := store } })
      | .error e => (.error e, s) := by
  rw [change, run_get_bind, run_bind, run_lift]
  rcases f s.desk.store with e | ⟨a, store⟩ <;> rfl

/-- The addresses of a service that is configured are known. -/
theorem addresses_of_isConfigured {settings : Settings} {options : ServiceOptions}
    (h : (construct options).IsConfigured settings) :
    PaymentService.addresses settings options =
      .ok (PaymentService.orSetting options.redirectUrl settings.redirectUrl,
        PaymentService.orSetting options.defaultDeviceSession settings.deviceSession) :=
  PaymentService.addresses_eq_ok.2 ⟨rfl, rfl, h.1, h.2.1⟩

theorem run_makeService {options : ServiceOptions} (h : (construct options).IsConfigured s.settings) :
    (makeService options none).run.run s =
      (PaymentService.withAddresses s.settings options s.shown
        (PaymentService.orSetting options.redirectUrl s.settings.redirectUrl)
        (PaymentService.orSetting options.defaultDeviceSession s.settings.deviceSession),
        if s.directory = none then s.loaded else s) := by
  have hgiven : (Option.mapM directoryNamed none : Op (Option Directory)) = pure none := rfl
  rw [makeService, hgiven, pure_bind, run_get_bind, run_bind, run_lift, addresses_of_isConfigured h]
  dsimp only
  rw [run_bind, run_sharedDirectory]
  exact run_lift _ _

theorem DirectoryTask.perform_ask (s : Session) :
    ask.perform s = (.ok s.shown, if s.directory = none then s.cleared.loaded else s.cleared) :=
  run_sharedDirectory s.cleared

theorem DirectoryTask.perform_construct {options : ServiceOptions}
    (h : (construct options).IsConfigured s.settings) :
    (construct options).perform s =
      (PaymentService.withAddresses s.settings options s.shown
        (PaymentService.orSetting options.redirectUrl s.settings.redirectUrl)
        (PaymentService.orSetting options.defaultDeviceSession s.settings.deviceSession),
        if s.directory = none then s.cleared.loaded else s.cleared) :=
  run_makeService (s := s.cleared) h

/-- A task loads the directory in a session: it does so whenever it comes, or asks for one that is not there. -/
def DirectoryTask.LoadsIn (t : DirectoryTask) (s : Session) : Prop := t.Refreshes ∨ t.Asks ∧ s.directory = none

/-- What a task makes of a session. -/
inductive DirectoryTask.Becomes (t : DirectoryTask) (s : Session) : Session → Prop where
  /-- The directory is loaded. -/
  | loads : t.LoadsIn s → Becomes t s s.cleared.loaded
  /-- The directory is forgotten. -/
  | forgets : t = reset → Becomes t s { s.cleared with directory := none }
  /-- Nothing is changed but the store, in which the providers stay in order. -/
  | keeps (store : Store) : ¬t.LoadsIn s → t ≠ reset →
      (s.desk.store.providers.IsSorted → store.providers.IsSorted) →
      Becomes t s { s.cleared with desk := { s.cleared.desk with store := store } }

/-- A task that asks for the directory loads it unless it is there. -/
theorem DirectoryTask.Becomes.of_asks (ht : t.Asks) :
    t.Becomes s (if s.directory = none then s.cleared.loaded else s.cleared) := by
  have hrefreshes : ¬t.Refreshes := by
    rintro (rfl | rfl) <;> rcases ht with h | ⟨_, h⟩ <;> cases h
  split_ifs with hnone
  · exact .loads (.inr ⟨ht, hnone⟩)
  · refine .keeps s.desk.store ?_ (ne_reset (.inr ht)) id
    rintro (h | ⟨_, h⟩)
    · exact hrefreshes h
    · exact hnone h

/-- A task that neither loads nor asks for the directory, nor forgets it, keeps it. -/
theorem DirectoryTask.Becomes.of_change {α : Type} {f : Store → Except Failure (α × Store)}
    (hload : ¬t.LoadsIn s) (hreset : t ≠ reset)
    (hf : ∀ store a store', f store = .ok (a, store') → store.providers.IsSorted → store'.providers.IsSorted) :
    t.Becomes s ((change f).run.run s.cleared).2 := by
  rw [run_change]
  cases h : f s.cleared.desk.store with
  | error e => exact .keeps s.desk.store hload hreset id
  | ok r => exact .keeps r.2 hload hreset (hf _ _ _ h)

theorem DirectoryTask.perform_becomes (h : t.IsConfigured s.settings) : t.Becomes s (t.perform s).2 := by
  cases t with
  | insert draft =>
    exact .of_change (by simp [LoadsIn, Refreshes, Asks]) nofun fun _ _ _ h hs => Store.insertProvider_sorted hs h
  | update key f =>
    have hload : ¬(update key f).LoadsIn s := by simp [LoadsIn, Refreshes, Asks]
    rw [perform, op, run_bind, run_lift]
    cases Store.keyOf? key with
    | error e => exact .keeps s.desk.store hload nofun id
    | ok id => exact .of_change hload nofun fun _ _ _ h hs => Store.updateProvider_sorted hs h
  | delete key =>
    refine .of_change (by simp [LoadsIn, Refreshes, Asks]) nofun fun _ _ _ h hs => ?_
    obtain ⟨after, hdelete, h⟩ := bind_eq_ok.1 h
    obtain ⟨_, rfl⟩ := Prod.mk.inj (Except.ok.inj h)
    exact Store.delete_provider_sorted hs hdelete
  | ask =>
    rw [perform_ask]
    exact .of_asks (.inl rfl)
  | refresh => exact .loads (.inl (.inl rfl))
  | report => exact .loads (.inl (.inr rfl))
  | reset => exact .forgets rfl
  | construct options =>
    rw [perform_construct h]
    exact .of_asks (.inr ⟨_, rfl⟩)

end

/-! ### What the directory holds -/

section

variable {s : Session} {past ts : List DirectoryTask} {t : DirectoryTask}

theorem after_concat (s : Session) (ts : List DirectoryTask) (t : DirectoryTask) :
    s.after (ts ++ [t]) = (t.perform (s.after ts)).2 := List.foldl_concat ..

/-- What all tasks keep: the settings, and the order of the providers. -/
theorem after_keeps (hsorted : s.desk.store.providers.IsSorted) (hts : ∀ t ∈ ts, t.IsConfigured s.settings) :
    (s.after ts).settings = s.settings ∧ (s.after ts).desk.store.providers.IsSorted := by
  induction ts using List.reverseRecOn with
  | nil => exact ⟨rfl, hsorted⟩
  | append_singleton ts t ih =>
    rw [List.forall_mem_append, List.forall_mem_singleton] at hts
    obtain ⟨hsettings, hsorted⟩ := ih hts.1
    rw [← hsettings] at hts ⊢
    have hbecomes := perform_becomes hts.2
    rw [← after_concat] at hbecomes
    generalize s.after (ts ++ [t]) = s' at hbecomes
    cases hbecomes with
    | loads _ => exact ⟨rfl, hsorted⟩
    | forgets _ => exact ⟨rfl, hsorted⟩
    | keeps store _ _ hstore => exact ⟨rfl, hstore hsorted⟩

/-- The step of a task after some others. -/
theorem becomes_after (hsorted : s.desk.store.providers.IsSorted)
    (hts : ∀ u ∈ ts ++ [t], u.IsConfigured s.settings) :
    t.Becomes (s.after ts) (s.after (ts ++ [t])) := by
  rw [List.forall_mem_append, List.forall_mem_singleton] at hts
  rw [after_concat]
  refine perform_becomes ?_
  rw [(after_keeps hsorted hts.1).1]
  exact hts.2

/-- The directory is there when the history says so. -/
theorem directory_after_eq_none (hdirectory : s.directory = none) (hsorted : s.desk.store.providers.IsSorted)
    (hts : ∀ t ∈ ts, t.IsConfigured s.settings) : (s.after ts).directory = none ↔ ¬IsThere ts := by
  induction ts using List.reverseRecOn with
  | nil => exact iff_of_true hdirectory not_isThere_nil
  | append_singleton ts t ih =>
    have hbecomes := becomes_after hsorted hts
    replace ih := ih (List.forall_mem_append.1 hts).1
    rw [isThere_concat]
    generalize s.after (ts ++ [t]) = s' at hbecomes
    cases hbecomes with
    | loads hload => exact iff_of_false nofun fun h => h (.inl (hload.imp_right And.left))
    | forgets hreset =>
      refine iff_of_true rfl ?_
      rintro (h | ⟨h, _⟩)
      · exact ne_reset h hreset
      · exact h hreset
    | keeps store hload hreset _ =>
      -- A task that asks for the directory only keeps it when it is there.
      show (s.after ts).directory = none ↔ _
      rw [ih, not_iff_not]
      constructor
      · exact fun h => .inr ⟨hreset, h⟩
      · rintro (h | ⟨_, h⟩)
        · by_contra hthere
          exact hload (h.imp_right fun h => ⟨h, ih.2 hthere⟩)
        · exact h

/-- A task loads the directory after some others when the history says so. -/
theorem loadsIn_after (hdirectory : s.directory = none) (hsorted : s.desk.store.providers.IsSorted)
    (hts : ∀ t ∈ ts, t.IsConfigured s.settings) : t.LoadsIn (s.after ts) ↔ Loads ts t := by
  rw [LoadsIn, directory_after_eq_none hdirectory hsorted hts, Loads]

/-- The directory holds what was stored at the last load. -/
theorem directory_after_eq_some (hdirectory : s.directory = none) (hsorted : s.desk.store.providers.IsSorted)
    (hts : ∀ t ∈ ts, t.IsConfigured s.settings) (d : Directory) :
    (s.after ts).directory = some d ↔
      ∃ past, LastLoadedAfter past ts ∧ d.providers = (s.after past).desk.store.providers.rows := by
  induction ts using List.reverseRecOn with
  | nil =>
    refine iff_of_false (fun h => ?_) ?_
    · rw [after, List.foldl_nil, hdirectory] at h
      cases h
    · rintro ⟨past, h, _⟩
      exact not_lastLoadedAfter_nil h
  | append_singleton ts t ih =>
    have hbecomes := becomes_after hsorted hts
    have hfirst := (List.forall_mem_append.1 hts).1
    replace ih := ih hfirst
    have hloads : t.LoadsIn (s.after ts) ↔ Loads ts t := loadsIn_after hdirectory hsorted hfirst
    generalize s.after (ts ++ [t]) = s' at hbecomes
    cases hbecomes with
    | loads hload =>
      simp only [lastLoadedAfter_of_loads (hloads.1 hload), exists_eq_left]
      constructor
      · rintro ⟨⟩
        rfl
      · intro hproviders
        cases d
        cases hproviders
        rfl
    | forgets hreset =>
      subst hreset
      exact iff_of_false nofun fun ⟨_, hlast, _⟩ => not_lastLoadedAfter_of_reset hlast
    | keeps store hload hreset _ =>
      simp only [lastLoadedAfter_of_not_loads (mt hloads.2 hload) hreset]
      exact ih

end

/-! ### What the tasks tell -/

/-- What a task tells, given the directory after it: whoever asks gets it, a refresh tells how many providers it
holds or reports on them, and a payment service can only not be made for want of something when it does not name the
provider. -/
def DirectoryTask.Tells (directory? : Option Directory) : (t : DirectoryTask) → Except Failure t.Result → Prop
  | .ask, r => ∃ d, directory? = some d ∧ r = .ok d
  | .refresh, r => ∃ d, directory? = some d ∧ r = .ok d.providers.length
  | .report, r =>
    ∃ d, directory? = some d ∧
      r = .ok ("Loaded " ++ Text.ofNat d.providers.length ++ " payment providers: " ++ d.namesLine ++ "\n" : Text)
  | .construct _, r =>
    ∃ d, directory? = some d ∧
      ((∃ missing, r = .error (.notConfigured missing)) ↔ ¬d.Names PaymentService.providerName)
  | _, _ => True

/-- What is to be said of the directory after some tasks. -/
structure KeepsDirectory (s : Session) (ts : List DirectoryTask) : Prop where
  /-- It is there when it was loaded or asked for, and not forgotten since. -/
  there : (s.after ts).directory = none ↔ ¬IsThere ts
  /-- It holds the providers as they were stored at the last load. -/
  held : ∀ d, (s.after ts).directory = some d ↔
    ∃ past, LastLoadedAfter past ts ∧ d.providers = (s.after past).desk.store.providers.rows
  /-- They stand in the order of their keys. -/
  sorted : ∀ d, (s.after ts).directory = some d → d.IsSorted
  /-- Of all that have a name, whatever its case, the one with the smallest key is found. -/
  found : ∀ d, (s.after ts).directory = some d → ∀ name,
    (∀ p, d.find? name = some p ↔ d.IsFirstNamed name p) ∧ (d.find? name = none ↔ ¬d.Names name)
  /-- A load is noted, with the number of providers, by the task that makes it, and by no other one. -/
  noted : ∀ past t, ts = past ++ [t] →
    (Loads past t → ∃ d, (s.after ts).directory = some d ∧ (s.after ts).desk.journal =
        [Journal.info .directory
          ("Loaded " ++ Text.ofNat d.providers.length ++ " payment providers into master data")]) ∧
      (¬Loads past t → (s.after ts).desk.journal = [])
  /-- The last task tells what it should. -/
  told : ∀ past t, ts = past ++ [t] → t.Tells (s.after ts).directory (t.perform (s.after past)).1

section

variable {s : Session} {past ts : List DirectoryTask} {t : DirectoryTask}

theorem DirectoryTask.perform_tells (h : t.IsConfigured s.settings) :
    t.Tells (t.perform s).2.directory (t.perform s).1 := by
  have hshown : (if s.directory = none then s.cleared.loaded else s.cleared).directory = some s.shown := by
    rw [shown]
    cases hd : s.directory with
    | none => rfl
    | some d => exact hd
  cases t with
  | ask =>
    rw [perform_ask]
    exact ⟨s.shown, hshown, rfl⟩
  | refresh => exact ⟨_, rfl, rfl⟩
  | report => exact ⟨_, rfl, rfl⟩
  | construct options =>
    rw [perform_construct h]
    exact ⟨s.shown, hshown, PaymentService.withAddresses_notConfigured h.2.2 _ _ _⟩
  | _ => trivial

/-- **The shared directory**: providers may be written, changed and deleted, and the directory asked for, loaded
again, reported on, forgotten and used for making payment services, in any order.  When it is there, it holds the
providers as they were at the last load, in the order of their keys, whatever has happened to them since; it is
loaded by every refresh, which tells how many providers it holds, and by whoever needs it when it is not there; and a
payment service is made unless the directory, and not the store, lacks the provider. -/
theorem after_keepsDirectory (s : Session) (hdirectory : s.directory = none)
    (hsorted : s.desk.store.providers.IsSorted) (ts : List DirectoryTask)
    (hts : ∀ t ∈ ts, t.IsConfigured s.settings) : s.KeepsDirectory ts := by
  have horder (d : Directory) (hd : (s.after ts).directory = some d) : d.IsSorted := by
    obtain ⟨past, ⟨t, later, rfl, _⟩, hproviders⟩ := (directory_after_eq_some hdirectory hsorted hts d).1 hd
    rw [Directory.IsSorted, hproviders]
    exact (after_keeps hsorted (List.forall_mem_append.1 hts).1).2.sorted
  refine ⟨directory_after_eq_none hdirectory hsorted hts, directory_after_eq_some hdirectory hsorted hts, horder,
    fun d hd name => ⟨fun p => Directory.find?_eq_some_iff (horder d hd), Directory.find?_eq_none_iff⟩, ?_, ?_⟩
  · rintro past t rfl
    rw [← loadsIn_after hdirectory hsorted (List.forall_mem_append.1 hts).1]
    have hbecomes := becomes_after hsorted hts
    generalize s.after (past ++ [t]) = s' at hbecomes
    cases hbecomes with
    | loads hload => exact ⟨fun _ => ⟨_, rfl, rfl⟩, fun h => absurd hload h⟩
    | forgets hreset => exact ⟨fun h => absurd hreset (ne_reset (h.imp_right And.left)), fun _ => rfl⟩
    | keeps store hload => exact ⟨fun h => absurd h hload, fun _ => rfl⟩
  · rintro past t rfl
    have hkeeps := after_keeps hsorted (List.forall_mem_append.1 hts).1
    rw [after_concat]
    refine perform_tells ?_
    rw [hkeeps.1]
    exact hts t (List.mem_append_right _ (List.mem_singleton_self t))

/-- Tasks that take the provider away, and put another one of its name in its place, behind the back of the
directory. -/
def trialDirectoryTasks : List DirectoryTask :=
  [.ask, .delete (.int 1), .insert { name := "openpay" }, .construct {}]

/-- After that a provider of another name is added. -/
def trialAdditions : List DirectoryTask := trialDirectoryTasks ++ [.insert { name := "Other" }]

/-- After the trial tasks, the directory holds the provider that was there at first.  A refresh brings in the two that
are there now, and tells so. -/
theorem trial_keepsDirectory :
    trialSession.directory = none ∧ trialSession.desk.store.providers.IsSorted ∧
      (∀ t ∈ trialAdditions ++ [.refresh], t.IsConfigured trialSession.settings) ∧
      (trialSession.after trialDirectoryTasks).directory.map (fun d => d.providers.map ProviderRow.id) = some [1] ∧
      (trialSession.after trialDirectoryTasks).desk.store.providers.rows.map ProviderRow.id = [2] ∧
      (DirectoryTask.refresh.perform (trialSession.after trialAdditions)).1 = .ok (2 : Nat) ∧
      (trialSession.after (trialAdditions ++ [.refresh])).directory.map
        (fun d => d.providers.map ProviderRow.id) = some [2, 3] ∧
      trialSession.KeepsDirectory (trialAdditions ++ [.refresh]) := by
  have hsorted : trialSession.desk.store.providers.IsSorted :=
    ⟨List.forall_mem_singleton.2 (by decide), List.pairwise_singleton _ _⟩
  have hconfigured : ∀ t ∈ trialAdditions ++ [.refresh], t.IsConfigured trialSession.settings := by
    simp only [trialAdditions, trialDirectoryTasks, List.forall_mem_append, List.forall_mem_cons]
    exact ⟨⟨⟨trivial, trivial, trivial, ⟨rfl, rfl, .inr ⟨rfl, rfl⟩⟩, List.forall_mem_nil _⟩, trivial,
      List.forall_mem_nil _⟩, trivial, List.forall_mem_nil _⟩
  exact ⟨rfl, hsorted, hconfigured, by decide +kernel, by decide +kernel, by rfl, by decide +kernel,
    after_keepsDirectory trialSession rfl hsorted _ hconfigured⟩

end

end Session

end CardPayments
