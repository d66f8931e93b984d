import CardPayments.Store.Row

/-!
# Tables

A table is its rows in the order in which they were written, and the key that the next row gets.  Keys
grow by one and are never given again, also not after the row is gone.
-/

namespace CardPayments

/-- A kind of rows that have a key. -/
class Keyed (ρ : Type) where
  /-- The key of a row. -/
  key : ρ → Nat

instance : Keyed ProviderRow := ⟨ProviderRow.id⟩
instance : Keyed MethodRow := ⟨MethodRow.id⟩
instance : Keyed CustomerRow := ⟨CustomerRow.id⟩
instance : Keyed KeyInfoRow := ⟨KeyInfoRow.id⟩
instance : Keyed TransactionRow := ⟨TransactionRow.id⟩
instance : Keyed HistoryRow := ⟨HistoryRow.id⟩
instance : Keyed LogRow := ⟨LogRow.id⟩
instance : Keyed DetailsRow := ⟨DetailsRow.id⟩

/-- A table. -/
structure Table (ρ : Type) where
  /-- The rows, oldest first. -/
  rows : List ρ
  /-- The key of the next row. -/
  next : Nat
  deriving DecidableEq

namespace Table

variable {ρ : Type}

/-- The table without rows. -/
def empty : Table ρ := ⟨[], 1⟩

/-- Adds a row that is made from its key. -/
def insert (t : Table ρ) (make : Nat → ρ) : Table ρ := ⟨t.rows ++ [make t.next], t.next + 1⟩

variable [Keyed ρ]

/-- The row with the given key. -/
def find? (t : Table ρ) (id : Nat) : Option ρ := t.rows.find? fun r => Keyed.key r = id

/-- Is there a row with the given key? -/
def has (t : Table ρ) (id : Nat) : Bool := (t.find? id).isSome

/-- Changes the row with the given key. -/
def modify (t : Table ρ) (id : Nat) (change : ρ → ρ) : Table ρ :=
  { t with rows := t.rows.map fun r => if Keyed.key r = id then change r else r }

omit [Keyed ρ] in
/-- Keeps the rows that have a property. -/
def keep (t : Table ρ) (p : ρ → Bool) : Table ρ := { t with rows := t.rows.filter p }

end Table

/-! ### Store -/

/-- The eight tables. -/
structure Store where
  /-- The payment providers. -/
  providers : Table ProviderRow
  /-- The payment methods. -/
  methods : Table MethodRow
  /-- The billing customers. -/
  customers : Table CustomerRow
  /-- The named values of the billing customers. -/
  keyInfos : Table KeyInfoRow
  /-- The card transactions. -/
  transactions : Table TransactionRow
  /-- The states that the transactions had. -/
  histories : Table HistoryRow
  /-- The logs of charges. -/
  logs : Table LogRow
  /-- The requests and answers behind the logs. -/
  details : Table DetailsRow
  deriving DecidableEq

/-- The store without rows. -/
def Store.empty : Store :=
  ⟨.empty, .empty, .empty, .empty, .empty, .empty, .empty, .empty⟩

end CardPayments
