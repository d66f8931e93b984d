import CardPayments.Journal
import CardPayments.Store.Table
import CardPayments.Text.CaseFold

/-!
# The directory of providers

The payment providers are looked up in a directory: a copy of their rows, oldest first, as they were
when the directory was last loaded.  Whatever happens to the rows after that, the directory stays as it
is until it is loaded again.

A provider is found by its name in any case; the oldest of several is taken.
-/

namespace CardPayments

/-- A copy of the rows of the payment providers. -/
structure Directory where
  /-- The rows, oldest first. -/
  providers : List ProviderRow
  deriving DecidableEq

namespace Directory

/-- The directory of the providers that are stored now. -/
def load (s : Store) : Directory := ⟨s.providers.rows⟩

/-- The number of providers. -/
def size (d : Directory) : Nat := d.providers.length

/-- The oldest provider with a name, whatever the case of either. -/
def find? (d : Directory) (name : Text) : Option ProviderRow :=
  d.providers.find? fun p => Text.caseFold p.name = Text.caseFold name

/-- The entry for a directory that has been loaded. -/
def loadedEntry (d : Directory) : Journal.Entry :=
  Journal.info .directory
    ("Loaded " ++ Text.ofNat d.size ++ " payment providers into master data")

/-- The names of the providers in a line; a dash when there are none. -/
def namesLine (d : Directory) : Text :=
  let names := Text.joinWith ", " (d.providers.map ProviderRow.name)
  if names.isEmpty then "-" else names

/-- The report on a directory that has been loaded. -/
def report (d : Directory) : Text :=
  "Loaded " ++ Text.ofNat d.size ++ " payment providers: " ++ d.namesLine ++ "\n"

end Directory

end CardPayments
