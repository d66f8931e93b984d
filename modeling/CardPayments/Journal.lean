import CardPayments.Failure

/-!
# The journal

What the program notes about its work: an entry says which part of the program wrote it and how serious
it is, and carries the failure that was being handled, if there was one.
-/

namespace CardPayments

namespace Journal

/-- How serious an entry is. -/
inductive Level where
  /-- A note on the course of the work. -/
  | info
  /-- Something unexpected. -/
  | warning
  /-- A failure. -/
  | error
  deriving DecidableEq

/-- The part of the program that wrote an entry. -/
inductive Source where
  /-- The course of a payment. -/
  | payment
  /-- The calls of the provider. -/
  | provider
  /-- The directory of the known providers. -/
  | directory
  deriving DecidableEq

/-- An entry. -/
structure Entry where
  /-- How serious it is. -/
  level : Level
  /-- Which part of the program wrote it. -/
  source : Source
  message : Text
  /-- The failure that was being handled. -/
  failure : Option Failure

/-- A note on the course of the work. -/
def info (source : Source) (message : Text) : Entry := ⟨.info, source, message, none⟩

/-- A warning. -/
def warning (source : Source) (message : Text) : Entry := ⟨.warning, source, message, none⟩

/-- A failure that is being handled. -/
def error (source : Source) (message : Text) (failure : Failure) : Entry :=
  ⟨.error, source, message, some failure⟩

end Journal

end CardPayments
