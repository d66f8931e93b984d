import CardPayments.Payment.Process
import CardPayments.Proofs.Program.Quiet

/-!
# A payment with a result only notes its course

Every step of a payment notes its failures, and otherwise only its course.  So when a payment has a result,
there is no entry about a failure in the journal that was not there before
(`PaymentService.isQuiet_process`).
-/

namespace CardPayments

open Program

/-! ### Calls of the provider -/

namespace Provider.Account

variable {α : Type} (a : Account)

theorem isQuiet_post (path : Text) (payload : Json.Value) : (a.post path payload).IsQuiet :=
  (isQuiet_call _).bind fun _ => isQuiet_ofExcept _

/-- A call that is noted before and after is quiet when it is quiet itself. -/
theorem isQuiet_noted {p : Program α} (hp : p.IsQuiet) (before failed : Text) (after : α → Text) :
    (noteCall before >>= fun _ => notingFailure failed p >>= fun x =>
      noteCall (after x) >>= fun _ => pure x).IsQuiet :=
  (isQuiet_info _ _).bind fun _ => (hp.noting _).bind fun _ => (isQuiet_info _ _).bind fun _ =>
    isQuiet_pure _

theorem isQuiet_createCustomer (c : Customer) : (a.createCustomer c).IsQuiet :=
  isQuiet_noted ((a.isQuiet_post _ _).bind fun _ => isQuiet_ofExcept _) _ _ _

theorem isQuiet_createCardToken (c : Card) : (a.createCardToken c).IsQuiet :=
  isQuiet_noted ((a.isQuiet_post _ _).bind fun _ => isQuiet_ofExcept _) _ _ _

theorem isQuiet_createCharge (order : ChargeOrder) : (a.createCharge order).IsQuiet :=
  isQuiet_noted ((isQuiet_ofExcept _).bind fun _ => (a.isQuiet_post _ _).bind fun _ => isQuiet_ofExcept _)
    _ _ _

end Provider.Account

/-! ### Steps -/

namespace PaymentService

theorem isQuiet_noteStep (message : Text) : (noteStep message).IsQuiet := isQuiet_info _ _

theorem isQuiet_notingFailure {α : Type} {p : Program α} (hp : p.IsQuiet) (message : Text) :
    (notingFailure message p).IsQuiet := hp.noting _

namespace Attempt

variable (a : Attempt) (payer : Payer) (method : Nat)

theorem isQuiet_createMethod : a.createMethod.IsQuiet := by
  refine (isQuiet_noteStep _).bind fun _ => IsQuiet.bind ?_ fun _ =>
    (isQuiet_noteStep _).bind fun _ => isQuiet_pure _
  exact isQuiet_notingFailure (isQuiet_chooseToken.bind fun _ => isQuiet_insert _) _

theorem isQuiet_createPayer : (a.createPayer method).IsQuiet :=
  (a.service.account.isQuiet_createCustomer _).bind fun _ => (isQuiet_insert _).bind fun _ =>
    isQuiet_pure _

theorem isQuiet_resolvePayer : (a.resolvePayer method).IsQuiet := by
  refine (isQuiet_noteStep _).bind fun _ => IsQuiet.bind (isQuiet_notingFailure ?_ _) fun (payer, isNew) => ?_
  · refine (isQuiet_findCustomer _ _).bind fun found => ?_
    cases found with
    | some row => exact (isQuiet_noteStep _).bind fun _ => isQuiet_pure _
    | none => exact (a.isQuiet_createPayer method).bind fun _ => isQuiet_pure _
  · cases isNew with
    | true => exact (isQuiet_noteStep _).bind fun _ => isQuiet_pure _
    | false => exact isQuiet_pure _

theorem isQuiet_attachOwner : (a.attachOwner method payer).IsQuiet := by
  refine (isQuiet_noteStep _).bind fun _ => IsQuiet.bind (isQuiet_notingFailure ?_ _) fun _ =>
    isQuiet_noteStep _
  refine (isQuiet_commit _).bind fun key => ?_
  cases key with
  | some key => exact isQuiet_pure _
  | none =>
    -- The warning about a method that is gone comes with a failure.
    exact isQuiet_of_fails fun _ => ⟨_, rfl⟩

theorem isQuiet_createToken : (a.createToken payer).IsQuiet := by
  refine (isQuiet_noteStep _).bind fun _ => isQuiet_notingFailure ?_ _
  exact (a.service.account.isQuiet_createCardToken _).bind fun _ => (isQuiet_noteStep _).bind fun _ =>
    (isQuiet_insert _).bind fun _ => isQuiet_pure _

theorem isQuiet_recordCharge (order : Provider.ChargeOrder) (charge : Provider.Charge) :
    (a.recordCharge payer method order charge).IsQuiet :=
  (isQuiet_ofExcept _).bind fun _ => (isQuiet_ofExcept _).bind fun _ =>
    (isQuiet_insert _).bind fun _ => (isQuiet_insert _).bind fun _ => isQuiet_pure _

theorem isQuiet_createCharge (card : Provider.Card) : (a.createCharge payer card method).IsQuiet := by
  refine (isQuiet_noteStep _).bind fun _ => isQuiet_notingFailure ?_ _
  exact (a.service.account.isQuiet_createCharge _).bind fun charge => (isQuiet_noteStep _).bind fun _ =>
    (a.isQuiet_recordCharge payer method _ charge).bind fun _ => isQuiet_pure _

theorem isQuiet_steps : a.steps.IsQuiet :=
  a.isQuiet_createMethod.bind fun method => (a.isQuiet_resolvePayer method).bind fun payer =>
    (a.isQuiet_attachOwner payer method).bind fun _ => (a.isQuiet_createToken payer).bind fun card =>
      (a.isQuiet_createCharge payer method card).bind fun _ => isQuiet_pure _

end Attempt

/-- A payment that has a result has only noted its course. -/
theorem isQuiet_process (s : PaymentService) (now : DateTime) (request : PaymentRequest) :
    (s.process now request).IsQuiet :=
  (isQuiet_noteStep _).bind fun _ =>
    isQuiet_notingFailure ((isQuiet_ofExcept _).bind fun a => a.isQuiet_steps) _

end PaymentService

end CardPayments
