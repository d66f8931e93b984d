import CardPayments.Json.Writer
import CardPayments.Session

/-!
# The trial payment

One payment is taken from a test card, to see whether everything is in place, and what comes of it is
printed: how many providers are known, the result of the payment, and the customer with all
transactions.  A failure ends the trial; what was printed before stays printed.
-/

namespace CardPayments

namespace Session

open Json

/-- The request of the trial payment. -/
def trialRequest : PaymentRequest where
  name := "Smoke Test"
  email := "smoke-test@example.com"
  deviceSession := ""
  cardNumber := "4111111111111111"
  expirationYear := "29"
  expirationMonth := "12"
  check := "110"
  orderId := "SMOKE-0001"

/-- A printed section: a title, and a value over several lines. -/
def printed (title : Text) (v : Value) : Text :=
  "\n=== " ++ title ++ " ===\n" ++ v.toIndentedText 0 ++ "\n"

/-- Takes the trial payment. -/
def trialResult : Op Value := do
  let result ← pay (makeService {} none) trialRequest
  lift result.toJson

/-- The customer of the last transaction of the trial order. -/
def trialCustomer : Op (Option Value) :=
  ask fun store => do
    let rows ← store.askTransactions ⟨some trialRequest.orderId, none, none⟩
    match rows.getLast? with
    | none => return none
    | some row => do
      let report ← Report.customerWithKey store (.int row.customerId)
      return some report

/-- Runs an operation for what it prints: the text so far with the new sections, and the failure if
there was one. -/
def printing {α : Type} (op : Op α) (sections : α → List Text) (before : Text × Option Failure)
    (s : Session) : (Text × Option Failure) × Session :=
  match before with
  | (text, some e) => ((text, some e), s)
  | (text, none) =>
    match op.run.run s with
    | (.ok a, s) => ((text ++ (sections a).flatten, none), s)
    | (.error e, s) => ((text, some e), s)

/-- Takes the trial payment: what is printed, the failure if there was one, and the session after it. -/
def trial (s : Session) : (Text × Option Failure) × Session :=
  let (out, s) := printing refreshShared
    (fun directory => [printed "Payment providers loaded" (.int directory.size)]) ([], none) s
  let (out, s) := printing trialResult (fun v => [printed "Payment result" v]) out s
  printing trialCustomer (fun v => (v.map (printed "Billing customer")).toList) out s

end Session

end CardPayments
