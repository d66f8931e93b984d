import CardPayments.Text

/-!
# Payment requests

What a client asks for: a card, its holder, and the order that is paid.  The amount is not part of it.
-/

namespace CardPayments

/-- A request to take a payment from a card. -/
structure PaymentRequest where
  /-- The name of the customer, which is also the name on the card. -/
  name : Text
  /-- The e-mail address of the customer. -/
  email : Text
  /-- The session of the device on which the card was entered. -/
  deviceSession : Text
  cardNumber : Text
  /-- The year of expiry. -/
  expirationYear : Text
  /-- The month of expiry. -/
  expirationMonth : Text
  /-- The check value of the card. -/
  check : Text
  /-- The order that is paid. -/
  orderId : Text
  deriving DecidableEq

end CardPayments
