import CardPayments.Json.Integer

/-!
# Settings of the provider's account

The settings that a payment needs.  Each may be missing, and holds whatever value the configuration
gives it.  `Account.ofSettings` is the account that they describe.
-/

namespace CardPayments

open Json

/-- The settings that a payment needs; a missing one is none. -/
structure Settings where
  /-- The merchant at the provider. -/
  merchantId : Option Value
  /-- The merchant's key. -/
  privateKey : Option Value
  /-- Is real money moved? -/
  isProduction : Option Value
  /-- The device session for requests without one. -/
  deviceSession : Option Value
  /-- Where a customer returns after confirming a charge. -/
  redirectUrl : Option Value
  /-- How many seconds a call may take. -/
  timeout : Option Value

namespace Settings

/-- The settings under which the program is tried out. -/
def trial : Settings where
  merchantId := some "mtest0000000000000000"
  privateKey := some "sk_test_0000000000000000"
  isProduction := some (.bool false)
  deviceSession := some "test-device-session"
  redirectUrl := some "https://shop.example.com/payments/return"
  timeout := some (.int 20)

end Settings

namespace Provider

/-- An account at the provider. -/
structure Account where
  merchantId : Value
  /-- The merchant's key. -/
  privateKey : Value
  /-- Is real money moved? -/
  isProduction : Bool
  /-- How many seconds a call may take. -/
  timeout : Value

namespace Account

/-- The time that a call may take when nothing else is said. -/
def defaultTimeout : Value := .int 20

/-- The account that the settings describe. -/
def ofSettings (s : Settings) : Except Failure Account := do
  let merchantId := s.merchantId.getD ""
  let privateKey := s.privateKey.getD ""
  if merchantId.isTruthy && privateKey.isTruthy then
    let timeout ← (s.timeout.getD defaultTimeout).toInteger
    return {
      merchantId := merchantId
      privateKey := privateKey
      isProduction := (s.isProduction.getD (.bool false)).isTruthy
      timeout := .int timeout }
  else throw (.notConfigured .account)

/-- The address of the provider for real payments. -/
def productionRoot : Text := "https://api.openpay.mx/v1"

/-- The address of the provider for trials. -/
def sandboxRoot : Text := "https://sandbox-api.openpay.mx/v1"

/-- The address under which the merchant's calls are made. -/
def baseUrl (a : Account) : Text :=
  (if a.isProduction then productionRoot else sandboxRoot) ++ "/" ++ a.merchantId.display

end Account

end Provider

end CardPayments
