import CardPayments.Directory
import CardPayments.Settings

/-!
# The payment service

A payment service has all that payments have in common: where customers return to, which device session
stands in for a missing one, the provider's row, and the account at the provider.  It is made from the
settings and the directory; what is missing is reported in a fixed order.
-/

namespace CardPayments

/-- What payments have in common. -/
structure PaymentService where
  /-- Where a customer returns after confirming a charge. -/
  redirectUrl : Json.Value
  /-- The device session for requests without one. -/
  defaultDeviceSession : Json.Value
  provider : ProviderRow
  account : Provider.Account

/-- What is said about a service beside the settings. -/
structure ServiceOptions where
  /-- Where a customer returns; null means the setting. -/
  redirectUrl : Json.Value := .null
  /-- The device session for requests without one; null means the setting. -/
  defaultDeviceSession : Json.Value := .null
  /-- The account at the provider, if it is not that of the settings. -/
  account : Option Provider.Account := none

namespace PaymentService

/-- The name of the provider. -/
def providerName : Text := "OpenPay"

/-- A value, or the setting when it is null, or the empty text when there is no setting. -/
def orSetting (given : Json.Value) (setting : Option Json.Value) : Json.Value :=
  match given with
  | .null => setting.getD ""
  | v => v

/-- The addresses of a service: where customers return to, and the device session for requests without
one.  Both have to be there. -/
def addresses (settings : Settings) (options : ServiceOptions) :
    Except Failure (Json.Value × Json.Value) := do
  let redirectUrl := orSetting options.redirectUrl settings.redirectUrl
  if !redirectUrl.isTruthy then throw (.notConfigured .redirectUrl)
  let deviceSession := orSetting options.defaultDeviceSession settings.deviceSession
  if !deviceSession.isTruthy then throw (.notConfigured .deviceSession)
  return (redirectUrl, deviceSession)

/-- The service with the given addresses and the provider and the account that are known. -/
def withAddresses (settings : Settings) (options : ServiceOptions) (directory : Directory)
    (redirectUrl deviceSession : Json.Value) : Except Failure PaymentService :=
  match directory.find? providerName with
  | none => .error (.notConfigured .provider)
  | some provider => do
    let account ←
      match options.account with
      | some account => pure account
      | none => Provider.Account.ofSettings settings
    return ⟨redirectUrl, deviceSession, provider, account⟩

/-- The service that the settings and the directory describe. -/
def make (settings : Settings) (options : ServiceOptions) (directory : Directory) :
    Except Failure PaymentService := do
  let (redirectUrl, deviceSession) ← addresses settings options
  withAddresses settings options directory redirectUrl deviceSession

end PaymentService

end CardPayments
