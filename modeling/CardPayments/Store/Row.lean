import CardPayments.Store.Amount
import CardPayments.Store.Entity
import CardPayments.Time.DateTime

/-!
# Rows

The rows of the eight tables.  Every row has a number, its key, by which other rows refer to it.
Instants are held as local times of universal time, and JSON documents as their texts.
-/

namespace CardPayments

/-- Who wrote a row and when, as far as it is known. -/
structure Audit where
  /-- The billing customer who caused the row. -/
  createdBy : Option Int
  /-- When it was written. -/
  createdDate : Option LocalTime
  /-- The billing customer who caused the last change. -/
  updatedBy : Option Int
  /-- When it was last changed. -/
  updatedDate : Option LocalTime
  deriving DecidableEq

/-- A payment provider. -/
structure ProviderRow where
  /-- The key. -/
  id : Nat
  /-- Who wrote the row. -/
  createdBy : Option Int
  /-- When it was written. -/
  createdDate : Option LocalTime
  /-- The name, different for any two providers. -/
  name : Text
  /-- The address of the provider. -/
  apiUrl : Text
  /-- Does the provider move real money? -/
  isProduction : Bool
  /-- Is the provider in use? -/
  isActive : Bool
  deriving DecidableEq

/-- A payment method: one attempt to pay. -/
structure MethodRow where
  /-- The key. -/
  id : Nat
  /-- Who wrote the row and when. -/
  audit : Audit
  providerId : Nat
  /-- The token of the attempt, different for any two methods. -/
  token : Text
  /-- Is the method usable? -/
  status : Bool
  deriving DecidableEq

/-- A billing customer. -/
structure CustomerRow where
  /-- The key. -/
  id : Nat
  /-- Who wrote the row and when. -/
  audit : Audit
  countryCode : Text
  name : Text
  /-- The e-mail address. -/
  email : Text
  /-- The telephone number. -/
  phoneNumber : Text
  /-- The provider's name for the customer. -/
  apiCustomerId : Text
  /-- The payment method with which the customer first paid. -/
  methodId : Nat
  deriving DecidableEq

/-- A named value of a billing customer. -/
structure KeyInfoRow where
  /-- The key. -/
  id : Nat
  /-- Who wrote the row and when. -/
  audit : Audit
  customerId : Nat
  /-- The name of the value. -/
  keyName : Text
  keyValue : Text
  deriving DecidableEq

/-- A card transaction. -/
structure TransactionRow where
  /-- The key. -/
  id : Nat
  /-- Who wrote the row and when. -/
  audit : Audit
  /-- The billing customer. -/
  customerId : Nat
  /-- The provider's name for the customer. -/
  transactionCustomerId : Text
  /-- The provider's name for the card or the charge. -/
  transactionId : Text
  /-- How money is taken. -/
  paymentMethod : Text
  /-- What the transaction does. -/
  transactionType : Text
  /-- The order that is paid. -/
  orderId : Option Text
  transactionStatus : Text
  /-- A reference of the provider. -/
  transactionReferenceId : Option Text
  /-- When it took place. -/
  transactionDate : Option LocalTime
  currencyCode : Text
  /-- The name on the card. -/
  ownerName : Text
  /-- The year of expiry. -/
  expireYear : Int
  /-- The month of expiry. -/
  expireMonth : Int
  /-- The masked number of the card. -/
  cardNumber : Text
  /-- The masked check value. -/
  cardCheck : Text
  description : Option Text
  amount : Amount
  /-- Did it succeed? -/
  isSuccess : Bool
  /-- Where the customer confirms the charge. -/
  redirectUrl : Option Text
  /-- What the provider says about it. -/
  message : Option Text
  deriving DecidableEq

/-- One status that a card transaction had. -/
structure HistoryRow where
  /-- The key. -/
  id : Nat
  /-- Who wrote the row and when. -/
  audit : Audit
  transactionId : Nat
  status : Text
  /-- What is noted about it. -/
  notes : Option Text
  deriving DecidableEq

/-- The log of a charge. -/
structure LogRow where
  /-- The key. -/
  id : Nat
  /-- Who wrote the row and when. -/
  audit : Audit
  /-- The order that is paid. -/
  referenceNo : Option Text
  /-- The payment method, while it exists. -/
  methodId : Option Nat
  /-- The name of the provider. -/
  methodName : Option Text
  /-- The code of what was done. -/
  payinType : Option Int
  /-- The provider's name for the charge. -/
  apiNo1 : Option Text
  /-- A second name of the provider. -/
  apiNo2 : Option Text
  /-- The amount that was ordered. -/
  amount : Option Amount
  /-- The amount that the provider took. -/
  amountFromApi : Option Amount
  /-- The last four code points of the number of the card. -/
  lastFour : Option Text
  /-- The name on the card. -/
  ownerName : Option Text
  currency : Option Text
  /-- The code of the outcome. -/
  result : Option Int
  deriving DecidableEq

/-- The request and the answer behind the log of a charge. -/
structure DetailsRow where
  /-- The key. -/
  id : Nat
  /-- Who wrote the row and when. -/
  audit : Audit
  logId : Nat
  /-- The text of the request. -/
  postInfo : Option Text
  /-- The text of the answer. -/
  respInfo : Option Text
  /-- Anything else. -/
  additionalInfo : Option Text
  deriving DecidableEq

end CardPayments
