import CardPayments.Json.Reader

/-!
# Refusals of the provider

An answer of the provider with any status other than 200 and 201 is a refusal.  Its body should be an
object that says why, but nothing is taken for granted: a body that is no JSON or no object counts as
an empty object, and a refusal always has a description, if need be the body itself or the status.
-/

namespace CardPayments

namespace Provider

/-- Why the provider refused a call, in its own words. -/
structure Refusal where
  /-- What is shown to people. -/
  description : Json.Value
  /-- The provider's code for the error. -/
  errorCode : Json.Value
  /-- The provider's category of errors. -/
  category : Json.Value
  /-- The status, as the body gives it or else the status of the answer. -/
  httpCode : Json.Value
  /-- The provider's name for the call. -/
  requestId : Json.Value

namespace Refusal

/-- The fields of the body of a refusal; a body that is no object has none. -/
def bodyFields (body : Text) : List (Text × Json.Value) :=
  match Json.read body with
  | .ok (.object fields) => fields
  | _ => []

/-- The description: that of the body, else the body itself, else the status. -/
def describe (status : Int) (body : Text) (given : Option Json.Value) : Json.Value :=
  match given with
  | some v => if v.isTruthy then v else fallback
  | none => fallback
where
  /-- The description when the body has none. -/
  fallback : Json.Value := if body.isEmpty then ("HTTP " ++ Text.ofInt status : Text) else body

/-- The refusal that an answer means. -/
def ofAnswer (status : Int) (body : Text) : Refusal :=
  let field (name : Text) : Option Json.Value := Json.Value.lookup? name (bodyFields body)
  { description := describe status body (field "description")
    errorCode := (field "error_code").getD .null
    category := (field "category").getD ""
    httpCode := (field "http_code").getD (.int status)
    requestId := (field "request_id").getD "" }

end Refusal

end Provider

end CardPayments
