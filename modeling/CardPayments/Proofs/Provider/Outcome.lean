import CardPayments.Proofs.Json.Nesting
import CardPayments.Proofs.Json.Numeral
import CardPayments.Proofs.Json.Stops
import CardPayments.Proofs.Provider.Client

/-!
# What comes of a call

Whatever the provider answers, a call ends in one of a few ways (`Provider.IsOutcome`): the call failed on the way,
the answer is nested too deep to be read, the provider refused, the answer is no JSON or holds a whole number that is
too long, it is JSON but no object, or it is an object.  An object is read unless its date cannot be read, or for a
charge its amount or its method of payment.  Each of the three calls is a single one and ends in one of these ways
(`Provider.Account.isSingleCall`).  Too deep is the text of a value with more levels than there is room for, and no
other text of a value (`Provider.IsOutcome.failsForDepth_iff`).
-/

namespace CardPayments

namespace Provider

open Json

/-! ### Refusals -/

variable {status : Int} {body name : Text}

/-- The body of an answer is an object that gives a field a value. -/
def Gives (body name : Text) (v : Value) : Prop :=
  ∃ fields, Json.read body = .ok (.object fields) ∧ Value.lookup? name fields = some v

/-- What a refusal says of an answer. -/
structure Refusal.Explains (status : Int) (body : Text) (refusal : Refusal) : Prop where
  /-- There is a description. -/
  described : refusal.description.isTruthy = true
  /-- It is that of the body. -/
  given : ∀ v, Gives body "description" v → v.isTruthy = true → refusal.description = v
  /-- Without one it is the body itself. -/
  verbatim : (∀ v, Gives body "description" v → v.isTruthy = false) → body ≠ [] →
    refusal.description = .text body
  /-- Without a body it is the status. -/
  bare : body = [] → refusal.description = .text ("HTTP " ++ Text.ofInt status)
  /-- The status is the one that the body gives. -/
  httpCode : ∀ v, Gives body "http_code" v → refusal.httpCode = v
  /-- If it gives none, it is that of the answer. -/
  status : (∀ v, ¬Gives body "http_code" v) → refusal.httpCode = .int status

theorem lookup?_bodyFields {v : Value} :
    Value.lookup? name (Refusal.bodyFields body) = some v ↔ Gives body name v := by
  unfold Gives Refusal.bodyFields
  constructor
  · intro h
    split at h
    · next fields hread => exact ⟨fields, hread, h⟩
    · cases h
  · rintro ⟨fields, hread, h⟩
    rw [hread]
    exact h

theorem lookup?_bodyFields_eq_none :
    Value.lookup? name (Refusal.bodyFields body) = none ↔ ∀ v, ¬Gives body name v := by
  rw [Option.eq_none_iff_forall_ne_some]
  exact forall_congr' fun v => not_congr lookup?_bodyFields

/-- The description of last resort is the body or, when this is empty, the status. -/
theorem isTruthy_fallback (status : Int) (body : Text) : (Refusal.describe.fallback status body).isTruthy = true := by
  unfold Refusal.describe.fallback
  split_ifs with hempty
  · rfl
  · show (!body.isEmpty) = true
    rw [eq_false_of_ne_true hempty]
    rfl

theorem describe_some (v : Value) : Refusal.describe status body (some v) =
    if v.isTruthy then v else Refusal.describe.fallback status body := rfl

theorem describe_of_not_isTruthy {given : Option Value} (h : ∀ v, given = some v → v.isTruthy = false) :
    Refusal.describe status body given = Refusal.describe.fallback status body := by
  cases given with
  | none => rfl
  | some v =>
    rw [describe_some, h v rfl]
    rfl

theorem not_gives_nil {v : Value} : ¬Gives [] name v := by
  rintro ⟨fields, hread, -⟩
  cases hread

theorem description_ofAnswer (status : Int) (body : Text) : (Refusal.ofAnswer status body).description =
    Refusal.describe status body (Value.lookup? "description" (Refusal.bodyFields body)) := rfl

theorem httpCode_ofAnswer (status : Int) (body : Text) : (Refusal.ofAnswer status body).httpCode =
    (Value.lookup? "http_code" (Refusal.bodyFields body)).getD (.int status) := rfl

/-- **A refusal says all there is to say**, whatever the body of the answer. -/
theorem explains_ofAnswer (status : Int) (body : Text) : (Refusal.ofAnswer status body).Explains status body where
  described := by
    rw [description_ofAnswer]
    by_cases h : ∀ v, Value.lookup? "description" (Refusal.bodyFields body) = some v → v.isTruthy = false
    · rw [describe_of_not_isTruthy h]
      exact isTruthy_fallback status body
    · push Not at h
      obtain ⟨v, hv, htruthy⟩ := h
      rw [Bool.ne_false_iff] at htruthy
      rw [hv, describe_some, if_pos htruthy]
      exact htruthy
  given := by
    intro v hv htruthy
    rw [description_ofAnswer, lookup?_bodyFields.2 hv, describe_some]
    exact if_pos htruthy
  verbatim := by
    intro hnone hbody
    rw [description_ofAnswer, describe_of_not_isTruthy fun v hv => hnone v (lookup?_bodyFields.1 hv)]
    exact if_neg (by simpa using hbody)
  bare := by
    rintro rfl
    rw [description_ofAnswer, describe_of_not_isTruthy fun v hv => absurd (lookup?_bodyFields.1 hv) not_gives_nil]
    rfl
  httpCode := by
    intro v hv
    rw [httpCode_ofAnswer, lookup?_bodyFields.2 hv]
    rfl
  status := by
    intro hnone
    rw [httpCode_ofAnswer, lookup?_bodyFields_eq_none.2 hnone]
    rfl

/-! ### What is read of an object -/

variable {fields : List (Text × Value)}

/-- A customer is read off an object, unless the date cannot be read. -/
inductive Customer.Decodes (fields : List (Text × Value)) : Except Failure Customer → Prop where
  /-- All of it is read. -/
  | whole {date : Option DateTime} : readDate (field fields "creation_date") = .ok date →
      Decodes fields (.ok ⟨(field fields "name").orEmpty, (field fields "email").orEmpty,
        (field fields "requires_account").isTruthy, field fields "id", date⟩)
  /-- The date cannot be read. -/
  | date {e : Failure} : readDate (field fields "creation_date") = .error e → Decodes fields (.error e)

/-- A card is read off an object, unless the date cannot be read. -/
inductive Card.Decodes (deviceSession : Value) (fields : List (Text × Value)) : Except Failure Card → Prop where
  /-- All of it is read. -/
  | whole {date : Option DateTime} : readDate (field fields "creation_date") = .ok date →
      Decodes deviceSession fields (.ok ⟨(field fields "card_number").orEmpty, (field fields "holder_name").orEmpty,
        (field fields "expiration_year").orEmpty, (field fields "expiration_month").orEmpty, "", deviceSession,
        field fields "id", date, field fields "brand"⟩)
  /-- The date cannot be read. -/
  | date {e : Failure} : readDate (field fields "creation_date") = .error e →
      Decodes deviceSession fields (.error e)

/-- A charge is read off an object, unless the amount, the date or the method of payment cannot be read. -/
inductive Charge.Decodes (fields : List (Text × Value)) : Except Failure Charge → Prop where
  /-- All of it is read. -/
  | whole {amount : Option Decimal} {date : Option DateTime} {methodFields : List (Text × Value)} :
      readAmount (field fields "amount") = .ok amount → readDate (field fields "creation_date") = .ok date →
        methodFieldsOf fields = .ok methodFields →
          Decodes fields (.ok ⟨(field fields "id").orEmpty, field fields "status", amount,
            field fields "authorization", date, field fields "error_message", field fields "order_id",
            field methodFields "url", .object fields⟩)
  /-- The amount cannot be read. -/
  | amount {e : Failure} : readAmount (field fields "amount") = .error e → Decodes fields (.error e)
  /-- The date cannot be read. -/
  | date {e : Failure} : readDate (field fields "creation_date") = .error e → Decodes fields (.error e)
  /-- The method of payment is there and is no object. -/
  | method {v : Value} : field fields "payment_method" = v → v.isTruthy = true → (∀ known, v ≠ .object known) →
      Decodes fields (.error (.noOperation v.kindName "get"))

theorem Customer.decodes_ofPayload (fields : List (Text × Value)) :
    Decodes fields (Customer.ofPayload (.object fields)) := by
  show Decodes fields (readDate (field fields "creation_date") >>= _)
  exact bind_cases (fun _ => .date) fun _ => .whole

theorem Card.decodes_ofPayload (deviceSession : Value) (fields : List (Text × Value)) :
    Decodes deviceSession fields (Card.ofPayload deviceSession (.object fields)) := by
  show Decodes deviceSession fields (readDate (field fields "creation_date") >>= _)
  exact bind_cases (fun _ => .date) fun _ => .whole

/-- A method of payment cannot be read if it is there and is no object. -/
theorem Charge.decodes_of_methodFieldsOf {e : Failure} (h : methodFieldsOf fields = .error e) :
    Charge.Decodes fields (.error e) := by
  unfold methodFieldsOf at h
  split_ifs at h with htruthy
  have hne : ∀ known, field fields "payment_method" ≠ .object known := by
    intro known hknown
    rw [hknown] at h
    cases h
  rw [fieldsOf_of_ne hne] at h
  obtain rfl := Except.error.inj h
  exact .method rfl htruthy hne

theorem Charge.decodes_ofPayload (fields : List (Text × Value)) :
    Decodes fields (Charge.ofPayload (.object fields)) := by
  rw [Charge.ofPayload_eq]
  show Decodes fields (readAmount (field fields "amount") >>= _)
  refine bind_cases (fun _ => .amount) fun amount hamount => ?_
  refine bind_cases (fun _ => .date) fun date hdate => ?_
  refine bind_cases (fun _ => decodes_of_methodFieldsOf) fun methodFields hmethod => ?_
  exact .whole hamount hdate hmethod

/-! ### Failures that are none of reading -/

variable {kind message : Text} {v : Value}

theorem readDate_ne_transport : readDate v ≠ .error (.transport kind message) := by
  intro h
  unfold readDate at h
  split_ifs at h
  obtain ⟨_, -, hfault⟩ := mapError_eq_error.1 h
  cases hfault

theorem readAmount_ne_transport : readAmount v ≠ .error (.transport kind message) := by
  intro h
  unfold readAmount at h
  split at h
  · cases h
  · cases h
  · obtain ⟨_, -, hfault⟩ := mapError_eq_error.1 h
    cases hfault

/-- What is read of an object does not fail like a call. -/
theorem Customer.Decodes.ne_transport {result : Except Failure Customer} (h : Decodes fields result) :
    result ≠ .error (.transport kind message) := by
  rintro rfl
  cases h with
  | date hdate => exact readDate_ne_transport hdate

theorem Card.Decodes.ne_transport {deviceSession : Value} {result : Except Failure Card}
    (h : Decodes deviceSession fields result) : result ≠ .error (.transport kind message) := by
  rintro rfl
  cases h with
  | date hdate => exact readDate_ne_transport hdate

theorem Charge.Decodes.ne_transport {result : Except Failure Charge} (h : Decodes fields result) :
    result ≠ .error (.transport kind message) := by
  rintro rfl
  cases h with
  | amount hamount => exact readAmount_ne_transport hamount
  | date hdate => exact readDate_ne_transport hdate

/-! ### Outcomes -/

variable {α : Type} {Decodes : List (Text × Value) → Except Failure α → Prop}

/-- What comes of a call, by its reply, when there is room for so many levels of the body of an answer; an object is
read in a certain way. -/
inductive IsOutcome (room : Nat) (Decodes : List (Text × Value) → Except Failure α → Prop) :
    Reply → Except Failure α → Prop where
  /-- The call failed on the way, and this failure goes on as it is. -/
  | broken (kind message : Text) : IsOutcome room Decodes (.broken kind message) (.error (.transport kind message))
  /-- The answer is nested too deep to be read, whatever its status. -/
  | tooDeep {status : Int} {body : Text} {bracket : CodePoint} : overrun? room body = some bracket →
      IsOutcome room Decodes (.answered status body) (.error (.transport "RecursionError" (overrunMessage bracket)))
  /-- The provider refused. -/
  | refused {status : Int} {body : Text} {refusal : Refusal} : Fits room body → status ≠ 200 → status ≠ 201 →
      refusal.Explains status body → IsOutcome room Decodes (.answered status body) (.error (.refused refusal))
  /-- The answer is no JSON. -/
  | malformed {status : Int} {body : Text} {problem : Problem} {line column position : Nat} :
      Fits room body → status = 200 ∨ status = 201 →
        Json.read body = .error (.malformed problem line column position) →
          IsOutcome room Decodes (.answered status body) (.error (.json (.malformed problem line column position)))
  /-- The answer holds a whole number with more digits than are converted. -/
  | tooLong {status : Int} {body : Text} {n : Nat} : Fits room body → status = 200 ∨ status = 201 →
      Json.read body = .error (.numeral (.tooLong n)) → Numeral.digitLimit < n → HoldsDigits body n →
        IsOutcome room Decodes (.answered status body) (.error (.json (.numeral (.tooLong n))))
  /-- The answer is JSON and no object. -/
  | notAnObject {status : Int} {body : Text} {v : Value} : Fits room body → status = 200 ∨ status = 201 →
      Json.read body = .ok v → (∀ fields, v ≠ .object fields) →
        IsOutcome room Decodes (.answered status body) (.error (.noOperation v.kindName "get"))
  /-- The answer is an object. -/
  | object {status : Int} {body : Text} {fields : List (Text × Value)} {result : Except Failure α} :
      Fits room body → status = 200 ∨ status = 201 → Json.read body = .ok (.object fields) →
        Decodes fields result → IsOutcome room Decodes (.answered status body) result

/-- A call fails for the depth of its answer. -/
def FailsForDepth (result : Except Failure α) : Prop :=
  ∃ bracket, result = .error (.transport "RecursionError" (overrunMessage bracket))

/-- The text of a value is too deep exactly if the value has more levels than there is room for. -/
theorem IsOutcome.failsForDepth_iff {room : Nat} {result : Except Failure α}
    (h : IsOutcome room Decodes (.answered status v.toText) result) (hv : v.IsWritable)
    (hdecodes : ∀ fields result, Decodes fields result → ∀ kind message, result ≠ .error (.transport kind message)) :
    FailsForDepth result ↔ room < v.levels := by
  constructor
  · rintro ⟨bracket, hresult⟩
    cases h with
    | tooDeep hoverrun =>
      refine not_le.1 fun hroom => ?_
      rw [(fits_toText_iff hv).2 hroom] at hoverrun
      cases hoverrun
    | object _ _ _ hdecoded =>
      -- Only here could something else fail in the same way.
      exact absurd hresult (hdecodes _ _ hdecoded _ _)
    | _ => cases hresult
  · intro hroom
    have hdeep : ¬Fits room v.toText := mt (fits_toText_iff hv).1 (not_le.2 hroom)
    cases h with
    | tooDeep _ => exact ⟨_, rfl⟩
    | refused hfits => exact absurd hfits hdeep
    | malformed hfits => exact absurd hfits hdeep
    | tooLong hfits => exact absurd hfits hdeep
    | notAnObject hfits => exact absurd hfits hdeep
    | object hfits => exact absurd hfits hdeep

theorem takenIn_of_overrun {room : Nat} {bracket : CodePoint} (h : overrun? room body = some bracket) :
    (Reply.answered status body).takenIn room = .broken "RecursionError" (overrunMessage bracket) := by
  rw [Reply.takenIn, h]

theorem takenIn_of_fits {room : Nat} (h : Fits room body) :
    (Reply.answered status body).takenIn room = .answered status body := by
  rw [Reply.takenIn, h]

namespace Account

section Reading

variable {read : Value → Except Failure α}
  (hother : ∀ v, (∀ known, v ≠ .object known) → read v = .error (.noOperation v.kindName "get"))
  (hobject : ∀ fields, Decodes fields (read (.object fields)))

include hother hobject

/-- What is made of an accepted answer that fits is an outcome if nothing but an object is read. -/
theorem isOutcome_of_accepted {room : Nat} (hfits : Fits room body) (haccepted : status = 200 ∨ status = 201) :
    IsOutcome room Decodes (.answered status body) (answerOf (.answered status body) >>= read) := by
  rw [answerOf, if_pos (isAccepted_iff.2 haccepted)]
  cases hread : Json.read body with
  | error fault =>
    cases fault with
    | malformed problem line column position => exact .malformed hfits haccepted hread
    | numeral fault =>
      obtain ⟨n, rfl, hlong, hdigits⟩ := fault_of_read hread
      exact .tooLong hfits haccepted hread hlong hdigits
  | ok v =>
    by_cases hv : ∀ known, v ≠ .object known
    · show IsOutcome room Decodes _ (read v)
      rw [hother v hv]
      exact .notAnObject hfits haccepted hread hv
    · push Not at hv
      obtain ⟨fields, rfl⟩ := hv
      exact .object hfits haccepted hread (hobject fields)

/-- What is made of a reply, as it is taken in, is an outcome if nothing but an object is read. -/
theorem isOutcome_of_read (room : Nat) (reply : Reply) :
    IsOutcome room Decodes reply (answerOf (reply.takenIn room) >>= read) := by
  cases reply with
  | broken kind message => exact .broken kind message
  | answered status body =>
    -- The body is read before the status counts for anything, also that of a refusal.
    cases hdepth : overrun? room body with
    | some bracket =>
      rw [takenIn_of_overrun hdepth]
      exact .tooDeep hdepth
    | none =>
      rw [takenIn_of_fits hdepth]
      by_cases haccepted : status = 200 ∨ status = 201
      · exact isOutcome_of_accepted hother hobject hdepth haccepted
      · obtain ⟨h200, h201⟩ := not_or.1 haccepted
        rw [answerOf, if_neg (mt isAccepted_iff.1 haccepted)]
        exact .refused hdepth h200 h201 (explains_ofAnswer status body)

end Reading

theorem isOutcome_customerOf (room : Nat) (reply : Reply) :
    IsOutcome room Customer.Decodes reply (customerOf (reply.takenIn room)) :=
  isOutcome_of_read (fun v hv => by rw [Customer.ofPayload, fieldsOf_of_ne hv]; rfl) Customer.decodes_ofPayload room
    reply

theorem isOutcome_cardOf (deviceSession : Value) (room : Nat) (reply : Reply) :
    IsOutcome room (Card.Decodes deviceSession) reply (cardOf deviceSession (reply.takenIn room)) :=
  isOutcome_of_read (fun v hv => by rw [Card.ofPayload, fieldsOf_of_ne hv]; rfl) (Card.decodes_ofPayload deviceSession)
    room reply

theorem isOutcome_chargeOf (room : Nat) (reply : Reply) :
    IsOutcome room Charge.Decodes reply (chargeOf (reply.takenIn room)) :=
  isOutcome_of_read (fun v hv => by rw [Charge.ofPayload, fieldsOf_of_ne hv]; rfl) Charge.decodes_ofPayload room reply

/-! ### Single calls -/

/-- A program makes one call at a desk and does nothing else, and what comes of it is an outcome of the reply that
waits first. -/
structure IsSingleCall (d : Desk) (c : Call) (Decodes : List (Text × Value) → Except Failure α → Prop)
    (p : Program α) : Prop where
  calls : (d.run p).2.calls = d.calls ++ [c]
  replies : (d.run p).2.replies = d.replies.tail
  store : (d.run p).2.store = d.store
  outcome : IsOutcome d.room Decodes (d.replies.headD Desk.noReply) (d.run p).1
  /-- An answer that is the text of a value is too deep exactly if the value has more levels than there is room for. -/
  depth : ∀ (status : Int) (v : Value), v.IsWritable → d.replies.headD Desk.noReply = .answered status v.toText →
    (FailsForDepth (d.run p).1 ↔ d.room < v.levels)

/-- What a program comes to whose only deed is a call. -/
theorem run_of_does {p : Program α} {c : Call} {f : Reply → Except Failure α}
    (hp : ∀ ds r, p.Does ds r → ∃ reply, ds = [.call c reply] ∧ r = f reply) (d : Desk) :
    (d.run p).1 = f ((d.replies.headD Desk.noReply).takenIn d.room) ∧
      Desk.IsLike { d with calls := d.calls ++ [c], replies := d.replies.tail } (d.run p).2 := by
  obtain ⟨reply, hdeeds, hresult⟩ := hp _ _ (Desk.run_does p d)
  obtain ⟨rfl, hlike⟩ := Desk.run_of_deeds_call hdeeds
  exact ⟨hresult, hlike⟩

theorem isSingleCall_of_does {p : Program α} {c : Call} {f : Reply → Except Failure α}
    (hp : ∀ ds r, p.Does ds r → ∃ reply, ds = [.call c reply] ∧ r = f reply)
    (hf : ∀ room reply, IsOutcome room Decodes reply (f (reply.takenIn room)))
    (hdecodes : ∀ fields result, Decodes fields result → ∀ kind message, result ≠ .error (.transport kind message))
    (d : Desk) : IsSingleCall d c Decodes p := by
  obtain ⟨hresult, hlike⟩ := run_of_does hp d
  have houtcome : IsOutcome d.room Decodes (d.replies.headD Desk.noReply) (d.run p).1 := by
    rw [hresult]
    exact hf d.room _
  refine ⟨hlike.calls, hlike.replies, hlike.store, houtcome, fun status v hv hreply => ?_⟩
  rw [hreply] at houtcome
  exact houtcome.failsForDepth_iff hv hdecodes

/-- An amount is sent unless it is a signaling one. -/
theorem exists_toPayload {order : ChargeOrder} (h : ∀ negative payload, order.amount ≠ .nan negative true payload) :
    ∃ payload, order.toPayload = .ok payload := by
  unfold ChargeOrder.toPayload
  cases hamount : order.amount with
  | nan negative signaling payload =>
    cases signaling with
    | true => exact absurd hamount (h negative payload)
    | false => exact ⟨_, rfl⟩
  | _ => exact ⟨_, rfl⟩

/-- An account for trials. -/
def trialAccount : Account := ⟨"m1", "sk_1", false, .int 20⟩

/-- An order of 100.00 pesos. -/
def trialOrder : ChargeOrder where
  method := "card"
  sourceId := "tok_1"
  amount := .finite false 10000 (-2)
  currency := "MXN"
  description := "Order: ORD-1"
  deviceSession := "dev_1"
  orderId := "ORD-1"
  confirms := true
  redirectUrl := "https://shop.example.com/payments/return"
  customer := .ofNameAndEmail "Jane Doe" "jane@x.com"

/-- A desk where the provider declines whatever is asked. -/
def trialDeclines : Desk := { replies := [.answered 402 "\x7b\"description\": \"Declined\"\x7d"] }

/-- A document of one digit more than is converted. -/
def trialOnes : Text := List.replicate 4301 (CodePoint.ofChar '1')

/-- Empty but for lists in lists. -/
def trialNest : Nat → Value
  | 0 => .list []
  | n + 1 => .list [trialNest n]

/-- A desk where the answer has a status and a body. -/
def trialAnswer (status : Int) (body : Text) : Desk := { replies := [.answered status body] }

theorem isWritable_trialNest (n : Nat) : (trialNest n).IsWritable := by
  induction n with
  | zero => exact .list [] (List.forall_mem_nil _)
  | succ n ih => exact .list _ (List.forall_mem_singleton.2 ih)

theorem levels_trialNest (n : Nat) : (trialNest n).levels = n + 1 := by
  induction n with
  | zero => rfl
  | succ n ih => rw [trialNest, Value.levels, Value.itemsLevels, Value.itemsLevels, ih, Nat.max_zero]

/-- What comes of a call for which one answer waits. -/
theorem run_trialAnswer (status : Int) (body : Text) :
    ((trialAnswer status body).run (trialAccount.createCustomer trialOrder.customer)).1 =
      customerOf ((Reply.answered status body).takenIn (trialAnswer status body).room) :=
  (run_of_does (fun _ _ => does_createCustomer.1) _).1

/-- What comes of a call that is answered with 2000 lists in each other, whatever the status. -/
theorem run_trialAnswer_nest (status : Int) : ∃ bracket,
    ((trialAnswer status (trialNest 1999).toText).run (trialAccount.createCustomer trialOrder.customer)).1 =
      .error (.transport "RecursionError" (overrunMessage bracket)) := by
  have hroom : (trialAnswer status (trialNest 1999).toText).room < (trialNest 1999).levels := by
    rw [levels_trialNest]
    show 980 < 2000
    decide
  obtain ⟨bracket, hoverrun⟩ := exists_overrun (isWritable_trialNest 1999) hroom
  refine ⟨bracket, ?_⟩
  rw [run_trialAnswer, takenIn_of_overrun hoverrun]
  rfl

end Account

end Provider

end CardPayments
