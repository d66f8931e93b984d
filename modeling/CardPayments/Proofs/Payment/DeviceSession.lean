import CardPayments.Proofs.Payment.Documents
import CardPayments.Proofs.Payment.Service

/-!
# The device session of a payment

A payment names its device session three times: when the card is exchanged, when the charge is made, and in the
request that is kept with the log of the charge.  It is always the same text: that of the request, or the one of
the service when the request has none but white space.  A service is only made with such a text that is not empty;
that it is more than white space is not asked of it, so that a payment may be sent with white space alone, and is
when neither the request nor the service have more to offer (`PaymentService.make_namesSession`).
-/

namespace CardPayments

open Json Provider

/-! ### Fields that are received -/

namespace Json.Value

/-- An object whose names are whole and differ is received field by field. -/
theorem received_object {fields : List (Text × Value)} (hnames : ∀ f ∈ fields, IsWhole f.1)
    (hnodup : (fields.map Prod.fst).Nodup) :
    (object fields).received = object (fields.map fun f => (f.1, f.2.received)) := by
  -- That the names differ only matters where the fields are put in their places.
  have hfields : fieldsReceived fields = fields.map fun f => (f.1, f.2.received) := by
    clear hnodup
    induction fields with
    | nil => rfl
    | cons f fields ih =>
      rw [List.forall_mem_cons] at hnames
      rw [fieldsReceived, hnames.1, ih hnames.2, List.map_cons]
  have hsame : (fields.map fun f => (f.1, f.2.received)).map Prod.fst = fields.map Prod.fst := by
    rw [List.map_map]
    rfl
  rw [received, hfields, foldl_insertField (by rwa [List.nil_append, hsame]), List.nil_append]

/-- A field that is changed by what is made of all values is still found by its name. -/
theorem lookup?_map (f : Value → Value) (name : Text) (fields : List (Text × Value)) :
    lookup? name (fields.map fun field => (field.1, f field.2)) = (lookup? name fields).map f := by
  rw [lookup?, lookup?, List.find?_map, Option.map_map, Option.map_map]
  rfl

/-- A value is an object that names a device session. -/
def NamesSession (t : Text) (v : Value) : Prop :=
  ∃ fields, v = .object fields ∧ lookup? "device_session_id" fields = some (.text t)

end Json.Value

namespace PaymentService

variable {s : PaymentService}

namespace Attempt

variable {a : Attempt} {l : Tokenized} {t : Text}

theorem namesSession_card (h : a.deviceSession = .text t) : a.card.toPayload.NamesSession t :=
  ⟨_, rfl, by rw [card, h]; rfl⟩

theorem namesSession_chargePayload (h : a.deviceSession = .text t) : (a.chargePayload l).NamesSession t :=
  ⟨_, rfl, by rw [h]; rfl⟩

/-- The session is named in the order of a charge as it is received, too. -/
theorem namesSession_received (h : a.deviceSession = .text t) :
    (a.chargePayload l).received.NamesSession (joined t) := by
  obtain ⟨fields, hpayload, hsession⟩ := namesSession_chargePayload (l := l) h
  have hfields : fields.map Prod.fst = orderNames := by
    rw [chargePayload, Value.object.injEq] at hpayload
    rw [← hpayload]
    rfl
  have hnames : ∀ name ∈ orderNames, IsWhole name := by
    have hstorable : ∀ name ∈ orderNames, name.IsStorable := by decide
    exact fun name hname => isWhole_of_isStorable (hstorable name hname)
  have hnodup : orderNames.Nodup := by decide
  rw [← hfields] at hnames hnodup
  rw [hpayload, Value.received_object (fun f hf => hnames f.1 (List.mem_map_of_mem hf)) hnodup]
  refine ⟨_, rfl, ?_⟩
  rw [Value.lookup?_map, hsession]
  rfl

end Attempt

variable (s) (now : DateTime) (request : PaymentRequest) (d : Desk)

/-- A payment names a text as its device session, wherever it names one. -/
structure NamesSession (t : Text) : Prop where
  /-- When the card is exchanged. -/
  cards : ∀ x ∈ d.exchanges (s.process now request), s.Posts "cards" x → x.call.payload.NamesSession t
  /-- When the charge is made. -/
  charges : ∀ x ∈ d.exchanges (s.process now request), s.Posts "charges" x → x.call.payload.NamesSession t
  /-- In the request that is kept with the log of the charge, which is the text that was posted.  It is read back
  as it was, but for halves of a surrogate pair that stand next to each other. -/
  kept : ∀ r ∈ (d.run (s.process now request)).2.store.details.since d.store.details,
    ∃ x ∈ d.exchanges (s.process now request), s.Posts "charges" x ∧
      r.postInfo = some x.call.payload.toText ∧
      ∃ v, Json.read x.call.payload.toText = .ok v ∧ v.NamesSession (joined t)

variable {s now request d}

/-- The calls for a card and for a charge name the device session of the payment. -/
theorem namesSession_of_posts (hd : d.methodVanishes = false) {t : Text}
    (ht : s.deviceSessionFor request = .text t) {x : Exchange} (hx : x ∈ d.exchanges (s.process now request)) :
    (s.Posts "cards" x → x.call.payload.NamesSession t) ∧
      (s.Posts "charges" x →
        x.call.payload.NamesSession t ∧ x.call.payload.received.NamesSession (joined t)) := by
  rw [d.exchanges_eq _ hd] at hx
  rcases s.process_course now request d hd with
    ⟨_, _, hds, _, _⟩ | ⟨a, g, before, last, ha, hsteps, hhalts, hds, hreached, hbefore, hlast, hfinal⟩
  · rw [hds] at hx
    cases hx
  · obtain ⟨_, _, rfl⟩ := eq_of_attempt ha
    have hlast := hhalts.last hlast
    rw [hds, Store.exchanges_append hbefore, hsteps.exchanges hbefore] at hx
    rw [hfinal] at hx hlast
    constructor
    · intro hposts
      obtain ⟨_, _, hcall, _⟩ := Attempt.Stage.of_posts_cards hlast hx hposts
      rw [hcall]
      exact Attempt.namesSession_card ht
    · intro hposts
      obtain ⟨l, _, hcall, _⟩ := Attempt.Stage.of_posts_charges hlast hx hposts
      rw [hcall]
      exact ⟨Attempt.namesSession_chargePayload ht, Attempt.namesSession_received ht⟩

/-- A payment names the device session that it was told, if the addresses of its service are texts. -/
theorem process_namesSession (hs : s.HasTextAddresses) (hd : d.methodVanishes = false) {t : Text}
    (ht : s.deviceSessionFor request = .text t) : s.NamesSession now request d t := by
  refine ⟨fun x hx => (namesSession_of_posts hd ht hx).1,
    fun x hx hposts => ((namesSession_of_posts hd ht hx).2 hposts).1, fun r hr => ?_⟩
  -- What is kept is what was posted, row by row.
  obtain ⟨_, kept, hkept, hrows⟩ := s.process_keepsDocuments now request d hs hd
  obtain ⟨hlength, hkeeps⟩ := List.forall₂_iff_get.1 hrows
  obtain ⟨i, rfl⟩ := List.mem_iff_get.1 hr
  have hi : i.1 < kept.length := hlength ▸ i.2
  obtain ⟨hmem, hposts⟩ := List.mem_filter.1 (hkept.subset (List.get_mem kept ⟨i.1, hi⟩))
  have hkeep := (hkeeps i.1 i.2 hi).1
  have hposts := of_decide_eq_true hposts
  exact ⟨_, hmem, hposts, hkeep.request, _, hkeep.requestRead, ((namesSession_of_posts hd ht hmem).2 hposts).2⟩

/-- **One device session**: a service that is made from texts has a text as its device session that is not empty.
Every payment of it names the same text as its device session wherever it names one: its own, if this has more
than white space, and that of the service otherwise.  So the text is never empty, and there is more to it than
white space unless neither of the two has more. -/
theorem make_namesSession {settings : Settings} {options : ServiceOptions} {directory : Directory}
    {redirectUrl deviceSession : Text} (hmake : make settings options directory = .ok s)
    (hredirect : orSetting options.redirectUrl settings.redirectUrl = .text redirectUrl)
    (hsession : orSetting options.defaultDeviceSession settings.deviceSession = .text deviceSession)
    (now : DateTime) (request : PaymentRequest) (d : Desk) (hd : d.methodVanishes = false) :
    ∃ t : Text, s.NamesSession now request d t ∧
      t = (if Text.isBlank request.deviceSession then deviceSession else request.deviceSession) ∧ t ≠ [] ∧
      (Text.isBlank t = true ↔ Text.isBlank request.deviceSession = true ∧ Text.isBlank deviceSession = true) := by
  obtain ⟨hredirectUrl, hdefault, _, htruthy⟩ := addresses_of_make hmake
  rw [hredirect] at hredirectUrl
  rw [hsession] at hdefault
  rw [hdefault] at htruthy
  have hempty : deviceSession ≠ [] := by
    rintro rfl
    cases htruthy
  have ht : s.deviceSessionFor request =
      .text (if Text.isBlank request.deviceSession then deviceSession else request.deviceSession) := by
    rw [deviceSessionFor, hdefault]
    split_ifs <;> rfl
  refine ⟨_, process_namesSession ⟨⟨_, hredirectUrl⟩, ⟨_, hdefault⟩⟩ hd ht, rfl, ?_, ?_⟩
  · split_ifs with hblank
    · exact hempty
    · intro hnone
      rw [hnone] at hblank
      exact hblank rfl
  · split_ifs with hblank
    · exact (and_iff_right hblank).symm
    · exact iff_of_false hblank fun h => hblank h.1

/-- The trial settings with three spaces as the device session. -/
def trialSpaces : Settings := { Settings.trial with deviceSession := some (.text "   ") }

/-- The service that the trial settings with three spaces describe. -/
def trialSpacesService : PaymentService := { trialService with defaultDeviceSession := .text "   " }

/-- A service whose device session is three spaces is made, and a payment without one of its own is sent with
them. -/
theorem trial_spaces :
    make trialSpaces {} (.load (trialDesk trialCharge).store) = .ok trialSpacesService ∧
      ((trialDesk trialCharge).exchanges (trialSpacesService.process trialTime Session.trialRequest)).length = 3 ∧
      ∃ t, trialSpacesService.NamesSession trialTime Session.trialRequest (trialDesk trialCharge) t ∧
        Text.isBlank t = true := by
  have hmake : make trialSpaces {} (.load (trialDesk trialCharge).store) = .ok trialSpacesService := by rfl
  have hcalls : ((trialDesk trialCharge).exchanges
      (trialSpacesService.process trialTime Session.trialRequest)).length = 3 := by
    decide +kernel
  obtain ⟨t, hnames, _, _, hblank⟩ := make_namesSession hmake rfl rfl trialTime Session.trialRequest
    (trialDesk trialCharge) rfl
  exact ⟨hmake, hcalls, t, hnames, hblank.2 ⟨by decide, by decide⟩⟩

end PaymentService

end CardPayments
