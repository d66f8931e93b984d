import CardPayments.Payment.Service
import CardPayments.Proofs.Failure
import Mathlib.Data.List.Nodup

/-!
# How payment services come about

A payment service has the addresses that were given for it or set, neither of which may be missing
(`PaymentService.addresses_eq_ok`), and it has the provider that the directory finds by its name: among providers
in the order of their keys, the first one of the name, whatever its case (`Directory.find?_eq_some_iff`).  With its
addresses and its account at hand, all that a service can lack is the provider
(`PaymentService.withAddresses_notConfigured`).
-/

namespace CardPayments

/-! ### Looking up a provider -/

namespace Directory

variable {d : Directory} {name : Text} {p : ProviderRow}

/-- Some provider has a name, whatever the case of either. -/
def Names (d : Directory) (name : Text) : Prop :=
  ∃ p ∈ d.providers, Text.caseFold p.name = Text.caseFold name

/-- A provider has a name, whatever the case of either, and none with a smaller key has it. -/
structure IsFirstNamed (d : Directory) (name : Text) (p : ProviderRow) : Prop where
  mem : p ∈ d.providers
  named : Text.caseFold p.name = Text.caseFold name
  first : ∀ q ∈ d.providers, Text.caseFold q.name = Text.caseFold name → p.id ≤ q.id

/-- The providers stand in the order of their keys. -/
def IsSorted (d : Directory) : Prop := d.providers.Pairwise fun p q => p.id < q.id

theorem find?_eq_none_iff : d.find? name = none ↔ ¬d.Names name := by
  simp [find?, Names]

theorem isFirstNamed_of_find? (hd : d.IsSorted) (h : d.find? name = some p) : d.IsFirstNamed name p := by
  obtain ⟨hnamed, before, later, hproviders, hbefore⟩ := List.find?_eq_some_iff_append.1 h
  rw [IsSorted, hproviders, List.pairwise_append, List.pairwise_cons] at hd
  refine ⟨List.mem_of_find?_eq_some h, of_decide_eq_true hnamed, fun q hq hname => ?_⟩
  rw [hproviders, List.mem_append, List.mem_cons] at hq
  rcases hq with hq | rfl | hq
  · have hother := hbefore q hq
    rw [decide_eq_true hname] at hother
    cases hother
  · exact Nat.le_refl _
  · exact Nat.le_of_lt (hd.2.1.1 q hq)

/-- Among providers in the order of their keys, the first one of a name is the one that is found. -/
theorem find?_eq_some_iff (hd : d.IsSorted) : d.find? name = some p ↔ d.IsFirstNamed name p := by
  refine ⟨isFirstNamed_of_find? hd, fun h => ?_⟩
  cases hfound : d.find? name with
  | none => exact absurd ⟨p, h.mem, h.named⟩ (find?_eq_none_iff.1 hfound)
  | some q =>
    have hq := isFirstNamed_of_find? hd hfound
    have hid : q.id = p.id := Nat.le_antisymm (hq.first p h.mem h.named) (h.first q hq.mem hq.named)
    -- Keys that ascend are distinct, so a key belongs to one provider.
    have hdistinct : (d.providers.map ProviderRow.id).Nodup :=
      List.pairwise_map.2 (hd.imp Nat.ne_of_lt)
    rw [List.inj_on_of_nodup_map hdistinct hq.mem h.mem hid]

end Directory

/-! ### The account -/

theorem Json.Value.toInteger_ne_notConfigured {v : Value} {missing : MissingSetting} :
    v.toInteger ≠ .error (.notConfigured missing) := by
  cases v with
  | text t =>
    rw [toInteger]
    cases Numeral.readInteger t <;> nofun
  | float x => cases x <;> nofun
  | _ => nofun

/-- With a merchant and a key, nothing is missing for an account, whatever else may be wrong. -/
theorem Provider.Account.ofSettings_ne_notConfigured {settings : Settings} {missing : MissingSetting}
    (hmerchant : (settings.merchantId.getD "").isTruthy) (hkey : (settings.privateKey.getD "").isTruthy) :
    ofSettings settings ≠ .error (.notConfigured missing) := by
  intro h
  dsimp only [ofSettings] at h
  rw [hmerchant, hkey] at h
  cases htimeout : (settings.timeout.getD defaultTimeout).toInteger with
  | error e =>
    rw [htimeout] at h
    obtain rfl := Except.error.inj h
    exact Json.Value.toInteger_ne_notConfigured htimeout
  | ok n =>
    rw [htimeout] at h
    cases h

/-! ### The service -/

namespace PaymentService

variable {settings : Settings} {options : ServiceOptions} {directory : Directory} {s : PaymentService}
  {redirectUrl deviceSession : Json.Value}

/-- The addresses of a service are the ones that were given or set, and both have to be there. -/
theorem addresses_eq_ok : addresses settings options = .ok (redirectUrl, deviceSession) ↔
    redirectUrl = orSetting options.redirectUrl settings.redirectUrl ∧
      deviceSession = orSetting options.defaultDeviceSession settings.deviceSession ∧
        redirectUrl.isTruthy ∧ deviceSession.isTruthy := by
  dsimp only [addresses]
  constructor
  · intro h
    -- Whatever is missing is reported, and where customers return comes first.
    cases hredirect : (orSetting options.redirectUrl settings.redirectUrl).isTruthy with
    | false =>
      rw [hredirect] at h
      cases h
    | true =>
      cases hsession : (orSetting options.defaultDeviceSession settings.deviceSession).isTruthy with
      | false =>
        rw [hredirect, hsession] at h
        cases h
      | true =>
        rw [hredirect, hsession] at h
        obtain ⟨rfl, rfl⟩ := Prod.mk.inj (Except.ok.inj h)
        exact ⟨rfl, rfl, hredirect, hsession⟩
  · rintro ⟨rfl, rfl, hredirect, hsession⟩
    rw [hredirect, hsession]
    rfl

/-- A service keeps the addresses with which it is made. -/
theorem addresses_of_withAddresses
    (h : withAddresses settings options directory redirectUrl deviceSession = .ok s) :
    s.redirectUrl = redirectUrl ∧ s.defaultDeviceSession = deviceSession := by
  dsimp only [withAddresses] at h
  cases hprovider : directory.find? providerName with
  | none =>
    rw [hprovider] at h
    cases h
  | some provider =>
    rw [hprovider] at h
    rcases hoption : options.account with _ | account <;> rw [hoption] at h
    all_goals
      obtain ⟨account, _, h⟩ := bind_eq_ok.1 h
      obtain rfl := pure_eq_ok.1 h
      exact ⟨rfl, rfl⟩

/-- A service has the addresses that were given for it or set, and both are there. -/
theorem addresses_of_make (h : make settings options directory = .ok s) :
    s.redirectUrl = orSetting options.redirectUrl settings.redirectUrl ∧
      s.defaultDeviceSession = orSetting options.defaultDeviceSession settings.deviceSession ∧
        s.redirectUrl.isTruthy ∧ s.defaultDeviceSession.isTruthy := by
  obtain ⟨⟨redirectUrl, deviceSession⟩, haddresses, h⟩ := bind_eq_ok.1 h
  obtain ⟨rfl, rfl⟩ := addresses_of_withAddresses h
  exact addresses_eq_ok.1 haddresses

/-- Beside its addresses and its account, all that a service can lack is its provider. -/
theorem withAddresses_notConfigured
    (haccount : options.account.isSome ∨
      (settings.merchantId.getD "").isTruthy ∧ (settings.privateKey.getD "").isTruthy)
    (d : Directory) (redirectUrl deviceSession : Json.Value) :
    (∃ missing, withAddresses settings options d redirectUrl deviceSession = .error (.notConfigured missing)) ↔
      ¬d.Names providerName := by
  rw [← Directory.find?_eq_none_iff, withAddresses]
  cases d.find? providerName with
  | none => exact iff_of_true ⟨_, rfl⟩ rfl
  | some p =>
    refine iff_of_false ?_ nofun
    rintro ⟨missing, h⟩
    cases hoption : options.account with
    | some account =>
      rw [hoption] at h
      cases h
    | none =>
      rw [hoption] at haccount h
      obtain ⟨⟨⟩⟩ | ⟨hmerchant, hkey⟩ := haccount
      cases hsettings : Provider.Account.ofSettings settings with
      | ok account =>
        rw [hsettings] at h
        cases h
      | error e =>
        rw [hsettings] at h
        obtain rfl := Except.error.inj h
        exact Provider.Account.ofSettings_ne_notConfigured hmerchant hkey hsettings

end PaymentService

end CardPayments
