import Mathlib.Data.List.Dedup
import Mathlib.Data.List.Sort
import RateGuard.Connector.Errors
import RateGuard.Foundation.Outcome

/-!
# Destination checks of the connector

A destination has to use HTTPS outside local development, and none of its addresses may be an
internal one. A local-dev entry is exempt for loopback addresses, whatever its host is called. The
classification of addresses and the name resolution are parameters.
-/

open Outcome

namespace RateGuard

/-- Classification of an address by `ipaddress`. -/
structure AddressClass where
  /-- Whether it is private. -/
  isPrivate : Bool
  /-- Whether it is a loopback address. -/
  isLoopback : Bool
  /-- Whether it is link-local. -/
  isLinkLocal : Bool
  /-- Whether it is reserved. -/
  isReserved : Bool
  /-- Whether it is a multicast address. -/
  isMulticast : Bool
  /-- Whether it is unspecified. -/
  isUnspecified : Bool

/-- What the standard library says of addresses and names. -/
structure Network where
  /-- Classification of a literal address. -/
  classify : String → Option AddressClass
  /-- Addresses of a name, or the text of the failure. -/
  resolve : String → Nat → Except String (List String)

/-- Hosts of local development. -/
def localDevLoopbackHostnames : List String := ["127.0.0.1", "localhost", "::1"]

/-- `_is_disallowed_ip`. -/
def AddressClass.isDisallowed (address : AddressClass) : Bool :=
  address.isPrivate || address.isLoopback || address.isLinkLocal || address.isReserved ||
    address.isMulticast || address.isUnspecified

/-- Error of a scheme that is not HTTPS. -/
def insecureScheme (scheme host : String) : ConnectorError where
  code := "CONNECTOR_INSECURE_SCHEME"
  message := "Connector destination uses scheme '" ++ scheme ++ "' for host '" ++ host ++
    "'; HTTPS is required outside local development."
  category := .nonRetryable
  details := [("scheme", .text scheme), ("host", .text host)]

/-- `enforce_https_or_local_dev`. -/
def enforceHttpsOrLocalDev (scheme host : String) (isLocalDev : Bool) :
    Except ConnectorRaised Unit :=
  if scheme = "https" then .ok ()
  else if scheme = "http" ∧ isLocalDev = true ∧ host ∈ localDevLoopbackHostnames then .ok ()
  else .error (.connector (insecureScheme scheme host))

/-- Error of a name without addresses. -/
def unresolved (message : String) : ConnectorError where
  code := "CONNECTOR_DNS_RESOLUTION_FAILED"
  message := message
  category := .retryable
  details := []

/-- Error of an internal address. -/
def forbiddenDestination (host address : String) : ConnectorError where
  code := "CONNECTOR_DESTINATION_FORBIDDEN"
  message := "Connector destination '" ++ host ++ "' resolved to disallowed address " ++ address ++
    " (private/loopback/link-local/reserved)."
  category := .nonRetryable
  details := [("host", .text host), ("resolved_ip", .text address)]

/-- Addresses of a host: itself when it is one, else those of its name in order. -/
def Network.candidates (network : Network) (host : String) (port : Nat) :
    Except ConnectorRaised (List String) :=
  if host = "localhost" then .ok ["127.0.0.1"]
  else
    match network.classify host with
    | some _ => .ok [host]
    | none =>
      match network.resolve host port with
      | .ok answers => .ok (answers.dedup.insertionSort (· ≤ ·))
      | .error reason => .error (.connector (unresolved
          ("Could not resolve connector host '" ++ host ++ "': " ++ reason)))

/-- Check of one address. -/
def Network.validate (network : Network) (host : String) (allowLoopback : Bool)
    (address : String) : Except ConnectorRaised String :=
  match network.classify address with
  | none => .error (.other "ValueError")
  | some found =>
    if found.isLoopback = true ∧ allowLoopback = true then .ok address
    else if found.isDisallowed = true then
      .error (.connector (forbiddenDestination host address))
    else .ok address

/-- `resolve_and_validate_host`. -/
def Network.resolveAndValidateHost (network : Network) (host : String) (port : Nat)
    (allowLoopback : Bool) : Except ConnectorRaised (List String) := do
  let addresses ← network.candidates host port
  let validated ← addresses.mapM (network.validate host allowLoopback)
  if validated = [] then
    throw (.connector (unresolved
      ("No usable addresses resolved for connector host '" ++ host ++ "'.")))
  else return validated

/-- Both checks of a destination, giving its addresses. -/
def Network.checkDestination (network : Network) (isLocalDev : Bool) (scheme host : String)
    (port : Nat) : Except ConnectorRaised (List String) := do
  enforceHttpsOrLocalDev scheme host isLocalDev
  network.resolveAndValidateHost host port isLocalDev

/-- No accepted address is internal, loopback addresses apart where the entry is a local-dev one
and the host is one of local development. -/
def Network.Guards (network : Network) (isLocalDev : Bool) (scheme host : String)
    (port : Nat) : Prop :=
  ∀ addresses, network.checkDestination isLocalDev scheme host port = .ok addresses →
    ∀ address ∈ addresses, ∀ found, network.classify address = some found →
      found.isDisallowed = true →
        found.isLoopback = true ∧ isLocalDev = true ∧ host ∈ localDevLoopbackHostnames

/-- A local-dev entry with an HTTPS destination whose host is not one of local development and
whose addresses are loopback addresses and external ones, with a loopback address among them. -/
def Network.LoopbackByName (network : Network) (isLocalDev : Bool) (scheme host : String)
    (port : Nat) : Prop :=
  isLocalDev = true ∧ scheme = "https" ∧ host ∉ localDevLoopbackHostnames ∧
    ∃ addresses, network.candidates host port = .ok addresses ∧
      (∀ address ∈ addresses, ∃ found, network.classify address = some found ∧
        (found.isLoopback = true ∨ found.isDisallowed = false)) ∧
      ∃ address ∈ addresses, ∃ found, network.classify address = some found ∧
        found.isLoopback = true

section Checks

variable {network : Network} {isLocalDev : Bool} {scheme host : String} {port : Nat}

/-- Without HTTPS only the hosts of local development are accepted. -/
theorem enforce_eq_ok {done : Unit}
    (accepted : enforceHttpsOrLocalDev scheme host isLocalDev = .ok done) :
    scheme = "https" ∨ isLocalDev = true ∧ host ∈ localDevLoopbackHostnames := by
  unfold enforceHttpsOrLocalDev at accepted
  split at accepted
  · next secure => exact .inl secure
  · split at accepted
    · next exempt => exact .inr ⟨exempt.2.1, exempt.2.2⟩
    · cases accepted

/-- An address passes exactly when it is an exempt loopback address or no internal one. -/
theorem validate_eq_ok_iff {allowLoopback : Bool} {address result : String} :
    network.validate host allowLoopback address = .ok result ↔
      result = address ∧ ∃ found, network.classify address = some found ∧
        (found.isLoopback = true ∧ allowLoopback = true ∨ found.isDisallowed = false) := by
  unfold Network.validate
  cases classified : network.classify address with
  | none =>
    refine ⟨fun accepted => (by cases accepted), ?_⟩
    rintro ⟨-, found, absent, -⟩
    cases absent
  | some found =>
    dsimp only
    split
    · next exempt =>
      refine ⟨fun accepted => ?_, fun passes => by rw [passes.1]⟩
      exact ⟨(Except.ok.inj accepted).symm, found, rfl, .inl exempt⟩
    · next strict =>
      split
      · next internal =>
        refine ⟨fun accepted => (by cases accepted), ?_⟩
        rintro ⟨-, other, same, exempt | external⟩
        · obtain rfl := Option.some.inj same
          exact absurd exempt strict
        · obtain rfl := Option.some.inj same
          rw [internal] at external
          cases external
      · next external =>
        refine ⟨fun accepted => ?_, fun passes => by rw [passes.1]⟩
        exact ⟨(Except.ok.inj accepted).symm, found, rfl, .inr (Bool.eq_false_iff.mpr external)⟩

/-- Accepted addresses are the candidates, each of which passes. -/
theorem resolveAndValidateHost_eq_ok {allowLoopback : Bool} {addresses : List String}
    (accepted : network.resolveAndValidateHost host port allowLoopback = .ok addresses) :
    network.candidates host port = .ok addresses ∧
      ∀ address ∈ addresses, network.validate host allowLoopback address = .ok address := by
  obtain ⟨candidates, found, validated⟩ := bind_eq_ok accepted
  obtain ⟨results, passed, nonempty⟩ := bind_eq_ok validated
  have same : results = addresses := by
    split at nonempty
    · cases nonempty
    · exact Except.ok.inj nonempty
  subst same
  have equal : candidates = results := by
    refine List.forall₂_eq_eq_eq ▸ (mapM_eq_ok passed).imp fun candidate result passes => ?_
    exact (validate_eq_ok_iff.mp passes).1.symm
  subst equal
  refine ⟨found, fun address member => ?_⟩
  obtain ⟨candidate, -, passes⟩ := mapM_source passed member
  obtain ⟨rfl, -⟩ := validate_eq_ok_iff.mp passes
  exact passes

/-- Candidates that all pass, at least one of them, are accepted. -/
theorem resolveAndValidateHost_of_candidates {allowLoopback : Bool} {addresses : List String}
    (found : network.candidates host port = .ok addresses) (nonempty : addresses ≠ [])
    (pass : ∀ address ∈ addresses, network.validate host allowLoopback address = .ok address) :
    network.resolveAndValidateHost host port allowLoopback = .ok addresses := by
  have validated : addresses.mapM (network.validate host allowLoopback) = .ok addresses := by
    clear found nonempty
    induction addresses with
    | nil => rfl
    | cons first rest ih =>
      rw [List.mapM_cons, pass first List.mem_cons_self,
        ih fun address member => pass address (List.mem_cons_of_mem first member)]
      rfl
  unfold Network.resolveAndValidateHost
  rw [found]
  dsimp only [bind, Except.bind]
  rw [validated]
  dsimp only
  rw [if_neg nonempty]
  rfl

/-- A loopback address is an internal one. -/
theorem isDisallowed_of_isLoopback {address : AddressClass} (loopback : address.isLoopback = true) :
    address.isDisallowed = true := by
  unfold AddressClass.isDisallowed
  rw [loopback, Bool.or_true]
  rfl

end Checks

/-- The two checks guard a destination exactly when it is no loopback destination under another
name: a local-dev entry with HTTPS and a host that is not one of local development, resolved to a
loopback address beside loopback and external ones. -/
theorem destination_guarded_iff (network : Network) (isLocalDev : Bool) (scheme host : String)
    (port : Nat) :
    network.Guards isLocalDev scheme host port ↔
      ¬network.LoopbackByName isLocalDev scheme host port := by
  constructor
  · rintro guards ⟨rfl, rfl, named, addresses, found, pass, address, member, kind, classified,
      loopback⟩
    have valid : ∀ other ∈ addresses, network.validate host true other = .ok other := by
      intro other inside
      obtain ⟨class', classified', allowed⟩ := pass other inside
      exact validate_eq_ok_iff.mpr ⟨rfl, class', classified',
        allowed.imp (fun loop => ⟨loop, rfl⟩) id⟩
    have accepted : network.checkDestination true "https" host port = .ok addresses := by
      unfold Network.checkDestination enforceHttpsOrLocalDev
      rw [if_pos rfl]
      exact resolveAndValidateHost_of_candidates found (List.ne_nil_of_mem member) valid
    exact named (guards addresses accepted address member kind classified
      (isDisallowed_of_isLoopback loopback)).2.2
  · intro unnamed addresses accepted address member kind classified internal
    obtain ⟨done, secure, resolved⟩ := bind_eq_ok accepted
    obtain ⟨found, valid⟩ := resolveAndValidateHost_eq_ok resolved
    obtain ⟨-, same, classified', passes⟩ := validate_eq_ok_iff.mp (valid address member)
    obtain rfl := Option.some.inj (classified.symm.trans classified')
    rcases passes with ⟨loopback, exempt⟩ | external
    · refine ⟨loopback, exempt, Decidable.byContradiction fun named => unnamed ?_⟩
      have https : scheme = "https" :=
        (enforce_eq_ok secure).resolve_right fun both => named both.2
      refine ⟨exempt, https, named, addresses, found, fun other inside => ?_,
        address, member, kind, classified, loopback⟩
      obtain ⟨-, found, known, pass⟩ := validate_eq_ok_iff.mp (valid other inside)
      exact ⟨found, known, pass.imp And.left id⟩
    · rw [internal] at external
      cases external

/-- A network where one name resolves to a loopback address. -/
def loopbackNetwork : Network where
  classify := fun address =>
    if address = "127.0.0.1" then some ⟨true, true, false, false, false, false⟩ else none
  resolve := fun _ _ => .ok ["127.0.0.1"]

/-- A local-dev entry whose HTTPS host has another name is let through to a loopback address. -/
theorem destination_not_guarded :
    loopbackNetwork.checkDestination true "https" "rating.example" 443 = .ok ["127.0.0.1"] ∧
      (loopbackNetwork.classify "127.0.0.1").map AddressClass.isDisallowed = some true ∧
      "rating.example" ∉ localDevLoopbackHostnames := by
  refine ⟨rfl, rfl, by decide⟩

end RateGuard
