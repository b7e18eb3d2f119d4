import ZeroShim.Nym.Deadlines
import ZeroShim.Proxy.Connection

/-!
# Startup

{lit}`main`, up to the moment it serves: the TLS names are parsed, the listener is bound, the
hub's transport is selected and built, and what is left unprotected is said.  Parsing a TLS
name, binding, and the parse of a mixnet address are the machine's.

Main results:

- Theorem {lit}`startup_isolates`: a shim whose configuration names a hub, or demands one, keeps
  what it diverts from the indexer on every connection.
- Theorem {lit}`startup_announces`: it warns of exactly what it leaves unprotected, and nothing
  of it runs unless it comes to serve.
-/

namespace ZeroShim

open Library

/-! ## TLS to the backend and to the hub -/

/-- {lit}`rustls_pki_types::ServerName` -/
inductive ServerName where
  | dnsName (name : String)
  /-- An address, in its debug form. -/
  | other (shown : String)
deriving DecidableEq, Repr

/-- The protocol that is offered and the name that is verified. -/
structure BackendTls where
  alpn : Bytes
  serverName : ServerName
deriving DecidableEq, Repr

def alpnH2 : Bytes := asciiBytes "h2"

def alpnHttp11 : Bytes := asciiBytes "http/1.1"

/-- What the machine does with what is configured. -/
structure Machine (Recipient : Type) where
  /-- {lit}`ServerName::try_from` -/
  serverName : String → Option ServerName
  /-- {lit}`TcpListener::bind` and {lit}`local_addr` -/
  bind : SocketAddr → Except String SocketAddr
  /-- {lit}`Recipient::from_str` -/
  parseRecipient : String → Except String Recipient
  /-- The text of an address. -/
  shown : SocketAddr → String
  /-- The debug form of a string. -/
  quoted : String → String

variable {Recipient : Type}

namespace BackendTls

def withAlpn (machine : Machine Recipient) (sniName : String) (alpn : Bytes) :
    Except String BackendTls :=
  match machine.serverName sniName with
  | some serverName => .ok ⟨alpn, serverName⟩
  | none => .error ("invalid backend TLS name " ++ machine.quoted sniName)

/-- {lit}`BackendTls::new`, for the indexer. -/
def new (machine : Machine Recipient) (sniName : String) : Except String BackendTls :=
  withAlpn machine sniName alpnH2

/-- {lit}`BackendTls::new_http1`, for the hub. -/
def newHttp1 (machine : Machine Recipient) (sniName : String) : Except String BackendTls :=
  withAlpn machine sniName alpnHttp11

/-- The authority of a request: the verified name, without the default port. -/
def authority (tls : BackendTls) (port : UInt16) : String :=
  let name := match tls.serverName with
    | .dnsName name => name
    | .other shown => shown
  if port = 443 then name else name ++ ":" ++ toString port

end BackendTls

def SocketAddr.port : SocketAddr → UInt16
  | .v4 _ port => port
  | .v6 _ port _ _ => port

/-- The authority on a hop: the verified name when there is one, and the address when not. -/
def hopAuthority (machine : Machine Recipient) (addr : SocketAddr) : Option BackendTls → String
  | some tls => tls.authority addr.port
  | none => machine.shown addr

/-- {lit}`HubClient::new` -/
def HubClient.new (machine : Machine Recipient) (addr : SocketAddr) (tls : Option BackendTls) :
    HubClient :=
  ⟨hopAuthority machine addr tls⟩

namespace Startup

/-! ## What is built -/

/-- The features of the binary. -/
structure Build where
  mixnetDriver : Bool
  mixnetLocalnet : Bool
deriving DecidableEq, Repr

/-- bootproofd's port on the loopback. -/
def defaultBootproofdAddr : String := "127.0.0.1:49502"

/-- The settings that {lit}`main` reads. -/
structure Settings extends Config where
  listen : SocketAddr
  backend : SocketAddr
  backendTls : Option String
  hubTls : Option String
  nymTopology : Option String
  diag : Bool
  tlsDomain : Option String
  tlsEmail : Option String
  tlsProduction : Bool
  cautionAttestation : Bool
  cautionBootproofdAddr : String

structure Backend where
  addr : SocketAddr
  tls : Option BackendTls

inductive MixnetNetwork where
  | default
  | topologyFile (path : String)
deriving DecidableEq, Repr

/-- What the transport's tasks and its handle are given. -/
structure NymTransport (Recipient : Type) where
  network : MixnetNetwork
  gateways : List String
  recipients : List Recipient
  rotation : Nym.RotationPolicy
  lookupTimeout : Nat
  submitDispatchTimeout : Nat

/-- The hop to the hub. -/
inductive Link (Recipient : Type) where
  | http (addr : SocketAddr) (tls : Option BackendTls)
  | nym (transport : NymTransport Recipient)

/-- The hub as the handlers see it. -/
def Link.hub (machine : Machine Recipient) : Link Recipient → HubTransport
  | .http addr tls => .http (HubClient.new machine addr tls)
  | .nym _ => .nym

/-- What {lit}`serve_with_shutdown` is given. -/
structure Shim (Recipient : Type) where
  listener : SocketAddr
  backend : Backend
  /-- The domain of the certificate, when wallets are served over TLS. -/
  serverTls : Option String
  link : Option (Link Recipient)
  caution : CautionRelay
  diagEnabled : Bool

namespace Shim

variable (machine : Machine Recipient) (shim : Shim Recipient)

def diversion : Option HubTransport := shim.link.map (Link.hub machine)

/-- The authority of the requests to the indexer. -/
def authority : String := hopAuthority machine shim.backend.addr shim.backend.tls

end Shim

/-! ## What is said -/

/-- A log line of {lit}`main`. -/
inductive Notice where
  | startingTls (listen : SocketAddr) (backend : Backend) (domain : String) (production : Bool)
  | startingPlaintext (listen : SocketAddr) (backend : Backend)
  | plaintextWallets
  | plaintextBackend
  | diagOpen
  | multipleHubs (addresses : List String)
  | plaintextHub
  | divertingHttp (addr : SocketAddr)
  | mixnetTimeouts (lookup submitDispatch : Nat)
  | divertingNym
  | forwardOnly
  | cautionOwned (bootproofdAddr : String)
  | cautionDisabled

def Backend.shown (machine : Machine Recipient) (backend : Backend) : String :=
  match backend.tls with
  | some _ => machine.shown backend.addr ++ " (tls)"
  | none => machine.shown backend.addr ++ " (plaintext)"

/-- The log event of a line. -/
def Notice.event (machine : Machine Recipient) : Notice → LogEvent
  | .startingTls listen backend domain production =>
    info "zero-indexer-shim starting (TLS terminated here)"
      [("listen", machine.shown listen), ("backend", backend.shown machine), ("domain", domain),
        ("acme", if production then "letsencrypt-production" else "letsencrypt-staging")]
  | .startingPlaintext listen backend =>
    info "zero-indexer-shim starting (plaintext h2c)"
      [("listen", machine.shown listen), ("backend", backend.shown machine)]
  | .plaintextWallets =>
    warn ("no --tls-domain: wallet traffic is PLAINTEXT. Reasonable on loopback " ++
      "beside an indexer, not across a network.") []
  | .plaintextBackend =>
    warn "no --backend-tls: the hop to the backing indexer is PLAINTEXT." []
  | .diagOpen =>
    warn ("ZIS_DIAG is set: /nym-diag is OPEN. Diagnostic only — it exposes send counts " ++
      "and a last-reply timestamp, which together can time migrations. Turn it off.") []
  | .multipleHubs addresses =>
    warn ("MULTIPLE HUBS: every migration is sent to ALL of these in plaintext." ++
      "                  Each one holds every migration this shim diverts")
      [("hubs", toString addresses.length), ("addresses", String.intercalate ", " addresses)]
  | .plaintextHub => warn "no --hub-tls: the hop to the hub is PLAINTEXT." []
  | .divertingHttp addr =>
    info ("diversion ENABLED: Orchard-touching sends and all GetTransaction go to the hub, " ++
      "not the operator") [("hub", machine.shown addr)]
  | .mixnetTimeouts lookup submitDispatch =>
    info "mixnet transport timeouts"
      [("lookup_timeout_secs", toString (lookup / Nym.seconds 1)),
        ("submit_dispatch_timeout_secs", toString (submitDispatch / Nym.seconds 1))]
  | .divertingNym =>
    info ("diversion ENABLED over the Nym mixnet: Orchard-touching sends and all " ++
      "GetTransaction go to the hub, not the operator") []
  | .forwardOnly =>
    warn ("no --hub: FORWARD-ONLY. Migrations are classified and logged but forwarded to " ++
      "the operator's indexer. No privacy until a hub is set.") []
  | .cautionOwned bootproofdAddr =>
    info "Caution control-plane paths owned by the shim (/attestation relayed, /health local)"
      [("bootproofd", bootproofdAddr)]
  | .cautionDisabled =>
    warn ("Caution attestation relay DISABLED: /attestation and " ++
      "/.well-known/caution/health pass through to the backend. Correct only off managed " ++
      "Caution/h2c, or once the platform serves them itself.") []
where
  info (message : String) (fields : List (String × String)) : LogEvent :=
    ⟨.info, "zero_indexer_shim", message, fields⟩
  warn (message : String) (fields : List (String × String)) : LogEvent :=
    ⟨.warn, "zero_indexer_shim", message, fields⟩

/-- A step of {lit}`main` that others can notice. -/
inductive Effect (Recipient : Type) where
  /-- {lit}`ServerTls::start` -/
  | acmeStarted (domain : String) (email : Option String) (production : Bool)
  | bound (addr : SocketAddr)
  | noticed (notice : Notice)
  /-- the correlator, the supervisor and the driver -/
  | spawned (transport : NymTransport Recipient)
  | served (shim : Shim Recipient)

/-! ## The steps -/

/-- A startup, which may fail with a message. -/
abbrev Boot (Recipient : Type) (α : Type) := Traced (Effect Recipient) String α

def notice (n : Notice) : Boot Recipient Unit := .act (.noticed n) (.ok ())

def noticeIf (c : Bool) (n : Notice) : Boot Recipient Unit := if c then notice n else pure ()

@[simp] theorem result_notice (n : Notice) :
    (notice n : Boot Recipient Unit).result = .ok () := rfl

@[simp] theorem result_noticeIf (c : Bool) (n : Notice) :
    (noticeIf c n : Boot Recipient Unit).result = .ok () := by
  cases c <;> rfl

@[simp] theorem mem_trace_notice {n : Notice} {x : Effect Recipient} :
    x ∈ (notice n : Boot Recipient Unit).trace ↔ x = .noticed n :=
  List.mem_singleton

@[simp] theorem mem_trace_noticeIf {c : Bool} {n : Notice} {x : Effect Recipient} :
    x ∈ (noticeIf c n : Boot Recipient Unit).trace ↔ c = true ∧ x = .noticed n := by
  cases c <;> simp [noticeIf]

section Steps

variable (build : Build) (machine : Machine Recipient) (settings : Settings)

/-- {lit}`nym_driver::parse_address` -/
def parseAddress (addr : String) : Except String Recipient :=
  match machine.parseRecipient addr with
  | .ok recipient => .ok recipient
  | .error err => .error ("invalid hub Nym address " ++ machine.quoted addr ++ ": " ++ err)

/-- The network of a topology, which only a localnet build may set. -/
def mixnetNetwork : Option String → Except String MixnetNetwork
  | none => .ok .default
  | some path =>
    if build.mixnetLocalnet then .ok (.topologyFile path)
    else .error "--nym-topology requires a build with the mixnet-localnet feature"

def buildNymTransport (addresses : List String) : Boot Recipient (NymTransport Recipient) := do
  let recipients ← .ofExcept (addresses.mapM (parseAddress machine))
  let network ← .ofExcept (mixnetNetwork build settings.nymTopology)
  let transport : NymTransport Recipient :=
    { network
      gateways := settings.nymGateway
      recipients
      rotation := settings.policy
      lookupTimeout := Nym.lookupTimeout settings.lookupSecs
      submitDispatchTimeout := Nym.submitDispatchTimeout }
  let _ ← Traced.act (.spawned transport) (.ok ())
  let _ ← notice (.mixnetTimeouts transport.lookupTimeout transport.submitDispatchTimeout)
  return transport

def nymDiversion (addresses : List String) : Boot Recipient (Option (Link Recipient)) :=
  if build.mixnetDriver then do
    let transport ← buildNymTransport build machine settings addresses
    let _ ← notice .divertingNym
    return some (.nym transport)
  else
    .fail ("--hub-nym is set (" ++ toString addresses.length ++
      " address(es)) but this binary was built WITHOUT the mixnet-driver " ++
      "feature; rebuild with --features mixnet-driver, or use --hub for the transitional " ++
      "clearnet path")

/-- The hop of a selection. -/
def divert : HubSelection → Boot Recipient (Option (Link Recipient))
  | .http hubAddr => do
    let hubTls ← .ofExcept (settings.hubTls.mapM (BackendTls.newHttp1 machine))
    let _ ← noticeIf hubTls.isNone .plaintextHub
    let _ ← notice (.divertingHttp hubAddr)
    return some (.http hubAddr hubTls)
  | .nym addresses => nymDiversion build machine settings addresses
  | .forwardOnly => do
    let _ ← notice .forwardOnly
    return none

/-- Start ACME for the domain, if there is one. -/
def startServerTls : Boot Recipient Unit :=
  match settings.tlsDomain with
  | some domain =>
    .act (.acmeStarted domain settings.tlsEmail settings.tlsProduction) (.ok ())
  | none => pure ()

/-- Where the shim listens, and how. -/
def starting (bound : SocketAddr) (backend : Backend) : Notice :=
  match settings.tlsDomain with
  | some domain => .startingTls bound backend domain settings.tlsProduction
  | none => .startingPlaintext bound backend

/-- Say where the shim listens, and which of its hops are in the clear. -/
def announceHops (bound : SocketAddr) (backend : Backend) : Boot Recipient Unit := do
  let _ ← notice (starting settings bound backend)
  let _ ← noticeIf settings.tlsDomain.isNone .plaintextWallets
  noticeIf backend.tls.isNone .plaintextBackend

/-- Say so when every migration goes to more than one hub. -/
def announceHubs : HubSelection → Boot Recipient Unit
  | .nym addresses => noticeIf (1 < addresses.length) (.multipleHubs addresses)
  | _ => pure ()

def announceCaution (caution : CautionRelay) : Boot Recipient Unit :=
  if caution.enabled then notice (.cautionOwned caution.bootproofdAddr)
  else notice .cautionDisabled

/-- {lit}`main`, which ends with the shim that it serves. -/
def main : Boot Recipient (Shim Recipient) := do
  let backendTls ← .ofExcept (settings.backendTls.mapM (BackendTls.new machine))
  let backend : Backend := ⟨settings.backend, backendTls⟩
  let _ ← startServerTls settings
  let bound ← Traced.act (.bound settings.listen) (machine.bind settings.listen)
  let _ ← announceHops settings bound backend
  let _ ← noticeIf settings.diag .diagOpen
  let selection ← .ofExcept (settings.hubSelection.mapError ConfigError.text)
  let _ ← announceHubs selection
  let link ← divert build machine settings selection
  let caution : CautionRelay := ⟨settings.cautionAttestation, settings.cautionBootproofdAddr⟩
  let _ ← announceCaution caution
  let shim : Shim Recipient := ⟨bound, backend, settings.tlsDomain, link, caution, settings.diag⟩
  let _ ← Traced.act (.served shim) (.ok ())
  return shim

@[simp] theorem result_startServerTls :
    (startServerTls settings : Boot Recipient Unit).result = .ok () := by
  unfold startServerTls
  cases settings.tlsDomain <;> rfl

@[simp] theorem result_announceHops (bound : SocketAddr) (backend : Backend) :
    (announceHops settings bound backend : Boot Recipient Unit).result = .ok () := by
  simp [announceHops, Traced.result_bind_eq_ok]

@[simp] theorem result_announceHubs (selection : HubSelection) :
    (announceHubs selection : Boot Recipient Unit).result = .ok () := by
  cases selection with
  | nym addresses => exact result_noticeIf _ _
  | http addr => rfl
  | forwardOnly => rfl

@[simp] theorem result_announceCaution (caution : CautionRelay) :
    (announceCaution caution : Boot Recipient Unit).result = .ok () := by
  unfold announceCaution
  split_ifs <;> rfl

end Steps

/-! ## What startup comes to -/

/-- A list that is read without a failure is read entry by entry. -/
theorem forall₂_of_mapM {α β : Type} {f : α → Except String β} {l : List α} {out : List β}
    (h : l.mapM f = .ok out) : List.Forall₂ (fun a b => f a = .ok b) l out := by
  induction l generalizing out with
  | nil =>
    cases h
    exact .nil
  | cons a l ih =>
    rw [List.mapM_cons] at h
    cases hhead : f a with
    | error err =>
      rw [hhead] at h
      cases h
    | ok b =>
      cases htail : l.mapM f with
      | error err =>
        rw [hhead, htail] at h
        cases h
      | ok rest =>
        rw [hhead, htail] at h
        cases h
        exact .cons hhead (ih htail)

/-- TLS to a hop, when a name is configured for it: that name is verified, and one protocol
offered. -/
def Authenticates (machine : Machine Recipient) (alpn : Bytes) (name : Option String)
    (tls : Option BackendTls) : Prop :=
  List.Forall₂ (fun name (tls : BackendTls) => machine.serverName name = some tls.serverName ∧
    tls.alpn = alpn) name.toList tls.toList

theorem authenticates_of_mapM {machine : Machine Recipient} {alpn : Bytes}
    {name : Option String} {tls : Option BackendTls}
    (h : name.mapM (fun name => BackendTls.withAlpn machine name alpn) = .ok tls) :
    Authenticates machine alpn name tls := by
  cases name with
  | none =>
    cases h
    exact .nil
  | some name =>
    cases hname : machine.serverName name with
    | none => simp [BackendTls.withAlpn, hname, Functor.map, Except.map] at h
    | some serverName =>
      simp [BackendTls.withAlpn, hname, Functor.map, Except.map] at h
      rw [← h]
      exact .cons ⟨hname, rfl⟩ .nil

section Deployed

variable (build : Build) (machine : Machine Recipient) (settings : Settings)

/-- What the mixnet tasks are given: every address is one that the SDK reads, the topology is
one that the build may load, and a rotation that comes due waits out a lookup. -/
structure Carried (addresses : List String) (transport : NymTransport Recipient) : Prop where
  driver : build.mixnetDriver = true
  recipients : List.Forall₂ (fun addr recipient => machine.parseRecipient addr = .ok recipient)
    addresses transport.recipients
  network : transport.network = .default ∧ settings.nymTopology = none ∨
    build.mixnetLocalnet = true ∧ ∃ path, settings.nymTopology = some path ∧
      transport.network = .topologyFile path
  gateways : transport.gateways = settings.nymGateway
  rotation : transport.rotation.period = settings.rotationSecs.map Nym.seconds
  spares : transport.rotation.period ≠ none →
    transport.lookupTimeout ≤ transport.rotation.effectiveDeferLimit
  budget : transport.lookupTimeout = Nym.seconds (settings.lookupSecs.getD 90)

/-- The hop of a selection. -/
inductive Linked : HubSelection → Option (Link Recipient) → Prop where
  | forwardOnly : Linked .forwardOnly none
  | http {addr tls} : Authenticates machine alpnHttp11 settings.hubTls tls →
      Linked (.http addr) (some (.http addr tls))
  | nym {addresses transport} : Carried build machine settings addresses transport →
      Linked (.nym addresses) (some (.nym transport))

/-- The shim that a startup comes to. -/
structure Deployed (shim : Shim Recipient) : Prop where
  backend : shim.backend.addr = settings.backend
  backendTls : Authenticates machine alpnH2 settings.backendTls shim.backend.tls
  bound : machine.bind settings.listen = .ok shim.listener
  serverTls : shim.serverTls = settings.tlsDomain
  linked : ∃ selection, settings.hubSelection = .ok selection ∧
    Linked build machine settings selection shim.link
  caution : shim.caution = ⟨settings.cautionAttestation, settings.cautionBootproofdAddr⟩
  diag : shim.diagEnabled = settings.diag

variable {build machine settings}

theorem carried_of_result {addresses : List String} {transport : NymTransport Recipient}
    (hdriver : build.mixnetDriver = true)
    (h : (buildNymTransport build machine settings addresses).result = .ok transport) :
    Carried build machine settings addresses transport := by
  unfold buildNymTransport at h
  simp only [Traced.result_bind_eq_ok, Traced.result_ofExcept, result_notice, Traced.result_act,
    Traced.result_pure, Except.ok.injEq] at h
  rcases h with ⟨recipients, hrecipients, network, hnetwork, -, -, -, -, rfl⟩
  constructor
  · exact hdriver
  · apply (forall₂_of_mapM hrecipients).imp
    intro addr recipient hparse
    unfold parseAddress at hparse
    split at hparse
    next hread =>
      cases hparse
      exact hread
    · cases hparse
  · unfold mixnetNetwork at hnetwork
    split at hnetwork
    next htopology =>
      cases hnetwork
      exact .inl ⟨rfl, htopology⟩
    next path htopology =>
      split_ifs at hnetwork with hlocalnet
      cases hnetwork
      exact .inr ⟨hlocalnet, path, htopology, rfl⟩
  · rfl
  · exact period_policy _
  · intro hperiod
    apply Nym.lookupTimeout_le
    intro hnone
    apply hperiod
    show settings.policy.period = none
    rw [period_policy, hnone]
    rfl
  · exact Config.lookupTimeout_eq _

theorem linked_of_result {selection : HubSelection} {link : Option (Link Recipient)}
    (h : (divert build machine settings selection).result = .ok link) :
    Linked build machine settings selection link := by
  cases selection with
  | forwardOnly =>
    cases h
    exact .forwardOnly
  | http addr =>
    unfold divert at h
    simp only [Traced.result_bind_eq_ok, Traced.result_ofExcept, result_notice, result_noticeIf,
      Traced.result_pure, Except.ok.injEq] at h
    rcases h with ⟨tls, htls, -, -, -, -, rfl⟩
    exact .http (authenticates_of_mapM htls)
  | nym addresses =>
    simp only [divert, nymDiversion] at h
    split_ifs at h with hdriver
    · simp only [Traced.result_bind_eq_ok, result_notice, Traced.result_pure,
        Except.ok.injEq] at h
      rcases h with ⟨transport, htransport, -, -, rfl⟩
      exact .nym (carried_of_result hdriver htransport)
    · cases h

theorem selected_of_mapError {r : Except ConfigError HubSelection} {selection : HubSelection}
    (h : r.mapError ConfigError.text = .ok selection) : r = .ok selection := by
  cases r with
  | error err => cases h
  | ok selected =>
    cases h
    rfl

/-- When a startup succeeds, and what with. -/
theorem result_main_eq_ok_iff {shim : Shim Recipient} :
    (main build machine settings).result = .ok shim ↔
      ∃ tls bound selection link,
        settings.backendTls.mapM (BackendTls.new machine) = .ok tls ∧
        machine.bind settings.listen = .ok bound ∧
        settings.hubSelection.mapError ConfigError.text = .ok selection ∧
        (divert build machine settings selection).result = .ok link ∧
        shim = ⟨bound, ⟨settings.backend, tls⟩, settings.tlsDomain, link,
          ⟨settings.cautionAttestation, settings.cautionBootproofdAddr⟩, settings.diag⟩ := by
  unfold main
  simp only [Traced.result_bind_eq_ok, Traced.result_ofExcept, Traced.result_act,
    Traced.result_pure, Except.ok.injEq, result_startServerTls, result_announceHops,
    result_noticeIf, result_announceHubs, result_announceCaution, exists_const, true_and]
  constructor
  · intro h
    rcases h with ⟨tls, htls, bound, hbound, selection, hselection, link, hlink, rfl⟩
    exact ⟨tls, bound, selection, link, htls, hbound, hselection, hlink, rfl⟩
  · intro h
    rcases h with ⟨tls, bound, selection, link, htls, hbound, hselection, hlink, rfl⟩
    exact ⟨tls, htls, bound, hbound, selection, hselection, link, hlink, rfl⟩

theorem deployed_of_result {shim : Shim Recipient}
    (h : (main build machine settings).result = .ok shim) :
    Deployed build machine settings shim := by
  rcases result_main_eq_ok_iff.mp h with
    ⟨tls, bound, selection, link, htls, hbound, hselection, hlink, rfl⟩
  exact ⟨rfl, authenticates_of_mapM htls, hbound, rfl,
    ⟨selection, selected_of_mapError hselection, linked_of_result hlink⟩, rfl, rfl⟩

/-- What a startup does, failed or not. -/
theorem mem_trace_main_iff {x : Effect Recipient} :
    x ∈ (main build machine settings).trace ↔
      ∃ tls, settings.backendTls.mapM (BackendTls.new machine) = .ok tls ∧
        (x ∈ (startServerTls settings : Boot Recipient Unit).trace ∨ x = .bound settings.listen ∨
        ∃ bound, machine.bind settings.listen = .ok bound ∧
          (x ∈ (announceHops settings bound ⟨settings.backend, tls⟩ : Boot Recipient Unit).trace ∨
          (settings.diag = true ∧ x = .noticed .diagOpen) ∨
          ∃ selection, settings.hubSelection.mapError ConfigError.text = .ok selection ∧
            (x ∈ (announceHubs selection : Boot Recipient Unit).trace ∨
            x ∈ (divert build machine settings selection).trace ∨
            ∃ link, (divert build machine settings selection).result = .ok link ∧
              (x ∈ (announceCaution ⟨settings.cautionAttestation,
                settings.cautionBootproofdAddr⟩ : Boot Recipient Unit).trace ∨
              x = .served ⟨bound, ⟨settings.backend, tls⟩, settings.tlsDomain, link,
                ⟨settings.cautionAttestation, settings.cautionBootproofdAddr⟩,
                settings.diag⟩)))) := by
  unfold main
  simp only [Traced.mem_trace_bind, Traced.trace_ofExcept, Traced.result_ofExcept,
    Traced.trace_act, Traced.result_act, Traced.trace_pure, List.mem_singleton, List.not_mem_nil,
    result_startServerTls, result_announceHops, result_noticeIf, result_announceHubs,
    result_announceCaution, mem_trace_noticeIf, false_or, or_false, exists_const, true_and]

/-! ## What it does before it serves -/

variable {x : Effect Recipient} {n : Notice}

theorem mem_startServerTls :
    x ∈ (startServerTls settings : Boot Recipient Unit).trace ↔
      ∃ domain, settings.tlsDomain = some domain ∧
        x = .acmeStarted domain settings.tlsEmail settings.tlsProduction := by
  unfold startServerTls
  cases settings.tlsDomain <;> simp

theorem mem_announceHops {bound : SocketAddr} {backend : Backend} :
    x ∈ (announceHops settings bound backend : Boot Recipient Unit).trace ↔
      x = .noticed (starting settings bound backend) ∨
        (settings.tlsDomain = none ∧ x = .noticed .plaintextWallets) ∨
        (backend.tls = none ∧ x = .noticed .plaintextBackend) := by
  simp [announceHops, Traced.mem_trace_bind]

theorem mem_announceHubs {selection : HubSelection} :
    x ∈ (announceHubs selection : Boot Recipient Unit).trace ↔
      ∃ addresses, selection = .nym addresses ∧ 1 < addresses.length ∧
        x = .noticed (.multipleHubs addresses) := by
  unfold announceHubs
  cases selection <;> simp

theorem mem_announceCaution {caution : CautionRelay} :
    x ∈ (announceCaution caution : Boot Recipient Unit).trace ↔
      (caution.enabled = true ∧ x = .noticed (.cautionOwned caution.bootproofdAddr)) ∨
        (caution.enabled = false ∧ x = .noticed .cautionDisabled) := by
  unfold announceCaution
  cases caution.enabled <;> simp

/-- The tasks are spawned only when the hop is built, with what it is built with. -/
theorem spawned_mem_divert {selection : HubSelection} {transport : NymTransport Recipient} :
    .spawned transport ∈ (divert build machine settings selection).trace ↔
      (divert build machine settings selection).result = .ok (some (.nym transport)) := by
  cases selection with
  | forwardOnly => simp [divert, Traced.mem_trace_bind, Traced.result_bind_eq_ok]
  | http addr => simp [divert, Traced.mem_trace_bind, Traced.result_bind_eq_ok]
  | nym addresses =>
    cases hdriver : build.mixnetDriver with
    | false => simp [divert, nymDiversion, hdriver]
    | true =>
      simp only [divert, nymDiversion, hdriver, if_true, buildNymTransport, Traced.mem_trace_bind,
        Traced.result_bind_eq_ok, Traced.trace_ofExcept, Traced.result_ofExcept, Traced.trace_act,
        Traced.result_act, mem_trace_notice, result_notice]
      simp only [Traced.trace_pure, Traced.result_pure, List.mem_singleton, List.not_mem_nil,
        Effect.spawned.injEq, Except.ok.injEq, Option.some.injEq, Link.nym.injEq, reduceCtorEq,
        false_or, or_false, and_false, exists_const, true_and, exists_eq_right, exists_false]
      constructor
      · intro h
        rcases h with ⟨recipients, hrecipients, network, hnetwork, rfl⟩
        exact ⟨recipients, hrecipients, network, hnetwork, rfl⟩
      · intro h
        rcases h with ⟨recipients, hrecipients, network, hnetwork, rfl⟩
        exact ⟨recipients, hrecipients, network, hnetwork, rfl⟩

/-- What is noticed on the way to a hop. -/
def Says : Option (Link Recipient) → Notice → Prop
  | none, n => n = .forwardOnly
  | some (.http addr tls), n => (tls = none ∧ n = .plaintextHub) ∨ n = .divertingHttp addr
  | some (.nym transport), n =>
    n = .mixnetTimeouts transport.lookupTimeout transport.submitDispatchTimeout ∨
      n = .divertingNym

theorem noticed_mem_divert {selection : HubSelection} {link : Option (Link Recipient)}
    (h : (divert build machine settings selection).result = .ok link) :
    .noticed n ∈ (divert build machine settings selection).trace ↔ Says link n := by
  cases selection with
  | forwardOnly =>
    cases h
    simp [divert, Traced.mem_trace_bind, Says]
  | http addr =>
    simp only [divert, Traced.result_bind_eq_ok, Traced.result_ofExcept, result_notice,
      result_noticeIf, Traced.result_pure, Except.ok.injEq] at h
    rcases h with ⟨tls, htls, -, -, -, -, rfl⟩
    simp [divert, Traced.mem_trace_bind, Says, htls]
  | nym addresses =>
    simp only [divert, nymDiversion] at h
    split_ifs at h with hdriver
    · simp only [buildNymTransport, Traced.result_bind_eq_ok, Traced.result_ofExcept,
        result_notice, Traced.result_act, Traced.result_pure, Except.ok.injEq] at h
      rcases h with ⟨transport, ⟨recipients, hrecipients, network, hnetwork, -, -, -, -, rfl⟩, -,
        -, rfl⟩
      simp [divert, nymDiversion, hdriver, buildNymTransport, Traced.mem_trace_bind, Says,
        hrecipients, hnetwork, Traced.result_bind_eq_ok]
    · cases h

/-- What a warning says of a shim. -/
def Exposes (settings : Settings) (shim : Shim Recipient) : Notice → Prop
  | .plaintextWallets => shim.serverTls = none
  | .plaintextBackend => shim.backend.tls = none
  | .diagOpen => shim.diagEnabled = true
  | .multipleHubs addresses => addresses = entries settings.hubNym ∧
      ∃ transport, shim.link = some (.nym transport) ∧ 1 < transport.recipients.length
  | .plaintextHub => ∃ addr, shim.link = some (.http addr none)
  | .forwardOnly => shim.link = none
  | .cautionDisabled => shim.caution.enabled = false
  | _ => False

/-- More than one hub is selected when more than one is sent to. -/
theorem multipleHubs_iff {selection : HubSelection} {link : Option (Link Recipient)}
    (hselection : settings.hubSelection = .ok selection)
    (h : Linked build machine settings selection link) (addresses : List String) :
    (selection = .nym addresses ∧ 1 < addresses.length) ↔
      addresses = entries settings.hubNym ∧
        ∃ transport, link = some (.nym transport) ∧ 1 < transport.recipients.length := by
  have hselects := (hubSelection_eq_iff settings.toConfig _).mp hselection
  cases h with
  | forwardOnly => simp
  | http _ => simp
  | @nym selected transport hcarried =>
    have hlength := hcarried.recipients.length_eq
    cases hselects with
    | nym hhub hne husable =>
      constructor
      · intro h
        cases h.1
        exact ⟨rfl, transport, rfl, hlength ▸ h.2⟩
      · intro h
        rcases h with ⟨rfl, other, hlink, hmany⟩
        cases hlink
        exact ⟨rfl, hlength ▸ hmany⟩

/-- What is noticed by a startup that comes to serve. -/
theorem noticed_iff {shim : Shim Recipient}
    (h : (main build machine settings).result = .ok shim) :
    .noticed n ∈ (main build machine settings).trace ↔
      n = starting settings shim.listener shim.backend ∨
      (shim.serverTls = none ∧ n = .plaintextWallets) ∨
      (shim.backend.tls = none ∧ n = .plaintextBackend) ∨
      (shim.diagEnabled = true ∧ n = .diagOpen) ∨
      (∃ addresses, (addresses = entries settings.hubNym ∧
        ∃ transport, shim.link = some (.nym transport) ∧ 1 < transport.recipients.length) ∧
        n = .multipleHubs addresses) ∨
      Says shim.link n ∨
      (shim.caution.enabled = true ∧ n = .cautionOwned shim.caution.bootproofdAddr) ∨
      (shim.caution.enabled = false ∧ n = .cautionDisabled) := by
  rcases result_main_eq_ok_iff.mp h with
    ⟨tls, bound, selection, link, htls, hbound, hselection, hlink, rfl⟩
  have hmany := multipleHubs_iff (selected_of_mapError hselection) (linked_of_result hlink)
  simp only [mem_trace_main_iff, htls, hbound, hselection, hlink, Except.ok.injEq,
    exists_eq_left', mem_startServerTls, mem_announceHops, mem_announceHubs, mem_announceCaution,
    noticed_mem_divert hlink, Effect.noticed.injEq, reduceCtorEq, and_false, exists_const,
    false_or, or_false, ← hmany, and_assoc, or_assoc]

/-- The warnings of a startup that comes to serve. -/
theorem warned_iff {shim : Shim Recipient}
    (h : (main build machine settings).result = .ok shim)
    (hwarns : (n.event machine).level = .warn) :
    .noticed n ∈ (main build machine settings).trace ↔ Exposes settings shim n := by
  rw [noticed_iff h, starting]
  cases n with
  | startingTls _ _ _ _ => cases hwarns
  | startingPlaintext _ _ => cases hwarns
  | divertingHttp _ => cases hwarns
  | mixnetTimeouts _ _ => cases hwarns
  | divertingNym => cases hwarns
  | cautionOwned _ => cases hwarns
  | multipleHubs addresses =>
    cases hlink : shim.link with
    | none => cases settings.tlsDomain <;> simp [Exposes, Says, hlink]
    | some link =>
      cases link <;> cases settings.tlsDomain <;> simp [Exposes, Says, hlink, and_comm]
  | _ =>
    rcases hlink : shim.link with - | ⟨addr, tls⟩ | transport <;>
      cases settings.tlsDomain <;> simp [Exposes, Says, hlink]

theorem spawned_iff {transport : NymTransport Recipient} :
    .spawned transport ∈ (main build machine settings).trace ↔
      ∃ shim, (main build machine settings).result = .ok shim ∧
        shim.link = some (.nym transport) := by
  simp only [mem_trace_main_iff, mem_startServerTls, mem_announceHops, mem_announceHubs,
    mem_announceCaution, spawned_mem_divert, reduceCtorEq, and_false, exists_false, false_or,
    or_false, result_main_eq_ok_iff]
  constructor
  · intro h
    rcases h with ⟨tls, htls, bound, hbound, selection, hselection, hlink⟩
    exact ⟨_, ⟨tls, bound, selection, _, htls, hbound, hselection, hlink, rfl⟩, rfl⟩
  · intro h
    rcases h with ⟨_, ⟨tls, bound, selection, link, htls, hbound, hselection, hlink, rfl⟩, rfl⟩
    exact ⟨tls, htls, bound, hbound, selection, hselection, hlink⟩

theorem served_iff {shim : Shim Recipient} :
    .served shim ∈ (main build machine settings).trace ↔
      (main build machine settings).result = .ok shim := by
  have hnone (selection : HubSelection) :
      .served shim ∉ (divert build machine settings selection).trace := by
    cases selection with
    | forwardOnly => simp [divert, Traced.mem_trace_bind]
    | http addr => simp [divert, Traced.mem_trace_bind]
    | nym addresses =>
      cases hdriver : build.mixnetDriver <;>
        simp [divert, nymDiversion, hdriver, buildNymTransport, Traced.mem_trace_bind]
  simp only [mem_trace_main_iff, mem_startServerTls, mem_announceHops, mem_announceHubs,
    mem_announceCaution, hnone, reduceCtorEq, and_false, exists_false, false_or,
    or_false, result_main_eq_ok_iff, Effect.served.injEq]
  constructor
  · intro h
    rcases h with ⟨tls, htls, bound, hbound, selection, hselection, link, hlink, hshim⟩
    exact ⟨tls, bound, selection, link, htls, hbound, hselection, hlink, hshim⟩
  · intro h
    rcases h with ⟨tls, bound, selection, link, htls, hbound, hselection, hlink, hshim⟩
    exact ⟨tls, htls, bound, hbound, selection, hselection, link, hlink, hshim⟩

theorem last_of_result {shim : Shim Recipient}
    (h : (main build machine settings).result = .ok shim) :
    (main build machine settings).trace.getLast? = some (.served shim) := by
  rcases result_main_eq_ok_iff.mp h with
    ⟨tls, bound, selection, link, htls, hbound, hselection, hlink, rfl⟩
  unfold main
  apply Traced.getLast?_bind htls
  apply Traced.getLast?_bind (result_startServerTls _)
  apply Traced.getLast?_bind hbound
  apply Traced.getLast?_bind (result_announceHops _ _ _)
  apply Traced.getLast?_bind (result_noticeIf _ _)
  apply Traced.getLast?_bind hselection
  apply Traced.getLast?_bind (result_announceHubs _)
  apply Traced.getLast?_bind hlink
  apply Traced.getLast?_bind (result_announceCaution _)
  rfl

end Deployed

/-! ## What it promises -/

/-- The mixnet tasks run only under a shim that is served, which has before warned of exactly
what it leaves unprotected. -/
structure Announces (machine : Machine Recipient) (settings : Settings)
    (boot : Boot Recipient (Shim Recipient)) : Prop where
  spawned : ∀ transport, .spawned transport ∈ boot.trace ↔
    ∃ shim, boot.result = .ok shim ∧ shim.link = some (.nym transport)
  served : ∀ shim, .served shim ∈ boot.trace ↔ boot.result = .ok shim
  last : ∀ shim, boot.result = .ok shim → boot.trace.getLast? = some (.served shim)
  warned : ∀ shim, boot.result = .ok shim → ∀ n : Notice, (n.event machine).level = .warn →
    (.noticed n ∈ boot.trace ↔ Exposes settings shim n)

/-- The configuration names a hub, or demands one. -/
def Demands (settings : Settings) : Prop :=
  settings.hub ≠ none ∨ entries settings.hubNym ≠ [] ∨ settings.requireDiversion = true

/-- The one hop to the hub that a configuration names. -/
inductive Follows (build : Build) (machine : Machine Recipient) (settings : Settings) :
    Link Recipient → Prop where
  | http {addr tls} : settings.hub = some addr → entries settings.hubNym = [] →
      Authenticates machine alpnHttp11 settings.hubTls tls →
      Follows build machine settings (.http addr tls)
  | nym {transport} : settings.hub = none → Usable (entries settings.hubNym) →
      entries settings.hubNym ≠ [] →
      Carried build machine settings (entries settings.hubNym) transport →
      Follows build machine settings (.nym transport)

/-- On every connection, what the indexer is sent is a request that arrived and may reach it, as
it goes out, under the authority of the hop. -/
def Isolates (machine : Machine Recipient) (shim : Shim Recipient) : Prop :=
  ∀ codecs t s, Runs (WalletConnection.step codecs (shim.diversion machine) shim.caution
      (shim.authority machine)) WalletConnection.initial t s →
    ∀ id upstream r, ⟨id, .did upstream (.sendRequest r)⟩ ∈ t →
      ∃ req status outbound, ⟨id, .arrived req status⟩ ∈ t ∧
        MayReachOperator codecs shim.caution status req ∧
        egress codecs (shim.diversion machine) shim.caution status req = some outbound ∧
        r = retarget ⟨shim.authority machine⟩ outbound

theorem follows_of_linked {build : Build} {machine : Machine Recipient} {settings : Settings}
    {selection : HubSelection} {link : Option (Link Recipient)} (hdemands : Demands settings)
    (hselection : settings.hubSelection = .ok selection)
    (h : Linked build machine settings selection link) :
    ∃ hop, link = some hop ∧ Follows build machine settings hop := by
  have hselects := (hubSelection_eq_iff settings.toConfig _).mp hselection
  cases h with
  | forwardOnly =>
    cases hselects with
    | forwardOnly hhub hentries hrequired =>
      rcases hdemands with hnamed | hnamed | hrequires
      · exact absurd hhub hnamed
      · exact absurd hentries hnamed
      · rw [hrequired] at hrequires
        cases hrequires
  | http hauth =>
    cases hselects with
    | http hhub hentries => exact ⟨_, rfl, .http hhub hentries hauth⟩
  | nym hcarried =>
    cases hselects with
    | nym hhub hne husable => exact ⟨_, rfl, .nym hhub husable hne hcarried⟩

theorem isolates_of_link {machine : Machine Recipient} {shim : Shim Recipient}
    {link : Link Recipient} (h : shim.link = some link) : Isolates machine shim := by
  intro codecs t s hruns id upstream r hsent
  have hforwarded := (WalletConnection.kept_of_runs hruns).forwarded
  rcases List.append_of_mem hsent with ⟨pre, post, rfl⟩
  rcases hforwarded pre id upstream r post rfl with
    ⟨outbound, back, -, ⟨front, req, status, rfl, -, hegress⟩, rfl, -⟩
  have hdiverts : shim.diversion machine = some (link.hub machine) := by
    rw [Shim.diversion, h]
    rfl
  refine ⟨req, status, outbound, by simp, ?_, hegress, rfl⟩
  rw [hdiverts] at hegress
  exact mayReachOperator_of_egress hegress

end Startup

open Startup

/-- Whatever a startup comes to, the mixnet tasks run only if it succeeds; if it does, it has
warned of exactly what it leaves unprotected, and serves last. -/
theorem startup_announces (build : Build) (machine : Machine Recipient) (settings : Settings) :
    Announces machine settings (main build machine settings) where
  spawned _ := spawned_iff
  served _ := served_iff
  last _ := last_of_result
  warned _ h _ hwarns := warned_iff h hwarns

/-- A shim that is served although its configuration names a hub, or demands one, has the one hop
that the configuration names, and on every connection keeps what it diverts from the indexer. -/
theorem startup_isolates {build : Build} {machine : Machine Recipient} {settings : Settings}
    {shim : Shim Recipient} (h : (main build machine settings).result = .ok shim)
    (hdemands : Demands settings) :
    (∃ link, shim.link = some link ∧ Follows build machine settings link) ∧
      shim.caution = ⟨settings.cautionAttestation, settings.cautionBootproofdAddr⟩ ∧
      shim.backend.addr = settings.backend ∧
      Authenticates machine alpnH2 settings.backendTls shim.backend.tls ∧
      Isolates machine shim := by
  have hdeployed := deployed_of_result h
  rcases hdeployed.linked with ⟨selection, hselection, hlinked⟩
  rcases follows_of_linked hdemands hselection hlinked with ⟨link, hlink, hfollows⟩
  exact ⟨⟨link, hlink, hfollows⟩, hdeployed.caution, hdeployed.backend, hdeployed.backendTls,
    isolates_of_link hlink⟩

/-- A machine on which everything is well formed. -/
def obliging : Machine String where
  serverName name := some (.dnsName name)
  bind := .ok
  parseRecipient := .ok
  shown _ := "198.51.100.7:443"
  quoted s := s

/-- Two hubs on the mixnet, and an indexer behind TLS. -/
def twoHubs : Settings where
  hub := none
  hubNym := ["ha.ea@ga", " hb.eb@gb ", ""]
  requireDiversion := true
  nymRotationSecs := some 3600
  nymGateway := []
  lookupTimeoutSecs := none
  listen := .v4 0 8080
  backend := .v4 3325256711 443
  backendTls := some "indexer.example"
  hubTls := none
  nymTopology := none
  diag := false
  tlsDomain := none
  tlsEmail := none
  tlsProduction := false
  cautionAttestation := true
  cautionBootproofdAddr := defaultBootproofdAddr

theorem startup_isolates_twoHubs :
    ∃ shim transport, (main ⟨true, false⟩ obliging twoHubs).result = .ok shim ∧
      shim.link = some (.nym transport) ∧ transport.recipients = ["ha.ea@ga", "hb.eb@gb"] ∧
      shim.authority obliging = "indexer.example" ∧ Isolates obliging shim := by
  have hresult : (main ⟨true, false⟩ obliging twoHubs).result = .ok _ := rfl
  have hisolates := startup_isolates hresult (.inr (.inr rfl))
  exact ⟨_, _, hresult, rfl, rfl, rfl, hisolates.2.2.2.2⟩

end ZeroShim
