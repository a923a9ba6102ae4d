import Tase2South.Base.Fallible
import Tase2South.Config.Types

/-!
# The library session of a connection

The handles a connection holds at the TASE.2 library and the calls it makes on them, from
`src/tase2_client_connection.cpp:49–83,491–702`. Every call is recorded with what it returned,
so that a property of a run is a property of the recorded calls. A call that creates an object
returns a handle that was never returned before.
-/

namespace Tase2South.Connection

open Tase2South.Base Tase2South.Config

/-- A pointer to an object of the library. -/
abbrev Handle := Nat

/-- Calls on a TLS configuration. -/
inductive TlsCall where
  | create
  | setOwnKeyFromFile (file : String) (loaded : Bool)
  | setOwnCertificateFromFile (file : String) (loaded : Bool)
  | setAllowOnlyKnownCertificates (value : Bool)
  | addAllowedCertificateFromFile (file : String) (loaded : Bool)
  | setChainValidation (value : Bool)
  | addCACertificateFromFile (file : String) (loaded : Bool)
  | setRenegotiationTime (timeInMs : Nat)
  | destroy
  deriving DecidableEq

/-- Set-up calls on an endpoint. -/
inductive EndpointCall where
  | setRemoteIpAddress (ip : String)
  | setRemoteTcpPort (port : Int)
  | setRemoteApTitle (title : String) (aeQualifier : Int)
  | setLocalApTitle (title : String) (aeQualifier : Int)
  | setRemoteAddresses (pSel : PSelector) (sSel : SSelector) (tSel : TSelector)
  | setLocalAddresses (pSel : PSelector) (sSel : SSelector) (tSel : TSelector)
  deriving DecidableEq

/-- What a written transfer set carries: the domain it was requested from and every parameter
that was set on it. -/
structure ClientDSTransferSet where
  handle : Handle
  domain : String
  dataSet : Handle
  dataSetDomain : String
  dataSetName : String
  interval : Int
  rbe : Bool
  critical : Bool
  bufferTime : Int
  integrityCheck : Int
  startTime : Int
  allChangesReported : Bool
  dsConditionsRequested : BitVec 32
  status : Bool
  deriving DecidableEq

/-- A call to the library or the file system, with what it returned. -/
inductive LibCall where
  | access (file : String) (readable : Bool)
  | tls (config : Handle) (call : TlsCall)
  | endpointCreate (tls : Option Handle) (result : Option Handle)
  | endpoint (endpoint : Handle) (call : EndpointCall)
  | endpointDestroy (endpoint : Handle)
  | clientCreateEx (endpoint : Handle) (result : Option Handle)
  | clientConnectEx (client : Option Handle)
  | clientDisconnect (client : Option Handle)
  | clientDestroy (client : Option Handle)
  | createDataSet (client : Option Handle) (domain name : String) (entries : List String)
  | getNextDSTransferSet (client : Option Handle) (domain : String) (result : Option Handle)
  | getDataSet (client : Option Handle) (domain name : String) (result : Option Handle)
  | writeValues (client : Option Handle) (transferSet : ClientDSTransferSet)
  | installDSTransferSetHandlers (client : Option Handle)
  | transferSetDestroy (transferSet : Handle)
  | dataSetDestroy (dataSet : Handle)
  | handleAllValues
  deriving DecidableEq

/-- What the code does where no object is there: it dereferences absent OSI parameters, or
asks an absent endpoint for its state. -/
inductive ConnFault where
  | absentOsiParameters
  | absentEndpoint
  deriving DecidableEq, Repr

/-- The members `m_endpoint`, `m_tase2client` and `m_tlsConfig`, with the calls made so far and
the next fresh handle. The constructor leaves `m_tase2client` uninitialised: `clientAssigned` is
whether it has been assigned since, and `tase2client` is what it was assigned last, the client that
was created or null. -/
structure Session where
  endpoint : Option Handle
  tase2client : Option Handle
  clientAssigned : Bool
  tlsConfig : Option Handle
  nextHandle : Handle
  calls : List LibCall
  deriving DecidableEq

namespace Session

/-- A session before anything was created, and before `m_tase2client` was assigned. -/
def initial : Session := ⟨none, none, false, none, 0, []⟩

/-- What reading `m_tase2client` gives, where `leftover` is what its storage held when the
connection was constructed. -/
def clientMember (leftover : Option Handle) (s : Session) : Option Handle :=
  if s.clientAssigned then s.tase2client else leftover

/-- Record calls. -/
def record (s : Session) (calls : List LibCall) : Session := { s with calls := s.calls ++ calls }

/-- A fresh handle, when the library returns one. -/
def fresh (s : Session) (created : Bool) : Option Handle × Session :=
  if created then (some s.nextHandle, { s with nextHandle := s.nextHandle + 1 }) else (none, s)

@[simp] theorem endpoint_record (s : Session) (calls : List LibCall) :
    (s.record calls).endpoint = s.endpoint := rfl

@[simp] theorem tase2client_record (s : Session) (calls : List LibCall) :
    (s.record calls).tase2client = s.tase2client := rfl

@[simp] theorem clientAssigned_record (s : Session) (calls : List LibCall) :
    (s.record calls).clientAssigned = s.clientAssigned := rfl

@[simp] theorem tlsConfig_record (s : Session) (calls : List LibCall) :
    (s.record calls).tlsConfig = s.tlsConfig := rfl

@[simp] theorem nextHandle_record (s : Session) (calls : List LibCall) :
    (s.record calls).nextHandle = s.nextHandle := rfl

@[simp] theorem calls_record (s : Session) (calls : List LibCall) :
    (s.record calls).calls = s.calls ++ calls := rfl

end Session

/-! ### TLS files -/

/-- What reading a file ends in. -/
inductive FileOutcome where
  | unreadable
  | rejected
  | loaded
  deriving DecidableEq, Repr

/-- What the outside decides while a connection is prepared: the data directory, the outcome
of every file, and whether the library creates the endpoint and the client. -/
structure PrepareEnv where
  dataDir : String
  ownKey : FileOutcome
  ownCert : FileOutcome
  remoteCert : Nat → FileOutcome
  caCert : Nat → FileOutcome
  endpointCreated : Bool
  clientCreated : Bool

/-- The bytes of a `std::string`. -/
def bytesOf (s : String) : List UInt8 := s.toUTF8.data.toList

/-- The largest `size_t`, which is also `npos`. -/
def npos : Nat := 2 ^ 64 - 1

/-- `rfind`: the last position at which the pattern occurs, or `npos`. -/
def rfind (pattern text : List UInt8) : Nat :=
  ((List.range (text.length + 1)).reverse.find? fun i ↦
    pattern.isPrefixOf (text.drop i)).getD npos

/-- `file.rfind (".pem") == file.size () - 4`, with the subtraction of `size_t`. -/
def isPem (file : String) : Bool :=
  rfind (bytesOf ".pem") (bytesOf file) == ((bytesOf file).length + 2 ^ 64 - 4) % 2 ^ 64

/-- The path of a certificate, `src/tase2_client_connection.cpp:537–546`. -/
def certificatePath (dataDir file : String) : String :=
  if isPem file then dataDir ++ "/etc/certs/pem/" ++ file else dataDir ++ "/etc/certs/" ++ file

/-- A file is accessed, and handed to the library when it is readable. -/
def loadFile (tls : Handle) (file : String) (call : Bool → TlsCall) :
    FileOutcome → List LibCall
  | .unreadable => [.access file false]
  | .rejected => [.access file true, .tls tls (call false)]
  | .loaded => [.access file true, .tls tls (call true)]

/-- The calls that load the own key and certificate,
`src/tase2_client_connection.cpp:505–567`. -/
def ownFiles (env : PrepareEnv) (config : TASE2ClientConfig) (tls : Handle) : List LibCall :=
  if config.ownCertificate.isEmpty || config.privateKey.isEmpty then []
  else
    let key := env.dataDir ++ "/etc/certs/" ++ config.privateKey
    let cert := certificatePath env.dataDir config.ownCertificate
    loadFile tls key (.setOwnKeyFromFile key) env.ownKey ++
      loadFile tls cert (.setOwnCertificateFromFile cert) env.ownCert

/-- The value of `tlsConfigOk`: key and certificate are configured and loaded. -/
def tlsConfigOk (env : PrepareEnv) (config : TASE2ClientConfig) : Bool :=
  !(config.ownCertificate.isEmpty || config.privateKey.isEmpty) &&
    env.ownKey == .loaded && env.ownCert == .loaded

/-- The calls for a list of other certificates: those of
`src/tase2_client_connection.cpp:569–610` and `src/tase2_client_connection.cpp:612–652`. -/
def otherFiles (dataDir : String) (tls : Handle) (files : List String)
    (enable : Bool → TlsCall) (add : String → Bool → TlsCall) (outcome : Nat → FileOutcome) :
    List LibCall :=
  .tls tls (enable !files.isEmpty) ::
    files.zipIdx.flatMap fun f ↦
      let path := certificatePath dataDir f.1
      loadFile tls path (add path) (outcome f.2)

/-- The calls on a new TLS configuration, `src/tase2_client_connection.cpp:496–652`. -/
def tlsCalls (env : PrepareEnv) (config : TASE2ClientConfig) (tls : Handle) : List LibCall :=
  .tls tls .create :: ownFiles env config tls ++
    otherFiles env.dataDir tls config.remoteCertificates .setAllowOnlyKnownCertificates
      .addAllowedCertificateFromFile env.remoteCert ++
    otherFiles env.dataDir tls config.caCertificates .setChainValidation
      .addCACertificateFromFile env.caCert

/-- A file is accessed and handed on with one kind of call. -/
theorem mem_loadFile {tls : Handle} {file : String} {call : Bool → TlsCall}
    {outcome : FileOutcome} {c : LibCall} (h : c ∈ loadFile tls file call outcome) :
    (∃ readable, c = .access file readable) ∨ ∃ loaded, c = .tls tls (call loaded) := by
  cases outcome with
  | unreadable =>
    rw [loadFile, List.mem_singleton] at h
    exact .inl ⟨false, h⟩
  | rejected =>
    rw [loadFile, List.mem_pair] at h
    exact h.imp (⟨true, ·⟩) (⟨false, ·⟩)
  | loaded =>
    rw [loadFile, List.mem_pair] at h
    exact h.imp (⟨true, ·⟩) (⟨true, ·⟩)

/-- The other certificates switch their check and are then loaded. -/
theorem mem_otherFiles {dataDir : String} {tls : Handle} {files : List String}
    {enable : Bool → TlsCall} {add : String → Bool → TlsCall} {outcome : Nat → FileOutcome}
    {c : LibCall} (h : c ∈ otherFiles dataDir tls files enable add outcome) :
    c = .tls tls (enable !files.isEmpty) ∨ (∃ file readable, c = .access file readable) ∨
      ∃ file loaded, c = .tls tls (add file loaded) := by
  rw [otherFiles, List.mem_cons, List.mem_flatMap] at h
  rcases h with h | ⟨f, -, hf⟩
  · exact .inl h
  · rcases mem_loadFile hf with ⟨readable, hc⟩ | ⟨loaded, hc⟩
    · exact .inr (.inl ⟨_, readable, hc⟩)
    · exact .inr (.inr ⟨_, loaded, hc⟩)

/-- The own files are accessed and handed on. -/
theorem mem_ownFiles {env : PrepareEnv} {config : TASE2ClientConfig} {tls : Handle} {c : LibCall}
    (h : c ∈ ownFiles env config tls) :
    (∃ file readable, c = .access file readable) ∨
      (∃ file loaded, c = .tls tls (.setOwnKeyFromFile file loaded)) ∨
      ∃ file loaded, c = .tls tls (.setOwnCertificateFromFile file loaded) := by
  unfold ownFiles at h
  split at h
  · cases h
  · rcases List.mem_append.mp h with h | h
    · rcases mem_loadFile h with ⟨readable, hc⟩ | ⟨loaded, hc⟩
      · exact .inl ⟨_, readable, hc⟩
      · exact .inr (.inl ⟨_, loaded, hc⟩)
    · rcases mem_loadFile h with ⟨readable, hc⟩ | ⟨loaded, hc⟩
      · exact .inl ⟨_, readable, hc⟩
      · exact .inr (.inr ⟨_, loaded, hc⟩)

/-- Setting up a TLS configuration accesses files and calls the configuration. -/
theorem mem_tlsCalls {env : PrepareEnv} {config : TASE2ClientConfig} {tls : Handle} {c : LibCall}
    (h : c ∈ tlsCalls env config tls) :
    (∃ file readable, c = .access file readable) ∨ ∃ call, c = .tls tls call := by
  simp only [tlsCalls, List.mem_append, List.mem_cons] at h
  rcases h with ((h | h) | h) | h
  · exact .inr ⟨.create, h⟩
  · rcases mem_ownFiles h with ⟨file, readable, hc⟩ | ⟨_, _, hc⟩ | ⟨_, _, hc⟩
    · exact .inl ⟨file, readable, hc⟩
    · exact .inr ⟨_, hc⟩
    · exact .inr ⟨_, hc⟩
  · rcases mem_otherFiles h with hc | hc | ⟨_, _, hc⟩
    · exact .inr ⟨_, hc⟩
    · exact .inl hc
    · exact .inr ⟨_, hc⟩
  · rcases mem_otherFiles h with hc | hc | ⟨_, _, hc⟩
    · exact .inr ⟨_, hc⟩
    · exact .inl hc
    · exact .inr ⟨_, hc⟩

/-! ### Preparing a connection -/

/-- The set-up calls of `m_setOsiConnectionParameters`,
`src/tase2_client_connection.cpp:49–83`, as the source passes the selectors. -/
def osiCalls (osiParams : OsiParameters) : List EndpointCall :=
  (if osiParams.remoteApTitle.isEmpty then []
    else [.setRemoteApTitle (cString osiParams.remoteApTitle) osiParams.remoteAeQualifier]) ++
  (if osiParams.localApTitle.isEmpty then []
    else [.setLocalApTitle (cString osiParams.localApTitle) osiParams.localAeQualifier]) ++
  [.setRemoteAddresses osiParams.remotePSelector osiParams.remoteSSelector
      osiParams.localTSelector,
    .setLocalAddresses osiParams.localPSelector osiParams.localSSelector
      osiParams.remoteTSelector]

namespace Session

/-- `m_setOsiConnectionParameters`, `src/tase2_client_connection.cpp:49–83`. -/
def setOsiConnectionParameters (s : Session) (osiParameters : Option OsiParameters) :
    Except ConnFault Session :=
  match osiParameters, s.endpoint with
  | none, _ => .error .absentOsiParameters
  | some _, none => .error .absentEndpoint
  | some osiParams, some endpoint =>
    .ok (s.record ((osiCalls osiParams).map (.endpoint endpoint)))

/-- The endpoint of a connection with TLS, `src/tase2_client_connection.cpp:494–675`; a
configuration that cannot be used is not destroyed. -/
def createTlsEndpoint (s : Session) (env : PrepareEnv) (config : TASE2ClientConfig) : Session :=
  let tls := s.nextHandle
  let s := ({ s with nextHandle := tls + 1 } : Session).record (tlsCalls env config tls)
  if tlsConfigOk env config then
    let s := s.record [.tls tls (.setRenegotiationTime 60000)]
    let (endpoint, s) := s.fresh env.endpointCreated
    let s := { s.record [.endpointCreate (some tls) endpoint] with endpoint := endpoint }
    if endpoint.isSome then { s with tlsConfig := some tls }
    else s.record [.tls tls .destroy]
  else
    s

/-- The endpoint of a connection without TLS, `src/tase2_client_connection.cpp:676–679`. -/
def createPlainEndpoint (s : Session) (env : PrepareEnv) : Session :=
  let (endpoint, s) := s.fresh env.endpointCreated
  { s.record [.endpointCreate none endpoint] with endpoint := endpoint }

/-- `prepareConnection`, `src/tase2_client_connection.cpp:491–702`; `m_passive` is never
set. -/
def prepareConnection (s : Session) (env : PrepareEnv) (config : TASE2ClientConfig)
    (useTls : Bool) (serverIp : String) (tcpPort : Int) (osiParameters : Option OsiParameters) :
    Except ConnFault (Bool × Session) := do
  let s := if useTls then s.createTlsEndpoint env config else s.createPlainEndpoint env
  match s.endpoint with
  | none => return (false, s)
  | some endpoint =>
    let s := s.record [.endpoint endpoint (.setRemoteIpAddress (cString serverIp)),
      .endpoint endpoint (.setRemoteTcpPort tcpPort)]
    let s ← s.setOsiConnectionParameters osiParameters
    let (client, s) := s.fresh env.clientCreated
    let s := { s.record [.clientCreateEx endpoint client] with
      tase2client := client, clientAssigned := true }
    return (client.isSome, s)

end Session

end Tase2South.Connection
