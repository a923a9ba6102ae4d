import Tase2South.Base.Automaton
import Tase2South.Connection.Calls

/-!
# The order of the calls

The library is used in a fixed order: an endpoint is addressed, gets a client and is connected;
the data sets are created before the transfer sets that use them, and the handlers installed after
both; the client is released before its endpoint, and the endpoint before its TLS configuration.
The order is stated as a partial automaton over the calls, and every run of a connection,
`src/tase2_client_connection.cpp:259–489`, keeps it.
-/

namespace Tase2South.Connection

open Tase2South.Base Tase2South.Config

/-- How far an association has come. -/
inductive Stage where
  | closed
  | addressing
  | requested
  | configuring
  | obtained (transferSet : Handle)
  | assigned (transferSet dataSet : Handle)
  | serving
  | disconnected
  deriving DecidableEq

/-- What the calls made so far have left at the library: the association, the address of its
endpoint, the TLS configuration that secures it, and which TLS configurations exist and which sets
were handed out. -/
structure Association where
  stage : Stage
  endpoint : Option Handle
  client : Option Handle
  securedBy : Option Handle
  remoteIp : Option String
  remotePort : Option Int
  tlsConfigs : List Handle
  transferSets : List Handle
  dataSets : List Handle
  deriving DecidableEq

namespace Association

/-- The association before the first call. -/
def initial : Association := ⟨.closed, none, none, none, none, none, [], [], []⟩

/-- Go on when the call is in order. -/
def allow (inOrder : Prop) [Decidable inOrder] (l : Association) : Option Association :=
  if inOrder then some l else none

/-- A TLS configuration is set up before an endpoint uses it, and outlives that endpoint. -/
def nextTls (l : Association) (tls : Handle) : TlsCall → Option Association
  | .create => allow (tls ∉ l.tlsConfigs) { l with tlsConfigs := tls :: l.tlsConfigs }
  | .destroy => allow (tls ∈ l.tlsConfigs ∧ l.securedBy ≠ some tls)
      { l with tlsConfigs := l.tlsConfigs.erase tls }
  | _ => allow (tls ∈ l.tlsConfigs ∧ l.securedBy ≠ some tls) l

/-- An endpoint is set up before it is connected. -/
def nextEndpoint (l : Association) (endpoint : Handle) (call : EndpointCall) :
    Option Association :=
  allow (l.stage = .addressing ∧ l.endpoint = some endpoint)
    (match call with
      | .setRemoteIpAddress ip => { l with remoteIp := some ip }
      | .setRemoteTcpPort port => { l with remotePort := some port }
      | _ => l)

/-- The client of the association makes a request at a stage. -/
def requestsAt (l : Association) (client : Option Handle) (stages : List Stage) : Prop :=
  client.isSome ∧ client = l.client ∧ l.stage ∈ stages

instance (l : Association) (client : Option Handle) (stages : List Stage) :
    Decidable (l.requestsAt client stages) :=
  inferInstanceAs (Decidable (_ ∧ _ ∧ _))

/-- Which call may come next on an association with a peer, and what it leaves. A set that was
handed out may be destroyed at every stage but between the disconnect of the client and the end of
its endpoint, and more than once. -/
def next (params : ConnectionParams) (l : Association) : LibCall → Option Association
  | .access _ _ => some l
  | .tls tls call => l.nextTls tls call
  | .endpointCreate tls result =>
    allow (l.stage = .closed ∧ ∀ h ∈ tls, h ∈ l.tlsConfigs)
      (match result with
        | none => l
        | some endpoint => { l with
            stage := .addressing, endpoint := some endpoint, securedBy := tls
            remoteIp := none, remotePort := none })
  | .endpoint endpoint call => l.nextEndpoint endpoint call
  | .clientCreateEx endpoint result =>
    allow (l.stage = .addressing ∧ l.endpoint = some endpoint ∧ l.client = none)
      { l with client := result }
  | .clientConnectEx client =>
    allow (l.requestsAt client [.addressing] ∧ l.remoteIp = some (cString params.serverIp) ∧
      l.remotePort = some params.tcpPort) { l with stage := .requested }
  | .createDataSet client _ _ _ => allow (l.requestsAt client [.requested]) l
  | .getNextDSTransferSet client _ result =>
    allow (l.requestsAt client [.requested, .configuring])
      (match result with
        | none => { l with stage := .configuring }
        | some ts => { l with stage := .obtained ts, transferSets := ts :: l.transferSets })
  | .getDataSet client _ _ result =>
    match l.stage with
    | .obtained ts => allow (l.requestsAt client [.obtained ts])
        (match result with
          | none => { l with stage := .configuring }
          | some dataSet => { l with
              stage := .assigned ts dataSet, dataSets := dataSet :: l.dataSets })
    | _ => none
  | .writeValues client ts =>
    allow (l.requestsAt client [.assigned ts.handle ts.dataSet]) { l with stage := .configuring }
  | .installDSTransferSetHandlers client =>
    allow (l.requestsAt client [.requested, .configuring]) { l with stage := .serving }
  | .handleAllValues => allow (l.stage = .serving) l
  | .transferSetDestroy ts => allow (ts ∈ l.transferSets ∧ l.stage ≠ .disconnected) l
  | .dataSetDestroy dataSet => allow (dataSet ∈ l.dataSets ∧ l.stage ≠ .disconnected) l
  | .clientDisconnect client =>
    allow (l.stage ≠ .closed ∧ l.stage ≠ .disconnected ∧ client = l.client)
      { l with stage := .disconnected }
  | .clientDestroy client =>
    allow (l.stage = .disconnected ∧ client = l.client) { l with client := none }
  | .endpointDestroy endpoint =>
    allow (l.stage = .disconnected ∧ l.endpoint = some endpoint ∧ l.client = none)
      { l with stage := .closed, endpoint := none, securedBy := none }

/-- The association with the address of its peer. -/
def toPeer (l : Association) (params : ConnectionParams) : Association :=
  { l with remoteIp := some (cString params.serverIp), remotePort := some params.tcpPort }

/-- A call in order goes on. -/
theorem allow_of {inOrder : Prop} [Decidable inOrder] (h : inOrder) (l : Association) :
    allow inOrder l = some l := if_pos h

end Association

/-- The calls of a connection are in order, and have left what its members show. -/
structure Conforms (l : Association) (s : TASE2ClientConnection) : Prop where
  accepted : Leads (Association.next s.toConnectionParams) .initial s.session.calls l
  endpoint_eq : l.endpoint = s.session.endpoint
  client_eq : l.client = s.session.tase2client
  closed_iff : l.stage = .closed ↔ l.endpoint = none
  unsecured : l.endpoint = none → l.securedBy = none
  steady : l.stage ≠ .disconnected
  held : ∀ tls ∈ s.session.tlsConfig, tls ∈ l.tlsConfigs
  fresh : ∀ tls ∈ l.tlsConfigs, tls < s.session.nextHandle
  transferSets : ∀ h ∈ s.dsts, h ∈ l.transferSets
  dataSets : ∀ h ∈ s.datasets, h ∈ l.dataSets

/-- No call was made yet. -/
theorem conforms_new (params : ConnectionParams) : Conforms .initial (.new params) where
  accepted := (leads_nil_iff _).mpr rfl
  endpoint_eq := rfl
  client_eq := rfl
  closed_iff := iff_of_true rfl rfl
  unsecured _ := rfl
  steady := by decide
  held _ h := by cases h
  fresh _ h := by cases h
  transferSets _ h := by cases h
  dataSets _ h := by cases h

/-! ### The endpoint -/

section

variable {params : ConnectionParams} {l : Association}

/-- Setting up a TLS configuration that no endpoint uses yet is in order. -/
theorem next_tls_of_live (l : Association) {tls : Handle} (hlive : tls ∈ l.tlsConfigs)
    (hfree : l.securedBy ≠ some tls) {call : TlsCall} (hcreate : call ≠ .create)
    (hdestroy : call ≠ .destroy) : l.next params (.tls tls call) = some l := by
  rw [Association.next]
  cases call with
  | create => exact absurd rfl hcreate
  | destroy => exact absurd rfl hdestroy
  | _ => exact Association.allow_of ⟨hlive, hfree⟩ l

/-- The calls on a new TLS configuration and its files are in order. -/
theorem leads_tlsCalls {tls : Handle} (hnew : tls ∉ l.tlsConfigs) (hfree : l.securedBy ≠ some tls)
    (env : PrepareEnv) (config : TASE2ClientConfig) :
    Leads (Association.next params) l (tlsCalls env config tls)
      { l with tlsConfigs := tls :: l.tlsConfigs } := by
  rw [tlsCalls, List.append_assoc, List.cons_append]
  refine (leads_cons_iff _).mpr ⟨_, Association.allow_of hnew _, ?_⟩
  apply leads_self_of_forall
  have hkept : ∀ call : TlsCall, call ≠ .create → call ≠ .destroy →
      Association.next params { l with tlsConfigs := tls :: l.tlsConfigs } (.tls tls call) =
        some { l with tlsConfigs := tls :: l.tlsConfigs } :=
    fun _ ↦ next_tls_of_live { l with tlsConfigs := _ } List.mem_cons_self hfree
  intro c hc
  simp only [List.mem_append] at hc
  rcases hc with hc | hc | hc
  · rcases mem_ownFiles hc with ⟨file, readable, rfl⟩ | ⟨file, loaded, rfl⟩ | ⟨file, loaded, rfl⟩
    · rfl
    · exact hkept _ (by simp) (by simp)
    · exact hkept _ (by simp) (by simp)
  · rcases mem_otherFiles hc with rfl | ⟨file, readable, rfl⟩ | ⟨file, loaded, rfl⟩
    · exact hkept _ (by simp) (by simp)
    · rfl
    · exact hkept _ (by simp) (by simp)
  · rcases mem_otherFiles hc with rfl | ⟨file, readable, rfl⟩ | ⟨file, loaded, rfl⟩
    · exact hkept _ (by simp) (by simp)
    · rfl
    · exact hkept _ (by simp) (by simp)

/-- Asking for an endpoint is in order, whether or not it is created. -/
theorem leads_endpointCreate {tls : Option Handle} (hstage : l.stage = .closed)
    (htls : ∀ h ∈ tls, h ∈ l.tlsConfigs) (endpoint : Handle) :
    Leads (Association.next params) l [.endpointCreate tls none] l ∧
      Leads (Association.next params) l [.endpointCreate tls (some endpoint)]
        { l with
          stage := .addressing, endpoint := some endpoint, securedBy := tls
          remoteIp := none, remotePort := none } := by
  simp only [leads_singleton_iff]
  exact ⟨Association.allow_of ⟨hstage, htls⟩ _, Association.allow_of ⟨hstage, htls⟩ _⟩

end

section

variable {l : Association} {s : TASE2ClientConnection}

/-- The calls of a connection stay in order with more calls in order. -/
theorem Conforms.leads (hs : Conforms l s) {session : Session} {new : List LibCall}
    (hcalls : session.calls = s.session.calls ++ new) {m : Association}
    (hnew : Leads (Association.next s.toConnectionParams) l new m) :
    Leads (Association.next s.toConnectionParams) .initial session.calls m := by
  rw [hcalls]
  exact hs.accepted.append _ hnew

private theorem conforms_createPlainEndpoint (hs : Conforms l s)
    (hnone : s.session.endpoint = none) (env : PrepareEnv) :
    ∃ m, Conforms m { s with session := s.session.createPlainEndpoint env } ∧
      (m.endpoint.isSome → m.stage = .addressing) := by
  have hendpoint := hs.endpoint_eq.trans hnone
  have hclosed := hs.closed_iff.mpr hendpoint
  obtain ⟨hrefused, hcreated⟩ := @leads_endpointCreate s.toConnectionParams l none hclosed nofun
    s.session.nextHandle
  rw [Session.createPlainEndpoint]
  cases env.endpointCreated with
  | false =>
    refine ⟨l, ⟨hs.leads rfl hrefused, hendpoint, hs.client_eq, hs.closed_iff, hs.unsecured,
      hs.steady, hs.held, hs.fresh, hs.transferSets, hs.dataSets⟩, fun h ↦ ?_⟩
    rw [hendpoint] at h
    cases h
  | true =>
    exact ⟨_, ⟨hs.leads rfl hcreated, rfl, hs.client_eq, by simp, by simp, by simp, hs.held,
      fun tls h ↦ Nat.lt_succ_of_lt (hs.fresh tls h), hs.transferSets, hs.dataSets⟩, fun _ ↦ rfl⟩

private theorem conforms_createTlsEndpoint (hs : Conforms l s)
    (hnone : s.session.endpoint = none) (env : PrepareEnv) (config : TASE2ClientConfig) :
    ∃ m, Conforms m { s with session := s.session.createTlsEndpoint env config } ∧
      (m.endpoint.isSome → m.stage = .addressing) := by
  have hendpoint := hs.endpoint_eq.trans hnone
  have hclosed := hs.closed_iff.mpr hendpoint
  have hunsecured := hs.unsecured hendpoint
  have hnew : s.session.nextHandle ∉ l.tlsConfigs := fun h ↦ lt_irrefl _ (hs.fresh _ h)
  have hfree : l.securedBy ≠ some s.session.nextHandle := by simp [hunsecured]
  have hfiles := @leads_tlsCalls s.toConnectionParams l _ hnew hfree env config
  have hold : ∀ tls ∈ s.session.nextHandle :: l.tlsConfigs, tls < s.session.nextHandle + 1 := by
    intro tls h
    rcases List.mem_cons.mp h with rfl | h
    · exact Nat.lt_succ_self _
    · exact Nat.lt_succ_of_lt (hs.fresh tls h)
  have hheld : ∀ tls ∈ s.session.tlsConfig, tls ∈ s.session.nextHandle :: l.tlsConfigs :=
    fun tls h ↦ List.mem_cons_of_mem _ (hs.held tls h)
  rw [Session.createTlsEndpoint]
  cases hok : tlsConfigOk env config with
  | false =>
    -- the configuration is left as it is, and no endpoint is asked for
    refine ⟨_, ⟨hs.leads rfl hfiles, hs.endpoint_eq, hs.client_eq, hs.closed_iff, hs.unsecured,
      hs.steady, hheld, hold, hs.transferSets, hs.dataSets⟩, fun h ↦ ?_⟩
    simp [hendpoint] at h
  | true =>
    have hreneg : Leads (Association.next s.toConnectionParams)
        { l with tlsConfigs := s.session.nextHandle :: l.tlsConfigs }
        [.tls s.session.nextHandle (.setRenegotiationTime 60000)] _ :=
      (leads_singleton_iff _).mpr (next_tls_of_live { l with tlsConfigs := _ }
        List.mem_cons_self hfree (by simp) (by simp))
    have htls : ∀ h ∈ some s.session.nextHandle, h ∈ s.session.nextHandle :: l.tlsConfigs := by
      simp
    obtain ⟨hrefused, hcreated⟩ := @leads_endpointCreate s.toConnectionParams
      { l with tlsConfigs := s.session.nextHandle :: l.tlsConfigs } _ hclosed htls
      (s.session.nextHandle + 1)
    cases env.endpointCreated with
    | false =>
      have hdestroy : Leads (Association.next s.toConnectionParams)
          { l with tlsConfigs := s.session.nextHandle :: l.tlsConfigs }
          [.tls s.session.nextHandle .destroy] l := by
        rw [leads_singleton_iff]
        refine (Association.allow_of ⟨List.mem_cons_self, hfree⟩ _).trans ?_
        rw [List.erase_cons_head]
      have hall := ((hfiles.append _ hreneg).append _ hrefused).append _ hdestroy
      refine ⟨l, ⟨hs.leads ?_ hall, hendpoint, hs.client_eq, hs.closed_iff, hs.unsecured,
        hs.steady, hs.held, fun tls h ↦ Nat.lt_succ_of_lt (hs.fresh tls h), hs.transferSets,
        hs.dataSets⟩, fun h ↦ ?_⟩
      · simp [Session.fresh]
      · rw [hendpoint] at h
        cases h
    | true =>
      have hall := (hfiles.append _ hreneg).append _ hcreated
      refine ⟨_, ⟨hs.leads ?_ hall, rfl, hs.client_eq, by simp, by simp, by simp, htls,
        fun tls h ↦ Nat.lt_succ_of_lt (hold tls h), hs.transferSets, hs.dataSets⟩, fun _ ↦ rfl⟩
      simp [Session.fresh]

/-- An endpoint is created in order. -/
theorem conforms_createEndpoint (hs : Conforms l s) (hnone : s.session.endpoint = none)
    (env : PrepareEnv) (config : TASE2ClientConfig) (useTls : Bool) :
    ∃ m, Conforms m { s with session := s.session.createEndpoint env config useTls } ∧
      (m.endpoint.isSome → m.stage = .addressing) := by
  cases useTls with
  | false => exact conforms_createPlainEndpoint hs hnone env
  | true => exact conforms_createTlsEndpoint hs hnone env config

/-! ### The client -/

/-- Setting the OSI addresses leaves the address of the peer. -/
theorem leads_osiCalls {params : ConnectionParams} (l : Association) {endpoint : Handle}
    (hstage : l.stage = .addressing) (hendpoint : l.endpoint = some endpoint)
    (osiParams : OsiParameters) :
    Leads (Association.next params) l ((osiCalls osiParams).map (.endpoint endpoint)) l := by
  apply leads_self_of_forall
  intro c hc
  obtain ⟨call, hcall, rfl⟩ := List.mem_map.mp hc
  cases call with
  | setRemoteIpAddress ip =>
    unfold osiCalls at hcall
    split at hcall <;> split at hcall <;> simp at hcall
  | setRemoteTcpPort port =>
    unfold osiCalls at hcall
    split at hcall <;> split at hcall <;> simp at hcall
  | _ => exact Association.allow_of ⟨hstage, hendpoint⟩ l

@[simp] theorem Session.tlsConfig_createClient (u : Session) (endpoint : Handle)
    (env : PrepareEnv) : (u.createClient endpoint env).tlsConfig = u.tlsConfig := by
  unfold Session.createClient Session.fresh
  split <;> rfl

/-- The addresses are set and a client is asked for in order. -/
theorem conforms_createClient {endpoint : Handle} (hs : Conforms l s)
    (hstage : l.stage = .addressing) (hendpoint : l.endpoint = some endpoint)
    (hclient : l.client = none) (osiParams : OsiParameters) (env : PrepareEnv) :
    ∃ m, Conforms m { s with session := (s.session.addressEndpoint endpoint s.serverIp s.tcpPort
        osiParams).createClient endpoint env } ∧ m.stage = .addressing ∧
      m.remoteIp = some (cString s.serverIp) ∧ m.remotePort = some s.tcpPort := by
  have hip : l.next s.toConnectionParams
      (.endpoint endpoint (.setRemoteIpAddress (cString s.serverIp))) =
        some { l with remoteIp := some (cString s.serverIp) } :=
    Association.allow_of ⟨hstage, hendpoint⟩ _
  have hport : Association.next s.toConnectionParams
      { l with remoteIp := some (cString s.serverIp) }
      (.endpoint endpoint (.setRemoteTcpPort s.tcpPort)) = some (l.toPeer s.toConnectionParams) :=
    Association.allow_of ⟨hstage, hendpoint⟩ _
  have hcreate : ∀ result, Association.next s.toConnectionParams (l.toPeer s.toConnectionParams)
      (.clientCreateEx endpoint result) =
        some { l.toPeer s.toConnectionParams with client := result } :=
    fun _ ↦ Association.allow_of ⟨hstage, hendpoint, hclient⟩ _
  have haddress := (leads_cons_iff _).mpr ⟨_, hip, (leads_singleton_iff _).mpr hport⟩
  have hosi := haddress.append _
    (leads_osiCalls (l.toPeer s.toConnectionParams) hstage hendpoint osiParams)
  have hall := fun result ↦ hosi.append _ ((leads_singleton_iff _).mpr (hcreate result))
  have hcalls := continues_createClient s.session endpoint s.serverIp s.tcpPort osiParams env
  refine ⟨_, ⟨hs.leads hcalls.calls_eq (hall _), ?_, rfl, hs.closed_iff, hs.unsecured,
    hs.steady, ?_, ?_, hs.transferSets, hs.dataSets⟩, hstage, rfl, rfl⟩
  · rw [Session.endpoint_createClient, Session.endpoint_addressEndpoint]
    exact hs.endpoint_eq
  · rw [Session.tlsConfig_createClient]
    exact hs.held
  · exact fun tls h ↦ (hs.fresh tls h).trans_le hcalls.nextHandle_le

/-- The connect is issued in order. -/
theorem conforms_connect {endpoint : Handle} (hs : Conforms l s) (hstage : l.stage = .addressing)
    (hendpoint : l.endpoint = some endpoint) (hclient : s.session.tase2client.isSome)
    (hip : l.remoteIp = some (cString s.serverIp)) (hport : l.remotePort = some s.tcpPort)
    (osiParams : OsiParameters) :
    Conforms { l with stage := .requested } { s with
      session := (s.session.record ((osiCalls osiParams).map (.endpoint endpoint))).record
        [.clientConnectEx s.session.tase2client] } where
  accepted := by
    refine hs.leads (List.append_assoc _ _ _) ?_
    refine (leads_osiCalls l hstage hendpoint osiParams).append _ ((leads_singleton_iff _).mpr ?_)
    refine Association.allow_of ⟨⟨hclient, hs.client_eq.symm, ?_⟩, hip, hport⟩ _
    rw [hstage]
    exact List.mem_singleton_self _
  endpoint_eq := hs.endpoint_eq
  client_eq := hs.client_eq
  closed_iff := by simp [hendpoint]
  unsecured := hs.unsecured
  steady := by simp
  held := hs.held
  fresh := hs.fresh
  transferSets := hs.transferSets
  dataSets := hs.dataSets

/-! ### The sets -/

/-- Configuring data sets is in order when the connect was issued. -/
theorem conforms_configDatasets (hs : Conforms l s) (hstage : l.stage = .requested)
    (hclient : s.session.tase2client.isSome) (env : IterationEnv) :
    Conforms l (s.configDatasets env) := by
  obtain ⟨calls, heq, hcalls⟩ := TASE2ClientConnection.configDatasets_eq_record env s
  rw [heq]
  refine ⟨hs.leads rfl (leads_self_of_forall _ fun c hc ↦ ?_), hs.endpoint_eq, hs.client_eq,
    hs.closed_iff, hs.unsecured, hs.steady, hs.held, hs.fresh, hs.transferSets, hs.dataSets⟩
  obtain ⟨domain, name, entries, rfl⟩ := hcalls c hc
  refine Association.allow_of ⟨hclient, hs.client_eq.symm, ?_⟩ l
  rw [hstage]
  exact List.mem_singleton_self _

/-- A stage at which transfer sets may be requested. -/
def Stage.configurable (stage : Stage) : Prop := stage ∈ [Stage.requested, .configuring]

/-- Where transfer sets may be requested there is an endpoint. -/
theorem Conforms.endpoint_ne_none (hs : Conforms l s) (hstage : l.stage.configurable) :
    l.endpoint ≠ none := by
  intro h
  have hclosed := hs.closed_iff.mpr h
  simp [Stage.configurable, hclosed] at hstage

/-- Asking for the next transfer set is in order, whether or not there is one. -/
theorem next_getNextDSTransferSet {params : ConnectionParams} {client : Option Handle}
    (h : l.requestsAt client [.requested, .configuring]) (domain : String) :
    l.next params (.getNextDSTransferSet client domain none) =
        some { l with stage := .configuring } ∧
      ∀ ts, l.next params (.getNextDSTransferSet client domain (some ts)) =
        some { l with stage := .obtained ts, transferSets := ts :: l.transferSets } :=
  ⟨Association.allow_of h _, fun _ ↦ Association.allow_of h _⟩

/-- Asking for the data set of a transfer set is in order, whether or not it is found. -/
theorem next_getDataSet {params : ConnectionParams} {client : Option Handle} {ts : Handle}
    (hstage : l.stage = .obtained ts) (hclient : client.isSome ∧ client = l.client)
    (domain name : String) :
    l.next params (.getDataSet client domain name none) =
        some { l with stage := .configuring } ∧
      ∀ dataSet, l.next params (.getDataSet client domain name (some dataSet)) =
        some { l with stage := .assigned ts dataSet, dataSets := dataSet :: l.dataSets } := by
  have h : l.requestsAt client [.obtained ts] :=
    ⟨hclient.1, hclient.2, hstage ▸ List.mem_singleton_self _⟩
  simp only [Association.next, hstage]
  exact ⟨Association.allow_of h _, fun _ ↦ Association.allow_of h _⟩

/-- A pass of the transfer set loop is in order. -/
theorem conforms_configTransferSet (hs : Conforms l s) (hstage : l.stage.configurable)
    (hclient : s.session.tase2client.isSome) (env : IterationEnv)
    (p : (String × DatasetTransferSet) × Nat) :
    ∃ m, Conforms m (s.configTransferSet env p) ∧ m.stage.configurable := by
  have hopen := hs.endpoint_ne_none hstage
  have hmine : s.session.tase2client.isSome ∧ s.session.tase2client = l.client :=
    ⟨hclient, hs.client_eq.symm⟩
  obtain ⟨hrefused, hobtained⟩ := @next_getNextDSTransferSet l s.toConnectionParams
    s.session.tase2client ⟨hclient, hs.client_eq.symm, hstage⟩ "icc1"
  obtain ⟨hmissing, hfound⟩ := @next_getDataSet
    { l with
      stage := .obtained s.session.nextHandle
      transferSets := s.session.nextHandle :: l.transferSets }
    s.toConnectionParams s.session.tase2client s.session.nextHandle rfl hmine
    (cString p.1.2.domain) (cString p.1.2.datasetRef)
  have hsets : ∀ h ∈ s.dsts, h ∈ s.session.nextHandle :: l.transferSets :=
    fun h hh ↦ List.mem_cons_of_mem _ (hs.transferSets h hh)
  cases hts : env.transferSetReturned p.2 with
  | false =>
    rw [TASE2ClientConnection.configTransferSet_of_refused hts]
    exact ⟨_, ⟨hs.leads rfl ((leads_singleton_iff _).mpr hrefused), hs.endpoint_eq,
      hs.client_eq, iff_of_false (by simp) hopen, hs.unsecured, by simp, hs.held, hs.fresh,
      hs.transferSets, hs.dataSets⟩, by simp [Stage.configurable]⟩
  | true =>
    cases hds : env.dataSetReturned p.2 with
    | false =>
      rw [TASE2ClientConnection.configTransferSet_of_missing hts hds]
      have hall := (leads_cons_iff _).mpr
        ⟨_, hobtained s.session.nextHandle, (leads_singleton_iff _).mpr hmissing⟩
      exact ⟨_, ⟨hs.leads rfl hall, hs.endpoint_eq, hs.client_eq, iff_of_false (by simp) hopen,
        hs.unsecured, by simp, hs.held, fun tls h ↦ Nat.lt_succ_of_lt (hs.fresh tls h), hsets,
        hs.dataSets⟩, by simp [Stage.configurable]⟩
    | true =>
      rw [TASE2ClientConnection.configTransferSet_of_found hts hds]
      have hwrite : Association.next s.toConnectionParams
          { l with
            stage := .assigned s.session.nextHandle (s.session.nextHandle + 1)
            transferSets := s.session.nextHandle :: l.transferSets
            dataSets := (s.session.nextHandle + 1) :: l.dataSets }
          (.writeValues s.session.tase2client (TASE2ClientConnection.transferSetToWrite p.1.2
            s.session.nextHandle (s.session.nextHandle + 1))) = some _ :=
        Association.allow_of ⟨hclient, hs.client_eq.symm, List.mem_singleton_self _⟩ _
      have hall := (leads_cons_iff _).mpr ⟨_, hobtained s.session.nextHandle,
        (leads_cons_iff _).mpr ⟨_, hfound (s.session.nextHandle + 1),
          (leads_singleton_iff _).mpr hwrite⟩⟩
      refine ⟨_, ⟨hs.leads rfl hall, hs.endpoint_eq, hs.client_eq, iff_of_false (by simp) hopen,
        hs.unsecured, by simp, hs.held, fun tls h ↦ Nat.lt_add_right 2 (hs.fresh tls h), ?_, ?_⟩,
        by simp [Stage.configurable]⟩
      · exact List.forall_mem_append.mpr ⟨hsets, by simp⟩
      · exact List.forall_mem_append.mpr
          ⟨fun h hh ↦ List.mem_cons_of_mem _ (hs.dataSets h hh), by simp⟩

/-- The transfer set loop is in order. -/
theorem conforms_configDsts (hs : Conforms l s) (hstage : l.stage.configurable)
    (hclient : s.session.tase2client.isSome) (env : IterationEnv) :
    ∃ m, Conforms m (s.configDsts env) ∧ m.stage.configurable := by
  unfold TASE2ClientConnection.configDsts
  induction env.dstsOrder.zipIdx generalizing l s with
  | nil => exact ⟨l, hs, hstage⟩
  | cons p ps ih =>
    obtain ⟨m, hm, hnext⟩ := conforms_configTransferSet hs hstage hclient env p
    refine ih hm hnext ?_
    rw [(sameHandles_configTransferSet env s p).tase2client]
    exact hclient

/-- Establishing a connection is in order, and ends with the handlers installed. -/
theorem conforms_established (hs : Conforms l s) (hstage : l.stage = .requested)
    (hclient : s.session.tase2client.isSome) (env : IterationEnv) :
    ∃ m, Conforms m { ((s.configDatasets env).configDsts env).record
        [.installDSTransferSetHandlers ((s.configDatasets env).configDsts env).session.tase2client]
        with connectionState := .connected, connecting := false, connected := true } ∧
      m.stage = .serving := by
  have hdatasets := conforms_configDatasets hs hstage hclient env
  have hrequested : l.stage.configurable := by simp [hstage, Stage.configurable]
  obtain ⟨m, hm, hconfigurable⟩ := conforms_configDsts hdatasets hrequested hclient env
  have hopen := hm.endpoint_ne_none hconfigurable
  have hmine : ((s.configDatasets env).configDsts env).session.tase2client.isSome := by
    rw [(sameHandles_configDsts env (s.configDatasets env)).tase2client]
    exact hclient
  have hinstall : m.next ((s.configDatasets env).configDsts env).toConnectionParams
      (.installDSTransferSetHandlers
        ((s.configDatasets env).configDsts env).session.tase2client) =
          some { m with stage := .serving } :=
    Association.allow_of ⟨hmine, hm.client_eq.symm, hconfigurable⟩ _
  exact ⟨_, ⟨hm.leads rfl ((leads_singleton_iff _).mpr hinstall), hm.endpoint_eq, hm.client_eq,
    iff_of_false (by simp) hopen, hm.unsecured, by simp, hm.held, hm.fresh, hm.transferSets,
    hm.dataSets⟩, rfl⟩

/-! ### Releasing -/

/-- The endpoint and its client are released in order. -/
theorem leads_release {params : ConnectionParams} {endpoint : Handle}
    (hopen : l.stage ≠ .closed) (hsteady : l.stage ≠ .disconnected)
    (hendpoint : l.endpoint = some endpoint) :
    Leads (Association.next params) l [.clientDisconnect l.client, .clientDestroy l.client,
        .endpointDestroy endpoint]
      { l with stage := .closed, endpoint := none, client := none, securedBy := none } := by
  refine (leads_cons_iff _).mpr ⟨_, Association.allow_of ⟨hopen, hsteady, rfl⟩ _, ?_⟩
  refine (leads_cons_iff _).mpr ⟨_, Association.allow_of ⟨rfl, rfl⟩ _, ?_⟩
  exact (leads_singleton_iff _).mpr (Association.allow_of ⟨rfl, hendpoint, rfl⟩ _)

/-- Releasing the endpoint and the client, if there are any. -/
private theorem leads_releaseEndpoint (hs : Conforms l s) : ∃ m,
    Leads (Association.next s.toConnectionParams) l
      (match s.session.endpoint with
        | some endpoint => [.clientDisconnect s.session.tase2client,
            .clientDestroy s.session.tase2client, .endpointDestroy endpoint]
        | none => []) m ∧
      m.stage = .closed ∧ m.endpoint = none ∧ m.securedBy = none ∧
        m.client = (if s.session.endpoint.isSome then none else s.session.tase2client) ∧
          m.tlsConfigs = l.tlsConfigs ∧ m.transferSets = l.transferSets ∧
            m.dataSets = l.dataSets := by
  cases hendpoint : s.session.endpoint with
  | none =>
    have hnone := hs.endpoint_eq.trans hendpoint
    exact ⟨l, (leads_nil_iff _).mpr rfl, hs.closed_iff.mpr hnone, hnone, hs.unsecured hnone,
      hs.client_eq, rfl, rfl, rfl⟩
  | some endpoint =>
    have hsome := hs.endpoint_eq.trans hendpoint
    have hopen : l.stage ≠ .closed := fun h ↦ by simp [hs.closed_iff.mp h] at hsome
    rw [← hs.client_eq]
    exact ⟨_, leads_release hopen hs.steady hsome, rfl, rfl, rfl, rfl, rfl, rfl, rfl⟩

/-- Cleaning up is in order, and closes the association. -/
theorem conforms_cleanUp (hs : Conforms l s) :
    ∃ m, Conforms m s.cleanUp ∧ m.stage = .closed := by
  have hsets : Leads (Association.next s.toConnectionParams) l
      (s.dsts.map .transferSetDestroy ++ s.datasets.map .dataSetDestroy) l := by
    apply leads_self_of_forall
    intro c hc
    rcases List.mem_append.mp hc with hc | hc
    · obtain ⟨h, hh, rfl⟩ := List.mem_map.mp hc
      exact Association.allow_of ⟨hs.transferSets h hh, hs.steady⟩ l
    · obtain ⟨h, hh, rfl⟩ := List.mem_map.mp hc
      exact Association.allow_of ⟨hs.dataSets h hh, hs.steady⟩ l
  obtain ⟨m, hm, hclosed, hendpoint, hsecured, hclient, htlsConfigs, hts, hds⟩ :=
    leads_releaseEndpoint hs
  obtain ⟨hcalls, hnext⟩ := continues_cleanUp_sets s
  have hgone : s.cleanUp.session.endpoint = none ∧ s.cleanUp.session.tlsConfig = none ∧
      s.cleanUp.session.tase2client =
        (if s.session.endpoint.isSome then none else s.session.tase2client) := by
    unfold TASE2ClientConnection.cleanUp TASE2ClientConnection.releaseSession
    cases he : s.session.endpoint <;> cases ht : s.session.tlsConfig <;> simp [he, ht]
  obtain ⟨hnone, hunsecured, hleft⟩ := hgone
  have htls : Leads (Association.next s.toConnectionParams) m
      (match s.session.tlsConfig with
        | some tls => [.tls tls .destroy]
        | none => [])
      { m with tlsConfigs := s.session.tlsConfig.elim l.tlsConfigs l.tlsConfigs.erase } := by
    rw [← htlsConfigs]
    cases ht : s.session.tlsConfig with
    | none => exact (leads_nil_iff _).mpr rfl
    | some tls =>
      have hlive : tls ∈ m.tlsConfigs := htlsConfigs ▸ hs.held tls ht
      exact (leads_singleton_iff _).mpr (Association.allow_of ⟨hlive, by simp [hsecured]⟩ _)
  refine ⟨_, ⟨hs.leads hcalls (hsets.append _ (hm.append _ htls)), hendpoint.trans hnone.symm,
    hclient.trans hleft.symm, iff_of_true hclosed hendpoint, fun _ ↦ hsecured, ?_, ?_, ?_, ?_, ?_⟩,
    hclosed⟩
  · simp [hclosed]
  · simp [hunsecured]
  · intro tls h
    refine (hs.fresh tls ?_).trans_le hnext
    cases ht : s.session.tlsConfig with
    | none => simpa [ht] using h
    | some old =>
      rw [ht] at h
      exact List.mem_of_mem_erase h
  · exact hts ▸ hs.transferSets
  · exact hds ▸ hs.dataSets

/-! ### Every step -/

/-- The calls are in order as far as the state of the connection says. -/
def InOrder (s : TASE2ClientConnection) : Prop :=
  ∃ l, Conforms l s ∧ (s.connectionState = .connecting → l.stage = .requested) ∧
    (s.connectionState = .connected → l.stage = .serving)

/-- Whether a connection conforms depends on its parameters, its session and the two vectors only.
-/
theorem Conforms.congr {t : TASE2ClientConnection} (hs : Conforms l s)
    (hparams : t.toConnectionParams = s.toConnectionParams) (hsession : t.session = s.session)
    (hdsts : t.dsts = s.dsts) (hdatasets : t.datasets = s.datasets) : Conforms l t where
  accepted := by
    rw [hparams, hsession]
    exact hs.accepted
  endpoint_eq := hsession ▸ hs.endpoint_eq
  client_eq := hsession ▸ hs.client_eq
  closed_iff := hs.closed_iff
  unsecured := hs.unsecured
  steady := hs.steady
  held := hsession ▸ hs.held
  fresh := hsession ▸ hs.fresh
  transferSets := hdsts ▸ hs.transferSets
  dataSets := hdatasets ▸ hs.dataSets

/-- What an attempt with an endpoint has reached when it has asked for a client. -/
theorem conforms_addressed {config : TASE2ClientConfig} {env : PrepareEnv} {endpoint : Handle}
    (hs : Conforms l s) (hphase : PhaseInv s) (hstate : s.connectionState = .idle)
    (hendpoint : (s.attempted config env).endpoint = some endpoint) (osiParams : OsiParameters) :
    ∃ m, Conforms m { s with session := s.addressed config env endpoint osiParams } ∧
      m.stage = .addressing ∧ m.endpoint = some endpoint ∧
        m.remoteIp = some (cString s.serverIp) ∧ m.remotePort = some s.tcpPort := by
  have hnone := hphase.released hstate
  obtain ⟨m, hm, haddressing⟩ := conforms_createEndpoint hs hnone env config s.useTls
  have hmine : m.endpoint = some endpoint := hm.endpoint_eq.trans hendpoint
  have hclient : m.client = none := hm.client_eq.trans
    ((Session.tase2client_createEndpoint _ _ _ _).trans (hphase.clientless hnone))
  obtain ⟨k, hk, hstage, hip, hport⟩ :=
    conforms_createClient hm (haddressing (by simp [hmine])) hmine hclient osiParams env
  refine ⟨k, hk, hstage, hk.endpoint_eq.trans ?_, hip, hport⟩
  exact endpoint_addressed hendpoint osiParams

/-- Every iteration keeps the calls in order. -/
theorem inOrder_iteration {config : TASE2ClientConfig} {env : IterationEnv}
    {s t : TASE2ClientConnection} (hphase : PhaseInv s) (hs : InOrder s)
    (h : s.iteration config env = .ok t) : InOrder t := by
  obtain ⟨l, hl, hrequested, hserving⟩ := hs
  cases outcome_iteration hphase h with
  | kept _ => exact ⟨l, hl, hrequested, hserving⟩
  | refused _ hstate _ =>
    obtain ⟨m, hm, -⟩ :=
      conforms_createEndpoint hl (hphase.released hstate) env.prepare config s.useTls
    exact ⟨m, hm.congr rfl rfl rfl rfl, nofun, nofun⟩
  | clientless _ hstate endpoint hendpoint osiParams _ _ =>
    obtain ⟨m, hm, -⟩ := conforms_addressed hl hphase hstate hendpoint osiParams
    exact ⟨m, hm.congr rfl rfl rfl rfl, nofun, nofun⟩
  | issued _ hstate endpoint hendpoint osiParams _ hclient state hissued =>
    obtain ⟨m, hm, hstage, hmine, hip, hport⟩ :=
      conforms_addressed hl hphase hstate hendpoint osiParams
    have hcreated : (s.addressed config env.prepare endpoint osiParams).tase2client.isSome :=
      (Session.isSome_tase2client_createClient _ endpoint _).trans hclient
    have hconnect := conforms_connect hm hstage hmine hcreated hip hport osiParams
    refine ⟨_, hconnect.congr rfl rfl rfl rfl, fun _ ↦ rfl, fun hconnected ↦ ?_⟩
    have hstate' : state = .connected := hconnected
    rw [hissued] at hstate'
    split at hstate' <;> cases hstate'
  | established _ hstate _ =>
    obtain ⟨m, hm, hstage⟩ :=
      conforms_established hl (hrequested hstate) (hphase.ready (.inl hstate)).2 env
    exact ⟨m, hm, nofun, fun _ ↦ hstage⟩
  | timedOut _ _ _ =>
    obtain ⟨m, hm, -⟩ := conforms_cleanUp (hl.congr rfl rfl rfl rfl : Conforms l { s with
      connecting := false, connected := false, connect := false, connectionState := .idle })
    exact ⟨m, hm, nofun, nofun⟩
  | served _ hstate _ =>
    obtain ⟨calls, next, heq, hcalls⟩ := s.executePeriodicTasks_eq_record config env
    rw [heq]
    have hpoll : Leads (Association.next s.toConnectionParams) l calls l := by
      apply leads_self_of_forall
      intro c hc
      rw [hcalls c hc]
      exact Association.allow_of (hserving hstate) l
    have hrecord : Conforms l (s.record calls) := ⟨hl.leads rfl hpoll, hl.endpoint_eq,
      hl.client_eq, hl.closed_iff, hl.unsecured, hl.steady, hl.held, hl.fresh, hl.transferSets,
      hl.dataSets⟩
    exact ⟨l, hrecord.congr rfl rfl rfl rfl, hrequested, hserving⟩
  | lost _ _ _ =>
    obtain ⟨m, hm, -⟩ := conforms_cleanUp hl
    exact ⟨m, hm.congr rfl rfl rfl rfl, nofun, nofun⟩

/-- Every step keeps the calls in order. -/
theorem inOrder_step {config : TASE2ClientConfig} {s t : TASE2ClientConnection} {a : Action}
    (hphase : PhaseInv s) (hs : InOrder s) (h : step config s a = .ok t) : InOrder t := by
  cases a with
  | iterate env => exact inOrder_iteration hphase hs h
  | connect =>
    rw [← Except.ok.inj h]
    obtain ⟨l, hl, hrequested, hserving⟩ := hs
    exact ⟨l, hl.congr rfl rfl rfl rfl, hrequested, hserving⟩
  | disconnect =>
    rw [← Except.ok.inj h]
    obtain ⟨l, hl, -⟩ := hs
    obtain ⟨m, hm, -⟩ := conforms_cleanUp (hl.congr rfl rfl rfl rfl : Conforms l { s with
      connecting := false, connected := false, connect := false, connectionState := .idle })
    exact ⟨m, hm, nofun, nofun⟩

end

/-! ### Every run -/

/-- A connection with the given address whose calls are in order. -/
structure ProtocolInv (params : ConnectionParams) (s : TASE2ClientConnection) : Prop where
  params_eq : s.toConnectionParams = params
  phase : PhaseInv s
  inOrder : InOrder s

/-- A new connection satisfies the invariant. -/
theorem protocolInv_new (params : ConnectionParams) : ProtocolInv params (.new params) where
  params_eq := rfl
  phase := phaseInv_new params
  inOrder := ⟨_, conforms_new params, nofun, nofun⟩

/-- Every step keeps the invariant. -/
theorem protocolInv_step {config : TASE2ClientConfig} {params : ConnectionParams}
    {s t : TASE2ClientConnection} {a : Action} (hs : ProtocolInv params s)
    (h : step config s a = .ok t) : ProtocolInv params t where
  params_eq := (toConnectionParams_of_step hs.phase h).trans hs.params_eq
  phase := phaseInv_step hs.phase h
  inOrder := inOrder_step hs.phase hs.inOrder h

/-- The calls keep the order, and leave the association at a stage. -/
def KeepsOrder (params : ConnectionParams) (calls : List LibCall) (P : Association → Prop) : Prop :=
  ∃ l, Leads (Association.next params) .initial calls l ∧ P l

/-- The calls that a connection has made keep the order. -/
theorem ProtocolInv.keepsOrder {params : ConnectionParams} {s : TASE2ClientConnection}
    (hs : ProtocolInv params s) : KeepsOrder params s.session.calls fun _ ↦ True := by
  obtain ⟨l, hl, -⟩ := hs.inOrder
  exact ⟨l, hs.params_eq ▸ hl.accepted, trivial⟩

/-- With the clean-up the calls of a connection leave no endpoint and no client open. -/
theorem ProtocolInv.keepsOrder_finish {params : ConnectionParams} {s : TASE2ClientConnection}
    (hs : ProtocolInv params s) : KeepsOrder params (finish s).session.calls fun l ↦
      l.stage = .closed ∧ l.endpoint = none ∧ l.client = none := by
  obtain ⟨l, hl, -⟩ := hs.inOrder
  obtain ⟨m, hm, hclosed⟩ := conforms_cleanUp hl
  refine ⟨m, hs.params_eq ▸ hm.accepted, hclosed, hm.closed_iff.mp hclosed, ?_⟩
  exact hm.client_eq.trans (released_cleanUp hs.phase).2

/-- In every run of a connection the calls keep the order in every state reached, and if its
thread ended there they would also leave no endpoint and no client open. -/
theorem always_keepsOrder (config : TASE2ClientConfig) (params : ConnectionParams)
    (actions : List Action) :
    Always (step config) (fun s ↦ KeepsOrder params s.session.calls (fun _ ↦ True) ∧
        KeepsOrder params (finish s).session.calls
          (fun l ↦ l.stage = .closed ∧ l.endpoint = none ∧ l.client = none))
      (.new params) actions :=
  always_of_stepsMeet (step config) (fun _ hs ↦ ⟨hs.keepsOrder, hs.keepsOrder_finish⟩)
    (fun _ _ _ hs _ h ↦ protocolInv_step hs h) (protocolInv_new params)
    (stepsMeet_true (step config) _ actions)

end Tase2South.Connection
