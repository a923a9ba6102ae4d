import Tase2South.Connection.Canonical
import Tase2South.Failover.Teardown

/-!
# The addresses that reach the library

From the three configuration texts, `src/tase2.cpp:9–21`, over the groups of
`importProtocolConfig`, `src/tase2_client_config.cpp:275–324`, and the connections of
`prepareConnections`, `src/tase2_client.cpp:177–195`, to the set-up calls of every attempt,
`src/tase2_client_connection.cpp:49–83,681–702`: only what the importer has checked is passed on.
-/

namespace Tase2South.Failover

open Tase2South.Base Tase2South.Json Tase2South.Config Tase2South.Connection

/-! ### Checked calls -/

/-- What is set up on an endpoint is checked. -/
def EndpointCallChecked (env : ImportEnv) : EndpointCall → Prop
  | .setRemoteIpAddress ip => env.isValidIPAddress ip = true
  | .setRemoteTcpPort port => 0 < port ∧ port < 65636
  | .setRemoteApTitle title aeQualifier =>
    title ≠ "" ∧ isDottedDigits title = true ∧ Value.fitsInt aeQualifier = true
  | .setLocalApTitle title aeQualifier =>
    title ≠ "" ∧ isDottedDigits title = true ∧ Value.fitsInt aeQualifier = true
  | .setRemoteAddresses pSel sSel tSel =>
    SelectorChecked pSel ∧ SelectorChecked sSel ∧ SelectorChecked tSel
  | .setLocalAddresses pSel sSel tSel =>
    SelectorChecked pSel ∧ SelectorChecked sSel ∧ SelectorChecked tSel

/-! ### The calls pass it on -/

/-- The set-up calls for the peer of a connection. -/
def peerCalls (params : ConnectionParams) : List EndpointCall :=
  [.setRemoteIpAddress (cString params.serverIp), .setRemoteTcpPort params.tcpPort] ++
    params.osiParameters.elim [] osiCalls

/-- The set-up calls of checked parameters are checked. -/
theorem checked_of_mem_osiCalls {env : ImportEnv} {osiParams : OsiParameters}
    (h : OsiChecked osiParams) {call : EndpointCall} (hcall : call ∈ osiCalls osiParams) :
    EndpointCallChecked env call := by
  rw [osiCalls, cString_of_isDottedDigits h.remoteApTitle,
    cString_of_isDottedDigits h.localApTitle] at hcall
  simp only [List.mem_append, mem_titleCalls_iff, List.mem_cons, List.not_mem_nil,
    or_false] at hcall
  rcases hcall with (⟨hne, rfl⟩ | ⟨hne, rfl⟩) | rfl | rfl
  · exact ⟨hne, h.remoteApTitle, h.remoteAeQualifier⟩
  · exact ⟨hne, h.localApTitle, h.localAeQualifier⟩
  · exact ⟨h.remotePSelector, h.remoteSSelector, h.localTSelector⟩
  · exact ⟨h.localPSelector, h.localSSelector, h.remoteTSelector⟩

/-- The set-up calls for the peer of a checked group are checked. -/
theorem checked_of_mem_peerCalls {env : ImportEnv} {group : RedGroup} (h : GroupChecked env group)
    {call : EndpointCall} (hcall : call ∈ peerCalls (.ofGroup group)) :
    EndpointCallChecked env call := by
  rw [peerCalls, List.mem_append, List.mem_pair] at hcall
  rcases hcall with (rfl | rfl) | hcall
  · rw [EndpointCallChecked, ConnectionParams.ofGroup, h.text]
    exact h.ipAddr
  · exact h.port
  · rw [ConnectionParams.ofGroup] at hcall
    cases hosi : group.isOsiParametersEnabled with
    | false =>
      rw [hosi] at hcall
      cases hcall
    | true =>
      rw [hosi] at hcall
      exact checked_of_mem_osiCalls h.osi hcall

/-- A call that sets up an endpoint, if at all, for the given peer. -/
def ForPeer (params : ConnectionParams) : LibCall → Prop
  | .endpoint _ call => call ∈ peerCalls params
  | _ => True

section

variable {params : ConnectionParams}

/-- A routine call sets up no endpoint. -/
theorem forPeer_of_routine {c : LibCall} (h : c.routine = true) : ForPeer params c := by
  cases c with
  | endpoint _ _ => cases h
  | _ => trivial

/-- Releasing sets up no endpoint. -/
theorem forPeer_releaseCalls (s : Session) : ∀ c ∈ releaseCalls s, ForPeer params c := by
  unfold releaseCalls
  cases s.endpoint <;> cases s.tlsConfig <;> simp [ForPeer]

/-- Creating an endpoint does not set it up. -/
theorem forPeer_creation {env : PrepareEnv} {config : TASE2ClientConfig} {s t : Session}
    {useTls : Bool} (hcreation : EndpointCreation env config s t useTls)
    (hs : ∀ c ∈ s.calls, ForPeer params c) : ∀ c ∈ t.calls, ForPeer params c := by
  have htls : ∀ c ∈ tlsCalls env config s.nextHandle, ForPeer params c :=
    fun c hc ↦ forPeer_of_routine (routine_tlsCalls env config s.nextHandle c hc)
  cases hcreation with
  | unusable _ h =>
    rw [h.calls_eq]
    exact List.forall_mem_append.mpr ⟨hs, htls⟩
  | secured _ last hlast h =>
    rw [h.calls_eq]
    rw [List.forall_mem_append, List.forall_mem_append, List.forall_mem_append,
      List.forall_mem_singleton, List.forall_mem_cons]
    exact ⟨hs, ⟨htls, trivial⟩, trivial, fun c hc ↦ forPeer_of_routine (hlast c hc)⟩
  | plain h =>
    rw [h.calls_eq]
    rw [List.forall_mem_append, List.forall_mem_singleton]
    exact ⟨hs, trivial⟩

/-- The OSI calls of an attempt are for its peer. -/
theorem forPeer_osiCalls {osiParams : OsiParameters}
    (hosi : params.osiParameters = some osiParams) (endpoint : Handle) :
    ∀ c ∈ (osiCalls osiParams).map (.endpoint endpoint), ForPeer params c := by
  intro c hc
  obtain ⟨call, hcall, rfl⟩ := List.mem_map.mp hc
  apply List.mem_append_right
  rw [hosi]
  exact hcall

/-- The addresses of an attempt are those of its peer. -/
theorem forPeer_createClient {osiParams : OsiParameters}
    (hosi : params.osiParameters = some osiParams) (u : Session) (endpoint : Handle)
    (env : PrepareEnv) (hu : ∀ c ∈ u.calls, ForPeer params c) :
    ∀ c ∈ ((u.addressEndpoint endpoint params.serverIp params.tcpPort osiParams).createClient
      endpoint env).calls, ForPeer params c := by
  rw [(continues_createClient u endpoint params.serverIp params.tcpPort osiParams env).calls_eq]
  rw [List.forall_mem_append, List.forall_mem_append, List.forall_mem_append,
    List.forall_mem_cons, List.forall_mem_singleton, List.forall_mem_singleton]
  exact ⟨hu, ⟨⟨List.mem_cons_self, List.mem_cons_of_mem _ List.mem_cons_self⟩,
    forPeer_osiCalls hosi endpoint⟩, trivial⟩

end

section

variable {config : TASE2ClientConfig} {s t : TASE2ClientConnection}

/-- Cleaning up sets up no endpoint. -/
theorem forPeer_cleanUp {params : ConnectionParams}
    (hs : ∀ c ∈ s.session.calls, ForPeer params c) :
    ∀ c ∈ s.cleanUp.session.calls, ForPeer params c := by
  obtain ⟨held, hheld, hcalls⟩ := continues_cleanUp s
  rw [hcalls.calls_eq]
  simp only [List.forall_mem_append]
  exact ⟨hs, fun c hc ↦ forPeer_of_routine (hheld c hc), forPeer_releaseCalls s.session⟩

/-- Calls that are routine keep the set-up calls as they are. -/
theorem forPeer_of_continuesRoutinely {params : ConnectionParams} {u v : Session}
    (h : ContinuesRoutinely u v) (hu : ∀ c ∈ u.calls, ForPeer params c) :
    ∀ c ∈ v.calls, ForPeer params c := by
  obtain ⟨new, hcalls, hnew⟩ := h
  rw [hcalls.calls_eq]
  exact List.forall_mem_append.mpr ⟨hu, fun c hc ↦ forPeer_of_routine (hnew c hc)⟩

private theorem forPeer_iteration {env : IterationEnv} (hphase : PhaseInv s)
    (hs : ∀ c ∈ s.session.calls, ForPeer s.toConnectionParams c)
    (h : s.iteration config env = .ok t) :
    ∀ c ∈ t.session.calls, ForPeer s.toConnectionParams c := by
  have hattempted : ∀ c ∈ (s.attempted config env.prepare).calls, ForPeer s.toConnectionParams c :=
    forPeer_creation (endpointCreation s.session env.prepare config s.useTls) hs
  cases outcome_iteration hphase h with
  | kept => exact hs
  | refused => exact hattempted
  | clientless _ _ endpoint _ osiParams hosi _ =>
    exact forPeer_createClient hosi _ endpoint env.prepare hattempted
  | issued _ _ endpoint _ osiParams hosi _ state _ =>
    rw [Session.calls_record, Session.calls_record, List.forall_mem_append,
      List.forall_mem_append, List.forall_mem_singleton]
    exact ⟨⟨forPeer_createClient hosi _ endpoint env.prepare hattempted,
      forPeer_osiCalls hosi endpoint⟩, trivial⟩
  | established =>
    rw [TASE2ClientConnection.record, Session.calls_record, List.forall_mem_append,
      List.forall_mem_singleton]
    exact ⟨forPeer_of_continuesRoutinely (routine_sets env s) hs, trivial⟩
  | timedOut => exact forPeer_cleanUp hs
  | served =>
    exact forPeer_of_continuesRoutinely (routine_executePeriodicTasks config env s) hs
  | lost => exact forPeer_cleanUp hs

/-- A step sets up endpoints for the peer of the connection only. -/
theorem forPeer_step {a : Action} (hphase : PhaseInv s)
    (hs : ∀ c ∈ s.session.calls, ForPeer s.toConnectionParams c) (h : step config s a = .ok t) :
    ∀ c ∈ t.session.calls, ForPeer s.toConnectionParams c := by
  cases a with
  | iterate env => exact forPeer_iteration hphase hs h
  | connect =>
    rw [← Except.ok.inj h]
    exact hs
  | disconnect =>
    rw [← Except.ok.inj h]
    exact forPeer_cleanUp hs

end

/-! ### Over the whole client -/

/-- What holds of a client whose connections set up endpoints for their own peers only. -/
structure PeersInv {n : Nat} (params : Fin n → ConnectionParams) (s : ClientState n) : Prop where
  teardown : TeardownInv params s
  forPeer : ∀ i, ∀ c ∈ (s.connections i).session.calls, ForPeer (params i) c

/-- A client that was just started satisfies the invariant. -/
theorem peersInv_new {n : Nat} (params : Fin n → ConnectionParams) :
    PeersInv params (.new params) where
  teardown := teardownInv_new params
  forPeer _ _ hc := by cases hc

/-- Every step of a client and its threads keeps the invariant. -/
theorem peersInv_step {n : Nat} {config : TASE2ClientConfig} {params : Fin n → ConnectionParams}
    {s t : ClientState n} {a : ThreadAction n} (hs : PeersInv params s)
    (h : threadStep config s a = .ok t) : PeersInv params t where
  teardown := teardownInv_step hs.teardown h
  forPeer i := by
    cases stepEffect h with
    | kept hconnections _ =>
      rw [hconnections]
      exact hs.forPeer i
    | started j _ hconnections _ =>
      rw [hconnections]
      exact hs.forPeer i
    | stepped j hexists b _ c hc hconnections _ =>
      rw [hconnections]
      by_cases hij : i = j
      · subst hij
        have hi : s.threads i ≠ .deleted := by
          rcases hexists with hrunning | hbefore
          · rw [hrunning]
            simp
          · exact hs.teardown.scan.whole hbefore i
        have hprotocol := hs.teardown.protocol i hi
        rw [Function.update_self, ← hprotocol.params_eq]
        apply forPeer_step hprotocol.phase _ hc
        rw [hprotocol.params_eq]
        exact hs.forPeer i
      · rw [Function.update_of_ne hij]
        exact hs.forPeer i
    | deleted j _ hconnections _ =>
      rw [hconnections]
      by_cases hij : i = j
      · subst hij
        rw [Function.update_self]
        split
        · exact forPeer_cleanUp (hs.forPeer i)
        · exact hs.forPeer i
      · rw [Function.update_of_ne hij]
        exact hs.forPeer i

/-- Whatever the three texts are and whatever the threads do, every endpoint is set up with an
address, a port, titles and selectors that the importer has checked. -/
theorem endpointCalls_checked {env : ImportEnv} {stack msg tls : String}
    {config : TASE2ClientConfig} (himport : setJsonConfig env stack msg tls = .ok config)
    {actions : List (ThreadAction config.connections.length)}
    {s : ClientState config.connections.length}
    (hrun : run (threadStep config) (.prepareConnections config) actions = .ok s)
    (i : Fin config.connections.length) {endpoint : Handle} {call : EndpointCall}
    (hcall : .endpoint endpoint call ∈ (s.connections i).session.calls) :
    EndpointCallChecked env call := by
  have hinv := run_invariant (threadStep config)
    (fun _ _ _ hu h ↦ peersInv_step hu h)
    (peersInv_new fun i ↦ .ofGroup (config.connections.get i)) hrun
  have hgroup := groupChecked_of_setJsonConfig himport _ (List.get_mem config.connections i)
  exact checked_of_mem_peerCalls hgroup (hinv.forPeer i _ hcall)

/-! ### A peer with a title and a selector -/

/-- A stack configuration with one connection and its OSI section. -/
def peerText : String :=
  "\x7b\"protocol_stack\":\x7b\"transport_layer\":\x7b\"connections\":" ++
    "[\x7b\"ip_addr\":\"127.0.0.1\",\"port\":10002,\"osi\":" ++
    "\x7b\"remote_ap_title\":\"1.1.999\",\"remote_psel\":\"0x01 2\"\x7d\x7d]\x7d\x7d\x7d"

/-- The `protocol_stack` object in the document of `peerText`. -/
def peerStack : Value :=
  .object [("transport_layer", .object [("connections", .array [.object [
    ("ip_addr", .string "127.0.0.1"), ("port", .int 10002), ("osi", .object [
      ("remote_ap_title", .string "1.1.999"), ("remote_psel", .string "0x01 2")])]])])]

/-- A parser that reads `peerText`. -/
def peerEnv : ImportEnv := .ofTable [(peerText, .object [("protocol_stack", peerStack)])]

private theorem protocolStackOf_peer : protocolStackOf peerEnv peerText = some peerStack := by
  apply protocolStackOf_eq_some (ImportEnv.parse_ofTable_self _ _ _) _ rfl rfl
  rw [traverseAndCheckTypes, checkLoop_eq]
  decide

/-- The connection that is imported from `peerText`. -/
def peerGroup : RedGroup where
  ipAddr := "127.0.0.1"
  tcpPort := 10002
  osiParameters := {
    remoteApTitle := "1.1.999"
    remotePSelector := ⟨2, ((Vector.replicate 16 0).set 0 1).set 1 2⟩ }
  isOsiParametersEnabled := true

/-- The configuration that is imported from `peerText` alone. -/
def peerConfig : TASE2ClientConfig := { TASE2ClientConfig.fresh with
  connections := [peerGroup]
  polled_exchanged := TASE2ClientConfig.polled_exchanged _ }

/-- The text `peerText` is imported as `peerConfig`. -/
theorem setJsonConfig_peer : setJsonConfig peerEnv peerText "" "" = .ok peerConfig := by
  rw [setJsonConfig]
  have h : importExchangeConfig peerEnv "" .fresh = .ok .fresh := rfl
  rw [h, ok_bind, importProtocolConfig_eq, protocolStackOf_peer]
  rfl

/-- The monitor enables the connection, which makes its first attempt. -/
def attemptingRun : List (ThreadAction peerConfig.connections.length) :=
  List.replicate 5 (.monitor false) ++ [.iterate ⟨0, Nat.one_pos⟩ (.plain 0 false)]

/-- The first attempt of the connection of `peerText` makes checked set-up calls. -/
theorem endpointCalls_checked_peer : ∃ s,
    run (threadStep peerConfig) (.prepareConnections peerConfig) attemptingRun = .ok s ∧
      EndpointCallChecked peerEnv (.setRemoteIpAddress "127.0.0.1") ∧
      EndpointCallChecked peerEnv (.setRemoteApTitle "1.1.999" 0) := by
  refine ⟨_, rfl, ?_, ?_⟩
  · exact @endpointCalls_checked peerEnv peerText "" "" peerConfig setJsonConfig_peer attemptingRun
      _ rfl ⟨0, Nat.one_pos⟩ 0 _ (by decide)
  · exact @endpointCalls_checked peerEnv peerText "" "" peerConfig setJsonConfig_peer attemptingRun
      _ rfl ⟨0, Nat.one_pos⟩ 0 _ (by decide)

end Tase2South.Failover
