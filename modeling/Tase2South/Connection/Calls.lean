import Tase2South.Connection.Phases

/-!
# The calls of a step

What each part of a connection adds to the calls it has made, `src/tase2_client_connection.cpp`:
an attempt creates, sets up and connects; cleaning up releases; everything else leaves the
endpoint and the client alone.
-/

namespace Tase2South.Connection

open Tase2South.Base Tase2South.Config

/-- A call that neither makes, sets up, connects nor releases an endpoint or a client. -/
def LibCall.routine : LibCall → Bool
  | .endpointCreate _ _ => false
  | .endpoint _ _ => false
  | .endpointDestroy _ => false
  | .clientCreateEx _ _ => false
  | .clientConnectEx _ => false
  | .clientDisconnect _ => false
  | .clientDestroy _ => false
  | _ => true

/-- The session goes on with the given calls. -/
structure Continues (s t : Session) (new : List LibCall) : Prop where
  calls_eq : t.calls = s.calls ++ new
  nextHandle_le : s.nextHandle ≤ t.nextHandle

/-- A session goes on with calls that leave the endpoint and the client alone. -/
def ContinuesRoutinely (s t : Session) : Prop :=
  ∃ new, Continues s t new ∧ ∀ c ∈ new, c.routine = true

/-- A session goes on as it is with no calls. -/
theorem Continues.refl (s : Session) : Continues s s [] := ⟨by simp, le_rfl⟩

/-- A session goes on with the calls that are recorded. -/
theorem continues_record (s : Session) (calls : List LibCall) :
    Continues s (s.record calls) calls := ⟨rfl, le_rfl⟩

/-- A session goes on with no calls when it obtains a handle. -/
theorem continues_fresh (s : Session) (created : Bool) : Continues s (s.fresh created).2 [] := by
  unfold Session.fresh
  split
  · exact ⟨by simp, Nat.le_succ _⟩
  · exact Continues.refl s

/-- A session that goes on twice goes on with the calls of both parts. -/
theorem Continues.trans {s t u : Session} {new new' : List LibCall} (h : Continues s t new)
    (h' : Continues t u new') : Continues s u (new ++ new') where
  calls_eq := by rw [h'.calls_eq, h.calls_eq, List.append_assoc]
  nextHandle_le := h.nextHandle_le.trans h'.nextHandle_le

/-- How a session goes on depends on its calls and its next handle only. -/
theorem Continues.congr {s t u : Session} {new : List LibCall} (h : Continues s t new)
    (hcalls : u.calls = t.calls) (hnext : u.nextHandle = t.nextHandle) : Continues s u new where
  calls_eq := hcalls.trans h.calls_eq
  nextHandle_le := hnext ▸ h.nextHandle_le

/-- Two parts of a session with calls of one kind are one such part. -/
theorem continues_trans_of_forall {P : LibCall → Prop} {s t u : Session}
    (h : ∃ new, Continues s t new ∧ ∀ c ∈ new, P c)
    (h' : ∃ new, Continues t u new ∧ ∀ c ∈ new, P c) :
    ∃ new, Continues s u new ∧ ∀ c ∈ new, P c := by
  obtain ⟨new, hst, hnew⟩ := h
  obtain ⟨new', htu, hnew'⟩ := h'
  exact ⟨new ++ new', hst.trans htu, List.forall_mem_append.mpr ⟨hnew, hnew'⟩⟩

/-- Two routine parts of a session are one. -/
theorem ContinuesRoutinely.trans {s t u : Session} (h : ContinuesRoutinely s t)
    (h' : ContinuesRoutinely t u) : ContinuesRoutinely s u :=
  continues_trans_of_forall h h'

private theorem continuesRoutinely_record (s : Session) {calls : List LibCall}
    (h : ∀ c ∈ calls, c.routine = true) : ContinuesRoutinely s (s.record calls) :=
  ⟨calls, continues_record s calls, h⟩

/-- Setting up a TLS configuration is routine. -/
theorem routine_tlsCalls (env : PrepareEnv) (config : TASE2ClientConfig) (tls : Handle) :
    ∀ c ∈ tlsCalls env config tls, c.routine = true := by
  intro c hc
  rcases mem_tlsCalls hc with ⟨file, readable, rfl⟩ | ⟨call, rfl⟩
  · rfl
  · rfl

/-! ### Creating the endpoint -/

/-- The calls of creating an endpoint: those of a TLS configuration that cannot be used; with a
usable one; or without TLS. -/
inductive EndpointCreation (env : PrepareEnv) (config : TASE2ClientConfig) (s t : Session) :
    Bool → Prop
  | unusable (hok : tlsConfigOk env config = false)
      (h : Continues s t (tlsCalls env config s.nextHandle)) : EndpointCreation env config s t true
  | secured (hok : tlsConfigOk env config = true) (last : List LibCall)
      (hlast : ∀ c ∈ last, c.routine = true)
      (h : Continues s t (tlsCalls env config s.nextHandle ++
        [.tls s.nextHandle (.setRenegotiationTime 60000)] ++
          .endpointCreate (some s.nextHandle) t.endpoint :: last)) :
      EndpointCreation env config s t true
  | plain (h : Continues s t [.endpointCreate none t.endpoint]) :
      EndpointCreation env config s t false

/-- The three ways of creating an endpoint. -/
theorem endpointCreation (s : Session) (env : PrepareEnv) (config : TASE2ClientConfig)
    (useTls : Bool) :
    EndpointCreation env config s (s.createEndpoint env config useTls) useTls := by
  cases useTls with
  | false =>
    refine .plain ?_
    have h := (continues_fresh s env.endpointCreated).trans
      (continues_record _ [.endpointCreate none (s.fresh env.endpointCreated).1])
    exact h.congr rfl rfl
  | true =>
    have hstart : Continues s (({ s with nextHandle := s.nextHandle + 1 } : Session).record
        (tlsCalls env config s.nextHandle)) (tlsCalls env config s.nextHandle) :=
      ⟨rfl, Nat.le_succ _⟩
    rw [Session.createEndpoint, if_pos rfl, Session.createTlsEndpoint]
    cases hok : tlsConfigOk env config with
    | false => exact .unusable hok hstart
    | true =>
      have hreneg := hstart.trans
        (continues_record _ [.tls s.nextHandle (.setRenegotiationTime 60000)])
      have hfresh := hreneg.trans (continues_fresh _ env.endpointCreated)
      have hcreate := fun result ↦ hfresh.trans
        (continues_record _ [.endpointCreate (some s.nextHandle) result])
      dsimp only
      rw [if_pos rfl, List.append_nil] at *
      split
      · exact .secured hok [] (by simp) ((hcreate _).congr rfl rfl)
      · refine .secured hok [.tls s.nextHandle .destroy] (by simp [LibCall.routine]) ?_
        have hdestroy := fun result ↦ (hcreate result).trans
          (continues_record _ [.tls s.nextHandle .destroy])
        simp only [List.append_assoc, List.singleton_append] at hdestroy ⊢
        exact (hdestroy _).congr rfl rfl

/-- Creating an endpoint makes the calls of the TLS set-up, and then none but those that finish
it. -/
theorem calls_createEndpoint (s : Session) (env : PrepareEnv) (config : TASE2ClientConfig)
    (useTls : Bool) : ∃ rest, (s.createEndpoint env config useTls).calls =
      s.calls ++ ((if useTls then tlsCalls env config s.nextHandle else []) ++ rest) ∧
        ∀ c ∈ rest, (∃ tls, c = .tls tls (.setRenegotiationTime 60000)) ∨
          (∃ tls, c = .tls tls .destroy) ∨ ∃ tls result, c = .endpointCreate tls result := by
  cases useTls with
  | false =>
    cases endpointCreation s env config false with
    | plain h => exact ⟨_, h.calls_eq, by simp⟩
  | true =>
    rw [Session.createEndpoint, if_pos rfl, if_pos rfl, Session.createTlsEndpoint]
    cases hok : tlsConfigOk env config with
    | false => exact ⟨[], by simp, by simp⟩
    | true =>
      cases hcreated : env.endpointCreated with
      | false =>
        refine ⟨[.tls s.nextHandle (.setRenegotiationTime 60000),
          .endpointCreate (some s.nextHandle) none, .tls s.nextHandle .destroy], ?_, by simp⟩
        simp [Session.fresh]
      | true =>
        refine ⟨[.tls s.nextHandle (.setRenegotiationTime 60000),
          .endpointCreate (some s.nextHandle) (some (s.nextHandle + 1))], ?_, by simp⟩
        simp [Session.fresh]

/-- Creating an endpoint reports the endpoint that the session has afterwards. -/
theorem EndpointCreation.result_eq {env : PrepareEnv} {config : TASE2ClientConfig} {s t : Session}
    {useTls : Bool} (h : EndpointCreation env config s t useTls) : ∃ new,
    t.calls = s.calls ++ new ∧
      ∀ tls result, .endpointCreate tls result ∈ new → result = t.endpoint := by
  cases h with
  | unusable _ h =>
    refine ⟨_, h.calls_eq, fun tls result hc ↦ ?_⟩
    cases routine_tlsCalls env config s.nextHandle _ hc
  | secured _ last hlast h =>
    refine ⟨_, h.calls_eq, fun tls result hc ↦ ?_⟩
    simp only [List.mem_append, List.mem_cons, List.not_mem_nil, or_false, reduceCtorEq,
      LibCall.endpointCreate.injEq] at hc
    rcases hc with hc | hc | hc
    · cases routine_tlsCalls env config s.nextHandle _ hc
    · exact hc.2
    · cases hlast _ hc
  | plain h =>
    refine ⟨_, h.calls_eq, fun tls result hc ↦ ?_⟩
    cases List.mem_singleton.mp hc
    rfl

/-! ### Cleaning up -/

/-- The calls that release the endpoint, the client and the TLS configuration. -/
def releaseCalls (s : Session) : List LibCall :=
  (match s.endpoint with
    | some endpoint => [.clientDisconnect s.tase2client, .clientDestroy s.tase2client,
        .endpointDestroy endpoint]
    | none => []) ++
  (match s.tlsConfig with
    | some tls => [.tls tls .destroy]
    | none => [])

/-- Releasing creates no endpoint. -/
theorem endpointCreate_notMem_releaseCalls (s : Session) (tls result : Option Handle) :
    .endpointCreate tls result ∉ releaseCalls s := by
  unfold releaseCalls
  cases s.endpoint <;> cases s.tlsConfig <;> simp

private theorem continues_releaseSession (s : Session) :
    Continues s (TASE2ClientConnection.releaseSession s) (releaseCalls s) := by
  unfold TASE2ClientConnection.releaseSession releaseCalls
  cases he : s.endpoint <;> cases ht : s.tlsConfig <;> constructor <;>
    simp [he, ht, Session.record]

/-- Cleaning up destroys the transfer sets and data sets and then releases. -/
theorem continues_cleanUp_sets (s : TASE2ClientConnection) :
    Continues s.session s.cleanUp.session
      (s.dsts.map .transferSetDestroy ++ s.datasets.map .dataSetDestroy ++
        releaseCalls s.session) :=
  (continues_record s.session _).trans (continues_releaseSession _)

/-- Cleaning up destroys what it holds and then releases. -/
theorem continues_cleanUp (s : TASE2ClientConnection) : ∃ held : List LibCall,
    (∀ c ∈ held, c.routine = true) ∧
      Continues s.session s.cleanUp.session (held ++ releaseCalls s.session) := by
  refine ⟨s.dsts.map .transferSetDestroy ++ s.datasets.map .dataSetDestroy, ?_,
    continues_cleanUp_sets s⟩
  exact TASE2ClientConnection.forall_mem_destroyed (fun _ ↦ rfl) (fun _ ↦ rfl) s.dsts s.datasets

/-! ### The other parts -/

/-- A call that configures data sets or transfer sets. -/
def LibCall.configures : LibCall → Bool
  | .createDataSet _ _ _ _ => true
  | .getNextDSTransferSet _ _ _ => true
  | .getDataSet _ _ _ _ => true
  | .writeValues _ _ => true
  | _ => false

private theorem routine_of_configures {c : LibCall} (h : c.configures = true) :
    c.routine = true := by
  cases c with
  | createDataSet _ _ _ _ => rfl
  | getNextDSTransferSet _ _ _ => rfl
  | getDataSet _ _ _ _ => rfl
  | writeValues _ _ => rfl
  | _ => cases h

private theorem configures_configTransferSet (env : IterationEnv) (s : TASE2ClientConnection)
    (p : (String × DatasetTransferSet) × Nat) :
    ∃ new, Continues s.session (s.configTransferSet env p).session new ∧
      ∀ c ∈ new, c.configures = true := by
  cases hts : env.transferSetReturned p.2 with
  | false =>
    rw [TASE2ClientConnection.configTransferSet_of_refused hts]
    exact ⟨_, continues_record _ _, by simp [LibCall.configures]⟩
  | true =>
    cases hds : env.dataSetReturned p.2 with
    | false =>
      rw [TASE2ClientConnection.configTransferSet_of_missing hts hds]
      exact ⟨_, ⟨rfl, Nat.le_succ _⟩, by simp [LibCall.configures]⟩
    | true =>
      rw [TASE2ClientConnection.configTransferSet_of_found hts hds]
      exact ⟨_, ⟨rfl, Nat.le_add_right _ 2⟩, by simp [LibCall.configures]⟩

private theorem configures_configDsts (env : IterationEnv) (s : TASE2ClientConnection) :
    ∃ new, Continues s.session (s.configDsts env).session new ∧
      ∀ c ∈ new, c.configures = true := by
  unfold TASE2ClientConnection.configDsts
  induction env.dstsOrder.zipIdx generalizing s with
  | nil => exact ⟨[], Continues.refl _, by simp⟩
  | cons p ps ih => exact continues_trans_of_forall (configures_configTransferSet env s p) (ih _)

/-- Configuring data sets and transfer sets makes no other calls. -/
theorem configures_sets (env : IterationEnv) (s : TASE2ClientConnection) :
    ∃ new, Continues s.session ((s.configDatasets env).configDsts env).session new ∧
      ∀ c ∈ new, c.configures = true := by
  obtain ⟨calls, heq, hcalls⟩ := TASE2ClientConnection.configDatasets_eq_record env s
  have hdatasets : ∃ new, Continues s.session (s.configDatasets env).session new ∧
      ∀ c ∈ new, c.configures = true := by
    rw [heq]
    refine ⟨calls, continues_record _ _, fun c hc ↦ ?_⟩
    obtain ⟨domain, name, entries, rfl⟩ := hcalls c hc
    rfl
  exact continues_trans_of_forall hdatasets (configures_configDsts env (s.configDatasets env))

/-- Configuring data sets and transfer sets is routine. -/
theorem routine_sets (env : IterationEnv) (s : TASE2ClientConnection) :
    ContinuesRoutinely s.session ((s.configDatasets env).configDsts env).session := by
  obtain ⟨new, hcalls, hnew⟩ := configures_sets env s
  exact ⟨new, hcalls, fun c hc ↦ routine_of_configures (hnew c hc)⟩

/-- Periodic tasks are routine. -/
theorem routine_executePeriodicTasks (config : TASE2ClientConfig) (env : IterationEnv)
    (s : TASE2ClientConnection) :
    ContinuesRoutinely s.session (s.executePeriodicTasks config env).session := by
  obtain ⟨calls, next, heq, hcalls⟩ := s.executePeriodicTasks_eq_record config env
  rw [heq]
  refine continuesRoutinely_record _ fun c hc ↦ ?_
  rw [hcalls c hc]
  rfl

/-! ### A whole step -/

/-- How an attempt with an endpoint goes on: the addresses, the client, and the connect if there
is a client. -/
structure EndpointUse (s : TASE2ClientConnection) (u t : Session) (endpoint : Handle)
    (osiParams : OsiParameters) : Prop where
  obtained : u.endpoint = some endpoint
  given : s.osiParameters = some osiParams
  kept : t.endpoint = some endpoint
  fresh : ∀ h, t.tase2client = some h → u.nextHandle ≤ h ∧ h < t.nextHandle
  calls : ∃ connects : List LibCall, Continues u t
    ([.endpoint endpoint (.setRemoteIpAddress (cString s.serverIp)),
      .endpoint endpoint (.setRemoteTcpPort s.tcpPort)] ++
        (osiCalls osiParams).map (.endpoint endpoint) ++
          .clientCreateEx endpoint t.tase2client :: connects) ∧
      ∀ c ∈ connects, t.tase2client.isSome ∧
        (c = .clientConnectEx t.tase2client ∨ ∃ call, c = .endpoint endpoint call)

/-- Using an endpoint creates no other and makes the OSI calls on it. -/
theorem EndpointUse.calls_eq {s : TASE2ClientConnection} {u t : Session} {endpoint : Handle}
    {osiParams : OsiParameters} (h : EndpointUse s u t endpoint osiParams) : ∃ new,
    t.calls = u.calls ++ new ∧ (∀ tls result, .endpointCreate tls result ∉ new) ∧
      ∀ call ∈ osiCalls osiParams, .endpoint endpoint call ∈ new := by
  obtain ⟨connects, hcalls, hconnects⟩ := h.calls
  refine ⟨_, hcalls.calls_eq, fun tls result hc ↦ ?_, fun call hc ↦ ?_⟩
  · rcases List.mem_append.mp hc with hc | hc
    · simp at hc
    · rcases List.mem_cons.mp hc with hc | hc
      · cases hc
      · obtain ⟨-, hc | ⟨call, hc⟩⟩ := hconnects _ hc
        · cases hc
        · cases hc
  · apply List.mem_append_left
    apply List.mem_append_right
    exact List.mem_map_of_mem hc

/-- What a step adds to the calls of a connection: routine calls; the release of what it has;
or an attempt, which starts without an endpoint and a client. -/
inductive StepCalls (config : TASE2ClientConfig) (s : TASE2ClientConnection) (a : Action)
    (t : TASE2ClientConnection) : Prop
  | routine (h : ContinuesRoutinely s.session t.session) (hsame : SameHandles s.session t.session)
  | released (held : List LibCall) (hheld : ∀ c ∈ held, c.routine = true)
      (h : Continues s.session t.session (held ++ releaseCalls s.session))
      (hendpoint : t.session.endpoint = none) (hclient : t.session.tase2client = none)
  | refused (env : IterationEnv) (ha : a = .iterate env)
      (hstart : s.session.endpoint = none ∧ s.session.tase2client = none)
      (hcreation : EndpointCreation env.prepare config s.session t.session s.useTls)
      (hend : t.session.endpoint = none ∧ t.session.tase2client = none)
  | attempted (env : IterationEnv) (ha : a = .iterate env)
      (hstart : s.session.endpoint = none ∧ s.session.tase2client = none) (u : Session)
      (hcreation : EndpointCreation env.prepare config s.session u s.useTls)
      (hclient : u.tase2client = none) (endpoint : Handle) (osiParams : OsiParameters)
      (huse : EndpointUse s u t.session endpoint osiParams)

/-- After the endpoint, the addresses are set and a client is asked for. -/
theorem continues_createClient (u : Session) (endpoint : Handle) (serverIp : String)
    (tcpPort : Int) (osiParams : OsiParameters) (env : PrepareEnv) :
    Continues u ((u.addressEndpoint endpoint serverIp tcpPort osiParams).createClient endpoint env)
      ([.endpoint endpoint (.setRemoteIpAddress (cString serverIp)),
        .endpoint endpoint (.setRemoteTcpPort tcpPort)] ++
          (osiCalls osiParams).map (.endpoint endpoint) ++
            [.clientCreateEx endpoint ((u.addressEndpoint endpoint serverIp tcpPort
              osiParams).createClient endpoint env).tase2client]) := by
  have haddress := (continues_record u
    [.endpoint endpoint (.setRemoteIpAddress (cString serverIp)),
      .endpoint endpoint (.setRemoteTcpPort tcpPort)]).trans
        (continues_record _ ((osiCalls osiParams).map (.endpoint endpoint)))
  have hfresh := haddress.trans (continues_fresh _ env.clientCreated)
  rw [List.append_nil] at hfresh
  exact (hfresh.trans (continues_record _ [.clientCreateEx endpoint _])).congr rfl rfl

private theorem fresh_addressed {s : TASE2ClientConnection} {config : TASE2ClientConfig}
    {env : PrepareEnv} {endpoint : Handle} {osiParams : OsiParameters} {h : Handle}
    (hh : (s.addressed config env endpoint osiParams).tase2client = some h) :
    (s.attempted config env).nextHandle ≤ h ∧
      h < (s.addressed config env endpoint osiParams).nextHandle := by
  unfold TASE2ClientConnection.addressed Session.createClient Session.fresh at hh ⊢
  cases hcreated : env.clientCreated with
  | false => simp [hcreated] at hh
  | true =>
    simp only [hcreated, if_true, Option.some.injEq] at hh ⊢
    rw [← hh]
    exact ⟨le_rfl, Nat.lt_succ_self _⟩

/-- An attempt without a client stops after asking for one. -/
theorem endpointUse_addressed {config : TASE2ClientConfig} {env : PrepareEnv}
    {s : TASE2ClientConnection} {endpoint : Handle} {osiParams : OsiParameters}
    (hendpoint : (s.attempted config env).endpoint = some endpoint)
    (hosi : s.osiParameters = some osiParams) :
    EndpointUse s (s.attempted config env) (s.addressed config env endpoint osiParams) endpoint
      osiParams := by
  exact ⟨hendpoint, hosi, endpoint_addressed hendpoint osiParams, fun _ ↦ fresh_addressed, [],
    continues_createClient _ endpoint s.serverIp s.tcpPort osiParams env, by simp⟩

/-- With a client, the addresses are set again and the connect is issued. -/
theorem endpointUse_issued {config : TASE2ClientConfig} {env : PrepareEnv}
    {s : TASE2ClientConnection} {endpoint : Handle} {osiParams : OsiParameters}
    (hendpoint : (s.attempted config env).endpoint = some endpoint)
    (hosi : s.osiParameters = some osiParams) (hclient : env.clientCreated = true) :
    EndpointUse s (s.attempted config env)
      (((s.addressed config env endpoint osiParams).record
        ((osiCalls osiParams).map (.endpoint endpoint))).record
          [.clientConnectEx (s.addressed config env endpoint osiParams).tase2client])
      endpoint osiParams := by
  have hcalls := continues_createClient (s.attempted config env) endpoint s.serverIp s.tcpPort
    osiParams env
  refine ⟨hendpoint, hosi, endpoint_addressed hendpoint osiParams, fun _ ↦ fresh_addressed,
    (osiCalls osiParams).map (.endpoint endpoint) ++
      [.clientConnectEx (s.addressed config env endpoint osiParams).tase2client], ?_, ?_⟩
  · have hagain := hcalls.trans (continues_record _ ((osiCalls osiParams).map (.endpoint endpoint)))
    have hconnect := hagain.trans (continues_record _
      [.clientConnectEx (s.addressed config env endpoint osiParams).tase2client])
    simp only [List.append_assoc, List.cons_append, List.nil_append] at hconnect ⊢
    exact hconnect
  · intro c hc
    refine ⟨(Session.isSome_tase2client_createClient _ endpoint _).trans hclient, ?_⟩
    rcases List.mem_append.mp hc with hc | hc
    · obtain ⟨call, -, rfl⟩ := List.mem_map.mp hc
      exact .inr ⟨call, rfl⟩
    · exact .inl (List.mem_singleton.mp hc)

private theorem stepCalls_attempted {config : TASE2ClientConfig} {env : IterationEnv}
    {s t : TASE2ClientConnection} {endpoint : Handle} {osiParams : OsiParameters}
    (hs : PhaseInv s) (hstate : s.connectionState = .idle)
    (huse : EndpointUse s (s.attempted config env.prepare) t.session endpoint osiParams) :
    StepCalls config s (.iterate env) t := by
  have hnone := hs.released hstate
  have hclientless := hs.clientless hnone
  exact .attempted env rfl ⟨hnone, hclientless⟩ _ (endpointCreation _ _ _ _)
    ((Session.tase2client_createEndpoint s.session env.prepare config s.useTls).trans hclientless)
    endpoint osiParams huse

private theorem stepCalls_cleanUp {config : TASE2ClientConfig} {s t : TASE2ClientConnection}
    {a : Action} (hs : PhaseInv s) (ht : t.session = s.cleanUp.session) :
    StepCalls config s a t := by
  obtain ⟨held, hheld, hcalls⟩ := continues_cleanUp s
  obtain ⟨hendpoint, hclient⟩ := released_cleanUp hs
  rw [← ht] at hcalls hendpoint hclient
  exact .released held hheld hcalls hendpoint hclient

/-- The calls of every step are of one of the kinds. -/
theorem stepCalls {config : TASE2ClientConfig} {s t : TASE2ClientConnection} {a : Action}
    (hs : PhaseInv s) (h : step config s a = .ok t) : StepCalls config s a t := by
  cases a with
  | connect =>
    rw [← Except.ok.inj h]
    exact .routine ⟨[], Continues.refl _, by simp⟩ ⟨rfl, rfl, rfl⟩
  | disconnect =>
    rw [← Except.ok.inj h]
    exact stepCalls_cleanUp hs rfl
  | iterate env =>
    cases outcome_iteration hs h with
    | kept _ => exact .routine ⟨[], Continues.refl _, by simp⟩ ⟨rfl, rfl, rfl⟩
    | refused _ hstate hobtains =>
      have hnone := hs.released hstate
      refine .refused env rfl ⟨hnone, hs.clientless hnone⟩ (endpointCreation _ _ _ _) ⟨?_, ?_⟩
      · rw [← Session.isSome_endpoint_createEndpoint hnone] at hobtains
        exact Option.isNone_iff_eq_none.mp (Option.isSome_eq_false_iff.mp hobtains)
      · exact (Session.tase2client_createEndpoint _ _ _ _).trans (hs.clientless hnone)
    | clientless _ hstate endpoint hendpoint osiParams hosi _ =>
      exact stepCalls_attempted hs hstate (endpointUse_addressed hendpoint hosi)
    | issued _ hstate endpoint hendpoint osiParams hosi hclient _ _ =>
      exact stepCalls_attempted hs hstate (endpointUse_issued hendpoint hosi hclient)
    | established _ _ _ =>
      have hsame := sameHandles_configDsts env (s.configDatasets env)
      refine .routine ((routine_sets env s).trans (continuesRoutinely_record _ ?_))
        ⟨hsame.endpoint, hsame.tase2client, hsame.clientAssigned⟩
      simp [LibCall.routine]
    | timedOut _ _ _ => exact stepCalls_cleanUp hs rfl
    | served _ _ _ =>
      refine .routine (routine_executePeriodicTasks config env s) ?_
      obtain ⟨calls, next, heq, -⟩ := s.executePeriodicTasks_eq_record config env
      rw [heq]
      exact ⟨rfl, rfl, rfl⟩
    | lost _ _ _ => exact stepCalls_cleanUp hs rfl

end Tase2South.Connection
