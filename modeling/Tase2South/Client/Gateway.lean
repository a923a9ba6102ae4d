import Tase2South.Client.Format
import Tase2South.Client.Ownership

/-!
# What the south plugin shows of the server

An abstract view of `handleAllValues`, `handleValue` and their callers
(`src/tase2_client.cpp:287–494`, `src/tase2_client_connection.cpp:156–169`): each call shows a list
of observations, which are asset names with what a data object says. The readings of any sequence
of calls are those observations, encoded, in their order.
-/

namespace Tase2South.Client

open Tase2South.Base Tase2South.Config

/-- What is seen of a point under an asset name. -/
@[ext] structure Observation (F : Type) where
  label : String
  object : DataObject F

section

variable {F : Type}

/-- The reading of an observation. -/
def Observation.reading (o : Observation F) : Reading F := ⟨o.label, [o.object.encode]⟩

/-- The observation that a reading of one data object gives. -/
def Reading.observe (r : Reading F) : Option (Observation F) :=
  match r.points with
  | [p] => (Observation.mk r.assetName) <$> p.decode
  | _ => none

/-- A reading gives the observation it is of. -/
theorem Observation.observe_reading (o : Observation F) : o.reading.observe = some o := by
  simp only [Observation.reading, Reading.observe, DataObject.decode_encode,
    Option.map_eq_map, Option.map_some]

end

/-! ### The observations of a call -/

section

variable {PV F : Type} (lib : PointLib PV F)

/-- A value for a definition, seen under its label. -/
def observed (d : DataExchangeDefinition) (value : PV) (ts : Nat) : DataObject F :=
  objectOf lib value (splitExchangeRef d.ref).1 (splitExchangeRef d.ref).2 ts d.type d.known

/-- A value for a ref is seen when the ref is exchanged. -/
def observeValue (config : TASE2ClientConfig) (ref : String) (value : PV) (ts : Nat) :
    List (Observation F) :=
  ((config.getExchangeDefinitionByRef ref).map fun d ↦ ⟨d.label, observed lib d value ts⟩).toList

/-- The objects of a poll, by the position of their definitions in it. -/
def polledObjects (connection : ActiveConnection PV F) (now : Nat → Nat)
    (order : List (String × DataExchangeDefinition)) (k : Nat) : List (DataObject F) :=
  (order.zipIdx k).filterMap fun p ↦
    (connection.readOf p.1.2).map fun value ↦ observed lib p.1.2 value (now p.2)

/-- A poll shows the objects of the reads that succeed, under the labels of the first
definitions. -/
def observePoll (connection : ActiveConnection PV F) (now : Nat → Nat)
    (order : List (String × DataExchangeDefinition)) : List (Observation F) :=
  ((polledObjects lib connection now order 0).zip (order.map (·.2.label))).map fun p ↦ ⟨p.2, p.1⟩

/-- What a call shows: a poll what it reads, a report its value, or the one that is read for it, and
a command the value it was accepted with. -/
def observeCall (config : TASE2ClientConfig) : ClientCall PV F config → List (Observation F)
  | .poll active now order _ =>
    active.elim [] fun connection ↦ observePoll lib connection now order
  | .report _ domainName pointName value now =>
    observeValue lib config (domainName.val ++ ":" ++ pointName.val) value now
  | .emptyReport active domainName pointName now =>
    let ref := domainName.val ++ ":" ++ pointName.val
    active.elim [] fun connection ↦
      ((config.getExchangeDefinitionByRef ref).bind connection.readOf).toList.flatMap fun value ↦
        observeValue lib config ref value now
  | .command active domain name request created now =>
    if active.any fun connection ↦ connection.control request then
      observeValue lib config (domain ++ ":" ++ name) created now
    else []

/-! ### One value -/

/-- The readings of two runs are those of each. -/
@[simp] theorem readings_append (es es' : List (ClientEvent PV F)) :
    readings (es ++ es') = readings es ++ readings es' := List.filterMap_append

/-- The events have these observations as their readings, or none without a callback. -/
def Shows (registered : Bool) (events : List (ClientEvent PV F)) (os : List (Observation F)) :
    Prop :=
  readings events = if registered then os.map Observation.reading else []

/-- No events show nothing. -/
theorem shows_nil (registered : Bool) : Shows registered ([] : List (ClientEvent PV F)) [] := by
  rw [Shows, List.map_nil, ite_self]
  rfl

/-- Events after each other show their observations in that order. -/
theorem Shows.append {registered : Bool} {es es' : List (ClientEvent PV F)}
    {os os' : List (Observation F)} (h : Shows registered es os) (h' : Shows registered es' os') :
    Shows registered (es ++ es') (os ++ os') := by
  rw [Shows, readings_append, h, h', List.map_append]
  cases registered <;> rfl

/-- Events without a reading add nothing. -/
theorem Shows.append_of_nil {registered : Bool} {es es' : List (ClientEvent PV F)}
    {os : List (Observation F)} (h : Shows registered es os) (h' : readings es' = []) :
    Shows registered (es ++ es') os := by
  rw [Shows, readings_append, h', List.append_nil]
  exact h

/-- Events without a reading add nothing before others either. -/
theorem Shows.nil_append {registered : Bool} {es es' : List (ClientEvent PV F)}
    {os : List (Observation F)} (h' : readings es' = []) (h : Shows registered es os) :
    Shows registered (es' ++ es) os := by
  rw [Shows, readings_append, h', List.nil_append]
  exact h

/-- Sending objects under labels, one for each, shows them. -/
theorem shows_sendData (client : TASE2Client PV F) {objects : List (DataObject F)}
    {labels : List String} (hlen : objects.length ≤ labels.length) :
    ∃ events, client.sendData (objects.map DataObject.encode) labels = .ok events ∧
      Shows client.registered events ((objects.zip labels).map fun p ↦ ⟨p.2, p.1⟩) := by
  refine ⟨_, sendData_eq client (by rwa [List.length_map]), ?_⟩
  rw [Shows, readings_flatMap_ingest, List.map_map, List.zip_map_left, List.map_map]
  rfl

variable {client : TASE2Client PV F}

variable (client) in
/-- A given value of an exchanged ref becomes its object. -/
theorem handleMonitoringData_of_given {d : DataExchangeDefinition}
    (hd : (client.config.getExchangeDefinitionByRef d.ref).isSome) (value : PV)
    (timestamp : Nat) :
    client.handleMonitoringData lib d.ref d.type (some value) timestamp =
      .ok (some (observed lib d value timestamp).encode, []) := by
  obtain ⟨e, he⟩ := Option.isSome_iff_exists.mp hd
  simp only [TASE2Client.handleMonitoringData, TASE2Client.pointValue, he, ok_bind,
    createDataObject_eq_encode lib _ _ _ _ d.known]
  rfl

/-- Over an active connection, a value that is read becomes the object of the definition. -/
theorem handleMonitoringData_of_read {connection : ActiveConnection PV F}
    (hactive : client.active = some connection) {d : DataExchangeDefinition}
    (hd : (client.config.getExchangeDefinitionByRef d.ref).isSome) (timestamp : Nat) :
    ∃ events, client.handleMonitoringData lib d.ref d.type none timestamp =
        .ok ((connection.readOf d).map fun value ↦ (observed lib d value timestamp).encode,
          events) ∧
      readings events = [] := by
  obtain ⟨e, he⟩ := Option.isSome_iff_exists.mp hd
  simp only [TASE2Client.handleMonitoringData, TASE2Client.pointValue, he, hactive,
    d.cString_domain, d.cString_name, ok_bind]
  rw [← ActiveConnection.readOf]
  cases connection.readOf d with
  | none => exact ⟨_, rfl, rfl⟩
  | some value =>
    simp only [createDataObject_eq_encode lib _ _ _ _ d.known, ok_bind]
    exact ⟨_, rfl, rfl⟩

/-- Handling a value that was found shows its object under the label of the definition. -/
theorem shows_handleValue {ref : String} {d : DataExchangeDefinition}
    (hd : client.config.getExchangeDefinitionByRef ref = some d) {value : Option PV}
    {timestamp : Nat} {object : Option (DataObject F)} {before : List (ClientEvent PV F)}
    (hdata : client.handleMonitoringData lib d.ref d.type value timestamp =
      .ok (object.map DataObject.encode, before)) (hbefore : readings before = []) (ack : Bool) :
    ∃ events, client.handleValue lib ref value timestamp ack = .ok events ∧
      Shows client.registered events (object.map fun o ↦ ⟨d.label, o⟩).toList := by
  have hlen : object.toList.length ≤ [d.label].length := Option.length_toList_le
  obtain ⟨sent, hsent, hshows⟩ := shows_sendData client hlen
  have hlist : (object.map DataObject.encode).toList = object.toList.map DataObject.encode :=
    Option.toList_map
  refine ⟨before ++ sent ++ if ack then value.toList.map .destroyPointValue else [], ?_, ?_⟩
  · simp only [TASE2Client.handleValue, hd, hdata, ok_bind, hlist, hsent]
    rfl
  · apply Shows.append_of_nil
    · apply Shows.nil_append hbefore
      cases object with
      | none => exact hshows
      | some o => exact hshows
    · cases ack with
      | false => rfl
      | true => cases value <;> rfl

variable (client) in
/-- Handling a given value shows it when the ref is exchanged. -/
theorem shows_handleValue_of_given (ref : String) (value : PV) (timestamp : Nat) (ack : Bool) :
    ∃ events, client.handleValue lib ref (some value) timestamp ack = .ok events ∧
      Shows client.registered events (observeValue lib client.config ref value timestamp) := by
  cases hd : client.config.getExchangeDefinitionByRef ref with
  | none =>
    refine ⟨[], handleValue_of_none lib hd _ _ _, ?_⟩
    rw [observeValue, hd]
    exact shows_nil client.registered
  | some d =>
    have href : d.ref = ref := TASE2ClientConfig.ref_of_getExchangeDefinitionByRef hd
    have hdata : client.handleMonitoringData lib d.ref d.type (some value) timestamp =
        .ok ((some (observed lib d value timestamp)).map DataObject.encode, []) := by
      apply handleMonitoringData_of_given
      rw [href, hd]
      rfl
    rw [observeValue, hd]
    exact shows_handleValue lib hd hdata rfl ack

/-- Handling no value over an active connection shows what is read, if anything. -/
theorem shows_handleValue_of_read {connection : ActiveConnection PV F}
    (hactive : client.active = some connection) (ref : String) (timestamp : Nat) :
    ∃ events, client.handleValue lib ref none timestamp false = .ok events ∧
      Shows client.registered events
        (((client.config.getExchangeDefinitionByRef ref).bind connection.readOf).toList.flatMap
          fun value ↦ observeValue lib client.config ref value timestamp) := by
  cases hd : client.config.getExchangeDefinitionByRef ref with
  | none => exact ⟨[], handleValue_of_none lib hd _ _ _, shows_nil client.registered⟩
  | some d =>
    have href : d.ref = ref := TASE2ClientConfig.ref_of_getExchangeDefinitionByRef hd
    obtain ⟨before, hdata, hbefore⟩ := handleMonitoringData_of_read lib hactive
      (by rw [href, hd]; rfl : (client.config.getExchangeDefinitionByRef d.ref).isSome) timestamp
    have hmap : (connection.readOf d).map
          (fun value ↦ (observed lib d value timestamp).encode) =
        ((connection.readOf d).map fun value ↦ observed lib d value timestamp).map
          DataObject.encode := by
      rw [Option.map_map]
      rfl
    rw [hmap] at hdata
    obtain ⟨events, hevents, hshows⟩ := shows_handleValue lib hd hdata hbefore false
    refine ⟨events, hevents, ?_⟩
    simp only [observeValue, hd, Option.bind_some]
    cases hread : connection.readOf d with
    | none =>
      rw [hread] at hshows
      exact hshows
    | some value =>
      rw [hread] at hshows
      exact hshows

/-! ### One poll -/

section

variable {connection : ActiveConnection PV F} (hactive : client.active = some connection)

include hactive

/-- The loop of a poll collects the labels and the objects of the reads that succeed, and shows
nothing yet. -/
theorem foldlM_pollDefinition_observed (now : Nat → Nat)
    (order : List (String × DataExchangeDefinition))
    (hdefs : ∀ p ∈ order, (client.config.getExchangeDefinitionByRef p.2.ref).isSome)
    (poll : TASE2Client.Poll PV F) :
    ∃ events, order.foldlM (client.pollDefinition lib now) poll =
        .ok ⟨poll.labels ++ order.map (·.2.label), poll.datapoints ++
          (polledObjects lib connection now order poll.labels.length).map DataObject.encode,
          poll.events ++ events⟩ ∧
      readings events = [] := by
  induction order generalizing poll with
  | nil => exact ⟨[], by simp [polledObjects, pure_eq_ok], rfl⟩
  | cons pair order ih =>
    rw [List.forall_mem_cons] at hdefs
    obtain ⟨before, hdata, hbefore⟩ := handleMonitoringData_of_read lib hactive hdefs.1
      (now poll.labels.length)
    obtain ⟨events, hrun, hevents⟩ := ih hdefs.2 ⟨poll.labels ++ [pair.2.label],
      poll.datapoints ++ ((connection.readOf pair.2).map fun value ↦
        (observed lib pair.2 value (now poll.labels.length)).encode).toList,
      poll.events ++ before⟩
    refine ⟨before ++ events, ?_, ?_⟩
    · rw [List.foldlM_cons, TASE2Client.pollDefinition]
      simp only [hdata, ok_bind, pure_eq_ok, hrun]
      rw [List.length_append, List.length_singleton]
      simp only [polledObjects, List.zipIdx_cons, List.filterMap_cons, List.map_cons,
        List.append_assoc, List.singleton_append]
      cases connection.readOf pair.2 with
      | none => rfl
      | some value => rfl
    · rw [readings_append, hbefore, hevents, List.append_nil]

/-- A poll shows its objects under the first labels. -/
theorem shows_handleAllValues (now : Nat → Nat) {order : List (String × DataExchangeDefinition)}
    (horder : client.config.polledDatapoints.map.IterationOrder order) :
    ∃ events, client.handleAllValues lib now order = .ok events ∧
      Shows client.registered events (observePoll lib connection now order) := by
  obtain ⟨before, hrun, hbefore⟩ :=
    foldlM_pollDefinition_observed lib hactive now order (isSome_definition_of_polled horder)
      ⟨[], [], []⟩
  have hlen : (polledObjects lib connection now order 0).length ≤
      (order.map (·.2.label)).length := by
    rw [polledObjects, List.length_map]
    apply le_trans (List.length_filterMap_le _ _)
    rw [List.length_zipIdx]
  obtain ⟨sent, hsent, hshows⟩ := shows_sendData client hlen
  refine ⟨before ++ sent, ?_, Shows.nil_append hbefore hshows⟩
  rw [TASE2Client.handleAllValues, hrun, ok_bind, List.nil_append, List.nil_append]
  simp only [List.length_nil, hsent, ok_bind, List.nil_append, pure_eq_ok]

end

/-! ### Sequences of calls -/

variable (config : TASE2ClientConfig) (registered : Bool)

/-- A call that meets its precondition returns, and shows its observations. -/
theorem shows_runCall {call : ClientCall PV F config} (h : call.Connected) :
    ∃ events, runCall lib config registered call = .ok events ∧
      Shows registered events (observeCall lib config call) := by
  cases call with
  | poll active now order horder =>
    cases active with
    | some connection => exact shows_handleAllValues lib rfl now horder
    | none =>
      obtain rfl : order = [] := h.resolve_left Bool.false_ne_true
      exact ⟨[], rfl, shows_nil registered⟩
  | report active domainName pointName value now =>
    exact shows_handleValue_of_given lib ⟨config, registered, active⟩ _ value now false
  | emptyReport active domainName pointName now =>
    cases active with
    | some connection => exact shows_handleValue_of_read lib rfl _ now
    | none =>
      have hnone := h.resolve_left Bool.false_ne_true
      exact ⟨[], handleValue_of_none lib hnone _ _ _, shows_nil registered⟩
  | command active domain name request created now =>
    simp only [runCall, observeCall, TASE2Client.sendControl]
    cases active with
    | none =>
      refine ⟨[], ?_, shows_nil registered⟩
      cases config.getExchangeDefinitionByRef (domain ++ ":" ++ name) <;> rfl
    | some connection =>
      rw [Option.any_some]
      cases hd : config.getExchangeDefinitionByRef (domain ++ ":" ++ name) with
      | none =>
        refine ⟨[], rfl, ?_⟩
        rw [observeValue, hd, Option.map_none, Option.toList_none, ite_self]
        exact shows_nil registered
      | some d =>
        cases hc : connection.control request with
        | false =>
          refine ⟨[.control request false], ?_, (shows_nil registered).append_of_nil rfl⟩
          simp only [hc, Bool.false_eq_true, if_false, map_ok]
        | true =>
          obtain ⟨handled, hhandled, hshows⟩ := shows_handleValue_of_given lib
            ⟨config, registered, some connection⟩ (domain ++ ":" ++ name) created now true
          refine ⟨[.control request true, .createPointValue created] ++ handled, ?_,
            Shows.nil_append rfl hshows⟩
          simp only [hc, hhandled, if_true, ok_bind, pure_eq_ok, map_ok]

/-- A sequence of calls returns exactly when each of them meets its precondition. -/
theorem completes_runCalls_iff (calls : List (ClientCall PV F config)) :
    Completes (runCalls lib config registered calls) ↔ ∀ call ∈ calls, call.Connected := by
  rw [runCalls, completes_map_iff]
  apply completes_mapM_iff
  intro call
  rw [← callEvents_traceCall, completes_map_iff, completes_traceCall_iff]

variable {config}

/-- A sequence of calls that returns shows the observations of its calls in their order. -/
theorem shows_runCalls {calls : List (ClientCall PV F config)} {events : List (ClientEvent PV F)}
    (h : runCalls lib config registered calls = .ok events) :
    Shows registered events (calls.flatMap (observeCall lib config)) := by
  have hconnected := (completes_runCalls_iff lib config registered calls).mp ⟨events, h⟩
  obtain ⟨runs, hruns, rfl⟩ := map_eq_ok_iff.mp h
  clear h
  induction calls generalizing runs with
  | nil =>
    cases hruns
    exact shows_nil registered
  | cons call calls ih =>
    rw [List.forall_mem_cons] at hconnected
    obtain ⟨first, hfirst, hshows⟩ := shows_runCall lib config registered hconnected.1
    rw [List.mapM_cons, hfirst, ok_bind] at hruns
    obtain ⟨rest, hrest, hruns⟩ := bind_eq_ok_iff.mp hruns
    cases hruns
    rw [List.flatten_cons, List.flatMap_cons]
    exact hshows.append (ih hconnected.2 rest hrest)

/-- A sequence of polls, reports and commands returns exactly when each that reads finds an active
connection. With a callback its readings are then the observations of its calls, encoded, in their
order, and are read back as these; without one there are none. -/
theorem runCalls_observed (calls : List (ClientCall PV F config)) :
    (Completes (runCalls lib config registered calls) ↔ ∀ call ∈ calls, call.Connected) ∧
      ∀ events, runCalls lib config registered calls = .ok events →
        readings events = (if registered then
            (calls.flatMap (observeCall lib config)).map Observation.reading else []) ∧
          (registered = true →
            (readings events).map Reading.observe =
              (calls.flatMap (observeCall lib config)).map some) := by
  refine ⟨completes_runCalls_iff lib config registered calls, fun events hevents ↦ ?_⟩
  have hshows := shows_runCalls lib registered hevents
  refine ⟨hshows, ?_⟩
  rintro rfl
  rw [hshows, if_pos rfl, List.map_map]
  exact List.map_congr_left fun o _ ↦ o.observe_reading

end

/-- The value that is read of the second point is observed under the label of the first, as is the
one that is reported. -/
theorem runCalls_observed_twoPoints : ∃ events,
    runCalls .tagged twoPointsClient.config true twoPointsCalls = .ok events ∧
      readings events =
        (twoPointsCalls.flatMap (observeCall .tagged twoPointsClient.config)).map
          Observation.reading ∧
      (readings events).map Reading.assetName = ["TS1", "TS1"] :=
  ⟨_, rfl, ((runCalls_observed .tagged true twoPointsCalls).2 _ rfl).1, by decide⟩

end Tase2South.Client
