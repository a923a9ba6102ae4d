import Tase2South.Base.Lifetime
import Tase2South.Client.Reports

/-!
# Ownership of point values

The values that a poll reads and an acknowledgement creates belong to the plugin, those of a
report to the library; `m_handleMonitoringData` and `handleValue`
(`src/tase2_client.cpp:396–425,447–494`) serve all three. The calls are followed once more with
every hand-over of a point value, and without these they are the calls of the other modules.
-/

namespace Tase2South.Client

open Tase2South.Base Tase2South.Config

/-- An event of a call, or a hand-over of a point value: from a report of the library to the
plugin, or to `m_createDataObject`, which reads it. -/
inductive PointEvent (PV F : Type) where
  | call (event : ClientEvent PV F)
  | deliver (value : PV)
  | use (value : PV)
  deriving DecidableEq

section

variable {PV F : Type}

/-- The event of a call. -/
def PointEvent.event : PointEvent PV F → Option (ClientEvent PV F)
  | .call event => some event
  | .deliver _ => none
  | .use _ => none

/-- What an event does with a point value. -/
def PointEvent.touch : PointEvent PV F → Option (Touch PV)
  | .call (.readPointValue _ _ (some value)) => some (.acquire value)
  | .call (.createPointValue value) => some (.acquire value)
  | .call (.destroyPointValue value) => some (.release value)
  | .call _ => none
  | .deliver value => some (.borrow value)
  | .use value => some (.use value)

/-- The events of the calls alone. -/
def callEvents (trace : List (PointEvent PV F)) : List (ClientEvent PV F) :=
  trace.filterMap PointEvent.event

/-- What a trace does with point values. -/
def touches (trace : List (PointEvent PV F)) : List (Touch PV) :=
  trace.filterMap PointEvent.touch

/-! ### The calls with their hand-overs -/

namespace TASE2Client

variable (lib : PointLib PV F) (client : TASE2Client PV F)

/-- `m_handleMonitoringData`, `src/tase2_client.cpp:447–494`. -/
def traceMonitoringData (ref : String) (type : DPTYPE) (value : Option PV) (timestamp : Nat) :
    Except ClientFault (Option (Datapoint F) × List (PointEvent PV F)) :=
  match client.config.getExchangeDefinitionByRef ref with
  | none => .ok (none, [])
  | some _ => do
    let domainNamePair := splitExchangeRef ref
    let (pointvalue, events) ← client.pointValue domainNamePair value
    match pointvalue with
    | none => return (none, events.map .call)
    | some pointvalue =>
      let dp ← createDataObject lib pointvalue domainNamePair.1 domainNamePair.2 timestamp type
      return (some dp, events.map .call ++ [.use pointvalue] ++
        if value.isNone then [.call (.destroyPointValue pointvalue)] else [])

/-- `handleValue`, `src/tase2_client.cpp:396–425`. -/
def traceValue (ref : String) (value : Option PV) (timestamp : Nat) (ack : Bool) :
    Except ClientFault (List (PointEvent PV F)) :=
  match client.config.getExchangeDefinitionByRef ref with
  | none => .ok []
  | some definition => do
    let (dp, trace) ←
      client.traceMonitoringData lib definition.ref definition.type value timestamp
    let sent ← client.sendData dp.toList [definition.label]
    return trace ++ sent.map .call ++
      if ack then value.toList.map fun value ↦ .call (.destroyPointValue value) else []

/-- The locals of `handleAllValues`, with the trace so far. -/
structure PollTrace (PV F : Type) where
  labels : List String
  datapoints : List (Datapoint F)
  trace : List (PointEvent PV F)

/-- One pass of the loop of `handleAllValues`, `src/tase2_client.cpp:433–443`. -/
def traceDefinition (now : Nat → Nat) (poll : PollTrace PV F)
    (pair : String × DataExchangeDefinition) : Except ClientFault (PollTrace PV F) := do
  let definition := pair.2
  let (dp, trace) ← client.traceMonitoringData lib definition.ref definition.type none
    (now poll.labels.length)
  return ⟨poll.labels ++ [definition.label], poll.datapoints ++ dp.toList, poll.trace ++ trace⟩

/-- `handleAllValues`, `src/tase2_client.cpp:427–445`. -/
def traceAllValues (now : Nat → Nat) (order : List (String × DataExchangeDefinition)) :
    Except ClientFault (List (PointEvent PV F)) := do
  let poll ← order.foldlM (client.traceDefinition lib now) ⟨[], [], []⟩
  let sent ← client.sendData poll.datapoints poll.labels
  return poll.trace ++ sent.map .call

/-- `dsTransferSetValueHandler`, `src/tase2_client_connection.cpp:156–169`. -/
def traceReport (domainName pointName : CText) (pointValue : Option PV) (now : Nat) :
    Except ClientFault (List (PointEvent PV F)) := do
  let handled ← client.traceValue lib (domainName.val ++ ":" ++ pointName.val) pointValue now
    false
  return pointValue.toList.map .deliver ++ handled

/-- `sendCommand`, `sendSetPointReal` and `sendSetPointDiscrete`,
`src/tase2_client.cpp:287–378`. -/
def traceControl (now : Nat) (domain name : String) (request : ControlRequest F)
    (created : PV) : Except ClientFault (Bool × List (PointEvent PV F)) :=
  match client.config.getExchangeDefinitionByRef (domain ++ ":" ++ name), client.active with
  | none, _ => .ok (false, [])
  | some _, none => .ok (false, [])
  | some _, some connection =>
    if connection.control request then do
      let handled ← client.traceValue lib (domain ++ ":" ++ name) (some created) now true
      return (true,
        [.call (.control request true), .call (.createPointValue created)] ++ handled)
    else
      .ok (false, [.call (.control request false)])

end TASE2Client

/-! ### Without the hand-overs -/

section

@[simp] theorem callEvents_nil : callEvents ([] : List (PointEvent PV F)) = [] := rfl

@[simp] theorem callEvents_append (ts us : List (PointEvent PV F)) :
    callEvents (ts ++ us) = callEvents ts ++ callEvents us := List.filterMap_append

@[simp] theorem callEvents_map_call (events : List (ClientEvent PV F)) :
    callEvents (events.map .call) = events := by
  rw [callEvents, List.filterMap_map]
  exact List.filterMap_some

variable (lib : PointLib PV F) (client : TASE2Client PV F)

/-- Following the hand-overs changes nothing in `m_handleMonitoringData`. -/
theorem callEvents_traceMonitoringData (ref : String) (type : DPTYPE) (value : Option PV)
    (timestamp : Nat) :
    (fun r ↦ (r.1, callEvents r.2)) <$> client.traceMonitoringData lib ref type value timestamp =
      client.handleMonitoringData lib ref type value timestamp := by
  unfold TASE2Client.traceMonitoringData TASE2Client.handleMonitoringData
  cases client.config.getExchangeDefinitionByRef ref with
  | none => rfl
  | some d =>
    cases hp : client.pointValue (splitExchangeRef ref) value with
    | error e => simp only [hp, error_bind, map_error]
    | ok r =>
      obtain ⟨pointvalue, events⟩ := r
      simp only [hp, ok_bind]
      cases pointvalue with
      | none => simp [pure_eq_ok]
      | some pointvalue =>
        cases hdp : createDataObject lib pointvalue (splitExchangeRef ref).1
          (splitExchangeRef ref).2 timestamp type with
        | error e => simp only [hdp, error_bind, map_error]
        | ok dp =>
          simp only [hdp, ok_bind, pure_eq_ok, map_ok, callEvents_append, callEvents_map_call]
          cases value with
          | none => simp [callEvents, PointEvent.event]
          | some value => simp [callEvents, PointEvent.event]

/-- Following the hand-overs changes nothing in `handleValue`. -/
theorem callEvents_traceValue (ref : String) (value : Option PV) (timestamp : Nat)
    (ack : Bool) :
    callEvents <$> client.traceValue lib ref value timestamp ack =
      client.handleValue lib ref value timestamp ack := by
  unfold TASE2Client.traceValue TASE2Client.handleValue
  cases client.config.getExchangeDefinitionByRef ref with
  | none => rfl
  | some d =>
    simp only [← callEvents_traceMonitoringData]
    cases client.traceMonitoringData lib d.ref d.type value timestamp with
    | error e => simp only [error_bind, map_error]
    | ok r =>
      simp only [map_ok, ok_bind]
      cases client.sendData r.1.toList [d.label] with
      | error e => simp only [error_bind, map_error]
      | ok sent =>
        simp only [ok_bind, pure_eq_ok, map_ok, callEvents_append, callEvents_map_call]
        cases ack with
        | false => rfl
        | true => cases value <;> rfl

/-- The poll of a trace without its hand-overs. -/
def TASE2Client.PollTrace.poll (poll : TASE2Client.PollTrace PV F) : TASE2Client.Poll PV F :=
  ⟨poll.labels, poll.datapoints, callEvents poll.trace⟩

/-- Following the hand-overs changes nothing in a pass of the poll. -/
theorem poll_traceDefinition (now : Nat → Nat) (poll : TASE2Client.PollTrace PV F)
    (pair : String × DataExchangeDefinition) :
    TASE2Client.PollTrace.poll <$> client.traceDefinition lib now poll pair =
      client.pollDefinition lib now poll.poll pair := by
  unfold TASE2Client.traceDefinition TASE2Client.pollDefinition
  simp only [← callEvents_traceMonitoringData]
  cases ht : client.traceMonitoringData lib pair.2.ref pair.2.type none
    (now poll.labels.length) with
  | error e => simp only [TASE2Client.PollTrace.poll, ht, error_bind, map_error]
  | ok r =>
    simp only [TASE2Client.PollTrace.poll, ht, map_ok, ok_bind, pure_eq_ok, callEvents_append]

/-- Following the hand-overs changes nothing in `handleAllValues`. -/
theorem callEvents_traceAllValues (now : Nat → Nat)
    (order : List (String × DataExchangeDefinition)) :
    callEvents <$> client.traceAllValues lib now order =
      client.handleAllValues lib now order := by
  have hloop : ∀ poll, TASE2Client.PollTrace.poll <$>
      order.foldlM (client.traceDefinition lib now) poll =
        order.foldlM (client.pollDefinition lib now) poll.poll := by
    induction order with
    | nil => exact fun poll ↦ rfl
    | cons pair order ih =>
      intro poll
      rw [List.foldlM_cons, List.foldlM_cons, ← poll_traceDefinition]
      cases client.traceDefinition lib now poll pair with
      | error e => rfl
      | ok next => exact ih next
  unfold TASE2Client.traceAllValues TASE2Client.handleAllValues
  have hstart := hloop ⟨[], [], []⟩
  rw [TASE2Client.PollTrace.poll, callEvents_nil] at hstart
  rw [← hstart]
  cases order.foldlM (client.traceDefinition lib now) ⟨[], [], []⟩ with
  | error e => rfl
  | ok poll =>
    simp only [map_ok, ok_bind, TASE2Client.PollTrace.poll]
    cases client.sendData poll.datapoints poll.labels with
    | error e => rfl
    | ok sent =>
      simp only [ok_bind, pure_eq_ok, map_ok, callEvents_append, callEvents_map_call]

/-- Following the hand-overs changes nothing in a report. -/
theorem callEvents_traceReport (domainName pointName : CText) (pointValue : Option PV)
    (now : Nat) :
    callEvents <$> client.traceReport lib domainName pointName pointValue now =
      client.dsTransferSetValueHandler lib domainName pointName pointValue now := by
  unfold TASE2Client.traceReport TASE2Client.dsTransferSetValueHandler
  rw [← callEvents_traceValue]
  cases client.traceValue lib (domainName.val ++ ":" ++ pointName.val) pointValue now false with
  | error e => rfl
  | ok trace =>
    rw [ok_bind, pure_eq_ok, map_ok, map_ok, callEvents_append]
    cases pointValue <;> rfl

/-- Following the hand-overs changes nothing in a command. -/
theorem callEvents_traceControl (now : Nat) (domain name : String)
    (request : ControlRequest F) (created : PV) :
    (fun r ↦ (r.1, callEvents r.2)) <$>
        client.traceControl lib now domain name request created =
      client.sendControl lib now domain name request created := by
  unfold TASE2Client.traceControl TASE2Client.sendControl
  rw [← callEvents_traceValue]
  cases client.config.getExchangeDefinitionByRef (domain ++ ":" ++ name) with
  | none => rfl
  | some d =>
    cases client.active with
    | none => rfl
    | some connection =>
      simp only
      by_cases hc : connection.control request = true
      · rw [if_pos hc, if_pos hc]
        cases client.traceValue lib (domain ++ ":" ++ name) (some created) now true with
        | error e => rfl
        | ok trace => rfl
      · rw [if_neg hc, if_neg hc]
        rfl

end

/-! ### What each call does with point values -/

section

@[simp] theorem touches_nil : touches ([] : List (PointEvent PV F)) = [] := rfl

@[simp] theorem touches_append (ts us : List (PointEvent PV F)) :
    touches (ts ++ us) = touches ts ++ touches us := List.filterMap_append

variable (lib : PointLib PV F) {client : TASE2Client PV F}

/-- Sending touches no point value. -/
theorem touches_sendData {datapoints : List (Datapoint F)} {labels : List String}
    {sent : List (ClientEvent PV F)} (hlen : datapoints.length ≤ labels.length)
    (h : client.sendData datapoints labels = .ok sent) : touches (sent.map .call) = [] := by
  rw [sendData_eq client hlen] at h
  rw [touches, List.filterMap_map, List.filterMap_eq_nil_iff, ← Except.ok.inj h]
  intro event hevent
  obtain ⟨p, -, hp⟩ := List.mem_flatMap.mp hevent
  unfold TASE2Client.ingest at hp
  split at hp
  · rw [List.mem_singleton.mp hp]
    rfl
  · cases hp

/-- A given value is used only. -/
theorem traceMonitoringData_of_given {ref : String} {type : DPTYPE} (hknown : type ≠ .unknown)
    (hdef : (client.config.getExchangeDefinitionByRef ref).isSome) (value : PV)
    (timestamp : Nat) :
    ∃ dp, client.traceMonitoringData lib ref type (some value) timestamp =
      .ok (some dp, [.use value]) := by
  obtain ⟨d, hd⟩ := Option.isSome_iff_exists.mp hdef
  obtain ⟨dp, hdp, -⟩ := createDataObject_eq_ok lib value (splitExchangeRef ref).1
    (splitExchangeRef ref).2 timestamp hknown
  refine ⟨dp, ?_⟩
  simp only [TASE2Client.traceMonitoringData, TASE2Client.pointValue, hd, hdp, ok_bind]
  rfl

variable (client) in
/-- A value for an exchanged ref is used, and destroyed afterwards when it was created for an
acknowledgement; without a definition it is not touched. -/
theorem touches_traceValue_of_given (ref : String) (value : PV) (timestamp : Nat)
    (ack : Bool) :
    ∃ trace, client.traceValue lib ref (some value) timestamp ack = .ok trace ∧
      touches trace =
        if (client.config.getExchangeDefinitionByRef ref).isSome then
          .use value :: if ack then [.release value] else []
        else [] := by
  cases hd : client.config.getExchangeDefinitionByRef ref with
  | none =>
    refine ⟨[], ?_, rfl⟩
    rw [TASE2Client.traceValue, hd]
  | some d =>
    have href : d.ref = ref := TASE2ClientConfig.ref_of_getExchangeDefinitionByRef hd
    have hdef : (client.config.getExchangeDefinitionByRef d.ref).isSome := by
      rw [href, hd]
      rfl
    obtain ⟨dp, hdp⟩ := traceMonitoringData_of_given lib d.known hdef value timestamp
    have hlen : (some dp).toList.length ≤ [d.label].length := le_refl 1
    have hsent := sendData_eq client hlen
    refine ⟨_, by simp only [TASE2Client.traceValue, hd, hdp, ok_bind, hsent]; rfl, ?_⟩
    rw [touches_append, touches_append, touches_sendData hlen hsent]
    cases ack <;> rfl

variable {connection : ActiveConnection PV F}

section

variable (hactive : client.active = some connection) [DecidableEq PV]

include hactive

/-- A value that is read is used and destroyed at once. -/
theorem traceMonitoringData_of_read {type : DPTYPE} (hknown : type ≠ .unknown) (ref : String)
    (timestamp : Nat) :
    ∃ dp trace, client.traceMonitoringData lib ref type none timestamp = .ok (dp, trace) ∧
      WellOwned (touches trace) := by
  cases hd : client.config.getExchangeDefinitionByRef ref with
  | none =>
    refine ⟨none, [], ?_, wellOwned_nil⟩
    rw [TASE2Client.traceMonitoringData, hd]
  | some d =>
    simp only [TASE2Client.traceMonitoringData, TASE2Client.pointValue, hd, hactive, ok_bind]
    cases connection.readPointValue (cString (splitExchangeRef ref).1)
      (cString (splitExchangeRef ref).2) with
    | none => exact ⟨none, _, rfl, wellOwned_nil⟩
    | some value =>
      obtain ⟨dp, hdp, -⟩ := createDataObject_eq_ok lib value (splitExchangeRef ref).1
        (splitExchangeRef ref).2 timestamp hknown
      simp only [hdp, ok_bind]
      exact ⟨some dp, _, rfl, wellOwned_acquire_use_release value⟩

/-- A report of no value reads one, and destroys it. -/
theorem wellOwned_traceReport_of_read (domainName pointName : CText) (now : Nat) :
    ∃ trace, client.traceReport lib domainName pointName none now = .ok trace ∧
      WellOwned (touches trace) := by
  rw [TASE2Client.traceReport, TASE2Client.traceValue]
  cases client.config.getExchangeDefinitionByRef (domainName.val ++ ":" ++ pointName.val) with
  | none => exact ⟨_, rfl, wellOwned_nil⟩
  | some d =>
    obtain ⟨dp, trace, htrace, howned⟩ :=
      traceMonitoringData_of_read lib hactive d.known d.ref now
    have hlen : dp.toList.length ≤ [d.label].length := Option.length_toList_le
    have hsent := sendData_eq client hlen
    refine ⟨_, by simp only [htrace, ok_bind, hsent]; rfl, ?_⟩
    rw [touches_append, touches_append, touches_append, touches_sendData hlen hsent]
    simpa using howned

/-- The loop of a poll collects no more data objects than labels, and owns well what it
reads. -/
theorem wellOwned_foldlM_traceDefinition (now : Nat → Nat)
    (order : List (String × DataExchangeDefinition)) (poll : TASE2Client.PollTrace PV F)
    (hlen : poll.datapoints.length ≤ poll.labels.length) (howned : WellOwned (touches poll.trace)) :
    ∃ poll', order.foldlM (client.traceDefinition lib now) poll = .ok poll' ∧
      poll'.datapoints.length ≤ poll'.labels.length ∧ WellOwned (touches poll'.trace) := by
  induction order generalizing poll with
  | nil => exact ⟨poll, rfl, hlen, howned⟩
  | cons pair order ih =>
    obtain ⟨dp, trace, htrace, hpass⟩ := traceMonitoringData_of_read lib hactive pair.2.known
      pair.2.ref (now poll.labels.length)
    have hone : dp.toList.length ≤ 1 := Option.length_toList_le
    rw [List.foldlM_cons, TASE2Client.traceDefinition]
    simp only [htrace, ok_bind, pure_eq_ok]
    refine ih _ ?_ ?_
    · simp only [List.length_append, List.length_singleton]
      omega
    · rw [touches_append]
      exact howned.append hpass

/-- A poll owns well what it reads. -/
theorem wellOwned_traceAllValues (now : Nat → Nat)
    (order : List (String × DataExchangeDefinition)) :
    ∃ trace, client.traceAllValues lib now order = .ok trace ∧ WellOwned (touches trace) := by
  obtain ⟨poll, hpoll, hlen, howned⟩ := wellOwned_foldlM_traceDefinition lib hactive now order
    ⟨[], [], []⟩ (le_refl 0) wellOwned_nil
  have hsent := sendData_eq client hlen
  refine ⟨_, by rw [TASE2Client.traceAllValues, hpoll, ok_bind, hsent, ok_bind]; rfl, ?_⟩
  rw [touches_append, touches_sendData hlen hsent, List.append_nil]
  exact howned

end

variable [DecidableEq PV]

variable (client) in
/-- A report of a value uses it at most, and leaves it to the library. -/
theorem wellOwned_traceReport (domainName pointName : CText) (value : PV) (now : Nat) :
    ∃ trace, client.traceReport lib domainName pointName (some value) now = .ok trace ∧
      WellOwned (touches trace) := by
  obtain ⟨trace, htrace, htouches⟩ := touches_traceValue_of_given lib client
    (domainName.val ++ ":" ++ pointName.val) value now false
  refine ⟨_, by rw [TASE2Client.traceReport, htrace, ok_bind]; rfl, ?_⟩
  rw [touches_append, htouches]
  split
  · exact wellOwned_borrow_use value
  · exact wellOwned_borrow value

variable (client) in
/-- A command destroys the value it creates for its acknowledgement. -/
theorem wellOwned_traceControl (now : Nat) (domain name : String)
    (request : ControlRequest F) (created : PV) :
    ∃ success trace, client.traceControl lib now domain name request created =
        .ok (success, trace) ∧ WellOwned (touches trace) := by
  cases hd : client.config.getExchangeDefinitionByRef (domain ++ ":" ++ name) with
  | none => exact ⟨false, [], by simp only [TASE2Client.traceControl, hd], wellOwned_nil⟩
  | some d =>
    cases ha : client.active with
    | none => exact ⟨false, [], by simp only [TASE2Client.traceControl, hd, ha], wellOwned_nil⟩
    | some connection =>
      by_cases hc : connection.control request = true
      · obtain ⟨trace, htrace, htouches⟩ := touches_traceValue_of_given lib client
          (domain ++ ":" ++ name) created now true
        refine ⟨true, _, by
          simp only [TASE2Client.traceControl, hd, ha, hc, if_true, htrace, ok_bind]
          rfl, ?_⟩
        rw [touches_append, htouches, hd]
        exact wellOwned_acquire_use_release created
      · refine ⟨false, [.call (.control request false)], ?_, wellOwned_nil⟩
        simp only [TASE2Client.traceControl, hd, ha, hc, Bool.false_eq_true, if_false]

end

/-! ### Without a connection -/

section

variable (lib : PointLib PV F) {client : TASE2Client PV F} (habsent : client.active = none)

include habsent

/-- Without an active connection, reading a value dereferences null. -/
theorem traceMonitoringData_of_absent {ref : String}
    (hdef : (client.config.getExchangeDefinitionByRef ref).isSome) (type : DPTYPE)
    (timestamp : Nat) :
    client.traceMonitoringData lib ref type none timestamp = .error .absentConnection := by
  obtain ⟨d, hd⟩ := Option.isSome_iff_exists.mp hdef
  simp only [TASE2Client.traceMonitoringData, TASE2Client.pointValue, hd, habsent, error_bind]

/-- Without an active connection, a poll that visits a definition dereferences null. -/
theorem traceAllValues_of_absent (now : Nat → Nat)
    {order : List (String × DataExchangeDefinition)}
    (horder : client.config.polledDatapoints.map.IterationOrder order) (hne : order ≠ []) :
    client.traceAllValues lib now order = .error .absentConnection := by
  have hdefs := isSome_definition_of_polled horder
  cases order with
  | nil => exact absurd rfl hne
  | cons p order =>
    have hread := traceMonitoringData_of_absent lib habsent (hdefs p List.mem_cons_self) p.2.type
      (now 0)
    rw [TASE2Client.traceAllValues, List.foldlM_cons, TASE2Client.traceDefinition]
    simp only [List.length_nil, hread, error_bind]

/-- Without an active connection, a report of no value for an exchanged ref dereferences null. -/
theorem traceReport_of_absent {domainName pointName : CText}
    (hdef : (client.config.getExchangeDefinitionByRef
      (domainName.val ++ ":" ++ pointName.val)).isSome) (now : Nat) :
    client.traceReport lib domainName pointName none now = .error .absentConnection := by
  obtain ⟨d, hd⟩ := Option.isSome_iff_exists.mp hdef
  have hfound : (client.config.getExchangeDefinitionByRef d.ref).isSome := by
    rw [TASE2ClientConfig.ref_of_getExchangeDefinitionByRef hd, hd]
    rfl
  have hread := traceMonitoringData_of_absent lib habsent hfound d.type now
  simp only [TASE2Client.traceReport, TASE2Client.traceValue, hd, hread, error_bind]

end

/-! ### Sequences of calls -/

/-- A poll, a report of a value or of none, or a command, with what `m_active_connection` is then:
null, or a connection with the answers of its library. -/
inductive ClientCall (PV F : Type) (config : TASE2ClientConfig) where
  | poll (active : Option (ActiveConnection PV F)) (now : Nat → Nat)
      (order : List (String × DataExchangeDefinition))
      (horder : config.polledDatapoints.map.IterationOrder order)
  | report (active : Option (ActiveConnection PV F)) (domainName pointName : CText) (value : PV)
      (now : Nat)
  | emptyReport (active : Option (ActiveConnection PV F)) (domainName pointName : CText)
      (now : Nat)
  | command (active : Option (ActiveConnection PV F)) (domain name : String)
      (request : ControlRequest F) (created : PV) (now : Nat)

/-- The precondition of a call. The code does not check it: a poll reads the definitions it visits,
and a report of no value its ref when it is exchanged, over `m_active_connection`. -/
def ClientCall.Connected {config : TASE2ClientConfig} : ClientCall PV F config → Prop
  | .poll active _ order _ => active.isSome ∨ order = []
  | .emptyReport active domainName pointName _ => active.isSome ∨
      config.getExchangeDefinitionByRef (domainName.val ++ ":" ++ pointName.val) = none
  | _ => True

/-- The events of one call of the client. -/
def runCall (lib : PointLib PV F) (config : TASE2ClientConfig) (registered : Bool) :
    ClientCall PV F config → Except ClientFault (List (ClientEvent PV F))
  | .poll active now order _ =>
    TASE2Client.handleAllValues lib ⟨config, registered, active⟩ now order
  | .report active domainName pointName value now =>
    TASE2Client.dsTransferSetValueHandler lib ⟨config, registered, active⟩ domainName pointName
      (some value) now
  | .emptyReport active domainName pointName now =>
    TASE2Client.dsTransferSetValueHandler lib ⟨config, registered, active⟩ domainName pointName
      none now
  | .command active domain name request created now =>
    Prod.snd <$>
      TASE2Client.sendControl lib ⟨config, registered, active⟩ now domain name request created

/-- The events of a sequence of calls. -/
def runCalls (lib : PointLib PV F) (config : TASE2ClientConfig) (registered : Bool)
    (calls : List (ClientCall PV F config)) : Except ClientFault (List (ClientEvent PV F)) :=
  List.flatten <$> calls.mapM (runCall lib config registered)

/-- The trace of one call. -/
def traceCall (lib : PointLib PV F) (config : TASE2ClientConfig) (registered : Bool) :
    ClientCall PV F config → Except ClientFault (List (PointEvent PV F))
  | .poll active now order _ =>
    TASE2Client.traceAllValues lib ⟨config, registered, active⟩ now order
  | .report active domainName pointName value now =>
    TASE2Client.traceReport lib ⟨config, registered, active⟩ domainName pointName (some value) now
  | .emptyReport active domainName pointName now =>
    TASE2Client.traceReport lib ⟨config, registered, active⟩ domainName pointName none now
  | .command active domain name request created now =>
    Prod.snd <$>
      TASE2Client.traceControl lib ⟨config, registered, active⟩ now domain name request created

/-- The trace of a sequence of calls. -/
def traceCalls (lib : PointLib PV F) (config : TASE2ClientConfig) (registered : Bool)
    (calls : List (ClientCall PV F config)) : Except ClientFault (List (PointEvent PV F)) :=
  List.flatten <$> calls.mapM (traceCall lib config registered)

section

variable (lib : PointLib PV F) (config : TASE2ClientConfig) (registered : Bool)

/-- Without its hand-overs, the trace of a call is the call. -/
theorem callEvents_traceCall (call : ClientCall PV F config) :
    callEvents <$> traceCall lib config registered call = runCall lib config registered call := by
  cases call with
  | poll active now order horder => exact callEvents_traceAllValues lib _ now order
  | report active domainName pointName value now =>
    exact callEvents_traceReport lib _ domainName pointName (some value) now
  | emptyReport active domainName pointName now =>
    exact callEvents_traceReport lib _ domainName pointName none now
  | command active domain name request created now =>
    rw [traceCall, runCall, ← callEvents_traceControl]
    cases TASE2Client.traceControl lib ⟨config, registered, active⟩ now domain name request
      created with
    | error e => rfl
    | ok r => rfl

/-- Without its hand-overs, the trace of a sequence of calls is that sequence. -/
theorem callEvents_traceCalls (calls : List (ClientCall PV F config)) :
    callEvents <$> traceCalls lib config registered calls =
      runCalls lib config registered calls := by
  have hcalls : List.map callEvents <$> calls.mapM (traceCall lib config registered) =
      calls.mapM (runCall lib config registered) := by
    induction calls with
    | nil => rfl
    | cons call calls ih =>
      rw [List.mapM_cons, List.mapM_cons, ← callEvents_traceCall, ← ih]
      cases traceCall lib config registered call with
      | error e => rfl
      | ok trace =>
        cases calls.mapM (traceCall lib config registered) with
        | error e => rfl
        | ok traces => rfl
  rw [traceCalls, runCalls, ← hcalls]
  cases calls.mapM (traceCall lib config registered) with
  | error e => rfl
  | ok traces => rw [map_ok, map_ok, map_ok, map_ok, callEvents, List.filterMap_flatten]; rfl

variable {config}

/-- A call that meets its precondition returns, and owns its point values well. -/
theorem wellOwned_traceCall [DecidableEq PV] {call : ClientCall PV F config}
    (h : call.Connected) :
    ∃ trace, traceCall lib config registered call = .ok trace ∧ WellOwned (touches trace) := by
  cases call with
  | poll active now order horder =>
    cases active with
    | some connection => exact wellOwned_traceAllValues lib rfl now order
    | none =>
      obtain rfl : order = [] := h.resolve_left Bool.false_ne_true
      exact ⟨[], rfl, wellOwned_nil⟩
  | report active domainName pointName value now =>
    exact wellOwned_traceReport lib _ domainName pointName value now
  | emptyReport active domainName pointName now =>
    cases active with
    | some connection => exact wellOwned_traceReport_of_read lib rfl domainName pointName now
    | none =>
      have hnone := h.resolve_left Bool.false_ne_true
      refine ⟨[], ?_, wellOwned_nil⟩
      simp only [traceCall, TASE2Client.traceReport, TASE2Client.traceValue, hnone, ok_bind]
      rfl
  | command active domain name request created now =>
    obtain ⟨success, trace, htrace, howned⟩ := wellOwned_traceControl lib
      ⟨config, registered, active⟩ now domain name request created
    refine ⟨trace, ?_, howned⟩
    rw [traceCall, htrace]
    rfl

/-- A call that does not meet its precondition dereferences null. -/
theorem traceCall_of_not_connected {call : ClientCall PV F config} (h : ¬ call.Connected) :
    traceCall lib config registered call = .error .absentConnection := by
  cases call with
  | poll active now order horder =>
    obtain ⟨hactive, horder'⟩ := not_or.mp h
    rw [Bool.not_eq_true, Option.isSome_eq_false_iff, Option.isNone_iff_eq_none] at hactive
    exact traceAllValues_of_absent lib hactive now horder horder'
  | emptyReport active domainName pointName now =>
    obtain ⟨hactive, hdef⟩ := not_or.mp h
    rw [Bool.not_eq_true, Option.isSome_eq_false_iff, Option.isNone_iff_eq_none] at hactive
    exact traceReport_of_absent lib hactive (Option.isSome_iff_ne_none.mpr hdef) now
  | _ => exact absurd trivial h

/-- A call returns exactly when it meets its precondition. -/
theorem completes_traceCall_iff (call : ClientCall PV F config) :
    Completes (traceCall lib config registered call) ↔ call.Connected := by
  classical
  constructor
  · rintro ⟨trace, htrace⟩
    by_contra h
    rw [traceCall_of_not_connected lib registered h] at htrace
    cases htrace
  · intro h
    obtain ⟨trace, htrace, -⟩ := wellOwned_traceCall lib registered h
    exact ⟨trace, htrace⟩

/-- A sequence of calls that returns owns its point values well. -/
theorem wellOwned_traceCalls [DecidableEq PV] {calls : List (ClientCall PV F config)}
    {trace : List (PointEvent PV F)} (h : traceCalls lib config registered calls = .ok trace) :
    WellOwned (touches trace) := by
  obtain ⟨traces, htraces, rfl⟩ := map_eq_ok_iff.mp h
  clear h
  induction calls generalizing traces with
  | nil =>
    cases htraces
    exact wellOwned_nil
  | cons call calls ih =>
    rw [List.mapM_cons] at htraces
    obtain ⟨first, hfirst, htraces⟩ := bind_eq_ok_iff.mp htraces
    obtain ⟨rest, hrest, htraces⟩ := bind_eq_ok_iff.mp htraces
    have hconnected := (completes_traceCall_iff lib registered call).mp ⟨first, hfirst⟩
    obtain ⟨trace, htrace, hcall⟩ := wellOwned_traceCall lib registered hconnected
    obtain rfl : first = trace := Except.ok.inj (hfirst.symm.trans htrace)
    cases htraces
    rw [List.flatten_cons, touches_append]
    exact hcall.append (ih rest hrest)

/-- A sequence of calls returns exactly when each of them meets its precondition; then the client
makes the calls of the trace, every point value that it reads or creates is destroyed exactly once
and not used afterwards, and none that a report delivers is destroyed. -/
theorem disciplined_traceCalls [DecidableEq PV] (calls : List (ClientCall PV F config)) :
    (Completes (traceCalls lib config registered calls) ↔ ∀ call ∈ calls, call.Connected) ∧
      ∀ trace, traceCalls lib config registered calls = .ok trace →
        runCalls lib config registered calls = .ok (callEvents trace) ∧
          Disciplined (touches trace) := by
  have hreturns : Completes (traceCalls lib config registered calls) ↔
      ∀ call ∈ calls, call.Connected := by
    rw [traceCalls, completes_map_iff]
    exact completes_mapM_iff (completes_traceCall_iff lib registered) calls
  refine ⟨hreturns, fun trace htrace ↦ ⟨?_, ?_⟩⟩
  · rw [← callEvents_traceCalls, htrace, map_ok]
  · exact (wellOwned_traceCalls lib registered htrace).disciplined

end

end

/-! ### A read that fails, and a report -/

private theorem visits_twoPoints :
    twoPointsClient.config.polledDatapoints.map.IterationOrder twoPointsOrder := by
  decide

/-- A poll of the two points, over the connection that can read the second only, and a report of
the first. -/
def twoPointsCalls : List (ClientCall (Int ⊕ Int) Int twoPointsClient.config) :=
  [.poll (some secondPointOnly) (fun _ ↦ 0) twoPointsOrder visits_twoPoints,
    .report none (cText "icc1") (cText "point1") (.inl 5) 0]

/-- The one value that is read is destroyed after its use, and the one that is reported is not. -/
theorem disciplined_traceCalls_twoPoints : ∃ trace,
    traceCalls .tagged twoPointsClient.config true twoPointsCalls = .ok trace ∧
      touches trace = [.acquire (.inl 1), .use (.inl 1), .release (.inl 1), .borrow (.inl 5),
        .use (.inl 5)] ∧ Disciplined (touches trace) :=
  ⟨_, rfl, by decide, ((disciplined_traceCalls .tagged true twoPointsCalls).2 _ rfl).2⟩

end Tase2South.Client
