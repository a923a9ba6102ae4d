import Tase2South.Client.Monitoring

/-!
# Commands and set points

`sendCommand`, `sendSetPointReal` and `sendSetPointDiscrete` of the client,
`src/tase2_client.cpp:287–378`, and of the connection,
`src/tase2_client_connection.cpp:729–771`. A request that the library accepts is acknowledged
by a reading made from the value that was sent. The time of a command is not used.
-/

namespace Tase2South.Client

open Tase2South.Base Tase2South.Config

/-! ### Requests -/

section

variable {F : Type}

/-- The request of `TASE2ClientConnection::sendCommand`. -/
def commandRequest (domain name : String) (value : Int) (select : Bool) : ControlRequest F :=
  if select then .selectDevice (cString domain) (cString name)
  else .sendCommand (cString domain) (cString name) value

/-- The request of `TASE2ClientConnection::sendSetPointReal`. -/
def setPointRealRequest (domain name : String) (value : F) (select : Bool) : ControlRequest F :=
  if select then .selectDevice (cString domain) (cString name)
  else .sendRealSetPoint (cString domain) (cString name) value

/-- The request of `TASE2ClientConnection::sendSetPointDiscrete`. -/
def setPointDiscreteRequest (domain name : String) (value : Int) (select : Bool) :
    ControlRequest F :=
  if select then .selectDevice (cString domain) (cString name)
  else .sendDiscreteSetPoint (cString domain) (cString name) value

/-- The point that a request is for. -/
def ControlRequest.point : ControlRequest F → String × String
  | .selectDevice domain name => (domain, name)
  | .sendCommand domain name _ => (domain, name)
  | .sendRealSetPoint domain name _ => (domain, name)
  | .sendDiscreteSetPoint domain name _ => (domain, name)

/-- The value that a request hands on; a selection hands on none. -/
def ControlRequest.value : ControlRequest F → Option (DpValue F)
  | .selectDevice _ _ => none
  | .sendCommand _ _ value => some (.integer value)
  | .sendRealSetPoint _ _ value => some (.double value)
  | .sendDiscreteSetPoint _ _ value => some (.integer value)

end

section

variable {PV F : Type}

/-- The request of an event. -/
def ClientEvent.request : ClientEvent PV F → Option (ControlRequest F)
  | .control request _ => some request
  | _ => none

/-- The requests issued by a list of events. -/
def requests (events : List (ClientEvent PV F)) : List (ControlRequest F) :=
  events.filterMap ClientEvent.request

/-! ### Sending -/

namespace TASE2Client

variable (lib : PointLib PV F) (client : TASE2Client PV F) (now : Nat)

/-- What the three functions share: the lookup by the joined ref, the request over the active
connection, and the acknowledgement with a new point value. -/
def sendControl (domain name : String) (request : ControlRequest F) (created : PV) :
    Except ClientFault (Bool × List (ClientEvent PV F)) :=
  match client.config.getExchangeDefinitionByRef (domain ++ ":" ++ name), client.active with
  | none, _ => .ok (false, [])
  | some _, none => .ok (false, [])
  | some _, some connection =>
    if connection.control request then do
      let handled ← client.handleValue lib (domain ++ ":" ++ name) (some created) now true
      return (true, [.control request true, .createPointValue created] ++ handled)
    else
      .ok (false, [.control request false])

/-- `sendCommand`, `src/tase2_client.cpp:287–317`. -/
def sendCommand (domain name : String) (value : Int) (select : Bool) :
    Except ClientFault (Bool × List (ClientEvent PV F)) :=
  client.sendControl lib now domain name (commandRequest domain name value select)
    (lib.createDiscrete value)

/-- `sendSetPointReal`, `src/tase2_client.cpp:318–347`. -/
def sendSetPointReal (domain name : String) (value : F) (select : Bool) :
    Except ClientFault (Bool × List (ClientEvent PV F)) :=
  client.sendControl lib now domain name (setPointRealRequest domain name value select)
    (lib.createReal value)

/-- `sendSetPointDiscrete`, `src/tase2_client.cpp:348–378`. -/
def sendSetPointDiscrete (domain name : String) (value : Int) (select : Bool) :
    Except ClientFault (Bool × List (ClientEvent PV F)) :=
  client.sendControl lib now domain name (setPointDiscreteRequest domain name value select)
    (lib.createDiscrete value)

end TASE2Client

/-! ### What a call does -/

section

variable (lib : PointLib PV F) {client : TASE2Client PV F}

/-- A value for an exchanged ref is ingested as one data object, under the label of the
definition, with its type and with the two parts of its ref. -/
theorem handleValue_eq {ref : String} {d : DataExchangeDefinition}
    (hd : client.config.getExchangeDefinitionByRef ref = some d) (value : PV)
    (timestamp : Nat) (ack : Bool) :
    ∃ p, client.handleValue lib ref (some value) timestamp ack =
        .ok (client.ingest d.label [p] ++ if ack then [.destroyPointValue value] else []) ∧
      p.text "do_type" = some (dpTypeName d.type) ∧
      p.text "do_domain" = some (splitExchangeRef ref).1 ∧
      p.text "do_name" = some (splitExchangeRef ref).2 ∧
      p.elem "do_value" = (valueElems lib value d.type).head?.map Prod.snd := by
  have href : d.ref = ref := TASE2ClientConfig.ref_of_getExchangeDefinitionByRef hd
  obtain ⟨p, hp, htype, hdomain, hname, hvalue⟩ := createDataObject_eq_ok lib value
    (splitExchangeRef ref).1 (splitExchangeRef ref).2 timestamp d.known
  refine ⟨p, ?_, htype, hdomain, hname, hvalue⟩
  have hsend : client.sendData [p] [d.label] = .ok (client.ingest d.label [p]) := by
    rw [sendData_eq client (by simp)]
    simp
  simp only [TASE2Client.handleValue, TASE2Client.handleMonitoringData,
    TASE2Client.pointValue, hd, href, hp, ok_bind, Option.toList_some, hsend, pure_eq_ok]
  cases ack <;> rfl

/-- A call gets through to a request when its point is exchanged and a connection is active. -/
def TASE2Client.GetsThrough (client : TASE2Client PV F) (domain name : String) : Prop :=
  (client.config.getExchangeDefinitionByRef (domain ++ ":" ++ name)).isSome ∧
    client.active.isSome

/-- A call that does not get through returns false and does nothing. -/
theorem sendControl_of_not_getsThrough (now : Nat) {domain name : String}
    (request : ControlRequest F) (created : PV) (h : ¬ client.GetsThrough domain name) :
    client.sendControl lib now domain name request created = .ok (false, []) := by
  unfold TASE2Client.sendControl
  split
  · rfl
  · rfl
  · next hd ha => exact absurd ⟨by rw [hd]; rfl, by rw [ha]; rfl⟩ h

/-- A call that gets through returns, and has issued its request. -/
theorem sendControl_of_getsThrough (now : Nat) {domain name : String}
    (request : ControlRequest F) (created : PV) (h : client.GetsThrough domain name) :
    ∃ connection events, client.active = some connection ∧
      client.sendControl lib now domain name request created =
        .ok (connection.control request, events) ∧ requests events = [request] := by
  obtain ⟨d, hd⟩ := Option.isSome_iff_exists.mp h.1
  obtain ⟨connection, ha⟩ := Option.isSome_iff_exists.mp h.2
  cases hc : connection.control request with
  | false =>
    refine ⟨connection, [.control request false], ha, ?_, rfl⟩
    simp only [TASE2Client.sendControl, hd, ha, hc, Bool.false_eq_true, if_false]
  | true =>
    obtain ⟨p, hp, -⟩ := handleValue_eq lib hd created now true
    refine ⟨connection, [.control request true, .createPointValue created] ++
      (client.ingest d.label [p] ++ [.destroyPointValue created]), ha, ?_, ?_⟩
    · simp only [TASE2Client.sendControl, hd, ha, hc, if_true, hp, ok_bind, pure_eq_ok]
    · unfold TASE2Client.ingest
      split <;> rfl

section

variable (hregistered : client.registered = true)

include hregistered

/-- Without a definition or an active connection nothing is sent; a refused request is all
that happens; an accepted one is acknowledged by one reading. -/
theorem sendControl_eq (now : Nat) (domain name : String) (request : ControlRequest F)
    (created : PV) :
    (client.sendControl lib now domain name request created = .ok (false, []) ∧
      ¬ ∃ d connection,
        client.config.getExchangeDefinitionByRef (domain ++ ":" ++ name) = some d ∧
          client.active = some connection ∧ connection.control request = true) ∨
    (∃ d, client.config.getExchangeDefinitionByRef (domain ++ ":" ++ name) = some d ∧
      client.sendControl lib now domain name request created =
        .ok (false, [.control request false]) ∧
      ¬ ∃ connection, client.active = some connection ∧ connection.control request = true) ∨
    (∃ d p, client.config.getExchangeDefinitionByRef (domain ++ ":" ++ name) = some d ∧
      (∃ connection, client.active = some connection ∧ connection.control request = true) ∧
      client.sendControl lib now domain name request created = .ok (true,
        [.control request true, .createPointValue created, .ingest ⟨d.label, [p]⟩,
          .destroyPointValue created]) ∧
      p.text "do_type" = some (dpTypeName d.type) ∧
      p.text "do_domain" = some (splitExchangeRef (domain ++ ":" ++ name)).1 ∧
      p.text "do_name" = some (splitExchangeRef (domain ++ ":" ++ name)).2 ∧
      p.elem "do_value" = (valueElems lib created d.type).head?.map Prod.snd) := by
  cases hd : client.config.getExchangeDefinitionByRef (domain ++ ":" ++ name) with
  | none => exact .inl ⟨by simp only [TASE2Client.sendControl, hd], by simp⟩
  | some d =>
    cases ha : client.active with
    | none => exact .inl ⟨by simp only [TASE2Client.sendControl, hd, ha], by simp⟩
    | some connection =>
      cases hc : connection.control request with
      | false =>
        refine .inr (.inl ⟨d, rfl, ?_, by simp [hc]⟩)
        simp only [TASE2Client.sendControl, hd, ha, hc, Bool.false_eq_true, if_false]
      | true =>
        obtain ⟨p, hp, hobject⟩ := handleValue_eq lib hd created now true
        refine .inr (.inr ⟨d, p, rfl, ⟨connection, rfl, hc⟩, ?_, hobject⟩)
        simp only [TASE2Client.sendControl, hd, ha, hc, if_true, hp, TASE2Client.ingest,
          hregistered, ok_bind, pure_eq_ok]
        rfl

end

end

end

end Tase2South.Client
