import Tase2South.Client.Commands

/-!
# Operations

`TASE2::operation` and the three operations behind it, `src/tase2.cpp:87–250`: a call names
its type, domain, point and value in an array of parameters that are taken by position.
-/

namespace Tase2South.Plugin

open Tase2South.Base Tase2South.Config Tase2South.Client

/-- `PLUGIN_PARAMETER`. -/
structure PluginParameter where
  name : String
  value : String
  deriving DecidableEq

/-- `params[index]->value`. -/
def parameter (params : List PluginParameter) (index : Nat) : Except ClientFault String :=
  match params[index]? with
  | some p => .ok p.value
  | none => .error .absentParameter

/-- The type without its quotes, `src/tase2.cpp:223–228`: behind a leading quote the last byte
is dropped, which leaves no text when the last character has more than one. -/
def unquoted (type : String) : Option String :=
  match type.toList with
  | '"' :: cs =>
    if cs.getLast?.any fun c ↦ c.utf8Size ≠ 1 then none else some (String.ofList cs.dropLast)
  | _ => some type

/-- The type of an operation, `src/tase2.cpp:223–230`. -/
def operationType (type : String) : DPTYPE := (unquoted type).elim .unknown getDpTypeFromString

/-- The parameters that an operation reads. -/
structure ControlCall where
  domain : String
  name : String
  value : String
  select : Bool
  time : Int
  deriving DecidableEq

/-- `src/tase2.cpp:103–120`, with `DOMAIN` at 2, `NAME` at 3, `VALUE` at 4, `SELECT` at 5 and
`TS` at 6. -/
def controlCall (params : List PluginParameter) : Except ClientFault ControlCall := do
  let domain ← parameter params 2
  let name ← parameter params 3
  let value ← parameter params 4
  let select ← parameter params 5
  let ts ← parameter params 6
  match stol (cString ts).toList with
  | .ok time =>
    return { domain, name, value, select := atoi (cString select).toList != 0, time }
  | .error error => throw (.conversion error)

section

variable {PV F : Type}

/-- What the three operations share: at least seven parameters are read and sent. -/
def controlOperation (send : ControlCall → Except ClientFault (Bool × List (ClientEvent PV F)))
    (count : Int) (params : List PluginParameter) :
    Except ClientFault (Bool × List (ClientEvent PV F)) := do
  if 6 < count then
    send (← controlCall params)
  else
    return (false, [])

/-- The `int` of a value parameter. -/
def ControlCall.intValue (call : ControlCall) : Int := atoi (cString call.value).toList

variable (lib : PointLib PV F) (atof : String → F) (now : Nat)

/-- `m_CommandOperation`, `src/tase2.cpp:98–134`. -/
def commandOperation (client : TASE2Client PV F) (count : Int) (params : List PluginParameter) :
    Except ClientFault (Bool × List (ClientEvent PV F)) :=
  controlOperation (fun call ↦
    client.sendCommand lib now call.domain call.name call.intValue call.select) count params

/-- `m_SetPointRealOperation`, `src/tase2.cpp:135–171`. -/
def setPointRealOperation (client : TASE2Client PV F) (count : Int)
    (params : List PluginParameter) : Except ClientFault (Bool × List (ClientEvent PV F)) :=
  controlOperation (fun call ↦
    client.sendSetPointReal lib now call.domain call.name (atof (cString call.value))
      call.select) count params

/-- `m_SetPointDiscreteOperation`, `src/tase2.cpp:172–209`. -/
def setPointDiscreteOperation (client : TASE2Client PV F) (count : Int)
    (params : List PluginParameter) : Except ClientFault (Bool × List (ClientEvent PV F)) :=
  controlOperation (fun call ↦
    client.sendSetPointDiscrete lib now call.domain call.name call.intValue call.select)
    count params

/-- `TASE2::operation`, `src/tase2.cpp:211–250`, with the client that is running. -/
def operation (client : Option (TASE2Client PV F)) (operation : String) (count : Int)
    (params : List PluginParameter) : Except ClientFault (Bool × List (ClientEvent PV F)) :=
  match client with
  | none => .ok (false, [])
  | some client =>
    if operation = "TASE2Command" then do
      let type ← parameter params 0
      match operationType type with
      | .command => commandOperation lib now client count params
      | .setPointReal => setPointRealOperation lib atof now client count params
      | .setPointDiscrete => setPointDiscreteOperation lib now client count params
      | _ => return (false, [])
    else
      .ok (false, [])

/-! ### What a control operation sends -/

/-- The three types that name a control operation. -/
def isControl (kind : DPTYPE) : Prop :=
  kind = .command ∨ kind = .setPointReal ∨ kind = .setPointDiscrete

/-- The request of an operation of that type. -/
def controlRequest (kind : DPTYPE) (call : ControlCall) : ControlRequest F :=
  match kind with
  | .setPointReal =>
    setPointRealRequest call.domain call.name (atof (cString call.value)) call.select
  | .setPointDiscrete =>
    setPointDiscreteRequest call.domain call.name call.intValue call.select
  | _ => commandRequest call.domain call.name call.intValue call.select

/-- The point value that a control operation creates for its acknowledgement. -/
def createdValue (kind : DPTYPE) (call : ControlCall) : PV :=
  match kind with
  | .setPointReal => lib.createReal (atof (cString call.value))
  | _ => lib.createDiscrete call.intValue

/-- The value that a control operation hands to the library. -/
def handedValue (kind : DPTYPE) (call : ControlCall) : DpValue F :=
  match kind with
  | .setPointReal => .double (atof (cString call.value))
  | _ => .integer call.intValue

/-- With enough parameters, a control operation reads them and sends. -/
theorem operation_eq (client : TASE2Client PV F) (count : Int) {params : List PluginParameter}
    {type : String} (htype : parameter params 0 = .ok type)
    (hkind : isControl (operationType type)) :
    operation lib atof now (some client) "TASE2Command" count params =
      if 6 < count then do
        let call ← controlCall params
        client.sendControl lib now call.domain call.name
          (controlRequest atof (operationType type) call)
          (createdValue lib atof (operationType type) call)
      else .ok (false, []) := by
  simp only [operation, if_true, htype, ok_bind]
  obtain h | h | h := hkind
  · rw [h]
    rfl
  · rw [h]
    rfl
  · rw [h]
    rfl

/-! ### Faithful acknowledgement -/

/-- The getters return what a point value was created with. -/
structure GetterLaws (lib : PointLib PV F) : Prop where
  discrete : ∀ n, -2 ^ 31 ≤ n → n < 2 ^ 31 → lib.getValueDiscrete (lib.createDiscrete n) = n
  real : ∀ x, lib.getValueReal (lib.createReal x) = x

/-- The text of a parameter, empty when it is missing. -/
def givenText (params : List PluginParameter) (index : Nat) : String :=
  ((params[index]?).map PluginParameter.value).getD ""

/-- What the parameters give. -/
def givenCall (params : List PluginParameter) : ControlCall where
  domain := givenText params 2
  name := givenText params 3
  value := givenText params 4
  select := atoi (cString (givenText params 5)).toList != 0
  time := (stol (cString (givenText params 6)).toList).toOption.getD 0

/-- At most one request is issued, for the given point and with the given value; a call that
returns false ingests nothing, and one that returns true ingests one reading, under the label
of the definition and with what the call gave. -/
structure AckFaithful (client : Option (TASE2Client PV F)) (type : String) (call : ControlCall)
    (handed : DpValue F) (result : Bool) (events : List (ClientEvent PV F)) : Prop where
  single : (requests events).length ≤ 1
  addressed : ∀ q ∈ requests events, q.point = (call.domain, call.name) ∧
    q.value = if call.select then none else some handed
  refused : result = false → readings events = []
  acknowledged : result = true → ∃ c d p, client = some c ∧
    c.config.getExchangeDefinitionByRef (call.domain ++ ":" ++ call.name) = some d ∧
      readings events = [⟨d.label, [p]⟩] ∧ p.text "do_type" = unquoted type ∧
      p.text "do_domain" = some call.domain ∧ p.text "do_name" = some call.name ∧
      p.elem "do_value" = some handed

/-- Whenever the call gets through to a request that the library accepts, the definition has
the type of the command and the domain has no colon. -/
def Matching (client : Option (TASE2Client PV F)) (count : Int) (params : List PluginParameter)
    (kind : DPTYPE) : Prop :=
  ∀ c d connection, client = some c → 6 < count → Completes (controlCall params) →
    c.config.getExchangeDefinitionByRef
        ((givenCall params).domain ++ ":" ++ (givenCall params).name) = some d →
    c.active = some connection →
    connection.control (controlRequest atof kind (givenCall params)) = true →
    d.type = kind ∧ ':' ∉ (givenCall params).domain.toList

/-- A call that does nothing is faithful. -/
theorem ackFaithful_nil (client : Option (TASE2Client PV F)) (type : String)
    (call : ControlCall) (handed : DpValue F) : AckFaithful client type call handed false [] where
  single := by simp [requests]
  addressed := by simp [requests]
  refused _ := rfl
  acknowledged h := by cases h

/-- Parameters that can be read give what is read. -/
theorem givenCall_eq {params : List PluginParameter} {call : ControlCall}
    (h : controlCall params = .ok call) : givenCall params = call := by
  have htext : ∀ {index : Nat} {s : String}, parameter params index = .ok s →
      givenText params index = s := by
    intro index s hs
    unfold parameter at hs
    split at hs
    · next p hp =>
      rw [givenText, hp]
      exact Except.ok.inj hs
    · cases hs
  simp only [controlCall, bind_eq_ok_iff] at h
  obtain ⟨domain, hdomain, name, hname, value, hvalue, select, hselect, ts, hts, h⟩ := h
  split at h
  · next time htime =>
    rw [← Except.ok.inj h, givenCall, htext hdomain, htext hname, htext hvalue, htext hselect,
      htext hts, htime]
    rfl
  · cases h

/-- A request is for the given point when its texts are C strings, and hands on the value. -/
theorem point_controlRequest (atof : String → F) (kind : DPTYPE) {call : ControlCall}
    (hdomain : cString call.domain = call.domain) (hname : cString call.name = call.name) :
    (controlRequest atof kind call).point = (call.domain, call.name) ∧
      (controlRequest atof kind call).value =
        if call.select then none else some (handedValue atof kind call) := by
  unfold controlRequest handedValue setPointRealRequest setPointDiscreteRequest commandRequest
  rw [hdomain, hname]
  cases call.select <;> cases kind <;> exact ⟨rfl, rfl⟩

/-- With the type of the command, the getter returns the value that was handed over. -/
theorem valueElems_createdValue {lib : PointLib PV F} (laws : GetterLaws lib)
    (atof : String → F) {kind : DPTYPE} (hkind : isControl kind) (call : ControlCall) :
    valueElems lib (createdValue lib atof kind call) kind =
      [("do_value", handedValue atof kind call)] := by
  have hint : lib.getValueDiscrete (lib.createDiscrete call.intValue) = call.intValue :=
    laws.discrete _ (atoi_range _).1 (atoi_range _).2
  obtain rfl | rfl | rfl := hkind
  · simp [valueElems, createdValue, handedValue, hint]
  · simp [valueElems, createdValue, handedValue, laws.real]
  · simp [valueElems, createdValue, handedValue, hint]

/-- An acknowledged call is faithful exactly when the definition has the type of the command
and the domain has no colon. -/
theorem ackFaithful_acknowledged_iff {lib : PointLib PV F} (laws : GetterLaws lib)
    (atof : String → F) {client : TASE2Client PV F} {kind : DPTYPE} (hkind : isControl kind)
    {type : String} (htype : unquoted type = some (dpTypeName kind)) {call : ControlCall}
    {d : DataExchangeDefinition} {p : Datapoint F} {events : List (ClientEvent PV F)}
    (hd : client.config.getExchangeDefinitionByRef (call.domain ++ ":" ++ call.name) = some d)
    (hrequests : requests events = [controlRequest atof kind call])
    (hreadings : readings events = [⟨d.label, [p]⟩])
    (hptype : p.text "do_type" = some (dpTypeName d.type))
    (hpdomain : p.text "do_domain" =
      some (splitExchangeRef (call.domain ++ ":" ++ call.name)).1)
    (hpname : p.text "do_name" = some (splitExchangeRef (call.domain ++ ":" ++ call.name)).2)
    (hpvalue : p.elem "do_value" =
      (valueElems lib (createdValue lib atof kind call) d.type).head?.map Prod.snd) :
    AckFaithful (some client) type call (handedValue atof kind call) true events ↔
      d.type = kind ∧ ':' ∉ call.domain.toList := by
  constructor
  · intro h
    obtain ⟨c, d', p', -, -, hr, ht, hdomain, -⟩ := h.acknowledged rfl
    rw [hreadings] at hr
    simp only [List.cons.injEq, Reading.mk.injEq, and_true] at hr
    rw [← hr.2] at ht hdomain
    constructor
    · rw [hptype, htype, Option.some.injEq] at ht
      have hknown : kind ≠ .unknown := by
        obtain rfl | rfl | rfl := hkind <;> decide
      exact dpTypeName_inj d.known hknown ht
    · rw [hpdomain, Option.some.injEq] at hdomain
      rw [← hdomain]
      exact sep_notMem_splitFirst_fst (by simp)
  · rintro ⟨hdkind, hcolon⟩
    obtain ⟨hdomain, hname⟩ := TASE2ClientConfig.cString_of_getExchangeDefinitionByRef hd
    have hsplit : splitExchangeRef (call.domain ++ ":" ++ call.name) =
        (call.domain, call.name) := (splitFirst_join_iff ':' _ _).mpr hcolon
    rw [hsplit] at hpdomain hpname
    rw [hdkind, ← htype] at hptype
    rw [hdkind, valueElems_createdValue laws atof hkind] at hpvalue
    exact
      { single := by simp [hrequests]
        addressed := by
          simpa [hrequests] using point_controlRequest atof kind hdomain hname
        refused := fun h ↦ by cases h
        acknowledged := fun _ ↦
          ⟨client, d, p, rfl, hd, hreadings, hptype, hpdomain, hpname, hpvalue⟩ }

/-- Sending for a control call returns, and is faithful exactly when, once the library accepts
the request, the definition has the type of the command and the domain has no colon. -/
theorem ackFaithful_sendControl_iff {lib : PointLib PV F} (laws : GetterLaws lib)
    (atof : String → F) (now : Nat) {client : TASE2Client PV F}
    (hregistered : client.registered = true) {kind : DPTYPE} (hkind : isControl kind)
    {type : String} (htype : unquoted type = some (dpTypeName kind)) (call : ControlCall) :
    ∃ result events, client.sendControl lib now call.domain call.name
        (controlRequest atof kind call) (createdValue lib atof kind call) =
          .ok (result, events) ∧
      (AckFaithful (some client) type call (handedValue atof kind call) result events ↔
        ∀ d connection,
          client.config.getExchangeDefinitionByRef (call.domain ++ ":" ++ call.name) = some d →
          client.active = some connection →
          connection.control (controlRequest atof kind call) = true →
          d.type = kind ∧ ':' ∉ call.domain.toList) := by
  obtain ⟨hsend, hnone⟩ | ⟨d, hd, hsend, hrefused⟩ |
      ⟨d, p, hd, ⟨connection, hactive, haccepted⟩, hsend, htype', hdomain, hname, hvalue⟩ :=
    sendControl_eq lib hregistered now call.domain call.name (controlRequest atof kind call)
      (createdValue lib atof kind call)
  · -- nothing is sent
    refine ⟨false, [], hsend, iff_of_true (ackFaithful_nil _ _ _ _) ?_⟩
    intro d connection hd hactive haccepted
    exact absurd ⟨d, connection, hd, hactive, haccepted⟩ hnone
  · -- the library refuses
    obtain ⟨hdomain, hname⟩ := TASE2ClientConfig.cString_of_getExchangeDefinitionByRef hd
    refine ⟨false, _, hsend, iff_of_true ⟨?_, ?_, fun _ ↦ rfl, fun h ↦ by cases h⟩ ?_⟩
    · simp [requests, ClientEvent.request]
    · simpa [requests, ClientEvent.request] using
        point_controlRequest atof kind hdomain hname
    · intro _ connection _ hactive haccepted
      exact absurd ⟨connection, hactive, haccepted⟩ hrefused
  · -- the library accepts
    refine ⟨true, _, hsend, ?_⟩
    rw [ackFaithful_acknowledged_iff laws atof hkind htype hd rfl rfl htype' hdomain hname hvalue]
    constructor
    · intro h d' _ hd' _ _
      rw [hd, Option.some.injEq] at hd'
      exact hd' ▸ h
    · intro h
      exact h d connection hd hactive haccepted

/-- The type of a control operation is written as its name. -/
theorem unquoted_of_isControl {type : String} (hkind : isControl (operationType type)) :
    unquoted type = some (dpTypeName (operationType type)) := by
  have hknown : operationType type ≠ .unknown := by
    obtain h | h | h := hkind <;> rw [h] <;> decide
  unfold operationType at hknown ⊢
  cases hu : unquoted type with
  | none => exact absurd (by rw [hu]; rfl) hknown
  | some name =>
    rw [hu] at hknown
    exact congrArg some ((getDpTypeFromString_eq_iff hknown name).mp rfl)

/-- Every control operation that returns is faithful exactly when its call matches. -/
theorem ackFaithful_operation_iff {lib : PointLib PV F} (laws : GetterLaws lib)
    (atof : String → F) (now : Nat) {client : Option (TASE2Client PV F)}
    (hregistered : ∀ c, client = some c → c.registered = true) (count : Int)
    {params : List PluginParameter} {type : String} (htype : parameter params 0 = .ok type)
    (hkind : isControl (operationType type)) :
    (∀ result events,
      operation lib atof now client "TASE2Command" count params = .ok (result, events) →
        AckFaithful client type (givenCall params)
          (handedValue atof (operationType type) (givenCall params)) result events) ↔
      Matching atof client count params (operationType type) := by
  cases client with
  | none =>
    refine iff_of_true (fun result events h ↦ ?_) fun c _ _ hc ↦ by cases hc
    cases h
    exact ackFaithful_nil _ _ _ _
  | some c =>
    rw [operation_eq lib atof now c count htype hkind, Matching]
    by_cases hcount : 6 < count
    · rw [if_pos hcount]
      cases hcall : controlCall params with
      | error e => simp
      | ok call =>
        rw [givenCall_eq hcall]
        obtain ⟨result, events, hsend, hiff⟩ := ackFaithful_sendControl_iff laws atof now
          (hregistered c rfl) hkind (unquoted_of_isControl hkind) call
        rw [ok_bind, hsend]
        constructor
        · intro h c' d connection hc _ _ hd hactive haccepted
          cases hc
          exact hiff.mp (h result events rfl) d connection hd hactive haccepted
        · intro h result' events' hrun
          cases hrun
          exact hiff.mpr fun d connection hd hactive haccepted ↦
            h c d connection rfl hcount (completes_ok call) hd hactive haccepted
    · rw [if_neg hcount]
      refine iff_of_true (fun result events h ↦ ?_) fun _ _ _ _ h ↦ absurd h hcount
      cases h
      exact ackFaithful_nil _ _ _ _

end

/-! ### A command for a point of another type -/

/-- A client with a real set point `icc1:point1`, whose connection accepts every request. -/
def setPointClient : TASE2Client (Int ⊕ Int) Int where
  config := TASE2ClientConfig.fresh.addDefinition
    { statusPoint with type := .setPointReal, label := "SP1", known := by decide }
  registered := true
  active := some ⟨fun _ _ ↦ none, fun _ ↦ true⟩

/-- The parameters of a discrete set point for that point. -/
def setPointParams : List PluginParameter :=
  [⟨"co_type", "SetPointDiscrete"⟩, ⟨"co_scope", "domain"⟩, ⟨"co_domain", "icc1"⟩,
    ⟨"co_name", "point1"⟩, ⟨"co_value", "5"⟩, ⟨"co_se", "0"⟩, ⟨"co_ts", "0"⟩]

/-- Tagged point values are read back. -/
theorem getterLaws_tagged : GetterLaws .tagged where
  discrete _ _ _ := rfl
  real _ := rfl

/-- The equivalence holds of a discrete set point for the real one. -/
theorem ackFaithful_operation_iff_setPoint :
    (∀ result events, operation .tagged (fun _ ↦ 0) 0 (some setPointClient) "TASE2Command" 7
        setPointParams = .ok (result, events) →
      AckFaithful (some setPointClient) "SetPointDiscrete" (givenCall setPointParams)
        (handedValue (fun _ ↦ 0) (operationType "SetPointDiscrete") (givenCall setPointParams))
        result events) ↔
      Matching (fun _ ↦ 0) (some setPointClient) 7 setPointParams
        (operationType "SetPointDiscrete") :=
  ackFaithful_operation_iff getterLaws_tagged (fun _ ↦ 0) 0 (fun _ h ↦ by cases h; rfl) 7 rfl
    (.inr (.inr (by decide)))

/-- The reading says that a real set point was sent, with a value that was never handed over. -/
theorem not_ackFaithful_setPoint :
    ∃ result events, operation .tagged (fun _ ↦ 0) 0 (some setPointClient) "TASE2Command" 7
        setPointParams = .ok (result, events) ∧
      ¬ AckFaithful (some setPointClient) "SetPointDiscrete" (givenCall setPointParams)
        (handedValue (fun _ ↦ 0) (operationType "SetPointDiscrete") (givenCall setPointParams))
        result events := by
  have hkind : isControl (operationType "SetPointDiscrete") := .inr (.inr (by decide))
  have hcall : controlCall setPointParams = .ok (givenCall setPointParams) := by decide
  obtain ⟨result, events, hsend, hiff⟩ := ackFaithful_sendControl_iff getterLaws_tagged
    (fun _ ↦ 0) 0 (rfl : setPointClient.registered = true) hkind (unquoted_of_isControl hkind)
    (givenCall setPointParams)
  refine ⟨result, events, ?_, fun h ↦ ?_⟩
  · rw [operation_eq .tagged (fun _ ↦ 0) 0 setPointClient 7 rfl hkind, if_pos (by decide), hcall,
      ok_bind]
    exact hsend
  · have hmatch := hiff.mp h
      ⟨"icc1:point1", .setPointReal, "SP1", by decide, by decide, by decide⟩ _ (by decide) rfl rfl
    exact absurd hmatch.1 (by decide)

end Tase2South.Plugin
