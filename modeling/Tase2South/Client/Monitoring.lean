import Tase2South.Base.Pairing
import Tase2South.Client.DataObject
import Tase2South.Config.Exchange

/-!
# Monitoring

`handleAllValues`, `handleValue`, `m_handleMonitoringData` and `sendData`,
`src/tase2_client.cpp:380–494`. A poll collects the labels of all polled definitions and the
data objects of those that could be read, and matches the two by position.
-/

namespace Tase2South.Client

open Tase2South.Base Tase2South.Config

/-- A `Reading` of Fledge. -/
structure Reading (F : Type) where
  assetName : String
  points : List (Datapoint F)
  deriving DecidableEq

/-- A request that controls the server. -/
inductive ControlRequest (F : Type) where
  | selectDevice (domain name : String)
  | sendCommand (domain name : String) (value : Int)
  | sendRealSetPoint (domain name : String) (value : F)
  | sendDiscreteSetPoint (domain name : String) (value : Int)
  deriving DecidableEq

/-- What the active connection's client at the library answers. Within one poll no point is
read twice, so the answers to reads go by the point. -/
structure ActiveConnection (PV F : Type) where
  readPointValue : String → String → Option PV
  control : ControlRequest F → Bool

/-- The members of `TASE2Client` that its calls use: the configuration, whether
`TASE2::m_ingest` is set, and `m_active_connection`. -/
structure TASE2Client (PV F : Type) where
  config : TASE2ClientConfig
  registered : Bool
  active : Option (ActiveConnection PV F)

/-- What a call of the client does to the outside. -/
inductive ClientEvent (PV F : Type) where
  | readPointValue (domain name : String) (result : Option PV)
  | createPointValue (value : PV)
  | destroyPointValue (value : PV)
  | control (request : ControlRequest F) (accepted : Bool)
  | ingest (reading : Reading F)
  deriving DecidableEq

section

variable {PV F : Type}

/-- The reading of an event. -/
def ClientEvent.reading : ClientEvent PV F → Option (Reading F)
  | .ingest reading => some reading
  | _ => none

/-- The readings ingested by a list of events. -/
def readings (events : List (ClientEvent PV F)) : List (Reading F) :=
  events.filterMap ClientEvent.reading

namespace TASE2Client

variable (lib : PointLib PV F) (client : TASE2Client PV F)

/-- `TASE2::ingest`, `src/tase2.cpp:70–78`. -/
def ingest (assetName : String) (points : List (Datapoint F)) : List (ClientEvent PV F) :=
  if client.registered then [.ingest ⟨assetName, points⟩] else []

/-- `sendData`, `src/tase2_client.cpp:380–394`. -/
def sendData (datapoints : List (Datapoint F)) (labels : List String) :
    Except ClientFault (List (ClientEvent PV F)) :=
  List.flatten <$> datapoints.zipIdx.mapM fun p ↦
    match labels[p.2]? with
    | some label => .ok (client.ingest label [p.1])
    | none => .error .outOfRange

/-- The point value that `m_handleMonitoringData` goes on with,
`src/tase2_client.cpp:468–479`: the given one, or one that is read. -/
def pointValue (domainNamePair : String × String) (value : Option PV) :
    Except ClientFault (Option PV × List (ClientEvent PV F)) :=
  match value, client.active with
  | some value, _ => .ok (some value, [])
  | none, none => .error .absentConnection
  | none, some connection =>
    let domain := cString domainNamePair.1
    let name := cString domainNamePair.2
    let result := connection.readPointValue domain name
    .ok (result, [.readPointValue domain name result])

/-- `m_handleMonitoringData`, `src/tase2_client.cpp:447–494`, which does not use its label:
the data object it appends, if any. -/
def handleMonitoringData (ref : String) (type : DPTYPE) (value : Option PV) (timestamp : Nat) :
    Except ClientFault (Option (Datapoint F) × List (ClientEvent PV F)) :=
  match client.config.getExchangeDefinitionByRef ref with
  | none => .ok (none, [])
  | some _ => do
    let domainNamePair := splitExchangeRef ref
    let (pointvalue, events) ← client.pointValue domainNamePair value
    match pointvalue with
    | none => return (none, events)
    | some pointvalue =>
      let dp ← createDataObject lib pointvalue domainNamePair.1 domainNamePair.2 timestamp type
      return (some dp,
        events ++ if value.isNone then [.destroyPointValue pointvalue] else [])

/-- `handleValue`, `src/tase2_client.cpp:396–425`. -/
def handleValue (ref : String) (value : Option PV) (timestamp : Nat) (ack : Bool) :
    Except ClientFault (List (ClientEvent PV F)) :=
  match client.config.getExchangeDefinitionByRef ref with
  | none => .ok []
  | some definition => do
    let (dp, events) ←
      client.handleMonitoringData lib definition.ref definition.type value timestamp
    let sent ← client.sendData dp.toList [definition.label]
    return events ++ sent ++ if ack then value.toList.map .destroyPointValue else []

/-- The locals of `handleAllValues`, with the events so far. -/
structure Poll (PV F : Type) where
  labels : List String
  datapoints : List (Datapoint F)
  events : List (ClientEvent PV F)

/-- One pass of the loop of `handleAllValues`, `src/tase2_client.cpp:433–443`; the clock is
read once in every pass. -/
def pollDefinition (now : Nat → Nat) (poll : Poll PV F)
    (pair : String × DataExchangeDefinition) : Except ClientFault (Poll PV F) := do
  let definition := pair.2
  let (dp, events) ← client.handleMonitoringData lib definition.ref definition.type none
    (now poll.labels.length)
  return ⟨poll.labels ++ [definition.label], poll.datapoints ++ dp.toList,
    poll.events ++ events⟩

/-- `handleAllValues`, `src/tase2_client.cpp:427–445`, with the order in which the map is
visited. -/
def handleAllValues (now : Nat → Nat) (order : List (String × DataExchangeDefinition)) :
    Except ClientFault (List (ClientEvent PV F)) := do
  let poll ← order.foldlM (client.pollDefinition lib now) ⟨[], [], []⟩
  let sent ← client.sendData poll.datapoints poll.labels
  return poll.events ++ sent

end TASE2Client

/-! ### Sending -/

private theorem mapM_sendData (client : TASE2Client PV F) {labels : List String}
    (datapoints : List (Datapoint F)) (k : Nat)
    (hlen : k + datapoints.length ≤ labels.length) :
    (datapoints.zipIdx k).mapM (fun p ↦ match labels[p.2]? with
        | some label => Except.ok (client.ingest label [p.1])
        | none => .error ClientFault.outOfRange) =
      .ok ((datapoints.zip (labels.drop k)).map fun p ↦ client.ingest p.2 [p.1]) := by
  induction datapoints generalizing k with
  | nil => rfl
  | cons dp datapoints ih =>
    rw [List.length_cons] at hlen
    have hlt : k < labels.length := by omega
    rw [List.zipIdx_cons, List.mapM_cons, ih (k + 1) (by omega)]
    simp only [List.getElem?_eq_getElem hlt]
    rw [List.drop_eq_getElem_cons hlt, List.zip_cons_cons]
    rfl

/-- With a label for every data object, sending ingests one reading each. -/
theorem sendData_eq (client : TASE2Client PV F) {datapoints : List (Datapoint F)}
    {labels : List String} (hlen : datapoints.length ≤ labels.length) :
    client.sendData datapoints labels =
      .ok ((datapoints.zip labels).flatMap fun p ↦ client.ingest p.2 [p.1]) := by
  rw [TASE2Client.sendData, mapM_sendData client datapoints 0 (by omega), List.drop_zero,
    map_ok, ← List.flatMap_def]

/-- Ingesting labelled objects gives one reading each, and without a callback none. -/
theorem readings_flatMap_ingest (client : TASE2Client PV F)
    (ps : List (Datapoint F × String)) :
    readings (ps.flatMap fun p ↦ client.ingest p.2 [p.1]) =
      if client.registered then ps.map fun p ↦ ⟨p.2, [p.1]⟩ else [] := by
  cases h : client.registered with
  | true =>
    simp only [TASE2Client.ingest, h, if_true, readings, ← List.map_eq_flatMap,
      List.filterMap_map]
    exact congrFun List.filterMap_eq_map ps
  | false => simp [TASE2Client.ingest, h, readings]

/-! ### One poll -/

/-- The ref that a data object names by its domain and name. -/
def Datapoint.objectRef (p : Datapoint F) : Option String :=
  (p.text "do_domain").bind fun domain ↦
    (p.text "do_name").map fun name ↦ domain ++ ":" ++ name

/-- The ref that a reading of one data object names. -/
def Reading.objectRef (r : Reading F) : Option String :=
  match r.points with
  | [p] => p.objectRef
  | _ => none

/-- What reading the point of a definition returns. -/
def ActiveConnection.readOf (connection : ActiveConnection PV F)
    (d : DataExchangeDefinition) : Option PV :=
  connection.readPointValue (splitExchangeRef d.ref).1 (splitExchangeRef d.ref).2

/-- The polled definitions whose reads return a value, in the order of the reads. -/
def succeeded (connection : ActiveConnection PV F)
    (order : List (String × DataExchangeDefinition)) : List (String × DataExchangeDefinition) :=
  order.filter fun p ↦ (connection.readOf p.2).isSome

/-- A polled definition is found by its ref. -/
theorem isSome_definition_of_polled {config : TASE2ClientConfig}
    {order : List (String × DataExchangeDefinition)}
    (horder : config.polledDatapoints.map.IterationOrder order) :
    ∀ p ∈ order, (config.getExchangeDefinitionByRef p.2.ref).isSome := by
  intro p hp
  have hlookup := (horder.mem_iff p.1 p.2).mp hp
  rw [config.polledDatapoints.keyed p.1 p.2 hlookup]
  exact Finmap.lookup_isSome.mpr (config.polled_exchanged p.1
    (Finmap.mem_of_lookup_eq_some hlookup))

section

variable (lib : PointLib PV F) {client : TASE2Client PV F}
  {connection : ActiveConnection PV F} (hactive : client.active = some connection)

include hactive

/-- Polling an exchanged definition reads its point; the data object of a value that is
returned names the definition, and nothing is ingested yet. -/
theorem pollDefinition_eq (now : Nat → Nat) (poll : TASE2Client.Poll PV F)
    {pair : String × DataExchangeDefinition}
    (hdef : (client.config.getExchangeDefinitionByRef pair.2.ref).isSome) :
    ∃ dps events, client.pollDefinition lib now poll pair =
        .ok ⟨poll.labels ++ [pair.2.label], poll.datapoints ++ dps, poll.events ++ events⟩ ∧
      readings events = [] ∧
      List.Forall₂ (fun p dp ↦ dp.objectRef = some p.2.ref) (succeeded connection [pair]) dps := by
  obtain ⟨d, hd⟩ := Option.isSome_iff_exists.mp hdef
  have hread : client.pointValue (splitExchangeRef pair.2.ref) none =
      .ok (connection.readOf pair.2, [.readPointValue (splitExchangeRef pair.2.ref).1
        (splitExchangeRef pair.2.ref).2 (connection.readOf pair.2)]) := by
    simp only [TASE2Client.pointValue, hactive, pair.2.cString_domain, pair.2.cString_name,
      ActiveConnection.readOf]
  simp only [TASE2Client.pollDefinition, TASE2Client.handleMonitoringData, hd, hread, ok_bind]
  cases hv : connection.readOf pair.2 with
  | none => exact ⟨[], _, rfl, rfl, by simp [succeeded, hv]⟩
  | some value =>
    obtain ⟨dp, hdp, -, hdomain, hname, -⟩ := createDataObject_eq_ok lib value
      (splitExchangeRef pair.2.ref).1 (splitExchangeRef pair.2.ref).2 (now poll.labels.length)
      pair.2.known
    simp only [hdp, ok_bind]
    refine ⟨[dp], _, rfl, rfl, ?_⟩
    have hpair : succeeded connection [pair] = [pair] := by simp [succeeded, hv]
    rw [hpair]
    refine .cons ?_ .nil
    simp only [Datapoint.objectRef, hdomain, hname, Option.bind_some, Option.map_some,
      pair.2.join_splitExchangeRef]

/-- A whole loop collects all labels, and the data objects of the reads that succeed. -/
theorem foldlM_pollDefinition_eq (now : Nat → Nat)
    (order : List (String × DataExchangeDefinition))
    (hdefs : ∀ p ∈ order, (client.config.getExchangeDefinitionByRef p.2.ref).isSome)
    (poll : TASE2Client.Poll PV F) :
    ∃ dps events, order.foldlM (client.pollDefinition lib now) poll =
        .ok ⟨poll.labels ++ order.map (·.2.label), poll.datapoints ++ dps,
          poll.events ++ events⟩ ∧
      readings events = [] ∧
      List.Forall₂ (fun p dp ↦ dp.objectRef = some p.2.ref) (succeeded connection order) dps := by
  induction order generalizing poll with
  | nil => exact ⟨[], [], by simp [pure_eq_ok], rfl, .nil⟩
  | cons pair order ih =>
    rw [List.forall_mem_cons] at hdefs
    obtain ⟨dps, events, hstep, hnone, hdps⟩ :=
      pollDefinition_eq lib hactive now poll hdefs.1
    obtain ⟨dps', events', hrun, hnone', hdps'⟩ := ih hdefs.2
      ⟨poll.labels ++ [pair.2.label], poll.datapoints ++ dps, poll.events ++ events⟩
    refine ⟨dps ++ dps', events ++ events', ?_, ?_, ?_⟩
    · rw [List.foldlM_cons, hstep, ok_bind, hrun]
      simp
    · rw [readings, List.filterMap_append]
      exact List.append_eq_nil_iff.mpr ⟨hnone, hnone'⟩
    · rw [← List.singleton_append, succeeded, List.filter_append]
      exact List.rel_append hdps hdps'

/-- With a callback, a poll ingests one reading for each successful read; it names the
definition that was read, and has the label at the position of the read among the successful
ones. -/
theorem handleAllValues_eq (now : Nat → Nat) {order : List (String × DataExchangeDefinition)}
    (horder : client.config.polledDatapoints.map.IterationOrder order) :
    ∃ events, client.handleAllValues lib now order = .ok events ∧
      (client.registered = true →
        List.Forall₂ (fun q r ↦ r.objectRef = some q.1.2.ref ∧ r.assetName = q.2)
          ((succeeded connection order).zip (order.map (·.2.label))) (readings events)) ∧
      (client.registered = false → readings events = []) := by
  obtain ⟨dps, events, hrun, hnone, hdps⟩ :=
    foldlM_pollDefinition_eq lib hactive now order (isSome_definition_of_polled horder) ⟨[], [], []⟩
  have hlen : dps.length ≤ (order.map (·.2.label)).length := by
    rw [← hdps.length_eq, List.length_map]
    exact List.length_filter_le _ _
  refine ⟨_, by rw [TASE2Client.handleAllValues, hrun, ok_bind, List.nil_append, List.nil_append,
    sendData_eq client hlen]; rfl, ?_⟩
  rw [readings, List.filterMap_append, ← readings, ← readings, List.nil_append, hnone,
    readings_flatMap_ingest, List.nil_append]
  constructor
  · intro hregistered
    rw [hregistered, if_pos rfl, List.forall₂_map_right_iff]
    exact (forall₂_zip_right hdps _).imp fun _ _ h ↦ h
  · intro hregistered
    rw [hregistered]
    rfl

end

/-- Every successful read has one reading, a failed one has none, and every reading names a
polled definition and has its label. -/
def PollFaithful (connection : ActiveConnection PV F)
    (order : List (String × DataExchangeDefinition)) (rs : List (Reading F)) : Prop :=
  (∀ p ∈ order, (rs.map Reading.objectRef).count (some p.2.ref) =
    if (connection.readOf p.2).isSome then 1 else 0) ∧
  ∀ r ∈ rs, ∃ p ∈ order, r.objectRef = some p.2.ref ∧ r.assetName = p.2.label

/-- The labels of the definitions whose reads succeed are an initial part of the labels of
all polled definitions. -/
def LabelsAligned (connection : ActiveConnection PV F)
    (order : List (String × DataExchangeDefinition)) : Prop :=
  (succeeded connection order).map (·.2.label) <+: order.map (·.2.label)

instance (connection : ActiveConnection PV F) (order : List (String × DataExchangeDefinition)) :
    Decidable (LabelsAligned connection order) :=
  inferInstanceAs (Decidable (_ <+: _))

/-- The polled definitions have different refs. -/
theorem nodup_refs {m : DefinitionMap} {order : List (String × DataExchangeDefinition)}
    (horder : m.map.IterationOrder order) : (order.map (·.2.ref)).Nodup := by
  have hkeys : order.map (·.2.ref) = order.map Prod.fst :=
    List.map_congr_left fun p hp ↦ m.keyed p.1 p.2 ((horder.mem_iff p.1 p.2).mp hp)
  rw [hkeys]
  exact horder.nodup_keys

private theorem length_succeeded_le (connection : ActiveConnection PV F)
    (order : List (String × DataExchangeDefinition)) :
    (succeeded connection order).length ≤ (order.map (·.2.label)).length := by
  rw [List.length_map]
  exact List.length_filter_le _ _

/-- Readings that name the definitions of the successful reads name each once, and no
other. -/
theorem count_objectRef {connection : ActiveConnection PV F} {m : DefinitionMap}
    {order : List (String × DataExchangeDefinition)} (horder : m.map.IterationOrder order)
    {rs : List (Reading F)}
    (hpairs : List.Forall₂ (fun q r ↦ r.objectRef = some q.1.2.ref ∧ r.assetName = q.2)
      ((succeeded connection order).zip (order.map (·.2.label))) rs)
    {p : String × DataExchangeDefinition} (hp : p ∈ order) :
    (rs.map Reading.objectRef).count (some p.2.ref) =
      if (connection.readOf p.2).isSome then 1 else 0 := by
  have hnodup := nodup_refs horder
  have hrefs : rs.map Reading.objectRef =
      ((succeeded connection order).map (·.2.ref)).map some := by
    rw [map_eq_map_of_forall₂ (f := fun q ↦ some q.1.2.ref) hpairs fun _ _ h ↦ h.1]
    conv_rhs => rw [← List.map_fst_zip (length_succeeded_le connection order)]
    simp only [List.map_map, Function.comp_def]
  have hsub : ((succeeded connection order).map (·.2.ref)).Nodup :=
    hnodup.sublist (List.filter_sublist.map _)
  rw [hrefs, List.count_map_of_injective _ _ (Option.some_injective _), hsub.count]
  congr 1
  rw [eq_iff_iff, List.mem_map]
  constructor
  · rintro ⟨q, hq, href⟩
    have hq := List.mem_filter.mp hq
    rw [← List.inj_on_of_nodup_map hnodup hq.1 hp href]
    exact hq.2
  · intro hread
    exact ⟨p, List.mem_filter.mpr ⟨hp, hread⟩, rfl⟩

/-- The readings of a poll, one for each successful read with the labels taken in order, are
faithful exactly when the labels are aligned. -/
theorem pollFaithful_iff_of_forall₂ {connection : ActiveConnection PV F} {m : DefinitionMap}
    {order : List (String × DataExchangeDefinition)} (horder : m.map.IterationOrder order)
    {rs : List (Reading F)}
    (hpairs : List.Forall₂ (fun q r ↦ r.objectRef = some q.1.2.ref ∧ r.assetName = q.2)
      ((succeeded connection order).zip (order.map (·.2.label))) rs) :
    PollFaithful connection order rs ↔ LabelsAligned connection order := by
  rw [PollFaithful, and_iff_right fun p hp ↦ count_objectRef horder hpairs hp, LabelsAligned,
    ← forall_mem_zip_iff_map_prefix (length_succeeded_le connection order)]
  apply forall_mem_iff_of_forall₂ hpairs
  rintro q hq r ⟨href, hname⟩
  have hmem : q.1 ∈ order := List.mem_of_mem_filter (List.of_mem_zip hq).1
  constructor
  · rintro ⟨p, hp, hpref, hpname⟩
    rw [href, Option.some.injEq] at hpref
    rw [List.inj_on_of_nodup_map (nodup_refs horder) hmem hp hpref, ← hpname, hname]
  · intro hlabel
    exact ⟨q.1, hmem, href, hname.trans hlabel.symm⟩

/-- No readings at all are faithful exactly when no read succeeds. -/
theorem pollFaithful_nil_iff (connection : ActiveConnection PV F)
    (order : List (String × DataExchangeDefinition)) :
    PollFaithful connection order [] ↔ succeeded connection order = [] := by
  rw [PollFaithful, succeeded, List.filter_eq_nil_iff]
  constructor
  · rintro ⟨hcount, -⟩ p hp hread
    have hzero := hcount p hp
    rw [if_pos hread] at hzero
    cases hzero
  · intro hfail
    refine ⟨fun p hp ↦ ?_, by simp⟩
    rw [if_neg (hfail p hp)]
    rfl

/-- A poll over the map returns, and ingests faithfully exactly when the labels are aligned
and there is a callback for what was read. -/
theorem pollFaithful_handleAllValues_iff (lib : PointLib PV F) {client : TASE2Client PV F}
    {connection : ActiveConnection PV F} (hactive : client.active = some connection)
    (now : Nat → Nat) {order : List (String × DataExchangeDefinition)}
    (horder : client.config.polledDatapoints.map.IterationOrder order) :
    ∃ events, client.handleAllValues lib now order = .ok events ∧
      (PollFaithful connection order (readings events) ↔
        LabelsAligned connection order ∧
          (client.registered = true ∨ succeeded connection order = [])) := by
  obtain ⟨events, hevents, hpairs, hnone⟩ := handleAllValues_eq lib hactive now horder
  refine ⟨events, hevents, ?_⟩
  cases hregistered : client.registered with
  | true =>
    rw [pollFaithful_iff_of_forall₂ horder (hpairs hregistered)]
    simp
  | false =>
    rw [hnone hregistered, pollFaithful_nil_iff]
    constructor
    · intro hfail
      exact ⟨by simp [LabelsAligned, hfail], .inr hfail⟩
    · rintro ⟨-, h | hfail⟩
      · cases h
      · exact hfail

end

/-! ### A read that fails -/

/-- Two status points, `icc1:point1` and `icc1:point2`. -/
def twoPoints : List DataExchangeDefinition :=
  [statusPoint, { statusPoint with
    ref := "icc1:point2", label := "TS2", colon := by decide, text := by decide }]

/-- The two points in the order in which they are polled. -/
def twoPointsOrder : List (String × DataExchangeDefinition) := twoPoints.map fun d ↦ (d.ref, d)

/-- A connection over which only the second point can be read. -/
def secondPointOnly : ActiveConnection (Int ⊕ Int) Int where
  readPointValue _ name := if name = "point2" then some (.inl 1) else none
  control _ := true

/-- A client that polls the two points over the connection that can read the second only. -/
def twoPointsClient : TASE2Client (Int ⊕ Int) Int where
  config := twoPoints.foldl TASE2ClientConfig.addDefinition .fresh
  registered := true
  active := some secondPointOnly

private theorem iterationOrder_twoPoints :
    twoPointsClient.config.polledDatapoints.map.IterationOrder twoPointsOrder := by
  decide

/-- The equivalence holds of a poll of the two points of which only the second is read. -/
theorem pollFaithful_handleAllValues_iff_twoPoints :
    ∃ events, twoPointsClient.handleAllValues .tagged (fun _ ↦ 0) twoPointsOrder = .ok events ∧
      (PollFaithful secondPointOnly twoPointsOrder (readings events) ↔
        LabelsAligned secondPointOnly twoPointsOrder ∧ (twoPointsClient.registered = true ∨
          succeeded secondPointOnly twoPointsOrder = [])) :=
  pollFaithful_handleAllValues_iff .tagged rfl (fun _ ↦ 0) iterationOrder_twoPoints

/-- The second point is ingested under the label of the first. -/
theorem not_pollFaithful_twoPoints :
    ∃ events, twoPointsClient.handleAllValues .tagged (fun _ ↦ 0) twoPointsOrder = .ok events ∧
      ¬ PollFaithful secondPointOnly twoPointsOrder (readings events) := by
  obtain ⟨events, hevents, hpairs, -⟩ := handleAllValues_eq .tagged
    (rfl : twoPointsClient.active = some secondPointOnly) (fun _ ↦ 0) iterationOrder_twoPoints
  refine ⟨events, hevents, ?_⟩
  rw [pollFaithful_iff_of_forall₂ iterationOrder_twoPoints (hpairs rfl)]
  decide

end Tase2South.Client
