import Tase2South.Client.Commands

/-!
# Transfer set reports

`dsTransferSetValueHandler`, `src/tase2_client_connection.cpp:156–169`: each value of a report
goes to `handleValue` under the ref that its domain and its point name are joined to.
-/

namespace Tase2South.Client

open Tase2South.Base Tase2South.Config

section

variable {PV F : Type}

/-- `dsTransferSetValueHandler`, `src/tase2_client_connection.cpp:156–169`. The library owns the
value. -/
def TASE2Client.dsTransferSetValueHandler (lib : PointLib PV F) (client : TASE2Client PV F)
    (domainName pointName : CText) (pointValue : Option PV) (now : Nat) :
    Except ClientFault (List (ClientEvent PV F)) :=
  client.handleValue lib (domainName.val ++ ":" ++ pointName.val) pointValue now false

/-- A value for a ref that is not exchanged is dropped. -/
theorem handleValue_of_none (lib : PointLib PV F) {client : TASE2Client PV F} {ref : String}
    (hd : client.config.getExchangeDefinitionByRef ref = none) (value : Option PV)
    (timestamp : Nat) (ack : Bool) :
    client.handleValue lib ref value timestamp ack = .ok [] := by
  rw [TASE2Client.handleValue, hd]

/-- What a report of a value is turned into: one reading under the label of the definition, of
its type and with the reported domain and name, or none without a definition. -/
def RoutedTo (domainName pointName : CText) (definition : Option DataExchangeDefinition)
    (rs : List (Reading F)) : Prop :=
  match definition with
  | none => rs = []
  | some d => ∃ p, rs = [⟨d.label, [p]⟩] ∧ p.text "do_type" = some (dpTypeName d.type) ∧
      p.text "do_domain" = some domainName.val ∧ p.text "do_name" = some pointName.val

/-- With a callback, a reported value of a domain without a colon is routed to the definition of
its ref, also when the point name has a colon. -/
theorem dsTransferSetValueHandler_routedTo (lib : PointLib PV F) {client : TASE2Client PV F}
    (hregistered : client.registered = true) {domainName : CText}
    (hcolon : ':' ∉ domainName.val.toList) (pointName : CText) (value : PV) (now : Nat) :
    ∃ events, client.dsTransferSetValueHandler lib domainName pointName (some value) now =
        .ok events ∧
      RoutedTo domainName pointName
        (client.config.getExchangeDefinitionByRef (domainName.val ++ ":" ++ pointName.val))
        (readings events) := by
  cases hd : client.config.getExchangeDefinitionByRef
      (domainName.val ++ ":" ++ pointName.val) with
  | none => exact ⟨[], handleValue_of_none lib hd _ _ _, rfl⟩
  | some d =>
    obtain ⟨p, hp, htype, hdomain, hname, -⟩ := handleValue_eq lib hd value now false
    have hsplit : splitExchangeRef (domainName.val ++ ":" ++ pointName.val) =
        (domainName.val, pointName.val) :=
      (splitFirst_join_iff ':' domainName.val pointName.val).mpr hcolon
    rw [hsplit] at hdomain hname
    refine ⟨_, hp, p, ?_, htype, hdomain, hname⟩
    simp only [TASE2Client.ingest, hregistered, if_true]
    rfl

/-! ### A point name with a colon -/

/-- A definition of the ref `icc1:a:b`. -/
def colonDefinition : DataExchangeDefinition where
  ref := "icc1:a:b"
  type := .stateQ
  label := "TS1"
  colon := by decide
  text := by decide
  known := by decide

/-- A client that exchanges the point of `icc1:a:b`. -/
def colonClient : TASE2Client (Int ⊕ Int) Int where
  config := TASE2ClientConfig.fresh.addDefinition colonDefinition
  registered := true
  active := none

/-- A report of the point `a:b` in `icc1` is one reading of the definition of `icc1:a:b`. -/
theorem dsTransferSetValueHandler_routedTo_colon :
    ∃ events p, colonClient.dsTransferSetValueHandler .tagged (cText "icc1") (cText "a:b")
        (some (.inl 1)) 0 = .ok events ∧ readings events = [⟨"TS1", [p]⟩] ∧
      p.text "do_type" = some "StateQ" ∧ p.text "do_domain" = some "icc1" ∧
      p.text "do_name" = some "a:b" := by
  have hreport : ∃ events, colonClient.dsTransferSetValueHandler .tagged (cText "icc1")
      (cText "a:b") (some (.inl 1)) 0 = .ok events ∧
        RoutedTo (cText "icc1") (cText "a:b") (some colonDefinition) (readings events) :=
    dsTransferSetValueHandler_routedTo .tagged rfl (by decide) (cText "a:b") (.inl 1) 0
  obtain ⟨events, hevents, p, hreadings, htype, hdomain, hname⟩ := hreport
  exact ⟨events, p, hevents, hreadings, htype, hdomain, hname⟩

end

end Tase2South.Client
