import Tase2South.Base.Ledger
import Tase2South.Connection.Calls

/-!
# The client of a connection

The life of `m_tase2client`, `src/tase2_client_connection.cpp:424–702`: `prepareConnection`
creates it, `cleanUp` destroys it, and between the two the member holds it.
-/

namespace Tase2South.Connection

open Tase2South.Base Tase2South.Config

/-- What a call means for the clients. -/
def clientEntryOf : LibCall → Option (LedgerEntry Handle)
  | .clientCreateEx _ (some h) => some (.acquire h)
  | .clientDestroy (some h) => some (.release h)
  | _ => none

/-- The history of the clients in a list of calls. -/
def clientLedger (calls : List LibCall) : List (LedgerEntry Handle) :=
  calls.filterMap clientEntryOf

/-- `m_tase2client` is a client that `prepareConnection` created and `cleanUp` has not
destroyed. -/
def HoldsLiveClient (s : TASE2ClientConnection) : Prop :=
  ∃ h, s.session.tase2client = some h ∧ .acquire h ∈ clientLedger s.session.calls ∧
    releases (clientLedger s.session.calls) h = 0

/-- The member holds each client from its creation to its one destruction. -/
structure ClientInv (s : Session) : Prop where
  old : ∀ h, .acquire h ∈ clientLedger s.calls → h < s.nextHandle
  tracks : Tracks (clientLedger s.calls) s.tase2client.toList

/-! ### What the parts of a step mean for the clients -/

@[simp] theorem clientLedger_append (calls new : List LibCall) :
    clientLedger (calls ++ new) = clientLedger calls ++ clientLedger new := List.filterMap_append

/-- A routine call is nothing to the clients. -/
theorem clientEntryOf_of_routine {c : LibCall} (h : c.routine = true) :
    clientEntryOf c = none := by
  unfold clientEntryOf
  split
  · cases h
  · cases h
  · rfl

private theorem clientLedger_eq_nil {calls : List LibCall}
    (h : ∀ c ∈ calls, clientEntryOf c = none) : clientLedger calls = [] :=
  List.filterMap_eq_nil_iff.mpr h

private theorem clientLedger_of_routine {calls : List LibCall}
    (h : ∀ c ∈ calls, c.routine = true) : clientLedger calls = [] :=
  clientLedger_eq_nil fun c hc ↦ clientEntryOf_of_routine (h c hc)

/-- Calls that are nothing to the clients keep the invariant. -/
theorem ClientInv.congr {s t : Session} (hs : ClientInv s) {new : List LibCall}
    (h : Continues s t new) (hnew : clientLedger new = [])
    (hclient : t.tase2client = s.tase2client) : ClientInv t := by
  have hledger : clientLedger t.calls = clientLedger s.calls := by
    rw [h.calls_eq, clientLedger_append, hnew, List.append_nil]
  constructor
  · intro r hr
    rw [hledger] at hr
    exact Nat.lt_of_lt_of_le (hs.old r hr) h.nextHandle_le
  · rw [hledger, hclient]
    exact hs.tracks

/-- Creating an endpoint is nothing to the clients. -/
theorem EndpointCreation.continues {env : PrepareEnv} {config : TASE2ClientConfig}
    {s t : Session} {useTls : Bool} (h : EndpointCreation env config s t useTls) :
    ∃ new, Continues s t new ∧ clientLedger new = [] := by
  cases h with
  | unusable _ h =>
    exact ⟨_, h, clientLedger_of_routine (routine_tlsCalls env config s.nextHandle)⟩
  | secured _ last hlast h =>
    refine ⟨_, h, clientLedger_eq_nil fun c hc ↦ ?_⟩
    simp only [List.mem_append, List.mem_cons, List.not_mem_nil, or_false] at hc
    rcases hc with (hc | rfl) | rfl | hc
    · exact clientEntryOf_of_routine (routine_tlsCalls env config s.nextHandle c hc)
    · rfl
    · rfl
    · exact clientEntryOf_of_routine (hlast c hc)
  | plain h => exact ⟨_, h, rfl⟩

/-- Releasing destroys the client that is held. -/
theorem clientLedger_releaseCalls {s : Session} (h : s.endpoint = none → s.tase2client = none) :
    clientLedger (releaseCalls s) = s.tase2client.toList.map .release := by
  unfold releaseCalls
  cases he : s.endpoint with
  | none =>
    rw [h he]
    cases s.tlsConfig <;> rfl
  | some endpoint =>
    cases s.tase2client <;> cases s.tlsConfig <;> rfl

/-- Releasing settles the history. -/
theorem clientInv_of_released {s t : Session} (hs : ClientInv s)
    (hclientless : s.endpoint = none → s.tase2client = none) {held : List LibCall}
    (hheld : ∀ c ∈ held, c.routine = true) (h : Continues s t (held ++ releaseCalls s))
    (hclient : t.tase2client = none) : ClientInv t := by
  have hledger : clientLedger t.calls =
      clientLedger s.calls ++ s.tase2client.toList.map .release := by
    rw [h.calls_eq, clientLedger_append, clientLedger_append, clientLedger_of_routine hheld,
      List.nil_append, clientLedger_releaseCalls hclientless]
  constructor
  · intro r hr
    rw [hledger] at hr
    have hold := (List.mem_append.mp hr).resolve_right (acquire_notMem_map_release _ r)
    exact Nat.lt_of_lt_of_le (hs.old r hold) h.nextHandle_le
  · rw [hledger, hclient]
    exact hs.tracks.releaseAll

/-- The use of an endpoint creates the client that is there afterwards, and no other. -/
theorem EndpointUse.clientLedger_eq {s : TASE2ClientConnection} {u t : Session}
    {endpoint : Handle} {osiParams : OsiParameters} (h : EndpointUse s u t endpoint osiParams) :
    u.nextHandle ≤ t.nextHandle ∧
      clientLedger t.calls = clientLedger u.calls ++ t.tase2client.toList.map .acquire := by
  obtain ⟨connects, hcalls, hconnects⟩ := h.calls
  refine ⟨hcalls.nextHandle_le, ?_⟩
  have hsetup : ∀ calls : List EndpointCall,
      clientLedger (calls.map (.endpoint endpoint)) = [] := by
    intro calls
    apply clientLedger_eq_nil
    intro c hc
    obtain ⟨call, -, rfl⟩ := List.mem_map.mp hc
    rfl
  have hlast : clientLedger connects = [] := by
    apply clientLedger_eq_nil
    intro c hc
    rcases (hconnects c hc).2 with rfl | ⟨call, rfl⟩
    · rfl
    · rfl
  have hcreate : clientLedger (.clientCreateEx endpoint t.tase2client :: connects) =
      t.tase2client.toList.map .acquire := by
    show clientLedger ([.clientCreateEx endpoint t.tase2client] ++ connects) = _
    rw [clientLedger_append, hlast, List.append_nil]
    cases t.tase2client <;> rfl
  rw [hcalls.calls_eq, clientLedger_append, clientLedger_append, clientLedger_append, hsetup,
    hcreate, List.append_nil]
  rfl

/-- The use of an endpoint creates the client that is held afterwards. -/
theorem clientInv_of_endpointUse {s : TASE2ClientConnection} {u t : Session} {endpoint : Handle}
    {osiParams : OsiParameters} (hu : ClientInv u) (hnone : u.tase2client = none)
    (huse : EndpointUse s u t endpoint osiParams) : ClientInv t := by
  obtain ⟨hnext, hledger⟩ := huse.clientLedger_eq
  have htracks := hu.tracks
  rw [hnone] at htracks
  cases hclient : t.tase2client with
  | none =>
    rw [hclient, Option.toList_none, List.map_nil, List.append_nil] at hledger
    constructor
    · intro r hr
      rw [hledger] at hr
      exact Nat.lt_of_lt_of_le (hu.old r hr) hnext
    · rw [hledger, hclient]
      exact htracks
  | some h =>
    rw [hclient] at hledger
    obtain ⟨hge, hlt⟩ := huse.fresh h hclient
    constructor
    · intro r hr
      rw [hledger] at hr
      rcases List.mem_append.mp hr with hr | hr
      · exact Nat.lt_of_lt_of_le (hu.old r hr) hnext
      · have he : r = h := by simpa using hr
        rw [he]
        exact hlt
    · rw [hledger, hclient]
      exact htracks.acquire fun hm ↦ absurd (hu.old h hm) (Nat.not_lt.mpr hge)

/-! ### Every step -/

/-- A new connection holds no client. -/
theorem clientInv_new (params : ConnectionParams) :
    ClientInv (TASE2ClientConnection.new params).session where
  old _ h := by cases h
  tracks := tracks_nil

/-- Every step keeps the invariant. -/
theorem clientInv_step {config : TASE2ClientConfig} {s t : TASE2ClientConnection} {a : Action}
    (hphase : PhaseInv s) (hs : ClientInv s.session) (h : step config s a = .ok t) :
    ClientInv t.session := by
  cases stepCalls hphase h with
  | routine h hsame =>
    obtain ⟨new, hnew, hroutine⟩ := h
    exact hs.congr hnew (clientLedger_of_routine hroutine) hsame.tase2client
  | released held hheld h _ hclient =>
    exact clientInv_of_released hs hphase.clientless hheld h hclient
  | refused env _ hstart hcreation hend =>
    obtain ⟨new, hnew, hsilent⟩ := hcreation.continues
    exact hs.congr hnew hsilent (hend.2.trans hstart.2.symm)
  | attempted env _ hstart u hcreation hclient endpoint osiParams huse =>
    obtain ⟨new, hnew, hsilent⟩ := hcreation.continues
    have hu := hs.congr hnew hsilent (hclient.trans hstart.2.symm)
    exact clientInv_of_endpointUse hu hclient huse

/-- A connection that holds a client holds a live one. -/
theorem holdsLiveClient_iff {s : TASE2ClientConnection} (hs : ClientInv s.session) :
    HoldsLiveClient s ↔ s.session.tase2client.isSome := by
  constructor
  · rintro ⟨h, hclient, -⟩
    rw [hclient]
    rfl
  · intro hsome
    obtain ⟨h, hclient⟩ := Option.isSome_iff_exists.mp hsome
    have hmem : h ∈ s.session.tase2client.toList := by rw [hclient]; simp
    exact ⟨h, hclient, hs.tracks.acquired h hmem, hs.tracks.unreleased h hmem⟩

end Tase2South.Connection
