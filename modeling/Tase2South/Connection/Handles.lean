import Tase2South.Base.Ledger
import Tase2South.Connection.Flags

/-!
# Transfer sets and data sets are destroyed once

The handles of `m_configDsts`, `src/tase2_client_connection.cpp:171–245`, over whole runs:
acquired in a loop, kept in `m_dsts` and `m_datasets`, destroyed by `cleanUp`
(`src/tase2_client_connection.cpp:424–440`), which leaves both vectors as they are.
-/

namespace Tase2South.Connection

open Tase2South.Base Tase2South.Config

/-- A handle that has a destroy function of its own. -/
inductive Resource where
  | transferSet (handle : Handle)
  | dataSet (handle : Handle)
  deriving DecidableEq

/-- The handle of a resource. -/
def Resource.handle : Resource → Nat
  | .transferSet h => h
  | .dataSet h => h

/-- What a call means for the resources. -/
def ledgerEntryOf : LibCall → Option (LedgerEntry Resource)
  | .getNextDSTransferSet _ _ (some h) => some (.acquire (.transferSet h))
  | .getDataSet _ _ _ (some h) => some (.acquire (.dataSet h))
  | .transferSetDestroy h => some (.release (.transferSet h))
  | .dataSetDestroy h => some (.release (.dataSet h))
  | _ => none

/-- The history of the resources in a list of calls. -/
def ledger (calls : List LibCall) : List (LedgerEntry Resource) := calls.filterMap ledgerEntryOf

/-- The history of a connection's resources. -/
def TASE2ClientConnection.ledger (s : TASE2ClientConnection) : List (LedgerEntry Resource) :=
  Connection.ledger s.session.calls

/-- What `m_dsts` and `m_datasets` hold. -/
def TASE2ClientConnection.held (s : TASE2ClientConnection) : List Resource :=
  s.dsts.map .transferSet ++ s.datasets.map .dataSet

/-- Every resource obtained has an old handle, and every one held was obtained. -/
structure Known (log : List (LedgerEntry Resource)) (held : List Resource) (next : Nat) :
    Prop where
  old : ∀ r, .acquire r ∈ log → r.handle < next
  obtained : ∀ r ∈ held, .acquire r ∈ log

/-- Each resource obtained is held until its one destruction. -/
structure HandlesInv (s : TASE2ClientConnection) : Prop where
  known : Known s.ledger s.held s.session.nextHandle
  tracks : Tracks s.ledger s.held

/-- A resource obtained was dropped, or one held is already destroyed. -/
structure HandlesLost (s : TASE2ClientConnection) : Prop where
  known : Known s.ledger s.held s.session.nextHandle
  lost : Lost s.ledger s.held

/-- A resource with the next handle was never obtained. -/
theorem Known.fresh {log : List (LedgerEntry Resource)} {held : List Resource} {next : Nat}
    (h : Known log held next) {r : Resource} (hr : r.handle = next) : .acquire r ∉ log := by
  intro hm
  have hlt := h.old r hm
  omega

/-- Obtaining a resource with the next handle, kept or not. -/
theorem Known.acquire {log : List (LedgerEntry Resource)} {held : List Resource} {next : Nat}
    (h : Known log held next) {r : Resource} (hr : r.handle = next) (kept : List Resource)
    (hk : ∀ q ∈ kept, q = r) : Known (log ++ [.acquire r]) (held ++ kept) (next + 1) where
  old q hq := by
    rcases List.mem_append.mp hq with hq | hq
    · have hlt := h.old q hq
      omega
    · have he : q = r := by simpa using hq
      rw [he]
      omega
  obtained q hq := by
    rcases List.mem_append.mp hq with hq | hq
    · exact List.mem_append_left _ (h.obtained q hq)
    · simp [hk q hq]

/-- Handles are known in whatever order they are held. -/
theorem Known.perm {log : List (LedgerEntry Resource)} {held held' : List Resource}
    {next : Nat} (h : Known log held next) (hp : held.Perm held') : Known log held' next :=
  ⟨h.old, fun r hr ↦ h.obtained r (hp.mem_iff.mpr hr)⟩

/-! ### Calls that are nothing to the resources -/

@[simp] theorem ledger_append (calls new : List LibCall) :
    ledger (calls ++ new) = ledger calls ++ ledger new := List.filterMap_append

/-- The session changes without touching a resource. -/
structure Quiet (s t : Session) : Prop where
  ledger_eq : ledger t.calls = ledger s.calls
  nextHandle_le : s.nextHandle ≤ t.nextHandle

private theorem Quiet.refl (s : Session) : Quiet s s := ⟨rfl, le_rfl⟩

private theorem Quiet.trans {s t u : Session} (h : Quiet s t) (k : Quiet t u) : Quiet s u :=
  ⟨k.ledger_eq.trans h.ledger_eq, h.nextHandle_le.trans k.nextHandle_le⟩

private theorem Quiet.congr {s t u : Session} (h : Quiet s t) (hcalls : u.calls = t.calls)
    (hnext : u.nextHandle = t.nextHandle) : Quiet s u :=
  ⟨hcalls ▸ h.ledger_eq, hnext ▸ h.nextHandle_le⟩

private theorem quiet_record (s : Session) {calls : List LibCall}
    (h : ∀ c ∈ calls, ledgerEntryOf c = none) : Quiet s (s.record calls) := by
  refine ⟨?_, le_rfl⟩
  have hnil : ledger calls = [] := List.filterMap_eq_nil_iff.mpr h
  rw [Session.calls_record, ledger_append, hnil, List.append_nil]

private theorem quiet_call (s : Session) (c : LibCall) (h : ledgerEntryOf c = none) :
    Quiet s (s.record [c]) := quiet_record s (by simpa using h)

private theorem quiet_fresh (s : Session) (created : Bool) : Quiet s (s.fresh created).2 := by
  unfold Session.fresh
  split
  · exact ⟨rfl, Nat.le_succ _⟩
  · exact Quiet.refl s

private theorem ledgerEntryOf_tlsCalls {env : PrepareEnv} {config : TASE2ClientConfig}
    {tls : Handle} : ∀ c ∈ tlsCalls env config tls, ledgerEntryOf c = none := by
  intro c hc
  rcases mem_tlsCalls hc with ⟨file, readable, rfl⟩ | ⟨call, rfl⟩
  · rfl
  · rfl

/-- Setting the OSI parameters touches no resource. -/
theorem quiet_setOsiConnectionParameters {s t : Session} {osiParameters : Option OsiParameters}
    (h : s.setOsiConnectionParameters osiParameters = .ok t) : Quiet s t := by
  obtain ⟨osiParams, endpoint, -, -, rfl⟩ := setOsiConnectionParameters_eq_ok h
  apply quiet_record
  intro c hc
  obtain ⟨call, -, rfl⟩ := List.mem_map.mp hc
  rfl

private theorem quiet_createTlsEndpoint (s : Session) (env : PrepareEnv)
    (config : TASE2ClientConfig) : Quiet s (s.createTlsEndpoint env config) := by
  have hstart : Quiet s (({ s with nextHandle := s.nextHandle + 1 } : Session).record
      (tlsCalls env config s.nextHandle)) := by
    have hnext : Quiet s { s with nextHandle := s.nextHandle + 1 } := ⟨rfl, Nat.le_succ _⟩
    exact hnext.trans (quiet_record _ ledgerEntryOf_tlsCalls)
  unfold Session.createTlsEndpoint
  dsimp only
  split
  · have hreneg := hstart.trans
      (quiet_call _ (.tls s.nextHandle (.setRenegotiationTime 60000)) rfl)
    have hfresh := hreneg.trans (quiet_fresh _ env.endpointCreated)
    have hcreate := fun result ↦ hfresh.trans
      (quiet_call _ (.endpointCreate (some s.nextHandle) result) rfl)
    split
    · exact (hcreate _).congr rfl rfl
    · exact ((hcreate _).trans (quiet_call _ (.tls s.nextHandle .destroy) rfl)).congr rfl rfl
  · exact hstart

private theorem quiet_createPlainEndpoint (s : Session) (env : PrepareEnv) :
    Quiet s (s.createPlainEndpoint env) := by
  have h := (quiet_fresh s env.endpointCreated).trans
    (quiet_call _ (.endpointCreate none (s.fresh env.endpointCreated).1) rfl)
  exact h.congr rfl rfl

/-- Preparing a connection touches no resource. -/
theorem quiet_prepareConnection {s t : Session} {env : PrepareEnv} {config : TASE2ClientConfig}
    {useTls : Bool} {serverIp : String} {tcpPort : Int} {osiParameters : Option OsiParameters}
    {prepared : Bool} (h : s.prepareConnection env config useTls serverIp tcpPort osiParameters =
      .ok (prepared, t)) : Quiet s t := by
  have hcreate : Quiet s
      (if useTls then s.createTlsEndpoint env config else s.createPlainEndpoint env) := by
    split
    · exact quiet_createTlsEndpoint s env config
    · exact quiet_createPlainEndpoint s env
  rw [Session.prepareConnection] at h
  dsimp only at h
  split at h
  · cases h
    exact hcreate
  · next endpoint _ =>
    obtain ⟨u, hu, h⟩ := bind_eq_ok_iff.mp h
    have hosi := hcreate.trans ((quiet_record _ (by simp [ledgerEntryOf])).trans
      (quiet_setOsiConnectionParameters hu))
    have hclient := hosi.trans ((quiet_fresh u env.clientCreated).trans
      (quiet_call _ (.clientCreateEx endpoint (u.fresh env.clientCreated).1) rfl))
    simp only [pure_eq_ok, Except.ok.injEq, Prod.mk.injEq] at h
    rw [← h.2]
    exact hclient.congr rfl rfl

/-! ### Steps that leave the custody as it is -/

/-- The connection changes without touching a resource. -/
structure SameCustody (s t : TASE2ClientConnection) : Prop where
  quiet : Quiet s.session t.session
  dsts_eq : t.dsts = s.dsts
  datasets_eq : t.datasets = s.datasets

private theorem SameCustody.ledger_eq {s t : TASE2ClientConnection} (h : SameCustody s t) :
    t.ledger = s.ledger := h.quiet.ledger_eq

private theorem SameCustody.held_eq {s t : TASE2ClientConnection} (h : SameCustody s t) :
    t.held = s.held := by
  rw [TASE2ClientConnection.held, h.dsts_eq, h.datasets_eq, TASE2ClientConnection.held]

private theorem known_congr {s t : TASE2ClientConnection}
    (hs : Known s.ledger s.held s.session.nextHandle) (h : SameCustody s t) :
    Known t.ledger t.held t.session.nextHandle := by
  rw [h.ledger_eq, h.held_eq]
  exact ⟨fun r hr ↦ Nat.lt_of_lt_of_le (hs.old r hr) h.quiet.nextHandle_le, hs.obtained⟩

/-- A step that leaves the custody as it is keeps the invariant. -/
theorem HandlesInv.congr {s t : TASE2ClientConnection} (hs : HandlesInv s)
    (h : SameCustody s t) : HandlesInv t where
  known := known_congr hs.known h
  tracks := by
    rw [h.ledger_eq, h.held_eq]
    exact hs.tracks

/-- A step that leaves the custody as it is keeps a loss. -/
theorem HandlesLost.congr {s t : TASE2ClientConnection} (hs : HandlesLost s)
    (h : SameCustody s t) : HandlesLost t where
  known := known_congr hs.known h
  lost := by
    rw [h.ledger_eq, h.held_eq]
    exact hs.lost

/-- Preparing a connection leaves the custody as it is. -/
theorem sameCustody_idleIteration {config : TASE2ClientConfig} {env : IterationEnv}
    {s t : TASE2ClientConnection} (h : s.idleIteration config env = .ok t) :
    SameCustody s t := by
  have hdestroy : SameCustody s s.destroyEndpoint := by
    unfold TASE2ClientConnection.destroyEndpoint
    split
    · exact ⟨Quiet.refl _, rfl, rfl⟩
    · next endpoint _ =>
      exact ⟨(quiet_call s.session (.endpointDestroy endpoint) rfl).congr rfl rfl, rfl, rfl⟩
  rw [TASE2ClientConnection.idleIteration] at h
  obtain ⟨⟨prepared, session⟩, hp, h⟩ := bind_eq_ok_iff.mp h
  have hquiet := hdestroy.quiet.trans (quiet_prepareConnection hp)
  cases prepared with
  | false =>
    simp only [Bool.false_eq_true, if_false, pure_eq_ok] at h
    rw [← Except.ok.inj h]
    exact ⟨hquiet, hdestroy.dsts_eq, hdestroy.datasets_eq⟩
  | true =>
    simp only [if_true] at h
    obtain ⟨session', hs', h⟩ := bind_eq_ok_iff.mp h
    have hosi : Quiet session session' := by
      split at hs'
      · exact quiet_setOsiConnectionParameters hs'
      · cases hs'
        exact Quiet.refl session
    have hconnect := (hquiet.trans hosi).trans
      (quiet_call session' (.clientConnectEx session'.tase2client) rfl)
    rw [← Except.ok.inj h]
    split
    · exact ⟨hconnect, hdestroy.dsts_eq, hdestroy.datasets_eq⟩
    · exact ⟨hconnect, hdestroy.dsts_eq, hdestroy.datasets_eq⟩

/-- Configuring data sets leaves the custody as it is. -/
theorem sameCustody_configDatasets (env : IterationEnv) (s : TASE2ClientConnection) :
    SameCustody s (s.configDatasets env) := by
  obtain ⟨calls, heq, hcalls⟩ := TASE2ClientConnection.configDatasets_eq_record env s
  rw [heq]
  refine ⟨quiet_record _ fun c hc ↦ ?_, rfl, rfl⟩
  obtain ⟨domain, name, entries, rfl⟩ := hcalls c hc
  rfl

/-! ### Cleaning up -/

private theorem quiet_releaseSession (s : Session) :
    Quiet s (TASE2ClientConnection.releaseSession s) := by
  unfold TASE2ClientConnection.releaseSession
  cases s.endpoint with
  | some endpoint =>
    have hendpoint : Quiet s (s.record [.clientDisconnect s.tase2client,
        .clientDestroy s.tase2client, .endpointDestroy endpoint]) :=
      quiet_record s (by simp [ledgerEntryOf])
    dsimp only
    split
    · exact (hendpoint.trans (quiet_call _ (.tls _ .destroy) rfl)).congr rfl rfl
    · exact hendpoint.congr rfl rfl
  | none =>
    dsimp only
    split
    · exact (quiet_call s (.tls _ .destroy) rfl).congr rfl rfl
    · exact Quiet.refl s

/-- Cleaning up destroys everything that is held, and keeps holding it. -/
theorem ledger_cleanUp (s : TASE2ClientConnection) :
    s.cleanUp.ledger = s.ledger ++ s.held.map .release := by
  have hquiet := (quiet_releaseSession (s.session.record
    (s.dsts.map .transferSetDestroy ++ s.datasets.map .dataSetDestroy))).ledger_eq
  rw [TASE2ClientConnection.ledger, TASE2ClientConnection.cleanUp, hquiet,
    Session.calls_record, ledger_append, ledger_append, TASE2ClientConnection.held,
    List.map_append]
  simp [ledger, TASE2ClientConnection.ledger, List.filterMap_map, Function.comp_def,
    ledgerEntryOf, List.filterMap_eq_map']

private theorem known_cleanUp {s : TASE2ClientConnection}
    (hs : Known s.ledger s.held s.session.nextHandle) :
    Known s.cleanUp.ledger s.cleanUp.held s.cleanUp.session.nextHandle := by
  rw [ledger_cleanUp]
  constructor
  · intro r hr
    have hlog : .acquire r ∈ s.ledger :=
      (List.mem_append.mp hr).resolve_right (acquire_notMem_map_release s.held r)
    have hle : s.session.nextHandle ≤ s.cleanUp.session.nextHandle :=
      (quiet_releaseSession (s.session.record _)).nextHandle_le
    exact Nat.lt_of_lt_of_le (hs.old r hlog) hle
  · intro r hr
    exact List.mem_append_left _ (hs.obtained r hr)

/-- Cleaning up with nothing held keeps the invariant. -/
theorem handlesInv_cleanUp {s : TASE2ClientConnection} (hs : HandlesInv s)
    (hempty : s.held = []) : HandlesInv s.cleanUp where
  known := known_cleanUp hs.known
  tracks := by
    have hheld : s.cleanUp.held = s.held := rfl
    rw [ledger_cleanUp, hheld, hempty, List.map_nil, List.append_nil, ← hempty]
    exact hs.tracks

/-- Cleaning up with something held loses it: it is destroyed and still held. -/
theorem handlesLost_cleanUp_of_held {s : TASE2ClientConnection} (hs : HandlesInv s)
    (hheld : s.held ≠ []) : HandlesLost s.cleanUp where
  known := known_cleanUp hs.known
  lost := by
    rw [ledger_cleanUp]
    exact lost_of_release hheld

/-- Cleaning up after a loss leaves the loss. -/
theorem handlesLost_cleanUp {s : TASE2ClientConnection} (hs : HandlesLost s) :
    HandlesLost s.cleanUp where
  known := known_cleanUp hs.known
  lost := by
    rw [ledger_cleanUp]
    exact hs.lost.releaseAll

/-! ### Configuring transfer sets -/

/-- The transfer set of a pass: whether the library returns one implies that it finds the
data set too. -/
def DataSetFound (env : IterationEnv) (p : (String × DatasetTransferSet) × Nat) : Prop :=
  env.transferSetReturned p.2 = true → env.dataSetReturned p.2 = true

/-- What one pass of the transfer set loop does to the custody: nothing without a transfer
set; a transfer set without its data set is dropped; with it, both are kept. -/
theorem configTransferSet_custody (env : IterationEnv) (s : TASE2ClientConnection)
    (p : (String × DatasetTransferSet) × Nat) :
    let t := s.configTransferSet env p
    let ts := Resource.transferSet s.session.nextHandle
    let dataSet := Resource.dataSet (s.session.nextHandle + 1)
    (env.transferSetReturned p.2 = false ∧ SameCustody s t) ∨
      (env.transferSetReturned p.2 = true ∧ env.dataSetReturned p.2 = false ∧
        t.ledger = s.ledger ++ [.acquire ts] ∧ t.held = s.held ∧
        t.session.nextHandle = s.session.nextHandle + 1) ∨
      (env.transferSetReturned p.2 = true ∧ env.dataSetReturned p.2 = true ∧
        t.ledger = s.ledger ++ [.acquire ts] ++ [.acquire dataSet] ∧
        (s.held ++ [ts] ++ [dataSet]).Perm t.held ∧
        t.session.nextHandle = s.session.nextHandle + 2) := by
  cases hts : env.transferSetReturned p.2 with
  | false =>
    left
    rw [TASE2ClientConnection.configTransferSet_of_refused hts]
    exact ⟨rfl, quiet_call _ _ rfl, rfl, rfl⟩
  | true =>
    right
    cases hds : env.dataSetReturned p.2 with
    | false =>
      left
      rw [TASE2ClientConnection.configTransferSet_of_missing hts hds]
      refine ⟨rfl, rfl, ?_, rfl, rfl⟩
      exact ledger_append s.session.calls _
    | true =>
      right
      rw [TASE2ClientConnection.configTransferSet_of_found hts hds]
      refine ⟨rfl, rfl, ?_, ?_, rfl⟩
      · rw [List.append_assoc]
        exact ledger_append s.session.calls _
      · simp only [TASE2ClientConnection.held, List.map_append, List.append_assoc]
        exact List.Perm.append_left _ List.perm_middle

/-- A pass that finds its data set, or gets no transfer set, keeps the invariant. -/
theorem handlesInv_configTransferSet {env : IterationEnv} {s : TASE2ClientConnection}
    {p : (String × DatasetTransferSet) × Nat} (hs : HandlesInv s) (hp : DataSetFound env p) :
    HandlesInv (s.configTransferSet env p) := by
  have hnext : (Resource.transferSet s.session.nextHandle).handle = s.session.nextHandle := rfl
  rcases configTransferSet_custody env s p with ⟨-, hsame⟩ | ⟨hts, hds, -⟩ |
    ⟨-, -, hlog, hheld, hh⟩
  · exact hs.congr hsame
  · rw [hp hts] at hds
    cases hds
  · have hk := hs.known.acquire hnext [.transferSet s.session.nextHandle] (by simp)
    constructor
    · rw [hlog, hh]
      exact (hk.acquire (r := .dataSet _) rfl [_] (by simp)).perm hheld
    · rw [hlog]
      exact ((hs.tracks.acquire (hs.known.fresh hnext)).acquire
        (hk.fresh (r := .dataSet _) rfl)).perm hheld

/-- A pass that misses its data set drops the transfer set. -/
theorem handlesLost_configTransferSet_of_missing {env : IterationEnv}
    {s : TASE2ClientConnection} {p : (String × DatasetTransferSet) × Nat} (hs : HandlesInv s)
    (hp : ¬ DataSetFound env p) : HandlesLost (s.configTransferSet env p) := by
  have hnext : (Resource.transferSet s.session.nextHandle).handle = s.session.nextHandle := rfl
  rcases configTransferSet_custody env s p with ⟨hts, -⟩ | ⟨-, -, hlog, hheld, hh⟩ |
    ⟨-, hds, -⟩
  · exact absurd (fun h ↦ absurd h (by simp [hts])) hp
  · have hk := hs.known.acquire hnext [] (by simp)
    rw [List.append_nil] at hk
    constructor
    · rw [hlog, hh, hheld]
      exact hk
    · rw [hlog, hheld]
      exact hs.tracks.lost_of_drop (hs.known.fresh hnext)
  · exact absurd (fun _ ↦ hds) hp

/-- After a loss, a pass leaves the loss. -/
theorem handlesLost_configTransferSet {env : IterationEnv} {s : TASE2ClientConnection}
    (p : (String × DatasetTransferSet) × Nat) (hs : HandlesLost s) :
    HandlesLost (s.configTransferSet env p) := by
  have hnext : (Resource.transferSet s.session.nextHandle).handle = s.session.nextHandle := rfl
  rcases configTransferSet_custody env s p with ⟨-, hsame⟩ | ⟨-, -, hlog, hheld, hh⟩ |
    ⟨-, -, hlog, hheld, hh⟩
  · exact hs.congr hsame
  · have hk := hs.known.acquire hnext [] (by simp)
    have hl := hs.lost.acquire (hs.known.fresh hnext) [] (by simp)
    rw [List.append_nil] at hk hl
    constructor
    · rw [hlog, hh, hheld]
      exact hk
    · rw [hlog, hheld]
      exact hl
  · have hk := hs.known.acquire hnext [.transferSet s.session.nextHandle] (by simp)
    have hl := hs.lost.acquire (hs.known.fresh hnext) [.transferSet s.session.nextHandle]
      (by simp)
    constructor
    · rw [hlog, hh]
      exact (hk.acquire (r := .dataSet _) rfl [_] (by simp)).perm hheld
    · rw [hlog]
      exact (hl.acquire (hk.fresh (r := .dataSet _) rfl) [_] (by simp)).perm hheld

/-- Configuring the transfer sets keeps the invariant exactly when every data set is found,
and loses a handle otherwise. -/
theorem configDsts_custody (env : IterationEnv) {s : TASE2ClientConnection}
    (hs : HandlesInv s) :
    ((∀ p ∈ env.dstsOrder.zipIdx, DataSetFound env p) ∧ HandlesInv (s.configDsts env)) ∨
      (¬ (∀ p ∈ env.dstsOrder.zipIdx, DataSetFound env p) ∧ HandlesLost (s.configDsts env)) := by
  apply foldl_iff_of_broken _ _ _ env.dstsOrder.zipIdx hs
  · intro s p hs hp
    exact handlesInv_configTransferSet hs hp
  · intro s p hs hp
    exact handlesLost_configTransferSet_of_missing hs hp
  · intro s p hs
    exact handlesLost_configTransferSet p hs

/-- Configuring the transfer sets leaves a loss. -/
theorem handlesLost_configDsts {env : IterationEnv} {s : TASE2ClientConnection}
    (hs : HandlesLost s) : HandlesLost (s.configDsts env) :=
  List.foldlRecOn env.dstsOrder.zipIdx _ hs fun _ ht p _ ↦ handlesLost_configTransferSet p ht

/-! ### Runs -/

/-- A step that connects finds the data set of every transfer set it gets, and one that cleans
up holds nothing. -/
def KeepsHandles (s : TASE2ClientConnection) : Action → Prop
  | .iterate env => s.connect = true →
      (s.connectionState = .connecting →
        if env.endpointConnected then ∀ p ∈ env.dstsOrder.zipIdx, DataSetFound env p
        else s.delayExpirationTime < env.now → s.held = []) ∧
      (s.connectionState = .connected → env.endpointConnected = false → s.held = [])
  | .connect => True
  | .disconnect => s.held = []

/-- What a step does to the custody: nothing; configure transfer sets; or clean up. -/
inductive StepCustody (s : TASE2ClientConnection) (a : Action) (t : TASE2ClientConnection) : Prop
  | same (hsame : SameCustody s t) (hkeeps : KeepsHandles s a)
  | configured (env : IterationEnv) (u : TASE2ClientConnection) (hbefore : SameCustody s u)
      (hafter : SameCustody (u.configDsts env) t)
      (hkeeps : KeepsHandles s a ↔ ∀ p ∈ env.dstsOrder.zipIdx, DataSetFound env p)
  | cleaned (u : TASE2ClientConnection) (hbefore : SameCustody s u)
      (hafter : SameCustody u.cleanUp t) (hkeeps : KeepsHandles s a ↔ s.held = [])

private theorem SameCustody.refl (s : TASE2ClientConnection) : SameCustody s s :=
  ⟨Quiet.refl _, rfl, rfl⟩

private theorem stepCustody_connectingIteration {env : IterationEnv}
    {s t : TASE2ClientConnection} (hc : s.connect = true)
    (hstate : s.connectionState = .connecting) (h : s.connectingIteration env = .ok t) :
    StepCustody s (.iterate env) t := by
  rw [TASE2ClientConnection.connectingIteration] at h
  split at h
  · cases h
  · split at h
    · next hlink =>
      rw [← Except.ok.inj h]
      refine .configured env (s.configDatasets env) (sameCustody_configDatasets env s)
        ⟨quiet_call _ _ rfl, rfl, rfl⟩ ?_
      simp [KeepsHandles, hc, hstate, hlink]
    · next hlink =>
      split at h
      · next hlate =>
        rw [← Except.ok.inj h]
        refine .cleaned { s with
          connecting := false, connected := false, connect := false, connectionState := .idle }
          ⟨Quiet.refl _, rfl, rfl⟩ (SameCustody.refl _) ?_
        simp [KeepsHandles, hc, hstate, hlink, hlate]
      · next hearly =>
        rw [← Except.ok.inj h]
        refine .same (SameCustody.refl s) ?_
        simp [KeepsHandles, hstate, hlink, hearly]

private theorem stepCustody_connectedIteration {config : TASE2ClientConfig} {env : IterationEnv}
    {s t : TASE2ClientConnection} (hc : s.connect = true)
    (hstate : s.connectionState = .connected) (h : s.connectedIteration config env = .ok t) :
    StepCustody s (.iterate env) t := by
  rw [TASE2ClientConnection.connectedIteration] at h
  split at h
  · cases h
  · split at h
    · next hlink =>
      rw [← Except.ok.inj h]
      refine .same ?_ (by simp [KeepsHandles, hstate, hlink])
      obtain ⟨calls, next, heq, hcalls⟩ := s.executePeriodicTasks_eq_record config env
      rw [heq]
      refine ⟨quiet_record _ fun c hc ↦ ?_, rfl, rfl⟩
      rw [hcalls c hc]
      rfl
    · next hlink =>
      rw [← Except.ok.inj h]
      refine .cleaned s (SameCustody.refl s) ⟨Quiet.refl _, rfl, rfl⟩ ?_
      simp [KeepsHandles, hc, hstate, hlink]

/-- The three things a step can do to the custody. -/
theorem stepCustody {config : TASE2ClientConfig} {s t : TASE2ClientConnection} {a : Action}
    (h : step config s a = .ok t) : StepCustody s a t := by
  cases a with
  | connect =>
    rw [← Except.ok.inj h]
    exact .same ⟨Quiet.refl _, rfl, rfl⟩ trivial
  | disconnect =>
    rw [← Except.ok.inj h]
    exact .cleaned { s with
      connecting := false, connected := false, connect := false, connectionState := .idle }
      ⟨Quiet.refl _, rfl, rfl⟩ (SameCustody.refl _) Iff.rfl
  | iterate env =>
    rw [step, TASE2ClientConnection.iteration] at h
    split at h
    · next hc =>
      cases hstate : s.connectionState with
      | idle =>
        simp only [hstate] at h
        exact .same (sameCustody_idleIteration h) (by simp [KeepsHandles, hstate])
      | connecting =>
        simp only [hstate] at h
        exact stepCustody_connectingIteration hc hstate h
      | connected =>
        simp only [hstate] at h
        exact stepCustody_connectedIteration hc hstate h
      | closed =>
        simp only [hstate] at h
        rw [← Except.ok.inj h]
        exact .same ⟨Quiet.refl _, rfl, rfl⟩ (by simp [KeepsHandles, hstate])
      | waitForReconnect =>
        simp only [hstate] at h
        rw [← Except.ok.inj h]
        refine .same ?_ (by simp [KeepsHandles, hstate])
        split
        · exact ⟨Quiet.refl _, rfl, rfl⟩
        · exact SameCustody.refl s
      | fatalError =>
        simp only [hstate] at h
        rw [← Except.ok.inj h]
        exact .same (SameCustody.refl s) (by simp [KeepsHandles, hstate])
    · next hc =>
      rw [← Except.ok.inj h]
      exact .same (SameCustody.refl s) (by simp [KeepsHandles, hc])

/-- A step that meets the condition keeps the invariant. -/
theorem handlesInv_step {config : TASE2ClientConfig} {s t : TASE2ClientConnection} {a : Action}
    (hs : HandlesInv s) (ha : KeepsHandles s a) (h : step config s a = .ok t) :
    HandlesInv t := by
  cases stepCustody h with
  | same hsame _ => exact hs.congr hsame
  | configured env u hbefore hafter hkeeps =>
    rcases configDsts_custody env (hs.congr hbefore) with ⟨-, hu⟩ | ⟨hn, -⟩
    · exact hu.congr hafter
    · exact absurd (hkeeps.mp ha) hn
  | cleaned u hbefore hafter hkeeps =>
    have hempty : u.held = [] := hbefore.held_eq.trans (hkeeps.mp ha)
    exact (handlesInv_cleanUp (hs.congr hbefore) hempty).congr hafter

/-- A step that does not meet the condition loses a handle. -/
theorem handlesLost_of_step {config : TASE2ClientConfig} {s t : TASE2ClientConnection}
    {a : Action} (hs : HandlesInv s) (ha : ¬ KeepsHandles s a) (h : step config s a = .ok t) :
    HandlesLost t := by
  cases stepCustody h with
  | same _ hkeeps => exact absurd hkeeps ha
  | configured env u hbefore hafter hkeeps =>
    rcases configDsts_custody env (hs.congr hbefore) with ⟨hy, -⟩ | ⟨-, hu⟩
    · exact absurd (hkeeps.mpr hy) ha
    · exact hu.congr hafter
  | cleaned u hbefore hafter hkeeps =>
    have hheld : u.held ≠ [] := fun he ↦ ha (hkeeps.mpr (hbefore.held_eq.symm.trans he))
    exact (handlesLost_cleanUp_of_held (hs.congr hbefore) hheld).congr hafter

/-- A handle that is lost stays lost. -/
theorem handlesLost_step {config : TASE2ClientConfig} {s t : TASE2ClientConnection} {a : Action}
    (hs : HandlesLost s) (h : step config s a = .ok t) : HandlesLost t := by
  cases stepCustody h with
  | same hsame _ => exact hs.congr hsame
  | configured env u hbefore hafter _ =>
    exact (handlesLost_configDsts (hs.congr hbefore)).congr hafter
  | cleaned u hbefore hafter _ => exact (handlesLost_cleanUp (hs.congr hbefore)).congr hafter

/-- A new connection holds nothing. -/
theorem handlesInv_new (params : ConnectionParams) : HandlesInv (.new params) where
  known := ⟨by simp [TASE2ClientConnection.ledger, ledger, TASE2ClientConnection.new,
    Session.initial], by simp [TASE2ClientConnection.held, TASE2ClientConnection.new]⟩
  tracks := tracks_nil

/-- In every run that ends, every transfer set and data set is destroyed at most once at any
time and exactly once by the final clean-up, exactly when every step that connects finds the
data set of each transfer set it gets and every step that cleans up holds nothing. -/
theorem destroyed_once_iff {config : TASE2ClientConfig} {params : ConnectionParams}
    {actions : List Action} {s : TASE2ClientConnection}
    (hrun : run (step config) (.new params) actions = .ok s) :
    (Always (step config) (fun t ↦ AtMostOnce t.ledger) (.new params) actions ∧
      AtMostOnce (finish s).ledger ∧ ExactlyOnce (finish s).ledger) ↔
        StepsMeet (step config) KeepsHandles (.new params) actions := by
  have hfinish : (finish s).ledger = s.ledger ++ s.held.map .release := ledger_cleanUp s
  rcases stepsMeet_iff_of_broken (step config) (fun _ _ _ hs ha h ↦ handlesInv_step hs ha h)
    (fun _ _ _ hs ha h ↦ handlesLost_of_step hs ha h) (fun _ _ _ hs h ↦ handlesLost_step hs h)
    (handlesInv_new params) hrun with ⟨hmeet, hs⟩ | ⟨hnot, hs⟩
  · refine iff_of_true ⟨?_, ?_, ?_⟩ hmeet
    · exact always_of_stepsMeet (step config) (fun _ h ↦ h.tracks.atMostOnce)
        (fun _ _ _ hs ha h ↦ handlesInv_step hs ha h) (handlesInv_new params) hmeet
    · rw [hfinish]
      exact hs.tracks.releaseAll.atMostOnce
    · rw [hfinish]
      exact hs.tracks.releaseAll.exactlyOnce
  · refine iff_of_false (fun h ↦ ?_) hnot
    rw [hfinish] at h
    exact hs.lost.not_exactlyOnce hs.known.obtained h.2.2

/-! ### A link that is lost -/

/-- A transfer set with every parameter zero. -/
def zeroTransferSet (domain dstsRef datasetRef : String) : DatasetTransferSet :=
  ⟨domain, dstsRef, datasetRef, 0, 0, 0, 0, 0, 0, false, false, false⟩

/-- A configuration with one transfer set. -/
def oneSetConfig : TASE2ClientConfig :=
  { TASE2ClientConfig.fresh with
    dsTranferSets := (∅ : UnorderedMap String DatasetTransferSet).emplace "DSTS1"
      (zeroTransferSet "icc1" "DSTS1" "ds1") }

/-- An iteration that visits that transfer set. -/
def oneSetIteration : IterationEnv :=
  { IterationEnv.plain 50 true with
    dstsOrder := [("DSTS1", zeroTransferSet "icc1" "DSTS1" "ds1")] }

/-- The connection is established. -/
def connectedRun : List Action := [.connect, .iterate (.plain 0 false), .iterate oneSetIteration]

/-- The equivalence holds of a run that connects. -/
theorem destroyed_once_iff_connectedRun :
    ∃ s, run (step oneSetConfig) (.new loopback) connectedRun = .ok s ∧
      ((Always (step oneSetConfig) (fun t ↦ AtMostOnce t.ledger) (.new loopback) connectedRun ∧
        AtMostOnce (finish s).ledger ∧ ExactlyOnce (finish s).ledger) ↔
          StepsMeet (step oneSetConfig) KeepsHandles (.new loopback) connectedRun) :=
  ⟨_, rfl, destroyed_once_iff rfl⟩

/-- When the link is lost afterwards, the final clean-up destroys the transfer set again. -/
theorem destroyed_twice_lostLink :
    oneSetConfig.dsTranferSets.IterationOrder oneSetIteration.dstsOrder ∧
      ∃ s, run (step oneSetConfig) (.new loopback)
        (connectedRun ++ [.iterate (.plain 100 false)]) = .ok s ∧
          ¬ AtMostOnce (finish s).ledger := by
  refine ⟨by decide, _, rfl, fun h ↦ ?_⟩
  exact absurd (h (.transferSet 2)) (by decide)

end Tase2South.Connection
