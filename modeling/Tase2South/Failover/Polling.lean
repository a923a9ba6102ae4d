import Tase2South.Config.Exchange
import Tase2South.Failover.Exclusion

/-!
# Polling through the active connection

A connection polls through `m_active_connection` of its client,
`src/tase2_client_connection.cpp:247–257` and `src/tase2_client.cpp:470–475`. The monitor enables
a connection in one statement and makes it the active one in the next.
-/

namespace Tase2South.Failover

open Tase2South.Base Tase2South.Config Tase2South.Connection

variable {n : Nat}

/-- An iteration that polls does so through its own connection, which is connected and has its
endpoint and its client. -/
def PollsThroughItself (config : TASE2ClientConfig) (s : ClientState n) : ThreadAction n → Prop
  | .iterate i env => s.threads i = .running → polls config env (s.connections i) = true →
      s.active = some i ∧ (s.connections i).connectionState = .connected ∧
        (s.connections i).session.endpoint.isSome ∧ (s.connections i).session.tase2client.isSome
  | .monitor _ => True
  | .stop => True

/-- No connection polls between `Connect ()` and the assignment of `m_active_connection`, unless
that already is the connection. -/
def PollsAfterAssignment (config : TASE2ClientConfig) (s : ClientState n) : ThreadAction n → Prop
  | .iterate i env => s.point = .assign i → s.threads i = .running →
      polls config env (s.connections i) = true → s.active = some i
  | .monitor _ => True
  | .stop => True

/-- Except between `Connect ()` and the assignment of `m_active_connection`, an enabled connection
is the active one. -/
theorem ScanInv.active_of_connect {s : ClientState n} (hs : ScanInv s) {i : Fin n}
    (hconnect : (s.connections i).connect = true) (hpoint : s.point ≠ .assign i) :
    s.active = some i := by
  have hcandidate := hs.only i hconnect
  cases h : s.point with
  | connect j => simp [ClientState.candidate, h] at hcandidate
  | clear j => simp [ClientState.candidate, h] at hcandidate
  | assign j =>
    simp only [ClientState.candidate, h, Option.some.injEq] at hcandidate
    rw [hcandidate] at h
    exact absurd h hpoint
  | awaitConnected j =>
    simp only [ClientState.candidate, h, Option.some.injEq] at hcandidate
    rw [← hcandidate]
    exact hs.awaited j (.inl h)
  | disconnect j =>
    simp only [ClientState.candidate, h, Option.some.injEq] at hcandidate
    rw [← hcandidate]
    exact hs.awaited j (.inr h)
  | _ => simpa [ClientState.candidate, h] using hcandidate

/-- The two conditions agree in every state that satisfies the invariant. -/
theorem pollsThroughItself_iff {config : TASE2ClientConfig} {s : ClientState n} (hs : ScanInv s)
    (a : ThreadAction n) : PollsThroughItself config s a ↔ PollsAfterAssignment config s a := by
  cases a with
  | monitor _ => exact Iff.rfl
  | stop => exact Iff.rfl
  | iterate i env =>
    constructor
    · intro h _ hrunning hpolls
      exact (h hrunning hpolls).1
    · intro h hrunning hpolls
      have hconnected : (s.connections i).connect = true ∧
          (s.connections i).connectionState = .connected := by
        simp only [polls, Bool.and_eq_true, beq_iff_eq] at hpolls
        exact hpolls.1.1.1
      have hready := (hs.phases i (by simp [hrunning])).ready (.inr hconnected.2)
      refine ⟨?_, hconnected.2, hready.1, hready.2⟩
      by_cases hpoint : s.point = .assign i
      · exact h hpoint hrunning hpolls
      · exact hs.active_of_connect hconnected.1 hpoint

/-- In every run, with any number of connections, every poll goes through the connection that
polls, exactly when none polls between being enabled and being made the active one. -/
theorem stepsMeet_pollsThroughItself_iff (config : TASE2ClientConfig)
    (params : Fin n → ConnectionParams) (actions : List (ThreadAction n)) :
    StepsMeet (threadStep config) (PollsThroughItself config) (.new params) actions ↔
      StepsMeet (threadStep config) (PollsAfterAssignment config) (.new params) actions :=
  stepsMeet_congr (threadStep config) (fun _ a hs ↦ pollsThroughItself_iff hs a)
    (fun _ _ _ hs _ h ↦ scanInv_step hs h) (scanInv_new params)

/-! ### A connection that is faster than the monitor -/

/-- A configuration that polls one point every second. -/
def onePointConfig : TASE2ClientConfig :=
  { TASE2ClientConfig.fresh.addDefinition statusPoint with
    pollingInterval := 1000
    polled_exchanged := TASE2ClientConfig.polled_exchanged _ }

/-- The monitor enables the only connection. -/
def enablingRun : List (ThreadAction 1) :=
  [.monitor false, .monitor false, .monitor false, .monitor false, .monitor false]

/-- The connection is established before the monitor goes on. -/
def establishingRun : List (ThreadAction 1) :=
  enablingRun ++ [.iterate 0 (.plain 0 false), .iterate 0 (.plain 50 true)]

/-- A connection that is established before it is made the active one finds none at its first poll,
which ends the process. -/
theorem not_pollsThroughItself_fast :
    ¬ StepsMeet (threadStep onePointConfig) (PollsThroughItself onePointConfig)
        (.new fun _ ↦ loopback) (establishingRun ++ [.iterate 0 (.plain 1000 true)]) ∧
      run (threadStep onePointConfig) (.new fun _ ↦ loopback)
        (establishingRun ++ [.iterate 0 (.plain 1000 true)]) = .error .absentConnection := by
  constructor
  · intro h
    have hpoll := (((((((h.2 _ rfl).2 _ rfl).2 _ rfl).2 _ rfl).2 _ rfl).2 _ rfl).2 _ rfl).1
    have hactive : (none : Option (Fin 1)) = some 0 := (hpoll rfl rfl).1
    cases hactive
  · rfl

end Tase2South.Failover
