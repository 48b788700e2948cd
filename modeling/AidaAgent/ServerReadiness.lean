import AidaAgent.SessionCounters

namespace AidaAgent.Status
open Transitions

variable {E S : Type}

-- The websocket of the status is the one registered last, and its _run_ws goes on.
structure Tracked (s : Server E S) : Prop where
  serving : ∀ websocket, s.status.websocket = some websocket → s.serving = some websocket
  registered : ∀ websocket, s.serving = some websocket → s.registered = some websocket

theorem initial_tracked : Tracked (Server.initial : Server E S) :=
  ⟨fun _ same => (Option.some_ne_none _ same.symm).elim,fun _ same => (Option.some_ne_none _ same.symm).elim⟩

section Answers
variable [DecidableEq S] {s : Server E S}

theorem snapshot_connected : s.snapshot.connection.connected = true ↔
    ∃ websocket, s.status.websocket = some websocket ∧ websocket ∉ s.closed := by
  unfold Server.snapshot WorkerStatus.snapshot
  dsimp only
  cases s.status.websocket with
  | none => simp
  | some websocket => simp

theorem ready_connected (ready : s.ready healthy = true) :
    healthy = true ∧ s.draining = false ∧ s.snapshot.connection.connected = true := by
  unfold Server.ready WorkerStatus.ready at ready
  simp only [Bool.and_eq_true] at ready
  obtain ⟨⟨⟨connected,undrained⟩,_⟩,sound⟩ := ready
  exact ⟨sound,by simpa [WorkerStatus.snapshot] using undrained,connected⟩

-- Once stopped, no snapshot reports connected and /readyz does not answer ready.
def Quiet (s : Server E S) : Prop := s.stopped = true →
  s.snapshot.connection.connected = false ∧ ∀ healthy, s.ready healthy = false

theorem quiet_exact : Quiet s ↔ (s.stopped = true → ∀ websocket, s.status.websocket = some websocket → websocket ∈ s.closed) := by
  refine imp_congr_right fun _ => ⟨?_,fun all => ?_⟩
  · rintro ⟨unconnected,_⟩ websocket held
    by_contra open_
    rw [snapshot_connected.mpr ⟨websocket,held,open_⟩] at unconnected
    cases unconnected
  · have unconnected : s.snapshot.connection.connected ≠ true := by
      intro connected
      obtain ⟨websocket,held,open_⟩ := snapshot_connected.mp connected
      exact open_ (all websocket held)
    refine ⟨Bool.eq_false_iff.mpr unconnected,fun healthy => Bool.eq_false_iff.mpr fun ready => ?_⟩
    exact unconnected (ready_connected ready).2.2

-- What readiness rests on, at every moment.
theorem Tracked.ready (tracked : Tracked s) (ready : s.ready healthy = true) : healthy = true ∧ s.draining = false ∧
    ∃ websocket, s.registered = some websocket ∧ s.serving = some websocket ∧ websocket ∉ s.closed := by
  obtain ⟨sound,undrained,connected⟩ := ready_connected ready
  obtain ⟨websocket,held,open_⟩ := snapshot_connected.mp connected
  have serving := tracked.serving websocket held
  exact ⟨sound,undrained,websocket,tracked.registered websocket serving,serving,open_⟩

end Answers

-- What a step does to what readiness reads: a websocket is registered, or there is none
-- from then on, or all stays and websockets at most close.
inductive Moves (s : Server E S) : Event E S → Server E S → Prop where
  | registers {s' : Server E S} : s'.status.websocket = some websocket → s'.serving = some websocket →
      s'.registered = some websocket → s'.closed = s.closed → s'.stopped = s.stopped → Moves s (.wsBegins websocket) s'
  | clears {s' : Server E S} : (∀ websocket, event ≠ .wsBegins websocket) → s'.status.websocket = none →
      (s'.serving = s.serving ∨ s'.serving = none) → s'.registered = s.registered → Moves s event s'
  | keeps {s' : Server E S} : (∀ websocket, event ≠ .wsBegins websocket) → s'.status.websocket = s.status.websocket →
      s'.serving = s.serving → s'.registered = s.registered → (∀ websocket ∈ s.closed, websocket ∈ s'.closed) →
      s'.stopped = s.stopped → Moves s event s'

variable [DecidableEq E]

theorem observeJob_websocket (status : WorkerStatus E S) (executor : E) (state : JobState) :
    (status.observeJob executor state).websocket = status.websocket := by
  unfold WorkerStatus.observeJob
  dsimp only
  split
  · split <;> rfl
  · split <;> rfl

theorem updateJobStatus_websocket (status : WorkerStatus E S) (executor : E) (runningJob : Bool) (jobStatus : JobStatus) :
    (status.updateJobStatus executor runningJob jobStatus).websocket = status.websocket := by
  unfold WorkerStatus.updateJobStatus
  split
  · exact observeJob_websocket status executor _
  · rfl

variable [DecidableEq S] {s s' : Server E S}

theorem step_moves (moved : step s event = some s') : Moves s event s' := by
  cases step_cases moved with
  | registers => exact .registers rfl rfl rfl rfl rfl
  | clears severs left =>
    refine .clears (fun websocket same => ?_) rfl left rfl
    subst same
    cases severs
  | begins => exact .keeps (fun _ same => by cases same) rfl rfl rfl (fun _ member => member) rfl
  | socketCloses =>
    exact .keeps (fun _ same => by cases same) rfl rfl rfl (fun _ member => List.mem_cons_of_mem _ member) rfl
  | draining => exact .keeps (fun _ same => by cases same) rfl rfl rfl (fun _ member => member) rfl
  | jobUpdated =>
    exact .keeps (fun _ same => by cases same) (updateJobStatus_websocket s.status _ _ _) rfl rfl (fun _ member => member) rfl
  | collected => exact .keeps (fun _ same => by cases same) rfl rfl rfl (fun _ member => member) rfl

theorem tracked_step (tracked : Tracked s) (moved : step s event = some s') : Tracked s' := by
  cases step_moves moved with
  | registers websocket serving registered =>
    refine ⟨fun other same => ?_,fun other same => ?_⟩
    · rw [serving,← websocket,same]
    · rw [registered,← serving,same]
  | clears _ websocket serving registered =>
    refine ⟨fun other same => ?_,fun other same => ?_⟩
    · rw [websocket] at same
      cases same
    · rw [registered]
      rcases serving with kept | ended
      · exact tracked.registered other (kept ▸ same)
      · rw [ended] at same
        cases same
  | keeps _ websocket serving registered =>
    refine ⟨fun other same => ?_,fun other same => ?_⟩
    · rw [serving]
      exact tracked.serving other (websocket ▸ same)
    · rw [registered]
      exact tracked.registered other (serving ▸ same)

theorem tracked_run (path : Runs step Anything (Server.initial : Server E S) events s) : Tracked s :=
  path.invariant (fun _ _ _ tracked _ moved => tracked_step tracked moved)
    initial_tracked

-- No registration of an open websocket completes once stopped.
def Orderly (s : Server E S) (event : Event E S) : Prop :=
  ∀ websocket, event = .wsBegins websocket → s.stopped = true → websocket ∈ s.closed

theorem quiet_step (quiet : Quiet s) (moved : step s event = some s') : Quiet s' ↔ Orderly s event := by
  rw [quiet_exact] at quiet ⊢
  cases step_moves moved with
  | @registers websocket _ held _ _ closed stopped =>
    rw [held,closed,stopped]
    constructor
    · intro all other same last
      cases same
      exact all last websocket rfl
    · intro orderly last other same
      cases same
      exact orderly websocket rfl last
  | clears apart held =>
    refine iff_of_true (fun _ websocket same => ?_) fun websocket same => absurd same (apart websocket)
    rw [held] at same
    cases same
  | keeps apart held _ _ closed stopped =>
    refine iff_of_true (fun last websocket same => ?_) fun websocket same => absurd same (apart websocket)
    exact closed websocket (quiet (stopped ▸ last) websocket (held ▸ same))

-- /readyz answers ready only while the websocket registered last is open and served,
-- and stopping is final in exactly the runs without a late registration.
theorem stopping_final (path : Runs step Anything (Server.initial : Server E S) events s) :
    (∀ healthy, s.ready healthy = true → healthy = true ∧ s.draining = false ∧
      ∃ websocket, s.registered = some websocket ∧ s.serving = some websocket ∧ websocket ∉ s.closed) ∧
    ((∀ earlier later middle, events = earlier ++ later → Runs step Anything Server.initial earlier middle → Quiet middle) ↔
      Runs step Orderly (Server.initial : Server E S) events s) := by
  refine ⟨fun healthy => (tracked_run path).ready,?_⟩
  have begun : Quiet (Server.initial : Server E S) := fun stopped => by cases stopped
  exact path.exactly initial_tracked begun (fun _ _ _ tracked _ moved => tracked_step tracked moved)
    fun _ _ _ _ _ quiet moved => quiet_step quiet moved

-- A registration in flight completes while aclose() waits for the SDK.
def lateRegistration : List (Event Nat Nat) := [.connectionBegins,.aclose,.wsBegins 1]

theorem late_ready : ∃ s : Server Nat Nat, run step Server.initial lateRegistration = some s ∧ ¬ Quiet s ∧
    s.stopped = true ∧ s.snapshot.connection.connected = true ∧ s.ready true = true := by
  refine ⟨_,rfl,?_,rfl,by decide,by decide⟩
  intro quiet
  cases (quiet rfl).1

-- A worker that is shut down while it serves.
def orderlyShutdown : List (Event Nat Nat) := [.connectionBegins,.wsBegins 1,.aclose,.wsEnds,.connectionEnds,.runEnds]

theorem sample_shutdown : ∃ s : Server Nat Nat, run step Server.initial orderlyShutdown = some s ∧ s.stopped = true ∧
    ∀ earlier later middle, orderlyShutdown = earlier ++ later → Runs step Anything Server.initial earlier middle →
      Quiet middle := by
  have orderly : Runs step Orderly (Server.initial : Server Nat Nat) orderlyShutdown _ :=
    .cons (fun _ same => by cases same) rfl (.cons (fun _ _ stopped => by cases stopped) rfl
      (.cons (fun _ same => by cases same) rfl (.cons (fun _ same => by cases same) rfl
        (.cons (fun _ same => by cases same) rfl (.single (fun _ same => by cases same) rfl)))))
  have path := orderly.weaken fun _ _ _ => trivial
  exact ⟨_,run_exact.mpr path,rfl,(stopping_final path).2.mpr orderly⟩

end AidaAgent.Status
