import AidaAgent.Library.PythonDict
import AidaAgent.Library.Transitions

namespace AidaAgent.Status
open PythonDict

inductive ConnectionState where
  | starting | connecting | connected | reconnecting | stopping | stopped | failed
  deriving DecidableEq, Repr

inductive JobState where
  | running | success | failed
  deriving DecidableEq, Repr

def JobState.terminal : JobState → Bool
  | .running => false
  | .success | .failed => true

-- The status of an executor's job: RUNNING, SUCCESS, FAILED, or one the adapter does
-- not know.
inductive JobStatus where
  | running | success | failed | other
  deriving DecidableEq, Repr

-- Executors and websockets are known by what they are. The weak map is a dict that the
-- garbage collector also takes entries from.
variable {E S : Type}

structure WorkerStatus (E S : Type) where
  connectionState : ConnectionState
  websocket : Option S
  connections : Nat
  startedSessions : Nat
  activeSessions : Int
  processedSessions : Nat
  failedSessions : Nat
  jobs : List (E × JobState)

def WorkerStatus.initial : WorkerStatus E S := ⟨.starting,none,0,0,0,0,0,[]⟩

def WorkerStatus.connected (status : WorkerStatus E S) (websocket : S) : WorkerStatus E S :=
  {status with websocket := some websocket,connectionState := .connected,connections := status.connections + 1}

def WorkerStatus.disconnected (status : WorkerStatus E S) : WorkerStatus E S :=
  let status := {status with websocket := none}
  match status.connectionState with
  | .stopping | .stopped | .failed => status
  | _ => {status with connectionState := if status.connections ≠ 0 then .reconnecting else .connecting}

-- A new executor is entered as running and counted.
def WorkerStatus.enter [DecidableEq E] (status : WorkerStatus E S) (executor : E) : WorkerStatus E S :=
  let jobs := put status.jobs executor .running
  let started := status.startedSessions + 1
  let active := status.activeSessions + 1
  {status with jobs,startedSessions := started,activeSessions := active}

def WorkerStatus.settle [DecidableEq E] (status : WorkerStatus E S) (executor : E) (state : JobState) : WorkerStatus E S :=
  let jobs := put status.jobs executor state
  let active := status.activeSessions - 1
  let processed := status.processedSessions + 1
  let failed := status.failedSessions + if state = .failed then 1 else 0
  {status with jobs,activeSessions := active,processedSessions := processed,failedSessions := failed}

-- observe_job: both branches in turn.
def WorkerStatus.observeJob [DecidableEq E] (status : WorkerStatus E S) (executor : E) (state : JobState) :
    WorkerStatus E S :=
  let status := if executor ∈ keys status.jobs then status else status.enter executor
  if status.jobs.lookup executor = some .running ∧ state.terminal = true then status.settle executor state else status

structure Connection where
  state : ConnectionState
  connected : Bool
  connections : Nat
  deriving DecidableEq, Repr

structure Sessions where
  started : Nat
  active : Int
  processed : Nat
  completed : Int
  failed : Nat
  deriving DecidableEq, Repr

structure Snapshot where
  draining : Bool
  connection : Connection
  sessions : Sessions
  deriving DecidableEq, Repr

-- `closed` is what the websockets answer.
def WorkerStatus.snapshot (status : WorkerStatus E S) (closed : S → Bool) (draining : Bool) : Snapshot :=
  let connected := match status.websocket with
    | some websocket => !closed websocket
    | none => false
  let state := if status.connectionState = .connected ∧ connected = false then .reconnecting else status.connectionState
  ⟨draining,⟨state,connected,status.connections⟩,
    ⟨status.startedSessions,status.activeSessions,status.processedSessions,
      (status.processedSessions : Int) - status.failedSessions,status.failedSessions⟩⟩

-- GET /readyz, from the answer of sdk_health().
def WorkerStatus.ready (status : WorkerStatus E S) (closed : S → Bool) (draining sdkHealthy : Bool) : Bool :=
  let snapshot := status.snapshot closed draining
  snapshot.connection.connected && !snapshot.draining && status.connectionState == .connected && sdkHealthy

def jobState : JobStatus → Option JobState
  | .running => some .running
  | .success => some .success
  | .failed => some .failed
  | .other => none

-- _update_job_status, before the SDK's own.
def WorkerStatus.updateJobStatus [DecidableEq E] (status : WorkerStatus E S) (executor : E) (runningJob : Bool)
    (jobStatus : JobStatus) : WorkerStatus E S :=
  match runningJob,jobState jobStatus with
  | true,some state => status.observeJob executor state
  | _,_ => status

-- The server around it. What no hook reads: how many connection tasks run, the
-- websocket in _run_ws, the one registered last, those closed, whether aclose or the end
-- of run has begun, and the executors that are gone.
structure Server (E S : Type) where
  status : WorkerStatus E S
  draining : Bool
  tasks : Nat
  serving : Option S
  registered : Option S
  closed : List S
  stopped : Bool
  gone : List E

def Server.initial : Server E S := ⟨.initial,false,0,none,none,[],false,[]⟩

inductive Event (E S : Type) where
  | connectionBegins
  | connectionFails
  | connectionEnds
  | wsBegins (websocket : S)
  | wsEnds
  | aclose
  | runEnds
  | socketCloses (websocket : S)
  | draining (on : Bool)
  | jobUpdated (executor : E) (runningJob : Bool) (jobStatus : JobStatus)
  | collected (executor : E)

-- _run_ws runs inside a connection task.
def Server.canEnd (s : Server E S) : Bool := if s.serving.isSome then 1 < s.tasks else 0 < s.tasks

def step [DecidableEq E] [DecidableEq S] (s : Server E S) : Event E S → Option (Server E S)
  | .connectionBegins =>
    some {s with status := {s.status with connectionState := .connecting},tasks := s.tasks + 1}
  | .connectionFails =>
    if s.canEnd then
      some {s with status := WorkerStatus.disconnected {s.status with connectionState := .failed},tasks := s.tasks - 1}
    else none
  | .connectionEnds =>
    if s.canEnd then some {s with status := s.status.disconnected,tasks := s.tasks - 1} else none
  | .wsBegins websocket =>
    if 0 < s.tasks ∧ s.serving = none then
      some {s with status := s.status.connected websocket,serving := some websocket,registered := some websocket}
    else none
  | .wsEnds =>
    if s.serving = none then none else some {s with status := s.status.disconnected,serving := none}
  | .aclose =>
    some {s with status := {s.status with connectionState := .stopping,websocket := none},stopped := true}
  | .runEnds =>
    some {s with status := {s.status with connectionState := .stopped,websocket := none},stopped := true}
  | .socketCloses websocket => some {s with closed := websocket :: s.closed}
  | .draining on => some {s with draining := on}
  -- An executor that is gone notifies nothing.
  | .jobUpdated executor runningJob jobStatus =>
    if executor ∈ s.gone then none
    else some {s with status := s.status.updateJobStatus executor runningJob jobStatus}
  -- Only one that has reached a terminal state goes.
  | .collected executor =>
    match s.status.jobs.lookup executor with
    | some .running | none => none
    | some _ => some {s with status := {s.status with jobs := erase s.status.jobs executor},gone := executor :: s.gone}

def Server.snapshot [DecidableEq S] (s : Server E S) : Snapshot := s.status.snapshot (fun websocket => websocket ∈ s.closed) s.draining

def Server.ready [DecidableEq S] (s : Server E S) (sdkHealthy : Bool) : Bool :=
  s.status.ready (fun websocket => websocket ∈ s.closed) s.draining sdkHealthy

-- disconnected() leaves no websocket, whatever it makes of the state.
theorem disconnected_frame (status : WorkerStatus E S) : ∃ connectionState,
    status.disconnected = {status with websocket := none,connectionState} := by
  unfold WorkerStatus.disconnected
  dsimp only
  split
  · exact ⟨_,rfl⟩
  · exact ⟨_,rfl⟩
  · exact ⟨_,rfl⟩
  · exact ⟨_,rfl⟩

-- The ends of a connection, of its websocket and of the worker.
def Event.severs : Event E S → Bool
  | .connectionFails | .connectionEnds | .wsEnds | .aclose | .runEnds => true
  | _ => false

-- What one step can do: a websocket is registered, the status is left without one, the
-- rest of the connection moves, or a job is heard of or forgotten.
inductive Steps [DecidableEq E] (s : Server E S) : Event E S → Server E S → Prop where
  | registers : Steps s (.wsBegins websocket)
      {s with status := s.status.connected websocket,serving := some websocket,registered := some websocket}
  | clears : event.severs = true → serving = s.serving ∨ serving = none →
      Steps s event {s with status := {s.status with websocket := none,connectionState},tasks,serving,stopped}
  | begins : Steps s .connectionBegins {s with status := {s.status with connectionState := .connecting},tasks := s.tasks + 1}
  | socketCloses : Steps s (.socketCloses websocket) {s with closed := websocket :: s.closed}
  | draining : Steps s (.draining on) {s with draining := on}
  | jobUpdated : executor ∉ s.gone → Steps s (.jobUpdated executor runningJob jobStatus)
      {s with status := s.status.updateJobStatus executor runningJob jobStatus}
  | collected : s.status.jobs.lookup executor = some outcome → outcome ≠ .running → Steps s (.collected executor)
      {s with status := {s.status with jobs := erase s.status.jobs executor},gone := executor :: s.gone}

theorem step_cases [DecidableEq E] [DecidableEq S] {s s' : Server E S} (moved : step s event = some s') :
    Steps s event s' := by
  have lost : ∀ {event tasks serving}, event.severs = true → serving = s.serving ∨ serving = none →
      ∀ state, Steps s event {s with status := WorkerStatus.disconnected {s.status with connectionState := state},tasks,serving} := by
    intro event tasks serving severs left state
    obtain ⟨after,frame⟩ := disconnected_frame {s.status with connectionState := state}
    rw [frame]
    exact .clears severs left
  cases event with
  | connectionBegins => cases Option.some.inj moved; exact .begins
  | connectionFails =>
    simp only [step] at moved
    split at moved
    · cases Option.some.inj moved
      exact lost rfl (.inl rfl) _
    · cases moved
  | connectionEnds =>
    simp only [step] at moved
    split at moved
    · cases Option.some.inj moved
      exact lost rfl (.inl rfl) _
    · cases moved
  | wsBegins websocket =>
    simp only [step] at moved
    split at moved
    · cases Option.some.inj moved
      exact .registers
    · cases moved
  | wsEnds =>
    simp only [step] at moved
    split at moved
    · cases moved
    · cases Option.some.inj moved
      exact lost rfl (.inr rfl) _
  | aclose =>
    cases Option.some.inj moved
    exact .clears rfl (.inl rfl)
  | runEnds =>
    cases Option.some.inj moved
    exact .clears rfl (.inl rfl)
  | socketCloses websocket => cases Option.some.inj moved; exact .socketCloses
  | draining on => cases Option.some.inj moved; exact .draining
  | jobUpdated executor runningJob jobStatus =>
    simp only [step] at moved
    split at moved
    · cases moved
    · rename_i here
      cases Option.some.inj moved
      exact .jobUpdated here
  | collected executor =>
    simp only [step] at moved
    split at moved
    · cases moved
    · cases moved
    · rename_i outcome ended held
      cases Option.some.inj moved
      exact .collected held ended

end AidaAgent.Status
