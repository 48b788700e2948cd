import AidaAgent.ControlTasks
import AidaAgent.ControlCommands

namespace AidaAgent.Control
open JsonText Config Transitions

-- The clock does not move within one synchronous call.
def steady (now : Int) : Clock := ⟨now,now,now⟩

-- The command that a packet brings, where the handler accepts it.
def Handler.accepts (py : Interpreter) (h : Handler) (packet : Packet) : Option ControlCommand :=
  match ControlCommand.parse py packet h.callId with
  | .error _ => none
  | .ok command => if command.commandId ∈ h.seen ∨ h.stopping = true then none else some command

-- Where human_answered assigns the deadline: the session is ready and time is left.
abbrev Handler.granted (h : Handler) (remaining : Int) : Prop :=
  h.ready = true ∧ h.session.isSome = true ∧ 0 < remaining

-- Whether an accepted command assigns _transfer_deadline_ms.
def Handler.writes (h : Handler) (command : ControlCommand) (now : Int) : Bool :=
  match command.action with
  | .humanAnswered => decide (h.granted (remainingMs command.deadlineMs (steady now)))
  | .transferRequested => decide (now < command.deadlineMs)
  | .transferFailed => false

-- The milliseconds from now in the reschedule of an accepted human_answered.
def Handler.rescheduled (h : Handler) (remaining : Int) : List Int :=
  if h.granted remaining ∧ ¬ (h.transferring = false ∧ h.transferStatement ≠ "") then
    match h.announcementTimeout with
    | none => []
    | some i => if (h.tasks i).timer = .expired then [] else [remaining]
  else []

-- The timeout that a resumption of an announcement gives to asyncio.timeout.
def Handler.announceTimeouts (h : Handler) (i : Nat) (now : Int) : List Int :=
  if (h.tasks i).pc = .created ∧ (h.tasks i).cancelled = false ∧ 0 < h.transferDeadlineMs - now then
    [h.transferDeadlineMs - now]
  else []

-- The timeouts that a resumption of the stop task gives to wait_for. The argument is
-- the deadline_ms of _finish_handoff, or the remaining of a _stop on its own.
def stopTimeouts (argument now : Int) : StopPc → StopPc → List Int
  | .handoff,.waiting _ => [max 0 (argument - now)]
  | .handoff,.leaving | .waiting _,.leaving => [max 1 (max 0 (argument - now))]
  | .stop,.leaving => [max 1 argument]
  | _,_ => []

def Handler.stopPc (h : Handler) : StopPc := match h.stopTask with
  | some task => task.pc
  | none => .neverRan

-- The handler on a clock. Only `registered` (data_received) and `stopArgument` are of
-- the program; the other fields record what the handler did.
structure Timed where
  handler : Handler
  registered : Bool
  stopArgument : Int
  clock : Int
  setter : Option ControlCommand            -- the accepted command that last set the deadline
  startedAt : Int                           -- the start of the last announcement
  answeredSince : Option Int                -- an acceptance of human_answered after that
  answer : Option (ControlCommand × Int)    -- the accepted human_answered
  timeouts : List Int                       -- everything given to asyncio, in milliseconds

def Timed.initial (callId failedStatement transferStatement : String) (session : Option Session) (ready : Bool)
    (now : Int) : Timed :=
  ⟨.initial callId session failedStatement transferStatement ready,true,0,now,none,now,none,none,[]⟩

-- From when the ten seconds of an announcement count.
def Timed.reference (t : Timed) : Int := t.answeredSince.getD t.startedAt

def Timed.advance (t : Timed) (now : Int) (after : Handler) : Timed :=
  if t.handler.created < after.created then
    {t with handler := after, clock := now, startedAt := now, answeredSince := none}
  else {t with handler := after, clock := now}

def Timed.given (t : Timed) (timeouts : List Int) : Timed := {t with timeouts := timeouts ++ t.timeouts}

def Timed.write (t : Timed) (before : Handler) (command : ControlCommand) (now : Int) : Timed :=
  if before.writes command now then {t with setter := some command} else t

-- An accepted human_answered and what it gives to the stop task it creates.
def Timed.answers (t : Timed) (before : Handler) (command : ControlCommand) (now : Int) : Timed :=
  let remaining := remainingMs command.deadlineMs (steady now)
  let argument := if t.handler.stopPc = .handoff then t.handler.transferDeadlineMs else remaining
  ({t with stopArgument := argument, answer := some (command,now), answeredSince := some now} : Timed).given
    (before.rescheduled remaining)

def Timed.receive (py : Interpreter) (t : Timed) (packet : Packet) (now : Int) (provider : Provider) : Timed :=
  let after := (t.advance now (t.handler.receive py packet (steady now) provider).1)
  match t.handler.accepts py packet with
  | none => after
  | some command =>
    let written := after.write t.handler command now
    if command.action = .humanAnswered then written.answers t.handler command now else written

-- The steps of the handler, and the two ways the worker writes to it: start_authorized
-- gives it the session and the statements, and cleanup withdraws it.
inductive Tick where
  | packet (packet : Packet) (provider : Provider)
  | activate
  | announce (task : Nat) (provider : Provider)
  | expire (task : Nat)
  | stop (wake : Wake) (provider : Provider)
  | cancelStop
  | close
  | attach (transferStatement failedStatement : String)
  | withdraw

def tick (py : Interpreter) (t : Timed) : Int × Tick → Option Timed
  | (now,.packet packet provider) => if t.registered then some (t.receive py packet now provider) else none
  | (now,.activate) => some (t.advance now (t.handler.enable now))
  | (now,.announce i provider) =>
    (t.handler.announce i now provider).map fun after => (t.advance now after).given (t.handler.announceTimeouts i now)
  | (now,.expire i) => (t.handler.expire i).map (t.advance now)
  | (now,.stop wake provider) =>
    (t.handler.stop wake provider).map fun after =>
      (t.advance now after).given (stopTimeouts t.stopArgument now t.handler.stopPc after.stopPc)
  | (now,.cancelStop) => t.handler.cancelStop.map (t.advance now)
  | (now,.close) => some (t.advance now t.handler.close)
  | (now,.attach transferStatement failedStatement) =>
    let attached := {t.handler with session := some ⟨false,false⟩, transferStatement, failedStatement}
    if t.handler.session = none then some (t.advance now attached) else none
  | (now,.withdraw) => some {t.advance now {t.handler with ready := false} with registered := false}

-- The clock does not go back.
def Forward (t : Timed) (event : Int × Tick) : Prop := t.clock ≤ event.1

-- The event of the handler that a tick is.
def eventOf (now : Int) : Tick → Option Event
  | .packet packet provider => some (.packet packet (steady now) provider)
  | .activate => some (.activate now)
  | .announce i provider => some (.announce i now provider)
  | .expire i => some (.expire i)
  | .stop wake provider => some (.stop wake provider)
  | .cancelStop => some .cancelStop
  | .close => some .close
  | .attach _ _ | .withdraw => none

@[simp] theorem advance_handler (t : Timed) (now : Int) (after : Handler) : (t.advance now after).handler = after := by
  unfold Timed.advance
  split <;> rfl

@[simp] theorem write_handler (t : Timed) (before : Handler) (command : ControlCommand) (now : Int) :
    (t.write before command now).handler = t.handler := by
  unfold Timed.write
  split <;> rfl

@[simp] theorem answers_handler (t : Timed) (before : Handler) (command : ControlCommand) (now : Int) :
    (t.answers before command now).handler = t.handler := rfl

@[simp] theorem given_handler (t : Timed) (timeouts : List Int) : (t.given timeouts).handler = t.handler := rfl

theorem received_handler (t : Timed) (packet : Packet) (now : Int) (provider : Provider) :
    (t.receive py packet now provider).handler = (t.handler.receive py packet (steady now) provider).1 := by
  unfold Timed.receive
  dsimp only
  split
  · exact advance_handler _ _ _
  · split <;> simp

-- The timed handler takes the steps of the handler.
theorem tick_steps (next : tick py t (now,kind) = some t') (event : eventOf now kind = some acted) :
    step py t.handler acted = some t'.handler := by
  cases kind with
  | packet packet provider =>
    cases event
    simp only [tick] at next
    split at next
    · cases next
      rw [received_handler,step]
    · cases next
  | activate => cases event; cases next; rw [advance_handler,step]
  | close => cases event; cases next; rw [advance_handler,step]
  | announce i provider =>
    cases event
    obtain ⟨after,same,rfl⟩ := Option.map_eq_some_iff.mp next
    exact same.trans (by rw [given_handler,advance_handler])
  | stop wake provider =>
    cases event
    obtain ⟨after,same,rfl⟩ := Option.map_eq_some_iff.mp next
    exact same.trans (by rw [given_handler,advance_handler])
  | expire i =>
    cases event
    obtain ⟨after,same,rfl⟩ := Option.map_eq_some_iff.mp next
    exact same.trans (by rw [advance_handler])
  | cancelStop =>
    cases event
    obtain ⟨after,same,rfl⟩ := Option.map_eq_some_iff.mp next
    exact same.trans (by rw [advance_handler])
  | attach => cases event
  | withdraw => cases event

end AidaAgent.Control
