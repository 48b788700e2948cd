import AidaAgent.Config
import AidaAgent.Library.RecentKeys
import AidaAgent.Library.Transitions

namespace AidaAgent.Control
open JsonText PythonText Config

inductive Action where
  | transferRequested | humanAnswered | transferFailed
  deriving DecidableEq, Repr

def Action.text : Action → String
  | .transferRequested => "transfer_requested"
  | .humanAnswered => "human_answered"
  | .transferFailed => "transfer_failed"

-- A data packet. The server's own packets carry no participant.
structure Packet where
  topic : String
  participant : Option String
  data : ByteArray

structure ControlCommand where
  commandId : String
  action : Action
  deadlineMs : Int
  deriving DecidableEq, Repr

def commandFields : List String := ["type","callId","commandId","action","deadlineMs"]

def commandIdText : Json → Checked String :=
  matched (fullMatch (fun c => isAlphanumeric c || c = '_' || c = '.' || c = ':' || c = '-') 1 128) "invalid command ID"

def readAction (value : Json) : Checked Action :=
  if isText value Action.transferRequested.text then .ok .transferRequested
  else if isText value Action.humanAnswered.text then .ok .humanAnswered
  else if isText value Action.transferFailed.text then .ok .transferFailed
  else refuse "unsupported control action"

def readDeadline (value : Json) : Checked Int :=
  match value with
  | .int deadline =>
    if 0 < deadline ∧ deadline ≤ maxSafeInteger then .ok deadline else refuse "invalid control deadline"
  | _ => refuse "invalid control deadline"

def ControlCommand.parse (py : Interpreter) (packet : Packet) (callId : String) : Checked ControlCommand := do
  require (packet.topic == "aida.control" && packet.participant == none) "untrusted control origin"
  let data ← strictJson py (.bytes packet.data) 2048
  require (sameKeys data commandFields) "invalid control fields"
  require (isText (item data "type") "control") "control call mismatch"
  let target ← canonicalUuid (item data "callId")
  require (target == callId) "control call mismatch"
  let commandId ← commandIdText (item data "commandId")
  let action ← readAction (item data "action")
  let deadlineMs ← readDeadline (item data "deadlineMs")
  return ⟨commandId,action,deadlineMs⟩

-- What the session, its speech handles and the room answer to the calls of one step.
inductive Error where
  | runtime | timeout | other
  deriving DecidableEq, Repr

inductive Outcome where
  | returns
  | raises (error : Error)
  deriving DecidableEq, Repr

-- The one failure that the except clauses around the session expect.
def Outcome.handled (outcome : Outcome) : Prop := outcome = .returns ∨ outcome = .raises .runtime

structure Provider where
  interrupt : Outcome         -- session.interrupt(force=True)
  awaited : Outcome           -- its future, once awaited
  say : Outcome               -- session.say(...)
  interruptSpeech : Outcome   -- speech.interrupt(force=True)
  sessionShutdown : Outcome   -- session.shutdown(drain=False)

-- The calls made so far are kept for the statements about their order; the code
-- reads none of them. `accepted`, `episode` and `stopCreated` mark its own steps.
inductive Call where
  | accepted (command : ControlCommand)
  | episode
  | setInput (enabled : Bool)
  | setOutput (enabled : Bool)
  | interrupt
  | sessionShutdown
  | sayTransfer (text : String)
  | sayFailed (text : String)
  | interruptSpeech
  | stopCreated
  | disconnect
  | shutdown
  deriving DecidableEq, Repr

structure Session where
  input : Bool
  output : Bool
  deriving DecidableEq, Repr

-- asyncio.Timeout: never entered, running, expired, or left in time.
inductive Timer where
  | unset | entered | expired | exited
  deriving DecidableEq, Repr

-- Where a task of _announce stands: not started, awaiting session.interrupt,
-- awaiting the playout, or done.
inductive AnnouncePc where
  | created | interrupting | playing | done
  deriving DecidableEq, Repr

structure AnnounceTask where
  pc : AnnouncePc
  cancelled : Bool
  timer : Timer
  failed : Option Error
  deriving DecidableEq, Repr

-- The stop task runs _finish_handoff and then _stop, or _stop alone.
inductive StopPc where
  | handoff
  | waiting (task : Nat)
  | stop
  | leaving
  | ended
  | raised (error : Error)
  | neverRan
  deriving DecidableEq, Repr

structure StopTask where
  pc : StopPc
  cancelled : Bool
  deriving DecidableEq, Repr

structure Handler where
  callId : String
  session : Option Session
  failedStatement : String
  transferStatement : String
  stopping : Bool
  transferring : Bool
  transferDeadlineMs : Int
  ready : Bool
  seen : List String
  stopTask : Option StopTask
  announcementTask : Option Nat
  announcementTimeout : Option Nat
  created : Nat
  tasks : Nat → AnnounceTask
  calls : List Call

def absent : AnnounceTask := ⟨.done,true,.unset,none⟩

def Handler.initial (callId : String) (session : Option Session) (failedStatement transferStatement : String)
    (ready : Bool) : Handler :=
  ⟨callId,session,failedStatement,transferStatement,false,false,0,ready,[],none,none,none,0,fun _ => absent,[]⟩

def Handler.call (h : Handler) (call : Call) : Handler := {h with calls := call :: h.calls}

def Handler.setInput (h : Handler) (enabled : Bool) : Handler :=
  {h with session := h.session.map fun s => {s with input := enabled}, calls := .setInput enabled :: h.calls}

def Handler.setOutput (h : Handler) (enabled : Bool) : Handler :=
  {h with session := h.session.map fun s => {s with output := enabled}, calls := .setOutput enabled :: h.calls}

def Handler.setTask (h : Handler) (i : Nat) (t : AnnounceTask) : Handler :=
  {h with tasks := fun j => if j = i then t else h.tasks j}

-- task.cancel(), which does nothing to a finished task.
def AnnounceTask.cancel (t : AnnounceTask) : AnnounceTask := if t.pc = .done then t else {t with cancelled := true}

def Handler.cancelAnnouncement (h : Handler) : Handler :=
  match h.announcementTask with
  | none => h
  | some i => {h.setTask i (h.tasks i).cancel with announcementTask := none, announcementTimeout := none}

-- The remaining milliseconds are exact here. In the source they pass through a
-- float number of seconds, which can lose one; a clock reading one lower shows the same.
def Handler.startAnnouncement (h : Handler) (now : Int) : Handler :=
  if h.ready = true ∧ h.session.isSome = true then
    let h := (h.cancelAnnouncement.setInput false).setOutput false
    {h.setTask h.created ⟨.created,false,.unset,none⟩ with
      transferDeadlineMs := min h.transferDeadlineMs (now + 10000)
      announcementTask := some h.created
      created := h.created + 1}
  else h

-- The second component is an exception that escapes from the body.
def Handler.silence (h : Handler) (provider : Provider) : Handler × Option Error :=
  match h.session with
  | none => (h,none)
  | some _ =>
    let h := ((h.setInput false).setOutput false).call .interrupt
    match provider.interrupt with
    | .raises .runtime => (h,none)
    | .raises error => (h,some error)
    | .returns =>
      let h := h.call .sessionShutdown
      match provider.sessionShutdown with
      | .raises .runtime => (h,none)
      | .raises error => (h,some error)
      | .returns => (h,none)

-- The readings of now_ms() during one call of receive, in order.
structure Clock where
  first : Int
  second : Int
  third : Int

inductive Reply where
  | returned (accepted : Bool)
  | raised (error : Error)
  deriving DecidableEq, Repr

-- The first part of the human_answered branch: the statement is started, or the
-- running one is given the new deadline. A timeout that has been left cannot be
-- rescheduled.
def Handler.prepareHandoff (h : Handler) (remaining : Int) (clock : Clock) : Handler × Option Error :=
  if h.ready = true ∧ h.session.isSome = true ∧ 0 < remaining then
    let h := {h with transferDeadlineMs := clock.second + remaining}
    if h.transferring = false ∧ h.transferStatement ≠ "" then
      (({h with transferring := true}).startAnnouncement clock.third,none)
    else
      match h.announcementTimeout with
      | none => (h,none)
      | some i =>
        match (h.tasks i).timer with
        | .expired | .entered => (h,none)
        | .unset | .exited => (h,some .runtime)
  else (h,none)

-- The second part: the stop task is created, for a graceful handoff where an
-- announcement is running, and otherwise to leave at once.
def Handler.createStop (h : Handler) (remaining : Int) (provider : Provider) : Handler × Reply :=
  if h.ready = true ∧ 0 < remaining ∧ h.announcementTask.isSome = true then
    ({(h.setInput false).call .stopCreated with stopTask := some ⟨.handoff,false⟩},.returned true)
  else
    match h.cancelAnnouncement.silence provider with
    | (h,some error) => (h,.raised error)
    | (h,none) => ({h.call .stopCreated with stopTask := some ⟨.stop,false⟩},.returned true)

-- An accepted human_answered, with the mark of a new episode.
def Handler.answered (h : Handler) : Handler :=
  if h.transferring then {h with stopping := true} else ({h with stopping := true} : Handler).call .episode

def remainingMs (deadline : Int) (clock : Clock) : Int := max 0 (min 10000 (deadline - clock.first))

def Handler.humanAnswered (h : Handler) (deadline : Int) (clock : Clock) (provider : Provider) : Handler × Reply :=
  match h.answered.prepareHandoff (remainingMs deadline clock) clock with
  | (h,some error) => (h,.raised error)
  | (h,none) => h.createStop (remainingMs deadline clock) provider

def Handler.transferRequested (h : Handler) (deadline : Int) (clock : Clock) : Handler × Reply :=
  if deadline > clock.first then
    (({h.call .episode with transferring := true, transferDeadlineMs := deadline}).startAnnouncement clock.second,
      .returned true)
  else (h,.returned true)

def Handler.transferFailed (h : Handler) (deadline : Int) (clock : Clock) (provider : Provider) : Handler × Reply :=
  if deadline ≥ clock.first then
    let h := ({h with transferring := false}).cancelAnnouncement
    if h.ready = true ∧ h.session.isSome = true then
      let h := (h.setOutput true).setInput true
      if h.failedStatement = "" then (h,.returned true)
      else
        let h := h.call (.sayFailed h.failedStatement)
        match provider.say with
        | .returns | .raises .runtime => (h,.returned true)
        | .raises error => (h,.raised error)
    else (h,.returned true)
  else (h,.returned true)

def maxSeen : Nat := 256

-- An accepted command is remembered; the oldest one of 257 is forgotten.
def Handler.note (h : Handler) (command : ControlCommand) : Handler :=
  {h.call (.accepted command) with seen := RecentKeys.push maxSeen h.seen command.commandId}

def Handler.receive (py : Interpreter) (h : Handler) (packet : Packet) (clock : Clock) (provider : Provider) :
    Handler × Reply :=
  match ControlCommand.parse py packet h.callId with
  | .error _ => (h,.returned false)
  | .ok command =>
    if command.commandId ∈ h.seen ∨ h.stopping = true then (h,.returned false)
    else
      match command.action with
      | .humanAnswered => (h.note command).humanAnswered command.deadlineMs clock provider
      | .transferRequested => (h.note command).transferRequested command.deadlineMs clock
      | .transferFailed => (h.note command).transferFailed command.deadlineMs clock provider

def Handler.activate (h : Handler) (now : Int) : Handler × Bool :=
  let h := {h with ready := true}
  if h.transferring then (h.startAnnouncement now,false) else (h,!h.stopping)

-- The end of start_authorized: no await stands between activate and the audio.
def Handler.enable (h : Handler) (now : Int) : Handler :=
  match h.activate now with
  | (h,false) => h
  | (h,true) => (h.setOutput true).setInput true

def Timer.leave : Timer → Timer
  | .entered => .exited
  | timer => timer

-- The finally block of _announce. Only the current task mutes and clears itself,
-- and an exception of speech.interrupt skips both.
def Handler.finishAnnounce (h : Handler) (i : Nat) (spoken : Bool) (provider : Provider) : Handler :=
  let finished : AnnounceTask := {h.tasks i with pc := .done, timer := (h.tasks i).timer.leave}
  let h := if spoken then h.call .interruptSpeech else h
  match spoken,provider.interruptSpeech with
  | true,.raises error => h.setTask i {finished with failed := some error}
  | _,_ =>
    let h := h.setTask i finished
    if h.announcementTask = some i then
      {h.setOutput false with announcementTask := none, announcementTimeout := none}
    else h

-- One resumption of an announcement task, up to its next await. A cancelled or
-- timed-out await raises whatever the awaited call did.
def Handler.announce (h : Handler) (i : Nat) (now : Int) (provider : Provider) : Option Handler :=
  let t := h.tasks i
  match t.pc with
  | .done => none
  | .created =>
    if t.cancelled then some (h.setTask i {t with pc := .done})
    else if h.transferDeadlineMs - now ≤ 0 then some (h.finishAnnounce i false provider)
    else
      let h := {(h.setTask i {t with timer := .entered}).call .interrupt with announcementTimeout := some i}
      match provider.interrupt with
      | .raises _ => some (h.finishAnnounce i false provider)
      | .returns => some (h.setTask i {t with timer := .entered, pc := .interrupting})
  | .interrupting =>
    if t.cancelled = true ∨ t.timer = .expired then some (h.finishAnnounce i false provider)
    else
      match provider.awaited with
      | .raises _ => some (h.finishAnnounce i false provider)
      | .returns =>
        if h.transferStatement = "" then some (h.finishAnnounce i false provider)
        else
          let h := (h.setOutput true).call (.sayTransfer h.transferStatement)
          match provider.say with
          | .raises _ => some (h.finishAnnounce i false provider)
          | .returns => some (h.setTask i {t with pc := .playing})
  | .playing => some (h.finishAnnounce i true provider)

-- The timeout of an announcement fires while its task waits.
def Handler.expire (h : Handler) (i : Nat) : Option Handler :=
  let t := h.tasks i
  if t.timer = .entered ∧ (t.pc = .interrupting ∨ t.pc = .playing) then
    some (h.setTask i {t with timer := .expired})
  else none

-- How the wait for the announcement ends: its own timeout, a cancellation of the
-- stop task, or the end of the announcement, which may be an exception.
inductive Wake where
  | timedOut | cancelled | finished
  deriving DecidableEq, Repr

def Handler.setStop (h : Handler) (pc : StopPc) : Handler := {h with stopTask := some ⟨pc,false⟩}

-- From the finally block of _finish_handoff into _stop, up to its await. `escaping`
-- is an exception that the except clause let pass.
def Handler.leaveHandoff (h : Handler) (escaping : Option Error) (provider : Provider) : Handler :=
  match h.cancelAnnouncement.silence provider,escaping with
  | (h,some error),_ => h.setStop (.raised error)
  | (h,none),some error => h.setStop (.raised error)
  | (h,none),none => (h.call .disconnect).setStop .leaving

-- One resumption of the stop task, up to its next await.
def Handler.stop (h : Handler) (wake : Wake) (provider : Provider) : Option Handler :=
  match h.stopTask with
  | none => none
  | some task =>
    match task.pc with
    | .ended | .raised _ | .neverRan => none
    | .handoff =>
      if task.cancelled then some (h.setStop .neverRan)
      else
        match h.announcementTask with
        | some i => some {h with stopTask := some ⟨.waiting i,false⟩}
        | none => some (h.leaveHandoff none provider)
    | .waiting i =>
      match wake with
      | .timedOut => some (h.leaveHandoff none provider)
      | .cancelled => if task.cancelled then some (h.leaveHandoff none provider) else none
      | .finished =>
        if (h.tasks i).pc = .done ∧ task.cancelled = false then
          match (h.tasks i).failed with
          | none | some .timeout => some (h.leaveHandoff none provider)
          | some error => some (h.leaveHandoff (some error) provider)
        else none
    | .stop => if task.cancelled then some (h.setStop .neverRan) else some ((h.call .disconnect).setStop .leaving)
    | .leaving => some ((h.call .shutdown).setStop .ended)

def StopPc.finished : StopPc → Bool
  | .ended | .raised _ | .neverRan => true
  | _ => false

def Handler.cancelStop (h : Handler) : Option Handler :=
  match h.stopTask with
  | none => none
  | some task => if task.pc.finished then none else some {h with stopTask := some {task with cancelled := true}}

-- Up to its first await; the waits that follow change nothing here.
def Handler.close (h : Handler) : Handler := h.cancelAnnouncement

inductive Event where
  | packet (packet : Packet) (clock : Clock) (provider : Provider)
  | activate (now : Int)
  | announce (task : Nat) (now : Int) (provider : Provider)
  | expire (task : Nat)
  | stop (wake : Wake) (provider : Provider)
  | cancelStop
  | close

def step (py : Interpreter) (h : Handler) : Event → Option Handler
  | .packet packet clock provider => some (h.receive py packet clock provider).1
  | .activate now => some (h.enable now)
  | .announce i now provider => h.announce i now provider
  | .expire i => h.expire i
  | .stop wake provider => h.stop wake provider
  | .cancelStop => h.cancelStop
  | .close => some h.close

end AidaAgent.Control
