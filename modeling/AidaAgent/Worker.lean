import AidaAgent.Admission
import AidaAgent.Control

namespace AidaAgent.Worker
open JsonText Config Bootstrap Control

-- What a job is started with: `baseUrl` is the origin of the bootstrap service, and
-- `routeTokenAttribute` names the attribute that carries the route token.
structure Setup where
  py : Interpreter
  dispatch : DispatchConfiguration
  roomName : String
  baseUrl : String
  routeTokenAttribute : String

-- Where start_authorized stands: not started, at one of its awaits, or over.
inductive Startup where
  | created | connecting | waitingLeg | authorizing | starting | subscribing | publishing
  | returned | raised
  deriving DecidableEq, Repr

def Startup.done : Startup → Bool
  | .returned | .raised => true
  | _ => false

-- Where cleanup() stands: not called, awaiting the startup task, closing the history
-- and the publisher, closing the session after the control, or over. A CancelledError of
-- the last two closes ends it early, which is an end like any other here.
inductive Cleanup where
  | idle | gathering | closing | leaving | finished | failed
  deriving DecidableEq, Repr

-- Marks of the job's own steps, which the code does not read.
inductive Mark where
  | posted (post : Post)
  | subscribed (identity sid publication : String)
  | readySent
  | readyDelivered
  | greeting
  deriving DecidableEq, Repr

structure Job where
  room : Room
  admission : Admission
  control : Handler
  profile : Option CallConfiguration
  aborted : Bool
  cleaned : Bool
  startup : Startup
  cancelling : Bool
  cleanup : Cleanup
  entered : Bool
  log : List Mark

-- The control has no session before the profile is authorized.
def Job.initial (setup : Setup) (room : Room) : Job :=
  ⟨room,.initial,.initial setup.dispatch.callId none "" "" false,none,false,false,.created,false,.idle,false,[]⟩

def Job.mark (j : Job) (mark : Mark) : Job := {j with log := mark :: j.log}

def Job.validate (setup : Setup) (j : Job) : Checked Unit := j.admission.validate setup.routeTokenAttribute j.room

-- task.cancel() of the startup task, unless it is done.
def Job.cancelStartup (j : Job) : Job := if j.startup.done then j else {j with cancelling := true}

-- silence() of the worker makes the same calls as the one of the control, on the
-- same session. The second component is an exception that escapes. ctx.shutdown only
-- asks the SDK for the cleanup, which is an event of its own.
def Job.abort (j : Job) (provider : Provider) : Job × Option Error :=
  if j.aborted = true ∨ j.cleaned = true then (j,none)
  else
    match j.control.silence provider with
    | (control,some error) => ({j with aborted := true, control},some error)
    | (control,none) => (({j with aborted := true, control} : Job).cancelStartup,none)

def Job.closeAdmission (j : Job) : Job := {j with admission := {j.admission with closed := true, changed := true}}

-- cleanup(), up to its first await.
def Job.clean (j : Job) (provider : Provider) : Job :=
  if j.cleaned = true then j
  else
    let j := ({j with cleaned := true, control := {j.control with ready := false}} : Job).closeAdmission
    match j.control.silence provider with
    | (control,some _) => {j with control, cleanup := .failed}
    | (control,none) =>
      if j.startup.done then {j with control, cleanup := .closing}
      else {j with control, cleanup := .gathering}.cancelStartup

-- The later awaits of cleanup(). The closes before and after that of the control
-- touch neither the audio nor the announcements.
def Job.cleanNext (j : Job) : Option Job :=
  match j.cleanup with
  | .gathering => if j.startup.done then some {j with cleanup := .closing} else none
  | .closing => some {j with control := j.control.close, cleanup := .leaving}
  | .leaving => some {j with cleanup := .finished}
  | .idle | .finished | .failed => none

-- What the SDK answers to the calls of one step, and whether set_subscribed(True)
-- returns for a publication.
structure Sdk where
  provider : Provider
  subscribes : String → Bool

def Job.setChanged (j : Job) (changed : Bool) : Job := {j with admission := {j.admission with changed := changed}}

-- SipAdmission._changed
def Job.recheck (setup : Setup) (j : Job) (provider : Provider) : Job × Option Error :=
  let j := j.setChanged true
  if j.admission.leg.isSome then
    match j.validate setup with
    | .ok _ => (j,none)
    | .error _ => j.abort provider
  else (j,none)

-- SipAdmission._disconnected
def Job.participantDisconnected (setup : Setup) (j : Job) (p : Participant) (provider : Provider) : Job × Option Error :=
  match if j.admission.leg.any (·.sid = p.sid) then j.abort provider else (j,none) with
  | (j,some error) => (j,some error)
  | (j,none) => j.recheck setup provider

-- The try block of SipAdmission._track_published. An exception inside aborts the job.
def Job.requestTrack (setup : Setup) (j : Job) (publication : Publication) (p : Participant) (sdk : Sdk) :
    Job × Option Error :=
  match j.validate setup with
  | .error _ => j.abort sdk.provider
  | .ok _ =>
    if j.admission.boundAudio publication p = true ∧ publication.sid ∉ j.admission.audioRequested then
      let j := {j with admission := {j.admission with
        audioRequested := j.admission.audioRequested ++ [publication.sid]}}
      if sdk.subscribes publication.sid then (j,none) else j.abort sdk.provider
    else (j,none)

def Job.trackPublished (setup : Setup) (j : Job) (publication : Publication) (p : Participant) (sdk : Sdk) :
    Job × Option Error :=
  if j.admission.closed = true ∨ j.admission.audioAuthorized = false then (j,none)
  else
    match j.requestTrack setup publication p sdk with
    | (j,some error) => (j,some error)
    | (j,none) => (j.setChanged true,none)

def Job.returns (j : Job) : Job := {j with startup := .returned}
def Job.raises (j : Job) : Job := {j with startup := .raised}

-- A turn of the loop in wait(). With a leg the startup goes on to the POST of authorize().
def Job.wait (setup : Setup) (j : Job) : Job :=
  let j := j.setChanged false
  match admitLeg setup.routeTokenAttribute j.room with
  | .error _ => j.raises
  | .ok none => {j with startup := .waitingLeg}
  | .ok (some leg) =>
    {j.mark (.posted (bootstrapPost setup.baseUrl setup.dispatch setup.roomName leg)) with
      admission := {j.admission with leg := some leg}, startup := .authorizing}

-- What the awaited call and the calls up to the next await answer to the startup.
structure Answers where
  sdk : Sdk
  attempt : Attempt
  createsSession : Bool
  identified : Bool
  starts : Bool
  now : Int
  greets : Bool

-- A check that stands before each use of what the last await may have invalidated.
def Job.checked (setup : Setup) (j : Job) (next : Job → Job) : Job :=
  match j.validate setup with
  | .error _ => j.raises
  | .ok _ => if j.aborted = true ∨ j.control.stopping = true then j.returns else next j

-- A new session enables both directions; they are disabled before anything else.
def Job.createSession (j : Job) (call : CallConfiguration) (answers : Answers) : Job :=
  if answers.createsSession then
    let attached : Handler := {j.control with
      session := some ⟨true,true⟩
      transferStatement := call.transferStatement
      failedStatement := call.failedTransferStatement}
    {j with profile := some call, control := (attached.setInput false).setOutput false, startup := .starting}
  else j.raises

def Job.authorized (setup : Setup) (j : Job) (answers : Answers) : Job :=
  match j.admission.leg with
  | none => j.raises
  | some leg =>
    match authorize setup.py setup.dispatch setup.roomName leg answers.attempt with
    | some (.ok call) => j.checked setup (·.createSession call answers)
    | _ => j.raises

def Job.publishReady (setup : Setup) (j : Job) (answers : Answers) : Job :=
  j.checked setup fun j => if answers.identified then {j.mark .readySent with startup := .publishing} else j.raises

-- The publications of the bound participant, in the loop of subscribe_audio. The
-- second component tells whether its microphone is there.
def Job.findAudio (setup : Setup) (j : Job) (p : Participant) (sdk : Sdk) : List Publication → Job × Except Error Bool
  | [] => (j,.ok false)
  | publication :: rest =>
    match j.trackPublished setup publication p sdk with
    | (j,some error) => (j,.error error)
    | (j,none) =>
      if j.admission.boundAudio publication p = true ∧ publication.track = true then
        ({j.mark (.subscribed p.identity p.sid publication.sid) with
          admission := {j.admission with audioConnected := true}},.ok true)
      else j.findAudio setup p sdk rest

-- A turn of the loop in subscribe_audio.
def Job.subscribeAudio (setup : Setup) (j : Job) (answers : Answers) : Job :=
  if j.admission.closed then j.raises
  else
    let j := j.setChanged false
    match j.validate setup,j.admission.leg.bind fun leg => j.room.get leg.identity with
    | .ok _,some p =>
      match j.findAudio setup p answers.sdk p.publications with
      | (j,.error _) => j.raises
      | (j,.ok true) => j.publishReady setup answers
      | (j,.ok false) => {j.setChanged false with startup := .subscribing}
    | _,_ => j.raises

def Job.sessionStarted (setup : Setup) (j : Job) (answers : Answers) : Job :=
  match j.validate setup with
  | .error _ => j.raises
  | .ok _ => {j with admission := {j.admission with audioAuthorized := true}}.subscribeAudio setup answers

-- From the delivery of agent_ready to the end: no await stands between.
def Job.greet (j : Job) (answers : Answers) : Job :=
  let j := j.mark .greeting
  if answers.greets then j.returns else j.raises

def Job.readyPublished (setup : Setup) (j : Job) (answers : Answers) : Job :=
  (j.mark .readyDelivered).checked setup fun j =>
    if answers.starts then
      let enabled := (j.control.activate answers.now).2
      let j := {j with control := j.control.enable answers.now}
      if enabled then j.greet answers else j.returns
    else j.raises

-- One resumption of the startup task. A wait for the event of the admission ends
-- when the event is set, and cannot end so once the task is cancelled.
def Job.resume (setup : Setup) (j : Job) (answers : Answers) : Option Job :=
  match j.startup with
  | .created => if j.cancelling then none else some {j with startup := .connecting}
  | .connecting => some (j.wait setup)
  | .waitingLeg => if j.admission.changed = true ∧ j.cancelling = false then some (j.wait setup) else none
  | .authorizing => some (j.authorized setup answers)
  | .starting => some (j.sessionStarted setup answers)
  | .subscribing =>
    if j.admission.changed = true ∧ j.cancelling = false then some (j.subscribeAudio setup answers) else none
  | .publishing => some (j.readyPublished setup answers)
  | .returned | .raised => none

-- The await of the startup task raises: its call failed, or the task was cancelled.
def Job.throw (j : Job) : Option Job :=
  match j.startup with
  | .created | .waitingLeg | .subscribing => if j.cancelling then some j.raises else none
  | .connecting | .authorizing | .starting | .publishing => some j.raises
  | .returned | .raised => none

-- The end of the entrypoint, once the startup task is done.
def Job.finish (j : Job) (provider : Provider) : Option Job :=
  if j.entered = true ∨ j.startup.done = false then none
  else
    let j := if j.startup = .raised then (j.abort provider).1 else j
    let j := {j with entered := true}
    some (if j.aborted = true ∨ (j.control.stopping = true ∧ j.control.ready = false) then j.clean provider else j)

-- on_data, while it is registered.
def Job.onData (setup : Setup) (j : Job) (packet : Packet) (clock : Clock) (provider : Provider) : Job :=
  if j.aborted = true ∨ j.cleaned = true then j
  else
    match j.control.receive setup.py packet clock provider with
    | (control,.raised _) => {j with control}
    | (control,.returned _) =>
      if control.stopping = true ∧ control.ready = false then ({j with control}.abort provider).1 else {j with control}

-- The SDK changes the room and, in the same step, calls the handlers of the event.
inductive RoomEvent where
  | participantConnected (p : Participant)
  | participantDisconnected (identity : String)
  | participantAttributesChanged (identity : String) (attributes : List (String × String))
  | trackPublished (identity : String) (publication : Publication)
  | trackSubscribed (identity sid : String)
  | trackSubscriptionFailed (identity sid : String)
  | trackUnsubscribed (identity sid : String)
  | trackUnpublished (identity sid : String)
  | disconnected

-- A publication of a participant, when the SDK knows both.
def Room.publication (room : Room) (identity sid : String) : Option (Participant × Publication) := do
  let p ← room.get identity
  let publication ← p.publications.find? (·.sid = sid)
  return (p,publication)

def Job.onRoom (setup : Setup) (j : Job) (sdk : Sdk) : RoomEvent → Option Job
  | .participantConnected p =>
    let j := {j with room := j.room.put p}
    some (if j.admission.closed then j else (j.recheck setup sdk.provider).1)
  | .participantDisconnected identity => do
    let p ← j.room.get identity
    let j := {j with room := j.room.remove identity}
    return if j.admission.closed then j else (j.participantDisconnected setup p sdk.provider).1
  | .participantAttributesChanged identity attributes => do
    let p ← j.room.get identity
    let j := {j with room := j.room.put {p with attributes := attributes}}
    return if j.admission.closed then j else (j.recheck setup sdk.provider).1
  | .trackPublished identity publication => do
    let p ← j.room.get identity
    let p := p.putPublication publication
    let j := {j with room := j.room.put p}
    return if j.admission.closed then j else (j.trackPublished setup publication p sdk).1
  | .trackSubscribed identity sid => do
    let (p,publication) ← j.room.publication identity sid
    let j := {j with room := j.room.put (p.setTrack sid true)}
    return if j.admission.closed = false ∧ j.admission.boundAudio publication p = true then j.setChanged true else j
  | .trackSubscriptionFailed identity sid => do
    let (p,_) ← j.room.publication identity sid
    return if j.admission.closed = false ∧ j.admission.leg.any (·.sid = p.sid) ∧ sid ∈ j.admission.audioRequested
      then (j.abort sdk.provider).1 else j
  | .trackUnsubscribed identity sid => do
    let (p,publication) ← j.room.publication identity sid
    let j := {j with room := j.room.put (p.setTrack sid false)}
    return if j.admission.closed = false ∧ j.admission.audioConnected = true ∧ j.admission.boundAudio publication p = true
      then (j.abort sdk.provider).1 else j
  | .trackUnpublished identity sid => do
    let p ← j.room.get identity
    return {j with room := j.room.put {p with publications := p.publications.filter (·.sid ≠ sid)}}
  | .disconnected => some (if j.admission.closed then j else (j.abort sdk.provider).1)

inductive Event where
  | room (event : RoomEvent) (sdk : Sdk)
  | packet (packet : Packet) (clock : Clock) (provider : Provider)
  | resume (answers : Answers)
  | throw
  | deadline                            -- of the startup
  | cancelEntry                         -- the SDK cancels the entrypoint, which awaits the startup
  | finish (provider : Provider)
  | jobShutdown (provider : Provider)   -- the SDK calls cleanup()
  | clean                               -- cleanup() goes on
  | sessionClose (provider : Provider)
  | publisherFailed (provider : Provider)
  | announce (task : Nat) (now : Int) (provider : Provider)
  | expire (task : Nat)
  | stop (wake : Wake) (provider : Provider)
  | cancelStop                          -- by the time limit on control.close()

def Job.controls (j : Job) (control : Option Handler) : Option Job := control.map fun control => {j with control}

-- The session and the publisher report to abort() from their creation on.
def Job.reported (j : Job) (provider : Provider) : Option Job :=
  if j.control.session.isSome then some (j.abort provider).1 else none

def step (setup : Setup) (j : Job) : Event → Option Job
  | .room event sdk => j.onRoom setup sdk event
  | .packet packet clock provider => some (j.onData setup packet clock provider)
  | .resume answers => j.resume setup answers
  | .throw => j.throw
  | .deadline | .cancelEntry => some j.cancelStartup
  | .finish provider => j.finish provider
  | .jobShutdown provider => some (j.clean provider)
  | .clean => j.cleanNext
  | .sessionClose provider | .publisherFailed provider => j.reported provider
  | .announce i now provider => j.controls (j.control.announce i now provider)
  | .expire i => j.controls (j.control.expire i)
  | .stop wake provider => j.controls (j.control.stop wake provider)
  | .cancelStop => j.controls j.control.cancelStop

end AidaAgent.Worker
