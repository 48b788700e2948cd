import AidaAgent.Worker
import AidaAgent.BootstrapAcceptance

namespace AidaAgent.Worker
open JsonText Config Bootstrap Control Transitions

-- A room with the phone of the leg, whose microphone is published.
def phoneOf (setup : Setup) (leg : SipLeg) (track : Bool) : Participant :=
  ⟨leg.identity,leg.sid,.sip,[(setup.routeTokenAttribute,leg.routeToken)],[⟨"microphone",.audio,.microphone,track⟩]⟩

def lobby (setup : Setup) (leg : SipLeg) : Room := ⟨[phoneOf setup leg false],by simp⟩

-- Everything the job calls answers as it should.
def calm : Provider := ⟨.returns,.returns,.returns,.returns,.returns⟩
def willing : Sdk := ⟨calm,fun _ => true⟩
def agreed (attempt : Attempt) : Answers := ⟨willing,attempt,true,true,true,0,true⟩

-- Up to the delivery of agent_ready, and with it.
def arrival (leg : SipLeg) (attempt : Attempt) : List Event :=
  [.resume (agreed attempt),.resume (agreed attempt),.resume (agreed attempt),.resume (agreed attempt),
    .room (.trackSubscribed leg.identity "microphone") willing,.resume (agreed attempt)]

def welcome (leg : SipLeg) (attempt : Attempt) : List Event := arrival leg attempt ++ [.resume (agreed attempt)]

theorem phone_holds (setup : Setup) (leg : SipLeg) (track : Bool) (keyed) :
    Holds setup.routeTokenAttribute ⟨[phoneOf setup leg track],keyed⟩ leg :=
  ⟨phoneOf setup leg track,rfl,rfl,rfl,by simp [phoneOf,Participant.get]⟩

theorem phone_admitted (setup : Setup) (leg : SipLeg) :
    admitLeg setup.routeTokenAttribute (lobby setup leg) = .ok (some leg) := by
  have token : (phoneOf setup leg false).get setup.routeTokenAttribute = some leg.routeToken := by
    simp [phoneOf,Participant.get]
  have one : participants (lobby setup leg) = [phoneOf setup leg false] := rfl
  have made : SipLeg.make (phoneOf setup leg false).identity (phoneOf setup leg false).sid leg.routeToken = .ok leg :=
    make_own leg
  unfold admitLeg
  rw [one]
  dsimp only
  rw [token]
  dsimp only
  rw [made]
  rfl

theorem phone_subscribed (setup : Setup) (leg : SipLeg) :
    (lobby setup leg).put ((phoneOf setup leg false).setTrack "microphone" true) = ⟨[phoneOf setup leg true],by simp⟩ := by
  simp [Room.put,lobby,phoneOf,replace,Participant.setTrack]

theorem phone_known (setup : Setup) (leg : SipLeg) (keyed) :
    Room.get ⟨[phoneOf setup leg track],keyed⟩ leg.identity = some (phoneOf setup leg track) := by
  simp [Room.get,phoneOf]

theorem phone_audio (setup : Setup) {a : Admission} (known : a.leg = some leg) (track : Bool) :
    a.boundAudio ⟨"microphone",.audio,.microphone,track⟩ (phoneOf setup leg track) = true := by
  simp [Admission.boundAudio,known,phoneOf]

theorem phone_valid {j : Job} (room : j.room = ⟨[phoneOf setup leg track],keyed⟩) (open_ : j.admission.closed = false)
    (known : j.admission.leg = some leg) : j.validate setup = .ok () :=
  validate_exact.mpr ⟨open_,leg,known,room ▸ phone_holds setup leg track keyed⟩

theorem checked_runs {j : Job} {next : Job → Job} (valid : j.validate setup = .ok ())
    (running : j.aborted = false ∧ j.control.stopping = false) : j.checked setup next = next j := by
  unfold Job.checked
  rw [valid]
  dsimp only
  rw [if_neg (by simp [running])]

-- The phases of the welcome, each as the job the step before it leaves.
def Job.boundTo (setup : Setup) (j : Job) (leg : SipLeg) : Job :=
  {j.mark (.posted (bootstrapPost setup.baseUrl setup.dispatch setup.roomName leg)) with
    admission := {j.admission with leg := some leg}, startup := .authorizing}

def Job.allowAudio (j : Job) : Job := {j with admission := {j.admission with audioAuthorized := true}}

def Job.awaitPhone (j : Job) : Job :=
  {j with admission := {j.admission with changed := false, audioRequested := ["microphone"]}, startup := .subscribing}

def Job.hearPhone (setup : Setup) (j : Job) (leg : SipLeg) : Job :=
  {j.setChanged true with room := ⟨[phoneOf setup leg true],by simp⟩}

def Job.announceReady (j : Job) (leg : SipLeg) : Job :=
  {j with
    admission := {j.admission with changed := true, audioConnected := true}
    startup := .publishing
    log := .readySent :: .subscribed leg.identity leg.sid "microphone" :: j.log}

def Job.converse (j : Job) : Job :=
  ({(j.mark .readyDelivered) with control := j.control.enable 0}.mark .greeting).returns

-- The microphone is asked for, and its track is awaited.
theorem phone_requested {j : Job} (room : j.room = ⟨[phoneOf setup leg false],keyed⟩) (open_ : j.admission.closed = false)
    (allowed : j.admission.audioAuthorized = true) (known : j.admission.leg = some leg)
    (fresh : j.admission.audioRequested = []) : j.subscribeAudio setup (agreed attempt) = j.awaitPhone := by
  have valid : (j.setChanged false).validate setup = .ok () := phone_valid room open_ known
  have heard := phone_audio setup (a := (j.setChanged false).admission) known false
  have person : (j.setChanged false).admission.leg.bind (fun leg => (j.setChanged false).room.get leg.identity) =
      some (phoneOf setup leg false) := by
    rw [show (j.setChanged false).admission.leg = some leg from known,Option.bind_some,
      show (j.setChanged false).room = _ from room,phone_known]
  have published : (j.setChanged false).trackPublished setup ⟨"microphone",.audio,.microphone,false⟩ (phoneOf setup leg false)
      willing = ({j with admission := {j.admission with changed := true, audioRequested := ["microphone"]}},none) := by
    unfold Job.trackPublished
    rw [if_neg (by simp [Job.setChanged,open_,allowed])]
    unfold Job.requestTrack
    rw [valid]
    dsimp only
    rw [if_pos ⟨heard,by simp [Job.setChanged,fresh]⟩]
    simp [Job.setChanged,willing,fresh]
  unfold Job.subscribeAudio
  rw [if_neg (by simp [open_])]
  dsimp only
  rw [valid,person]
  dsimp only
  rw [show (phoneOf setup leg false).publications = [⟨"microphone",.audio,.microphone,false⟩] from rfl,Job.findAudio,
    show (agreed attempt).sdk = willing from rfl,published]
  dsimp only
  rw [if_neg (by simp)]
  rfl

-- The microphone is there, and agent_ready is sent.
theorem phone_ready {j : Job} (room : j.room = ⟨[phoneOf setup leg true],keyed⟩) (open_ : j.admission.closed = false)
    (allowed : j.admission.audioAuthorized = true) (known : j.admission.leg = some leg)
    (asked : j.admission.audioRequested = ["microphone"]) (running : j.aborted = false ∧ j.control.stopping = false) :
    j.subscribeAudio setup (agreed attempt) = j.announceReady leg := by
  have valid : (j.setChanged false).validate setup = .ok () := phone_valid room open_ known
  have heard := phone_audio setup (a := (j.setChanged true).admission) known true
  have person : (j.setChanged false).admission.leg.bind (fun leg => (j.setChanged false).room.get leg.identity) =
      some (phoneOf setup leg true) := by
    rw [show (j.setChanged false).admission.leg = some leg from known,Option.bind_some,
      show (j.setChanged false).room = _ from room,phone_known]
  have published : (j.setChanged false).trackPublished setup ⟨"microphone",.audio,.microphone,true⟩ (phoneOf setup leg true)
      willing = (j.setChanged true,none) := by
    unfold Job.trackPublished
    rw [if_neg (by simp [Job.setChanged,open_,allowed])]
    unfold Job.requestTrack
    rw [valid]
    dsimp only
    rw [if_neg (by simp [Job.setChanged,asked])]
    rfl
  unfold Job.subscribeAudio
  rw [if_neg (by simp [open_])]
  dsimp only
  rw [valid,person]
  dsimp only
  rw [show (phoneOf setup leg true).publications = [⟨"microphone",.audio,.microphone,true⟩] from rfl,Job.findAudio,
    show (agreed attempt).sdk = willing from rfl,published]
  dsimp only
  rw [if_pos ⟨heard,rfl⟩]
  exact checked_runs (j := {((j.setChanged true).mark (.subscribed leg.identity leg.sid "microphone")) with
    admission := {(j.setChanged true).admission with audioConnected := true}}) (phone_valid room open_ known) running

theorem phone_bound (setup : Setup) (leg : SipLeg) (attempt : Attempt) :
    Runs (step setup) Anything (.initial setup (lobby setup leg)) [.resume (agreed attempt),.resume (agreed attempt)]
      ((Job.initial setup (lobby setup leg)).boundTo setup leg) := by
  apply run_exact.mp
  show some (Job.wait setup {Job.initial setup (lobby setup leg) with startup := .connecting}) = _
  unfold Job.wait
  dsimp only [Job.setChanged,Job.initial]
  rw [phone_admitted]
  rfl

theorem phone_heard {j : Job} (room : j.room = lobby setup leg) (open_ : j.admission.closed = false)
    (known : j.admission.leg = some leg) :
    step setup j (.room (.trackSubscribed leg.identity "microphone") willing) = some (j.hearPhone setup leg) := by
  have found : Room.publication j.room leg.identity "microphone" =
      some (phoneOf setup leg false,⟨"microphone",.audio,.microphone,false⟩) := by
    rw [room]
    show ((lobby setup leg).get leg.identity).bind _ = _
    rw [lobby,phone_known]
    rfl
  rw [step,Job.onRoom,found]
  show some (if _ then Job.setChanged {j with room := j.room.put _} true else _) = _
  rw [if_pos ⟨open_,phone_audio setup (a := j.admission) known false⟩,room,phone_subscribed]
  rfl

-- A job that has sent agent_ready and awaits its delivery.
structure Announced (setup : Setup) (call : CallConfiguration) (j : Job) : Prop where
  valid : (j.mark .readyDelivered).validate setup = .ok ()
  running : j.aborted = false ∧ j.cleaned = false ∧ j.startup = .publishing ∧ j.cleanup = .idle
  control : ∃ calls, j.control = {Handler.initial setup.dispatch.callId (some ⟨false,false⟩) call.failedTransferStatement
    call.transferStatement false with calls}

-- A leg that the bootstrap service grants can reach it.
theorem arrival_announces (granted : authorize setup.py setup.dispatch setup.roomName leg attempt = some (.ok call)) :
    ∃ j, Runs (step setup) Anything (.initial setup (lobby setup leg)) (arrival leg attempt) j ∧ Announced setup call j := by
  generalize waits : (Job.initial setup (lobby setup leg)).boundTo setup leg = bound
  have session : step setup bound (.resume (agreed attempt)) = some (bound.createSession call (agreed attempt)) := by
    subst waits
    show some (Job.authorized setup _ (agreed attempt)) = _
    rw [Job.authorized,show ((Job.initial setup (lobby setup leg)).boundTo setup leg).admission.leg = some leg from rfl]
    dsimp only
    rw [show authorize setup.py setup.dispatch setup.roomName leg (agreed attempt).attempt = _ from granted]
    exact congrArg some (checked_runs (phone_valid rfl rfl rfl) ⟨rfl,rfl⟩)
  generalize starts : bound.createSession call (agreed attempt) = started at session
  have requested : step setup started (.resume (agreed attempt)) = some started.allowAudio.awaitPhone := by
    subst starts waits
    show some (Job.sessionStarted setup _ (agreed attempt)) = _
    rw [Job.sessionStarted,phone_valid rfl rfl rfl]
    exact congrArg some (phone_requested rfl rfl rfl rfl rfl)
  have heard : step setup started.allowAudio.awaitPhone (.room (.trackSubscribed leg.identity "microphone") willing) =
      some (started.allowAudio.awaitPhone.hearPhone setup leg) := by
    subst starts waits
    exact phone_heard rfl rfl rfl
  generalize hears : started.allowAudio.awaitPhone.hearPhone setup leg = hearing at heard
  have ready : step setup hearing (.resume (agreed attempt)) = some (hearing.announceReady leg) := by
    subst hears starts waits
    exact congrArg some (phone_ready rfl rfl rfl rfl rfl ⟨rfl,rfl⟩)
  refine ⟨hearing.announceReady leg,?_,?_⟩
  · exact (waits ▸ phone_bound setup leg attempt).append
      (.cons trivial session (.cons trivial requested (.cons trivial heard (.single trivial ready))))
  · subst hears starts waits
    exact ⟨phone_valid rfl rfl rfl,⟨rfl,rfl,rfl,rfl⟩,_,rfl⟩

-- A job in its conversation, before any command.
structure Conversing (setup : Setup) (call : CallConfiguration) (j : Job) : Prop where
  running : j.aborted = false ∧ j.cleaned = false ∧ j.startup = .returned ∧ j.cleanup = .idle
  control : ∃ calls, j.control = {Handler.initial setup.dispatch.callId (some ⟨true,true⟩) call.failedTransferStatement
    call.transferStatement true with calls}

theorem announced_opens (announced : Announced setup call j) (attempt : Attempt) :
    step setup j (.resume (agreed attempt)) = some j.converse ∧ Conversing setup call j.converse := by
  obtain ⟨unaborted,uncleaned,publishing,idle⟩ := announced.running
  obtain ⟨calls,control⟩ := announced.control
  have resumes : j.resume setup (agreed attempt) = some (j.readyPublished setup (agreed attempt)) := by
    rw [Job.resume,publishing]
  have running : (j.mark .readyDelivered).control.stopping = false := by
    show j.control.stopping = false
    rw [control]
    rfl
  constructor
  · rw [step,resumes,Job.readyPublished,checked_runs announced.valid ⟨unaborted,running⟩]
    have enabled : ((j.mark .readyDelivered).control.activate 0).2 = true := by
      show (j.control.activate 0).2 = true
      rw [control]
      rfl
    dsimp only [agreed] at enabled ⊢
    rw [enabled]
    rfl
  · refine ⟨⟨unaborted,uncleaned,rfl,idle⟩,?_⟩
    show ∃ calls, j.control.enable 0 = _
    rw [control]
    exact ⟨_,rfl⟩

-- And go on to the conversation.
theorem welcome_opens (granted : authorize setup.py setup.dispatch setup.roomName leg attempt = some (.ok call)) :
    ∃ j, Runs (step setup) Anything (.initial setup (lobby setup leg)) (welcome leg attempt) j ∧ Conversing setup call j := by
  obtain ⟨j,path,announced⟩ := arrival_announces granted
  obtain ⟨opens,conversing⟩ := announced_opens announced attempt
  exact ⟨j.converse,path.step trivial opens,conversing⟩

def sampleSetup : Setup := ⟨verbatim,sampleDispatch,sampleRoom,"https://officepulse.test","sip.routeToken"⟩

def sampleAttempt : Attempt := .answered 200 "application/json" none [sampleBody (sampleCall "Be kind.")]

theorem sample_granted : authorize sampleSetup.py sampleSetup.dispatch sampleSetup.roomName sampleLeg sampleAttempt =
    some (.ok (sampleCall "Be kind.")) := by
  have cost : promptSize true "Be kind." = 8 := by decide
  have small : ¬ (sampleBody (sampleCall "Be kind.")).size > maxResponseBytes := by
    unfold sampleBody
    rw [sample_body_size,cost]
    decide
  have read : readBody ByteArray.empty [sampleBody (sampleCall "Be kind.")] = .ok (sampleBody (sampleCall "Be kind.")) := by
    rw [readBody,ByteArray.empty_append,if_neg small,readBody]
  simp only [authorize,sampleAttempt,Option.some.injEq,bind_ok,require_ok]
  exact ⟨(),by decide,_,read,sample_authorized⟩

end AidaAgent.Worker
