import AidaAgent.Worker

namespace AidaAgent.SipAdmission
open JsonText Config Bootstrap Worker

inductive Call where
  | wait | subscribeAudio
  deriving DecidableEq, Repr

-- How a call ends. An exception that is not an InvalidConfiguration is `raised none`.
inductive Result where
  | leg (leg : SipLeg)
  | audio
  | raised (error : Option InvalidConfiguration)
  | cancelled

-- Where a call stands: suspended in changed.wait(), with its wake-up on the way or
-- not, or over.
inductive Phase where
  | suspended (woken : Bool)
  | ended (result : Result)

-- A call, with the rooms that the turns of its loop have found.
structure Task where
  call : Call
  phase : Phase
  seen : List Room

-- Marks of what the admission does to others, which the code does not read. A request
-- is kept with the state it was made in.
inductive Mark where
  | entered
  | requested (admission : Admission) (room : Room) (p : Participant) (publication : Publication)
  | released (sid : String)
  | closed
  | abort

def Mark.isAbort : Mark → Bool
  | .abort => true
  | _ => false

structure Scene where
  room : Room
  connected : Bool
  admission : Admission
  tasks : List Task
  log : List Mark

-- The handlers are registered and the room has been joined.
def Scene.initial (room : Room) : Scene := ⟨room,true,.initial,[],[]⟩

-- What the SDK answers in one step: whether set_subscribed(True) returns for a
-- publication, whether its track is there at once, and whether the abort() after so
-- many earlier ones returns.
structure Sdk where
  subscribes : String → Bool
  arrives : String → Bool
  aborts : Nat → Bool

def Scene.mark (s : Scene) (mark : Mark) : Scene := {s with log := mark :: s.log}

def Scene.validate (name : String) (s : Scene) : Checked Unit := s.admission.validate name s.room

def Task.wake (t : Task) : Task :=
  match t.phase with
  | .suspended _ => {t with phase := .suspended true}
  | .ended _ => t

-- changed.set() wakes its waiters, unless the flag is set already.
def Scene.setChanged (s : Scene) : Scene :=
  if s.admission.changed then s
  else {s with admission := {s.admission with changed := true}, tasks := s.tasks.map Task.wake}

def Scene.clearChanged (s : Scene) : Scene := {s with admission := {s.admission with changed := false}}

-- The second component tells whether the call returns.
def Scene.abort (s : Scene) (sdk : Sdk) : Scene × Bool := (s.mark .abort,sdk.aborts (s.log.countP Mark.isAbort))

-- _changed
def Scene.recheck (name : String) (s : Scene) (sdk : Sdk) : Scene × Bool :=
  let s := s.setChanged
  if s.admission.leg.isSome then
    match s.validate name with
    | .ok _ => (s,true)
    | .error _ => s.abort sdk
  else (s,true)

-- _disconnected
def Scene.participantDisconnected (name : String) (s : Scene) (p : Participant) (sdk : Sdk) : Scene × Bool :=
  match if s.admission.leg.any (·.sid = p.sid) then s.abort sdk else (s,true) with
  | (s,false) => (s,false)
  | (s,true) => s.recheck name sdk

def setTrack (room : Room) (identity sid : String) (track : Bool) : Room :=
  match room.get identity with
  | some p => room.put (p.setTrack sid track)
  | none => room

-- set_subscribed(True). Where the track is there at once, so is its event.
def Scene.setSubscribed (s : Scene) (publication : Publication) (p : Participant) (sdk : Sdk) : Scene :=
  let asked : Scene := {s with
    admission := {s.admission with audioRequested := s.admission.audioRequested ++ [publication.sid]}
    log := .requested s.admission s.room p publication :: s.log}
  if sdk.arrives publication.sid then
    {asked with room := setTrack asked.room p.identity publication.sid true}.setChanged
  else asked

-- The try statement of _track_published. Its except clause takes every exception.
def Scene.requestTrack (name : String) (s : Scene) (publication : Publication) (p : Participant) (sdk : Sdk) :
    Scene × Bool :=
  match s.validate name with
  | .error _ => s.abort sdk
  | .ok _ =>
    if s.admission.boundAudio publication p = true ∧ publication.sid ∉ s.admission.audioRequested then
      let s := s.setSubscribed publication p sdk
      if sdk.subscribes publication.sid then (s,true) else s.abort sdk
    else (s,true)

-- _track_published
def Scene.trackPublished (name : String) (s : Scene) (publication : Publication) (p : Participant) (sdk : Sdk) :
    Scene × Bool :=
  if s.admission.closed = true ∨ s.admission.audioAuthorized = false then (s,true)
  else
    match s.requestTrack name publication p sdk with
    | (s,false) => (s,false)
    | (s,true) => (s.setChanged,true)

-- A turn of the loop in wait().
def Scene.waitTurn (name : String) (s : Scene) : Scene × Phase :=
  let s := s.clearChanged
  match admitLeg name s.room with
  | .error e => (s,.ended (.raised (some e)))
  | .ok none => (s,.suspended false)
  | .ok (some leg) => ({s with admission := {s.admission with leg := some leg}},.ended (.leg leg))

-- publication.track is not None
def hasTrack (room : Room) (identity : String) (publication : Publication) : Bool :=
  (room.get identity).any fun p => {publication with track := true} ∈ p.publications

-- The loop over the publications of the bound participant. `none` is an exception,
-- else the second component tells whether the microphone is there. The track is read
-- after the request.
def Scene.findAudio (name : String) (s : Scene) (p : Participant) (sdk : Sdk) : List Publication → Scene × Option Bool
  | [] => (s,some false)
  | publication :: rest =>
    match s.trackPublished name publication p sdk with
    | (s,false) => (s,none)
    | (s,true) =>
      if s.admission.boundAudio publication p = true ∧ hasTrack s.room p.identity publication = true then
        ({s with admission := {s.admission with audioConnected := true}},some true)
      else s.findAudio name p sdk rest

-- A turn of the loop in subscribe_audio(), which clears the flag a second time.
def Scene.subscribeTurn (name : String) (s : Scene) (sdk : Sdk) : Scene × Phase :=
  if s.admission.closed then (s,.ended (.raised (some ⟨"SIP audio unavailable"⟩)))
  else
    let s := s.clearChanged
    match s.validate name with
    | .error e => (s,.ended (.raised (some e)))
    | .ok _ =>
      match s.admission.leg.bind fun leg => s.room.get leg.identity with
      | none => (s,.ended (.raised none))
      | some p =>
        match s.findAudio name p sdk p.publications with
        | (s,none) => (s,.ended (.raised none))
        | (s,some true) => (s,.ended .audio)
        | (s,some false) => (s.clearChanged,.suspended false)

def Scene.turn (name : String) (s : Scene) (sdk : Sdk) : Call → Scene × Phase
  | .wait => s.waitTurn name
  | .subscribeAudio => s.subscribeTurn name sdk

def Scene.begin (name : String) (s : Scene) (sdk : Sdk) : Call → Scene × Phase
  | .wait => s.waitTurn name
  | .subscribeAudio =>
    let s := s.mark .entered
    match s.validate name with
    | .error e => (s,.ended (.raised (some e)))
    | .ok _ => {s with admission := {s.admission with audioAuthorized := true}}.subscribeTurn name sdk

-- An exception of set_subscribed(False) is passed over. What the request does to the
-- track comes as a later event of the room, which no handler takes any more.
def Scene.close (s : Scene) : Scene :=
  if s.admission.closed then s
  else
    let s := {s with
      admission := {s.admission with closed := true}
      log := (s.admission.audioRequested.map Mark.released).reverse ++ s.log}
    s.setChanged.mark .closed

-- The SDK changes the room and, in the same step, calls the handlers of the event. It
-- removes a participant before or after.
def Scene.onRoom (name : String) (s : Scene) (removedFirst : Bool) (sdk : Sdk) : RoomEvent → Option Scene
  | .participantConnected p =>
    let s := {s with room := s.room.put p}
    some (if s.admission.closed then s else (s.recheck name sdk).1)
  | .participantDisconnected identity => do
    let p ← s.room.get identity
    let gone : Scene := {s with room := s.room.remove identity}
    return if s.admission.closed then gone
      else if removedFirst then (gone.participantDisconnected name p sdk).1
      else
        let s := (s.participantDisconnected name p sdk).1
        {s with room := s.room.remove identity}
  | .participantAttributesChanged identity attributes => do
    let p ← s.room.get identity
    let s := {s with room := s.room.put {p with attributes := attributes}}
    return if s.admission.closed then s else (s.recheck name sdk).1
  | .trackPublished identity publication => do
    let p ← s.room.get identity
    let p := p.putPublication publication
    let s := {s with room := s.room.put p}
    return if s.admission.closed then s else (s.trackPublished name publication p sdk).1
  | .trackSubscribed identity sid => do
    let (p,publication) ← s.room.publication identity sid
    let s := {s with room := s.room.put (p.setTrack sid true)}
    return if s.admission.closed = false ∧ s.admission.boundAudio publication p = true then s.setChanged else s
  | .trackSubscriptionFailed identity sid => do
    let p ← s.room.get identity
    return if s.admission.closed = false ∧ s.admission.leg.any (·.sid = p.sid) ∧ sid ∈ s.admission.audioRequested
      then (s.abort sdk).1 else s
  | .trackUnsubscribed identity sid => do
    let (p,publication) ← s.room.publication identity sid
    let s := {s with room := s.room.put (p.setTrack sid false)}
    return if s.admission.closed = false ∧ s.admission.audioConnected = true ∧ s.admission.boundAudio publication p = true
      then (s.abort sdk).1 else s
  | .trackUnpublished identity sid => do
    let p ← s.room.get identity
    return {s with room := s.room.put {p with publications := p.publications.filter (·.sid ≠ sid)}}
  | .disconnected =>
    let s := {s with connected := false}
    some (if s.admission.closed then s else (s.abort sdk).1)

inductive Event where
  | room (event : RoomEvent) (removedFirst : Bool) (sdk : Sdk)
  | call (call : Call) (sdk : Sdk)
  | resume (task : Nat) (sdk : Sdk)
  | cancel (task : Nat)
  | close

def step (name : String) (s : Scene) : Event → Option Scene
  | .room event removedFirst sdk => s.onRoom name removedFirst sdk event
  | .call call sdk =>
    let (after,phase) := s.begin name sdk call
    some {after with tasks := after.tasks ++ [⟨call,phase,[s.room]⟩]}
  | .resume i sdk =>
    match s.tasks[i]? with
    | some ⟨call,.suspended true,seen⟩ =>
      let (after,phase) := s.turn name sdk call
      some {after with tasks := after.tasks.set i ⟨call,phase,seen ++ [s.room]⟩}
    | _ => none
  | .cancel i =>
    match s.tasks[i]? with
    | some ⟨call,.suspended _,seen⟩ => some {s with tasks := s.tasks.set i ⟨call,.ended .cancelled,seen⟩}
    | _ => none
  | .close => some s.close

end AidaAgent.SipAdmission
