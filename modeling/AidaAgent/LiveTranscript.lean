import AidaAgent.HistoryMerge
import AidaAgent.TranscriptPublisher

namespace AidaAgent.Live
open PythonText PythonDict Transcripts Transitions Revisions History

-- What send_text is called with.
structure TextStream where
  text : String
  topic : String
  attributes : List (String × String)
  deriving DecidableEq, Repr

def speaker (role : Role) : Speaker := if role = .user then .caller else .assistant

-- str(value).lower() of a bool, and str(value) of a count.
def boolText (value : Bool) : String := if value then "true" else "false"
def countText (value : Nat) : String := String.ofList (Nat.toDigits 10 value)

-- row["content"][0]. Every row has one text.
def rowText (row : Row) : String := row.content.headD ""

def textStream (callId : String) (row : Row) : TextStream :=
  ⟨rowText row,"lk.transcription",[("lk.segment_id",row.segmentId),("lk.transcription_final",boolText row.isFinal),
    ("aida.call_id",callId),("aida.speaker",(speaker row.role).name),("aida.sequence",countText row.sequence)]⟩

-- What a row says of its segment. The identifier of the item is in snapshots only.
structure Revision where
  segmentId : String
  speaker : Speaker
  text : String
  isFinal : Bool
  sequence : Nat
  deriving DecidableEq, Repr

def revision (row : Row) : Revision := ⟨row.segmentId,speaker row.role,rowText row,row.isFinal,row.sequence⟩

def readSpeaker (name : String) : Option Speaker := [Speaker.caller,.assistant].find? (·.name = name)
def readBool (text : String) : Option Bool := [true,false].find? (boolText · = text)

-- An observer of a call reads the revision off the attributes.
def readStream (callId : String) (stream : TextStream) : Option Revision := do
  guard (stream.topic = "lk.transcription" ∧ stream.attributes.lookup "aida.call_id" = some callId)
  let segment ← stream.attributes.lookup "lk.segment_id"
  let name ← stream.attributes.lookup "aida.speaker"
  let final ← stream.attributes.lookup "lk.transcription_final"
  let sequence ← stream.attributes.lookup "aida.sequence"
  return ⟨segment,← readSpeaker name,stream.text,← readBool final,Nat.ofDigitChars 10 sequence.toList 0⟩

theorem readSpeaker_name (who : Speaker) : readSpeaker who.name = some who := by cases who <;> decide
theorem readBool_text (value : Bool) : readBool (boolText value) = some value := by cases value <;> decide

theorem readCount_text (value : Nat) : Nat.ofDigitChars 10 (countText value).toList 0 = value := by
  rw [countText,String.toList_ofList,Nat.ofDigitChars_ten_toDigits]

-- The stream tells its row, to observers of the same call.
theorem read_exact {told : Revision} : readStream callId' (textStream callId row) = some told ↔
    callId' = callId ∧ told = revision row := by
  have told_ : (textStream callId row).topic = "lk.transcription" := rfl
  have call : (textStream callId row).attributes.lookup "aida.call_id" = some callId := rfl
  have segment : (textStream callId row).attributes.lookup "lk.segment_id" = some row.segmentId := rfl
  have name : (textStream callId row).attributes.lookup "aida.speaker" = some (speaker row.role).name := rfl
  have final : (textStream callId row).attributes.lookup "lk.transcription_final" = some (boolText row.isFinal) := rfl
  have sequence : (textStream callId row).attributes.lookup "aida.sequence" = some (countText row.sequence) := rfl
  have text : (textStream callId row).text = rowText row := rfl
  unfold readStream
  rw [told_,call,segment,name,final,sequence,text]
  by_cases same : callId' = callId
  · subst same
    simp only [Option.pure_def,Option.bind_eq_bind,Option.bind_some,readSpeaker_name,readBool_text,readCount_text,
      guard,true_and,if_true,Option.some.injEq]
    exact ⟨fun read => read.symm,fun read => read.symm⟩
  · have other : ¬ callId = callId' := fun again => same again.symm
    simp [guard,same,other]

-- The room's history and the task of _publish beside it. `dropped` are the rows that
-- found the queue full, `attempts` those that send_text was called for, with whether
-- the stream arrived. No handler reads either.
structure Broadcast where
  scene : Scene
  sender : Sender Row
  cancelling : Bool
  dropped : List Row
  attempts : List (Row × Bool)

def Broadcast.opening (items : List ChatItem) (clock : ℚ) : Broadcast := ⟨.opening items clock,.absent,false,[],[]⟩

def Broadcast.queue (b : Broadcast) : List Row := b.scene.history.queue
def Broadcast.closed (b : Broadcast) : Bool := b.scene.history.closed

-- queue.get() and the call of send_text.
def Broadcast.take (b : Broadcast) : Broadcast :=
  match b.scene.history.queue with
  | [] => {b with sender := .waiting}
  | row :: queue => {b with scene := {b.scene with history := {b.scene.history with queue}},sender := .publishing row}

-- From the top of the loop to its next await.
def Broadcast.run (b : Broadcast) : Broadcast := if b.closed then {b with sender := .done} else b.take

-- The history has changed. A row that is put in wakes the sender.
def Broadcast.tell (b : Broadcast) (scene : Scene) : Broadcast :=
  {b with
    scene
    sender := if b.queue.length < scene.history.queue.length then b.sender.wake else b.sender
    dropped := if b.queue.length < queueSize then b.dropped else b.dropped ++ scene.emitted.drop b.scene.emitted.length}

def Broadcast.attempt (b : Broadcast) (row : Row) (arrived : Bool) : Broadcast :=
  {b with attempts := b.attempts ++ [(row,arrived)]}

inductive Event where
  | history (event : History.Event)
  | start
  | resume                                      -- the task takes its first step, or comes back from queue.get()
  | settle (outcome : Outcome) (arrived : Bool) -- of send_text
  | cancelled (arrived : Bool)                  -- the await of a cancelled task raises
  | close

-- A send that fails or takes too long may have arrived all the same. The sender goes
-- on after any of them.
def step (setup : Setup) (b : Broadcast) : Event → Option Broadcast
  | .history .published | .history .close => none
  | .history event => (History.step setup b.scene event).map b.tell
  | .start =>
    match b.sender with
    | .absent => some {b with sender := .created}
    | _ => none
  | .resume =>
    match b.sender,b.cancelling with
    | .created,false => some b.run
    | .woken,false => some b.take
    | _,_ => none
  | .settle outcome arrived =>
    match b.sender with
    | .publishing row => if outcome = .sent ∧ arrived = false then none else some (b.attempt row arrived).run
    | _ => none
  | .cancelled arrived =>
    match b.sender,b.cancelling with
    | .publishing row,true => some {b.attempt row arrived with sender := .done}
    | .created,true | .waiting,true | .woken,true => some {b with sender := .done}
    | _,_ => none
  | .close =>
    let b := {b with scene := {b.scene with history := b.scene.history.close}}
    match b.sender with
    | .absent | .done => some b
    | _ => some {b with cancelling := true}

-- The history changes by live events only, and stays open.
def Lively (b : Broadcast) : Event → Prop
  | .history event => History.Lively b.scene event
  | .close => False
  | .start | .resume | .settle _ _ | .cancelled _ => True

end AidaAgent.Live
