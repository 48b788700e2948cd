import AidaAgent.EntrypointHandset

namespace AidaAgent.Transcripts
open JsonText PythonText

-- A packet of the topic "transcript", as the one who receives it has it.
structure Packet where
  callId : String
  eventId : String
  streamId : String
  sequence : Nat
  segmentId : String
  text : String
  isFinal : Bool
  timestamp : String
  speaker : Speaker
  deriving DecidableEq, Repr

def TranscriptEvent.packet (e : TranscriptEvent) : Packet :=
  ⟨e.callId,e.eventId.text,e.streamId.text,e.sequence,e.segmentId,e.text,e.isFinal,e.timestamp,e.speaker⟩

def textAt (fields : List (String × Json)) (key : String) : Option String :=
  match get fields key with
  | some (.str text) => some text
  | _ => none

def numberAt (fields : List (String × Json)) (key : String) : Option Nat :=
  match get fields key with
  | some (.int (.ofNat value)) => some value
  | _ => none

def flagAt (fields : List (String × Json)) (key : String) : Option Bool :=
  match get fields key with
  | some (.bool value) => some value
  | _ => none

def speakerNamed (name : String) : Option Speaker :=
  if name = Speaker.caller.name then some .caller else if name = Speaker.assistant.name then some .assistant else none

-- The contract of these packets, read from the outside.
def readPacket (fields : List (String × Json)) : Option Packet := do
  if (← textAt fields "type") ≠ "transcript" then none
  let callId ← textAt fields "callId"
  let eventId ← textAt fields "eventId"
  let streamId ← textAt fields "streamId"
  let sequence ← numberAt fields "sequence"
  let segmentId ← textAt fields "segmentId"
  let text ← textAt fields "text"
  let isFinal ← flagAt fields "isFinal"
  let timestamp ← textAt fields "timestamp"
  let speaker ← (textAt fields "speaker").bind speakerNamed
  return ⟨callId,eventId,streamId,sequence,segmentId,text,isFinal,timestamp,speaker⟩

def receive (reader : Interpreter) (bytes : ByteArray) : Option Packet :=
  match loadsBytes reader bytes with
  | some (.obj fields) => readPacket fields
  | _ => none

def TranscriptEvent.fields (e : TranscriptEvent) : List (String × Json) :=
  [("type",.str "transcript"),("callId",.str e.callId),("eventId",.str e.eventId.text),
    ("streamId",.str e.streamId.text),("sequence",.int e.sequence),("segmentId",.str e.segmentId),
    ("text",.str e.text),("isFinal",.bool e.isFinal),("timestamp",.str e.timestamp),
    ("speaker",.str e.speaker.name)]

end AidaAgent.Transcripts

namespace AidaAgent.Entrypoint
open JsonText Config Transcripts Control Transitions

end AidaAgent.Entrypoint
