import AidaAgent.LiveDelivery
import AidaAgent.WorkerEndings

namespace AidaAgent.Entrypoint
open JsonText Config Transcripts Control

structure Counts where
  sttEvents : Nat
  sttFinalEvents : Nat
  assistantItems : Nat
  deriving DecidableEq, Repr

def Counts.fields (counts : Counts) : List (String × Json) :=
  [("sttEvents",.int counts.sttEvents),("sttFinalEvents",.int counts.sttFinalEvents),
    ("assistantItems",.int counts.assistantItems)]

-- The log records of a conversation. Those of the startup come before it.
inductive Record where
  | callerFinal (counts : Counts)
  | assistantItem (counts : Counts)
  | sessionError (recoverable : Bool)
  | closing (counts : Counts)
  | deliveryUnavailable
  | queueFull
  | liveUnavailable
  deriving DecidableEq, Repr

abbrev Line : Type := String × List (String × Json)

-- observe(event, **fields)
def observe (dispatch : DispatchConfiguration) (event : String) (fields : List (String × Json)) : Line :=
  ("agent lifecycle",[("callSessionId",.str dispatch.callId),("pbxInstanceId",.str dispatch.pbxInstanceId),
    ("context",.str dispatch.context),("event",.str event)] ++ fields)

def Record.line (dispatch : DispatchConfiguration) : Record → Line
  | .callerFinal counts => observe dispatch "caller-stt-final" counts.fields
  | .assistantItem counts => observe dispatch "assistant-item" counts.fields
  | .sessionError recoverable => observe dispatch "session-error" [("recoverable",.bool recoverable)]
  | .closing counts => observe dispatch "closing" counts.fields
  | .deliveryUnavailable => ("transcript delivery unavailable",[])
  | .queueFull => ("live transcript queue full; history catch-up remains available",[])
  | .liveUnavailable => ("live transcript delivery unavailable",[])

-- What start_authorized creates for the transcripts. `closes` counts those of the two
-- closes in cleanup() that have been called.
structure Feeds where
  stream : TranscriptStream
  publisher : Publisher TranscriptEvent
  broadcast : Live.Broadcast
  closes : Nat

def capacity : Int := 128

def Feeds.opening (call : CallConfiguration) (streamId : Uuid4) : Feeds :=
  ⟨.initial call.callId streamId,.initial capacity,.opening [] 0,0⟩

def payload (setup : Worker.Setup) (e : TranscriptEvent) : Option ByteArray := some (e.payload setup.py)

def Feeds.setup (setup : Worker.Setup) (f : Feeds) : History.Setup := ⟨setup.py,f.stream.callId,setup.roomName⟩

-- `calls` are those of stream.caller and stream.assistant, oldest first; no handler
-- reads them, nor the log.
structure Conversation where
  job : Worker.Job
  feeds : Option Feeds
  counts : Counts
  log : List Record
  calls : List Transcripts.Call

def Conversation.initial (setup : Worker.Setup) (room : Worker.Room) : Conversation :=
  ⟨.initial setup room,none,⟨0,0,0⟩,[],[]⟩

def Conversation.put (c : Conversation) (f : Feeds) : Conversation := {c with feeds := some f}
def Conversation.note (c : Conversation) (record : Record) : Conversation := {c with log := c.log ++ [record]}

-- The publisher has moved. One that closes by itself reports to abort(); the second
-- component is an exception that escapes from there.
def Conversation.settle (c : Conversation) (f : Feeds) (publisher : Publisher TranscriptEvent) (provider : Provider) :
    Conversation × Option Error :=
  let moved := c.put {f with publisher}
  if f.publisher.closed = false ∧ publisher.closed = true then
    ({moved.note .deliveryUnavailable with job := (c.job.abort provider).1},(c.job.abort provider).2)
  else (moved,none)

-- publisher.enqueue(stream.caller(...)), and the same of the assistant
def Conversation.enqueue (c : Conversation) (f : Feeds) (call : Transcripts.Call) (provider : Provider) :
    Conversation × Option Error :=
  let (stream,event) := f.stream.call call
  {c with calls := c.calls ++ [call]}.settle {f with stream} (f.publisher.enqueue event) provider

-- The history is told of something. A row that found the queue full is a warning.
def Conversation.tell (setup : Worker.Setup) (c : Conversation) (f : Feeds) (event : History.Event) : Conversation :=
  match Live.step (f.setup setup) f.broadcast (.history event) with
  | none => c
  | some broadcast =>
    let told := c.put {f with broadcast}
    if f.broadcast.dropped.length < broadcast.dropped.length then told.note .queueFull else told

def Counts.heard (counts : Counts) (final : Bool) : Counts :=
  {counts with
    sttEvents := counts.sttEvents + 1
    sttFinalEvents := counts.sttFinalEvents + if final then 1 else 0}

def Counts.answered (counts : Counts) : Counts := {counts with assistantItems := counts.assistantItems + 1}

def Conversation.count (c : Conversation) (counts : Counts) : Conversation := {c with counts}

-- on_caller, up to the gate
def Conversation.hear (c : Conversation) (final : Bool) : Conversation :=
  let c := c.count (c.counts.heard final)
  if final then c.note (.callerFinal c.counts) else c

def Conversation.onCaller (setup : Worker.Setup) (c : Conversation) (f : Feeds) (text : String) (final : Bool)
    (drawn : Drawn) (segment : Uuid4) (provider : Provider) : Conversation :=
  let c := c.hear final
  if c.job.available then
    match c.enqueue f (.caller text final drawn) provider with
    | (c,some _) => c
    | (c,none) =>
      match c.feeds with
      | none => c
      | some f => c.tell setup f (.caller text final segment)
  else c

-- The assistant's part of on_item. The first gate has just been passed, and nothing
-- stands between it and the second.
def Conversation.onAssistant (c : Conversation) (item : History.ChatItem) (drawn : Drawn) (provider : Provider) :
    Conversation :=
  match c.feeds with
  | none => c
  | some f =>
    let c := c.count c.counts.answered
    ((c.note (.assistantItem c.counts)).enqueue f (.assistant (item.textContent.getD "") item.id drawn) provider).1

-- The session has the item in its history whatever the gate is. An item without a
-- role raises in history.item, or else where the role is read next.
def Conversation.onItem (setup : Worker.Setup) (c : Conversation) (f : Feeds) (item : History.ChatItem) (drawn : Drawn)
    (provider : Provider) : Conversation :=
  if c.job.available then
    let c := c.tell setup f (.item item)
    if item.role = some .assistant then c.onAssistant item drawn provider else c
  else c.tell setup f (.edited (f.broadcast.scene.items ++ [item]))

-- What get_transcript reads of the room and of the call.
def Conversation.request (c : Conversation) (identity payload : String) (token : Uuid4) : History.Request :=
  ⟨identity,payload,c.job.available,(c.job.room.get identity).map (·.attributes),token⟩

def Conversation.answer (setup : Worker.Setup) (c : Conversation) (f : Feeds) (identity payload : String) (token : Uuid4) :
    Except History.Raised History.Page :=
  (f.broadcast.scene.ask (f.setup setup) (c.request identity payload token)).2

-- publisher.start() and history.start(), where the startup comes to them.
def starts (setup : Worker.Setup) (j : Worker.Job) : Worker.Event → Bool
  | .resume answers => j.startup = .publishing && (j.validate setup).isOk && !j.aborted && !j.control.stopping &&
      answers.starts
  | _ => false

def Feeds.start (setup : Worker.Setup) (f : Feeds) : Feeds :=
  {f with
    publisher := (f.publisher.step (payload setup) .start).getD f.publisher
    broadcast := (Live.step (f.setup setup) f.broadcast .start).getD f.broadcast}

-- The stream, the publisher and the history are created with the session.
def Conversation.created (c : Conversation) (job : Worker.Job) (streamId : Uuid4) : Option Feeds :=
  match c.feeds,job.profile with
  | none,some call => some (.opening call streamId)
  | feeds,_ => feeds

-- A step of the job. cleanup() logs the counts before it does anything else.
def Conversation.advance (setup : Worker.Setup) (c : Conversation) (event : Worker.Event) (job : Worker.Job)
    (streamId : Uuid4) : Conversation :=
  let feeds := c.created job streamId
  let feeds := if starts setup c.job event then feeds.map (·.start setup) else feeds
  let advanced := {c with job, feeds}
  if c.job.cleaned = false ∧ job.cleaned = true then advanced.note (.closing c.counts) else advanced

-- The publisher reports its failures itself, and cleanup() closes the history and the
-- publisher before the control.
def Conversation.refuses (c : Conversation) : Worker.Event → Bool
  | .publisherFailed _ => true
  | .clean => c.job.cleanup = .closing && c.feeds.any (·.closes < 2)
  | _ => false

-- A turn of the task of the publisher, or of the history.
inductive Turn where
  | resume
  | settle (outcome : Transcripts.Outcome) (arrived : Bool)
  | cancelled (arrived : Bool)

def Turn.publisher : Turn → PublisherEvent TranscriptEvent
  | .resume => .resume
  | .settle outcome _ => .settle outcome
  | .cancelled _ => .cancelled

def Turn.broadcast : Turn → Live.Event
  | .resume => .resume
  | .settle outcome arrived => .settle outcome arrived
  | .cancelled arrived => .cancelled arrived

-- A send of the history that fails is a warning.
def Turn.fails : Turn → Bool
  | .settle outcome _ => outcome ≠ .sent
  | _ => false

def Conversation.broadcast (setup : Worker.Setup) (c : Conversation) (f : Feeds) (turn : Turn) : Option Conversation :=
  (Live.step (f.setup setup) f.broadcast turn.broadcast).map fun broadcast =>
    let c := c.put {f with broadcast}
    if turn.fails then c.note .liveUnavailable else c

def Conversation.publish (setup : Worker.Setup) (c : Conversation) (f : Feeds) (turn : Turn) (provider : Provider) :
    Option Conversation :=
  (f.publisher.step (payload setup) turn.publisher).map fun publisher => (c.settle f publisher provider).1

-- The closes of cleanup(), in their order.
def Conversation.closing (c : Conversation) (f : Feeds) (closes : Nat) : Bool :=
  c.job.cleaned && c.job.cleanup = .closing && f.closes = closes

def Conversation.closeHistory (setup : Worker.Setup) (c : Conversation) (f : Feeds) : Option Conversation :=
  if c.closing f 0 then
    (Live.step (f.setup setup) f.broadcast .close).map fun broadcast => c.put {f with broadcast, closes := 1}
  else none

def Conversation.closePublisher (setup : Worker.Setup) (c : Conversation) (f : Feeds) : Option Conversation :=
  if c.closing f 1 then
    (f.publisher.step (payload setup) .close).map fun publisher => c.put {f with publisher, closes := 2}
  else none

inductive Event where
  | worker (event : Worker.Event) (streamId : Uuid4)
  | caller (text : String) (final : Bool) (drawn : Drawn) (segment : Uuid4) (provider : Provider)
  | item (item : History.ChatItem) (drawn : Drawn) (provider : Provider)
  | error (recoverable : Bool)
  | edited (items : List History.ChatItem)
  | request (identity payload : String) (token : Uuid4)
  | elapsed (seconds : ℚ)
  | publisher (turn : Turn) (provider : Provider)
  | broadcast (turn : Turn)
  | closeHistory
  | closePublisher

-- An event of the conversation itself, once there is one.
def Conversation.converse (setup : Worker.Setup) (c : Conversation) (f : Feeds) : Event → Option Conversation
  | .worker _ _ => none
  | .caller text final drawn segment provider => some (c.onCaller setup f text final drawn segment provider)
  | .item item drawn provider => some (c.onItem setup f item drawn provider)
  | .error recoverable => some (c.note (.sessionError recoverable))
  | .edited items => some (c.tell setup f (.edited items))
  | .request identity payload token => some (c.tell setup f (.request (c.request identity payload token)))
  | .elapsed seconds => if 0 ≤ seconds then some (c.tell setup f (.elapsed seconds)) else none
  | .publisher turn provider => c.publish setup f turn provider
  | .broadcast turn => c.broadcast setup f turn
  | .closeHistory => c.closeHistory setup f
  | .closePublisher => c.closePublisher setup f

def step (setup : Worker.Setup) (c : Conversation) : Event → Option Conversation
  | .worker event streamId =>
    if c.refuses event then none
    else (Worker.step setup c.job event).map fun job => c.advance setup event job streamId
  | event => c.feeds.bind fun f => c.converse setup f event

end AidaAgent.Entrypoint
