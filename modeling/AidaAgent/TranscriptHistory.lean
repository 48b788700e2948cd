import AidaAgent.Config
import AidaAgent.Library.JsonDepth
import AidaAgent.Library.PythonDict
import AidaAgent.Library.Transitions
import AidaAgent.Transcripts

namespace AidaAgent.History
open JsonText PythonText PythonDict Transcripts Config

def pageChars : Nat := 6000
def maxSnapshotChars : Nat := 2 * 1024 * 1024
def queueSize : Nat := 128
def maxTransfers : Nat := 32

inductive Role where
  | developer | system | user | assistant
  deriving DecidableEq, Repr

def Role.text : Role → String
  | .developer => "developer"
  | .system => "system"
  | .user => "user"
  | .assistant => "assistant"

inductive ItemType where
  | message | functionCall | functionCallOutput | other (name : String)
  deriving DecidableEq, Repr

-- An item of session.history. Only a message needs to have a role.
structure ChatItem where
  id : String
  type : ItemType
  role : Option Role
  textContent : Option String
  typed : type = .message → role ≠ none

structure Row where
  id : String
  segmentId : String
  role : Role
  content : List String
  isFinal : Bool
  sequence : Nat
  deriving DecidableEq, Repr

def Row.json (row : Row) : Json :=
  .obj [("id",.str row.id),("segment_id",.str row.segmentId),("role",.str row.role.text),
    ("content",.arr (row.content.map .str)),("is_final",.bool row.isFinal),("sequence",.int row.sequence)]

-- A frozen snapshot: the reading of time.monotonic() in seconds, the token, the text.
structure Frozen where
  started : ℚ
  token : Uuid4
  text : String

structure TranscriptHistory where
  sequence : Nat
  committed : List (String × (String × Nat))
  pending : Option Row
  callerFinals : List String
  snapshots : List (String × Frozen)
  queue : List Row
  closed : Bool

def TranscriptHistory.initial : TranscriptHistory := ⟨0,[],none,[],[],[],false⟩

-- The call and what it runs on.
structure Setup where
  py : Interpreter
  callId : String
  room : String

def TranscriptHistory.row (h : TranscriptHistory) (segmentId : String) (role : Role) (text : String) (final : Bool) :
    TranscriptHistory × Row :=
  let h := {h with sequence := h.sequence + 1}
  (h,⟨segmentId,segmentId,role,[text],final,h.sequence⟩)

-- put_nowait. A row the queue has no room for is dropped.
def TranscriptHistory.enqueue (h : TranscriptHistory) (row : Row) : TranscriptHistory :=
  if h.queue.length < queueSize then {h with queue := h.queue ++ [row]} else h

def callerSegment (drawn : Uuid4) : String := "caller-" ++ drawn.text

-- `drawn` is what uuid4() gives where it is asked. The row is the one passed to _enqueue.
def TranscriptHistory.caller (h : TranscriptHistory) (text : String) (final : Bool) (drawn : Uuid4) :
    TranscriptHistory × Option Row :=
  if h.closed = true ∨ isBlank text = true then (h,none)
  else
    let segment := match h.pending with
      | some pending => pending.segmentId
      | none => callerSegment drawn
    let combined := " ".intercalate (h.callerFinals ++ [text])
    let (h,row) := h.row segment .user combined false
    let h := {h with pending := some row}
    let h := if final then {h with callerFinals := h.callerFinals ++ [text]} else h
    (h.enqueue row,some row)

-- `not item.text_content`
def lacksText (content : Option String) : Bool :=
  match content with
  | none => true
  | some text => text == ""

structure AttributeError where
  name : String
  deriving DecidableEq, Repr

def TranscriptHistory.item (h : TranscriptHistory) (item : ChatItem) :
    Except AttributeError (TranscriptHistory × Option Row) :=
  if h.closed then .ok (h,none)
  else
    match item.role,item.textContent with
    | none,_ => .error ⟨"role"⟩
    | some role,content =>
      if (role ≠ .user ∧ role ≠ .assistant) ∨ lacksText content = true then .ok (h,none)
      else
        let text := content.getD ""
        let segment := match role,h.pending with
          | .user,some pending => pending.segmentId
          | _,_ => item.id
        let (h,row) := h.row segment role text true
        let row := {row with id := item.id}
        let h := {h with committed := put h.committed item.id (segment,row.sequence)}
        let h := if role = .user then {h with pending := none,callerFinals := []} else h
        .ok (h.enqueue row,some row)

-- The entry of one item of session.history, if snapshot() lists it.
def TranscriptHistory.entry (h : TranscriptHistory) (item : ChatItem) : Option Row :=
  match item.type,item.role,item.textContent with
  | .message,some role,some text =>
    if (role = .user ∨ role = .assistant) ∧ text ≠ "" then
      let (segment,sequence) := (h.committed.lookup item.id).getD (item.id,0)
      some ⟨item.id,segment,role,[text],true,sequence⟩
    else none
  | _,_,_ => none

def TranscriptHistory.snapshot (h : TranscriptHistory) (items : List ChatItem) : List Row :=
  items.filterMap h.entry ++ h.pending.toList

-- json.dumps(self.snapshot(),ensure_ascii=True,separators=(",",":"))
def snapshotText (setup : Setup) (rows : List Row) : String :=
  dumps setup.py ⟨true,false⟩ (.obj [("callId",.str setup.callId),("items",.arr (rows.map Row.json))])

-- What an RPC brings, what its handler reads of the room and of the call, and what
-- uuid4() gives where it is asked.
structure Request where
  callerIdentity : String
  payload : String
  available : Bool
  participant : Option (List (String × String))
  token : Uuid4

-- A RecursionError of json.loads leaves the handler as it is.
inductive Raised where
  | rpcError (code : Nat) (message : String)
  | recursionError
  deriving DecidableEq, Repr

structure Page where
  snapshotId : Uuid4
  text : String
  nextOffset : Option Nat

def Page.json (page : Page) : Json :=
  .obj [("snapshotId",.str page.snapshotId.text),("text",.str page.text),
    ("nextOffset",page.nextOffset.elim .null fun offset => .int offset)]

-- The response of the RPC: json.dumps of the page.
def Page.response (py : Interpreter) (page : Page) : String := dumps py ⟨true,true⟩ page.json

def TranscriptHistory.authorized (h : TranscriptHistory) (setup : Setup) (r : Request) : Bool :=
  !h.closed && r.available &&
    match r.participant with
    | none => false
    | some attributes => "admin-observer-".toList.isPrefixOf r.callerIdentity.toList &&
        attributes.lookup "aida.transcriptObserver" == some setup.room

def invalidRequest : Raised := .rpcError 2002 "Invalid transcript request"

-- The offset, and the request it is part of.
def readRequest (py : Interpreter) (payload : String) : Except Raised (Nat × List (String × Json)) :=
  match decode py (if payload = "" then "{}" else payload) with
  | .recursionError => .error .recursionError
  | .valueError => .error invalidRequest
  | .value (.obj request) =>
    match (get request "offset").getD (.int 0) with
    | .int offset => if offset < 0 then .error invalidRequest else .ok (offset.toNat,request)
    | _ => .error invalidRequest
  | .value _ => .error invalidRequest

-- The first page: a snapshot of its own for the observer.
def TranscriptHistory.freeze (h : TranscriptHistory) (setup : Setup) (items : List ChatItem) (now : ℚ) (r : Request) :
    Except Raised TranscriptHistory :=
  let text := snapshotText setup (h.snapshot items)
  if maxSnapshotChars < text.length then .error (.rpcError 2003 "Transcript exceeds history transfer limit")
  else if maxTransfers ≤ h.snapshots.length ∧ r.callerIdentity ∉ keys h.snapshots then
    .error (.rpcError 2004 "Transcript history busy; retry")
  else .ok {h with snapshots := put h.snapshots r.callerIdentity ⟨now,r.token,text⟩}

def slice (text : String) (start stop : Nat) : String := String.ofList ((text.toList.drop start).take (stop - start))

-- `request.get("snapshotId") == token`
def names (request : List (String × Json)) (token : Uuid4) : Bool :=
  match get request "snapshotId" with
  | some value => isText value token.text
  | none => false

-- A page of the snapshot the observer has. The last one discards it.
def TranscriptHistory.page (h : TranscriptHistory) (identity : String) (offset : Nat) (request : List (String × Json)) :
    TranscriptHistory × Except Raised Page :=
  match h.snapshots.lookup identity with
  | none => (h,.error (.rpcError 2002 "Transcript snapshot expired; retry"))
  | some snapshot =>
    if snapshot.text.length ≤ offset ∨ (offset ≠ 0 ∧ names request snapshot.token = false) then
      (h,.error (.rpcError 2002 "Transcript snapshot expired; retry"))
    else
      let stop := min (offset + pageChars) snapshot.text.length
      let result : Page := ⟨snapshot.token,slice snapshot.text offset stop,
        if stop < snapshot.text.length then some stop else none⟩
      (if stop = snapshot.text.length then {h with snapshots := erase h.snapshots identity} else h,.ok result)

def TranscriptHistory.getTranscript (h : TranscriptHistory) (setup : Setup) (items : List ChatItem) (now : ℚ)
    (r : Request) : TranscriptHistory × Except Raised Page :=
  if h.authorized setup r = false then (h,.error (.rpcError 2001 "Transcript access unavailable"))
  else
    match readRequest setup.py r.payload with
    | .error e => (h,.error e)
    | .ok (offset,request) =>
      let h := {h with snapshots := h.snapshots.filter fun e => now - e.2.started < 60}
      if offset = 0 then
        match h.freeze setup items now r with
        | .error e => (h,.error e)
        | .ok h => h.page r.callerIdentity offset request
      else h.page r.callerIdentity offset request

theorem enqueue_frame (h : TranscriptHistory) (row : Row) : ∃ queue, h.enqueue row = {h with queue} := by
  unfold TranscriptHistory.enqueue
  split
  · exact ⟨_,rfl⟩
  · exact ⟨h.queue,rfl⟩

-- Rows told leave the snapshots as they are.
theorem caller_frame (h : TranscriptHistory) (text : String) (final : Bool) (drawn : Uuid4) :
    (h.caller text final drawn).1.snapshots = h.snapshots := by
  unfold TranscriptHistory.caller
  split
  · rfl
  · dsimp only
    obtain ⟨queue,queued⟩ := enqueue_frame _ _
    rw [queued]
    cases final <;> rfl

theorem item_frame {h : TranscriptHistory} (passed : h.item given = .ok after) : after.1.snapshots = h.snapshots := by
  unfold TranscriptHistory.item at passed
  split at passed
  · cases passed
    rfl
  · split at passed
    · cases passed
    · split at passed
      · cases passed
        rfl
      · cases passed
        dsimp only
        obtain ⟨queue,queued⟩ := enqueue_frame _ _
        rw [queued]
        split <;> rfl

-- A request touches the snapshots only.
theorem page_frame (h : TranscriptHistory) (identity : String) (offset : Nat) (request : List (String × Json)) :
    ∃ snapshots, (h.page identity offset request).1 = {h with snapshots} := by
  unfold TranscriptHistory.page
  split
  · exact ⟨h.snapshots,rfl⟩
  · split
    · exact ⟨h.snapshots,rfl⟩
    · dsimp only
      split
      · exact ⟨_,rfl⟩
      · exact ⟨h.snapshots,rfl⟩

theorem freeze_frame {h : TranscriptHistory} (frozen : h.freeze setup items now r = .ok h') :
    ∃ snapshots, h' = {h with snapshots} := by
  unfold TranscriptHistory.freeze at frozen
  dsimp only at frozen
  split at frozen
  · cases frozen
  · split at frozen
    · cases frozen
    · cases frozen
      exact ⟨_,rfl⟩

theorem getTranscript_frame (h : TranscriptHistory) (setup : Setup) (items : List ChatItem) (now : ℚ) (r : Request) :
    ∃ snapshots, (h.getTranscript setup items now r).1 = {h with snapshots} := by
  unfold TranscriptHistory.getTranscript
  split
  · exact ⟨h.snapshots,rfl⟩
  · split
    · exact ⟨h.snapshots,rfl⟩
    · dsimp only
      split
      · split
        · exact ⟨_,rfl⟩
        · rename_i frozen
          obtain ⟨_,rfl⟩ := freeze_frame frozen
          exact page_frame _ _ _ _
      · exact page_frame _ _ _ _

def TranscriptHistory.close (h : TranscriptHistory) : TranscriptHistory := {h with closed := true,snapshots := []}

-- The session around it. `emitted` are the rows passed to _enqueue, oldest first; no
-- handler reads them.
structure Scene where
  history : TranscriptHistory
  items : List ChatItem
  clock : ℚ
  emitted : List Row

def Scene.opening (items : List ChatItem) (clock : ℚ) : Scene := ⟨.initial,items,clock,[]⟩

def Scene.snapshot (s : Scene) : List Row := s.history.snapshot s.items

def Scene.emit (s : Scene) (after : TranscriptHistory × Option Row) : Scene :=
  {s with history := after.1,emitted := s.emitted ++ after.2.toList}

inductive Event where
  | caller (text : String) (final : Bool) (drawn : Uuid4)
  | item (item : ChatItem)
  | edited (items : List ChatItem)
  | published
  | request (r : Request)
  | elapsed (seconds : ℚ)
  | close

def Scene.ask (setup : Setup) (s : Scene) (r : Request) : Scene × Except Raised Page :=
  let (history,answer) := s.history.getTranscript setup s.items s.clock r
  ({s with history},answer)

def step (setup : Setup) (s : Scene) : Event → Option Scene
  | .caller text final drawn => some (s.emit (s.history.caller text final drawn))
  -- The session appends the item to its history and calls item() in the same step.
  | .item item =>
    let s := {s with items := s.items ++ [item]}
    match s.history.item item with
    | .ok after => some (s.emit after)
    | .error _ => some s
  | .edited items => some {s with items}
  -- _publish takes the next row off the queue.
  | .published =>
    match s.history.queue with
    | [] => none
    | _ :: rest => if s.history.closed then none else some {s with history := {s.history with queue := rest}}
  | .request r => some (s.ask setup r).1
  | .elapsed seconds => if 0 ≤ seconds then some {s with clock := s.clock + seconds} else none
  | .close => some {s with history := s.history.close}

-- What one step can do.
inductive Steps (setup : Setup) (s : Scene) : Event → Scene → Prop where
  | caller : Steps setup s (.caller text final drawn) (s.emit (s.history.caller text final drawn))
  | told : s.history.item given = .ok after →
      Steps setup s (.item given) (Scene.emit {s with items := s.items ++ [given]} after)
  | raised : s.history.item given = .error e → Steps setup s (.item given) {s with items := s.items ++ [given]}
  | edited : Steps setup s (.edited items) {s with items}
  | published : s.history.queue = row :: queue → s.history.closed = false →
      Steps setup s .published {s with history := {s.history with queue}}
  | request : Steps setup s (.request r) (s.ask setup r).1
  | elapsed : 0 ≤ seconds → Steps setup s (.elapsed seconds) {s with clock := s.clock + seconds}
  | close : Steps setup s .close {s with history := s.history.close}

theorem step_cases (moved : step setup s event = some s') : Steps setup s event s' := by
  cases event with
  | caller => cases Option.some.inj moved; exact .caller
  | item item =>
    simp only [step] at moved
    split at moved
    · rename_i passed
      cases Option.some.inj moved
      exact .told passed
    · rename_i failed
      cases Option.some.inj moved
      exact .raised failed
  | edited => cases Option.some.inj moved; exact .edited
  | published =>
    simp only [step] at moved
    split at moved
    · cases moved
    · rename_i waiting
      split at moved
      · cases moved
      · rename_i running
        cases Option.some.inj moved
        exact .published waiting (by simpa using running)
  | request => cases Option.some.inj moved; exact .request
  | elapsed seconds =>
    simp only [step] at moved
    split at moved
    · rename_i forward
      cases Option.some.inj moved
      exact .elapsed forward
    · cases moved
  | close => cases Option.some.inj moved; exact .close

end AidaAgent.History
