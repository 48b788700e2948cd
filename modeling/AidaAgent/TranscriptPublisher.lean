import AidaAgent.Library.Transitions
import AidaAgent.TranscriptBlanks

namespace AidaAgent.Transcripts
open JsonText Transitions

-- Where the task of _run stands: before its first step, in queue.get() with
-- nothing to take or told that something is there, in publish_data, or over.
inductive Sender (α : Type) where
  | absent | created | waiting | woken
  | publishing (event : α)
  | done

structure Publisher (α : Type) where
  capacity : Int
  queue : List α
  closed : Bool
  sender : Sender α
  cancelling : Bool
  published : List α   -- what publish_data was called with, in order
  failures : Nat       -- calls of on_failure

def Publisher.initial (capacity : Int) : Publisher α := ⟨capacity,[],false,.absent,false,[],0⟩

-- asyncio.Queue.full: a queue without a positive bound never is.
def Publisher.full (p : Publisher α) : Bool := decide (0 < p.capacity) && decide (p.capacity ≤ p.queue.length)

def Publisher.fail (p : Publisher α) : Publisher α :=
  if p.closed then p else {p with closed := true, failures := p.failures + 1}

def Sender.wake : Sender α → Sender α
  | .waiting => .woken
  | sender => sender

def Publisher.put (p : Publisher α) (event : α) : Publisher α :=
  {p with queue := p.queue ++ [event], sender := p.sender.wake}

def Publisher.enqueue (p : Publisher α) : Option α → Publisher α
  | none => p
  | some event => if p.closed then p else if p.full then p.fail else p.put event

-- queue.get() and the call of publish_data. An event that json.dumps or encode
-- refuses is a failure of delivery too, and the loop ends.
def Publisher.take (payload : α → Option ByteArray) (p : Publisher α) : Publisher α :=
  match p.queue with
  | [] => {p with sender := .waiting}
  | event :: rest =>
    match payload event with
    | some _ => {p with queue := rest, sender := .publishing event, published := p.published ++ [event]}
    | none => {p.fail with queue := rest, sender := .done}

-- From the top of the loop to its next await.
def Publisher.run (payload : α → Option ByteArray) (p : Publisher α) : Publisher α :=
  if p.closed then {p with sender := .done} else p.take payload

inductive Outcome where
  | sent | raised | timedOut
  deriving DecidableEq, Repr

inductive PublisherEvent (α : Type) where
  | start
  | enqueue (event : Option α)
  | resume                       -- the task takes its first step, or comes back from queue.get()
  | settle (outcome : Outcome)   -- of publish_data
  | cancelled                    -- the await of a cancelled task raises
  | close

-- There is one start. A cancelled task does not come back from queue.get(); its
-- publish_data may still end by itself.
def Publisher.step (payload : α → Option ByteArray) (p : Publisher α) : PublisherEvent α → Option (Publisher α)
  | .start =>
    match p.sender with
    | .absent => some {p with sender := .created}
    | _ => none
  | .enqueue event => some (p.enqueue event)
  | .resume =>
    match p.sender,p.cancelling with
    | .created,false => some (p.run payload)
    | .woken,false => some (p.take payload)
    | _,_ => none
  | .settle outcome =>
    match p.sender,outcome with
    | .publishing _,.sent => some (p.run payload)
    | .publishing _,_ => some {p.fail with sender := .done}
    | _,_ => none
  | .cancelled =>
    match p.sender,p.cancelling with
    | .created,true | .waiting,true | .woken,true | .publishing _,true => some {p with sender := .done}
    | _,_ => none
  | .close =>
    match p.sender with
    | .absent | .done => some {p with closed := true}
    | _ => some {p with closed := true, cancelling := true}

-- The events that the calls of enqueue put forward.
def enqueued (events : List (PublisherEvent α)) : List (Option α) :=
  events.filterMap fun event =>
    match event with
    | .enqueue event => some event
    | _ => none

def offered (events : List (PublisherEvent α)) : List α := (enqueued events).filterMap id

variable {α : Type} {payload : α → Option ByteArray} {p p' : Publisher α}

@[simp] theorem fail_queue (p : Publisher α) : p.fail.queue = p.queue := by unfold Publisher.fail; split <;> rfl
@[simp] theorem fail_published (p : Publisher α) : p.fail.published = p.published := by
  unfold Publisher.fail
  split <;> rfl
@[simp] theorem fail_sender (p : Publisher α) : p.fail.sender = p.sender := by unfold Publisher.fail; split <;> rfl
@[simp] theorem fail_closed (p : Publisher α) : p.fail.closed = true := by
  unfold Publisher.fail
  split
  · assumption
  · rfl

-- What is published and what waits is what was put forward, until the gate closes;
-- from then on it is the front of it.
structure Flow (front : List α) (p : Publisher α) : Prop where
  sent : p.published <+: front
  queued : p.sender = .done ∨ p.published ++ p.queue <+: front
  live : p.closed = false → p.published ++ p.queue = front

theorem take_flow (flow : Flow front p) (some_ : p.published ++ p.queue <+: front) : Flow front (p.take payload) := by
  unfold Publisher.take
  split
  · rename_i empty
    exact ⟨flow.sent,.inr some_,flow.live⟩
  · rename_i event rest taken
    rw [taken] at some_
    split
    · have shape : p.published ++ [event] ++ rest = p.published ++ event :: rest := by simp
      refine ⟨?_,.inr ?_,fun live => ?_⟩
      · exact (List.prefix_append _ rest).trans (by rw [shape]; exact some_)
      · rw [shape]
        exact some_
      · have whole := flow.live live
        rw [taken] at whole
        rw [shape]
        exact whole
    · refine ⟨?_,.inl rfl,fun live => ?_⟩
      · rw [fail_published]
        exact flow.sent
      · cases (fail_closed p).symm.trans live

theorem run_flow (flow : Flow front p) : Flow front (p.run payload) := by
  unfold Publisher.run
  split
  · rename_i closed
    exact ⟨flow.sent,.inl rfl,fun live => by cases closed.symm.trans live⟩
  · rename_i open_
    simp only [Bool.not_eq_true] at open_
    have whole := flow.live open_
    exact take_flow flow ⟨[],by rw [List.append_nil,whole]⟩

theorem fail_flow (flow : Flow front p) : Flow (front ++ more) p.fail := by
  refine ⟨?_,?_,fun live => ?_⟩
  · rw [fail_published]
    exact flow.sent.trans (List.prefix_append front more)
  · rw [fail_sender,fail_published,fail_queue]
    exact flow.queued.imp id fun queued => queued.trans (List.prefix_append front more)
  · cases (fail_closed p).symm.trans live

theorem enqueue_flow (flow : Flow front p) (event : Option α) : Flow (front ++ event.toList) (p.enqueue event) := by
  cases event with
  | none => simpa [Publisher.enqueue] using flow
  | some event =>
    unfold Publisher.enqueue
    dsimp only
    split
    · rename_i closed
      refine ⟨flow.sent.trans (List.prefix_append front _),?_,fun live => by cases closed.symm.trans live⟩
      exact flow.queued.imp id fun queued => queued.trans (List.prefix_append front _)
    · rename_i open_
      simp only [Bool.not_eq_true] at open_
      split
      · exact fail_flow flow
      · have whole : (p.put event).published ++ (p.put event).queue = front ++ [event] := by
          rw [← flow.live open_,List.append_assoc]
          rfl
        refine ⟨flow.sent.trans (List.prefix_append front _),.inr ?_,fun _ => whole⟩
        rw [whole]
        exact List.prefix_rfl

-- What one event puts forward.
def PublisherEvent.offer : PublisherEvent α → List α
  | .enqueue (some event) => [event]
  | _ => []

theorem offered_snoc (events : List (PublisherEvent α)) (event : PublisherEvent α) :
    offered (events ++ [event]) = offered events ++ event.offer := by
  unfold offered enqueued
  rw [List.filterMap_append,List.filterMap_append]
  congr 1
  cases event with
  | enqueue event => cases event <;> rfl
  | _ => rfl

-- The steps by what they do.
inductive Moves (payload : α → Option ByteArray) (p : Publisher α) : PublisherEvent α → Publisher α → Prop where
  | start : p.sender = .absent → Moves payload p .start {p with sender := .created}
  | enqueue (event : Option α) : Moves payload p (.enqueue event) (p.enqueue event)
  | run : p.sender = .created → Moves payload p .resume (p.run payload)
  | take : p.sender = .woken → Moves payload p .resume (p.take payload)
  | sent (event : α) : p.sender = .publishing event → Moves payload p (.settle .sent) (p.run payload)
  | failed (event : α) : p.sender = .publishing event → outcome ≠ .sent →
      Moves payload p (.settle outcome) {p.fail with sender := .done}
  | cancelled : p.cancelling = true → Moves payload p .cancelled {p with sender := .done}
  | close (cancelling : Bool) : Moves payload p .close {p with closed := true, cancelling := cancelling}

theorem step_moves (next : p.step payload event = some p') : Moves payload p event p' := by
  unfold Publisher.step at next
  cases event with
  | start =>
    dsimp only at next
    split at next
    · rename_i absent
      cases next
      exact .start absent
    · cases next
  | enqueue event =>
    cases next
    exact .enqueue event
  | resume =>
    dsimp only at next
    split at next
    · rename_i created _
      cases next
      exact .run created
    · rename_i woken _
      cases next
      exact .take woken
    · cases next
  | settle outcome =>
    dsimp only at next
    split at next
    · rename_i event publishing
      cases next
      exact .sent event publishing
    · rename_i event publishing failed
      cases next
      exact .failed event publishing failed
    · cases next
  | cancelled =>
    dsimp only at next
    split at next
    all_goals first
      | cases next
        rename_i cancelling
        exact .cancelled cancelling
      | cases next
  | close =>
    dsimp only at next
    split at next
    all_goals
      cases next
      exact .close _

theorem step_flow (flow : Flow front p) (next : p.step payload event = some p') : Flow (front ++ event.offer) p' := by
  have queued : p.sender ≠ .done → p.published ++ p.queue <+: front := flow.queued.resolve_left
  cases step_moves next with
  | start absent =>
    simp only [PublisherEvent.offer,List.append_nil]
    exact ⟨flow.sent,.inr (queued (by simp [absent])),flow.live⟩
  | enqueue event =>
    cases event with
    | none => exact enqueue_flow flow none
    | some event => exact enqueue_flow flow (some event)
  | run => simpa [PublisherEvent.offer] using run_flow flow
  | take woken => simpa [PublisherEvent.offer] using take_flow flow (queued (by simp [woken]))
  | sent => simpa [PublisherEvent.offer] using run_flow flow
  | failed event publishing failed =>
    simp only [PublisherEvent.offer]
    refine ⟨?_,.inl rfl,fun live => by cases (fail_closed p).symm.trans live⟩
    exact (fail_flow flow).sent
  | cancelled =>
    simp only [PublisherEvent.offer,List.append_nil]
    exact ⟨flow.sent,.inl rfl,flow.live⟩
  | close =>
    simp only [PublisherEvent.offer,List.append_nil]
    exact ⟨flow.sent,flow.queued,fun live => by cases live⟩

theorem run_delivers (path : Runs (Publisher.step payload) Anything (.initial capacity) events p) :
    Flow (offered events) p := by
  induction path with
  | nil => exact ⟨List.prefix_rfl,.inr List.prefix_rfl,fun _ => rfl⟩
  | step _ _ next ih =>
    rw [offered_snoc]
    exact step_flow ih next

-- Once the gate is closed nothing is reported, and at most the event that the task
-- was already told of is still published.
def inHand (p : Publisher α) : Nat :=
  match p.sender with
  | .woken => 1
  | _ => 0

theorem inHand_woken (some_ : 0 < inHand p) : p.sender = .woken := by
  unfold inHand at some_
  split at some_
  · assumption
  · cases some_

theorem inHand_most (p : Publisher α) : inHand p ≤ 1 := by
  unfold inHand
  split <;> omega

structure Shut (p p' : Publisher α) : Prop where
  closed : p'.closed = true
  failures : p'.failures = p.failures
  more : ∃ extra, p'.published = p.published ++ extra ∧ extra.length + inHand p' ≤ inHand p

theorem Shut.trans {q : Publisher α} (one : Shut p p') (two : Shut p' q) : Shut p q := by
  obtain ⟨first,grown,small⟩ := one.more
  obtain ⟨second,grown',small'⟩ := two.more
  refine ⟨two.closed,two.failures.trans one.failures,first ++ second,?_,?_⟩
  · rw [grown',grown,List.append_assoc]
  · rw [List.length_append]
    omega

theorem fail_shut (closed : p.closed = true) : p.fail = p := by
  unfold Publisher.fail
  rw [if_pos closed]

theorem Shut.idle (closed : p'.closed = true) (failures : p'.failures = p.failures) (published : p'.published = p.published)
    (hand : inHand p' ≤ inHand p) : Shut p p' := ⟨closed,failures,[],by simpa using published,by simpa using hand⟩

theorem step_shut (closed : p.closed = true) (next : p.step payload event = some p') : Shut p p' := by
  have ran : p.run payload = {p with sender := .done} := by
    unfold Publisher.run
    rw [if_pos closed]
  cases step_moves next with
  | start => exact .idle closed rfl rfl (by simp [inHand])
  | enqueue event =>
    have same : p.enqueue event = p := by
      cases event with
      | none => rfl
      | some event =>
        unfold Publisher.enqueue
        dsimp only
        rw [if_pos closed]
    rw [same]
    exact .idle closed rfl rfl (Nat.le_refl _)
  | run =>
    rw [ran]
    exact .idle closed rfl rfl (Nat.zero_le _)
  | take woken =>
    have hand : inHand p = 1 := by rw [inHand,woken]
    unfold Publisher.take
    split
    · exact .idle closed rfl rfl (by simp [inHand])
    · rename_i event rest _
      split
      · exact ⟨closed,rfl,[event],rfl,by rw [hand]; exact Nat.le_refl _⟩
      · rw [fail_shut closed]
        exact .idle closed rfl rfl (Nat.zero_le _)
  | sent =>
    rw [ran]
    exact .idle closed rfl rfl (Nat.zero_le _)
  | failed =>
    rw [fail_shut closed]
    exact .idle closed rfl rfl (Nat.zero_le _)
  | cancelled => exact .idle closed rfl rfl (Nat.zero_le _)
  | close => exact .idle rfl rfl rfl (Nat.le_refl _)

theorem run_shut (closed : p.closed = true) (path : Runs (Publisher.step payload) Anything p events p') : Shut p p' := by
  induction path with
  | nil => exact .idle closed rfl rfl (Nat.le_refl _)
  | step _ _ next ih => exact ih.trans (step_shut ih.closed next)

-- The gate closes with one report, or without one by close().
structure Counted (quiet : Prop) (p : Publisher α) : Prop where
  live : p.closed = false → p.failures = 0
  once : p.failures ≤ 1
  loud : quiet → p.closed = true → p.failures = 1

theorem fail_counted (counted : Counted quiet p) : Counted quiet p.fail := by
  refine ⟨fun live => (by cases (fail_closed p).symm.trans live),?_,fun still _ => ?_⟩
  all_goals
    unfold Publisher.fail
    split
  · exact counted.once
  · rename_i open_
    simp [counted.live (by simpa using open_)]
  · rename_i closed
    exact counted.loud still closed
  · rename_i open_
    simp [counted.live (by simpa using open_)]

theorem take_counted (counted : Counted quiet p) : Counted quiet (p.take payload) := by
  unfold Publisher.take
  split
  · exact ⟨counted.live,counted.once,counted.loud⟩
  · split
    · exact ⟨counted.live,counted.once,counted.loud⟩
    · have failed := fail_counted counted
      exact ⟨failed.live,failed.once,failed.loud⟩

theorem run_counted (counted : Counted quiet p) : Counted quiet (p.run payload) := by
  unfold Publisher.run
  split
  · exact ⟨counted.live,counted.once,counted.loud⟩
  · exact take_counted counted

theorem step_counted (counted : Counted quiet p) (next : p.step payload event = some p') (still : quiet' → quiet)
    (open_ : event = .close → ¬ quiet') : Counted quiet' p' := by
  have weaker : Counted quiet' p := ⟨counted.live,counted.once,fun here => counted.loud (still here)⟩
  cases step_moves next with
  | start => exact ⟨weaker.live,weaker.once,weaker.loud⟩
  | enqueue event =>
    cases event with
    | none => exact weaker
    | some event =>
      unfold Publisher.enqueue
      dsimp only
      split
      · exact weaker
      · split
        · exact fail_counted weaker
        · exact ⟨weaker.live,weaker.once,weaker.loud⟩
  | run => exact run_counted weaker
  | take => exact take_counted weaker
  | sent => exact run_counted weaker
  | failed =>
    have failed := fail_counted weaker
    exact ⟨failed.live,failed.once,failed.loud⟩
  | cancelled => exact ⟨weaker.live,weaker.once,weaker.loud⟩
  | close => exact ⟨fun live => (by cases live),weaker.once,fun here => absurd here (open_ rfl)⟩

theorem run_reports (path : Runs (Publisher.step payload) Anything (.initial capacity) events p) :
    Counted (∀ event ∈ events, event ≠ .close) p := by
  induction path with
  | nil => exact ⟨fun _ => rfl,Nat.zero_le _,fun _ closed => by cases closed⟩
  | step _ _ next ih =>
    apply step_counted ih next
    · exact fun none event member => none event (List.mem_append_left _ member)
    · exact fun same none => none _ (by simp) same

-- An event is lost where the queue has no room for it, or its delivery fails.
inductive Gap (payload : α → Option ByteArray) (p : Publisher α) : PublisherEvent α → Prop where
  | overflow (event : α) : p.closed = false → p.full = true → Gap payload p (.enqueue (some event))
  | delivery : outcome ≠ .sent → Gap payload p (.settle outcome)

theorem gap_closes (gap : Gap payload p event) (next : p.step payload event = some p') : p'.closed = true := by
  cases gap with
  | overflow event open_ full =>
    cases Option.some.inj next
    unfold Publisher.enqueue
    simp only [open_,full,Bool.false_eq_true,if_false,if_true,fail_closed]
  | delivery failed =>
    cases step_moves next with
    | sent => exact absurd rfl failed
    | failed => exact fail_closed p

theorem settle_hand (failed : outcome ≠ .sent) (next : p.step payload (.settle outcome) = some p') :
    p'.published = p.published ∧ inHand p' = 0 := by
  cases step_moves next with
  | sent => exact absurd rfl failed
  | failed => exact ⟨fail_published p,rfl⟩

theorem overflow_hand (open_ : p.closed = false) (full : p.full = true)
    (next : p.step payload (.enqueue (some event)) = some p') :
    p'.published = p.published ∧ inHand p' = inHand p := by
  cases Option.some.inj next
  have failed : p.enqueue (some event) = p.fail := by
    unfold Publisher.enqueue
    simp only [open_,full,Bool.false_eq_true,if_false,if_true]
  rw [failed]
  exact ⟨fail_published p,by rw [inHand,inHand,fail_sender]⟩

structure Delivered (payload : α → Option ByteArray) (capacity : Int) (events : List (PublisherEvent α))
    (p : Publisher α) : Prop where
  front : p.published <+: offered events
  failed : ∀ earlier outcome later middle, events = earlier ++ .settle outcome :: later →
    Runs (Publisher.step payload) Anything (.initial capacity) earlier middle → outcome ≠ .sent →
      p.published = middle.published
  overflowed : ∀ earlier event later middle, events = earlier ++ .enqueue (some event) :: later →
    Runs (Publisher.step payload) Anything (.initial capacity) earlier middle →
    middle.closed = false → middle.full = true →
      ∃ extra, p.published = middle.published ++ extra ∧ extra.length ≤ 1 ∧ (extra ≠ [] → middle.sender = .woken)
  once : p.failures ≤ 1
  closed : ∀ earlier later middle, events = earlier ++ .close :: later →
    Runs (Publisher.step payload) Anything (.initial capacity) earlier middle → p.failures = middle.failures
  reported : ∀ earlier event later middle, events = earlier ++ event :: later →
    Runs (Publisher.step payload) Anything (.initial capacity) earlier middle →
    (∀ other ∈ earlier, other ≠ .close) → Gap payload middle event → p.failures = 1

-- The rest of a run, from a step in its middle.
theorem run_after (path : Runs (Publisher.step payload) Anything (.initial capacity) (earlier ++ event :: later) p)
    (passed : Runs (Publisher.step payload) Anything (.initial capacity) earlier middle) :
    ∃ after, middle.step payload event = some after ∧ Runs (Publisher.step payload) Anything after later p := by
  obtain ⟨same,front,back⟩ := path.split
  cases front.unique passed
  obtain ⟨after,_,next,rest⟩ := back.uncons
  exact ⟨after,next,rest⟩

theorem run_delivered (path : Runs (Publisher.step payload) Anything (.initial capacity) events p) :
    Delivered payload capacity events p := by
  refine ⟨(run_delivers path).sent,?_,?_,(run_reports path).once,?_,?_⟩
  · rintro earlier outcome later middle rfl passed failed
    obtain ⟨after,next,rest⟩ := run_after path passed
    have shut := run_shut (gap_closes (.delivery failed) next) rest
    obtain ⟨same,empty⟩ := settle_hand failed next
    obtain ⟨extra,grown,small⟩ := shut.more
    have none : extra = [] := List.eq_nil_of_length_eq_zero (by omega)
    rw [grown,none,List.append_nil,same]
  · rintro earlier event later middle rfl passed open_ full
    obtain ⟨after,next,rest⟩ := run_after path passed
    have shut := run_shut (gap_closes (.overflow event open_ full) next) rest
    obtain ⟨same,hand⟩ := overflow_hand open_ full next
    obtain ⟨extra,grown,small⟩ := shut.more
    rw [same] at grown
    have most := inHand_most middle
    refine ⟨extra,grown,by omega,fun some_ => ?_⟩
    have positive := List.length_pos_iff.mpr some_
    apply inHand_woken
    omega
  · rintro earlier later middle rfl passed
    obtain ⟨after,next,rest⟩ := run_after path passed
    have moved := step_moves next
    cases moved with
    | close => exact (run_shut rfl rest).failures
  · rintro earlier event later middle rfl passed quiet gap
    obtain ⟨after,next,rest⟩ := run_after path passed
    have closed := gap_closes gap next
    rw [(run_shut closed rest).failures]
    apply (run_reports (passed.step trivial next)).loud _ closed
    intro other member
    rcases List.mem_append.mp member with before | here
    · exact quiet other before
    · rw [List.mem_singleton.mp here]
      rintro rfl
      cases gap

-- The events of one stream, put forward in their order, arrive numbered from 1.
theorem run_numbered {payload : TranscriptEvent → Option ByteArray} {p : Publisher TranscriptEvent}
    (path : Runs (Publisher.step payload) Anything (.initial capacity) events p)
    (order : enqueued events <+: (TranscriptStream.initial callId streamId).produced calls) :
    p.published.map (·.sequence) = List.range' 1 p.published.length := by
  obtain ⟨rest,whole⟩ := order
  obtain ⟨waiting,sent⟩ := (run_delivers path).sent
  have numbered := produced_numbered (TranscriptStream.initial callId streamId) calls
  rw [← whole,List.filterMap_append,← offered,← sent] at numbered
  simp only [List.map_append,List.append_assoc,List.length_append] at numbered
  rw [← List.range'_append_1] at numbered
  exact List.append_inj_left numbered (by simp)

theorem transcript_delivery :
    (∀ (α : Type) (payload : α → Option ByteArray) capacity events p,
      Runs (Publisher.step payload) Anything (.initial capacity) events p → Delivered payload capacity events p) ∧
    ∀ py callId streamId calls capacity events p,
      Runs (Publisher.step fun e => some (TranscriptEvent.payload py e)) Anything (.initial capacity) events p →
      enqueued events <+: (TranscriptStream.initial callId streamId).produced calls →
        p.published.map (·.sequence) = List.range' 1 p.published.length :=
  ⟨fun _ _ _ _ _ path => run_delivered path,fun _ _ _ _ _ _ _ path order => run_numbered path order⟩

-- A queue of one that overflows while the first event is sent, a send that raises with
-- two events sent and one waiting, and two events of a stream.
theorem sample_delivery :
    Delivered (fun _ : Nat => some ByteArray.empty) 1
      [.start,.resume,.enqueue (some 7),.resume,.enqueue none,.enqueue (some 8),.enqueue (some 9),.settle .sent]
      ⟨1,[8],true,.done,false,[7],1⟩ ∧
    Delivered (fun _ : Nat => some ByteArray.empty) 3
      [.start,.enqueue (some 7),.enqueue (some 8),.enqueue (some 9),.resume,.settle .sent,.settle .raised]
      ⟨3,[9],true,.done,false,[7,8],1⟩ ∧
    ∃ p : Publisher TranscriptEvent, p.published.length = 2 ∧ p.published.map (·.sequence) = List.range' 1 2 := by
  refine ⟨transcript_delivery.1 Nat _ 1 _ _ (run_exact.mp rfl),transcript_delivery.1 Nat _ 3 _ _ (run_exact.mp rfl),?_⟩
  obtain ⟨one,first,_⟩ := @output_spoken (.caller "Can you help" false (sampleDrawn 1)) [] sampleStream (by decide)
  obtain ⟨two,second,_⟩ := @output_spoken (.assistant "Yes." "item" (sampleDrawn 2))
    [.caller "Can you help" false (sampleDrawn 1)] sampleStream (by decide)
  have path : Runs (Publisher.step fun e => some (TranscriptEvent.payload verbatim e)) Anything (.initial 128)
      [.start,.enqueue (some one),.enqueue (some two),.resume,.settle .sent]
      ⟨128,[],false,.publishing two,false,[one,two],0⟩ := run_exact.mp rfl
  have order : [some one,some two] <+: sampleStream.produced sampleCalls := by
    rw [← first,← second]
    exact List.prefix_append _ _
  exact ⟨_,rfl,transcript_delivery.2 _ _ _ sampleCalls _ _ _ path order⟩

end AidaAgent.Transcripts
