import AidaAgent.LiveDelivery

namespace AidaAgent.Transcripts

variable {α β : Type} {g : α → β} {payload : α → Option ByteArray} {payload' : β → Option ByteArray}

def Sender.map (g : α → β) : Sender α → Sender β
  | .absent => .absent
  | .created => .created
  | .waiting => .waiting
  | .woken => .woken
  | .publishing event => .publishing (g event)
  | .done => .done

def Publisher.map (g : α → β) (p : Publisher α) : Publisher β :=
  ⟨p.capacity,p.queue.map g,p.closed,p.sender.map g,p.cancelling,p.published.map g,p.failures⟩

def PublisherEvent.map (g : α → β) : PublisherEvent α → PublisherEvent β
  | .start => .start
  | .enqueue event => .enqueue (event.map g)
  | .resume => .resume
  | .settle outcome => .settle outcome
  | .cancelled => .cancelled
  | .close => .close

theorem fail_map (p : Publisher α) : (p.map g).fail = p.fail.map g := by
  cases closed : p.closed <;> simp [Publisher.fail,Publisher.map,closed]

theorem wake_map (sender : Sender α) : (sender.map g).wake = sender.wake.map g := by cases sender <;> rfl

theorem enqueue_map (p : Publisher α) (event : Option α) : (p.map g).enqueue (event.map g) = (p.enqueue event).map g := by
  cases event with
  | none => rfl
  | some event =>
    have full : (p.map g).full = p.full := by
      have length : (p.map g).queue.length = p.queue.length := List.length_map _
      rw [Publisher.full,Publisher.full,length]
      rfl
    have put : (p.map g).put (g event) = (p.put event).map g := by
      simp [Publisher.put,Publisher.map,wake_map]
    simp only [Publisher.enqueue,Option.map_some,full,put,fail_map]
    cases closed : p.closed with
    | true => simp [Publisher.map,closed]
    | false =>
      have open_ : (p.map g).closed = false := closed
      cases p.full <;> simp [open_]

-- A publisher reads nothing of an event but whether it can be written.
theorem take_map (pays : ∀ event, (payload' (g event)).isSome = (payload event).isSome) (p : Publisher α) :
    (p.map g).take payload' = (p.take payload).map g := by
  have queue : (p.map g).queue = p.queue.map g := rfl
  unfold Publisher.take
  rw [queue]
  cases p.queue with
  | nil => rfl
  | cons event rest =>
    have pay := pays event
    simp only [List.map_cons]
    cases written : payload event with
    | none =>
      rw [written,Option.isSome_none,Option.isSome_eq_false_iff,Option.isNone_iff_eq_none] at pay
      rw [pay,fail_map]
      rfl
    | some bytes =>
      obtain ⟨other,same⟩ := Option.isSome_iff_exists.mp (pay.trans (by rw [written]; rfl))
      rw [same]
      simp [Publisher.map,Sender.map]

theorem run_map (pays : ∀ event, (payload' (g event)).isSome = (payload event).isSome) (p : Publisher α) :
    (p.map g).run payload' = (p.run payload).map g := by
  have closed : (p.map g).closed = p.closed := rfl
  unfold Publisher.run
  rw [closed,take_map pays]
  cases p.closed <;> rfl

theorem step_map (pays : ∀ event, (payload' (g event)).isSome = (payload event).isSome) (p : Publisher α)
    (event : PublisherEvent α) : (p.map g).step payload' (event.map g) = (p.step payload event).map (·.map g) := by
  have sender : (p.map g).sender = p.sender.map g := rfl
  have cancelling : (p.map g).cancelling = p.cancelling := rfl
  cases event with
  | start =>
    simp only [Publisher.step,PublisherEvent.map,sender]
    cases p.sender <;> rfl
  | enqueue event =>
    simp only [Publisher.step,PublisherEvent.map,Option.map_some,enqueue_map]
  | resume =>
    simp only [Publisher.step,PublisherEvent.map,sender,cancelling,run_map pays,take_map pays]
    cases p.sender <;> cases p.cancelling <;> rfl
  | settle outcome =>
    simp only [Publisher.step,PublisherEvent.map,sender,run_map pays,fail_map]
    cases p.sender <;> cases outcome <;> rfl
  | cancelled =>
    simp only [Publisher.step,PublisherEvent.map,sender,cancelling]
    cases p.sender <;> cases p.cancelling <;> rfl
  | close =>
    simp only [Publisher.step,PublisherEvent.map,sender]
    cases p.sender <;> rfl

-- What is left of a publisher when all its events look the same.
def Publisher.shape (p : Publisher α) : Publisher Unit := p.map fun _ => ()
def Sender.shape (sender : Sender α) : Sender Unit := sender.map fun _ => ()

end AidaAgent.Transcripts

namespace AidaAgent.Live
open JsonText PythonText PythonDict Transcripts Transitions History

-- Calls of the history that differ in no more than the words.
inductive SameWords : History.Event → History.Event → Prop where
  | caller : isBlank text = isBlank text' → SameWords (.caller text final drawn) (.caller text' final' drawn')
  | item {given given' : ChatItem} : given.role = given'.role → lacksText given.textContent = lacksText given'.textContent →
      SameWords (.item given) (.item given')
  | edited : SameWords (.edited items) (.edited items')
  | request : SameWords (.request r) (.request r')
  | elapsed : SameWords (.elapsed seconds) (.elapsed seconds')

theorem caller_tells (h : TranscriptHistory) (text : String) (final : Bool) (drawn : Uuid4) :
    (h.caller text final drawn).2.toList.length = if h.closed = true ∨ isBlank text = true then 0 else 1 := by
  unfold TranscriptHistory.caller
  split <;> rfl

theorem item_tells {h : TranscriptHistory} {given : ChatItem} (passed : h.item given = .ok after) :
    after.2.toList.length =
      if h.closed = true ∨ (given.role ≠ some .user ∧ given.role ≠ some .assistant) ∨ lacksText given.textContent = true
      then 0 else 1 := by
  unfold TranscriptHistory.item at passed
  split at passed
  · rename_i closed
    cases passed
    rw [if_pos (.inl closed)]
    rfl
  · rename_i open_
    split at passed
    · cases passed
    · rename_i role speaker
      split at passed
      · rename_i unspoken
        have hidden : (given.role ≠ some .user ∧ given.role ≠ some .assistant) ∨ lacksText given.textContent = true := by
          simpa [speaker] using unspoken
        cases passed
        rw [if_pos (.inr hidden)]
        rfl
      · rename_i spoken
        have shown : ¬ (h.closed = true ∨ (given.role ≠ some .user ∧ given.role ≠ some .assistant) ∨
            lacksText given.textContent = true) := by
          rintro (closed | hidden)
          · exact open_ closed
          · exact spoken (by simpa [speaker] using hidden)
        cases passed
        rw [if_neg shown,Option.toList_some,List.length_singleton]

theorem item_raises {h : TranscriptHistory} {given : ChatItem} (raised : h.item given = .error e) :
    h.closed = false ∧ given.role = none := by
  unfold TranscriptHistory.item at raised
  split at raised
  · cases raised
  · rename_i open_
    split at raised
    · rename_i speaker
      exact ⟨by simpa using open_,speaker⟩
    · split at raised <;> cases raised

theorem ask_tells (setup : History.Setup) (s : Scene) (r : Request) : Tells s (s.ask setup r).1 [] := by
  obtain ⟨snapshots,asked⟩ := getTranscript_frame s.history setup s.items s.clock r
  unfold Scene.ask
  dsimp only
  rw [asked]
  exact .silent rfl rfl rfl rfl

-- The words change nothing about how much is told.
theorem words_tell (same : SameWords event event') (closed : s.history.closed = s'.history.closed)
    (moved : History.step setup s event = some t) (moved' : History.step setup' s' event' = some t') :
    ∃ rows rows', Tells s t rows ∧ Tells s' t' rows' ∧ rows.length = rows'.length := by
  cases same with
  | caller blank =>
    cases History.step_cases moved
    cases History.step_cases moved'
    refine ⟨_,_,passes_tells (caller_passes s.history _ _ _) rfl rfl,passes_tells (caller_passes s'.history _ _ _) rfl rfl,?_⟩
    rw [caller_tells,caller_tells,closed,blank]
  | item role lacks =>
    cases History.step_cases moved with
    | told passed =>
      cases History.step_cases moved' with
      | told passed' =>
        refine ⟨_,_,passes_tells (item_passes passed) rfl rfl,passes_tells (item_passes passed') rfl rfl,?_⟩
        rw [item_tells passed,item_tells passed',closed,role,lacks]
      | raised failed =>
        obtain ⟨open_,absent⟩ := item_raises failed
        refine ⟨_,[],passes_tells (item_passes passed) rfl rfl,.silent rfl rfl rfl rfl,?_⟩
        rw [item_tells passed,if_pos (.inr (.inl (by rw [role,absent]; simp)))]
        rfl
    | raised failed =>
      obtain ⟨open_,absent⟩ := item_raises failed
      cases History.step_cases moved' with
      | told passed' =>
        refine ⟨[],_,.silent rfl rfl rfl rfl,passes_tells (item_passes passed') rfl rfl,?_⟩
        rw [item_tells passed',if_pos (.inr (.inl (by rw [← role,absent]; simp)))]
        rfl
      | raised => exact ⟨[],[],.silent rfl rfl rfl rfl,.silent rfl rfl rfl rfl,rfl⟩
  | edited | elapsed =>
    cases History.step_cases moved
    cases History.step_cases moved'
    exact ⟨[],[],.silent rfl rfl rfl rfl,.silent rfl rfl rfl rfl,rfl⟩
  | request =>
    cases History.step_cases moved
    cases History.step_cases moved'
    exact ⟨[],[],ask_tells setup s _,ask_tells setup' s' _,rfl⟩

-- Two broadcasts that differ in no more than the words.
structure SameShape (b b' : Broadcast) : Prop where
  queue : b.queue.length = b'.queue.length
  closed : b.closed = b'.closed
  sender : b.sender.shape = b'.sender.shape
  cancelling : b.cancelling = b'.cancelling
  dropped : b.dropped.length = b'.dropped.length

theorem shape_wake (sender : Sender Row) : sender.wake.shape = sender.shape.wake := by cases sender <;> rfl

theorem take_shape {b b' : Broadcast} (same : SameShape b b') : SameShape b.take b'.take := by
  have lengths : b.scene.history.queue.length = b'.scene.history.queue.length := same.queue
  unfold Broadcast.take
  cases waiting : b.scene.history.queue with
  | nil =>
    rw [waiting,List.length_nil] at lengths
    have empty := List.eq_nil_of_length_eq_zero lengths.symm
    rw [empty]
    exact ⟨same.queue,same.closed,rfl,same.cancelling,same.dropped⟩
  | cons row queue =>
    rw [waiting,List.length_cons] at lengths
    obtain ⟨row',queue',waiting'⟩ := List.exists_cons_of_length_eq_add_one lengths.symm
    rw [waiting',List.length_cons] at lengths
    rw [waiting']
    exact ⟨Nat.succ.inj lengths,same.closed,rfl,same.cancelling,same.dropped⟩

theorem run_shape {b b' : Broadcast} (same : SameShape b b') : SameShape b.run b'.run := by
  unfold Broadcast.run
  rw [same.closed]
  split
  · exact ⟨same.queue,same.closed,rfl,same.cancelling,same.dropped⟩
  · exact take_shape same

theorem tell_shape {b b' : Broadcast} {more more' : List Row} (same : SameShape b b') (tells : Tells b.scene scene more)
    (tells' : Tells b'.scene scene' more') (length : more.length = more'.length) :
    SameShape (b.tell scene) (b'.tell scene') := by
  have closed : (b.tell scene).closed = (b'.tell scene').closed :=
    (tells.closed.trans same.closed).trans tells'.closed.symm
  have lengths : (b.tell scene).queue.length = (b'.tell scene').queue.length ∧
      (b.tell scene).dropped.length = (b'.tell scene').dropped.length := by
    rcases tells_queue tells with ⟨room,queue,dropped⟩ | ⟨full,queue,dropped⟩
    · rcases tells_queue tells' with ⟨_,queue',dropped'⟩ | ⟨full',_⟩
      · rw [queue,queue',dropped,dropped',List.length_append,List.length_append,same.queue,length]
        exact ⟨rfl,same.dropped⟩
      · exact absurd (same.queue ▸ room) full'
    · rcases tells_queue tells' with ⟨room',_⟩ | ⟨_,queue',dropped'⟩
      · exact absurd (same.queue ▸ room') full
      · rw [queue,queue',dropped,dropped',List.length_append,List.length_append,same.dropped,length]
        exact ⟨same.queue,rfl⟩
  refine ⟨lengths.1,closed,?_,same.cancelling,lengths.2⟩
  have grown : (b.queue.length < scene.history.queue.length) = (b'.queue.length < scene'.history.queue.length) := by
    rw [same.queue]
    exact congrArg _ lengths.1
  unfold Broadcast.tell
  simp only [grown]
  split
  · rw [shape_wake,shape_wake,same.sender]
  · exact same.sender

def idle : Sender α → Bool
  | .absent | .done => true
  | _ => false

theorem idle_shape (sender : Sender Row) : idle sender.shape = idle sender := by cases sender <;> rfl

theorem close_exact {b c : Broadcast} (moved : step setup b .close = some c) :
    c = {b with scene := {b.scene with history := b.scene.history.close}, cancelling := b.cancelling || !idle b.sender} := by
  simp only [step] at moved
  split at moved
  · rename_i absent
    cases moved
    simp [absent,idle]
  · rename_i done
    cases moved
    simp [done,idle]
  · rename_i absent done
    cases moved
    have busy : idle b.sender = false := by
      cases known : b.sender with
      | absent => exact absurd known absent
      | done => exact absurd known done
      | created | waiting | woken | publishing => rfl
    simp [busy]

theorem close_shape {b b' c c' : Broadcast} (same : SameShape b b') (moved : step setup b .close = some c)
    (moved' : step setup' b' .close = some c') : SameShape c c' := by
  rw [close_exact moved,close_exact moved']
  refine ⟨same.queue,rfl,same.sender,?_,same.dropped⟩
  dsimp only
  rw [same.cancelling,← idle_shape,same.sender,idle_shape]

-- A turn of the task, started or cancelled, keeps the shapes alike.
theorem turn_shape {b b' c c' : Broadcast} (same : SameShape b b') (task : ∀ event, given ≠ .history event)
    (open_ : given ≠ .close) (moved : step setup b given = some c) (moved' : step setup' b' given = some c') :
    SameShape c c' := by
  cases Live.step_cases moved with
  | history => exact absurd rfl (task _)
  | close => exact absurd rfl open_
  | start =>
    cases Live.step_cases moved'
    exact ⟨same.queue,same.closed,rfl,same.cancelling,same.dropped⟩
  | runs created =>
    cases Live.step_cases moved' with
    | runs => exact run_shape same
    | takes woken =>
      have sender := same.sender
      rw [created,woken] at sender
      cases sender
  | takes woken =>
    cases Live.step_cases moved' with
    | runs created =>
      have sender := same.sender
      rw [created,woken] at sender
      cases sender
    | takes => exact take_shape same
  | settle =>
    cases Live.step_cases moved'
    exact run_shape ⟨same.queue,same.closed,same.sender,same.cancelling,same.dropped⟩
  | cut publishing =>
    cases Live.step_cases moved' with
    | cut => exact ⟨same.queue,same.closed,rfl,same.cancelling,same.dropped⟩
    | cancelled => exact ⟨same.queue,same.closed,rfl,same.cancelling,same.dropped⟩
  | cancelled =>
    cases Live.step_cases moved' with
    | cut => exact ⟨same.queue,same.closed,rfl,same.cancelling,same.dropped⟩
    | cancelled => exact ⟨same.queue,same.closed,rfl,same.cancelling,same.dropped⟩

end AidaAgent.Live
