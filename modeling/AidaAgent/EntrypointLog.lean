import AidaAgent.EntrypointHandset
import AidaAgent.TranscriptShape

namespace AidaAgent.Entrypoint
open JsonText PythonText Config Transcripts Control Transitions Live

-- Events that differ in no more than what was said.
inductive SameSpeech : Event → Event → Prop where
  | worker : SameSpeech (.worker event streamId) (.worker event streamId')
  | caller {segment segment' : Uuid4} : isBlank text = isBlank text' →
      SameSpeech (.caller text final drawn segment provider) (.caller text' final drawn' segment' provider)
  | item {given given' : History.ChatItem} : given.role = given'.role →
      History.lacksText given.textContent = History.lacksText given'.textContent →
      isBlank (given.textContent.getD "") = isBlank (given'.textContent.getD "") →
      SameSpeech (.item given drawn provider) (.item given' drawn' provider)
  | error : SameSpeech (.error recoverable) (.error recoverable)
  | edited : SameSpeech (.edited items) (.edited items')
  | request {payload payload' : String} : SameSpeech (.request identity payload token) (.request identity' payload' token')
  | elapsed : SameSpeech (.elapsed seconds) (.elapsed seconds')
  | publisher : SameSpeech (.publisher turn provider) (.publisher turn provider)
  | broadcast : SameSpeech (.broadcast turn) (.broadcast turn)
  | closeHistory : SameSpeech .closeHistory .closeHistory
  | closePublisher : SameSpeech .closePublisher .closePublisher

structure SameFeeds (f f' : Feeds) : Prop where
  kept : isBlank f.stream.callerText = isBlank f'.stream.callerText
  publisher : f.publisher.shape = f'.publisher.shape
  broadcast : SameShape f.broadcast f'.broadcast
  closes : f.closes = f'.closes

-- Two conversations that differ in no more than what was said.
structure Alike (c c' : Conversation) : Prop where
  job : c.job = c'.job
  counts : c.counts = c'.counts
  log : c.log = c'.log
  feeds : Option.Rel SameFeeds c.feeds c'.feeds

inductive SameCall : Transcripts.Call → Transcripts.Call → Prop where
  | caller : isBlank text = isBlank text' → SameCall (.caller text final drawn) (.caller text' final drawn')
  | assistant : isBlank text = isBlank text' → SameCall (.assistant text itemId drawn) (.assistant text' itemId' drawn')

theorem call_shape {s s' : TranscriptStream} (same : SameCall call call') (kept : isBlank s.callerText = isBlank s'.callerText) :
    (s.call call).2.map (fun _ => ()) = (s'.call call').2.map (fun _ => ()) ∧
      isBlank (s.call call).1.callerText = isBlank (s'.call call').1.callerText := by
  cases same with
  | @caller text text' final drawn drawn' blank =>
    have called := caller_called s text final drawn
    have called' := caller_called s' text' final drawn'
    have spoken : isBlank (s.spoken text final) = isBlank (s'.spoken text' final) := by
      simp only [TranscriptStream.spoken,blank]
      split
      · exact kept
      · exact blank
    have left := called.shown
    have right := called'.shown
    rw [spoken] at left
    refine ⟨?_,?_⟩
    · change (s.caller text final drawn).2.map _ = (s'.caller text' final drawn').2.map _
      split at left
      · rename_i silent
        rw [if_pos silent] at right
        rw [(Prod.mk.inj left).2,(Prod.mk.inj right).2]
      · rename_i loud
        rw [if_neg loud] at right
        rw [(Prod.mk.inj left).2,(Prod.mk.inj right).2]
        rfl
    · change isBlank (s.caller text final drawn).1.callerText = isBlank (s'.caller text' final drawn').1.callerText
      rw [called.kept,called'.kept,blank]
      split
      · rfl
      · split
        · exact kept
        · exact blank
  | @assistant text text' itemId drawn itemId' drawn' blank =>
    have frame := (assistant_frame s text itemId drawn).2
    have frame' := (assistant_frame s' text' itemId' drawn').2
    refine ⟨?_,?_⟩
    · simp only [TranscriptStream.call,TranscriptStream.assistant,TranscriptStream.event,blank]
      split <;> rfl
    · change isBlank (s.assistant text itemId drawn).1.callerText = isBlank (s'.assistant text' itemId' drawn').1.callerText
      rw [frame,frame']
      exact kept

-- What the settling of a publisher gives, on both sides.
theorem settle_alike (c c' : Conversation) {f f' : Feeds} {p p' : Publisher TranscriptEvent} (job : c.job = c'.job)
    (counts : c.counts = c'.counts) (log : c.log = c'.log) (feeds : SameFeeds f f') (publisher : p.shape = p'.shape)
    (provider : Provider) : Alike (c.settle f p provider).1 (c'.settle f' p' provider).1 ∧
      (c.settle f p provider).2 = (c'.settle f' p' provider).2 := by
  have closed : p.shape.closed = p'.shape.closed := congrArg Publisher.closed publisher
  have before : f.publisher.shape.closed = f'.publisher.shape.closed := congrArg Publisher.closed feeds.publisher
  change p.closed = p'.closed at closed
  change f.publisher.closed = f'.publisher.closed at before
  have moved : SameFeeds {f with publisher := p} {f' with publisher := p'} :=
    ⟨feeds.kept,publisher,feeds.broadcast,feeds.closes⟩
  unfold Conversation.settle
  rw [closed,before,job]
  dsimp only
  split
  · exact ⟨⟨rfl,counts,congrArg (· ++ _) log,.some moved⟩,rfl⟩
  · exact ⟨⟨job,counts,log,.some moved⟩,rfl⟩

theorem enqueue_alike {c c' : Conversation} {f f' : Feeds} (alike : Alike c c') (feeds : SameFeeds f f')
    (same : SameCall call call') (provider : Provider) :
    Alike (c.enqueue f call provider).1 (c'.enqueue f' call' provider).1 ∧
      (c.enqueue f call provider).2 = (c'.enqueue f' call' provider).2 := by
  obtain ⟨out,kept⟩ := call_shape same feeds.kept
  have streamed : SameFeeds {f with stream := (f.stream.call call).1} {f' with stream := (f'.stream.call call').1} :=
    ⟨kept,feeds.publisher,feeds.broadcast,feeds.closes⟩
  have publisher : (f.publisher.enqueue (f.stream.call call).2).shape = (f'.publisher.enqueue (f'.stream.call call').2).shape := by
    unfold Publisher.shape
    rw [← enqueue_map,← enqueue_map,out]
    exact congrArg (Publisher.enqueue · _) feeds.publisher
  exact settle_alike {c with calls := c.calls ++ [call]} {c' with calls := c'.calls ++ [call']} alike.job alike.counts alike.log streamed publisher provider

-- The calls of the history that are made of it here.
def movable : History.Event → Prop
  | .published | .close => False
  | .elapsed seconds => 0 ≤ seconds
  | .caller .. | .item _ | .edited _ | .request _ => True

theorem history_moves {b : Broadcast} (moves : movable event) : ∃ scene, Live.step setup b (.history event) = some (b.tell scene) ∧
    History.step setup b.scene event = some scene := by
  have stepped : ∃ scene, History.step setup b.scene event = some scene := by
    cases event with
    | published | close => exact moves.elim
    | elapsed seconds => exact ⟨_,if_pos moves⟩
    | item given =>
      simp only [History.step]
      split <;> exact ⟨_,rfl⟩
    | caller | edited | request => exact ⟨_,rfl⟩
  obtain ⟨scene,moved⟩ := stepped
  refine ⟨scene,?_,moved⟩
  cases event with
  | published | close => exact moves.elim
  | elapsed | item | caller | edited | request => simp only [Live.step,moved,Option.map_some]

theorem tell_alike {c c' : Conversation} {f f' : Feeds} (alike : Alike c c') (feeds : SameFeeds f f')
    (same : SameWords event event') (moves : movable event) (moves' : movable event') :
    Alike (c.tell setup f event) (c'.tell setup f' event') := by
  obtain ⟨scene,told,moved⟩ := @history_moves _ (f.setup setup) f.broadcast moves
  obtain ⟨scene',told',moved'⟩ := @history_moves _ (f'.setup setup) f'.broadcast moves'
  obtain ⟨rows,rows',tells,tells',length⟩ := words_tell same feeds.broadcast.closed moved moved'
  have shape := tell_shape feeds.broadcast tells tells' length
  have put : SameFeeds {f with broadcast := f.broadcast.tell scene} {f' with broadcast := f'.broadcast.tell scene'} :=
    ⟨feeds.kept,feeds.publisher,shape,feeds.closes⟩
  unfold Conversation.tell
  rw [told,told']
  dsimp only
  rw [feeds.broadcast.dropped,shape.dropped]
  split
  · exact ⟨alike.job,alike.counts,congrArg (· ++ _) alike.log,.some put⟩
  · exact ⟨alike.job,alike.counts,alike.log,.some put⟩

theorem hear_alike (alike : Alike c c') (final : Bool) : Alike (c.hear final) (c'.hear final) := by
  have counts : c.counts.heard final = c'.counts.heard final := congrArg (Counts.heard · final) alike.counts
  unfold Conversation.hear
  dsimp only
  split
  · refine ⟨alike.job,counts,?_,alike.feeds⟩
    simp only [Conversation.note,Conversation.count,alike.log,counts]
  · exact ⟨alike.job,counts,alike.log,alike.feeds⟩

theorem caller_alike {segment segment' : Uuid4} (alike : Alike c c') (feeds : SameFeeds f f')
    (blank : isBlank text = isBlank text') : Alike (c.onCaller setup f text final drawn segment provider)
      (c'.onCaller setup f' text' final drawn' segment' provider) := by
  have heard := hear_alike alike final
  obtain ⟨after,raised⟩ := enqueue_alike heard feeds (@SameCall.caller text text' final drawn drawn' blank) provider
  unfold Conversation.onCaller
  dsimp only
  rw [heard.job]
  split
  · generalize (c.hear final).enqueue f (.caller text final drawn) provider = result at after raised
    generalize (c'.hear final).enqueue f' (.caller text' final drawn') provider = result' at after raised
    obtain ⟨c,error⟩ := result
    obtain ⟨c',error'⟩ := result'
    cases raised
    cases error with
    | some error => exact after
    | none =>
      dsimp only at after ⊢
      generalize known : c.feeds = given
      generalize known' : c'.feeds = given'
      have related := after.feeds
      rw [known,known'] at related
      cases related with
      | none => exact after
      | some same => exact tell_alike after same (.caller blank) trivial trivial
  · exact heard

theorem assistant_alike {c c' : Conversation} {given given' : History.ChatItem} (alike : Alike c c')
    (blank : isBlank (given.textContent.getD "") = isBlank (given'.textContent.getD "")) (drawn drawn' : Drawn)
    (provider : Provider) : Alike (c.onAssistant given drawn provider) (c'.onAssistant given' drawn' provider) := by
  have counts : c.counts.answered = c'.counts.answered := congrArg Counts.answered alike.counts
  have noted : Alike ((c.count c.counts.answered).note (.assistantItem c.counts.answered))
      ((c'.count c'.counts.answered).note (.assistantItem c'.counts.answered)) := by
    refine ⟨alike.job,counts,?_,alike.feeds⟩
    simp only [Conversation.note,Conversation.count,alike.log,counts]
  unfold Conversation.onAssistant
  generalize known : c.feeds = feeds
  generalize known' : c'.feeds = feeds'
  have related := alike.feeds
  rw [known,known'] at related
  cases related with
  | none => exact alike
  | some same => exact (enqueue_alike noted same (.assistant blank) provider).1

theorem item_alike {c c' : Conversation} {given given' : History.ChatItem} (alike : Alike c c') (feeds : SameFeeds f f')
    (role : given.role = given'.role) (lacks : History.lacksText given.textContent = History.lacksText given'.textContent)
    (blank : isBlank (given.textContent.getD "") = isBlank (given'.textContent.getD "")) (drawn drawn' : Drawn)
    (provider : Provider) :
    Alike (c.onItem setup f given drawn provider) (c'.onItem setup f' given' drawn' provider) := by
  have told : Alike (c.tell setup f (.item given)) (c'.tell setup f' (.item given')) :=
    tell_alike alike feeds (.item role lacks) trivial trivial
  unfold Conversation.onItem
  dsimp only
  rw [alike.job,role]
  split
  · split
    · exact assistant_alike told blank drawn drawn' provider
    · exact told
  · exact tell_alike alike feeds .edited trivial trivial

-- A step of the publisher is a step of its shape.
def blankPayload (_ : Unit) : Option ByteArray := some ByteArray.empty

theorem shape_step (setup : Worker.Setup) (p : Publisher TranscriptEvent) (event : PublisherEvent TranscriptEvent) :
    p.shape.step blankPayload (event.map fun _ => ()) = (p.step (payload setup) event).map Publisher.shape :=
  @step_map _ _ (fun _ => ()) (payload setup) blankPayload (fun _ => rfl) p event

theorem publisher_alike {p p' q q' : Publisher TranscriptEvent} (same : p.shape = p'.shape)
    (events : event.map (fun _ => ()) = event'.map (fun _ => ())) (moved : p.step (payload setup) event = some q)
    (moved' : p'.step (payload setup) event' = some q') : q.shape = q'.shape := by
  have left := shape_step setup p event
  rw [same,events,shape_step setup p' event',moved,moved'] at left
  exact (Option.some.inj left).symm

theorem publish_alike {c c' : Conversation} {f f' : Feeds} (alike : Alike c c') (feeds : SameFeeds f f')
    (next : c.publish setup f turn provider = some d) (next' : c'.publish setup f' turn provider = some d') : Alike d d' := by
  obtain ⟨p,moved,rfl⟩ := Option.map_eq_some_iff.mp next
  obtain ⟨p',moved',rfl⟩ := Option.map_eq_some_iff.mp next'
  exact (settle_alike c c' alike.job alike.counts alike.log feeds (publisher_alike feeds.publisher rfl moved moved') provider).1

theorem broadcast_alike {c c' : Conversation} {f f' : Feeds} (alike : Alike c c') (feeds : SameFeeds f f')
    (next : c.broadcast setup f turn = some d) (next' : c'.broadcast setup f' turn = some d') : Alike d d' := by
  obtain ⟨b,moved,rfl⟩ := Option.map_eq_some_iff.mp next
  obtain ⟨b',moved',rfl⟩ := Option.map_eq_some_iff.mp next'
  have shape : SameShape b b' := by
    refine turn_shape feeds.broadcast (fun _ same => ?_) (fun same => ?_) moved moved'
    · cases turn <;> cases same
    · cases turn <;> cases same
  have put : SameFeeds {f with broadcast := b} {f' with broadcast := b'} :=
    ⟨feeds.kept,feeds.publisher,shape,feeds.closes⟩
  dsimp only
  split
  · exact ⟨alike.job,alike.counts,congrArg (· ++ _) alike.log,.some put⟩
  · exact ⟨alike.job,alike.counts,alike.log,.some put⟩

theorem closeHistory_alike {c c' : Conversation} {f f' : Feeds} (alike : Alike c c') (feeds : SameFeeds f f')
    (next : c.closeHistory setup f = some d) (next' : c'.closeHistory setup f' = some d') : Alike d d' := by
  unfold Conversation.closeHistory at next next'
  split at next
  · split at next'
    · obtain ⟨b,moved,rfl⟩ := Option.map_eq_some_iff.mp next
      obtain ⟨b',moved',rfl⟩ := Option.map_eq_some_iff.mp next'
      exact ⟨alike.job,alike.counts,alike.log,
        .some ⟨feeds.kept,feeds.publisher,close_shape feeds.broadcast moved moved',rfl⟩⟩
    · cases next'
  · cases next

theorem closePublisher_alike {c c' : Conversation} {f f' : Feeds} (alike : Alike c c') (feeds : SameFeeds f f')
    (next : c.closePublisher setup f = some d) (next' : c'.closePublisher setup f' = some d') : Alike d d' := by
  unfold Conversation.closePublisher at next next'
  split at next
  · split at next'
    · obtain ⟨p,moved,rfl⟩ := Option.map_eq_some_iff.mp next
      obtain ⟨p',moved',rfl⟩ := Option.map_eq_some_iff.mp next'
      exact ⟨alike.job,alike.counts,alike.log,
        .some ⟨feeds.kept,publisher_alike feeds.publisher rfl moved moved',feeds.broadcast,rfl⟩⟩
    · cases next'
  · cases next

theorem absent_start {b : Broadcast} (absent : b.sender.shape = .absent) :
    Live.step setup b .start = some {b with sender := .created} := by
  cases known : b.sender with
  | absent => simp only [Live.step,known]
  | created | waiting | woken | publishing | done =>
    rw [known] at absent
    cases absent

theorem present_start {b : Broadcast} (present : b.sender.shape ≠ .absent) : Live.step setup b .start = none := by
  cases known : b.sender with
  | absent =>
    rw [known] at present
    exact absurd rfl present
  | created | waiting | woken | publishing | done => simp only [Live.step,known]

theorem start_alike {f f' : Feeds} (feeds : SameFeeds f f') : SameFeeds (f.start setup) (f'.start setup) := by
  have publisher : ((f.publisher.step (payload setup) .start).getD f.publisher).shape =
      ((f'.publisher.step (payload setup) .start).getD f'.publisher).shape := by
    have mapped : ∀ p : Publisher TranscriptEvent, ((p.step (payload setup) .start).getD p).shape =
        (p.shape.step blankPayload .start).getD p.shape := by
      intro p
      have stepped : p.shape.step blankPayload .start = (p.step (payload setup) .start).map Publisher.shape :=
        shape_step setup p .start
      rw [stepped]
      cases p.step (payload setup) .start <;> rfl
    rw [mapped,mapped,feeds.publisher]
  refine ⟨feeds.kept,publisher,?_,feeds.closes⟩
  unfold Feeds.start
  dsimp only
  by_cases absent : f.broadcast.sender.shape = .absent
  · rw [absent_start absent,absent_start (feeds.broadcast.sender ▸ absent)]
    exact ⟨feeds.broadcast.queue,feeds.broadcast.closed,rfl,feeds.broadcast.cancelling,feeds.broadcast.dropped⟩
  · rw [present_start absent,present_start (feeds.broadcast.sender ▸ absent)]
    exact feeds.broadcast

theorem opening_shape (call : CallConfiguration) (streamId streamId' : Uuid4) :
    SameFeeds (.opening call streamId) (.opening call streamId') := ⟨rfl,rfl,⟨rfl,rfl,rfl,rfl,rfl⟩,rfl⟩

theorem created_alike {c c' : Conversation} (alike : Alike c c') (job : Worker.Job) (streamId streamId' : Uuid4) :
    Option.Rel SameFeeds (c.created job streamId) (c'.created job streamId') := by
  unfold Conversation.created
  generalize known : c.feeds = feeds
  generalize known' : c'.feeds = feeds'
  have related := alike.feeds
  rw [known,known'] at related
  cases related with
  | some same => exact .some same
  | none =>
    cases job.profile with
    | none => exact .none
    | some call => exact .some (opening_shape call streamId streamId')

theorem started_alike (related : Option.Rel SameFeeds feeds feeds') :
    Option.Rel SameFeeds (feeds.map (·.start setup)) (feeds'.map (·.start setup)) := by
  cases related with
  | none => exact .none
  | some same => exact .some (start_alike same)

theorem advance_alike {c c' : Conversation} (alike : Alike c c') (event : Worker.Event) (job : Worker.Job)
    (streamId streamId' : Uuid4) :
    Alike (c.advance setup event job streamId) (c'.advance setup event job streamId') := by
  have created := created_alike alike job streamId streamId'
  have feeds : Option.Rel SameFeeds
      (if starts setup c'.job event then (c.created job streamId).map (·.start setup) else c.created job streamId)
      (if starts setup c'.job event then (c'.created job streamId').map (·.start setup) else c'.created job streamId') := by
    split
    · exact started_alike created
    · exact created
  unfold Conversation.advance
  rw [alike.job]
  dsimp only
  split
  · refine ⟨rfl,alike.counts,?_,feeds⟩
    simp only [Conversation.note,alike.log,alike.counts]
  · exact ⟨rfl,alike.counts,alike.log,feeds⟩

-- The feeds that both sides converse with.
theorem converse_alike {c c' : Conversation} (alike : Alike c c')
    (next : (c.feeds.bind fun f => c.converse setup f event) = some d)
    (next' : (c'.feeds.bind fun f => c'.converse setup f event') = some d') :
    ∃ f f', SameFeeds f f' ∧ c.converse setup f event = some d ∧ c'.converse setup f' event' = some d' := by
  obtain ⟨f,known,moved⟩ := Option.bind_eq_some_iff.mp next
  obtain ⟨f',known',moved'⟩ := Option.bind_eq_some_iff.mp next'
  have related := alike.feeds
  rw [known,known'] at related
  cases related with
  | some same => exact ⟨f,f',same,moved,moved'⟩

theorem step_alike {c c' : Conversation} (alike : Alike c c') (same : SameSpeech event event')
    (next : step setup c event = some d) (next' : step setup c' event' = some d') : Alike d d' := by
  cases same with
  | worker =>
    simp only [step] at next next'
    split at next
    · cases next
    · split at next'
      · cases next'
      · obtain ⟨job,moved,rfl⟩ := Option.map_eq_some_iff.mp next
        obtain ⟨job',moved',rfl⟩ := Option.map_eq_some_iff.mp next'
        rw [alike.job,moved'] at moved
        cases Option.some.inj moved
        exact advance_alike alike _ _ _ _
  | caller blank =>
    obtain ⟨f,f',feeds,moved,moved'⟩ := converse_alike alike next next'
    cases Option.some.inj moved
    cases Option.some.inj moved'
    exact caller_alike alike feeds blank
  | item role lacks blank =>
    obtain ⟨f,f',feeds,moved,moved'⟩ := converse_alike alike next next'
    cases Option.some.inj moved
    cases Option.some.inj moved'
    exact item_alike alike feeds role lacks blank _ _ _
  | error =>
    obtain ⟨f,f',feeds,moved,moved'⟩ := converse_alike alike next next'
    cases Option.some.inj moved
    cases Option.some.inj moved'
    exact ⟨alike.job,alike.counts,congrArg (· ++ _) alike.log,alike.feeds⟩
  | edited =>
    obtain ⟨f,f',feeds,moved,moved'⟩ := converse_alike alike next next'
    cases Option.some.inj moved
    cases Option.some.inj moved'
    exact tell_alike alike feeds .edited trivial trivial
  | request =>
    obtain ⟨f,f',feeds,moved,moved'⟩ := converse_alike alike next next'
    cases Option.some.inj moved
    cases Option.some.inj moved'
    exact tell_alike alike feeds .request trivial trivial
  | elapsed =>
    obtain ⟨f,f',feeds,moved,moved'⟩ := converse_alike alike next next'
    simp only [Conversation.converse] at moved moved'
    split at moved
    · rename_i forward
      split at moved'
      · rename_i forward'
        cases Option.some.inj moved
        cases Option.some.inj moved'
        exact tell_alike alike feeds .elapsed forward forward'
      · cases moved'
    · cases moved
  | publisher =>
    obtain ⟨f,f',feeds,moved,moved'⟩ := converse_alike alike next next'
    exact publish_alike alike feeds moved moved'
  | broadcast =>
    obtain ⟨f,f',feeds,moved,moved'⟩ := converse_alike alike next next'
    exact broadcast_alike alike feeds moved moved'
  | closeHistory =>
    obtain ⟨f,f',feeds,moved,moved'⟩ := converse_alike alike next next'
    exact closeHistory_alike alike feeds moved moved'
  | closePublisher =>
    obtain ⟨f,f',feeds,moved,moved'⟩ := converse_alike alike next next'
    exact closePublisher_alike alike feeds moved moved'

def Conversation.lines (setup : Worker.Setup) (c : Conversation) : List Line := c.log.map (Record.line setup.dispatch)

-- Two runs of the entrypoint in which different words are said, and the same ones are
-- blank, log the same lines and do the same to the session, the control and the room.
theorem log_private (one : Runs (step setup) Anything (.initial setup room) events c)
    (two : Runs (step setup) Anything (.initial setup room) events' c') (same : List.Forall₂ SameSpeech events events') :
    c.lines setup = c'.lines setup ∧ c.job = c'.job := by
  have start : Alike (.initial setup room) (.initial setup room) := ⟨rfl,rfl,rfl,.none⟩
  have each : ∀ s s' e e' t t', Alike s s' → SameSpeech e e' → Anything s e → Anything s' e' → step setup s e = some t →
      step setup s' e' = some t' → Alike t t' ∧ ([] : List Unit) = [] :=
    fun _ _ _ _ _ _ alike matched _ _ next next' => ⟨step_alike alike matched next next',rfl⟩
  have ends := (one.paired two start same each).1
  exact ⟨congrArg (List.map (Record.line setup.dispatch)) ends.log,ends.job⟩

theorem speech_refl (event : Event) : SameSpeech event event := by
  cases event with
  | worker => exact .worker
  | caller => exact .caller rfl
  | item => exact .item rfl rfl rfl
  | error => exact .error
  | edited => exact .edited
  | request => exact .request
  | elapsed => exact .elapsed
  | publisher => exact .publisher
  | broadcast => exact .broadcast
  | closeHistory => exact .closeHistory
  | closePublisher => exact .closePublisher

-- A caller who spells out a number leaves the log of one who utter hello.
theorem sample_silent_log : ∃ c c' : Conversation, c.calls ≠ c'.calls ∧
    c.lines Worker.sampleSetup = c'.lines Worker.sampleSetup ∧ c.job = c'.job := by
  obtain ⟨events,c,f,path,known,open_,_⟩ := sample_talk
  have hello := utterance_steps Worker.sampleSetup known "Hello"
  have number := utterance_steps Worker.sampleSetup known "My number is 4111"
  have same : List.Forall₂ SameSpeech (events ++ [sampleUtterance "Hello"]) (events ++ [sampleUtterance "My number is 4111"]) :=
    List.rel_append (List.forall₂_same.mpr fun event _ => speech_refl event) (.cons (.caller (by decide)) .nil)
  refine ⟨_,_,?_,log_private (path.step trivial hello) (path.step trivial number) same⟩
  rw [(step_passes hello).calls,(step_passes number).calls,utterance_said open_,utterance_said open_]
  simp

end AidaAgent.Entrypoint
