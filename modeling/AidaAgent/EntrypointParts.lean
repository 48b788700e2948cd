import AidaAgent.BootstrapBinding
import AidaAgent.Entrypoint

namespace AidaAgent.Entrypoint
open JsonText Config Transcripts Control Transitions

-- One more event of a run of the publisher.
theorem publisher_later {payload : α → Option ByteArray} {p p' : Publisher α}
    (path : ∃ events, Runs (Publisher.step payload) Anything origin events p ∧ enqueued events = front)
    (next : p.step payload event = some p') :
    ∃ events, Runs (Publisher.step payload) Anything origin events p' ∧ enqueued events = front ++ enqueued [event] := by
  obtain ⟨events,ran,fed⟩ := path
  refine ⟨events ++ [event],ran.step trivial next,?_⟩
  rw [← fed]
  exact List.filterMap_append

theorem call_frame (s : TranscriptStream) (call : Transcripts.Call) :
    (s.call call).1.callId = s.callId ∧ (s.call call).1.streamId = s.streamId := by
  have event : ∀ (s : TranscriptStream) text final segment speaker drawn,
      (s.event text final segment speaker drawn).1.callId = s.callId ∧
        (s.event text final segment speaker drawn).1.streamId = s.streamId := by
    intro s text final segment speaker drawn
    unfold TranscriptStream.event
    split <;> exact ⟨rfl,rfl⟩
  cases call with
  | caller text final drawn =>
    simp only [TranscriptStream.call,TranscriptStream.caller]
    cases final <;> cases blank : PythonText.isBlank text <;> exact event _ _ _ _ _ _
  | assistant text itemId drawn => exact event s _ _ _ _ _

theorem produced_snoc (s : TranscriptStream) (calls : List Transcripts.Call) (call : Transcripts.Call) :
    s.produced (calls ++ [call]) = s.produced calls ++ [((s.after calls).call call).2] := by
  induction calls generalizing s with
  | nil => rfl
  | cons first rest ih =>
    rw [List.cons_append,TranscriptStream.produced,TranscriptStream.produced,ih]
    rfl

-- The stream of one call, from its creation.
def Feeds.origin (f : Feeds) : TranscriptStream := .initial f.stream.callId f.stream.streamId

-- How the parts of a conversation stand to it: each is where a run of its own has
-- taken it, and the publisher was given what the stream made of the calls.
structure Fed (setup : Worker.Setup) (job : Worker.Job) (calls : List Transcripts.Call) (f : Feeds) : Prop where
  session : job.control.session.isSome = true
  room : setup.roomName = roomOf f.stream.callId
  stream : f.stream = f.origin.after calls
  publisher : ∃ events, Runs (Publisher.step (payload setup)) Anything (.initial capacity) events f.publisher ∧
    enqueued events = f.origin.produced calls
  broadcast : ∃ events, Runs (Live.step (f.setup setup)) Anything (.opening [] 0) events f.broadcast
  closed : f.publisher.closed = true → job.aborted = true ∨ job.cleaned = true

structure Wired (setup : Worker.Setup) (room : Worker.Room) (c : Conversation) : Prop where
  worker : ∃ events, Runs (Worker.step setup) Anything (.initial setup room) events c.job
  early : c.feeds = none → c.job.profile = none ∧ c.calls = []
  fed : ∀ f, c.feeds = some f → Fed setup c.job c.calls f

theorem fed_later (fed : Fed setup job calls f) (session : job'.control.session.isSome = true)
    (ended : job.aborted = true ∨ job.cleaned = true → job'.aborted = true ∨ job'.cleaned = true) : Fed setup job' calls f :=
  ⟨session,fed.room,fed.stream,fed.publisher,fed.broadcast,ended ∘ fed.closed⟩

-- A step of the publisher other than enqueue.
theorem fed_publisher {p : Publisher TranscriptEvent} (fed : Fed setup job calls f)
    (next : f.publisher.step (payload setup) event = some p)
    (silent : enqueued [event] = []) (closed : p.closed = true → job.aborted = true ∨ job.cleaned = true) :
    Fed setup job calls {f with publisher := p} := by
  refine ⟨fed.session,fed.room,fed.stream,?_,fed.broadcast,closed⟩
  have later := publisher_later fed.publisher next
  rwa [silent,List.append_nil] at later

theorem fed_broadcast {b : Live.Broadcast} (fed : Fed setup job calls f)
    (next : Live.step (f.setup setup) f.broadcast event = some b) : Fed setup job calls {f with broadcast := b} := by
  obtain ⟨events,path⟩ := fed.broadcast
  exact ⟨fed.session,fed.room,fed.stream,fed.publisher,⟨events ++ [event],path.step trivial next⟩,fed.closed⟩

theorem fed_enqueue (fed : Fed setup job calls f)
    (closed : (f.publisher.enqueue (f.stream.call call).2).closed = true → job.aborted = true ∨ job.cleaned = true) :
    Fed setup job (calls ++ [call])
      {f with stream := (f.stream.call call).1,publisher := f.publisher.enqueue (f.stream.call call).2} := by
  obtain ⟨callId,streamId⟩ := call_frame f.stream call
  have origin : TranscriptStream.initial (f.stream.call call).1.callId (f.stream.call call).1.streamId = f.origin := by
    rw [callId,streamId]
    rfl
  refine ⟨fed.session,?_,?_,?_,?_,closed⟩
  · rw [callId]
    exact fed.room
  · change (f.stream.call call).1 = TranscriptStream.after (.initial _ _) (calls ++ [call])
    rw [origin,after_snoc,← fed.stream]
  · obtain ⟨events,path,given⟩ := publisher_later fed.publisher
      (show f.publisher.step (payload setup) (.enqueue (f.stream.call call).2) = some _ from rfl)
    refine ⟨events,path,?_⟩
    rw [given]
    change _ = TranscriptStream.produced (.initial _ _) (calls ++ [call])
    rw [origin,produced_snoc,← fed.stream]
    rfl
  · have same : Feeds.setup setup {f with stream := (f.stream.call call).1,publisher := f.publisher.enqueue (f.stream.call call).2} =
        f.setup setup := by
      rw [Feeds.setup,callId]
      rfl
    rw [same]
    exact fed.broadcast

theorem abort_session (job : Worker.Job) (provider : Provider) :
    (job.abort provider).1.control.session.isSome = job.control.session.isSome := by
  rcases (Worker.abort_sheltered job provider).1.control with ⟨same,_⟩ | ⟨_,_,_,given,same⟩
  · rw [same]
  · rw [same]
    exact (frame_silence job.control given).session

theorem abort_ends (job : Worker.Job) (provider : Provider) :
    (job.abort provider).1.aborted = true ∨ (job.abort provider).1.cleaned = true :=
  (Worker.abort_sheltered job provider).2

theorem abort_reported (path : ∃ events, Runs (Worker.step setup) Anything origin events job)
    (session : job.control.session.isSome = true) (provider : Provider) :
    ∃ events, Runs (Worker.step setup) Anything origin events (job.abort provider).1 := by
  obtain ⟨events,ran⟩ := path
  have reported : Worker.step setup job (.publisherFailed provider) = some (job.abort provider).1 := by
    simp only [Worker.step,Worker.Job.reported,session,if_true]
  exact ⟨_,ran.step trivial reported⟩

-- What the move of a publisher does to the conversation around it.
inductive Settles (c : Conversation) (f : Feeds) (publisher : Publisher TranscriptEvent) (provider : Provider) :
    Conversation × Option Error → Prop where
  | quiet : (publisher.closed = true → f.publisher.closed = true) →
      Settles c f publisher provider (c.put {f with publisher},none)
  | fails : f.publisher.closed = false → publisher.closed = true →
      Settles c f publisher provider
        ({(c.put {f with publisher}).note .deliveryUnavailable with job := (c.job.abort provider).1},(c.job.abort provider).2)

theorem settle_cases (c : Conversation) (f : Feeds) (publisher : Publisher TranscriptEvent) (provider : Provider) :
    Settles c f publisher provider (c.settle f publisher provider) := by
  unfold Conversation.settle
  dsimp only
  split
  · rename_i closes
    exact .fails closes.1 closes.2
  · rename_i quiet
    refine .quiet fun closed => ?_
    by_contra open_
    exact quiet ⟨by simpa using open_,closed⟩

-- A fed conversation stays wired whatever becomes of its feeds, log and counts.
theorem wired_put (wired : Wired setup room c) (job : c'.job = c.job) (feeds : c'.feeds = some f)
    (fed : Fed setup c.job c'.calls f) : Wired setup room c' := by
  refine ⟨job ▸ wired.worker,fun none => (by cases feeds.symm.trans none),fun g known => ?_⟩
  cases Option.some.inj (feeds.symm.trans known)
  rw [job]
  exact fed

-- The move of a publisher, from a conversation that has it where it was or has just
-- given it an event.
theorem wired_settle (c : Conversation) (f : Feeds) (publisher : Publisher TranscriptEvent) (provider : Provider)
    (worker : ∃ events, Runs (Worker.step setup) Anything (.initial setup room) events c.job)
    (session : c.job.control.session.isSome = true)
    (fed : ∀ job : Worker.Job, job.control.session.isSome = true →
      (publisher.closed = true → job.aborted = true ∨ job.cleaned = true) → Fed setup job c.calls {f with publisher})
    (before : f.publisher.closed = true → c.job.aborted = true ∨ c.job.cleaned = true) :
    Wired setup room (c.settle f publisher provider).1 := by
  have settles := settle_cases c f publisher provider
  generalize c.settle f publisher provider = result at settles ⊢
  cases settles with
  | quiet quiet =>
    refine ⟨worker,nofun,fun g known => ?_⟩
    cases Option.some.inj known
    exact fed c.job session fun closed => before (quiet closed)
  | fails =>
    refine ⟨abort_reported worker session provider,nofun,fun g known => ?_⟩
    cases Option.some.inj known
    exact fed _ ((abort_session c.job provider).trans session) fun _ => abort_ends c.job provider

theorem enqueue_stays {p : Publisher α} (closed : p.closed = true) (event : Option α) : (p.enqueue event).closed = true := by
  cases event with
  | none => exact closed
  | some event => simp only [Publisher.enqueue,closed,if_true]

theorem wired_enqueue (wired : Wired setup room c) (known : c.feeds = some f) (call : Transcripts.Call) (provider : Provider) :
    Wired setup room (c.enqueue f call provider).1 := by
  have fed := wired.fed f known
  have given : ∀ job : Worker.Job, job.control.session.isSome = true →
      ((f.publisher.enqueue (f.stream.call call).2).closed = true → job.aborted = true ∨ job.cleaned = true) →
        Fed setup job (c.calls ++ [call])
          {f with stream := (f.stream.call call).1,publisher := f.publisher.enqueue (f.stream.call call).2} := by
    intro job session closed
    refine fed_enqueue ⟨session,fed.room,fed.stream,fed.publisher,fed.broadcast,fun past => closed ?_⟩ closed
    exact enqueue_stays past _
  exact wired_settle {c with calls := c.calls ++ [call]} {f with stream := (f.stream.call call).1} _ provider
    wired.worker fed.session given fed.closed

-- What telling the history does to the conversation.
inductive Tells (setup : Worker.Setup) (c : Conversation) (f : Feeds) (event : History.Event) : Conversation → Prop where
  | refused : Live.step (f.setup setup) f.broadcast (.history event) = none → Tells setup c f event c
  | told : Live.step (f.setup setup) f.broadcast (.history event) = some broadcast →
      broadcast.dropped.length ≤ f.broadcast.dropped.length → Tells setup c f event (c.put {f with broadcast})
  | dropped : Live.step (f.setup setup) f.broadcast (.history event) = some broadcast →
      f.broadcast.dropped.length < broadcast.dropped.length →
        Tells setup c f event ((c.put {f with broadcast}).note .queueFull)

theorem tell_cases (setup : Worker.Setup) (c : Conversation) (f : Feeds) (event : History.Event) :
    Tells setup c f event (c.tell setup f event) := by
  unfold Conversation.tell
  split
  · rename_i refused
    exact .refused refused
  · rename_i broadcast moved
    dsimp only
    split
    · rename_i grown
      exact .dropped moved grown
    · rename_i same
      exact .told moved (Nat.not_lt.mp same)

theorem wired_tell (wired : Wired setup room c) (known : c.feeds = some f) (event : History.Event) :
    Wired setup room (c.tell setup f event) := by
  have fed := wired.fed f known
  have tells := tell_cases setup c f event
  generalize c.tell setup f event = told at tells
  cases tells with
  | refused => exact wired
  | told moved | dropped moved => exact wired_put wired rfl rfl (fed_broadcast fed moved)

theorem wired_counts (wired : Wired setup room c) (job : c'.job = c.job) (feeds : c'.feeds = c.feeds)
    (calls : c'.calls = c.calls) : Wired setup room c' := by
  refine ⟨job ▸ wired.worker,?_,?_⟩
  · rw [job,feeds,calls]
    exact wired.early
  · rw [job,feeds,calls]
    exact wired.fed

-- hear() counts and logs.
theorem hear_frame (c : Conversation) (final : Bool) :
    (c.hear final).job = c.job ∧ (c.hear final).feeds = c.feeds ∧ (c.hear final).calls = c.calls := by
  unfold Conversation.hear
  dsimp only
  split <;> exact ⟨rfl,rfl,rfl⟩

theorem wired_caller (wired : Wired setup room c) (known : c.feeds = some f) (segment : Uuid4) :
    Wired setup room (c.onCaller setup f text final drawn segment provider) := by
  obtain ⟨job,feeds,calls⟩ := hear_frame c final
  have heard := wired_counts wired job feeds calls
  have enqueued := wired_enqueue heard (feeds.trans known) (.caller text final drawn) provider
  unfold Conversation.onCaller
  dsimp only
  split
  · split
    · rename_i same
      rw [same] at enqueued
      exact enqueued
    · rename_i same
      rw [same] at enqueued
      split
      · exact enqueued
      · rename_i fed
        exact wired_tell enqueued fed _
  · exact heard

theorem wired_assistant (wired : Wired setup room c) (item : History.ChatItem) : Wired setup room (c.onAssistant item drawn provider) := by
  unfold Conversation.onAssistant
  split
  · exact wired
  · rename_i f known
    have counted : Wired setup room ((c.count c.counts.answered).note (.assistantItem c.counts.answered)) :=
      wired_counts wired rfl rfl rfl
    exact wired_enqueue counted known _ provider

theorem wired_item (wired : Wired setup room c) (known : c.feeds = some f) (item : History.ChatItem) :
    Wired setup room (c.onItem setup f item drawn provider) := by
  unfold Conversation.onItem
  dsimp only
  split
  · split
    · exact wired_assistant (wired_tell wired known _) item
    · exact wired_tell wired known _
  · exact wired_tell wired known _

theorem turn_silent (turn : Turn) : enqueued [turn.publisher] = [] := by cases turn <;> rfl

theorem wired_publish (wired : Wired setup room c) (known : c.feeds = some f)
    (next : c.publish setup f turn provider = some c') : Wired setup room c' := by
  have fed := wired.fed f known
  obtain ⟨publisher,moved,rfl⟩ := Option.map_eq_some_iff.mp next
  refine wired_settle c f publisher provider wired.worker fed.session (fun job session closed => ?_) fed.closed
  have silent := turn_silent turn
  have later := publisher_later fed.publisher moved
  rw [silent,List.append_nil] at later
  exact ⟨session,fed.room,fed.stream,later,fed.broadcast,closed⟩

theorem wired_broadcast (wired : Wired setup room c) (known : c.feeds = some f)
    (next : c.broadcast setup f turn = some c') : Wired setup room c' := by
  have fed := wired.fed f known
  obtain ⟨broadcast,moved,rfl⟩ := Option.map_eq_some_iff.mp next
  dsimp only
  split
  · exact wired_put wired rfl rfl (fed_broadcast fed moved)
  · exact wired_put wired rfl rfl (fed_broadcast fed moved)

theorem closing_exact {c : Conversation} (closing : c.closing f closes = true) : c.job.cleaned = true ∧ f.closes = closes := by
  simp only [Conversation.closing,Bool.and_eq_true,decide_eq_true_eq] at closing
  exact ⟨closing.1.1,closing.2⟩

theorem wired_closeHistory (wired : Wired setup room c) (known : c.feeds = some f)
    (next : c.closeHistory setup f = some c') : Wired setup room c' := by
  have fed := wired.fed f known
  unfold Conversation.closeHistory at next
  split at next
  · obtain ⟨broadcast,moved,rfl⟩ := Option.map_eq_some_iff.mp next
    have later := fed_broadcast fed moved
    exact wired_put wired rfl rfl ⟨later.session,later.room,later.stream,later.publisher,later.broadcast,later.closed⟩
  · cases next

theorem wired_closePublisher (wired : Wired setup room c) (known : c.feeds = some f)
    (next : c.closePublisher setup f = some c') : Wired setup room c' := by
  have fed := wired.fed f known
  unfold Conversation.closePublisher at next
  split at next
  · rename_i closing
    obtain ⟨publisher,moved,rfl⟩ := Option.map_eq_some_iff.mp next
    have later := fed_publisher fed moved rfl fun _ => .inr (closing_exact closing).1
    exact wired_put wired rfl rfl ⟨later.session,later.room,later.stream,later.publisher,later.broadcast,later.closed⟩
  · cases next

theorem started_step {State Event : Type} {step : State → Event → Option State} (s : State) (event : Event) :
    step s event = some ((step s event).getD s) ∨ (step s event).getD s = s := by
  cases step s event with
  | none => exact .inr rfl
  | some => exact .inl rfl

theorem start_open (p : Publisher TranscriptEvent) : ((p.step (payload setup) .start).getD p).closed = p.closed := by
  simp only [Publisher.step]
  split <;> rfl

-- publisher.start() and history.start()
theorem fed_start (fed : Fed setup job calls f) : Fed setup job calls (f.start setup) := by
  have published : Fed setup job calls {f with publisher := (f.publisher.step (payload setup) .start).getD f.publisher} := by
    rcases @started_step _ _ (Publisher.step (payload setup)) f.publisher .start with moved | same
    · refine fed_publisher fed moved rfl fun closed => fed.closed ?_
      rwa [start_open] at closed
    · rw [same]
      exact fed
  rcases @started_step _ _ (Live.step (f.setup setup)) f.broadcast .start with moved | same
  · exact fed_broadcast published moved
  · have whole := published
    unfold Feeds.start
    rw [same]
    exact whole

theorem fed_opening (granted : Bootstrap.authorize setup.py setup.dispatch setup.roomName leg attempt = some (.ok call))
    (session : job.control.session.isSome = true) (streamId : Uuid4) : Fed setup job [] (.opening call streamId) := by
  obtain ⟨_,_,profile⟩ := Bootstrap.authorize_parts granted
  obtain ⟨_,_,_,_,_,_,room,_⟩ := Bootstrap.authorizedProfile_parts profile
  exact ⟨session,room,rfl,⟨[],.nil,rfl⟩,⟨[],.nil⟩,nofun⟩

-- What a step of the job leaves to feed, and what it creates.
structure Feeding (setup : Worker.Setup) (job : Worker.Job) (calls : List Transcripts.Call) (feeds : Option Feeds) : Prop where
  early : feeds = none → job.profile = none ∧ calls = []
  fed : ∀ f, feeds = some f → Fed setup job calls f

theorem created_feeding (wired : Wired setup room c) (advances : Worker.Advances setup c.job job) (tied : Worker.Tied job)
    (streamId : Uuid4) : Feeding setup job c.calls (c.created job streamId) := by
  have ended : c.job.aborted = true ∨ c.job.cleaned = true → job.aborted = true ∨ job.cleaned = true :=
    Or.imp advances.aborted advances.cleaned
  unfold Conversation.created
  cases known : c.feeds with
  | some f =>
    have fed := wired.fed f known
    refine ⟨fun none => (by cases none),fun g same => ?_⟩
    cases Option.some.inj same
    exact fed_later fed (advances.session fed.session) ended
  | none =>
    obtain ⟨absent,silent⟩ := wired.early known
    cases profile : job.profile with
    | none => exact ⟨fun _ => ⟨profile,silent⟩,fun _ none => by cases none⟩
    | some call =>
      refine ⟨fun none => (by cases none),fun g same => ?_⟩
      cases Option.some.inj same
      rw [silent]
      rcases advances.profile with kept | ⟨leg,attempt,other,given,granted⟩
      · cases (profile.symm.trans kept).trans absent
      · cases Option.some.inj (profile.symm.trans given)
        exact fed_opening granted (tied.session (by rw [profile]; rfl)) streamId

theorem started_feeding (feeding : Feeding setup job calls feeds) :
    Feeding setup job calls (feeds.map (·.start setup)) := by
  refine ⟨fun none => feeding.early (Option.map_eq_none_iff.mp none),fun f known => ?_⟩
  obtain ⟨g,present,rfl⟩ := Option.map_eq_some_iff.mp known
  exact fed_start (feeding.fed g present)

theorem wired_advance (wired : Wired setup room c) (next : Worker.step setup c.job event = some job) (streamId : Uuid4) :
    Wired setup room (c.advance setup event job streamId) := by
  obtain ⟨events,path⟩ := wired.worker
  obtain ⟨sound,tied⟩ := Worker.run_held path
  have advances := Worker.step_advances sound.admitted next
  have created := created_feeding wired advances (Worker.advances_tied tied advances) streamId
  have feeding : Feeding setup job c.calls
      (if starts setup c.job event then (c.created job streamId).map (·.start setup) else c.created job streamId) := by
    split
    · exact started_feeding created
    · exact created
  have later : ∃ events, Runs (Worker.step setup) Anything (.initial setup room) events job :=
    ⟨events ++ [event],path.step trivial next⟩
  unfold Conversation.advance
  dsimp only
  generalize (if starts setup c.job event then (c.created job streamId).map (·.start setup) else c.created job streamId) =
    feeds at feeding ⊢
  split
  · exact ⟨later,feeding.early,feeding.fed⟩
  · exact ⟨later,feeding.early,feeding.fed⟩

theorem step_wired (wired : Wired setup room c) (next : step setup c event = some c') : Wired setup room c' := by
  cases event with
  | worker event streamId =>
    simp only [step] at next
    split at next
    · cases next
    · obtain ⟨job,moved,rfl⟩ := Option.map_eq_some_iff.mp next
      exact wired_advance wired moved streamId
  | caller text final drawn segment provider =>
    obtain ⟨f,known,same⟩ := Option.bind_eq_some_iff.mp next
    cases Option.some.inj same
    exact wired_caller wired known segment
  | item item drawn provider =>
    obtain ⟨f,known,same⟩ := Option.bind_eq_some_iff.mp next
    cases Option.some.inj same
    exact wired_item wired known item
  | error recoverable =>
    obtain ⟨f,known,same⟩ := Option.bind_eq_some_iff.mp next
    cases Option.some.inj same
    exact wired_counts wired rfl rfl rfl
  | edited | request =>
    obtain ⟨f,known,same⟩ := Option.bind_eq_some_iff.mp next
    cases Option.some.inj same
    exact wired_tell wired known _
  | elapsed seconds =>
    obtain ⟨f,known,told⟩ := Option.bind_eq_some_iff.mp next
    simp only [Conversation.converse] at told
    split at told
    · cases told
      exact wired_tell wired known _
    · cases told
  | publisher turn provider =>
    obtain ⟨f,known,moved⟩ := Option.bind_eq_some_iff.mp next
    exact wired_publish wired known moved
  | broadcast turn =>
    obtain ⟨f,known,moved⟩ := Option.bind_eq_some_iff.mp next
    exact wired_broadcast wired known moved
  | closeHistory =>
    obtain ⟨f,known,moved⟩ := Option.bind_eq_some_iff.mp next
    exact wired_closeHistory wired known moved
  | closePublisher =>
    obtain ⟨f,known,moved⟩ := Option.bind_eq_some_iff.mp next
    exact wired_closePublisher wired known moved

theorem initial_wired : Wired setup room (.initial setup room) := ⟨⟨[],.nil⟩,fun _ => ⟨rfl,rfl⟩,fun _ none => by cases none⟩

theorem run_wired (path : Runs (step setup) Anything (.initial setup room) events c) : Wired setup room c :=
  path.invariant (fun _ _ _ wired _ next => step_wired wired next) initial_wired

-- A conversation in which nothing has been said yet: there is none, or its feeds are as
-- they were created or started.
def Unheard (setup : Worker.Setup) (c : Conversation) : Prop :=
  c.feeds = none ∨ ∃ call streamId, c.feeds = some (.opening call streamId) ∨
    c.feeds = some ((Feeds.opening call streamId).start setup)

theorem advance_feeds (c : Conversation) (event : Worker.Event) (job : Worker.Job) (streamId : Uuid4) :
    (c.advance setup event job streamId).feeds = if starts setup c.job event then (c.created job streamId).map (·.start setup)
      else c.created job streamId := by
  unfold Conversation.advance
  dsimp only
  split
  · rfl
  · rfl

theorem advance_kept (setup : Worker.Setup) (c : Conversation) (event : Worker.Event) (job : Worker.Job) (streamId : Uuid4) :
    (c.advance setup event job streamId).job = job ∧ (c.advance setup event job streamId).calls = c.calls := by
  unfold Conversation.advance
  dsimp only
  split
  · exact ⟨rfl,rfl⟩
  · exact ⟨rfl,rfl⟩

theorem created_unheard (unheard : Unheard setup c) (job : Worker.Job) (streamId : Uuid4) :
    Unheard setup {c with feeds := c.created job streamId} := by
  unfold Conversation.created
  rcases unheard with none | ⟨call,given,known | known⟩
  · rw [none]
    cases job.profile with
    | none => exact .inl rfl
    | some call => exact .inr ⟨call,streamId,.inl rfl⟩
  · rw [known]
    exact .inr ⟨call,given,.inl rfl⟩
  · rw [known]
    exact .inr ⟨call,given,.inr rfl⟩

-- They are started at most once.
theorem start_unheard {c : Conversation} (unheard : Unheard setup c) (known : c.feeds = some f) :
    ∃ call streamId, f.start setup = (Feeds.opening call streamId).start setup := by
  rcases unheard with none | ⟨call,given,opened | started⟩
  · cases none.symm.trans known
  · cases opened.symm.trans known
    exact ⟨call,given,rfl⟩
  · cases started.symm.trans known
    exact ⟨call,given,rfl⟩

theorem advance_unheard (unheard : Unheard setup c) (event : Worker.Event) (job : Worker.Job) (streamId : Uuid4) :
    Unheard setup (c.advance setup event job streamId) := by
  have created := created_unheard unheard job streamId
  unfold Unheard at created ⊢
  rw [advance_feeds]
  split
  · cases known : c.created job streamId with
    | none => exact .inl rfl
    | some f =>
      obtain ⟨call,given,started⟩ := start_unheard (created_unheard unheard job streamId) known
      exact .inr ⟨call,given,.inr (congrArg some started)⟩
  · exact created

-- A run of the job alone is one of the conversation.
theorem worker_lifts (path : Runs (Worker.step setup) Anything before events job) (same : c.job = before)
    (unheard : Unheard setup c) (plain : ∀ event ∈ events, ∀ c : Conversation, c.refuses event = false) (streamId : Uuid4) :
    ∃ c', Runs (step setup) Anything c (events.map (Event.worker · streamId)) c' ∧ c'.job = job ∧ c'.calls = c.calls ∧
      Unheard setup c' := by
  induction path with
  | nil => exact ⟨c,.nil,same,rfl,unheard⟩
  | @step _ _ event after prior _ next ih =>
    obtain ⟨reached,ran,known,silent,unheard⟩ := ih fun event member => plain event (List.mem_append_left _ member)
    have allowed := plain event (List.mem_append_right _ List.mem_cons_self) reached
    have stepped : step setup reached (.worker event streamId) = some (reached.advance setup event after streamId) := by
      simp only [step,allowed,Bool.false_eq_true,if_false,known,next,Option.map_some]
    obtain ⟨job,calls⟩ := advance_kept setup reached event after streamId
    refine ⟨_,?_,job,calls.trans silent,advance_unheard unheard event after streamId⟩
    rw [List.map_append]
    exact ran.step trivial stepped

def sampleUtterance (text : String) : Event := .caller text true (sampleDrawn 1) (sampleUuid 2) Worker.calm

-- A conversation can begin, with its feeds started.
theorem sample_begun : ∃ events c call streamId, Runs (step Worker.sampleSetup) Anything
    (.initial Worker.sampleSetup (Worker.lobby Worker.sampleSetup Bootstrap.sampleLeg)) events c ∧
      c.feeds = some ((Feeds.opening call streamId).start Worker.sampleSetup) ∧ c.job.available = true ∧ c.calls = [] := by
  obtain ⟨j,path,announced⟩ := Worker.arrival_announces Worker.sample_granted
  have plain : ∀ event ∈ Worker.arrival Bootstrap.sampleLeg Worker.sampleAttempt, ∀ c : Conversation,
      c.refuses event = false := by
    intro event member c
    simp only [Worker.arrival,List.mem_cons,List.not_mem_nil,or_false] at member
    rcases member with rfl | rfl | rfl | rfl | rfl | rfl <;> rfl
  obtain ⟨c,ran,same,silent,unheard⟩ :=
    worker_lifts (c := .initial Worker.sampleSetup _) path rfl (.inl rfl) plain (sampleUuid 0)
  obtain ⟨opens,⟨unaborted,_⟩,calls,control⟩ := Worker.announced_opens announced Worker.sampleAttempt
  have next : step Worker.sampleSetup c (.worker (.resume (Worker.agreed Worker.sampleAttempt)) (sampleUuid 0)) =
      some (c.advance Worker.sampleSetup (.resume (Worker.agreed Worker.sampleAttempt)) j.converse (sampleUuid 0)) := by
    simp only [step,Conversation.refuses,Bool.false_eq_true,if_false,same,opens,Option.map_some]
  have begins : starts Worker.sampleSetup c.job (.resume (Worker.agreed Worker.sampleAttempt)) = true := by
    obtain ⟨still,_,publishing,_⟩ := announced.running
    obtain ⟨_,before⟩ := announced.control
    have valid : j.validate Worker.sampleSetup = .ok () := announced.valid
    rw [same,starts,publishing,valid,still,before]
    rfl
  have profiled : j.profile ≠ none := by
    obtain ⟨_,reached⟩ := (run_wired ran).worker
    rw [same] at reached
    have opened : j.startup.opened = true := by
      rw [announced.running.2.2.1]
      rfl
    obtain ⟨_,call,_,given⟩ := (Worker.run_held reached).1.admitted.profiled (.inl opened)
    rw [given]
    exact Option.some_ne_none call
  have longer := ran.step trivial next
  obtain ⟨job,kept⟩ := advance_kept Worker.sampleSetup c (.resume (Worker.agreed Worker.sampleAttempt)) j.converse (sampleUuid 0)
  have feeds := @advance_feeds Worker.sampleSetup c (.resume (Worker.agreed Worker.sampleAttempt)) j.converse (sampleUuid 0)
  rw [if_pos begins] at feeds
  cases known : c.created j.converse (sampleUuid 0) with
  | none =>
    rw [known] at feeds
    have absent := ((run_wired longer).early feeds).1
    rw [job] at absent
    exact absurd absent profiled
  | some f =>
    obtain ⟨call,given,started⟩ := start_unheard (created_unheard unheard j.converse (sampleUuid 0)) known
    rw [known,Option.map_some,started] at feeds
    refine ⟨_,_,call,given,longer,feeds,?_,kept.trans silent⟩
    rw [job,Worker.available_exact,control]
    exact ⟨rfl,unaborted,rfl⟩

-- A conversation can begin.
theorem sample_talk : ∃ events c f, Runs (step Worker.sampleSetup) Anything
    (.initial Worker.sampleSetup (Worker.lobby Worker.sampleSetup Bootstrap.sampleLeg)) events c ∧ c.feeds = some f ∧
      c.job.available = true ∧ c.calls = [] := by
  obtain ⟨events,c,call,streamId,path,known,open_,silent⟩ := sample_begun
  exact ⟨events,c,_,path,known,open_,silent⟩

-- What an utterance makes of the feeds, where the publisher has room for it.
def Feeds.hear (setup : Worker.Setup) (f : Feeds) (text : String) (final : Bool) (drawn : Drawn) (segment : Uuid4) : Feeds :=
  let f := {f with
    stream := (f.stream.call (.caller text final drawn)).1
    publisher := f.publisher.enqueue (f.stream.call (.caller text final drawn)).2}
  {f with broadcast := (Live.step (f.setup setup) f.broadcast (.history (.caller text final segment))).getD f.broadcast}

-- A step that the job has no part in.
structure Talks (c : Conversation) (calls : List Transcripts.Call) (f : Feeds) (c' : Conversation) : Prop where
  job : c'.job = c.job
  feeds : c'.feeds = some f
  calls : c'.calls = c.calls ++ calls

theorem tell_talks (setup : Worker.Setup) (known : c.feeds = some f) (event : History.Event) : Talks c []
    {f with broadcast := (Live.step (f.setup setup) f.broadcast (.history event)).getD f.broadcast} (c.tell setup f event) := by
  have tells := tell_cases setup c f event
  generalize c.tell setup f event = told at tells
  cases tells with
  | refused moved =>
    rw [moved]
    exact ⟨rfl,known,(List.append_nil _).symm⟩
  | told moved | dropped moved =>
    rw [moved]
    exact ⟨rfl,rfl,(List.append_nil _).symm⟩

theorem settle_talks {c : Conversation} (quiet : publisher.closed = true → f.publisher.closed = true) (provider : Provider) :
    c.settle f publisher provider = (c.put {f with publisher},none) := by
  have settles := settle_cases c f publisher provider
  generalize c.settle f publisher provider = result at settles
  cases settles with
  | quiet => rfl
  | fails open_ closed => cases open_.symm.trans (quiet closed)

theorem caller_talks (known : c.feeds = some f) (open_ : c.job.available = true) (text : String) (final : Bool) (drawn : Drawn)
    (quiet : (f.publisher.enqueue (f.stream.call (.caller text final drawn)).2).closed = true → f.publisher.closed = true)
    (segment : Uuid4) (provider : Provider) :
    ∃ c', step setup c (.caller text final drawn segment provider) = some c' ∧
      Talks c [.caller text final drawn] (f.hear setup text final drawn segment) c' := by
  obtain ⟨job,_,calls⟩ := hear_frame c final
  have given : (c.hear final).job.available = true := job.symm ▸ open_
  have enqueued := settle_talks (c := {c.hear final with calls := (c.hear final).calls ++ [.caller text final drawn]})
    (f := {f with stream := (f.stream.call (.caller text final drawn)).1}) quiet provider
  have next : step setup c (.caller text final drawn segment provider) =
      some (c.onCaller setup f text final drawn segment provider) := by
    simp only [step,known,Option.bind_some,Conversation.converse]
  refine ⟨_,next,?_⟩
  unfold Conversation.onCaller Conversation.enqueue
  dsimp only
  rw [if_pos given,enqueued]
  dsimp only [Conversation.put]
  have told := tell_talks setup (c := {c.hear final with
    calls := (c.hear final).calls ++ [.caller text final drawn]
    feeds := some {f with
      stream := (f.stream.call (.caller text final drawn)).1
      publisher := f.publisher.enqueue (f.stream.call (.caller text final drawn)).2}}) rfl (.caller text final segment)
  refine ⟨told.job.trans job,told.feeds,told.calls.trans ?_⟩
  rw [List.append_nil,calls]

-- A publisher that is open and has room takes what is said.
theorem spoken_talks (known : c.feeds = some f) (open_ : c.job.available = true)
    (free : f.publisher.closed = false ∧ f.publisher.full = false) (text : String) (spoken : PythonText.isBlank text = false)
    (drawn : Drawn) (segment : Uuid4) (provider : Provider) :
    ∃ e, (f.hear setup text true drawn segment).publisher = f.publisher.put e ∧
      ∃ c', step setup c (.caller text true drawn segment provider) = some c' ∧
        Talks c [.caller text true drawn] (f.hear setup text true drawn segment) c' := by
  obtain ⟨e,shown,_⟩ := @output_spoken (.caller text true drawn) [] f.stream spoken
  have put : f.publisher.enqueue (f.stream.call (.caller text true drawn)).2 = f.publisher.put e := by
    rw [show (f.stream.call (.caller text true drawn)).2 = some e from shown,Publisher.enqueue,free.1,free.2]
    rfl
  refine ⟨e,put,caller_talks known open_ text true drawn ?_ segment provider⟩
  rw [put]
  exact id

theorem publisher_talks (known : c.feeds = some f) (turn : Turn) (moved : f.publisher.step (payload setup) turn.publisher = some publisher)
    (quiet : publisher.closed = true → f.publisher.closed = true) (provider : Provider) :
    ∃ c', step setup c (.publisher turn provider) = some c' ∧ Talks c [] {f with publisher} c' := by
  have next : step setup c (.publisher turn provider) = some (c.settle f publisher provider).1 := by
    simp only [step,known,Option.bind_some,Conversation.converse,Conversation.publish,moved,Option.map_some]
  refine ⟨_,next,?_⟩
  rw [settle_talks quiet]
  exact ⟨rfl,rfl,(List.append_nil _).symm⟩

theorem broadcast_talks (known : c.feeds = some f) (turn : Turn)
    (moved : Live.step (f.setup setup) f.broadcast turn.broadcast = some broadcast) :
    ∃ c', step setup c (.broadcast turn) = some c' ∧ Talks c [] {f with broadcast} c' := by
  have next : step setup c (.broadcast turn) =
      some (if turn.fails then (c.put {f with broadcast}).note .liveUnavailable else c.put {f with broadcast}) := by
    simp only [step,known,Option.bind_some,Conversation.converse,Conversation.broadcast,moved,Option.map_some]
  refine ⟨_,next,?_⟩
  split
  · exact ⟨rfl,rfl,(List.append_nil _).symm⟩
  · exact ⟨rfl,rfl,(List.append_nil _).symm⟩

theorem talks_later (path : Runs (step setup) Anything before events c) (open_ : c.job.available = true)
    (talks : ∃ c', step setup c event = some c' ∧ Talks c calls f c') :
    ∃ events' c', Runs (step setup) Anything before events' c' ∧ c'.feeds = some f ∧ c'.job.available = true ∧
      c'.calls = c.calls ++ calls := by
  obtain ⟨c',next,talk⟩ := talks
  exact ⟨_,c',path.step trivial next,talk.feeds,talk.job.symm ▸ open_,talk.calls⟩

-- A publisher that has been started sends the first thing that it is given.
theorem first_sends (setup : Worker.Setup) {p : Publisher TranscriptEvent}
    (put : p = (⟨capacity,[],false,.created,false,[],0⟩ : Publisher TranscriptEvent).put e) :
    p.step (payload setup) .resume = some ⟨capacity,[],false,.publishing e,false,[e],0⟩ := by
  rw [put]
  rfl

-- Two things are said: the handset is sent the first, the second waits, and the room has
-- the first.
theorem sample_conversation : ∃ events c f, Runs (step Worker.sampleSetup) Anything
    (.initial Worker.sampleSetup (Worker.lobby Worker.sampleSetup Bootstrap.sampleLeg)) events c ∧ c.feeds = some f ∧
      c.job.available = true ∧ c.calls = [.caller "Hello" true (sampleDrawn 1),.caller "Goodbye" true (sampleDrawn 1)] ∧
      f.publisher.published.length = 1 ∧ f.publisher.queue.length = 1 ∧ f.broadcast.attempts.length = 1 := by
  obtain ⟨_,c,call,streamId,path,known,open_,silent⟩ := sample_begun
  have plain : PythonText.isBlank "Hello" = false ∧ PythonText.isBlank "Goodbye" = false := by decide
  obtain ⟨one,put,talks⟩ := spoken_talks known open_ ⟨rfl,rfl⟩ "Hello" plain.1 (sampleDrawn 1) (sampleUuid 2) Worker.calm
  obtain ⟨_,c,path,known,open_,hello⟩ := talks_later path open_ talks
  obtain ⟨_,c,path,known,open_,sends⟩ := talks_later path open_
    (publisher_talks known .resume (first_sends _ put) (fun closed => by cases closed) Worker.calm)
  obtain ⟨two,queued,talks⟩ := spoken_talks known open_ ⟨rfl,rfl⟩ "Goodbye" plain.2 (sampleDrawn 1) (sampleUuid 3) Worker.calm
  obtain ⟨_,c,path,known,open_,bye⟩ := talks_later path open_ talks
  obtain ⟨_,c,path,known,open_,told⟩ := talks_later path open_ (broadcast_talks known .resume rfl)
  obtain ⟨_,c,path,known,open_,last⟩ := talks_later path open_ (broadcast_talks known (.settle .sent true) rfl)
  refine ⟨_,c,_,path,known,open_,?_,?_,?_,rfl⟩
  · rw [last,told,bye,sends,hello,silent]
    rfl
  · exact congrArg (fun p : Publisher TranscriptEvent => p.published.length) queued
  · exact congrArg (fun p : Publisher TranscriptEvent => p.queue.length) queued

-- Seen from the job, the publisher or the history, a run of the entrypoint is a run of it.
theorem conversation_parts (path : Runs (step setup) Anything (.initial setup room) events c) : Wired setup room c :=
  run_wired path

theorem sample_parts : ∃ (room : Worker.Room) (c : Conversation) (f : Feeds), c.feeds = some f ∧ c.job.available = true ∧
    f.publisher.published.length = 1 ∧ f.publisher.queue.length = 1 ∧ f.broadcast.attempts.length = 1 ∧
      Wired Worker.sampleSetup room c := by
  obtain ⟨_,c,f,path,known,open_,_,sent,waits,told⟩ := sample_conversation
  exact ⟨_,c,f,known,open_,sent,waits,told,conversation_parts path⟩

end AidaAgent.Entrypoint
