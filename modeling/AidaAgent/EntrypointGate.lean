import AidaAgent.EntrypointParts

namespace AidaAgent.Entrypoint
open JsonText Config Transcripts Control Transitions

-- What the gate lets through of an event to stream.caller and stream.assistant.
def said (c : Conversation) : Event → List Transcripts.Call
  | .caller text final drawn _ _ => if c.job.available then [.caller text final drawn] else []
  | .item item drawn _ =>
    if c.job.available = true ∧ item.role = some .assistant then
      [.assistant (item.textContent.getD "") item.id drawn] else []
  | _ => []

-- The rows that the history has told its observers.
def told (c : Conversation) : List History.Row := c.feeds.elim [] (·.broadcast.scene.emitted)

def tellsRow : History.Event → Bool
  | .caller .. | .item _ => true
  | _ => false

theorem history_quiet (quiet : tellsRow event = false) (moved : History.step setup s event = some s') :
    s'.emitted = s.emitted := by
  cases History.step_cases moved with
  | caller | told | raised => cases quiet
  | edited | published | request | elapsed | close => rfl

theorem live_quiet {b b' : Live.Broadcast} (quiet : tellsRow event = false)
    (moved : Live.step setup b (.history event) = some b') : b'.scene.emitted = b.scene.emitted := by
  cases Live.step_cases moved with
  | history _ stepped => exact history_quiet quiet stepped

-- A task of the history tells nothing, whatever it does.
theorem task_quiet {b b' : Live.Broadcast} (task : ∀ event, given ≠ .history event) (moved : Live.step setup b given = some b') :
    b'.scene.emitted = b.scene.emitted := by
  have taken := (Live.take_takes b).emitted
  have ran := (Live.run_takes b).emitted
  cases Live.step_cases moved with
  | history => exact absurd rfl (task _)
  | start | cut | cancelled | close => rfl
  | runs => exact ran
  | takes => exact taken
  | settle => exact (Live.run_takes _).emitted

-- What telling the history leaves of the conversation.
structure TellFrame (c : Conversation) (f : Feeds) (event : History.Event) (c' : Conversation) : Prop where
  job : c'.job = c.job
  calls : c'.calls = c.calls
  counts : c'.counts = c.counts
  feeds : ∃ broadcast, c'.feeds = some {f with broadcast} ∧
    (tellsRow event = false → broadcast.scene.emitted = f.broadcast.scene.emitted)

theorem tell_frame (known : c.feeds = some f) (event : History.Event) : TellFrame c f event (c.tell setup f event) := by
  have tells := tell_cases setup c f event
  generalize c.tell setup f event = after at tells
  cases tells with
  | refused => exact ⟨rfl,rfl,rfl,f.broadcast,known,fun _ => rfl⟩
  | told moved | dropped moved => exact ⟨rfl,rfl,rfl,_,rfl,fun quiet => live_quiet quiet moved⟩

-- What giving the publisher an event leaves of it.
structure EnqueueFrame (c : Conversation) (f : Feeds) (call : Transcripts.Call) (c' : Conversation) : Prop where
  job : c'.job = c.job ∨ ∃ provider, c'.job = (c.job.abort provider).1
  calls : c'.calls = c.calls ++ [call]
  counts : c'.counts = c.counts
  feeds : ∃ publisher, c'.feeds = some {f with stream := (f.stream.call call).1,publisher}

theorem enqueue_frame (c : Conversation) (f : Feeds) (call : Transcripts.Call) (provider : Provider) :
    EnqueueFrame c f call (c.enqueue f call provider).1 := by
  have settles := settle_cases {c with calls := c.calls ++ [call]} {f with stream := (f.stream.call call).1}
    (f.publisher.enqueue (f.stream.call call).2) provider
  change EnqueueFrame c f call (Conversation.settle {c with calls := c.calls ++ [call]}
    {f with stream := (f.stream.call call).1} (f.publisher.enqueue (f.stream.call call).2) provider).1
  generalize Conversation.settle _ _ _ _ = result at settles ⊢
  cases settles with
  | quiet => exact ⟨.inl rfl,rfl,rfl,_,rfl⟩
  | fails => exact ⟨.inr ⟨provider,rfl⟩,rfl,rfl,_,rfl⟩

theorem told_known {c : Conversation} (known : c.feeds = some f) : told c = f.broadcast.scene.emitted := by
  rw [told,known]
  rfl

-- What one step can do to the job, to the calls and to the rows told.
structure Passes (setup : Worker.Setup) (c : Conversation) (event : Event) (c' : Conversation) : Prop where
  job : c'.job = c.job ∨ (∃ provider, c'.job = (c.job.abort provider).1) ∨
    ∃ given streamId, event = .worker given streamId ∧ Worker.step setup c.job given = some c'.job
  calls : c'.calls = c.calls ++ said c event
  quiet : c.job.available = false → told c' = told c

theorem caller_passes (c : Conversation) (f : Feeds) (text : String) (final : Bool) (drawn : Drawn) (segment : Uuid4)
    (provider : Provider) : Passes setup c (.caller text final drawn segment provider)
      (c.onCaller setup f text final drawn segment provider) := by
  obtain ⟨job,feeds,calls⟩ := hear_frame c final
  unfold Conversation.onCaller
  dsimp only
  cases open_ : c.job.available with
  | false =>
    have silent : said c (.caller text final drawn segment provider) = [] := by rw [said,open_]; rfl
    rw [job,open_,if_neg (by simp)]
    refine ⟨.inl job,?_,fun _ => ?_⟩
    · rw [silent,List.append_nil]
      exact calls
    · rw [told,feeds]
      rfl
  | true =>
    have loud : said c (.caller text final drawn segment provider) = [.caller text final drawn] := by rw [said,open_]; rfl
    have frame := enqueue_frame (c.hear final) f (.caller text final drawn) provider
    have passed : ∀ {after : Conversation}, after.job = ((c.hear final).enqueue f (.caller text final drawn) provider).1.job →
        after.calls = ((c.hear final).enqueue f (.caller text final drawn) provider).1.calls →
          Passes setup c (.caller text final drawn segment provider) after := by
      intro after same also
      refine ⟨?_,?_,fun closed => by cases open_.symm.trans closed⟩
      · rw [same,← job]
        exact frame.job.imp id .inl
      · rw [also,frame.calls,calls,loud]
    rw [job,open_,if_pos rfl]
    split
    · rename_i same
      rw [same] at passed
      exact passed rfl rfl
    · rename_i same
      rw [same] at passed
      split
      · exact passed rfl rfl
      · rename_i given
        have telling := @tell_frame _ _ setup given (.caller text final segment)
        exact passed telling.job telling.calls

theorem item_passes (known : c.feeds = some f) (item : History.ChatItem) (drawn : Drawn) (provider : Provider) :
    Passes setup c (.item item drawn provider) (c.onItem setup f item drawn provider) := by
  unfold Conversation.onItem
  dsimp only
  cases open_ : c.job.available with
  | false =>
    have telling := @tell_frame _ _ setup known (.edited (f.broadcast.scene.items ++ [item]))
    have silent : said c (.item item drawn provider) = [] := by
      rw [said,open_,if_neg (fun both => by cases both.1)]
    obtain ⟨broadcast,feeds,quiet⟩ := telling.feeds
    rw [if_neg (by simp)]
    refine ⟨.inl telling.job,?_,fun _ => ?_⟩
    · rw [silent,List.append_nil]
      exact telling.calls
    · rw [told_known feeds,told_known known]
      exact quiet rfl
  | true =>
    have telling := @tell_frame _ _ setup known (.item item)
    obtain ⟨broadcast,feeds,_⟩ := telling.feeds
    rw [if_pos rfl]
    split
    · rename_i assistant
      have loud : said c (.item item drawn provider) = [.assistant (item.textContent.getD "") item.id drawn] := by
        rw [said,open_,if_pos ⟨rfl,assistant⟩]
      unfold Conversation.onAssistant
      rw [feeds]
      dsimp only
      have frame := enqueue_frame (((c.tell setup f (.item item)).count (c.tell setup f (.item item)).counts.answered).note
        (.assistantItem ((c.tell setup f (.item item)).count (c.tell setup f (.item item)).counts.answered).counts))
        {f with broadcast} (.assistant (item.textContent.getD "") item.id drawn) provider
      refine ⟨?_,?_,fun closed => by cases open_.symm.trans closed⟩
      · rw [← telling.job]
        exact frame.job.imp id .inl
      · rw [loud,← telling.calls]
        exact frame.calls
    · rename_i other
      have silent : said c (.item item drawn provider) = [] := by
        rw [said,if_neg (fun both => other both.2)]
      refine ⟨.inl telling.job,?_,fun closed => by cases open_.symm.trans closed⟩
      rw [silent,List.append_nil]
      exact telling.calls

theorem passes_tell (known : c.feeds = some f) (quiet : tellsRow given = false) (silent : said c event = []) :
    Passes setup c event (c.tell setup f given) := by
  have telling := @tell_frame _ _ setup known given
  obtain ⟨broadcast,feeds,same⟩ := telling.feeds
  refine ⟨.inl telling.job,?_,fun _ => ?_⟩
  · rw [silent,List.append_nil]
    exact telling.calls
  · rw [told_known feeds,told_known known]
    exact same quiet

theorem passes_put {c c' : Conversation} (known : c.feeds = some f) (feeds : c'.feeds = some f')
    (same : f'.broadcast.scene.emitted = f.broadcast.scene.emitted)
    (job : c'.job = c.job ∨ ∃ provider, c'.job = (c.job.abort provider).1) (calls : c'.calls = c.calls)
    (silent : said c event = []) : Passes setup c event c' := by
  refine ⟨job.imp id .inl,?_,fun _ => ?_⟩
  · rw [silent,List.append_nil]
    exact calls
  · rw [told_known feeds,told_known known]
    exact same

theorem publish_passes (known : c.feeds = some f) (next : c.publish setup f turn provider = some c') :
    Passes setup c (.publisher turn provider) c' := by
  obtain ⟨publisher,_,rfl⟩ := Option.map_eq_some_iff.mp next
  have settles := settle_cases c f publisher provider
  generalize c.settle f publisher provider = result at settles ⊢
  cases settles with
  | quiet => exact passes_put known rfl rfl (.inl rfl) rfl rfl
  | fails => exact passes_put known rfl rfl (.inr ⟨provider,rfl⟩) rfl rfl

theorem broadcast_passes (known : c.feeds = some f) (next : c.broadcast setup f turn = some c') :
    Passes setup c (.broadcast turn) c' := by
  obtain ⟨broadcast,moved,rfl⟩ := Option.map_eq_some_iff.mp next
  have same := task_quiet (fun _ same => by cases turn <;> cases same) moved
  dsimp only
  split
  · exact passes_put known rfl same (.inl rfl) rfl rfl
  · exact passes_put known rfl same (.inl rfl) rfl rfl

theorem close_passes (known : c.feeds = some f)
    (next : c.closeHistory setup f = some c' ∧ event = .closeHistory ∨
      c.closePublisher setup f = some c' ∧ event = .closePublisher) : Passes setup c event c' := by
  rcases next with ⟨closes,rfl⟩ | ⟨closes,rfl⟩
  · unfold Conversation.closeHistory at closes
    split at closes
    · obtain ⟨broadcast,moved,rfl⟩ := Option.map_eq_some_iff.mp closes
      exact passes_put known rfl (task_quiet (fun _ same => by cases same) moved) (.inl rfl) rfl rfl
    · cases closes
  · unfold Conversation.closePublisher at closes
    split at closes
    · obtain ⟨publisher,_,rfl⟩ := Option.map_eq_some_iff.mp closes
      exact passes_put known rfl rfl (.inl rfl) rfl rfl
    · cases closes

theorem start_told (f : Feeds) : (f.start setup).broadcast.scene.emitted = f.broadcast.scene.emitted := by
  rcases @started_step _ _ (Live.step (f.setup setup)) f.broadcast .start with moved | same
  · exact task_quiet (fun _ same => by cases same) moved
  · rw [Feeds.start,same]

-- Feeds that are created or started have told nothing more.
theorem created_told (c : Conversation) (job : Worker.Job) (streamId : Uuid4) :
    (c.created job streamId).elim [] (·.broadcast.scene.emitted) = told c := by
  unfold Conversation.created told
  cases c.feeds with
  | some f => rfl
  | none => cases job.profile <;> rfl

theorem started_told (feeds : Option Feeds) :
    (feeds.map (·.start setup)).elim [] (·.broadcast.scene.emitted) = feeds.elim [] (·.broadcast.scene.emitted) := by
  cases feeds with
  | none => rfl
  | some f => exact start_told f

theorem advance_passes (next : Worker.step setup c.job event = some job) (streamId : Uuid4) :
    Passes setup c (.worker event streamId) (c.advance setup event job streamId) := by
  have same : (if starts setup c.job event then (c.created job streamId).map (·.start setup)
      else c.created job streamId).elim [] (·.broadcast.scene.emitted) = told c := by
    split
    · exact (started_told _).trans (created_told c job streamId)
    · exact created_told c job streamId
  unfold Conversation.advance
  dsimp only
  generalize (if starts setup c.job event then (c.created job streamId).map (·.start setup)
    else c.created job streamId) = feeds at same ⊢
  have nothing : c.calls = c.calls ++ said c (.worker event streamId) := (List.append_nil _).symm
  split
  · exact ⟨.inr (.inr ⟨event,streamId,rfl,next⟩),nothing,fun _ => same⟩
  · exact ⟨.inr (.inr ⟨event,streamId,rfl,next⟩),nothing,fun _ => same⟩

theorem step_passes (next : step setup c event = some c') : Passes setup c event c' := by
  cases event with
  | worker event streamId =>
    simp only [step] at next
    split at next
    · cases next
    · obtain ⟨job,moved,rfl⟩ := Option.map_eq_some_iff.mp next
      exact advance_passes moved streamId
  | caller text final drawn segment provider =>
    obtain ⟨f,known,same⟩ := Option.bind_eq_some_iff.mp next
    cases Option.some.inj same
    exact caller_passes c f text final drawn segment provider
  | item item drawn provider =>
    obtain ⟨f,known,same⟩ := Option.bind_eq_some_iff.mp next
    cases Option.some.inj same
    exact item_passes known item drawn provider
  | error recoverable =>
    obtain ⟨f,known,same⟩ := Option.bind_eq_some_iff.mp next
    cases Option.some.inj same
    exact passes_put known known rfl (.inl rfl) rfl rfl
  | edited | request =>
    obtain ⟨f,known,same⟩ := Option.bind_eq_some_iff.mp next
    cases Option.some.inj same
    exact passes_tell known rfl rfl
  | elapsed seconds =>
    obtain ⟨f,known,told⟩ := Option.bind_eq_some_iff.mp next
    simp only [Conversation.converse] at told
    split at told
    · cases told
      exact passes_tell known rfl rfl
    · cases told
  | publisher turn provider =>
    obtain ⟨f,known,moved⟩ := Option.bind_eq_some_iff.mp next
    exact publish_passes known moved
  | broadcast turn =>
    obtain ⟨f,known,moved⟩ := Option.bind_eq_some_iff.mp next
    exact broadcast_passes known moved
  | closeHistory =>
    obtain ⟨f,known,moved⟩ := Option.bind_eq_some_iff.mp next
    exact close_passes known (.inl ⟨moved,rfl⟩)
  | closePublisher =>
    obtain ⟨f,known,moved⟩ := Option.bind_eq_some_iff.mp next
    exact close_passes known (.inr ⟨moved,rfl⟩)

theorem passes_advances (wired : Wired setup room c) (passes : Passes setup c event c') :
    Worker.Advances setup c.job c'.job := by
  obtain ⟨_,path⟩ := wired.worker
  rcases passes.job with same | ⟨provider,same⟩ | ⟨given,_,_,next⟩
  · rw [same]
    exact .refl _
  · rw [same]
    exact Worker.abort_advances c.job provider
  · exact Worker.step_advances (Worker.run_held path).1.admitted next

-- The bootstrap service granted the profile of the job, for its dispatch and its leg, in
-- an answer that a step of the conversation took.
def Authorized (setup : Worker.Setup) (room : Worker.Room) (events : List Event) (c : Conversation) : Prop :=
  ∃ leg call, c.job.admission.leg = some leg ∧ c.job.profile = some call ∧ ∃ earlier event streamId later middle,
    events = earlier ++ .worker event streamId :: later ∧ Runs (step setup) Anything (.initial setup room) earlier middle ∧
      Worker.Grants setup middle.job event leg call

theorem passes_grants (wired : Wired setup room c) (passes : Passes setup c event c') (known : c'.job.admission.leg = some leg)
    (given : c'.job.profile = some call) : (c.job.admission.leg = some leg ∧ c.job.profile = some call) ∨
      ∃ taken streamId, event = .worker taken streamId ∧ Worker.Grants setup c.job taken leg call := by
  obtain ⟨_,path⟩ := wired.worker
  rcases passes.job with same | ⟨provider,same⟩ | ⟨taken,streamId,same,next⟩
  · exact .inl ⟨same ▸ known,same ▸ given⟩
  · have sheltered := (Worker.abort_sheltered c.job provider).1
    rw [same,sheltered.leg] at known
    rw [same,sheltered.profile] at given
    exact .inl ⟨known,given⟩
  · exact (Worker.step_grants (Worker.run_early path) next known given).imp id fun grants => ⟨taken,streamId,same,grants⟩

theorem profiled_authorized (path : Runs (step setup) Anything (.initial setup room) events c) (profiled : Worker.Profiled c.job) :
    Authorized setup room events c := by
  obtain ⟨leg,call,known,given⟩ := profiled
  have unheld : ¬ ((Conversation.initial setup room).job.admission.leg = some leg ∧
      (Conversation.initial setup room).job.profile = some call) := fun held => by cases held.2
  have wired : Wired setup room (.initial setup room) := run_wired .nil
  obtain ⟨earlier,event,later,middle,whole,front,taken,streamId,same,grants⟩ := path.origin wired
    (fun _ _ _ wired _ next => step_wired wired next) unheld
    (fun _ _ _ wired _ next held => passes_grants wired (step_passes next) held.1 held.2) ⟨known,given⟩
  exact ⟨leg,call,known,given,earlier,taken,streamId,later,middle,by rw [whole,same],front,grants⟩

theorem open_authorized (path : Runs (step setup) Anything (.initial setup room) events c) (open_ : c.job.available = true) :
    Authorized setup room events c ∧ Worker.Gate setup c.job ∧ .readyDelivered ∈ c.job.log := by
  obtain ⟨_,reached⟩ := (run_wired path).worker
  obtain ⟨sound,tied⟩ := Worker.run_held reached
  have ready := (Worker.available_exact.mp open_).1
  obtain ⟨profiled,gate⟩ := Worker.clear_gate sound.admitted sound.bound (Worker.available_clear tied open_) (.inr ready)
  exact ⟨profiled_authorized path profiled,gate,sound.admitted.delivered ready⟩

-- What an observer needs to be for its request to be answered.
structure Observes (setup : Worker.Setup) (c : Conversation) (identity : String) : Prop where
  open_ : c.job.available = true
  named : "admin-observer-".toList.isPrefixOf identity.toList = true
  present : ∃ p, c.job.room.get identity = some p ∧ p.get "aida.transcriptObserver" = some setup.roomName

def refused : History.Raised := .rpcError 2001 "Transcript access unavailable"

theorem answer_cases (setup : Worker.Setup) (c : Conversation) (f : Feeds) (identity payload : String) (token : Uuid4) :
    c.answer setup f identity payload token = .error refused ∨ Observes setup c identity := by
  unfold Conversation.answer History.Scene.ask History.TranscriptHistory.getTranscript
  dsimp only
  cases authorized : f.broadcast.scene.history.authorized (f.setup setup) (c.request identity payload token) with
  | false => exact .inl rfl
  | true =>
    right
    simp only [History.TranscriptHistory.authorized,Conversation.request,Bool.and_eq_true] at authorized
    obtain ⟨⟨_,open_⟩,observer⟩ := authorized
    cases present : c.job.room.get identity with
    | none => simp [present] at observer
    | some p =>
      simp only [present,Option.map_some,Bool.and_eq_true,beq_iff_eq] at observer
      exact ⟨open_,observer.1,p,present,observer.2⟩

-- Behind a closed gate nothing is said.
theorem shut_silent (shut : c.job.available = false) (event : Event) : said c event = [] := by
  cases event with
  | caller => rw [said,shut]; rfl
  | item => rw [said,if_neg (fun both => by cases shut.symm.trans both.1)]
  | worker | error | edited | request | elapsed | publisher | broadcast | closeHistory | closePublisher => rfl

-- What has ended stays so: nothing more is said, told or answered.
structure Ended (setup : Worker.Setup) (room : Worker.Room) (c : Conversation) : Prop where
  wired : Wired setup room c
  ended : Worker.Ended c.job

theorem Ended.closed (ended : Ended setup room c) : c.job.available = false := by
  obtain ⟨_,path⟩ := ended.wired.worker
  exact Worker.ended_closed (Worker.run_held path).2 ended.ended

theorem step_ended (ended : Ended setup room c) (next : step setup c event = some c') :
    Ended setup room c' ∧ c'.calls = c.calls ∧ told c' = told c := by
  have passes := step_passes next
  refine ⟨⟨step_wired ended.wired next,Worker.advances_ended ended.ended (passes_advances ended.wired passes)⟩,?_,
    passes.quiet ended.closed⟩
  rw [passes.calls,shut_silent ended.closed,List.append_nil]

theorem run_ended (ended : Ended setup room c) (path : Runs (step setup) Anything c later c') :
    Ended setup room c' ∧ c'.calls = c.calls ∧ told c' = told c := by
  have preserved : ∀ s e s', Ended setup room s → Anything s e → step setup s e = some s' → Ended setup room s' :=
    fun _ _ _ held _ next => (step_ended held next).1
  refine ⟨path.invariant preserved ended,?_⟩
  apply path.related ended preserved
  · exact fun _ => ⟨rfl,rfl⟩
  · exact fun _ _ _ first second => ⟨second.1.trans first.1,second.2.trans first.2⟩
  · exact fun _ _ _ held _ next => (step_ended held next).2

theorem run_advances {c c' : Conversation} (wired : Wired setup room c) (path : Runs (step setup) Anything c later c') :
    Worker.Advances setup c.job c'.job := by
  induction path with
  | nil => exact .refl _
  | step prior _ next ih =>
    have held := prior.invariant (fun _ _ _ held _ next => step_wired held next) wired
    exact ih.trans (passes_advances held (step_passes next))

-- What stands before a word of the conversation reaches anyone, and after its end.
structure Gated (setup : Worker.Setup) (room : Worker.Room) (events : List Event) (c : Conversation) : Prop where
  heard : ∀ event c', step setup c event = some c' → c'.calls ≠ c.calls ∨ told c' ≠ told c →
    Authorized setup room events c ∧ Worker.Gate setup c.job ∧ .readyDelivered ∈ c.job.log
  read : ∀ f identity payload token page, c.answer setup f identity payload token = .ok page →
    Observes setup c identity ∧ Authorized setup room events c ∧ Worker.Gate setup c.job ∧ .readyDelivered ∈ c.job.log
  final : ∀ later c', Runs (step setup) Anything c later c' → c.job.available = true → c'.job.available = false →
    ∀ last c'', Runs (step setup) Anything c' last c'' → c''.calls = c'.calls ∧ told c'' = told c' ∧
      ∀ f identity payload token, c''.answer setup f identity payload token = .error refused

theorem conversation_gated (path : Runs (step setup) Anything (.initial setup room) events c) : Gated setup room events c := by
  have wired := run_wired path
  refine ⟨?_,?_,?_⟩
  · intro event c' next changed
    have passes := step_passes next
    refine open_authorized path ?_
    by_contra closed
    have shut : c.job.available = false := by simpa using closed
    rcases changed with calls | rows
    · apply calls
      rw [passes.calls,shut_silent shut,List.append_nil]
    · exact rows (passes.quiet shut)
  · intro f identity payload token page answered
    rcases answer_cases setup c f identity payload token with failed | observes
    · cases answered.symm.trans failed
    · exact ⟨observes,open_authorized path observes.open_⟩
  · intro later c' onward open_ closed last c'' afterwards
    have advances := run_advances wired onward
    have still : Wired setup room c' := onward.invariant (fun _ _ _ held _ next => step_wired held next) wired
    obtain ⟨ended,calls,rows⟩ := run_ended ⟨still,Worker.advances_shuts open_ advances closed⟩ afterwards
    refine ⟨calls,rows,fun f identity payload token => ?_⟩
    rcases answer_cases setup c'' f identity payload token with failed | observes
    · exact failed
    · cases ended.closed.symm.trans observes.open_

theorem utterance_steps (setup : Worker.Setup) (known : c.feeds = some f) (text : String) : step setup c (sampleUtterance text) =
    some (c.onCaller setup f text true (sampleDrawn 1) (sampleUuid 2) Worker.calm) := by
  simp only [step,sampleUtterance,known,Option.bind_some,Conversation.converse]

theorem utterance_said (open_ : c.job.available = true) (text : String) :
    said c (sampleUtterance text) = [.caller text true (sampleDrawn 1)] := by
  simp only [sampleUtterance,said,open_,if_true]

theorem sample_gated : ∃ (room : Worker.Room) (events : List Event) (c c' : Conversation), c'.calls ≠ c.calls ∧
    Authorized Worker.sampleSetup room events c ∧ Worker.Gate Worker.sampleSetup c.job := by
  obtain ⟨events,c,f,path,known,open_,_⟩ := sample_talk
  have next := utterance_steps Worker.sampleSetup known "Hello"
  have differs : (c.onCaller Worker.sampleSetup f "Hello" true (sampleDrawn 1) (sampleUuid 2) Worker.calm).calls ≠ c.calls := by
    rw [(step_passes next).calls,utterance_said open_]
    simp
  obtain ⟨authorized,gate,_⟩ := (conversation_gated path).heard _ _ next (.inl differs)
  exact ⟨_,events,c,_,differs,authorized,gate⟩

end AidaAgent.Entrypoint
