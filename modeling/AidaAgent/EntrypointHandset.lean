import AidaAgent.EntrypointGate

namespace AidaAgent.Entrypoint
open JsonText Config Transcripts Control Transitions

theorem call_scoped {s : TranscriptStream} (shown : (s.call call).2 = some e) :
    e.callId = s.callId ∧ e.streamId = s.streamId := by
  cases call with
  | caller text final drawn =>
    have out := (caller_called s text final drawn).shown
    rw [show (s.caller text final drawn).2 = some e from shown] at out
    split at out
    · cases (Prod.mk.inj out).2
    · cases (Prod.mk.inj out).2
      exact ⟨rfl,rfl⟩
  | assistant text itemId drawn =>
    obtain ⟨_,_,rfl⟩ := event_exact.mp (Prod.ext rfl shown)
    exact ⟨rfl,rfl⟩

-- The events of a stream carry its call and its own identifier.
theorem produced_scoped (s : TranscriptStream) (calls : List Transcripts.Call) :
    ∀ e ∈ (s.produced calls).filterMap id, e.callId = s.callId ∧ e.streamId = s.streamId := by
  induction calls generalizing s with
  | nil => exact fun _ none => by cases none
  | cons call rest ih =>
    obtain ⟨callId,streamId⟩ := call_frame s call
    intro e member
    rw [TranscriptStream.produced] at member
    obtain ⟨out,among,same⟩ := List.mem_filterMap.mp member
    rcases List.mem_cons.mp among with rfl | later
    · exact call_scoped same
    · have mine := ih (s.call call).1 e (List.mem_filterMap.mpr ⟨out,later,same⟩)
      rwa [callId,streamId] at mine

-- What the stream of the call has made of all that passed the gate.
def heard (c : Conversation) (f : Feeds) : List TranscriptEvent := (f.origin.produced c.calls).filterMap id

-- What the handset has of the conversation. Unless the call has been ended, there is
-- nothing that is not sent or waiting to be.
structure Handset (setup : Worker.Setup) (c : Conversation) (f : Feeds) : Prop where
  room : setup.roomName = roomOf f.stream.callId
  own : ∀ e ∈ f.publisher.published, e.callId = f.stream.callId ∧ e.streamId = f.stream.streamId
  front : f.publisher.published <+: heard c f
  numbered : f.publisher.published.map (·.sequence) = List.range' 1 f.publisher.published.length
  whole : c.job.aborted = false → c.job.cleaned = false → f.publisher.published ++ f.publisher.queue = heard c f

theorem fed_handset (fed : Fed setup c.job c.calls f) : Handset setup c f := by
  obtain ⟨events,path,given⟩ := fed.publisher
  have flow := run_delivers path
  have offers : offered events = heard c f := congrArg (List.filterMap id) given
  rw [offers] at flow
  have order : enqueued events <+: f.origin.produced c.calls := by
    rw [given]
  refine ⟨fed.room,fun e member => ?_,flow.sent,run_numbered path order,fun unaborted uncleaned => ?_⟩
  · exact produced_scoped f.origin c.calls e (flow.sent.subset member)
  · refine flow.live ?_
    by_contra closed
    rcases fed.closed (by simpa using closed) with aborted | cleaned
    · cases unaborted.symm.trans aborted
    · cases uncleaned.symm.trans cleaned

theorem run_calls (path : Runs (step setup) Anything (.initial setup room) events c) :
    c.calls = emitted (step setup) said (.initial setup room) events := by
  induction path with
  | nil => rfl
  | step prior _ next ih => rw [emitted_snoc prior,← ih,(step_passes next).calls]

-- The handset of a conversation has what was said while its gate was open, in order and
-- without a gap, or else the call is over.
theorem handset_complete (path : Runs (step setup) Anything (.initial setup room) events c) :
    c.calls = emitted (step setup) said (.initial setup room) events ∧ ∀ f, c.feeds = some f → Handset setup c f :=
  ⟨run_calls path,fun f known => fed_handset ((run_wired path).fed f known)⟩

-- Of two things said the handset has been sent the first, and the second waits.
theorem sample_handset : ∃ (c : Conversation) (f : Feeds), c.job.available = true ∧ c.calls.length = 2 ∧
    f.publisher.published.length = 1 ∧ f.publisher.queue.length = 1 ∧ Handset Worker.sampleSetup c f := by
  obtain ⟨_,c,f,path,known,open_,calls,sent,waits,_⟩ := sample_conversation
  exact ⟨c,f,open_,by rw [calls]; rfl,sent,waits,(handset_complete path).2 f known⟩

end AidaAgent.Entrypoint
