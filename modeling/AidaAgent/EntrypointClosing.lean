import AidaAgent.EntrypointHandset
import AidaAgent.WorkerClosing
import AidaAgent.Library.Progress

namespace AidaAgent.Entrypoint
open JsonText Config Transcripts Control Transitions

-- What the parts keep of their closing.
structure Onward (f f' : Feeds) : Prop where
  closes : f'.closes = f.closes
  publisher : f.publisher.closed = true → f'.publisher.closed = true
  history : f.broadcast.closed = true → f'.broadcast.closed = true

theorem Onward.refl (f : Feeds) : Onward f f := ⟨rfl,id,id⟩

theorem Onward.trans (first : Onward f middle) (second : Onward middle f') : Onward f f' :=
  ⟨second.closes.trans first.closes,second.publisher ∘ first.publisher,second.history ∘ first.history⟩

theorem live_onward {b b' : Live.Broadcast} (moved : Live.step setup b event = some b') :
    b.closed = true → b'.closed = true := by
  intro closed
  cases Live.step_cases moved with
  | history tells => exact tells.closed.trans closed
  | start | cut | cancelled => exact closed
  | runs => exact (Live.run_takes b).closed.trans closed
  | takes => exact (Live.take_takes b).closed.trans closed
  | settle => exact (Live.run_takes _).closed.trans closed
  | close => rfl

-- The feeds of a conversation after a step, where it had some before.
def Carries (c c' : Conversation) : Prop := ∀ f, c.feeds = some f → ∃ f', c'.feeds = some f' ∧ Onward f f'

theorem Carries.same (same : c'.feeds = c.feeds) : Carries c c' := fun f known => ⟨f,same.trans known,.refl f⟩

theorem Carries.trans (first : Carries c middle) (second : Carries middle c') : Carries c c' := by
  intro f known
  obtain ⟨g,given,onward⟩ := first f known
  obtain ⟨f',after,further⟩ := second g given
  exact ⟨f',after,onward.trans further⟩

theorem carries_put {c c' : Conversation} (known : c.feeds = some f) (feeds : c'.feeds = some f') (onward : Onward f f') :
    Carries c c' := by
  intro g given
  cases Option.some.inj (known.symm.trans given)
  exact ⟨f',feeds,onward⟩

theorem tell_carries (known : c.feeds = some f) (event : History.Event) : Carries c (c.tell setup f event) := by
  have tells := tell_cases setup c f event
  generalize c.tell setup f event = after at tells
  cases tells with
  | refused => exact .same rfl
  | told moved | dropped moved => exact carries_put known rfl ⟨rfl,id,live_onward moved⟩

theorem settle_carries (known : c.feeds = some f) (same : g.closes = f.closes ∧ g.publisher = f.publisher ∧ g.broadcast = f.broadcast)
    (stays : f.publisher.closed = true → publisher.closed = true) (provider : Provider) :
    Carries c (c.settle g publisher provider).1 := by
  obtain ⟨closes,_,broadcast⟩ := same
  have settles := settle_cases c g publisher provider
  generalize c.settle g publisher provider = result at settles ⊢
  cases settles with
  | quiet | fails => exact carries_put known rfl ⟨closes,stays,fun closed => broadcast ▸ closed⟩

theorem enqueue_carries (known : c.feeds = some f) (call : Transcripts.Call) (provider : Provider) :
    Carries c (c.enqueue f call provider).1 := by
  have stays : f.publisher.closed = true → (f.publisher.enqueue (f.stream.call call).2).closed = true :=
    fun closed => enqueue_stays closed _
  exact settle_carries (c := {c with calls := c.calls ++ [call]}) (g := {f with stream := (f.stream.call call).1})
    known ⟨rfl,rfl,rfl⟩ stays provider

theorem caller_carries (known : c.feeds = some f) (segment : Uuid4) :
    Carries c (c.onCaller setup f text final drawn segment provider) := by
  obtain ⟨_,feeds,_⟩ := hear_frame c final
  have heard : Carries c (c.hear final) := .same feeds
  unfold Conversation.onCaller
  dsimp only
  split
  · have enqueued := heard.trans (enqueue_carries (feeds.trans known) (.caller text final drawn) provider)
    split
    · rename_i same
      rw [same] at enqueued
      exact enqueued
    · rename_i same
      rw [same] at enqueued
      split
      · exact enqueued
      · rename_i given
        exact enqueued.trans (tell_carries given _)
  · exact heard

theorem item_carries (known : c.feeds = some f) (item : History.ChatItem) :
    Carries c (c.onItem setup f item drawn provider) := by
  unfold Conversation.onItem
  dsimp only
  split
  · have told := @tell_carries _ _ setup known (.item item)
    split
    · unfold Conversation.onAssistant
      split
      · exact told
      · rename_i given
        have counted : Carries (c.tell setup f (.item item)) (((c.tell setup f (.item item)).count
            (c.tell setup f (.item item)).counts.answered).note (.assistantItem (c.tell setup f (.item item)).counts.answered)) :=
          .same rfl
        apply (told.trans counted).trans
        apply enqueue_carries
        exact given
    · exact told
  · exact tell_carries known _

theorem publish_carries (known : c.feeds = some f) (next : c.publish setup f turn provider = some c') : Carries c c' := by
  obtain ⟨publisher,moved,rfl⟩ := Option.map_eq_some_iff.mp next
  exact settle_carries known ⟨rfl,rfl,rfl⟩ (fun closed => (step_shut closed moved).closed) provider

theorem broadcast_carries (known : c.feeds = some f) (next : c.broadcast setup f turn = some c') : Carries c c' := by
  obtain ⟨broadcast,moved,rfl⟩ := Option.map_eq_some_iff.mp next
  dsimp only
  split
  · exact carries_put known rfl ⟨rfl,id,live_onward moved⟩
  · exact carries_put known rfl ⟨rfl,id,live_onward moved⟩

theorem start_onward (f : Feeds) : Onward f (f.start setup) := by
  refine ⟨rfl,fun closed => (start_open f.publisher).trans closed,fun closed => ?_⟩
  rcases @started_step _ _ (Live.step (f.setup setup)) f.broadcast .start with moved | same
  · exact live_onward moved closed
  · rw [Feeds.start,same]
    exact closed

theorem created_known {c : Conversation} (known : c.feeds = some f) (job : Worker.Job) (streamId : Uuid4) :
    c.created job streamId = some f := by
  rw [Conversation.created,known]

theorem advance_carries (c : Conversation) (event : Worker.Event) (job : Worker.Job) (streamId : Uuid4) :
    Carries c (c.advance setup event job streamId) := by
  intro f known
  have fed : ∃ f', (if starts setup c.job event then (c.created job streamId).map (·.start setup)
      else c.created job streamId) = some f' ∧ Onward f f' := by
    rw [created_known known job streamId]
    split
    · exact ⟨_,rfl,start_onward f⟩
    · exact ⟨f,rfl,.refl f⟩
  unfold Conversation.advance
  dsimp only
  generalize (if starts setup c.job event then (c.created job streamId).map (·.start setup)
    else c.created job streamId) = feeds at fed ⊢
  split
  · exact fed
  · exact fed

-- The two closes of cleanup() apart, no step touches what is closed.
def Event.closes : Event → Bool
  | .closeHistory | .closePublisher => true
  | _ => false

theorem step_carries (other : event.closes = false) (next : step setup c event = some c') : Carries c c' := by
  cases event with
  | worker event streamId =>
    simp only [step] at next
    split at next
    · cases next
    · obtain ⟨job,moved,rfl⟩ := Option.map_eq_some_iff.mp next
      exact advance_carries c event job streamId
  | caller text final drawn segment provider =>
    obtain ⟨f,known,same⟩ := Option.bind_eq_some_iff.mp next
    cases Option.some.inj same
    exact caller_carries known segment
  | item item drawn provider =>
    obtain ⟨f,known,same⟩ := Option.bind_eq_some_iff.mp next
    cases Option.some.inj same
    exact item_carries known item
  | error recoverable =>
    obtain ⟨f,known,same⟩ := Option.bind_eq_some_iff.mp next
    cases Option.some.inj same
    exact .same rfl
  | edited | request =>
    obtain ⟨f,known,same⟩ := Option.bind_eq_some_iff.mp next
    cases Option.some.inj same
    exact tell_carries known _
  | elapsed seconds =>
    obtain ⟨f,known,told⟩ := Option.bind_eq_some_iff.mp next
    simp only [Conversation.converse] at told
    split at told
    · cases told
      exact tell_carries known _
    · cases told
  | publisher turn provider =>
    obtain ⟨f,known,moved⟩ := Option.bind_eq_some_iff.mp next
    exact publish_carries known moved
  | broadcast turn =>
    obtain ⟨f,known,moved⟩ := Option.bind_eq_some_iff.mp next
    exact broadcast_carries known moved
  | closeHistory | closePublisher => cases other

-- The feeds after a step are those before it, or new ones that nothing has closed.
def New (c c' : Conversation) (f' : Feeds) : Prop := c.feeds = none ∧ c'.job.profile ≠ none ∧ f'.closes = 0

theorem advance_new (absent : c.feeds = none) (event : Worker.Event) (job : Worker.Job) (streamId : Uuid4)
    (known : (c.advance setup event job streamId).feeds = some f') : New c (c.advance setup event job streamId) f' := by
  have fed : ∀ f', (if starts setup c.job event then (c.created job streamId).map (·.start setup)
      else c.created job streamId) = some f' → job.profile ≠ none ∧ f'.closes = 0 := by
    intro f' given
    unfold Conversation.created at given
    rw [absent] at given
    cases profile : job.profile with
    | none =>
      rw [profile] at given
      split at given
      · cases given
      · cases given
    | some call =>
      rw [profile] at given
      refine ⟨Option.some_ne_none call,?_⟩
      split at given
      · cases given
        rfl
      · cases given
        rfl
  unfold New
  unfold Conversation.advance at known ⊢
  dsimp only at known ⊢
  generalize (if starts setup c.job event then (c.created job streamId).map (·.start setup)
    else c.created job streamId) = feeds at fed known ⊢
  split at known
  · rw [if_pos (by assumption)]
    exact ⟨absent,fed f' known⟩
  · rw [if_neg (by assumption)]
    exact ⟨absent,fed f' known⟩

theorem step_new (absent : c.feeds = none) (next : step setup c event = some c') (known : c'.feeds = some f') : New c c' f' := by
  have nothing : ∀ {go : Feeds → Option Conversation}, c.feeds.bind go = some c' → New c c' f' := by
    intro go moved
    rw [absent] at moved
    cases moved
  cases event with
  | worker event streamId =>
    simp only [step] at next
    split at next
    · cases next
    · obtain ⟨job,moved,rfl⟩ := Option.map_eq_some_iff.mp next
      exact advance_new absent event job streamId known
  | caller | item | error | edited | request | elapsed | publisher | broadcast | closeHistory | closePublisher => exact nothing next

-- How far cleanup() has come, and what it has closed on the way.
def Going (c : Conversation) : Prop :=
  match c.job.cleanup with
  | .idle => False
  | .gathering => (c.job.startup.done = true ∨ c.job.cancelling = true) ∧ ∀ f, c.feeds = some f → f.closes = 0
  | .closing => c.job.startup.done = true ∧ ∀ f, c.feeds = some f → f.closes ≤ 2
  | .leaving | .finished => c.job.startup.done = true ∧ ∀ f, c.feeds = some f → f.closes = 2
  | .failed => ∀ f, c.feeds = some f → f.closes = 0

structure Closed (f : Feeds) : Prop where
  history : 1 ≤ f.closes → f.broadcast.closed = true
  publisher : 2 ≤ f.closes → f.publisher.closed = true

structure Winding (setup : Worker.Setup) (room : Worker.Room) (c : Conversation) : Prop where
  wired : Wired setup room c
  idle : c.job.cleaned = false → ∀ f, c.feeds = some f → f.closes = 0
  going : c.job.cleaned = true → Going c
  parts : ∀ f, c.feeds = some f → Closed f

theorem Onward.closed (closed : Closed f) (onward : Onward f f') : Closed f' :=
  ⟨fun one => onward.history (closed.history (onward.closes ▸ one)),
    fun two => onward.publisher (closed.publisher (onward.closes ▸ two))⟩

-- The feeds are where they were, as far as closing goes.
theorem going_same (going : Going c) (cleanup : c'.job.cleanup = c.job.cleanup)
    (done : c.job.startup.done = true → c'.job.startup.done = true)
    (cancelling : c.job.cancelling = true → c'.job.cancelling = true)
    (feeds : ∀ f', c'.feeds = some f' → ∃ f, c.feeds = some f ∧ f'.closes = f.closes) : Going c' := by
  unfold Going at going ⊢
  rw [cleanup]
  cases stage : c.job.cleanup with
  | idle =>
    rw [stage] at going
    exact going
  | gathering =>
    rw [stage] at going
    refine ⟨going.1.imp done cancelling,fun f' known => ?_⟩
    obtain ⟨f,given,same⟩ := feeds f' known
    exact same.trans (going.2 f given)
  | closing =>
    rw [stage] at going
    refine ⟨done going.1,fun f' known => ?_⟩
    obtain ⟨f,given,same⟩ := feeds f' known
    exact same ▸ going.2 f given
  | leaving | finished =>
    rw [stage] at going
    refine ⟨done going.1,fun f' known => ?_⟩
    obtain ⟨f,given,same⟩ := feeds f' known
    exact same.trans (going.2 f given)
  | failed =>
    rw [stage] at going
    intro f' known
    obtain ⟨f,given,same⟩ := feeds f' known
    exact same.trans (going f given)

-- The feeds of a cleaned conversation are none that a step creates.
theorem cleaned_feeds (wired : Wired setup room c) (other : event.closes = false) (next : step setup c event = some c')
    (profile : c'.job.profile = c.job.profile) :
    ∀ f', c'.feeds = some f' → ∃ f, c.feeds = some f ∧ f'.closes = f.closes := by
  intro f' known
  cases before : c.feeds with
  | none =>
    obtain ⟨_,some_,_⟩ := step_new before next known
    exact absurd (profile.trans (wired.early before).1) some_
  | some f =>
    obtain ⟨g,after,onward⟩ := step_carries other next f before
    cases Option.some.inj (known.symm.trans after)
    exact ⟨f,rfl,onward.closes⟩

theorem wired_closed (wired : Wired setup room c) : c.job.admission.closed = c.job.cleaned := by
  obtain ⟨_,path⟩ := wired.worker
  exact (Worker.run_held path).1.admitted.closed

-- A step of cleanup() in the job: the one that goes on to the control waits for the
-- closes of the history and of the publisher.
theorem going_next (wired : Wired setup room c) (going : Going c) (next : step setup c (.worker .clean streamId) = some c') : Going c' := by
  have profile : ∀ job, c.job.cleanNext = some job → job.profile = c.job.profile := by
    intro job moved
    unfold Worker.Job.cleanNext at moved
    split at moved
    · split at moved
      · cases moved
        rfl
      · cases moved
    · cases moved
      rfl
    · cases moved
      rfl
    all_goals cases moved
  have stepped := next
  simp only [step] at stepped
  split at stepped
  · cases stepped
  · rename_i unrefused
    obtain ⟨job,moved,same⟩ := Option.map_eq_some_iff.mp stepped
    have after : c'.job = job := by
      rw [← same,Conversation.advance]
      split
      · rfl
      · rfl
    have feeds := cleaned_feeds wired rfl next (after ▸ profile job moved)
    simp only [Worker.step,Worker.Job.cleanNext] at moved
    unfold Going at going ⊢
    rw [after]
    split at moved
    · rename_i stage
      rw [stage] at going
      split at moved
      · rename_i done
        cases moved
        refine ⟨done,fun f' known => ?_⟩
        obtain ⟨f,given,closes⟩ := feeds f' known
        rw [closes,going.2 f given]
        exact Nat.zero_le 2
      · cases moved
    · rename_i stage
      rw [stage] at going
      cases moved
      refine ⟨going.1,fun f' known => ?_⟩
      obtain ⟨f,given,closes⟩ := feeds f' known
      have small := going.2 f given
      have all : ¬ f.closes < 2 := by
        intro less
        have some_ : decide (f.closes < 2) = true := decide_eq_true less
        exact unrefused (by simp only [Conversation.refuses,stage,given,decide_true,Bool.true_and,Option.any_some,some_])
      omega
    · rename_i stage
      rw [stage] at going
      cases moved
      refine ⟨going.1,fun f' known => ?_⟩
      obtain ⟨f,given,closes⟩ := feeds f' known
      exact closes.trans (going.2 f given)
    all_goals cases moved

theorem going_begun (begun : Worker.Begun c'.job) (fresh : ∀ f', c'.feeds = some f' → f'.closes = 0) : Going c' := by
  unfold Going
  cases begun with
  | failed stage =>
    rw [stage]
    exact fresh
  | gathering stage cancelling =>
    rw [stage]
    exact ⟨.inr cancelling,fresh⟩
  | closing stage done =>
    rw [stage]
    exact ⟨done,fun f' known => (fresh f' known) ▸ Nat.zero_le 2⟩

-- What a step that is no close does to the feeds, where nothing is closed yet.
theorem fresh_feeds (fresh : ∀ f, c.feeds = some f → f.closes = 0) (other : event.closes = false)
    (next : step setup c event = some c') : ∀ f', c'.feeds = some f' → f'.closes = 0 := by
  intro f' known
  cases before : c.feeds with
  | none => exact (step_new before next known).2.2
  | some f =>
    obtain ⟨g,after,onward⟩ := step_carries other next f before
    cases Option.some.inj (known.symm.trans after)
    exact onward.closes.trans (fresh f before)

theorem closed_feeds (parts : ∀ f, c.feeds = some f → Closed f) (other : event.closes = false)
    (next : step setup c event = some c') : ∀ f', c'.feeds = some f' → Closed f' := by
  intro f' known
  cases before : c.feeds with
  | none =>
    have zero := (step_new before next known).2.2
    exact ⟨fun one => (by omega),fun two => (by omega)⟩
  | some f =>
    obtain ⟨g,after,onward⟩ := step_carries other next f before
    cases Option.some.inj (known.symm.trans after)
    exact onward.closed (parts f before)

-- The handlers of the conversation leave the job as it is, or abort it.
def Lets (c c' : Conversation) : Prop := c'.job = c.job ∨ ∃ provider, c'.job = (c.job.abort provider).1

theorem caller_lets (c : Conversation) (f : Feeds) (segment : Uuid4) :
    Lets c (c.onCaller setup f text final drawn segment provider) := by
  obtain ⟨job,_,_⟩ := hear_frame c final
  have enqueued : Lets c ((c.hear final).enqueue f (.caller text final drawn) provider).1 := by
    unfold Lets
    rw [← job]
    exact (enqueue_frame (c.hear final) f (.caller text final drawn) provider).job
  unfold Conversation.onCaller
  dsimp only
  split
  · split
    · rename_i same
      rw [same] at enqueued
      exact enqueued
    · rename_i same
      rw [same] at enqueued
      split
      · exact enqueued
      · rename_i given
        unfold Lets
        rw [(tell_frame given _).job]
        exact enqueued
  · exact .inl job

theorem item_lets (known : c.feeds = some f) (item : History.ChatItem) :
    Lets c (c.onItem setup f item drawn provider) := by
  unfold Conversation.onItem
  dsimp only
  split
  · have told := (@tell_frame _ _ setup known (.item item)).job
    split
    · unfold Conversation.onAssistant
      split
      · exact .inl told
      · unfold Lets
        rw [← told]
        exact (enqueue_frame _ _ _ provider).job
    · exact .inl told
  · exact .inl (tell_frame known _).job

theorem publish_lets (next : c.publish setup f turn provider = some c') : Lets c c' := by
  obtain ⟨publisher,_,rfl⟩ := Option.map_eq_some_iff.mp next
  have settles := settle_cases c f publisher provider
  generalize c.settle f publisher provider = result at settles ⊢
  cases settles with
  | quiet => exact .inl rfl
  | fails => exact .inr ⟨provider,rfl⟩

theorem step_lets (apart : ∀ given streamId, event ≠ .worker given streamId) (next : step setup c event = some c') : Lets c c' := by
  cases event with
  | worker given streamId => exact absurd rfl (apart given streamId)
  | caller text final drawn segment provider =>
    obtain ⟨f,known,same⟩ := Option.bind_eq_some_iff.mp next
    cases Option.some.inj same
    exact caller_lets c f segment
  | item item drawn provider =>
    obtain ⟨f,known,same⟩ := Option.bind_eq_some_iff.mp next
    cases Option.some.inj same
    exact item_lets known item
  | error recoverable =>
    obtain ⟨f,known,same⟩ := Option.bind_eq_some_iff.mp next
    cases Option.some.inj same
    exact .inl rfl
  | edited | request =>
    obtain ⟨f,known,same⟩ := Option.bind_eq_some_iff.mp next
    cases Option.some.inj same
    exact .inl (tell_frame known _).job
  | elapsed seconds =>
    obtain ⟨f,known,told⟩ := Option.bind_eq_some_iff.mp next
    simp only [Conversation.converse] at told
    split at told
    · cases told
      exact .inl (tell_frame known _).job
    · cases told
  | publisher turn provider =>
    obtain ⟨f,known,moved⟩ := Option.bind_eq_some_iff.mp next
    exact publish_lets moved
  | broadcast turn =>
    obtain ⟨f,known,moved⟩ := Option.bind_eq_some_iff.mp next
    obtain ⟨broadcast,_,rfl⟩ := Option.map_eq_some_iff.mp moved
    dsimp only
    split
    · exact .inl rfl
    · exact .inl rfl
  | closeHistory | closePublisher =>
    obtain ⟨f,known,moved⟩ := Option.bind_eq_some_iff.mp next
    simp only [Conversation.converse,Conversation.closeHistory,Conversation.closePublisher] at moved
    split at moved
    · obtain ⟨_,_,rfl⟩ := Option.map_eq_some_iff.mp moved
      exact .inl rfl
    · cases moved

-- The closes of cleanup(), each where it stands.
theorem closing_stage {c : Conversation} (closing : c.closing f n = true) : c.job.cleaned = true ∧ c.job.cleanup = .closing ∧ f.closes = n := by
  simp only [Conversation.closing,Bool.and_eq_true,decide_eq_true_eq] at closing
  exact ⟨closing.1.1,closing.1.2,closing.2⟩

theorem winding_close (winding : Winding setup room c) (closes : event.closes = true) (next : step setup c event = some c') :
    Winding setup room c' := by
  have wired := step_wired winding.wired next
  have closed : ∀ {f f' n}, c.feeds = some f → c.closing f n = true → n < 2 → c'.job = c.job → c'.feeds = some f' →
      f'.closes = n + 1 → Closed f' → Winding setup room c' := by
    intro f f' n known closing small job feeds more parts
    obtain ⟨cleaned,stage,_⟩ := closing_stage closing
    have going := winding.going cleaned
    unfold Going at going
    rw [stage] at going
    refine ⟨wired,fun uncleaned => ?_,fun _ => ?_,fun g given => ?_⟩
    · rw [job,cleaned] at uncleaned
      cases uncleaned
    · unfold Going
      rw [job,stage]
      refine ⟨going.1,fun g given => ?_⟩
      cases Option.some.inj (feeds.symm.trans given)
      omega
    · cases Option.some.inj (feeds.symm.trans given)
      exact parts
  cases event with
  | closeHistory =>
    obtain ⟨f,known,moved⟩ := Option.bind_eq_some_iff.mp next
    simp only [Conversation.converse,Conversation.closeHistory] at moved
    split at moved
    · rename_i closing
      obtain ⟨broadcast,shut,rfl⟩ := Option.map_eq_some_iff.mp moved
      have history : broadcast.closed = true := by
        cases Live.step_cases shut with
        | close => rfl
      exact closed known closing (by decide) rfl rfl rfl ⟨fun _ => history,fun two => absurd two (show ¬ 2 ≤ 1 by decide)⟩
    · cases moved
  | closePublisher =>
    obtain ⟨f,known,moved⟩ := Option.bind_eq_some_iff.mp next
    simp only [Conversation.converse,Conversation.closePublisher] at moved
    split at moved
    · rename_i closing
      obtain ⟨publisher,shut,rfl⟩ := Option.map_eq_some_iff.mp moved
      have publishes : publisher.closed = true := by
        cases step_moves shut with
        | close => rfl
      have one := (closing_stage closing).2.2
      have history := (winding.parts f known).history (one ▸ Nat.le_refl 1)
      exact closed known closing (by decide) rfl rfl rfl ⟨fun _ => history,fun _ => publishes⟩
    · cases moved
  | worker | caller | item | error | edited | request | elapsed | publisher | broadcast => cases closes

-- A step of a conversation that is being cleaned up, other than those of cleanup().
theorem going_rests (winding : Winding setup room c) (cleaned : c.job.cleaned = true) (other : event.closes = false)
    (next : step setup c event = some c') (rests : Worker.Rests c.job c'.job) : Going c' := by
  apply going_same (winding.going cleaned) rests.cleanup
  · intro done
    rw [rests.done done]
    exact done
  · exact rests.cancelling
  · exact cleaned_feeds winding.wired other next rests.profile

theorem lets_rests (cleaned : c.job.cleaned = true) (lets : Lets c c') : Worker.Rests c.job c'.job := by
  rcases lets with same | ⟨provider,same⟩
  · exact .same cleaned same
  · exact .same cleaned (same.trans (Worker.abort_again cleaned provider))

theorem lets_cleaned (lets : Lets c c') : c'.job.cleaned = c.job.cleaned := by
  rcases lets with same | ⟨provider,same⟩
  · rw [same]
  · rw [same]
    exact (Worker.abort_sheltered c.job provider).1.cleaned

theorem worker_moves (next : step setup c (.worker given streamId) = some c') : Worker.step setup c.job given = some c'.job := by
  simp only [step] at next
  split at next
  · cases next
  · obtain ⟨job,moved,rfl⟩ := Option.map_eq_some_iff.mp next
    rw [moved,Conversation.advance]
    split
    · rfl
    · rfl

theorem winding_step (winding : Winding setup room c) (next : step setup c event = some c') : Winding setup room c' := by
  cases closes : event.closes with
  | true => exact winding_close winding closes next
  | false =>
    have wired := step_wired winding.wired next
    have advances := passes_advances winding.wired (step_passes next)
    refine ⟨wired,fun uncleaned => ?_,fun cleaned => ?_,closed_feeds winding.parts closes next⟩
    · apply fresh_feeds _ closes next
      apply winding.idle
      cases before : c.job.cleaned with
      | false => rfl
      | true => exact (advances.cleaned before).symm.trans uncleaned
    · cases before : c.job.cleaned with
      | false =>
        have fresh := fresh_feeds (winding.idle before) closes next
        cases event with
        | worker given streamId =>
          obtain ⟨middle,provider,open_,same⟩ := Worker.step_begins (worker_moves next) before cleaned
          apply going_begun _ fresh
          rw [same]
          exact Worker.clean_begun open_ provider
        | caller | item | error | edited | request | elapsed | publisher | broadcast | closeHistory | closePublisher =>
          have lets := step_lets (fun _ _ apart => by cases apart) next
          cases cleaned.symm.trans ((lets_cleaned lets).trans before)
      | true =>
        cases event with
        | worker given streamId =>
          by_cases own : given = .clean
          · subst own
            exact going_next winding.wired (winding.going before) next
          · have closed := (wired_closed winding.wired).trans before
            exact going_rests winding before closes next (Worker.step_rests before closed own (worker_moves next))
        | caller | item | error | edited | request | elapsed | publisher | broadcast | closeHistory | closePublisher =>
          have lets := step_lets (fun _ _ apart => by cases apart) next
          exact going_rests winding before closes next (lets_rests before lets)

theorem run_winding (path : Runs (step setup) Anything (.initial setup room) events c) : Winding setup room c := by
  apply path.invariant (fun _ _ _ winding _ next => winding_step winding next)
  refine ⟨initial_wired,fun _ _ none => ?_,fun cleaned => ?_,fun _ none => ?_⟩
  · cases none
  · cases cleaned
  · cases none

-- The awaits that cleanup() still has before it, the end of the startup task among them.
def Conversation.remaining (c : Conversation) : Nat :=
  match c.job.cleanup with
  | .idle | .finished | .failed => 0
  | .gathering => if c.job.startup.done then 5 else 6
  | .closing => 2 + c.feeds.elim 0 (2 - ·.closes)
  | .leaving => 1

-- A cleanup that is over has closed everything, unless its first call raised.
structure Over (c : Conversation) : Prop where
  stage : c.job.cleanup = .finished ∨ c.job.cleanup = .failed
  closed : c.job.cleanup = .finished → c.job.startup.done = true ∧
    ∀ f, c.feeds = some f → f.publisher.closed = true ∧ f.broadcast.closed = true

theorem remaining_over (winding : Winding setup room c) (cleaned : c.job.cleaned = true) (nothing : c.remaining = 0) : Over c := by
  have going := winding.going cleaned
  unfold Going at going
  unfold Conversation.remaining at nothing
  split at nothing
  · rename_i stage
    rw [stage] at going
    cases going
  · rename_i stage
    rw [stage] at going
    refine ⟨.inl stage,fun _ => ⟨going.1,fun f known => ?_⟩⟩
    have parts := winding.parts f known
    have two := going.2 f known
    exact ⟨parts.publisher (by omega),parts.history (by omega)⟩
  · rename_i stage
    refine ⟨.inr stage,fun finished => ?_⟩
    cases stage.symm.trans finished
  · split at nothing
    · cases nothing
    · cases nothing
  · omega
  · cases nothing

theorem remaining_least (c : Conversation) : c.remaining ≤ 6 := by
  unfold Conversation.remaining
  split
  · exact Nat.zero_le 6
  · exact Nat.zero_le 6
  · exact Nat.zero_le 6
  · split
    · decide
    · decide
  · cases c.feeds with
    | none => decide
    | some f =>
      simp only [Option.elim_some]
      omega
  · decide

theorem rests_remaining (winding : Winding setup room c) (other : event.closes = false)
    (next : step setup c event = some c') (rests : Worker.Rests c.job c'.job) : c'.remaining ≤ c.remaining := by
  have feeds := cleaned_feeds winding.wired other next rests.profile
  unfold Conversation.remaining
  rw [rests.cleanup]
  split
  · exact Nat.le_refl 0
  · exact Nat.le_refl 0
  · exact Nat.le_refl 0
  · by_cases done : c.job.startup.done = true
    · rw [rests.done done]
    · rw [if_neg done]
      split
      · decide
      · decide
  · cases known : c'.feeds with
    | none => exact Nat.le_add_right 2 _
    | some f' =>
      obtain ⟨f,given,same⟩ := feeds f' known
      rw [given]
      simp only [Option.elim_some]
      omega
  · exact Nat.le_refl 1

-- The steps of cleanup() itself each leave less to do.
theorem close_remaining (closes : event.closes = true) (next : step setup c event = some c') : c'.remaining < c.remaining := by
  have lowered : ∀ {f f' n}, c.feeds = some f → c.closing f n = true → n < 2 → c'.job = c.job → c'.feeds = some f' →
      f'.closes = n + 1 → c'.remaining < c.remaining := by
    intro f f' n known closing small job feeds more
    obtain ⟨_,stage,closed⟩ := closing_stage closing
    unfold Conversation.remaining
    rw [job,stage,feeds,known]
    simp only [Option.elim_some]
    omega
  cases event with
  | closeHistory =>
    obtain ⟨f,known,moved⟩ := Option.bind_eq_some_iff.mp next
    simp only [Conversation.converse,Conversation.closeHistory] at moved
    split at moved
    · rename_i closing
      obtain ⟨broadcast,_,rfl⟩ := Option.map_eq_some_iff.mp moved
      exact lowered known closing (by decide) rfl rfl rfl
    · cases moved
  | closePublisher =>
    obtain ⟨f,known,moved⟩ := Option.bind_eq_some_iff.mp next
    simp only [Conversation.converse,Conversation.closePublisher] at moved
    split at moved
    · rename_i closing
      obtain ⟨publisher,_,rfl⟩ := Option.map_eq_some_iff.mp moved
      exact lowered known closing (by decide) rfl rfl rfl
    · cases moved
  | worker | caller | item | error | edited | request | elapsed | publisher | broadcast => cases closes

theorem next_remaining (next : step setup c (.worker .clean streamId) = some c') :
    c'.remaining < c.remaining := by
  have moved := worker_moves next
  simp only [Worker.step,Worker.Job.cleanNext] at moved
  unfold Conversation.remaining
  split at moved
  · rename_i stage
    split at moved
    · rename_i done
      have after : c'.job.cleanup = .closing := by
        rw [← Option.some.inj moved]
      rw [stage,after,if_pos done]
      cases c'.feeds with
      | none => exact show 2 + 0 < 5 by decide
      | some f' =>
        simp only [Option.elim_some]
        omega
    · cases moved
  · rename_i stage
    have after : c'.job.cleanup = .leaving := by
      rw [← Option.some.inj moved]
    rw [stage,after]
    dsimp only
    omega
  · rename_i stage
    have after : c'.job.cleanup = .finished := by
      rw [← Option.some.inj moved]
    rw [stage,after]
    exact Nat.zero_lt_one
  all_goals cases moved

theorem step_remaining (winding : Winding setup room c) (cleaned : c.job.cleaned = true) (next : step setup c event = some c') :
    c'.remaining ≤ c.remaining := by
  cases closes : event.closes with
  | true => exact Nat.le_of_lt (close_remaining closes next)
  | false =>
    cases event with
    | worker given streamId =>
      by_cases own : given = .clean
      · subst own
        exact Nat.le_of_lt (next_remaining next)
      · have closed := (wired_closed winding.wired).trans cleaned
        exact rests_remaining winding closes next (Worker.step_rests cleaned closed own (worker_moves next))
    | caller | item | error | edited | request | elapsed | publisher | broadcast | closeHistory | closePublisher =>
      have lets := step_lets (fun _ _ apart => by cases apart) next
      exact rests_remaining winding closes next (lets_rests cleaned lets)

theorem throw_ends (running : j.startup.done = false) (cancelling : j.cancelling = true) :
    Worker.Job.throw j = some j.raises := by
  unfold Worker.Job.throw
  cases pending : j.startup with
  | created | waitingLeg | subscribing => exact if_pos cancelling
  | connecting | authorizing | starting | publishing => rfl
  | returned | raised =>
    rw [pending] at running
    cases running

theorem worker_steps (unrefused : c.refuses given = false) (moved : Worker.step setup c.job given = some job) (streamId : Uuid4) :
    step setup c (.worker given streamId) = some (c.advance setup given job streamId) := by
  simp only [step,unrefused,Bool.false_eq_true,if_false,moved,Option.map_some]

theorem history_closes (setup : Worker.Setup) (f : Feeds) : ∃ broadcast, Live.step (f.setup setup) f.broadcast .close = some broadcast := by
  simp only [Live.step]
  split
  · exact ⟨_,rfl⟩
  · exact ⟨_,rfl⟩
  · exact ⟨_,rfl⟩

theorem publisher_closes (setup : Worker.Setup) (f : Feeds) :
    ∃ publisher, f.publisher.step (payload setup) .close = some publisher := by
  simp only [Publisher.step]
  split
  · exact ⟨_,rfl⟩
  · exact ⟨_,rfl⟩
  · exact ⟨_,rfl⟩

-- What cleanup() does next is always possible: the task it waits for can end, the
-- closes return, and so does each call after them.
theorem cleanup_goes (winding : Winding setup room c) (cleaned : c.job.cleaned = true) (left : c.remaining ≠ 0) :
    ∃ event c', step setup c event = some c' ∧ c'.remaining < c.remaining := by
  have going := winding.going cleaned
  unfold Going at going
  have cleans : ∀ job, c.refuses .clean = false → c.job.cleanNext = some job →
      ∃ event c', step setup c event = some c' ∧ c'.remaining < c.remaining := by
    intro job unrefused moved
    have next : step setup c (.worker .clean (sampleUuid 0)) = some _ := worker_steps unrefused moved (sampleUuid 0)
    exact ⟨_,_,next,next_remaining next⟩
  cases stage : c.job.cleanup with
  | idle =>
    rw [stage] at going
    cases going
  | finished | failed => exact absurd (by rw [Conversation.remaining,stage]) left
  | gathering =>
    rw [stage] at going
    have unrefused : c.refuses .clean = false := by simp [Conversation.refuses,stage]
    by_cases done : c.job.startup.done = true
    · exact cleans _ unrefused (by rw [Worker.Job.cleanNext,stage]; exact if_pos done)
    · have cancelling : c.job.cancelling = true := going.1.resolve_left done
      have thrown : Worker.step setup c.job .throw = some c.job.raises := throw_ends (by simpa using done) cancelling
      have next : step setup c (.worker .throw (sampleUuid 0)) = some _ := worker_steps rfl thrown (sampleUuid 0)
      refine ⟨_,_,next,?_⟩
      have after := thrown.symm.trans (worker_moves next)
      have raised : c.job.raises.cleanup = .gathering := stage
      unfold Conversation.remaining
      rw [← Option.some.inj after,raised,stage,if_neg done]
      exact Nat.lt_succ_self 5
  | closing =>
    rw [stage] at going
    cases known : c.feeds with
    | none =>
      have unrefused : c.refuses .clean = false := by simp [Conversation.refuses,stage,known]
      exact cleans _ unrefused (by rw [Worker.Job.cleanNext,stage])
    | some f =>
      have small := going.2 f known
      rcases Nat.lt_or_ge f.closes 2 with less | all
      · have closing : ∀ n, f.closes = n → c.closing f n = true := by
          intro n same
          simp only [Conversation.closing,cleaned,stage,same,decide_true,Bool.and_true]
        rcases Nat.lt_or_ge f.closes 1 with none_ | one
        · obtain ⟨broadcast,closes⟩ := history_closes setup f
          have next : step setup c .closeHistory = some (c.put {f with broadcast, closes := 1}) := by
            simp only [step,known,Option.bind_some,Conversation.converse,Conversation.closeHistory,
              if_pos (closing 0 (by omega)),closes,Option.map_some]
          exact ⟨_,_,next,close_remaining rfl next⟩
        · obtain ⟨publisher,closes⟩ := publisher_closes setup f
          have next : step setup c .closePublisher = some (c.put {f with publisher, closes := 2}) := by
            simp only [step,known,Option.bind_some,Conversation.converse,Conversation.closePublisher,
              if_pos (closing 1 (by omega)),closes,Option.map_some]
          exact ⟨_,_,next,close_remaining rfl next⟩
      · have unrefused : c.refuses .clean = false := by
          simp only [Conversation.refuses,stage,known,decide_true,Bool.true_and,Option.any_some,decide_eq_false_iff_not]
          omega
        exact cleans _ unrefused (by rw [Worker.Job.cleanNext,stage])
  | leaving =>
    have unrefused : c.refuses .clean = false := by simp [Conversation.refuses,stage]
    exact cleans _ unrefused (by rw [Worker.Job.cleanNext,stage])

-- A conversation that is being cleaned up.
def Ending (setup : Worker.Setup) (room : Worker.Room) (c : Conversation) : Prop :=
  Winding setup room c ∧ c.job.cleaned = true

theorem ending_progresses : Progresses (step setup) (Ending setup room) Conversation.remaining := by
  refine ⟨fun c event c' ending next => ?_,fun c ending left => cleanup_goes ending.1 ending.2 left⟩
  obtain ⟨winding,cleaned⟩ := ending
  have advances := passes_advances winding.wired (step_passes next)
  exact ⟨⟨winding_step winding next,advances.cleaned cleaned⟩,step_remaining winding cleaned next⟩

-- Once cleanup() has begun nothing puts its end off, whatever else goes on, and it can
-- always come to its end within six steps.
theorem conversation_ends (path : Runs (step setup) Anything (.initial setup room) events c) (cleaned : c.job.cleaned = true) :
    (∀ later c', Runs (step setup) Anything c later c' → c'.remaining ≤ c.remaining ∧ (c'.remaining = 0 → Over c')) ∧
      ∃ closing c', Runs (step setup) Anything c closing c' ∧ Over c' ∧ closing.length ≤ 6 := by
  have ending : Ending setup room c := ⟨run_winding path,cleaned⟩
  refine ⟨fun later c' onward => ?_,?_⟩
  · obtain ⟨still,falls⟩ := ending_progresses.falls ending onward
    exact ⟨falls,remaining_over still.1 still.2⟩
  · obtain ⟨closing,c',onward,still,nothing,short⟩ := ending_progresses.finishes ending
    exact ⟨closing,c',onward,remaining_over still.1 still.2 nothing,Nat.le_trans short (remaining_least c)⟩

-- A call that the SDK shuts down.
theorem sample_ending : ∃ c : Conversation, c.job.cleaned = true ∧ c.job.cleanup ≠ .failed ∧
    ∃ closing c', Runs (step Worker.sampleSetup) Anything c closing c' ∧ Over c' ∧ closing.length ≤ 6 := by
  obtain ⟨events,c,f,path,known,open_,_⟩ := sample_talk
  have uncleaned : c.job.cleaned = false := by
    obtain ⟨_,ran⟩ := (run_wired path).worker
    exact (Worker.available_clear (Worker.run_held ran).2 open_).2.1
  have next : step Worker.sampleSetup c (.worker (.jobShutdown Worker.calm) (sampleUuid 0)) = some _ :=
    worker_steps rfl rfl (sampleUuid 0)
  have longer := path.step trivial next
  have moved := worker_moves next
  generalize c.advance Worker.sampleSetup (.jobShutdown Worker.calm) (c.job.clean Worker.calm) (sampleUuid 0) = c' at moved longer
  have after : c'.job = c.job.clean Worker.calm := (Option.some.inj moved).symm
  have cleaned : c'.job.cleaned = true := by
    rw [after]
    exact Worker.clean_cleaned c.job Worker.calm
  refine ⟨c',cleaned,?_,(conversation_ends longer cleaned).2⟩
  rw [after]
  exact Worker.calm_cleans uncleaned

end AidaAgent.Entrypoint
