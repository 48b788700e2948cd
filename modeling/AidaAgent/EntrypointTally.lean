import AidaAgent.EntrypointHandset

namespace AidaAgent.Entrypoint
open JsonText Config Transcripts Control Transitions

-- The counts that a record was written with.
def Record.counts : Record → Option Counts
  | .callerFinal counts | .assistantItem counts | .closing counts => some counts
  | .sessionError _ | .deliveryUnavailable | .queueFull | .liveUnavailable => none

def Record.final : Record → Option Counts
  | .callerFinal counts => some counts
  | _ => none

def Record.answer : Record → Option Counts
  | .assistantItem counts => some counts
  | _ => none

def Record.ending : Record → Option Counts
  | .closing counts => some counts
  | _ => none

structure Counts.UpTo (counts later : Counts) : Prop where
  events : counts.sttEvents ≤ later.sttEvents
  finals : counts.sttFinalEvents ≤ later.sttFinalEvents
  items : counts.assistantItems ≤ later.assistantItems

theorem Counts.UpTo.refl (counts : Counts) : counts.UpTo counts := ⟨Nat.le_refl _,Nat.le_refl _,Nat.le_refl _⟩

theorem Counts.UpTo.trans {counts middle later : Counts} (first : counts.UpTo middle) (second : middle.UpTo later) :
    counts.UpTo later :=
  ⟨Nat.le_trans first.events second.events,Nat.le_trans first.finals second.finals,Nat.le_trans first.items second.items⟩

theorem heard_upTo (counts : Counts) (final : Bool) : counts.UpTo (counts.heard final) :=
  ⟨Nat.le_succ _,Nat.le_add_right _ _,Nat.le_refl _⟩

theorem answered_upTo (counts : Counts) : counts.UpTo counts.answered :=
  ⟨Nat.le_refl _,Nat.le_refl _,Nat.le_succ _⟩

-- What the log of a conversation and its counts are to each other: the records of the
-- caller's finals and of the assistant's items number them, and no count goes back.
structure Booked (counts : Counts) (log : List Record) : Prop where
  finals : (log.filterMap Record.final).map (·.sttFinalEvents) = List.range' 1 counts.sttFinalEvents
  answers : (log.filterMap Record.answer).map (·.assistantItems) = List.range' 1 counts.assistantItems
  rising : (log.filterMap Record.counts).Pairwise Counts.UpTo
  past : ∀ known ∈ log.filterMap Record.counts, known.UpTo counts

theorem plain_nothing {warnings : List Record} {read : Record → Option Counts} (reads : ∀ record, record.counts = none → read record = none)
    (plain : ∀ record ∈ warnings, record.counts = none) : warnings.filterMap read = [] := by
  apply List.filterMap_eq_nil_iff.mpr
  intro record member
  exact reads record (plain record member)

theorem plain_final (record : Record) (plain : record.counts = none) : record.final = none := by
  cases record <;> first | rfl | cases plain

theorem plain_answer (record : Record) (plain : record.counts = none) : record.answer = none := by
  cases record <;> first | rfl | cases plain

theorem plain_ending (record : Record) (plain : record.counts = none) : record.ending = none := by
  cases record <;> first | rfl | cases plain

theorem Booked.warned (booked : Booked counts log) (plain : ∀ record ∈ warnings, record.counts = none) :
    Booked counts (log ++ warnings) := by
  refine ⟨?_,?_,?_,?_⟩
  · rw [List.filterMap_append,plain_nothing plain_final plain,List.append_nil]
    exact booked.finals
  · rw [List.filterMap_append,plain_nothing plain_answer plain,List.append_nil]
    exact booked.answers
  · rw [List.filterMap_append,plain_nothing (fun _ none => none) plain,List.append_nil]
    exact booked.rising
  · rw [List.filterMap_append,plain_nothing (fun _ none => none) plain,List.append_nil]
    exact booked.past

-- A record with the counts as they have become.
theorem Booked.records (booked : Booked counts log) (later : counts.UpTo counts') (written : record.counts = some counts')
    (finals : record.final = some counts' ∧ counts'.sttFinalEvents = counts.sttFinalEvents + 1 ∨
      record.final = none ∧ counts'.sttFinalEvents = counts.sttFinalEvents)
    (answers : record.answer = some counts' ∧ counts'.assistantItems = counts.assistantItems + 1 ∨
      record.answer = none ∧ counts'.assistantItems = counts.assistantItems) : Booked counts' (log ++ [record]) := by
  refine ⟨?_,?_,?_,?_⟩
  · rcases finals with ⟨read,more⟩ | ⟨unread,same⟩
    · simp [read,more,booked.finals,List.range'_concat,Nat.add_comm]
    · simp [unread,same,booked.finals]
  · rcases answers with ⟨read,more⟩ | ⟨unread,same⟩
    · simp [read,more,booked.answers,List.range'_concat,Nat.add_comm]
    · simp [unread,same,booked.answers]
  · rw [List.filterMap_append,List.pairwise_append]
    refine ⟨booked.rising,by simp [written],fun known member last among => ?_⟩
    have same : last = counts' := by simpa [written] using among
    rw [same]
    exact (booked.past known member).trans later
  · intro known member
    rw [List.filterMap_append] at member
    rcases List.mem_append.mp member with old | new
    · exact (booked.past known old).trans later
    · have same : known = counts' := by simpa [written] using new
      rw [same]
      exact .refl counts'

theorem Booked.hear (booked : Booked counts log) : Booked (counts.heard false) log :=
  ⟨booked.finals,booked.answers,booked.rising,fun known member =>
    (booked.past known member).trans (heard_upTo counts false)⟩

theorem Booked.finish (booked : Booked counts log) :
    Booked (counts.heard true) (log ++ [.callerFinal (counts.heard true)]) :=
  booked.records (heard_upTo counts true) rfl (.inl ⟨rfl,rfl⟩) (.inr ⟨rfl,rfl⟩)

theorem Booked.answer (booked : Booked counts log) :
    Booked counts.answered (log ++ [.assistantItem counts.answered]) :=
  booked.records (answered_upTo counts) rfl (.inr ⟨rfl,rfl⟩) (.inl ⟨rfl,rfl⟩)

theorem Booked.close (booked : Booked counts log) : Booked counts (log ++ [.closing counts]) :=
  booked.records (.refl counts) rfl (.inr ⟨rfl,rfl⟩) (.inr ⟨rfl,rfl⟩)

-- What the feeds say of themselves: the rows a full queue has dropped, whether the
-- publisher is closed, and the closes of cleanup().
def lostRows (c : Conversation) : Nat := c.feeds.elim 0 (·.broadcast.dropped.length)
def shutCount (c : Conversation) : Nat := c.feeds.elim 0 (·.publisher.closed.toNat)
def closeCount (c : Conversation) : Nat := c.feeds.elim 0 (·.closes)

-- A part of a step that counts nothing, with the warnings it gives.
structure Warned (c c' : Conversation) (warnings : List Record) : Prop where
  log : c'.log = c.log ++ warnings
  plain : ∀ record ∈ warnings, record.counts = none
  counts : c'.counts = c.counts
  cleaned : c'.job.cleaned = c.job.cleaned
  lost : lostRows c' = lostRows c + warnings.count .queueFull
  shut : shutCount c' = shutCount c + warnings.count .deliveryUnavailable
  closes : closeCount c ≤ closeCount c'

theorem Warned.trans (first : Warned c middle warnings) (second : Warned middle c' warnings') :
    Warned c c' (warnings ++ warnings') := by
  refine ⟨?_,?_,second.counts.trans first.counts,second.cleaned.trans first.cleaned,?_,?_,
    Nat.le_trans first.closes second.closes⟩
  · rw [second.log,first.log,List.append_assoc]
  · intro record member
    rcases List.mem_append.mp member with early | late
    · exact first.plain record early
    · exact second.plain record late
  · rw [second.lost,first.lost,List.count_append,Nat.add_assoc]
  · rw [second.shut,first.shut,List.count_append,Nat.add_assoc]

-- Feeds with as many dropped rows and the same closing.
structure SameGauges (f f' : Feeds) : Prop where
  lost : f'.broadcast.dropped.length = f.broadcast.dropped.length
  shut : f'.publisher.closed = f.publisher.closed
  closes : f.closes ≤ f'.closes

theorem gauges_known (known : c.feeds = some f) : lostRows c = f.broadcast.dropped.length ∧
    shutCount c = f.publisher.closed.toNat ∧ closeCount c = f.closes := by
  rw [lostRows,shutCount,closeCount,known]
  exact ⟨rfl,rfl,rfl⟩

theorem warned_put (known : c.feeds = some f) (feeds : c'.feeds = some f') (same : SameGauges f f')
    (log : c'.log = c.log) (counts : c'.counts = c.counts) (cleaned : c'.job.cleaned = c.job.cleaned) : Warned c c' [] := by
  obtain ⟨lost,shut,closes⟩ := gauges_known known
  obtain ⟨lost',shut',closes'⟩ := gauges_known feeds
  refine ⟨log.trans (List.append_nil _).symm,fun _ none => (by cases none),counts,cleaned,?_,?_,?_⟩
  · rw [lost,lost',same.lost]
    rfl
  · rw [shut,shut',same.shut]
    rfl
  · rw [closes,closes']
    exact same.closes

theorem warned_note (c : Conversation) {record : Record} (plain : record.counts = none) (apart : record ≠ .queueFull)
    (also : record ≠ .deliveryUnavailable) : Warned c (c.note record) [record] := by
  refine ⟨rfl,?_,rfl,rfl,?_,?_,Nat.le_refl _⟩
  · intro other member
    rw [List.mem_singleton.mp member]
    exact plain
  · rw [List.count_singleton,if_neg (by simpa using apart)]
    rfl
  · rw [List.count_singleton,if_neg (by simpa using also)]
    rfl

-- The move of a publisher that does not reopen.
theorem settle_warned (known : c.feeds = some f₀) (same : SameGauges f₀ f)
    (stays : f.publisher.closed = true → publisher.closed = true) (provider : Provider) :
    ∃ warnings, Warned c (c.settle f publisher provider).1 warnings := by
  obtain ⟨lost,shut,closes⟩ := gauges_known known
  have settles := settle_cases c f publisher provider
  generalize c.settle f publisher provider = result at settles ⊢
  cases settles with
  | quiet quiet =>
    have closed : publisher.closed = f.publisher.closed := Bool.eq_iff_iff.mpr ⟨quiet,stays⟩
    exact ⟨[],warned_put known rfl ⟨same.lost,closed.trans same.shut,same.closes⟩ rfl rfl rfl⟩
  | fails open_ closed =>
    refine ⟨[.deliveryUnavailable],rfl,?_,rfl,?_,?_,?_,?_⟩
    · intro record member
      rw [List.mem_singleton.mp member]
      rfl
    · exact (Worker.abort_sheltered c.job provider).1.cleaned
    · rw [lost,← same.lost]
      rfl
    · rw [shut,← same.shut,open_]
      change publisher.closed.toNat = _
      rw [closed]
      rfl
    · rw [closes]
      exact same.closes

theorem enqueue_warned (known : c.feeds = some f) (call : Transcripts.Call) (provider : Provider) :
    ∃ warnings, Warned c (c.enqueue f call provider).1 warnings := by
  have moved : Conversation.feeds {c with calls := c.calls ++ [call]} = some f := known
  have same : SameGauges f {f with stream := (f.stream.call call).1} := ⟨rfl,rfl,Nat.le_refl _⟩
  obtain ⟨warnings,warned⟩ := settle_warned moved same (fun closed => enqueue_stays closed (f.stream.call call).2) provider
  exact ⟨warnings,warned.log,warned.plain,warned.counts,warned.cleaned,warned.lost,warned.shut,warned.closes⟩

-- A queue that is full has dropped one row.
theorem tell_warned (known : c.feeds = some f) (event : History.Event) :
    ∃ warnings, Warned c (c.tell setup f event) warnings := by
  obtain ⟨lost,shut,closes⟩ := gauges_known known
  have tells := tell_cases setup c f event
  generalize c.tell setup f event = after at tells
  cases tells with
  | refused => exact ⟨[],warned_put known known ⟨rfl,rfl,Nat.le_refl _⟩ rfl rfl rfl⟩
  | told moved same =>
    refine ⟨[],warned_put known rfl ⟨?_,rfl,Nat.le_refl _⟩ rfl rfl rfl⟩
    cases Live.step_cases moved with
    | history row =>
      rcases Live.tells_queue row with ⟨_,_,kept⟩ | ⟨_,_,kept⟩
      · exact congrArg List.length kept
      · apply Nat.le_antisymm same
        rw [kept,List.length_append]
        exact Nat.le_add_right _ _
  | dropped moved more =>
    cases Live.step_cases moved with
    | history row =>
      refine ⟨[.queueFull],rfl,?_,rfl,rfl,?_,?_,?_⟩
      · intro record member
        rw [List.mem_singleton.mp member]
        rfl
      · rcases Live.tells_queue row with ⟨_,_,kept⟩ | ⟨_,_,kept⟩
        · rw [kept] at more
          exact absurd more (Nat.lt_irrefl _)
        · have single := row.single
          rw [kept,List.length_append] at more
          change (Live.Broadcast.tell f.broadcast _).dropped.length = lostRows c + 1
          rw [kept,List.length_append,lost]
          omega
      · rw [shut]
        rfl
      · rw [closes]
        exact Nat.le_refl _

theorem task_gauges {b b' : Live.Broadcast} (task : ∀ event, given ≠ .history event) (moved : Live.step setup b given = some b') :
    b'.dropped = b.dropped := by
  have taken := (Live.take_takes b).dropped
  have ran := (Live.run_takes b).dropped
  cases Live.step_cases moved with
  | history => exact absurd rfl (task _)
  | start | cut | cancelled | close => rfl
  | runs => exact ran
  | takes => exact taken
  | settle => exact (Live.run_takes _).dropped

def Event.hears : Event → Bool
  | .caller .. => true
  | _ => false

def Event.finishes : Event → Bool
  | .caller _ final .. => final
  | _ => false

def isAnswer : Transcripts.Call → Bool
  | .assistant .. => true
  | .caller .. => false

-- What one step counts and logs.
inductive Writes (c : Conversation) : Event → Conversation → Prop where
  | quiet : event.hears = false → event.finishes = false → (said c event).countP isAnswer = 0 → Warned c c' warnings →
      Writes c event c'
  | heard {segment : Uuid4} : Warned (c.hear final) c' warnings → Writes c (.caller text final drawn segment provider) c'
  | answered : c.job.available = true → given.role = some .assistant → Warned c middle warnings →
      Warned ((middle.count middle.counts.answered).note (.assistantItem middle.counts.answered)) c' warnings' →
        Writes c (.item given drawn provider) c'
  | cleans : c.job.cleaned = false → c'.job.cleaned = true → c'.log = c.log ++ [.closing c.counts] → c'.counts = c.counts →
      lostRows c' = lostRows c → shutCount c' = shutCount c → closeCount c ≤ closeCount c' →
        Writes c (.worker event streamId) c'
  | shuts : c'.log = c.log → c'.counts = c.counts → c'.job.cleaned = c.job.cleaned → lostRows c' = lostRows c →
      shutCount c' = 1 → closeCount c' = 2 → Writes c .closePublisher c'

theorem caller_writes (known : c.feeds = some f) (segment : Uuid4) : Writes c (.caller text final drawn segment provider)
    (c.onCaller setup f text final drawn segment provider) := by
  obtain ⟨job,feeds,_⟩ := hear_frame c final
  have heard := feeds.trans known
  suffices ∃ warnings, Warned (c.hear final) (c.onCaller setup f text final drawn segment provider) warnings by
    obtain ⟨warnings,warned⟩ := this
    exact .heard warned
  unfold Conversation.onCaller
  dsimp only
  split
  · obtain ⟨warnings,enqueued⟩ := enqueue_warned heard (.caller text final drawn) provider
    split
    · rename_i same
      rw [same] at enqueued
      exact ⟨warnings,enqueued⟩
    · rename_i same
      rw [same] at enqueued
      split
      · exact ⟨warnings,enqueued⟩
      · rename_i given
        obtain ⟨more,told⟩ := @tell_warned _ _ setup given (.caller text final segment)
        exact ⟨_,enqueued.trans told⟩
  · exact ⟨[],warned_put heard heard ⟨rfl,rfl,Nat.le_refl _⟩ rfl rfl rfl⟩

theorem item_writes (known : c.feeds = some f) (given : History.ChatItem) :
    Writes c (.item given drawn provider) (c.onItem setup f given drawn provider) := by
  unfold Conversation.onItem
  dsimp only
  split
  · rename_i open_
    have telling := @tell_frame _ _ setup known (.item given)
    obtain ⟨broadcast,feeds,_⟩ := telling.feeds
    obtain ⟨warnings,told⟩ := @tell_warned _ _ setup known (.item given)
    split
    · rename_i assistant
      unfold Conversation.onAssistant
      rw [feeds]
      dsimp only
      have counted : (((c.tell setup f (.item given)).count (c.tell setup f (.item given)).counts.answered).note
          (.assistantItem (c.tell setup f (.item given)).counts.answered)).feeds = some {f with broadcast} := feeds
      obtain ⟨more,enqueued⟩ := enqueue_warned counted (.assistant (given.textContent.getD "") given.id drawn) provider
      exact .answered open_ assistant told enqueued
    · rename_i other
      refine .quiet rfl rfl ?_ told
      rw [said,if_neg (fun both => other both.2)]
      rfl
  · rename_i closed
    obtain ⟨warnings,told⟩ := @tell_warned _ _ setup known (.edited (f.broadcast.scene.items ++ [given]))
    refine .quiet rfl rfl ?_ told
    rw [said,if_neg (fun both => closed both.1)]
    rfl

theorem publish_writes (known : c.feeds = some f) (next : c.publish setup f turn provider = some c') :
    ∃ warnings, Warned c c' warnings := by
  obtain ⟨publisher,moved,rfl⟩ := Option.map_eq_some_iff.mp next
  exact settle_warned known ⟨rfl,rfl,Nat.le_refl _⟩ (fun closed => (step_shut closed moved).closed) provider

theorem broadcast_writes (known : c.feeds = some f) (next : c.broadcast setup f turn = some c') :
    ∃ warnings, Warned c c' warnings := by
  obtain ⟨broadcast,moved,rfl⟩ := Option.map_eq_some_iff.mp next
  have same := task_gauges (fun _ same => by cases turn <;> cases same) moved
  have put : Warned c (c.put {f with broadcast}) [] :=
    warned_put known rfl ⟨congrArg List.length same,rfl,Nat.le_refl _⟩ rfl rfl rfl
  dsimp only
  split
  · exact ⟨_,put.trans (warned_note _ rfl (by simp) (by simp))⟩
  · exact ⟨_,put⟩

theorem closeHistory_writes (known : c.feeds = some f) (next : c.closeHistory setup f = some c') :
    ∃ warnings, Warned c c' warnings := by
  unfold Conversation.closeHistory at next
  split at next
  · rename_i closing
    obtain ⟨broadcast,moved,rfl⟩ := Option.map_eq_some_iff.mp next
    have same := task_gauges (fun _ same => by cases same) moved
    refine ⟨[],warned_put known rfl ⟨congrArg List.length same,rfl,?_⟩ rfl rfl rfl⟩
    rw [(closing_exact closing).2]
    exact Nat.zero_le _
  · cases next

theorem closePublisher_writes (known : c.feeds = some f) (next : c.closePublisher setup f = some c') :
    Writes c .closePublisher c' := by
  obtain ⟨lost,_,_⟩ := gauges_known known
  unfold Conversation.closePublisher at next
  split at next
  · obtain ⟨publisher,moved,rfl⟩ := Option.map_eq_some_iff.mp next
    refine .shuts rfl rfl rfl lost.symm ?_ rfl
    change publisher.closed.toNat = 1
    cases step_moves moved with
    | close => rfl
  · cases next

-- A step of the job drops nothing and closes no publisher, also where it creates them.
structure KeepsGauges (feeds feeds' : Option Feeds) : Prop where
  lost : feeds'.elim 0 (·.broadcast.dropped.length) = feeds.elim 0 (·.broadcast.dropped.length)
  shut : feeds'.elim 0 (·.publisher.closed.toNat) = feeds.elim 0 (·.publisher.closed.toNat)
  closes : feeds.elim 0 (·.closes) ≤ feeds'.elim 0 (·.closes)

theorem created_gauges (c : Conversation) (job : Worker.Job) (streamId : Uuid4) :
    KeepsGauges c.feeds (c.created job streamId) := by
  unfold Conversation.created
  cases c.feeds with
  | some f => exact ⟨rfl,rfl,Nat.le_refl _⟩
  | none => cases job.profile <;> exact ⟨rfl,rfl,Nat.le_refl _⟩

theorem started_gauges (setup : Worker.Setup) (feeds : Option Feeds) : KeepsGauges feeds (feeds.map (·.start setup)) := by
  cases feeds with
  | none => exact ⟨rfl,rfl,Nat.le_refl _⟩
  | some f =>
    refine ⟨?_,congrArg Bool.toNat (start_open f.publisher),Nat.le_refl _⟩
    rcases @started_step _ _ (Live.step (f.setup setup)) f.broadcast .start with moved | same
    · exact congrArg List.length (task_gauges (fun _ same => by cases same) moved)
    · change (f.start setup).broadcast.dropped.length = _
      rw [Feeds.start,same]
      rfl

theorem advance_writes (advances : Worker.Advances setup c.job job) (event : Worker.Event) (streamId : Uuid4) :
    Writes c (.worker event streamId) (c.advance setup event job streamId) := by
  have gauges : KeepsGauges c.feeds (if starts setup c.job event then (c.created job streamId).map (·.start setup)
      else c.created job streamId) := by
    have created := created_gauges c job streamId
    split
    · have started := started_gauges setup (c.created job streamId)
      exact ⟨started.lost.trans created.lost,started.shut.trans created.shut,Nat.le_trans created.closes started.closes⟩
    · exact created
  unfold Conversation.advance
  dsimp only
  generalize (if starts setup c.job event then (c.created job streamId).map (·.start setup) else c.created job streamId) =
    feeds at gauges ⊢
  split
  · rename_i cleans
    exact .cleans cleans.1 cleans.2 rfl rfl gauges.lost gauges.shut gauges.closes
  · rename_i keeps
    refine .quiet rfl rfl rfl ⟨(List.append_nil _).symm,fun _ none => (by cases none),rfl,?_,gauges.lost,gauges.shut,gauges.closes⟩
    change job.cleaned = c.job.cleaned
    cases before : c.job.cleaned with
    | true => exact advances.cleaned before
    | false => simpa [before] using keeps

theorem step_writes (wired : Wired setup room c) (next : step setup c event = some c') : Writes c event c' := by
  cases event with
  | worker event streamId =>
    simp only [step] at next
    split at next
    · cases next
    · obtain ⟨job,moved,rfl⟩ := Option.map_eq_some_iff.mp next
      obtain ⟨_,path⟩ := wired.worker
      exact advance_writes (Worker.step_advances (Worker.run_held path).1.admitted moved) event streamId
  | caller text final drawn segment provider =>
    obtain ⟨f,known,same⟩ := Option.bind_eq_some_iff.mp next
    cases Option.some.inj same
    exact caller_writes known segment
  | item given drawn provider =>
    obtain ⟨f,known,same⟩ := Option.bind_eq_some_iff.mp next
    cases Option.some.inj same
    exact item_writes known given
  | error recoverable =>
    obtain ⟨f,known,same⟩ := Option.bind_eq_some_iff.mp next
    cases Option.some.inj same
    exact .quiet rfl rfl rfl (warned_note c rfl (by simp) (by simp))
  | edited | request =>
    obtain ⟨f,known,same⟩ := Option.bind_eq_some_iff.mp next
    cases Option.some.inj same
    obtain ⟨warnings,warned⟩ := tell_warned known _
    exact .quiet rfl rfl rfl warned
  | elapsed seconds =>
    obtain ⟨f,known,told⟩ := Option.bind_eq_some_iff.mp next
    simp only [Conversation.converse] at told
    split at told
    · cases told
      obtain ⟨warnings,warned⟩ := tell_warned known _
      exact .quiet rfl rfl rfl warned
    · cases told
  | publisher turn provider =>
    obtain ⟨f,known,moved⟩ := Option.bind_eq_some_iff.mp next
    obtain ⟨warnings,warned⟩ := publish_writes known moved
    exact .quiet rfl rfl rfl warned
  | broadcast turn =>
    obtain ⟨f,known,moved⟩ := Option.bind_eq_some_iff.mp next
    obtain ⟨warnings,warned⟩ := broadcast_writes known moved
    exact .quiet rfl rfl rfl warned
  | closeHistory =>
    obtain ⟨f,known,moved⟩ := Option.bind_eq_some_iff.mp next
    obtain ⟨warnings,warned⟩ := closeHistory_writes known moved
    exact .quiet rfl rfl rfl warned
  | closePublisher =>
    obtain ⟨f,known,moved⟩ := Option.bind_eq_some_iff.mp next
    exact closePublisher_writes known moved

-- What there was to count: the calls of on_caller and of stream.assistant.
def happened (events : List Event) (calls : List Transcripts.Call) : Counts :=
  ⟨events.countP Event.hears,events.countP Event.finishes,calls.countP isAnswer⟩

-- The counts and the log of a conversation say what has happened: every record numbers
-- its own kind, cleanup() is logged once, and each warning stands for what it warns of.
-- A publisher that cleanup() closed has not failed.
structure Truthful (counts : Counts) (c : Conversation) : Prop where
  counted : c.counts = counts
  booked : Booked counts c.log
  closed : (c.log.filterMap Record.ending).length = c.job.cleaned.toNat
  lost : c.log.count .queueFull = lostRows c
  failed : c.log.count .deliveryUnavailable = shutCount c ∨
    2 ≤ closeCount c ∧ shutCount c = 1 ∧ c.log.count .deliveryUnavailable = 0

theorem shutCount_small (c : Conversation) : shutCount c ≤ 1 := by
  unfold shutCount
  cases c.feeds with
  | none => exact Nat.zero_le 1
  | some f => exact Bool.toNat_le f.publisher.closed

theorem Truthful.warned (truthful : Truthful counts c) (warned : Warned c c' warnings) : Truthful counts c' := by
  refine ⟨warned.counts.trans truthful.counted,?_,?_,?_,?_⟩
  · rw [warned.log]
    exact truthful.booked.warned warned.plain
  · rw [warned.log,List.filterMap_append,plain_nothing plain_ending warned.plain,List.append_nil,warned.cleaned]
    exact truthful.closed
  · rw [warned.log,List.count_append,warned.lost,truthful.lost]
  · have small := shutCount_small c'
    have closes := warned.closes
    have shut := warned.shut
    rw [warned.log,List.count_append]
    rcases truthful.failed with same | ⟨twice,one,silent⟩
    · left
      omega
    · right
      omega

-- Records that are no warnings and not the last.
theorem Truthful.records (truthful : Truthful counts c) (feeds : c'.feeds = c.feeds) (job : c'.job = c.job)
    (log : c'.log = c.log ++ written) (counted : c'.counts = counts') (booked : Booked counts' c'.log)
    (apart : ∀ record ∈ written, record.ending = none ∧ record ≠ .queueFull ∧ record ≠ .deliveryUnavailable) :
    Truthful counts' c' := by
  have unended : written.filterMap Record.ending = [] :=
    List.filterMap_eq_nil_iff.mpr fun record member => (apart record member).1
  have unfull : written.count .queueFull = 0 := List.count_eq_zero.mpr fun member => (apart _ member).2.1 rfl
  have unfailed : written.count .deliveryUnavailable = 0 := List.count_eq_zero.mpr fun member => (apart _ member).2.2 rfl
  refine ⟨counted,booked,?_,?_,?_⟩
  · rw [log,List.filterMap_append,unended,List.append_nil,job]
    exact truthful.closed
  · rw [log,List.count_append,unfull,lostRows,feeds]
    exact truthful.lost
  · rw [log,List.count_append,unfailed,shutCount,closeCount,feeds]
    exact truthful.failed

theorem Truthful.heard (truthful : Truthful counts c) (final : Bool) : Truthful (counts.heard final) (c.hear final) := by
  obtain ⟨rfl,booked,_⟩ := id truthful
  cases final with
  | false =>
    refine truthful.records rfl rfl (List.append_nil _).symm rfl booked.hear ?_
    intro _ none
    cases none
  | true =>
    refine truthful.records rfl rfl rfl rfl booked.finish ?_
    intro record member
    rw [List.mem_singleton.mp member]
    exact ⟨rfl,by simp,by simp⟩

theorem Truthful.answered (truthful : Truthful counts c) :
    Truthful counts.answered ((c.count c.counts.answered).note (.assistantItem c.counts.answered)) := by
  obtain ⟨rfl,booked,_⟩ := id truthful
  refine truthful.records rfl rfl rfl rfl booked.answer ?_
  intro record member
  rw [List.mem_singleton.mp member]
  exact ⟨rfl,by simp,by simp⟩

theorem happened_quiet (quiet : event.hears = false) (also : event.finishes = false)
    (silent : (said c event).countP isAnswer = 0) :
    happened (events ++ [event]) (calls ++ said c event) = happened events calls := by
  simp [happened,List.countP_append,quiet,also,silent]

theorem step_truthful (truthful : Truthful (happened events c.calls) c) (writes : Writes c event c') :
    Truthful (happened (events ++ [event]) (c.calls ++ said c event)) c' := by
  cases writes with
  | quiet quiet also silent warned =>
    rw [happened_quiet quiet also silent]
    exact truthful.warned warned
  | @heard final _ _ text drawn provider segment warned =>
    have silent : (said c (.caller text final drawn segment provider)).countP isAnswer = 0 := by
      rw [said]
      split <;> rfl
    have more : happened (events ++ [.caller text final drawn segment provider])
        (c.calls ++ said c (.caller text final drawn segment provider)) = (happened events c.calls).heard final := by
      cases final <;> simp [happened,Counts.heard,List.countP_append,silent,Event.hears,Event.finishes]
    rw [more]
    exact (truthful.heard final).warned warned
  | @answered middle _ _ _ given drawn provider open_ assistant before after =>
    have loud : said c (.item given drawn provider) = [.assistant (given.textContent.getD "") given.id drawn] := by
      rw [said,if_pos ⟨open_,assistant⟩]
    have more : happened (events ++ [.item given drawn provider]) (c.calls ++ said c (.item given drawn provider)) =
        (happened events c.calls).answered := by
      simp [happened,Counts.answered,List.countP_append,List.countP_singleton,loud,Event.hears,Event.finishes,isAnswer]
    rw [more]
    exact (truthful.warned before).answered.warned after
  | cleans open_ done log counts lost shut closes =>
    rw [happened_quiet rfl rfl rfl]
    obtain ⟨counted,booked,closed,full,failed⟩ := truthful
    refine ⟨counts.trans counted,?_,?_,?_,?_⟩
    · rw [log,counted]
      exact booked.close
    · rw [log,done,List.filterMap_append,List.length_append,closed,open_]
      rfl
    · rw [log,lost,List.count_append,full]
      rfl
    · rw [log,shut,List.count_append]
      rcases failed with same | ⟨twice,rest⟩
      · exact .inl same
      · exact .inr ⟨Nat.le_trans twice closes,rest⟩
  | shuts log counts cleaned lost shut closes =>
    rw [happened_quiet rfl rfl rfl]
    obtain ⟨counted,booked,closed,full,failed⟩ := truthful
    refine ⟨counts.trans counted,log ▸ booked,?_,?_,?_⟩
    · rw [log,cleaned]
      exact closed
    · rw [log,lost]
      exact full
    · rw [log,shut,closes]
      have small := shutCount_small c
      rcases failed with same | ⟨_,_,silent⟩
      · omega
      · exact .inr ⟨Nat.le_refl 2,rfl,silent⟩

-- What the conversation counts and logs is what happened in it; a delivery that is
-- reported as unavailable has ended the call.
theorem log_truthful (path : Runs (step setup) Anything (.initial setup room) events c) :
    Truthful (happened events c.calls) c ∧
      (.deliveryUnavailable ∈ c.log → c.job.aborted = true ∨ c.job.cleaned = true) := by
  have truthful : Truthful (happened events c.calls) c := by
    induction path with
    | nil => exact ⟨rfl,⟨rfl,rfl,.nil,fun _ none => by cases none⟩,rfl,rfl,.inl rfl⟩
    | step prior _ next ih =>
      rw [(step_passes next).calls]
      exact step_truthful ih (step_writes (run_wired prior) next)
  refine ⟨truthful,fun reported => ?_⟩
  have one : shutCount c ≠ 0 := by
    have some_ : 0 < c.log.count .deliveryUnavailable := List.count_pos_iff.mpr reported
    rcases truthful.failed with same | ⟨_,shut,_⟩ <;> omega
  cases known : c.feeds with
  | none =>
    rw [shutCount,known] at one
    exact absurd rfl one
  | some f =>
    apply ((run_wired path).fed f known).closed
    rw [(gauges_known known).2.1] at one
    cases closed : f.publisher.closed with
    | true => rfl
    | false =>
      rw [closed] at one
      exact absurd rfl one

theorem sample_truthful : ∃ (events : List Event) (c : Conversation), 0 < c.counts.sttFinalEvents ∧
    Truthful (happened events c.calls) c := by
  obtain ⟨events,c,f,path,known,_⟩ := sample_talk
  have next := utterance_steps Worker.sampleSetup known "Hello"
  have truthful := (log_truthful (path.step trivial next)).1
  refine ⟨_,_,?_,truthful⟩
  rw [truthful.counted]
  change 0 < (events ++ [sampleUtterance "Hello"]).countP Event.finishes
  rw [List.countP_append]
  exact Nat.succ_pos _

end AidaAgent.Entrypoint
