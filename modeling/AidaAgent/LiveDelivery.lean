import AidaAgent.LiveTranscript

namespace AidaAgent.Live
open JsonText PythonText PythonDict Transcripts Transitions History

-- A call that tells nothing leaves the history as it is; another passes one row to
-- _enqueue, numbered next.
inductive Passes (h : TranscriptHistory) : TranscriptHistory → Option Row → Prop where
  | silent : Passes h h none
  | row (h' : TranscriptHistory) : h'.queue = h.queue → h'.closed = h.closed → h'.sequence = h.sequence + 1 →
      row.sequence = h.sequence + 1 → Passes h (h'.enqueue row) (some row)

theorem caller_passes (h : TranscriptHistory) (text : String) (final : Bool) (drawn : Uuid4) :
    Passes h (h.caller text final drawn).1 (h.caller text final drawn).2 := by
  unfold TranscriptHistory.caller
  split
  · exact .silent
  · dsimp only
    cases final
    · exact .row _ rfl rfl rfl rfl
    · exact .row _ rfl rfl rfl rfl

theorem item_passes {h : TranscriptHistory} (passed : h.item given = .ok after) : Passes h after.1 after.2 := by
  unfold TranscriptHistory.item at passed
  split at passed
  · cases passed
    exact .silent
  · split at passed
    · cases passed
    · split at passed
      · cases passed
        exact .silent
      · cases passed
        refine .row _ ?_ ?_ ?_ rfl
        · split <;> rfl
        · split <;> rfl
        · split <;> rfl

theorem enqueue_queue (h : TranscriptHistory) (row : Row) :
    (h.enqueue row).queue = if h.queue.length < queueSize then h.queue ++ [row] else h.queue := by
  unfold TranscriptHistory.enqueue
  split <;> rfl

-- What a step of the history tells: rows numbered next, queued where there is room.
structure Tells (s s' : Scene) (told : List Row) : Prop where
  emitted : s'.emitted = s.emitted ++ told
  queue : s'.history.queue = if s.history.queue.length < queueSize then s.history.queue ++ told else s.history.queue
  single : told.length ≤ 1
  sequence : s'.history.sequence = s.history.sequence + told.length
  numbered : ∀ row ∈ told, row.sequence = s.history.sequence + 1
  closed : s'.history.closed = s.history.closed

theorem Tells.silent {s s' : Scene} (emitted : s'.emitted = s.emitted) (queue : s'.history.queue = s.history.queue)
    (sequence : s'.history.sequence = s.history.sequence) (closed : s'.history.closed = s.history.closed) :
    Tells s s' [] := by
  refine ⟨by rw [emitted,List.append_nil],?_,Nat.zero_le 1,sequence,by simp,closed⟩
  rw [queue,List.append_nil,ite_self]

theorem passes_tells {s s' : Scene} (passes : Passes s.history after row) (history : s'.history = after)
    (emitted : s'.emitted = s.emitted ++ row.toList) : Tells s s' row.toList := by
  cases passes with
  | silent =>
    exact .silent (by simpa using emitted) (by rw [history]) (by rw [history]) (by rw [history])
  | row h' queue closed sequence numbered =>
    rename_i told
    obtain ⟨more,frame⟩ := enqueue_frame h' told
    refine ⟨emitted,?_,Nat.le_refl 1,?_,?_,?_⟩
    · rw [history,enqueue_queue,queue]
      rfl
    · rw [history,frame]
      exact sequence
    · intro other member
      rw [List.mem_singleton.mp member]
      exact numbered
    · rw [history,frame]
      exact closed

theorem history_tells (apart : event ≠ .published ∧ event ≠ .close) (moved : History.step setup s event = some s') :
    ∃ told, Tells s s' told := by
  cases step_cases moved with
  | caller => exact ⟨_,passes_tells (caller_passes s.history _ _ _) rfl rfl⟩
  | told passed => exact ⟨_,passes_tells (item_passes passed) rfl rfl⟩
  | raised | edited | elapsed => exact ⟨[],.silent rfl rfl rfl rfl⟩
  | published => exact absurd rfl apart.1
  | close => exact absurd rfl apart.2
  | request =>
    rename_i r
    obtain ⟨snapshots,asked⟩ := getTranscript_frame s.history setup s.items s.clock r
    refine ⟨[],?_⟩
    unfold Scene.ask
    dsimp only
    rw [asked]
    exact .silent rfl rfl rfl rfl

-- What one step can do.
inductive Steps (setup : Setup) (b : Broadcast) : Event → Broadcast → Prop where
  | history {told : List Row} : Tells b.scene scene told → History.step setup b.scene event = some scene →
      event ≠ .published ∧ event ≠ .close → Steps setup b (.history event) (b.tell scene)
  | start : b.sender = .absent → Steps setup b .start {b with sender := .created}
  | runs : b.sender = .created → b.cancelling = false → Steps setup b .resume b.run
  | takes : b.sender = .woken → b.cancelling = false → Steps setup b .resume b.take
  | settle : b.sender = .publishing row → (outcome = .sent → arrived = true) →
      Steps setup b (.settle outcome arrived) (b.attempt row arrived).run
  | cut : b.sender = .publishing row → b.cancelling = true →
      Steps setup b (.cancelled arrived) {b.attempt row arrived with sender := .done}
  | cancelled : (∀ row, b.sender ≠ .publishing row) → b.cancelling = true →
      Steps setup b (.cancelled arrived) {b with sender := .done}
  | close (cancelling : Bool) : cancelling = b.cancelling ∨ cancelling = true →
      (cancelling = true ∨ b.sender = .absent ∨ b.sender = .done) → Steps setup b .close
        {b with scene := {b.scene with history := b.scene.history.close},cancelling}

theorem step_cases (next : step setup b event = some b') : Steps setup b event b' := by
  cases event with
  | history event =>
    have apart : event ≠ .published ∧ event ≠ .close := by
      constructor
      · rintro rfl
        cases next
      · rintro rfl
        cases next
    have told : (History.step setup b.scene event).map b.tell = some b' := by
      cases event with
      | published => exact absurd rfl apart.1
      | close => exact absurd rfl apart.2
      | caller | item | edited | request | elapsed => exact next
    obtain ⟨scene,moved,rfl⟩ := Option.map_eq_some_iff.mp told
    obtain ⟨_,tells⟩ := history_tells apart moved
    exact .history tells moved apart
  | start =>
    simp only [step] at next
    split at next
    · rename_i absent
      cases next
      exact .start absent
    · cases next
  | resume =>
    simp only [step] at next
    split at next
    · rename_i created live
      cases next
      exact .runs created live
    · rename_i woken live
      cases next
      exact .takes woken live
    · cases next
  | settle outcome arrived =>
    simp only [step] at next
    split at next
    · rename_i row publishing
      split at next
      · cases next
      · rename_i possible
        cases next
        refine .settle publishing fun sent => ?_
        by_contra missing
        exact possible ⟨sent,by simpa using missing⟩
    · cases next
  | cancelled arrived =>
    simp only [step] at next
    split at next
    · rename_i row publishing told
      cases next
      exact .cut publishing told
    · rename_i created told
      cases next
      exact .cancelled (fun row same => by cases created.symm.trans same) told
    · rename_i waiting told
      cases next
      exact .cancelled (fun row same => by cases waiting.symm.trans same) told
    · rename_i woken told
      cases next
      exact .cancelled (fun row same => by cases woken.symm.trans same) told
    · cases next
  | close =>
    simp only [step] at next
    split at next
    · rename_i absent
      cases next
      exact .close b.cancelling (.inl rfl) (.inr (.inl absent))
    · rename_i done
      cases next
      exact .close b.cancelling (.inl rfl) (.inr (.inr done))
    · cases next
      exact .close true (.inr rfl) (.inl rfl)

-- The row that send_text is busy with, and all that found room in the queue.
def inFlight : Sender Row → List Row
  | .publishing row => [row]
  | _ => []

def Broadcast.tried (b : Broadcast) : List Row := b.attempts.map (·.1)
def Broadcast.kept (b : Broadcast) : List Row := b.tried ++ inFlight b.sender ++ b.queue

theorem inFlight_wake (sender : Sender Row) : inFlight sender.wake = inFlight sender := by cases sender <;> rfl

theorem inFlight_idle {sender : Sender Row} (idle : ∀ row, sender ≠ .publishing row) : inFlight sender = [] := by
  cases sender with
  | publishing row => exact absurd rfl (idle row)
  | absent | created | waiting | woken | done => rfl

-- Taking the next row, or ending, leaves what the task has before it.
structure Takes (b b' : Broadcast) : Prop where
  kept : b'.kept = b.tried ++ b.queue
  emitted : b'.scene.emitted = b.scene.emitted
  sequence : b'.scene.history.sequence = b.scene.history.sequence
  closed : b'.closed = b.closed
  dropped : b'.dropped = b.dropped
  cancelling : b'.cancelling = b.cancelling
  shorter : b'.queue.length ≤ b.queue.length
  waiting : b'.sender = .waiting → b'.queue = []
  awake : b'.sender ≠ .woken
  ended : b'.sender = .done → b.closed = true

theorem take_takes (b : Broadcast) : Takes b b.take := by
  unfold Broadcast.take
  split
  · rename_i empty
    refine ⟨?_,rfl,rfl,rfl,rfl,rfl,Nat.le_refl _,fun _ => empty,nofun,nofun⟩
    exact congrArg (· ++ b.queue) (List.append_nil b.tried)
  · rename_i row queue waiting
    have next : b.queue = row :: queue := waiting
    refine ⟨?_,rfl,rfl,rfl,rfl,rfl,?_,nofun,nofun,nofun⟩
    · rw [next]
      exact List.append_assoc b.tried [row] queue
    · rw [next]
      exact Nat.le_succ _

theorem run_takes (b : Broadcast) : Takes b b.run := by
  unfold Broadcast.run
  split
  · rename_i closed
    refine ⟨?_,rfl,rfl,rfl,rfl,rfl,Nat.le_refl _,nofun,nofun,fun _ => closed⟩
    exact congrArg (· ++ b.queue) (List.append_nil b.tried)
  · exact take_takes b

-- Each row told is tried, in flight, waiting or dropped, in the order of the telling.
structure Accounted (b : Broadcast) : Prop where
  numbered : b.scene.emitted.map (·.sequence) = List.range' 1 b.scene.emitted.length
  sequence : b.scene.history.sequence = b.scene.emitted.length
  order : b.kept.Sublist b.scene.emitted
  whole : (b.kept ++ b.dropped).Perm b.scene.emitted
  bounded : b.queue.length ≤ queueSize
  waiting : b.sender = .waiting → b.queue = []
  woken : b.sender = .woken → b.queue ≠ []
  ended : b.sender = .done ∨ b.cancelling = true → b.closed = true

theorem opening_accounted (items : List ChatItem) (clock : ℚ) : Accounted (.opening items clock) :=
  ⟨rfl,rfl,List.Sublist.refl [],List.Perm.nil,Nat.zero_le _,nofun,nofun,
    fun ended => ended.elim nofun nofun⟩

theorem Accounted.takes (accounted : Accounted b) (takes : Takes b b') (kept : b.tried ++ b.queue = b.kept) :
    Accounted b' := by
  have same : b'.kept = b.kept := takes.kept.trans kept
  refine ⟨?_,?_,?_,?_,takes.shorter.trans accounted.bounded,takes.waiting,fun woken => absurd woken takes.awake,?_⟩
  · rw [takes.emitted]
    exact accounted.numbered
  · rw [takes.sequence,takes.emitted]
    exact accounted.sequence
  · rw [same,takes.emitted]
    exact accounted.order
  · rw [same,takes.dropped,takes.emitted]
    exact accounted.whole
  · rintro (done | told)
    · rw [takes.closed]
      exact takes.ended done
    · rw [takes.cancelling] at told
      rw [takes.closed]
      exact accounted.ended (.inr told)

theorem tells_queue {b : Broadcast} {told : List Row} (tells : Tells b.scene scene told) :
    b.queue.length < queueSize ∧ (b.tell scene).queue = b.queue ++ told ∧ (b.tell scene).dropped = b.dropped ∨
    ¬ b.queue.length < queueSize ∧ (b.tell scene).queue = b.queue ∧ (b.tell scene).dropped = b.dropped ++ told := by
  have queue := tells.queue
  by_cases room : b.queue.length < queueSize
  · refine .inl ⟨room,?_,if_pos room⟩
    rwa [if_pos (show b.scene.history.queue.length < queueSize from room)] at queue
  · refine .inr ⟨room,?_,?_⟩
    · rwa [if_neg (show ¬ b.scene.history.queue.length < queueSize from room)] at queue
    · have more : (b.tell scene).dropped = b.dropped ++ scene.emitted.drop b.scene.emitted.length := if_neg room
      rw [more,tells.emitted,List.drop_left]

theorem tell_flight (b : Broadcast) (scene : Scene) : inFlight (b.tell scene).sender = inFlight b.sender := by
  unfold Broadcast.tell
  dsimp only
  split
  · exact inFlight_wake b.sender
  · rfl

theorem Accounted.tells {told : List Row} (accounted : Accounted b) (tells : Tells b.scene scene told) : Accounted (b.tell scene) := by
  have emitted : (b.tell scene).scene.emitted = b.scene.emitted ++ told := tells.emitted
  have flight := tell_flight b scene
  have tried : (b.tell scene).tried = b.tried := rfl
  have grown : told.length ≤ 1 ∧ ∀ row ∈ told, row.sequence = b.scene.emitted.length + 1 :=
    ⟨tells.single,fun row member => (tells.numbered row member).trans (by rw [accounted.sequence])⟩
  have numbers : told.map (·.sequence) = List.range' (b.scene.emitted.length + 1) told.length := by
    match told,grown with
    | [],_ => rfl
    | [row],grown => rw [List.map_singleton,grown.2 row List.mem_cons_self]; rfl
    | _ :: _ :: _,grown => cases Nat.not_succ_le_zero _ (Nat.le_of_succ_le_succ grown.1)
  have kept : (b.tell scene).kept = b.tried ++ inFlight b.sender ++ (b.tell scene).queue := by
    unfold Broadcast.kept
    rw [tried,flight]
  refine ⟨?_,?_,?_,?_,?_,?_,?_,?_⟩
  · rw [emitted,List.map_append,accounted.numbered,numbers,List.length_append,Nat.add_comm b.scene.emitted.length 1,
      List.range'_append_1]
  · rw [emitted,List.length_append,← accounted.sequence]
    exact tells.sequence
  · rw [kept,emitted]
    rcases tells_queue tells with ⟨_,queue,_⟩ | ⟨_,queue,_⟩
    · rw [queue,← List.append_assoc]
      exact accounted.order.append (List.Sublist.refl told)
    · rw [queue]
      exact accounted.order.trans (List.sublist_append_left _ _)
  · rw [kept,emitted]
    rcases tells_queue tells with ⟨_,queue,dropped⟩ | ⟨_,queue,dropped⟩
    · rw [queue,dropped]
      have swapped : (b.tried ++ inFlight b.sender ++ (b.queue ++ told) ++ b.dropped).Perm (b.kept ++ b.dropped ++ told) := by
        unfold Broadcast.kept
        simp only [List.append_assoc]
        exact ((List.perm_append_comm.append_left _).append_left _).append_left _
      exact swapped.trans (accounted.whole.append_right told)
    · rw [queue,dropped,← List.append_assoc]
      exact accounted.whole.append_right told
  · rcases tells_queue tells with ⟨room,queue,_⟩ | ⟨_,queue,_⟩
    · rw [queue,List.length_append]
      have single := tells.single
      omega
    · rw [queue]
      exact accounted.bounded
  · intro waiting
    unfold Broadcast.tell at waiting
    dsimp only at waiting
    split at waiting
    · cases sender : b.sender <;> rw [sender] at waiting <;> cases waiting
    · rename_i unchanged
      have empty := accounted.waiting waiting
      rw [empty] at unchanged
      exact List.eq_nil_of_length_eq_zero (Nat.le_zero.mp (Nat.not_lt.mp unchanged))
  · intro woken
    unfold Broadcast.tell at woken
    dsimp only at woken
    split at woken
    · rename_i grew
      intro empty
      have none : scene.history.queue = [] := empty
      rw [none] at grew
      exact Nat.not_lt_zero _ grew
    · have before := accounted.woken woken
      rcases tells_queue tells with ⟨_,queue,_⟩ | ⟨_,queue,_⟩
      · rw [queue]
        exact fun empty => before (List.append_eq_nil_iff.mp empty).1
      · rw [queue]
        exact before
  · have closed : (b.tell scene).closed = b.closed := tells.closed
    rw [closed]
    rintro (done | told_)
    · refine accounted.ended (.inl ?_)
      unfold Broadcast.tell at done
      dsimp only at done
      split at done
      · cases sender : b.sender <;> rw [sender] at done <;> first | rfl | cases done
      · exact done
    · exact accounted.ended (.inr told_)

theorem step_accounted (accounted : Accounted b) (next : step setup b event = some b') : Accounted b' := by
  have idle {sender : Sender Row} (same : b.sender = sender) (none : inFlight sender = []) : b.tried ++ b.queue = b.kept := by
    unfold Broadcast.kept
    rw [same,none,List.append_nil]
  cases step_cases next with
  | history tells => exact accounted.tells tells
  | start absent =>
    have kept : Broadcast.kept {b with sender := .created} = b.kept := by rw [← idle absent rfl]; simp [Broadcast.kept,inFlight,
      Broadcast.tried,Broadcast.queue]
    exact ⟨accounted.numbered,accounted.sequence,kept ▸ accounted.order,kept ▸ accounted.whole,accounted.bounded,nofun,nofun,
      fun ended => accounted.ended (.inr (ended.resolve_left nofun))⟩
  | runs created => exact accounted.takes (run_takes b) (idle created rfl)
  | takes woken => exact accounted.takes (take_takes b) (idle woken rfl)
  | settle publishing =>
    rename_i row outcome arrived possible
    have tried : (b.attempt row arrived).tried = b.tried ++ [row] := List.map_append
    have kept : (b.attempt row arrived).tried ++ (b.attempt row arrived).queue = b.kept := by
      unfold Broadcast.kept
      rw [tried,publishing]
      rfl
    have takes := run_takes (b.attempt row arrived)
    refine ⟨?_,?_,?_,?_,?_,takes.waiting,fun woken => absurd woken takes.awake,?_⟩
    · rw [takes.emitted]
      exact accounted.numbered
    · rw [takes.sequence,takes.emitted]
      exact accounted.sequence
    · rw [takes.kept,kept,takes.emitted]
      exact accounted.order
    · rw [takes.kept,kept,takes.dropped,takes.emitted]
      exact accounted.whole
    · exact takes.shorter.trans accounted.bounded
    · rw [takes.closed,takes.cancelling]
      exact fun ended => ended.elim takes.ended fun told => accounted.ended (.inr told)
  | cut publishing told =>
    rename_i row arrived
    have tried : (b.attempt row arrived).tried = b.tried ++ [row] := List.map_append
    have kept : Broadcast.kept {b.attempt row arrived with sender := .done} = b.kept := by
      unfold Broadcast.kept
      rw [publishing]
      exact congrArg (· ++ b.queue) ((List.append_nil _).trans tried)
    exact ⟨accounted.numbered,accounted.sequence,kept ▸ accounted.order,kept ▸ accounted.whole,accounted.bounded,nofun,nofun,
      fun _ => accounted.ended (.inr told)⟩
  | cancelled resting told =>
    have kept : Broadcast.kept {b with sender := .done} = b.kept := by
      unfold Broadcast.kept
      rw [inFlight_idle resting]
      rfl
    exact ⟨accounted.numbered,accounted.sequence,kept ▸ accounted.order,kept ▸ accounted.whole,accounted.bounded,nofun,nofun,
      fun _ => accounted.ended (.inr told)⟩
  | close cancelling => exact ⟨accounted.numbered,accounted.sequence,accounted.order,accounted.whole,accounted.bounded,
      accounted.waiting,accounted.woken,fun _ => rfl⟩

theorem run_accounted (path : Runs (step setup) allowed (.opening items clock) events b) : Accounted b :=
  path.invariant (fun _ _ _ accounted _ next => step_accounted accounted next) (opening_accounted items clock)

-- The sender's own steps.
def Sending (_ : Broadcast) : Event → Prop
  | .resume | .settle _ _ => True
  | _ => False

-- One that is sending makes its attempt and goes on to the next row.
theorem settle_sends (publishing : b.sender = .publishing row) (open_ : b.closed = false) (arrived : Bool) :
    ∃ outcome, step setup b (.settle outcome arrived) = some (b.attempt row arrived).take := by
  have still : ¬ (b.attempt row arrived).closed = true := by
    have same : (b.attempt row arrived).closed = b.closed := rfl
    rw [same,open_]
    decide
  refine ⟨if arrived then .sent else .timedOut,?_⟩
  simp only [step,publishing,Broadcast.run,if_neg still]
  cases arrived <;> rfl

-- While the history is open the sender works off what waits, whatever becomes of each
-- stream on the way.
theorem drains_queue (publishing : b.sender = .publishing row) (open_ : b.closed = false) (fate : Row → Bool) :
    ∃ events b', Runs (step setup) Sending b events b' ∧ b'.sender = .waiting ∧ b'.queue = [] ∧
      b'.attempts = b.attempts ++ (row :: b.queue).map fun row => (row,fate row) := by
  generalize queued : b.queue = queue
  induction queue generalizing b row with
  | nil =>
    obtain ⟨outcome,settled⟩ := @settle_sends setup b row publishing open_ (fate row)
    have empty : (b.attempt row (fate row)).scene.history.queue = [] := queued
    have waits : (b.attempt row (fate row)).take = {b.attempt row (fate row) with sender := .waiting} := by
      rw [Broadcast.take,empty]
    rw [waits] at settled
    exact ⟨_,_,.single (show Sending b (.settle outcome _) from trivial) settled,rfl,queued,rfl⟩
  | cons first rest ih =>
    obtain ⟨outcome,settled⟩ := @settle_sends setup b row publishing open_ (fate row)
    have more : (b.attempt row (fate row)).scene.history.queue = first :: rest := queued
    have sends : (b.attempt row (fate row)).take.sender = .publishing first := by rw [Broadcast.take,more]
    have left : (b.attempt row (fate row)).take.queue = rest := by
      rw [Broadcast.take,more]
      rfl
    have tried : (b.attempt row (fate row)).take.attempts = b.attempts ++ [(row,fate row)] := by
      rw [Broadcast.take,more]
      rfl
    have takes := take_takes (b.attempt row (fate row))
    obtain ⟨events,b',path,waiting,empty,attempts⟩ := ih sends (takes.closed.trans open_) left
    refine ⟨_,b',path.cons (show Sending b (.settle outcome _) from trivial) settled,waiting,empty,?_⟩
    rw [attempts,tried,List.append_assoc]
    rfl

-- So does one that has been started.
theorem Accounted.drains (accounted : Accounted b) (started : b.sender ≠ .absent) (open_ : b.closed = false) (fate : Row → Bool) :
    ∃ events b', Runs (step setup) Sending b events b' ∧ b'.sender = .waiting ∧ b'.queue = [] ∧
      b'.attempts = b.attempts ++ (inFlight b.sender ++ b.queue).map fun row => (row,fate row) := by
  have live : b.cancelling = false := by
    by_contra told
    have closed := accounted.ended (.inr (by simpa using told))
    rw [open_] at closed
    cases closed
  have begins (resumes : step setup b .resume = some b.take) (none : inFlight b.sender = []) :
      ∃ events b', Runs (step setup) Sending b events b' ∧ b'.sender = .waiting ∧ b'.queue = [] ∧
        b'.attempts = b.attempts ++ (inFlight b.sender ++ b.queue).map fun row => (row,fate row) := by
    have one : Runs (step setup) Sending b [.resume] b.take := .single trivial resumes
    have takes := take_takes b
    rw [none,List.nil_append]
    cases queued : b.queue with
    | nil =>
      have empty : b.scene.history.queue = [] := queued
      have waits : b.take = {b with sender := .waiting} := by rw [Broadcast.take,empty]
      rw [waits] at one
      exact ⟨_,_,one,rfl,queued,(List.append_nil _).symm⟩
    | cons first rest =>
      have more : b.scene.history.queue = first :: rest := queued
      have sends : b.take.sender = .publishing first := by rw [Broadcast.take,more]
      have left : b.take.queue = rest := by
        rw [Broadcast.take,more]
        rfl
      have same : b.take.attempts = b.attempts := by rw [Broadcast.take,more]
      obtain ⟨events,b',path,waiting,empty,attempts⟩ := @drains_queue setup _ _ sends (takes.closed.trans open_) fate
      refine ⟨_,b',one.append path,waiting,empty,?_⟩
      rw [attempts,same,left]
  cases sender : b.sender with
  | absent => exact absurd sender started
  | created =>
    rw [← sender]
    have runs : b.run = b.take := if_neg (by rw [open_]; decide)
    refine begins ?_ (by rw [sender]; rfl)
    simp only [step,sender,live,runs]
  | woken =>
    rw [← sender]
    refine begins ?_ (by rw [sender]; rfl)
    simp only [step,sender,live]
  | waiting =>
    have empty := accounted.waiting sender
    rw [empty]
    exact ⟨[],b,.nil,sender,empty,(List.append_nil _).symm⟩
  | publishing row => exact drains_queue sender open_ fate
  | done =>
    have closed := accounted.ended (.inl sender)
    rw [open_] at closed
    cases closed

-- What holds of the live stream in every state of every run.
structure LiveDelivery (setup : Setup) (b : Broadcast) : Prop where
  numbered : b.scene.emitted.map (·.sequence) = List.range' 1 b.scene.emitted.length
  order : b.kept.Sublist b.scene.emitted
  once : (b.tried.map (·.sequence)).Pairwise (· < ·)
  whole : (b.kept ++ b.dropped).Perm b.scene.emitted
  bounded : b.queue.length ≤ queueSize
  drops : ∀ event b', step setup b event = some b' → b'.dropped ≠ b.dropped → b.queue.length = queueSize
  lasts : b.closed = false → b.sender ≠ .done
  drains : b.closed = false → b.sender ≠ .absent → ∀ fate : Row → Bool, ∃ events b',
    Runs (step setup) Sending b events b' ∧ b'.sender = .waiting ∧ b'.queue = [] ∧
      b'.attempts = b.attempts ++ (inFlight b.sender ++ b.queue).map fun row => (row,fate row)

theorem step_drops (accounted : Accounted b) (next : step setup b event = some b') (more : b'.dropped ≠ b.dropped) :
    b.queue.length = queueSize := by
  cases step_cases next with
  | history tells =>
    rcases tells_queue tells with ⟨_,_,same⟩ | ⟨full,_,_⟩
    · exact absurd same more
    · exact Nat.le_antisymm accounted.bounded (Nat.not_lt.mp full)
  | runs => exact absurd (run_takes b).dropped more
  | takes => exact absurd (take_takes b).dropped more
  | settle => exact absurd (run_takes _).dropped more
  | start | cut | cancelled | close => exact absurd rfl more

-- Every row told is tried once, in the order of the telling, or still to come, or was
-- dropped by a full queue; a failed stream stops nothing.
theorem live_delivery (path : Runs (step setup) Anything (.opening items clock) events b) : LiveDelivery setup b := by
  have accounted := run_accounted path
  refine ⟨accounted.numbered,accounted.order,?_,accounted.whole,accounted.bounded,
    fun _ _ next more => step_drops accounted next more,?_,fun open_ started fate => accounted.drains started open_ fate⟩
  · have tried : b.tried.Sublist b.scene.emitted :=
      ((List.sublist_append_left _ _).trans (List.sublist_append_left _ _)).trans accounted.order
    have rising : (b.scene.emitted.map (·.sequence)).Pairwise (· < ·) := by
      rw [accounted.numbered]
      exact List.pairwise_lt_range'
    exact rising.sublist (tried.map _)
  · intro open_ done
    have closed := accounted.ended (.inl done)
    rw [open_] at closed
    cases closed

-- Two revisions of what a caller says, of which the first is lost.
def sampleRoom : Setup := ⟨verbatim,"b8a4b1a2-6a52-4f0d-9a55-0e6c0b1b8f11","aida-b8a4b1a2-6a52-4f0d-9a55-0e6c0b1b8f11"⟩

def sampleRow (text : String) (sequence : Nat) : Row :=
  ⟨callerSegment (sampleUuid 1),callerSegment (sampleUuid 1),.user,[text],false,sequence⟩

def sampleHistory (row : Row) (queue : List Row) : TranscriptHistory := ⟨row.sequence,[],some row,[],[],queue,false⟩

def firstRow : Row := sampleRow "Can you help" 1
def secondRow : Row := sampleRow "Can you help me" 2

def sampleJoined : Broadcast := ⟨⟨sampleHistory firstRow [firstRow],[],0,[firstRow]⟩,.created,false,[],[]⟩
def sampleEnded : Broadcast :=
  ⟨⟨sampleHistory secondRow [],[],0,[firstRow,secondRow]⟩,.waiting,false,[],[(firstRow,false),(secondRow,true)]⟩

theorem sample_joins : Runs (step sampleRoom) Lively (.opening [] 0)
    [.start,.history (.caller "Can you help" false (sampleUuid 1))] sampleJoined := by
  refine .cons trivial rfl (.single ?_ rfl)
  intro _ _ known
  cases known

theorem sample_ends : Runs (step sampleRoom) Lively sampleJoined
    [.resume,.settle .timedOut false,.history (.caller "Can you help me" false (sampleUuid 2)),.resume,.settle .sent true]
      sampleEnded := by
  refine .cons trivial rfl (.cons trivial rfl (.cons ?_ rfl (.cons trivial rfl (.single trivial rfl))))
  intro _ idle
  cases idle

theorem sample_live : LiveDelivery sampleRoom sampleEnded :=
  live_delivery ((sample_joins.append sample_ends).weaken fun _ _ _ => trivial)

end AidaAgent.Live
