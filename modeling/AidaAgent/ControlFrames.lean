import AidaAgent.ControlSteps

namespace AidaAgent.Control
open JsonText Config

-- The calls and marks that only receive and the stop task make.
def isMilestone : Call → Bool
  | .accepted _ | .stopCreated | .disconnect | .shutdown => true
  | _ => false

-- What audio and announcement work leaves alone.
structure Frame (h h' : Handler) : Prop where
  callId : h'.callId = h.callId
  seen : h'.seen = h.seen
  stopping : h'.stopping = h.stopping
  stopTask : h'.stopTask = h.stopTask
  ready : h'.ready = h.ready
  statements : h'.transferStatement = h.transferStatement ∧ h'.failedStatement = h.failedStatement
  session : h'.session.isSome = h.session.isSome
  calls : ∃ extra, h'.calls = extra ++ h.calls ∧ ∀ c ∈ extra, isMilestone c = false

theorem Frame.refl (h : Handler) : Frame h h := ⟨rfl,rfl,rfl,rfl,rfl,⟨rfl,rfl⟩,rfl,[],rfl,by simp⟩

theorem Frame.trans (first : Frame h middle) (second : Frame middle h') : Frame h h' := by
  obtain ⟨extra,before,plain⟩ := first.calls
  obtain ⟨more,after,also⟩ := second.calls
  refine ⟨second.callId.trans first.callId,second.seen.trans first.seen,second.stopping.trans first.stopping,
    second.stopTask.trans first.stopTask,second.ready.trans first.ready,
    ⟨second.statements.1.trans first.statements.1,second.statements.2.trans first.statements.2⟩,
    second.session.trans first.session,more ++ extra,by rw [after,before,List.append_assoc],?_⟩
  intro c member
  rcases List.mem_append.mp member with late | early
  · exact also c late
  · exact plain c early

theorem frame_call (ordinary : isMilestone c = false) : Frame h (h.call c) :=
  ⟨rfl,rfl,rfl,rfl,rfl,⟨rfl,rfl⟩,rfl,[c],rfl,by simpa using ordinary⟩

theorem frame_input (h : Handler) (enabled : Bool) : Frame h (h.setInput enabled) :=
  ⟨rfl,rfl,rfl,rfl,rfl,⟨rfl,rfl⟩,by simp [Handler.setInput],[.setInput enabled],rfl,by simp [isMilestone]⟩

theorem frame_output (h : Handler) (enabled : Bool) : Frame h (h.setOutput enabled) :=
  ⟨rfl,rfl,rfl,rfl,rfl,⟨rfl,rfl⟩,by simp [Handler.setOutput],[.setOutput enabled],rfl,by simp [isMilestone]⟩

theorem frame_task (h : Handler) (i : Nat) (t : AnnounceTask) : Frame h (h.setTask i t) :=
  ⟨rfl,rfl,rfl,rfl,rfl,⟨rfl,rfl⟩,rfl,[],rfl,by simp⟩

theorem frame_cancel (h : Handler) : Frame h h.cancelAnnouncement := by
  rw [cancel_exact]
  exact ⟨rfl,rfl,rfl,rfl,rfl,⟨rfl,rfl⟩,rfl,[],rfl,by simp⟩

theorem frame_start (h : Handler) (now : Int) : Frame h (h.startAnnouncement now) := by
  by_cases opened : h.ready = true ∧ h.session.isSome = true
  · rw [start_exact h now opened]
    exact ⟨rfl,rfl,rfl,rfl,rfl,⟨rfl,rfl⟩,by simp,[.setOutput false,.setInput false],rfl,by simp [isMilestone]⟩
  · rw [start_closed opened]
    exact .refl h

theorem silencing_ordinary (silencing : isSilencing c = true) : isMilestone c = false := by
  cases c <;> simp [isSilencing,isMilestone] at *

theorem frame_silence (h : Handler) (provider : Provider) : Frame h (h.silence provider).1 := by
  obtain ⟨extra,quiet,exact⟩ := silence_exact h provider
  rw [exact]
  exact ⟨rfl,rfl,rfl,rfl,rfl,⟨rfl,rfl⟩,by simp,extra,rfl,fun c member => silencing_ordinary (quiet c member)⟩

theorem spoken_ordinary (spoken : Bool) : ∀ c ∈ spokenCalls spoken, isMilestone c = false := by
  cases spoken <;> simp [spokenCalls,isMilestone]

theorem frame_finish (h : Handler) (i : Nat) (spoken : Bool) (provider : Provider) :
    Frame h (h.finishAnnounce i spoken provider) := by
  rcases finish_exact h i spoken provider with ⟨_,error,_,exact⟩ | ⟨_,exact⟩ | ⟨_,exact⟩
  · rw [exact]
    exact ⟨rfl,rfl,rfl,rfl,rfl,⟨rfl,rfl⟩,rfl,[.interruptSpeech],rfl,by simp [isMilestone]⟩
  · rw [exact]
    exact ⟨rfl,rfl,rfl,rfl,rfl,⟨rfl,rfl⟩,rfl,spokenCalls spoken,rfl,spoken_ordinary spoken⟩
  · rw [exact]
    refine ⟨rfl,rfl,rfl,rfl,rfl,⟨rfl,rfl⟩,by simp,.setOutput false :: spokenCalls spoken,rfl,?_⟩
    exact List.forall_mem_cons.mpr ⟨rfl,spoken_ordinary spoken⟩

theorem frame_timeout (h : Handler) (i : Nat) : Frame h {h with announcementTimeout := some i} :=
  ⟨rfl,rfl,rfl,rfl,rfl,⟨rfl,rfl⟩,rfl,[],rfl,by simp⟩

theorem frame_announce (next : h.announce i now provider = some h') : Frame h h' := by
  have entered : ∀ t, Frame h {(h.setTask i t).call .interrupt with announcementTimeout := some i} :=
    fun t => ((frame_task h i t).trans (frame_call rfl)).trans (frame_timeout _ i)
  have said : Frame h ((h.setOutput true).call (.sayTransfer h.transferStatement)) :=
    (frame_output h true).trans (frame_call rfl)
  cases announce_cases next with
  | dropped => exact frame_task _ _ _
  | late => exact frame_finish _ _ _ _
  | refused => exact (entered _).trans (frame_finish _ _ _ _)
  | begun => exact entered _
  | silent => exact frame_finish _ _ _ _
  | unsaid => exact said.trans (frame_finish _ _ _ _)
  | said => exact said.trans (frame_task _ _ _)
  | played => exact frame_finish _ _ _ _

theorem frame_expire (next : h.expire i = some h') : Frame h h' := by
  obtain ⟨_,_,rfl⟩ := expire_cases next
  exact frame_task _ _ _

theorem frame_prepare (h : Handler) (remaining : Int) (clock : Clock) : Frame h (h.prepareHandoff remaining clock).1 := by
  have timed : Frame h {h with transferDeadlineMs := clock.second + remaining} :=
    ⟨rfl,rfl,rfl,rfl,rfl,⟨rfl,rfl⟩,rfl,[],rfl,by simp⟩
  unfold Handler.prepareHandoff
  split
  · dsimp only
    split
    · have transferring : Frame h {h with transferDeadlineMs := clock.second + remaining, transferring := true} :=
        ⟨rfl,rfl,rfl,rfl,rfl,⟨rfl,rfl⟩,rfl,[],rfl,by simp⟩
      exact transferring.trans (frame_start _ _)
    · split
      · exact timed
      · split <;> exact timed
  · exact .refl h

theorem frame_requested (h : Handler) (deadline : Int) (clock : Clock) :
    Frame h (h.transferRequested deadline clock).1 := by
  unfold Handler.transferRequested
  split
  · have marked : Frame h {h.call .episode with transferring := true, transferDeadlineMs := deadline} :=
      ⟨rfl,rfl,rfl,rfl,rfl,⟨rfl,rfl⟩,rfl,[.episode],rfl,by simp [isMilestone]⟩
    exact marked.trans (frame_start _ _)
  · exact .refl h

theorem frame_failed (h : Handler) (deadline : Int) (clock : Clock) (provider : Provider) :
    Frame h (h.transferFailed deadline clock provider).1 := by
  have lowered : Frame h {h with transferring := false} := ⟨rfl,rfl,rfl,rfl,rfl,⟨rfl,rfl⟩,rfl,[],rfl,by simp⟩
  have idle := lowered.trans (frame_cancel _)
  have audible := (idle.trans (frame_output _ true)).trans (frame_input _ true)
  have fails := failed_cases h deadline clock provider
  generalize (h.transferFailed deadline clock provider).1 = out at fails ⊢
  cases fails with
  | late => exact .refl h
  | unready => exact idle
  | resumed => exact audible
  | said => exact audible.trans (frame_call rfl)

-- An accepted human_answered keeps to the frame after its mark, but for the stop task.
theorem frame_answers {failure : Option Error} (answers : Answers prepared failure remaining provider result) :
    ∃ middle, Frame prepared middle ∧ (result.1 = middle ∨ ∃ task, result.1 =
      {middle.call .stopCreated with stopTask := some task}) := by
  cases answers with
  | stuck => exact ⟨_,.refl prepared,.inl rfl⟩
  | graceful => exact ⟨_,frame_input prepared false,.inr ⟨_,rfl⟩⟩
  | broken => exact ⟨_,(frame_cancel prepared).trans (frame_silence _ provider),.inl rfl⟩
  | immediate => exact ⟨_,(frame_cancel prepared).trans (frame_silence _ provider),.inr ⟨_,rfl⟩⟩

theorem answered_exact (h : Handler) : h.answered.seen = h.seen ∧ h.answered.callId = h.callId ∧
    h.answered.stopping = true ∧ h.answered.stopTask = h.stopTask ∧ h.answered.ready = h.ready := by
  unfold Handler.answered
  split <;> exact ⟨rfl,rfl,rfl,rfl,rfl⟩

-- The end of the handoff keeps to the frame but for the stop task and the leave.
theorem frame_leave (h : Handler) (escaping : Option Error) (provider : Provider) :
    ∃ middle, Frame h middle ∧ ((∃ error, h.leaveHandoff escaping provider = middle.setStop (.raised error)) ∨
      h.leaveHandoff escaping provider = (middle.call .disconnect).setStop .leaving) := by
  refine ⟨_,(frame_cancel h).trans (frame_silence h.cancelAnnouncement provider),?_⟩
  rcases leave_cases h escaping provider with ⟨error,_,same⟩ | ⟨_,_,same⟩
  · exact .inl ⟨error,same⟩
  · exact .inr same

-- A whole step of receive: what it notes, and what it leaves of the rest.
theorem receive_ready (h : Handler) (packet : Packet) (clock : Clock) (provider : Provider) :
    (h.receive py packet clock provider).1.ready = h.ready := by
  have receives := @receive_cases py h packet clock provider
  generalize h.receive py packet clock provider = result at receives ⊢
  cases receives with
  | refused => rfl
  | @human command =>
    have prepared := frame_prepare (h.note command).answered (remainingMs command.deadlineMs clock) clock
    have answered := (answered_exact (h.note command)).2.2.2.2
    obtain ⟨middle,frame,same | ⟨task,same⟩⟩ :=
      frame_answers (human_cases (h.note command) command.deadlineMs clock provider)
    all_goals
      rw [same]
      exact (frame.ready.trans prepared.ready).trans answered
  | requested => exact (frame_requested _ _ clock).ready
  | failed => exact (frame_failed _ _ clock provider).ready

def Answered (log : List Call) : Prop := ∃ command, .accepted command ∈ log ∧ command.action = .humanAnswered

theorem answered_later (answered : Answered log) : Answered (extra ++ log) := by
  obtain ⟨command,member,human⟩ := answered
  exact ⟨command,List.mem_append_right _ member,human⟩

theorem answered_frame (frame : Frame h h') (answered : Answered h'.calls) : Answered h.calls := by
  obtain ⟨extra,whole,plain⟩ := frame.calls
  obtain ⟨command,member,human⟩ := answered
  rw [whole] at member
  rcases List.mem_append.mp member with new | old
  · have ordinary := plain _ new
    cases ordinary
  · exact ⟨command,old,human⟩

def left (h : Handler) : Nat := match h.stopTask with
  | some ⟨.leaving,_⟩ | some ⟨.ended,_⟩ => 1
  | _ => 0

def past (h : Handler) : Nat := match h.stopTask with
  | some ⟨.ended,_⟩ => 1
  | _ => 0

-- The stop task and the calls that belong to it, which are never made twice.
structure Counted (h : Handler) : Prop where
  stopping : h.stopTask.isSome = true → h.stopping = true
  created : h.calls.count .stopCreated = if h.stopTask.isSome = true then 1 else 0
  disconnected : h.calls.count .disconnect = left h
  shutdown : h.calls.count .shutdown = past h

theorem left_small (h : Handler) : left h ≤ 1 ∧ past h ≤ left h := by
  unfold left past
  split
  · rename_i present; simp [present]
  · rename_i present; simp [present]
  · rename_i ended
    split
    · rename_i present; exact absurd present (ended _)
    · exact ⟨by omega,by omega⟩

theorem milestone_counts {extra log : List Call} (plain : ∀ c ∈ extra, isMilestone c = false)
    (milestone : isMilestone c = true) : (extra ++ log).count c = log.count c := by
  have absent : extra.count c = 0 := List.count_eq_zero.mpr fun member => by
    rw [plain c member] at milestone
    cases milestone
  rw [List.count_append,absent,Nat.zero_add]

theorem counted_frame (counted : Counted h) (stopTask : h'.stopTask = h.stopTask)
    (stopping : h'.stopping = h.stopping)
    (calls : ∃ extra, h'.calls = extra ++ h.calls ∧ ∀ c ∈ extra, isMilestone c = false) : Counted h' := by
  obtain ⟨extra,whole,plain⟩ := calls
  have counts : left h' = left h ∧ past h' = past h := by
    unfold left past
    rw [stopTask]
    exact ⟨rfl,rfl⟩
  refine ⟨?_,?_,?_,?_⟩
  · rw [stopTask,stopping]
    exact counted.stopping
  · rw [whole,milestone_counts plain rfl,stopTask]
    exact counted.created
  · rw [whole,milestone_counts plain rfl,counts.1]
    exact counted.disconnected
  · rw [whole,milestone_counts plain rfl,counts.2]
    exact counted.shutdown

theorem counted_framed (counted : Counted h) (frame : Frame h h') : Counted h' :=
  counted_frame counted frame.stopTask frame.stopping frame.calls

theorem counted_note (counted : Counted h) (command : ControlCommand) : Counted (h.note command) :=
  ⟨counted.stopping,(List.count_cons_of_ne (by simp)).trans counted.created,
    (List.count_cons_of_ne (by simp)).trans counted.disconnected,(List.count_cons_of_ne (by simp)).trans counted.shutdown⟩

theorem counted_answered (counted : Counted h) : Counted h.answered := by
  have stopping : Counted {h with stopping := true} :=
    ⟨fun _ => rfl,counted.created,counted.disconnected,counted.shutdown⟩
  unfold Handler.answered
  split
  · exact stopping
  · exact counted_framed stopping (frame_call rfl)

theorem idle_left {h : Handler} (idle : h.stopTask = none) : left h = 0 ∧ past h = 0 := by
  unfold left past
  rw [idle]
  exact ⟨rfl,rfl⟩

theorem counted_created (counted : Counted h) (idle : h.stopTask = none) (stopping : h.stopping = true)
    (pc : task.pc = .handoff ∨ task.pc = .stop) : Counted {h.call .stopCreated with stopTask := some task} := by
  obtain ⟨neither,nor⟩ := idle_left idle
  obtain ⟨now,cancelled⟩ := task
  have stays : left {h.call .stopCreated with stopTask := some ⟨now,cancelled⟩} = 0 ∧
      past {h.call .stopCreated with stopTask := some ⟨now,cancelled⟩} = 0 := by
    rcases pc with same | same <;> cases same <;> exact ⟨rfl,rfl⟩
  refine ⟨fun _ => stopping,?_,?_,?_⟩
  · have none : h.calls.count .stopCreated = 0 := by
      rw [counted.created,idle]
      rfl
    simp [Handler.call,none]
  · rw [stays.1,← neither,← counted.disconnected]
    exact List.count_cons_of_ne (by simp)
  · rw [stays.2,← nor,← counted.shutdown]
    exact List.count_cons_of_ne (by simp)

theorem running_idle (counted : Counted h) (running : h.stopping = false) : h.stopTask = none := by
  cases present : h.stopTask with
  | none => rfl
  | some task =>
    have stopped := counted.stopping (by rw [present]; rfl)
    rw [running] at stopped
    cases stopped

theorem counted_human (counted : Counted h) (idle : h.stopTask = none) (deadline : Int) (clock : Clock)
    (provider : Provider) : Counted (h.humanAnswered deadline clock provider).1 := by
  obtain ⟨_,_,stopping,stopTask,_⟩ := answered_exact h
  have frame := frame_prepare h.answered (remainingMs deadline clock) clock
  have prepared := counted_framed (counted_answered counted) frame
  have unstarted := frame.stopTask.trans (stopTask.trans idle)
  have stopped := frame.stopping.trans stopping
  have answers := human_cases h deadline clock provider
  generalize h.humanAnswered deadline clock provider = result at answers ⊢
  generalize (h.answered.prepareHandoff (remainingMs deadline clock) clock).1 = p at prepared unstarted stopped answers
  have quiet := (frame_cancel p).trans (frame_silence p.cancelAnnouncement provider)
  cases answers with
  | stuck => exact prepared
  | graceful => exact counted_created (counted_framed prepared (frame_input p false)) unstarted stopped (.inl rfl)
  | broken => exact counted_framed prepared quiet
  | immediate =>
    exact counted_created (counted_framed prepared quiet) (quiet.stopTask.trans unstarted) (quiet.stopping.trans stopped)
      (.inr rfl)

theorem counted_receive (counted : Counted h) (packet : Packet) (clock : Clock) (provider : Provider) :
    Counted (h.receive py packet clock provider).1 := by
  have receives := @receive_cases py h packet clock provider
  generalize h.receive py packet clock provider = result at receives ⊢
  cases receives with
  | refused => exact counted
  | @human command _ _ running =>
    have idle := running_idle counted running
    exact counted_human (counted_note counted command) idle _ clock provider
  | requested => exact counted_framed (counted_note counted _) (frame_requested _ _ clock)
  | failed => exact counted_framed (counted_note counted _) (frame_failed _ _ clock provider)

theorem counted_setStop (counted : Counted h) (started : h.stopTask.isSome = true)
    (counts : left (h.setStop pc) = left h) (ends : past (h.setStop pc) = past h) : Counted (h.setStop pc) :=
  ⟨fun _ => counted.stopping started,counted.created.trans (by rw [if_pos started]; rfl),
    counted.disconnected.trans counts.symm,counted.shutdown.trans ends.symm⟩

theorem counted_disconnect (counted : Counted h) (started : h.stopTask.isSome = true)
    (staying : left h = 0 ∧ past h = 0) : Counted ((h.call .disconnect).setStop .leaving) := by
  refine ⟨fun _ => counted.stopping started,?_,?_,?_⟩
  · refine (List.count_cons_of_ne (by simp)).trans (counted.created.trans ?_)
    rw [if_pos started]
    rfl
  · have none : h.calls.count .disconnect = 0 := counted.disconnected.trans staying.1
    simp [Handler.call,Handler.setStop,left,none]
  · exact (List.count_cons_of_ne (by simp)).trans (counted.shutdown.trans staying.2)

theorem counted_shutdown (counted : Counted h) (leaving : h.stopTask = some ⟨.leaving,cancelled⟩) :
    Counted ((h.call .shutdown).setStop .ended) := by
  have started : h.stopTask.isSome = true := by rw [leaving]; rfl
  refine ⟨fun _ => counted.stopping started,?_,?_,?_⟩
  · refine (List.count_cons_of_ne (by simp)).trans (counted.created.trans ?_)
    rw [if_pos started]
    rfl
  · refine (List.count_cons_of_ne (by simp)).trans (counted.disconnected.trans ?_)
    rw [left,leaving]
    rfl
  · have none : h.calls.count .shutdown = 0 := by
      rw [counted.shutdown,past,leaving]
    simp [Handler.call,Handler.setStop,past,none]

-- Where the stop task stands tells whether the room has been left.
theorem early_left (present : h.stopTask = some task) (pc : task.pc ≠ .leaving ∧ task.pc ≠ .ended) :
    left h = 0 ∧ past h = 0 := by
  obtain ⟨now,cancelled⟩ := task
  unfold left past
  rw [present]
  cases now <;> simp at pc ⊢

theorem escapes_early (escapes : Escapes h task wake escaping) : task.pc ≠ .leaving ∧ task.pc ≠ .ended ∧ task.pc ≠ .stop := by
  rcases escapes with ⟨_,pc,_⟩ | ⟨i,pc,_⟩
  all_goals
    rw [pc]
    simp

theorem counted_leave (counted : Counted h) (started : h.stopTask.isSome = true) (staying : left h = 0 ∧ past h = 0)
    (escaping : Option Error) (provider : Provider) : Counted (h.leaveHandoff escaping provider) := by
  have frame := (frame_cancel h).trans (frame_silence h.cancelAnnouncement provider)
  have silenced := counted_framed counted frame
  have still : left (h.cancelAnnouncement.silence provider).1 = 0 ∧ past (h.cancelAnnouncement.silence provider).1 = 0 := by
    unfold left past at staying ⊢
    rw [frame.stopTask]
    exact staying
  have started' := (congrArg Option.isSome frame.stopTask).trans started
  rcases leave_cases h escaping provider with ⟨_,_,same⟩ | ⟨_,_,same⟩
  · rw [same]
    exact counted_setStop silenced started' still.1.symm still.2.symm
  · rw [same]
    exact counted_disconnect silenced started' still

theorem counted_stop (counted : Counted h) (next : h.stop wake provider = some h') : Counted h' := by
  have started : ∀ {task}, h.stopTask = some task → h.stopTask.isSome = true := fun present => by rw [present]; rfl
  cases stop_cases next with
  | @dropped task present pc =>
    have early := early_left present (by rcases pc with same | same <;> rw [same] <;> simp)
    exact counted_setStop counted (started present) early.1.symm early.2.symm
  | @waits task _ present pc =>
    have early := early_left present (by rw [pc]; simp)
    exact counted_setStop counted (started present) early.1.symm early.2.symm
  | leaves present escapes =>
    have pc := escapes_early escapes
    exact counted_leave counted (started present) (early_left present ⟨pc.1,pc.2.1⟩) _ provider
  | disconnects present pc => exact counted_disconnect counted (started present) (early_left present (by rw [pc]; simp))
  | @ends task present pc =>
    obtain ⟨_,cancelled⟩ := task
    cases pc
    exact counted_shutdown counted present

theorem counted_step (counted : Counted h) (next : step py h event = some h') : Counted h' := by
  cases event with
  | packet packet clock provider => cases next; exact counted_receive counted packet clock provider
  | activate now =>
    cases next
    have ready : Counted {h with ready := true} := counted_frame counted rfl rfl ⟨[],rfl,by simp⟩
    have enables := enable_cases h now
    generalize h.enable now = out at enables ⊢
    cases enables with
    | announces => exact counted_framed ready (frame_start _ now)
    | waits => exact ready
    | converses => exact counted_framed ready ((frame_output _ true).trans (frame_input _ true))
  | announce i now provider => exact counted_framed counted (frame_announce next)
  | expire i => exact counted_framed counted (frame_expire next)
  | stop wake provider => exact counted_stop counted next
  | cancelStop =>
    obtain ⟨⟨pc,cancelled⟩,present,_,rfl⟩ := cancelStop_cases next
    refine ⟨fun _ => counted.stopping (by rw [present]; rfl),?_,?_,?_⟩
    · exact counted.created.trans (by rw [present]; rfl)
    · refine counted.disconnected.trans ?_
      rw [left,left,present]
      cases pc <;> rfl
    · refine counted.shutdown.trans ?_
      rw [past,past,present]
      cases pc <;> rfl
  | close => cases next; exact counted_framed counted (frame_cancel h)

theorem initial_counted : Counted (Handler.initial callId session failed transfer ready) :=
  ⟨(fun none => by cases none),rfl,rfl,rfl⟩

end AidaAgent.Control
