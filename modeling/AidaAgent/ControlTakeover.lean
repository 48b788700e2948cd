import AidaAgent.ControlCommands
import AidaAgent.Library.Chronicle

namespace AidaAgent.Control
open JsonText Config Transitions Chronicle

-- Which call may follow which: the room is left and the job shut down after an
-- accepted human_answered, and nothing is enabled once the room is left.
def Follows (call : Call) (older : List Call) : Prop :=
  ((call = .disconnect ∨ call = .shutdown) → Answered older) ∧
    ((call = .setInput true ∨ call = .setOutput true) → .disconnect ∉ older)

-- The stop task has left the handoff behind: the session has been silenced.
def Quieted (h : Handler) : Prop :=
  ∃ task, h.stopTask = some task ∧ (task.pc = .stop ∨ task.pc = .leaving ∨ task.pc = .ended)

def Silent (h : Handler) : Prop :=
  h.announcementTask = none ∧ ∀ s, h.session = some s → s.input = false ∧ s.output = false

structure Orderly (h : Handler) : Prop where
  tidy : Tidy h
  counted : Counted h
  answered : h.stopping = true → Answered h.calls
  silent : Quieted h → Silent h
  kept : Kept Follows h.calls

theorem idle_unquieted {h : Handler} (idle : h.stopTask = none) : ¬ Quieted h := by
  rintro ⟨task,present,_⟩
  rw [idle] at present
  cases present

theorem disconnected_task (counted : Counted h) (gone : .disconnect ∈ h.calls) : ∃ task, h.stopTask = some task ∧
    (task.pc = .leaving ∨ task.pc = .ended) := by
  have positive := List.count_pos_iff.mpr gone
  rw [counted.disconnected,left] at positive
  split at positive
  · rename_i present; exact ⟨_,present,.inl rfl⟩
  · rename_i present; exact ⟨_,present,.inr rfl⟩
  · omega

theorem not_disconnected (counted : Counted h) (loud : ¬ Quieted h) : .disconnect ∉ h.calls := by
  intro gone
  obtain ⟨task,present,pc⟩ := disconnected_task counted gone
  exact loud ⟨task,present,.inr pc⟩

-- Audio and announcement work, which enables nothing in a quieted handler.
theorem orderly_frame (orderly : Orderly h) (tidy : Tidy h') (stopTask : h'.stopTask = h.stopTask)
    (stopping : h'.stopping = h.stopping) (silent : Quieted h → Silent h')
    (calls : ∃ extra, h'.calls = extra ++ h.calls ∧ ∀ c ∈ extra, isMilestone c = false ∧
      (Quieted h → c ≠ .setInput true ∧ c ≠ .setOutput true)) : Orderly h' := by
  obtain ⟨extra,whole,plain⟩ := calls
  have milestones := fun c member => (plain c member).1
  refine ⟨tidy,counted_frame orderly.counted stopTask stopping ⟨extra,whole,milestones⟩,?_,?_,?_⟩
  · rw [whole,stopping]
    exact fun stopped => answered_later (orderly.answered stopped)
  · rw [Quieted,stopTask]
    exact silent
  · rw [whole]
    apply kept_append orderly.kept
    intro c member middle inside
    constructor
    · rintro (same | same)
      all_goals
        have ordinary := milestones c member
        rw [same] at ordinary
        cases ordinary
    · intro enables found
      have loud : ¬ Quieted h := by
        intro quieted
        obtain ⟨input,output⟩ := (plain c member).2 quieted
        rcases enables with same | same
        · exact input same
        · exact output same
      rcases List.mem_append.mp found with early | late
      · have ordinary := milestones _ (inside _ early)
        cases ordinary
      · exact not_disconnected orderly.counted loud late

theorem orderly_framed (orderly : Orderly h) (loud : ¬ Quieted h) (frame : Frame h h') (tidy : Tidy h') : Orderly h' := by
  obtain ⟨extra,whole,plain⟩ := frame.calls
  exact orderly_frame orderly tidy frame.stopTask frame.stopping (fun quieted => absurd quieted loud)
    ⟨extra,whole,fun c member => ⟨plain c member,fun quieted => absurd quieted loud⟩⟩

-- A milestone other than the leave and the shutdown.
theorem orderly_call (orderly : Orderly h) (tidy : Tidy h') (counted : Counted h') (calls : h'.calls = c :: h.calls)
    (stopping : h'.stopping = h.stopping) (silent : Quieted h' → Silent h')
    (marks : c = .stopCreated ∨ ∃ command, c = .accepted command) : Orderly h' := by
  refine ⟨tidy,counted,?_,silent,?_⟩
  · rw [stopping,calls]
    exact fun stopped => @answered_later _ ([_]) (orderly.answered stopped)
  · rw [calls]
    rcases marks with rfl | ⟨command,rfl⟩
    all_goals exact ⟨⟨by simp,by simp⟩,orderly.kept⟩

theorem note_orderly (orderly : Orderly h) (command : ControlCommand) : Orderly (h.note command) :=
  orderly_call orderly (tidy_same orderly.tidy rfl rfl rfl rfl rfl) (counted_note orderly.counted command) rfl rfl
    orderly.silent (.inr ⟨command,rfl⟩)

-- human_answered marks the handler as stopping before anything else.
theorem answered_orderly (orderly : Orderly h) (idle : h.stopTask = none) (answered : Answered h.calls) :
    Orderly h.answered := by
  have counted : Counted {h with stopping := true} :=
    ⟨fun _ => rfl,orderly.counted.created,orderly.counted.disconnected,orderly.counted.shutdown⟩
  have stopping : Orderly {h with stopping := true} :=
    ⟨tidy_same orderly.tidy rfl rfl rfl rfl rfl,counted,fun _ => answered,orderly.silent,orderly.kept⟩
  unfold Handler.answered
  split
  · exact stopping
  · exact orderly_framed stopping (idle_unquieted idle) (frame_call rfl) (tidy_same stopping.tidy rfl rfl rfl rfl rfl)

-- The one stop task is created, in a silent handler where it leaves at once.
theorem created_orderly (orderly : Orderly h) (idle : h.stopTask = none) (stopping : h.stopping = true)
    (pc : task.pc = .handoff ∨ task.pc = .stop) (silent : task.pc = .stop → Silent h) :
    Orderly {h.call .stopCreated with stopTask := some task} := by
  refine orderly_call orderly (tidy_same orderly.tidy rfl rfl rfl rfl rfl)
    (counted_created orderly.counted idle stopping pc) rfl rfl ?_ (.inl rfl)
  rintro ⟨same,present,at_⟩
  cases Option.some.inj present
  rcases pc with handoff | stop
  · rw [handoff] at at_
    rcases at_ with at_ | at_ | at_ <;> cases at_
  · exact silent stop

theorem cancel_silent (h : Handler) (provider : Provider) : Silent (h.cancelAnnouncement.silence provider).1 := by
  obtain ⟨extra,_,exact⟩ := silence_exact h.cancelAnnouncement provider
  rw [exact,cancel_exact]
  refine ⟨rfl,fun s present => ?_⟩
  obtain ⟨_,_,rfl⟩ := Option.map_eq_some_iff.mp present
  exact ⟨rfl,rfl⟩

theorem human_orderly (orderly : Orderly h) (idle : h.stopTask = none) (answered : Answered h.calls)
    (deadline : Int) (clock : Clock) (provider : Provider) : Orderly (h.humanAnswered deadline clock provider).1 := by
  obtain ⟨_,_,stopping,stopTask,_⟩ := answered_exact h
  have marked := answered_orderly orderly idle answered
  have frame := frame_prepare h.answered (remainingMs deadline clock) clock
  have prepared := orderly_framed marked (idle_unquieted (stopTask.trans idle)) frame
    (tidy_prepare marked.tidy (remainingMs deadline clock) clock)
  have unstarted := frame.stopTask.trans (stopTask.trans idle)
  have stopped := frame.stopping.trans stopping
  have answers := human_cases h deadline clock provider
  generalize h.humanAnswered deadline clock provider = result at answers ⊢
  generalize (h.answered.prepareHandoff (remainingMs deadline clock) clock).1 = p at frame prepared unstarted stopped answers
  have quiet := (frame_cancel p).trans (frame_silence p.cancelAnnouncement provider)
  have silenced := orderly_framed prepared (idle_unquieted unstarted) quiet (tidy_silence (tidy_cancel prepared.tidy) provider)
  cases answers with
  | stuck => exact prepared
  | graceful =>
    have muted := orderly_framed prepared (idle_unquieted unstarted) (frame_input p false)
      (tidy_audio prepared.tidy (fun s => {s with input := false}) [.setInput false])
    exact created_orderly muted unstarted stopped (.inl rfl) fun none => by cases none
  | broken => exact silenced
  | immediate =>
    exact created_orderly silenced (quiet.stopTask.trans unstarted) (quiet.stopping.trans stopped) (.inr rfl)
      fun _ => cancel_silent p provider

theorem receive_orderly (orderly : Orderly h) (packet : Packet) (clock : Clock) (provider : Provider) :
    Orderly (h.receive py packet clock provider).1 := by
  have noted := note_orderly orderly
  have unstarted := running_idle orderly.counted
  have receives := @receive_cases py h packet clock provider
  generalize h.receive py packet clock provider = result at receives ⊢
  cases receives with
  | refused => exact orderly
  | @human command _ _ running action =>
    exact human_orderly (noted command) (unstarted running) ⟨command,by simp [Handler.note,Handler.call],action⟩
      _ clock provider
  | requested _ _ running =>
    exact orderly_framed (noted _) (idle_unquieted (unstarted running)) (frame_requested _ _ clock)
      (tidy_requested (noted _).tidy _ clock)
  | failed _ _ running =>
    exact orderly_framed (noted _) (idle_unquieted (unstarted running)) (frame_failed _ _ clock provider)
      (tidy_failed (noted _).tidy _ clock provider)

theorem enable_orderly (orderly : Orderly h) (running : h.stopping = false) (now : Int) : Orderly (h.enable now) := by
  have unstarted := running_idle orderly.counted running
  have loud : ¬ Quieted {h with ready := true} := idle_unquieted unstarted
  have ready : Orderly {h with ready := true} :=
    orderly_frame orderly (tidy_same orderly.tidy rfl rfl rfl rfl rfl) rfl rfl orderly.silent ⟨[],rfl,by simp⟩
  have tidy := tidy_enable orderly.tidy now
  have enables := enable_cases h now
  generalize h.enable now = out at enables tidy ⊢
  cases enables with
  | announces => exact orderly_framed ready loud (frame_start _ now) tidy
  | waits => exact ready
  | converses => exact orderly_framed ready loud ((frame_output _ true).trans (frame_input _ true)) tidy

-- Later steps of cancelled announcements leave a silent handler silent.
theorem announce_orderly (orderly : Orderly h) (next : h.announce i now provider = some h') : Orderly h' := by
  have tidy := tidy_announce orderly.tidy next
  have frame := frame_announce next
  by_cases quieted : Quieted h
  · have silent := orderly.silent quieted
    have live : (h.tasks i).pc ≠ .done := by
      intro done
      unfold Handler.announce at next
      simp [done] at next
    have cancelled := orderly.tidy.obsolete i (by rw [silent.1]; simp) live
    obtain ⟨session,current,calls⟩ := obsolete_silent orderly.tidy cancelled next
    refine orderly_frame orderly tidy frame.stopTask frame.stopping (fun _ => ⟨current.trans silent.1,?_⟩) ?_
    · rw [session]
      exact silent.2
    · rcases calls with same | more
      · exact ⟨[],same,by simp⟩
      · exact ⟨[.interruptSpeech],more,by simp [isMilestone]⟩
  · exact orderly_framed orderly quieted frame tidy

-- The steps of the stop task itself.
theorem setStop_orderly (orderly : Orderly h) (counted : Counted (h.setStop pc))
    (silent : Quieted (h.setStop pc) → Silent h) : Orderly (h.setStop pc) :=
  ⟨tidy_same orderly.tidy rfl rfl rfl rfl rfl,counted,orderly.answered,silent,orderly.kept⟩

theorem last_orderly (orderly : Orderly h) (stopping : h.stopping = true) (silent : Silent h)
    (last : c = .disconnect ∨ c = .shutdown) (counted : Counted ((h.call c).setStop pc)) :
    Orderly ((h.call c).setStop pc) := by
  refine ⟨tidy_same orderly.tidy rfl rfl rfl rfl rfl,counted,fun _ => ?_,fun _ => silent,⟨?_,?_⟩,orderly.kept⟩
  · exact @answered_later _ ([_]) (orderly.answered stopping)
  · exact fun _ => orderly.answered stopping
  · rcases last with rfl | rfl <;> simp

theorem leave_orderly (orderly : Orderly h) (started : h.stopTask.isSome = true) (loud : ¬ Quieted h)
    (escaping : Option Error) (provider : Provider) (counted : Counted (h.leaveHandoff escaping provider)) :
    Orderly (h.leaveHandoff escaping provider) := by
  have frame := (frame_cancel h).trans (frame_silence h.cancelAnnouncement provider)
  have silenced := orderly_framed orderly loud frame (tidy_silence (tidy_cancel orderly.tidy) provider)
  have silent := cancel_silent h provider
  rcases leave_cases h escaping provider with ⟨_,_,same⟩ | ⟨_,_,same⟩
  · rw [same] at counted ⊢
    exact setStop_orderly silenced counted fun _ => silent
  · rw [same] at counted ⊢
    exact last_orderly silenced (frame.stopping.trans (orderly.counted.stopping started)) silent (.inl rfl) counted

theorem stop_orderly (orderly : Orderly h) (next : h.stop wake provider = some h') : Orderly h' := by
  have counted := counted_stop orderly.counted next
  have started : ∀ {task}, h.stopTask = some task → h.stopTask.isSome = true := fun present => by rw [present]; rfl
  have stopping := fun {task} (present : h.stopTask = some task) => orderly.counted.stopping (started present)
  have unquieted : ∀ {task}, h.stopTask = some task → task.pc ≠ .leaving ∧ task.pc ≠ .ended ∧ task.pc ≠ .stop →
      ¬ Quieted h := by
    rintro task present ⟨leaving,ended,stop⟩ ⟨_,same,pc⟩
    rw [present] at same
    cases same
    rcases pc with pc | pc | pc
    · exact stop pc
    · exact leaving pc
    · exact ended pc
  cases stop_cases next with
  | dropped =>
    refine setStop_orderly orderly counted ?_
    rintro ⟨_,same,pc⟩
    cases Option.some.inj same
    rcases pc with pc | pc | pc <;> cases pc
  | waits =>
    refine setStop_orderly orderly counted ?_
    rintro ⟨_,same,pc⟩
    cases Option.some.inj same
    rcases pc with pc | pc | pc <;> cases pc
  | leaves present escapes =>
    exact leave_orderly orderly (started present) (unquieted present (escapes_early escapes)) _ provider counted
  | disconnects present pc =>
    exact last_orderly orderly (stopping present) (orderly.silent ⟨_,present,.inl pc⟩) (.inl rfl) counted
  | ends present pc =>
    exact last_orderly orderly (stopping present) (orderly.silent ⟨_,present,.inr (.inl pc)⟩) (.inr rfl) counted

theorem cancelStop_orderly (orderly : Orderly h) (counted : Counted h') (next : h.cancelStop = some h') : Orderly h' := by
  obtain ⟨task,present,_,rfl⟩ := cancelStop_cases next
  refine ⟨tidy_same orderly.tidy rfl rfl rfl rfl rfl,counted,orderly.answered,?_,orderly.kept⟩
  rintro ⟨_,same,pc⟩
  cases Option.some.inj same
  exact orderly.silent ⟨_,present,pc⟩

-- The owner activates no handler that is stopping.
def Owned (h : Handler) : Event → Prop
  | .activate _ => h.stopping = false
  | _ => True

theorem step_orderly (orderly : Orderly h) (owned : Owned h event) (next : step py h event = some h') : Orderly h' := by
  cases event with
  | packet packet clock provider => cases next; exact receive_orderly orderly packet clock provider
  | activate now => cases next; exact enable_orderly orderly owned now
  | announce i now provider => exact announce_orderly orderly next
  | expire i =>
    have tidy := tidy_expire orderly.tidy next
    obtain ⟨_,_,rfl⟩ := expire_cases next
    exact orderly_frame orderly tidy rfl rfl orderly.silent ⟨[],rfl,by simp⟩
  | stop wake provider => exact stop_orderly orderly next
  | cancelStop => exact cancelStop_orderly orderly (@counted_step _ py _ _ orderly.counted next) next
  | close =>
    cases next
    have tidy := tidy_cancel orderly.tidy
    rw [Handler.close]
    rw [cancel_exact] at tidy ⊢
    exact orderly_frame orderly tidy rfl rfl (fun quieted => ⟨rfl,(orderly.silent quieted).2⟩) ⟨[],rfl,by simp⟩

theorem initial_orderly : Orderly (Handler.initial callId session failed transfer ready) := by
  refine ⟨initial_tidy,initial_counted,(fun none => by cases none),?_,trivial⟩
  rintro ⟨_,none,_⟩
  cases none

-- An episode of the transfer allows one start of its statement.
def opensEpisode (c : Call) : Bool := c = .episode

def startsStatement : Call → Bool
  | .sayTransfer _ => true
  | _ => false

def plainVoice (c : Call) : Prop := opensEpisode c = false ∧ startsStatement c = false

def heard (h : Handler) : Bool := spent opensEpisode startsStatement h.calls

-- The current announcement has its start of the statement still to come.
def Armed (h : Handler) : Prop :=
  ∃ i, h.announcementTask = some i ∧ ((h.tasks i).pc = .created ∨ (h.tasks i).pc = .interrupting)

structure Voice (h : Handler) : Prop where
  tidy : Tidy h
  rationed : Rationed opensEpisode startsStatement h.calls
  armed : Armed h → heard h = false
  pending : h.ready = false → h.announcementTask = none ∧ (h.transferring = true → heard h = false)

theorem voice_same (voice : Voice h) (tidy : Tidy h')
    (calls : ∃ extra, h'.calls = extra ++ h.calls ∧ ∀ c ∈ extra, plainVoice c) (armed : Armed h' → Armed h)
    (pending : h'.ready = false → h.ready = false ∧ h'.announcementTask = none ∧
      (h'.transferring = true → h.transferring = true)) : Voice h' := by
  obtain ⟨extra,whole,plain⟩ := calls
  have same : heard h' = heard h := by
    rw [heard,whole,spent_plain plain]
    rfl
  refine ⟨tidy,?_,?_,?_⟩
  · rw [whole]
    exact rationed_plain voice.rationed fun c member => (plain c member).2
  · rw [same]
    exact fun now => voice.armed (armed now)
  · rw [same]
    intro unready
    obtain ⟨before,idle,transferring⟩ := pending unready
    exact ⟨idle,fun now => (voice.pending before).2 (transferring now)⟩

theorem episode_rationed (rationed : Rationed opensEpisode startsStatement log) :
    Rationed opensEpisode startsStatement (.episode :: log) :=
  ⟨(fun used => by cases used),rationed⟩

-- A fresh episode lets anything be announced.
theorem voice_open (rationed : Rationed opensEpisode startsStatement h.calls) (tidy : Tidy h)
    (fresh : heard h = false) (idle : h.ready = false → h.announcementTask = none) : Voice h :=
  ⟨tidy,rationed,fun _ => fresh,fun unready => ⟨idle unready,fun _ => fresh⟩⟩

theorem start_voice (rationed : Rationed opensEpisode startsStatement h.calls) (tidy : Tidy h) (fresh : heard h = false)
    (idle : h.ready = false → h.announcementTask = none) (now : Int) : Voice (h.startAnnouncement now) := by
  have started := tidy_start tidy now
  by_cases opened : h.ready = true ∧ h.session.isSome = true
  · rw [start_exact h now opened] at started ⊢
    have plain : ∀ c ∈ [Call.setOutput false,.setInput false], plainVoice c := by simp [plainVoice,opensEpisode,startsStatement]
    refine voice_open (@rationed_plain _ _ _ _ ([_,_]) rationed fun c member => (plain c member).2) started
      ((@spent_plain _ _ _ ([_,_]) _ plain).trans fresh) fun unready => ?_
    rw [show _ = false from unready] at opened
    cases opened.1
  · rw [start_closed opened]
    exact voice_open rationed tidy fresh idle

theorem silencing_plain (silencing : isSilencing c = true) : plainVoice c := by
  cases c <;> simp [isSilencing,plainVoice,opensEpisode,startsStatement] at *

theorem unarmed {h : Handler} (idle : h.announcementTask = none) : ¬ Armed h := by
  rintro ⟨i,current,_⟩
  rw [idle] at current
  cases current

theorem cancel_voice (voice : Voice h) : Voice h.cancelAnnouncement := by
  refine voice_same voice (tidy_cancel voice.tidy) ⟨[],?_,by simp⟩ (fun armed => absurd armed (unarmed (cancel_idle h))) ?_
  · rw [cancel_exact]
    rfl
  · intro unready
    refine ⟨(cancel_ready h).1.symm.trans unready,cancel_idle h,?_⟩
    rw [cancel_exact]
    exact id

theorem silence_voice (voice : Voice h) (provider : Provider) : Voice (h.silence provider).1 := by
  have tidy := tidy_silence voice.tidy provider
  obtain ⟨extra,quiet,exact⟩ := silence_exact h provider
  rw [exact] at tidy ⊢
  exact voice_same voice tidy ⟨extra,rfl,fun c member => silencing_plain (quiet c member)⟩ id
    fun unready => ⟨unready,(voice.pending unready).1,id⟩

-- Calls that start no episode and no statement.
theorem calls_voice (voice : Voice h) (tidy : Tidy h') (current : h'.announcementTask = h.announcementTask)
    (tasks : h'.tasks = h.tasks) (ready : h'.ready = h.ready) (transferring : h'.transferring = h.transferring)
    (calls : ∃ extra, h'.calls = extra ++ h.calls ∧ ∀ c ∈ extra, plainVoice c) : Voice h' := by
  refine voice_same voice tidy calls ?_ ?_
  · rw [Armed,Armed,current,tasks]
    exact id
  · rw [ready,current,transferring]
    exact fun unready => ⟨unready,(voice.pending unready).1,id⟩

theorem requested_voice (voice : Voice h) (deadline : Int) (clock : Clock) :
    Voice (h.transferRequested deadline clock).1 := by
  unfold Handler.transferRequested
  split
  · exact start_voice (h := {h.call .episode with transferring := true, transferDeadlineMs := deadline})
      (episode_rationed voice.rationed) (tidy_same voice.tidy rfl rfl rfl rfl rfl) rfl
      (fun unready => (voice.pending unready).1) clock.second
  · exact voice

theorem failed_voice (voice : Voice h) (deadline : Int) (clock : Clock) (provider : Provider) :
    Voice (h.transferFailed deadline clock provider).1 := by
  have tidy := tidy_failed voice.tidy deadline clock provider
  have idle : Voice ({h with transferring := false} : Handler).cancelAnnouncement :=
    cancel_voice (voice_same voice (tidy_same voice.tidy rfl rfl rfl rfl rfl) ⟨[],rfl,by simp⟩ id
      fun unready => ⟨unready,(voice.pending unready).1,fun none => by cases none⟩)
  have fails := failed_cases h deadline clock provider
  generalize (h.transferFailed deadline clock provider).1 = out at fails tidy ⊢
  cases fails with
  | late => exact voice
  | unready => exact idle
  | resumed =>
    exact calls_voice idle tidy rfl rfl rfl rfl ⟨[_,_],rfl,by simp [plainVoice,opensEpisode,startsStatement]⟩
  | said =>
    exact calls_voice idle tidy rfl rfl rfl rfl ⟨[_,_,_],rfl,by simp [plainVoice,opensEpisode,startsStatement]⟩

-- human_answered announces only where it opened an episode of its own.
theorem answered_voice (voice : Voice h) : Voice h.answered ∧ (h.answered.transferring = false → heard h.answered = false) := by
  have tidy : Tidy {h with stopping := true} := tidy_same voice.tidy rfl rfl rfl rfl rfl
  unfold Handler.answered
  split
  · rename_i transferring
    refine ⟨calls_voice voice tidy rfl rfl rfl rfl ⟨[],rfl,by simp⟩,fun idle => ?_⟩
    rw [show _ = false from idle] at transferring
    cases transferring
  · exact ⟨voice_open (h := ({h with stopping := true} : Handler).call .episode) (episode_rationed voice.rationed)
      (tidy_same tidy rfl rfl rfl rfl rfl) rfl fun unready => (voice.pending unready).1,fun _ => rfl⟩

theorem prepare_voice (voice : Voice h) (open_ : h.transferring = false → heard h = false) (remaining : Int)
    (clock : Clock) : Voice (h.prepareHandoff remaining clock).1 := by
  have tidy := tidy_prepare voice.tidy remaining clock
  rcases prepare_cases h remaining clock with ⟨deadline,exact⟩ | ⟨_,_,idle,deadline,exact⟩
  · rw [exact] at tidy ⊢
    exact calls_voice voice tidy rfl rfl rfl rfl ⟨[],rfl,by simp⟩
  · rw [exact]
    exact start_voice (h := {h with transferDeadlineMs := deadline, transferring := true}) voice.rationed
      (tidy_same voice.tidy rfl rfl rfl rfl rfl) (open_ idle) (fun unready => (voice.pending unready).1) clock.third

theorem human_voice (voice : Voice h) (deadline : Int) (clock : Clock) (provider : Provider) :
    Voice (h.humanAnswered deadline clock provider).1 := by
  obtain ⟨answered,open_⟩ := answered_voice voice
  have prepared := prepare_voice answered open_ (remainingMs deadline clock) clock
  have tidy := tidy_human voice.tidy deadline clock provider
  have answers := human_cases h deadline clock provider
  generalize h.humanAnswered deadline clock provider = result at answers tidy ⊢
  generalize (h.answered.prepareHandoff (remainingMs deadline clock) clock).1 = p at prepared answers
  have silenced := silence_voice (cancel_voice prepared) provider
  cases answers with
  | stuck => exact prepared
  | graceful =>
    exact calls_voice prepared tidy rfl rfl rfl rfl ⟨[_,_],rfl,by simp [plainVoice,opensEpisode,startsStatement]⟩
  | broken => exact silenced
  | immediate =>
    exact calls_voice silenced tidy rfl rfl rfl rfl ⟨[_],rfl,by simp [plainVoice,opensEpisode,startsStatement]⟩

theorem receive_voice (voice : Voice h) (packet : Packet) (clock : Clock) (provider : Provider) :
    Voice (h.receive py packet clock provider).1 := by
  have noted : ∀ command, Voice (h.note command) := fun command =>
    calls_voice voice (tidy_same voice.tidy rfl rfl rfl rfl rfl) rfl rfl rfl rfl
      ⟨[_],rfl,by simp [plainVoice,opensEpisode,startsStatement]⟩
  have receives := @receive_cases py h packet clock provider
  generalize h.receive py packet clock provider = result at receives ⊢
  cases receives with
  | refused => exact voice
  | human => exact human_voice (noted _) _ clock provider
  | requested => exact requested_voice (noted _) _ clock
  | failed => exact failed_voice (noted _) _ clock provider

-- The first activation starts the statement of a transfer that is still open.
theorem enable_voice (voice : Voice h) (unready : h.ready = false) (now : Int) : Voice (h.enable now) := by
  obtain ⟨idle,open_⟩ := voice.pending unready
  have tidy := tidy_enable voice.tidy now
  have ready : ∀ {out : Handler}, Tidy out → out.announcementTask = none → out.ready = true →
      (∃ extra, out.calls = extra ++ h.calls ∧ ∀ c ∈ extra, plainVoice c) → Voice out := by
    intro out tidied none ready calls
    refine voice_same voice tidied calls (fun armed => absurd armed (unarmed none)) fun unready' => ?_
    rw [ready] at unready'
    cases unready'
  have enables := enable_cases h now
  generalize h.enable now = out at enables tidy ⊢
  cases enables with
  | announces transferring =>
    exact start_voice (h := {h with ready := true}) voice.rationed (tidy_same voice.tidy rfl rfl rfl rfl rfl)
      (open_ transferring) (fun none => by cases none) now
  | waits => exact ready tidy idle rfl ⟨[],rfl,by simp⟩
  | converses => exact ready tidy idle rfl ⟨[_,_],rfl,by simp [plainVoice,opensEpisode,startsStatement]⟩

theorem finish_voice (rationed : Rationed opensEpisode startsStatement h.calls) (tidy : Tidy h)
    (armed : h.announcementTask ≠ some i → Armed h → heard h = false)
    (pending : h.ready = false → h.announcementTask = none ∧ (h.transferring = true → heard h = false))
    (spoken : Bool) (provider : Provider) : Voice (h.finishAnnounce i spoken provider) := by
  have tidied := tidy_finish tidy i spoken provider
  have plain : ∀ c ∈ spokenCalls spoken, plainVoice c := by
    cases spoken <;> simp [spokenCalls,plainVoice,opensEpisode,startsStatement]
  rcases finish_exact h i spoken provider with ⟨_,error,_,exact⟩ | ⟨other,exact⟩ | ⟨current,exact⟩
  · have whole : ∀ c ∈ [Call.interruptSpeech], plainVoice c := by simp [plainVoice,opensEpisode,startsStatement]
    rw [exact] at tidied ⊢
    have same := @spent_plain _ _ _ _ h.calls whole
    refine ⟨tidied,@rationed_plain _ _ _ _ ([_]) rationed fun c member => (whole c member).2,?_,fun unready =>
      ⟨(pending unready).1,fun now => same.trans ((pending unready).2 now)⟩⟩
    rintro ⟨j,known,early⟩
    have differs : j ≠ i := by
      rintro rfl
      simp [Handler.setTask,finishedTask] at early
    refine same.trans (armed (fun mine => ?_) ⟨j,known,by simpa [Handler.setTask,differs] using early⟩)
    rw [show h.announcementTask = some j from known] at mine
    exact differs (Option.some.inj mine)
  · rw [exact] at tidied ⊢
    have same := @spent_plain _ _ _ _ h.calls plain
    refine ⟨tidied,rationed_plain rationed fun c member => (plain c member).2,?_,fun unready =>
      ⟨(pending unready).1,fun now => same.trans ((pending unready).2 now)⟩⟩
    rintro ⟨j,known,early⟩
    have differs : j ≠ i := by
      rintro rfl
      exact other known
    exact same.trans (armed other ⟨j,known,by simpa [Handler.setTask,differs] using early⟩)
  · have whole : ∀ c ∈ Call.setOutput false :: spokenCalls spoken, plainVoice c :=
      List.forall_mem_cons.mpr ⟨⟨rfl,rfl⟩,plain⟩
    rw [exact] at tidied ⊢
    have same := @spent_plain _ _ _ _ h.calls whole
    refine ⟨tidied,@rationed_plain _ _ _ _ (_ :: _) rationed fun c member => (whole c member).2,?_,fun unready =>
      ⟨rfl,fun now => same.trans ((pending unready).2 now)⟩⟩
    rintro ⟨_,none,_⟩
    cases none

theorem announce_voice (voice : Voice h) (next : h.announce i now provider = some h') : Voice h' := by
  have tidy := tidy_announce voice.tidy next
  have moved : ∀ {t : AnnounceTask}, (t.pc = .created ∨ t.pc = .interrupting → (h.tasks i).pc = .created ∨
      (h.tasks i).pc = .interrupting) → ∀ {out : Handler}, out.announcementTask = h.announcementTask →
      out.tasks = (h.setTask i t).tasks → Armed out → Armed h := by
    rintro t early out current tasks ⟨j,known,pc⟩
    refine ⟨j,current.symm.trans known,?_⟩
    rw [tasks] at pc
    by_cases same : j = i
    · subst j
      exact early (by simpa [Handler.setTask] using pc)
    · simpa [Handler.setTask,same] using pc
  -- The statement is started by the current task, which was still armed.
  have saying : (h.tasks i).pc = .interrupting → (h.tasks i).cancelled = false → ∀ text,
      Rationed opensEpisode startsStatement (.sayTransfer text :: .setOutput true :: h.calls) ∧ h.ready ≠ false ∧
        h.announcementTask = some i := by
    intro interrupting fresh text
    have current := live_current voice.tidy (by rw [interrupting]; decide) fresh
    have before := voice.armed ⟨i,current,.inr interrupting⟩
    refine ⟨⟨fun _ => before,⟨(fun used => by cases used),voice.rationed⟩⟩,fun unready => ?_,current⟩
    rw [(voice.pending unready).1] at current
    cases current
  cases announce_cases next with
  | dropped created cancelled =>
    exact voice_same voice tidy ⟨[],rfl,by simp⟩ (moved (t := {h.tasks i with pc := .done}) (by simp) rfl rfl)
      fun unready => ⟨unready,(voice.pending unready).1,id⟩
  | late | silent | played =>
    exact finish_voice voice.rationed voice.tidy (fun _ => voice.armed) voice.pending _ provider
  | refused created fresh =>
    have current := live_current voice.tidy (by rw [created]; decide) fresh
    have entered : Voice {(h.setTask i {h.tasks i with timer := .entered}).call .interrupt with
        announcementTimeout := some i} :=
      voice_same voice (tidy_entered voice.tidy created fresh {h.tasks i with timer := .entered} fresh rfl (by simp [created]))
        ⟨[_],rfl,by simp [plainVoice,opensEpisode,startsStatement]⟩
        (moved (t := {h.tasks i with timer := .entered}) id rfl rfl) fun unready => ⟨unready,(voice.pending unready).1,id⟩
    exact finish_voice entered.rationed entered.tidy (fun _ => entered.armed) entered.pending false provider
  | begun created =>
    exact voice_same voice tidy ⟨[_],rfl,by simp [plainVoice,opensEpisode,startsStatement]⟩
      (moved (t := {h.tasks i with timer := .entered, pc := .interrupting}) (fun _ => .inl created) rfl rfl)
      fun unready => ⟨unready,(voice.pending unready).1,id⟩
  | unsaid interrupting fresh =>
    obtain ⟨rationed,ready,current⟩ := saying interrupting fresh h.transferStatement
    exact finish_voice (h := (h.setOutput true).call (.sayTransfer h.transferStatement)) rationed
      (tidy_audio voice.tidy _ [_,_]) (fun other => absurd current other) (fun unready => absurd unready ready) false provider
  | said interrupting fresh =>
    obtain ⟨rationed,ready,current⟩ := saying interrupting fresh h.transferStatement
    refine ⟨tidy,rationed,?_,fun unready => absurd unready ready⟩
    rintro ⟨j,known,early⟩
    rw [show h.announcementTask = some j from known] at current
    cases current
    simp [Handler.setTask] at early

theorem stop_voice (voice : Voice h) (next : h.stop wake provider = some h') : Voice h' := by
  have tidy := tidy_stop voice.tidy next
  cases stop_cases next with
  | dropped | waits => exact calls_voice voice tidy rfl rfl rfl rfl ⟨[],rfl,by simp⟩
  | disconnects | ends =>
    exact calls_voice voice tidy rfl rfl rfl rfl ⟨[_],rfl,by simp [plainVoice,opensEpisode,startsStatement]⟩
  | @leaves _ escaping =>
    have silenced := silence_voice (cancel_voice voice) provider
    rcases leave_cases h escaping provider with ⟨_,_,same⟩ | ⟨_,_,same⟩
    all_goals rw [same] at tidy ⊢
    · exact calls_voice silenced tidy rfl rfl rfl rfl ⟨[],rfl,by simp⟩
    · exact calls_voice silenced tidy rfl rfl rfl rfl ⟨[_],rfl,by simp [plainVoice,opensEpisode,startsStatement]⟩

-- The owner activates a handler once, before it stops.
def ActivatedOnce (h : Handler) : Event → Prop
  | .activate _ => h.ready = false ∧ h.stopping = false
  | _ => True

theorem step_voice (voice : Voice h) (once : ActivatedOnce h event) (next : step py h event = some h') : Voice h' := by
  cases event with
  | packet packet clock provider => cases next; exact receive_voice voice packet clock provider
  | activate now => cases next; exact enable_voice voice once.1 now
  | announce i now provider => exact announce_voice voice next
  | expire i =>
    have tidy := tidy_expire voice.tidy next
    obtain ⟨_,_,rfl⟩ := expire_cases next
    refine voice_same voice tidy ⟨[],rfl,by simp⟩ ?_ fun unready => ⟨unready,(voice.pending unready).1,id⟩
    rintro ⟨j,known,early⟩
    refine ⟨j,known,?_⟩
    by_cases same : j = i
    · subst j
      simpa [Handler.setTask] using early
    · simpa [Handler.setTask,same] using early
  | stop wake provider => exact stop_voice voice next
  | cancelStop =>
    have tidy := @tidy_step _ py _ _ voice.tidy next
    obtain ⟨_,_,_,rfl⟩ := cancelStop_cases next
    exact calls_voice voice tidy rfl rfl rfl rfl ⟨[],rfl,by simp⟩
  | close => cases next; exact cancel_voice voice

theorem initial_voice : Voice (Handler.initial callId session failed transfer ready) := by
  refine ⟨initial_tidy,trivial,?_,fun _ => ⟨rfl,(fun none => by cases none)⟩⟩
  rintro ⟨_,none,_⟩
  cases none

-- What holds of a handler after any run. The calls are listed newest first.
structure TakeoverRule (py : Interpreter) (start : Handler) (events : List Event) (h : Handler) : Prop where
  stopOnce : h.calls.count .stopCreated ≤ 1
  disconnectOnce : h.calls.count .disconnect ≤ 1
  shutdownOnce : h.calls.count .shutdown ≤ 1
  answered : ∀ newer call older, h.calls = newer ++ call :: older → call = .disconnect ∨ call = .shutdown →
    Answered older
  silent : .disconnect ∈ h.calls → (∀ s, h.session = some s → s.input = false ∧ s.output = false) ∧ ∀ i, ¬ Live h i
  muted : ∀ newer older, h.calls = newer ++ .disconnect :: older → .setInput true ∉ newer ∧ .setOutput true ∉ newer
  finished : ∀ task, h.stopTask = some task → .disconnect ∈ h.calls → task.pc.finished = true →
    h.calls.count .shutdown = 1
  statements : Runs (step py) ActivatedOnce start events h →
    (∀ newer text older, h.calls = newer ++ .sayTransfer text :: older → .episode ∈ older) ∧
      ∀ newer later middle earlier older, h.calls = newer ++ .sayTransfer later :: (middle ++ .sayTransfer earlier :: older) →
        .episode ∈ middle

theorem voice_statements (rationed : Rationed opensEpisode startsStatement log) :
    (∀ newer text older, log = newer ++ .sayTransfer text :: older → .episode ∈ older) ∧
      ∀ newer later middle earlier older, log = newer ++ .sayTransfer later :: (middle ++ .sayTransfer earlier :: older) →
        .episode ∈ middle := by
  constructor
  · intro newer text older whole
    obtain ⟨c,member,opens⟩ := rationed_first (whole ▸ rationed) rfl
    rwa [show c = .episode from of_decide_eq_true opens] at member
  · intro newer later middle earlier older whole
    obtain ⟨c,member,opens⟩ := rationed_between (whole ▸ rationed) rfl rfl rfl
    rwa [show c = .episode from of_decide_eq_true opens] at member

theorem takeover_once
    (path : Runs (step py) Owned (Handler.initial callId session failed transfer ready) events h) :
    TakeoverRule py (Handler.initial callId session failed transfer ready) events h := by
  have orderly := path.invariant (fun _ _ _ held owned next => step_orderly held owned next) initial_orderly
  obtain ⟨one,fewer⟩ := left_small h
  have silent : .disconnect ∈ h.calls → Silent h := by
    intro gone
    obtain ⟨task,present,pc⟩ := disconnected_task orderly.counted gone
    exact orderly.silent ⟨task,present,.inr pc⟩
  refine ⟨?_,?_,?_,?_,?_,?_,?_,?_⟩
  · rw [orderly.counted.created]
    split <;> omega
  · rw [orderly.counted.disconnected]
    exact one
  · rw [orderly.counted.shutdown]
    omega
  · intro newer call older whole leaves
    exact (kept_split (whole ▸ orderly.kept)).1 leaves
  · intro gone
    refine ⟨(silent gone).2,fun i live => ?_⟩
    have current := live_current orderly.tidy live.1 live.2
    rw [(silent gone).1] at current
    cases current
  · intro newer older whole
    constructor
    all_goals
      intro enabled
      obtain ⟨middle,follows⟩ := kept_newer (whole ▸ orderly.kept) enabled
      exact follows.2 (by simp) (by simp)
  · intro task present gone finished
    obtain ⟨same,known,pc⟩ := disconnected_task orderly.counted gone
    obtain ⟨at_,cancelled⟩ := task
    cases present.symm.trans known
    rw [orderly.counted.shutdown,past,present]
    rcases pc with leaving | ended
    · cases leaving; cases finished
    · cases ended; rfl
  · intro once
    exact voice_statements (once.invariant (fun _ _ _ held once next => step_voice held once next) initial_voice).rationed

theorem sample_takeover : Runs (step verbatim) ActivatedOnce sampleStart sampleEvents sampleLeft ∧
    TakeoverRule verbatim sampleStart sampleEvents sampleLeft ∧
    .sayTransfer "One moment." ∈ sampleLeft.calls ∧ .disconnect ∈ sampleLeft.calls ∧ .shutdown ∈ sampleLeft.calls := by
  have owned : ∀ s ∈ sampleTrace, Owned s.1 s.2 := by
    simp only [sampleTrace,List.forall_mem_cons]
    exact ⟨rfl,trivial,trivial,trivial,trivial,trivial,trivial,trivial,trivial,trivial,trivial,List.forall_mem_nil _⟩
  have once : ∀ s ∈ sampleTrace, ActivatedOnce s.1 s.2 := by
    simp only [sampleTrace,List.forall_mem_cons]
    exact ⟨⟨rfl,rfl⟩,trivial,trivial,trivial,trivial,trivial,trivial,trivial,trivial,trivial,trivial,List.forall_mem_nil _⟩
  exact ⟨sample_path once,takeover_once (sample_path owned),by decide,by decide,by decide⟩

end AidaAgent.Control
