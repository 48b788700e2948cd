import AidaAgent.ControlClock

namespace AidaAgent.Control
open JsonText Config Transitions

-- Steps that neither assign the deadline nor start an announcement.
structure Keeps (h h' : Handler) : Prop where
  deadline : h'.transferDeadlineMs = h.transferDeadlineMs
  created : h'.created = h.created
  transferring : h'.transferring = true → h.transferring = true
  current : h'.announcementTask = h.announcementTask ∨ h'.announcementTask = none

theorem Keeps.refl (h : Handler) : Keeps h h := ⟨rfl,rfl,id,.inl rfl⟩

theorem Keeps.trans (first : Keeps h middle) (second : Keeps middle h') : Keeps h h' := by
  refine ⟨second.deadline.trans first.deadline,second.created.trans first.created,
    fun on => first.transferring (second.transferring on),?_⟩
  rcases second.current with same | none
  · rw [same]
    exact first.current
  · exact .inr none

theorem keeps_cancel (h : Handler) : Keeps h h.cancelAnnouncement := by
  rw [cancel_exact]
  exact ⟨rfl,rfl,id,.inr rfl⟩

theorem keeps_silence (h : Handler) (provider : Provider) : Keeps h (h.silence provider).1 := by
  obtain ⟨extra,_,exact⟩ := silence_exact h provider
  rw [exact]
  exact ⟨rfl,rfl,id,.inl rfl⟩

theorem keeps_finish (h : Handler) (i : Nat) (spoken : Bool) (provider : Provider) :
    Keeps h (h.finishAnnounce i spoken provider) := by
  rcases finish_exact h i spoken provider with ⟨_,_,_,exact⟩ | ⟨_,exact⟩ | ⟨_,exact⟩
  · rw [exact]; exact ⟨rfl,rfl,id,.inl rfl⟩
  · rw [exact]; exact ⟨rfl,rfl,id,.inl rfl⟩
  · rw [exact]; exact ⟨rfl,rfl,id,.inr rfl⟩

theorem keeps_announce (next : h.announce i now provider = some h') : Keeps h h' := by
  have entered : ∀ t, Keeps h {(h.setTask i t).call .interrupt with announcementTimeout := some i} :=
    fun _ => ⟨rfl,rfl,id,.inl rfl⟩
  have said : Keeps h ((h.setOutput true).call (.sayTransfer h.transferStatement)) := ⟨rfl,rfl,id,.inl rfl⟩
  cases announce_cases next with
  | dropped => exact ⟨rfl,rfl,id,.inl rfl⟩
  | late => exact keeps_finish h i false provider
  | refused => exact (entered _).trans (keeps_finish _ i false provider)
  | begun => exact entered _
  | silent => exact keeps_finish h i false provider
  | unsaid => exact said.trans (keeps_finish _ i false provider)
  | said => exact ⟨rfl,rfl,id,.inl rfl⟩
  | played => exact keeps_finish h i true provider

theorem keeps_expire (next : h.expire i = some h') : Keeps h h' := by
  obtain ⟨_,_,rfl⟩ := expire_cases next
  exact ⟨rfl,rfl,id,.inl rfl⟩

theorem keeps_leave (h : Handler) (escaping : Option Error) (provider : Provider) :
    Keeps h (h.leaveHandoff escaping provider) := by
  have silenced := (keeps_cancel h).trans (keeps_silence h.cancelAnnouncement provider)
  rcases leave_cases h escaping provider with ⟨_,_,same⟩ | ⟨_,_,same⟩
  · rw [same]
    exact silenced.trans ⟨rfl,rfl,id,.inl rfl⟩
  · rw [same]
    exact silenced.trans ⟨rfl,rfl,id,.inl rfl⟩

theorem keeps_stop (next : h.stop wake provider = some h') : Keeps h h' := by
  cases stop_cases next with
  | leaves => exact keeps_leave h _ provider
  | dropped => exact ⟨rfl,rfl,id,.inl rfl⟩
  | waits => exact ⟨rfl,rfl,id,.inl rfl⟩
  | disconnects => exact ⟨rfl,rfl,id,.inl rfl⟩
  | ends => exact ⟨rfl,rfl,id,.inl rfl⟩

theorem keeps_failed (h : Handler) (deadline : Int) (clock : Clock) (provider : Provider) :
    Keeps h (h.transferFailed deadline clock provider).1 := by
  have lowered : Keeps h {h with transferring := false} := ⟨rfl,rfl,(fun on => by cases on),.inl rfl⟩
  have cancelled := lowered.trans (keeps_cancel {h with transferring := false})
  have fails := failed_cases h deadline clock provider
  generalize (h.transferFailed deadline clock provider).1 = after at fails ⊢
  cases fails with
  | late => exact .refl h
  | unready => exact cancelled
  | resumed => exact cancelled.trans ⟨rfl,rfl,id,.inl rfl⟩
  | said => exact cancelled.trans ⟨rfl,rfl,id,.inl rfl⟩

-- _start_announcement with a session that is ready, and otherwise.
structure Starts (h : Handler) (now : Int) (h' : Handler) : Prop where
  opened : h.ready = true ∧ h.session.isSome = true
  deadline : h'.transferDeadlineMs = min h.transferDeadlineMs (now + 10000)
  created : h'.created = h.created + 1
  current : h'.announcementTask = some h.created

theorem start_effect (h : Handler) (now : Int) : Starts h now (h.startAnnouncement now) ∨
    (¬ (h.ready = true ∧ h.session.isSome = true) ∧ h.startAnnouncement now = h) := by
  by_cases opened : h.ready = true ∧ h.session.isSome = true
  · refine .inl ⟨opened,?_,?_,?_⟩
    all_goals rw [start_exact h now opened]
  · exact .inr ⟨opened,start_closed opened⟩

-- The ten seconds or less that are left count from the acceptance.
theorem remaining_deadline (left_ : 0 < remainingMs deadline (steady now)) :
    now + remainingMs deadline (steady now) = min deadline (now + 10000) := by
  unfold remainingMs steady at *
  dsimp only at *
  omega

theorem remaining_range (deadline now : Int) :
    0 ≤ remainingMs deadline (steady now) ∧ remainingMs deadline (steady now) ≤ 10000 := by
  unfold remainingMs
  omega

theorem prepare_deadline (h : Handler) (deadline now : Int) :
    (h.granted (remainingMs deadline (steady now)) →
      (h.prepareHandoff (remainingMs deadline (steady now)) (steady now)).1.transferDeadlineMs = min deadline (now + 10000)) ∧
    (¬ h.granted (remainingMs deadline (steady now)) → h.prepareHandoff (remainingMs deadline (steady now)) (steady now) = (h,none)) := by
  constructor
  · intro written
    have exact_ := remaining_deadline written.2.2
    unfold Handler.prepareHandoff
    rw [if_pos written]
    dsimp only
    split
    · rcases start_effect {h with transferDeadlineMs := (steady now).second + remainingMs deadline (steady now), transferring := true}
        (steady now).third with starts | ⟨shut,_⟩
      · refine starts.deadline.trans ?_
        change min (now + remainingMs deadline (steady now)) (now + 10000) = _
        rw [exact_]
        omega
      · exact absurd ⟨written.1,written.2.1⟩ shut
    · split
      · exact exact_
      · split <;> exact exact_
  · intro unwritten
    unfold Handler.prepareHandoff
    rw [if_neg unwritten]

-- What an accepted human_answered leaves: the deadline is its own where it is granted,
-- and only then does an announcement or a graceful handoff stay.
structure Hands (h : Handler) (deadline now : Int) (h' : Handler) : Prop where
  granted : h.granted (remainingMs deadline (steady now)) → h'.transferDeadlineMs = min deadline (now + 10000)
  refused : ¬ h.granted (remainingMs deadline (steady now)) →
    h'.transferDeadlineMs = h.transferDeadlineMs ∧ h'.transferring = h.transferring
  live : h'.announcementTask ≠ none → h.granted (remainingMs deadline (steady now))
  graceful : h'.stopPc = .handoff → h.granted (remainingMs deadline (steady now))
  stop : ∀ task, h'.stopTask = some task → task.pc = .handoff ∨ task.pc = .stop

theorem answered_same_deadline (h : Handler) : h.answered.ready = h.ready ∧ h.answered.session = h.session ∧
    h.answered.transferDeadlineMs = h.transferDeadlineMs ∧ h.answered.transferring = h.transferring ∧
    h.answered.stopTask = h.stopTask := by
  unfold Handler.answered
  split <;> exact ⟨rfl,rfl,rfl,rfl,rfl⟩

theorem human_deadline (tidy : Tidy h) (idle : h.stopTask = none) (deadline now : Int) (provider : Provider) :
    Hands h deadline now (h.humanAnswered deadline (steady now) provider).1 := by
  obtain ⟨ready,session,deadline_,transferring,stopTask⟩ := answered_same_deadline h
  obtain ⟨granted,refused⟩ := prepare_deadline h.answered deadline now
  have marked : Tidy h.answered := by
    unfold Handler.answered
    split <;> exact tidy_same tidy rfl rfl rfl rfl rfl
  have prepared := tidy_prepare marked (remainingMs deadline (steady now)) (steady now)
  have frame := frame_prepare h.answered (remainingMs deadline (steady now)) (steady now)
  rw [Handler.granted,ready,session] at granted refused
  have unstarted := frame.stopTask.trans (stopTask.trans idle)
  have opened := frame.ready.trans ready
  have present := frame.session.trans (congrArg Option.isSome session)
  have answers := human_cases h deadline (steady now) provider
  generalize h.answered.prepareHandoff (remainingMs deadline (steady now)) (steady now) = result at *
  generalize h.humanAnswered deadline (steady now) provider = after at answers ⊢
  have kept : ¬ h.granted (remainingMs deadline (steady now)) →
      result.1.transferDeadlineMs = h.transferDeadlineMs ∧ result.1.transferring = h.transferring := by
    intro shut
    rw [refused shut]
    exact ⟨deadline_,transferring⟩
  have silenced := (keeps_cancel result.1).trans (keeps_silence result.1.cancelAnnouncement provider)
  have silent : (result.1.cancelAnnouncement.silence provider).1.announcementTask = none := by
    obtain ⟨extra,_,exact⟩ := silence_exact result.1.cancelAnnouncement provider
    rw [exact]
    exact cancel_idle result.1
  have same : (result.1.cancelAnnouncement.silence provider).1.transferring = result.1.transferring := by
    obtain ⟨extra,_,exact⟩ := silence_exact result.1.cancelAnnouncement provider
    rw [exact,cancel_exact]
  have unstopped := ((frame_cancel result.1).trans (frame_silence result.1.cancelAnnouncement provider)).stopTask.trans unstarted
  cases answers with
  | @stuck error failed =>
    have open_ : h.granted (remainingMs deadline (steady now)) := by
      by_contra shut
      rw [refused shut] at failed
      cases failed
    refine ⟨granted,kept,fun _ => open_,fun _ => open_,?_⟩
    intro task started
    rw [unstarted] at started
    cases started
  | graceful _ isReady left_ running =>
    obtain ⟨i,current⟩ := Option.isSome_iff_exists.mp running
    have there := present.symm.trans (prepared.current i current).2.2.1
    have open_ : h.granted (remainingMs deadline (steady now)) := ⟨opened.symm.trans isReady,there,left_⟩
    refine ⟨granted,kept,fun _ => open_,fun _ => open_,?_⟩
    intro task started
    cases started
    exact .inl rfl
  | broken =>
    refine ⟨fun open_ => silenced.deadline.trans (granted open_),?_,fun live => absurd silent live,?_,?_⟩
    · exact fun shut => ⟨silenced.deadline.trans (kept shut).1,same.trans (kept shut).2⟩
    · intro started
      rw [Handler.stopPc,unstopped] at started
      cases started
    · intro task started
      rw [unstopped] at started
      cases started
  | immediate =>
    refine ⟨fun open_ => silenced.deadline.trans (granted open_),?_,fun live => absurd silent live,?_,?_⟩
    · exact fun shut => ⟨silenced.deadline.trans (kept shut).1,same.trans (kept shut).2⟩
    · intro started
      cases started
    · intro task started
      cases started
      exact .inr rfl

def Within (ms : Int) : Prop := 0 ≤ ms ∧ ms ≤ 10000

-- The argument of _finish_handoff comes from the accepted human_answered, and the one
-- of a _stop on its own is what was left then.
def Sourced (t : Timed) (task : StopTask) : Prop :=
  (task.pc = .handoff ∨ (∃ i, task.pc = .waiting i) → ∃ command answeredAt, t.answer = some (command,answeredAt) ∧
      command.action = .humanAnswered ∧ answeredAt ≤ t.clock ∧ t.stopArgument = min command.deadlineMs (answeredAt + 10000)) ∧
    (task.pc = .stop → Within t.stopArgument)

theorem sourced_later {t t' : Timed} (sourced : Sourced t task) (answer : t'.answer = t.answer)
    (argument : t'.stopArgument = t.stopArgument) (forward : t.clock ≤ t'.clock) : Sourced t' task := by
  obtain ⟨handed,alone⟩ := sourced
  rw [Sourced,argument,answer]
  refine ⟨fun pc => ?_,alone⟩
  obtain ⟨command,answeredAt,answered,action,past,given⟩ := handed pc
  exact ⟨command,answeredAt,answered,action,past.trans forward,given⟩

structure Timely (t : Timed) : Prop where
  tidy : Tidy t.handler
  counted : Counted t.handler
  opened : t.registered = true → t.handler.announcementTask ≠ none → t.handler.ready = true
  written : ∀ command, t.setter = some command → t.handler.transferDeadlineMs ≤ command.deadlineMs
  unwritten : t.setter = none → t.handler.transferring = false ∧ t.handler.announcementTask = none
  held : t.registered = true → t.handler.ready = false → ∀ command, t.setter = some command →
    command.action = .transferRequested ∧ t.handler.transferDeadlineMs = command.deadlineMs
  capped : t.handler.announcementTask ≠ none → t.handler.transferDeadlineMs ≤ t.reference + 10000
  passed : t.reference ≤ t.clock
  sourced : ∀ task, t.handler.stopTask = some task → Sourced t task
  timeouts : ∀ ms ∈ t.timeouts, Within ms

theorem timely_given (timely : Timely t) (within : ∀ ms ∈ timeouts, Within ms) : Timely (t.given timeouts) :=
  ⟨timely.tidy,timely.counted,timely.opened,timely.written,timely.unwritten,timely.held,timely.capped,timely.passed,
    timely.sourced,fun ms member => (List.mem_append.mp member).elim (within ms) (timely.timeouts ms)⟩

theorem advance_still {t : Timed} {after : Handler} (created : after.created = t.handler.created) :
    t.advance now after = {t with handler := after, clock := now} := by
  unfold Timed.advance
  rw [if_neg (by rw [created]; exact lt_irrefl _)]

-- A step that keeps the deadline, whatever it does to the stop task.
theorem timely_keeps (timely : Timely t) (forward : t.clock ≤ now) (keeps : Keeps t.handler after) (tidy : Tidy after)
    (counted : Counted after) (ready : t.registered = true → t.handler.ready = true → after.ready = true)
    (same : after.ready = false → t.handler.ready = false)
    (sourced : ∀ task, after.stopTask = some task → ∀ before, t.handler.stopTask = some before → Sourced t before →
      Sourced t task)
    (started : after.stopTask.isSome = true → t.handler.stopTask.isSome = true) : Timely (t.advance now after) := by
  have live : after.announcementTask ≠ none → t.handler.announcementTask ≠ none := by
    intro there
    rcases keeps.current with same | none
    · rwa [same] at there
    · exact absurd none there
  rw [advance_still keeps.created]
  refine ⟨tidy,counted,?_,?_,?_,?_,?_,?_,?_,timely.timeouts⟩
  · exact fun registered there => ready registered (timely.opened registered (live there))
  · exact fun command set => keeps.deadline ▸ timely.written command set
  · intro unset
    obtain ⟨off,none⟩ := timely.unwritten unset
    refine ⟨?_,?_⟩
    · by_contra on
      rw [keeps.transferring (by simpa using on)] at off
      cases off
    · by_contra there
      exact live there none
  · intro registered unready command set
    obtain ⟨action,exact_⟩ := timely.held registered (same unready) command set
    exact ⟨action,keeps.deadline.trans exact_⟩
  · exact fun there => keeps.deadline ▸ timely.capped (live there)
  · exact timely.passed.trans forward
  · intro task present
    obtain ⟨before,was⟩ := Option.isSome_iff_exists.mp (started (by rw [present]; rfl))
    exact sourced_later (sourced task present before was (timely.sourced before was)) rfl rfl forward

-- A step that starts an announcement under the deadline of the command that set it.
theorem timely_starts (timely : Timely t) (forward : t.clock ≤ now) (starts : Starts before now after)
    (created : before.created = t.handler.created) (written : before.transferDeadlineMs ≤ command.deadlineMs)
    (tidy : Tidy after) (counted : Counted after) (ready : after.ready = true) (stop : after.stopTask = t.handler.stopTask) :
    Timely {t.advance now after with setter := some command} := by
  have grown : t.advance now after = {t with handler := after, clock := now, startedAt := now, answeredSince := none} := by
    unfold Timed.advance
    rw [if_pos (by rw [starts.created,created]; omega)]
  have shorter : after.transferDeadlineMs ≤ command.deadlineMs ∧ after.transferDeadlineMs ≤ now + 10000 := by
    rw [starts.deadline]
    omega
  rw [grown]
  refine ⟨tidy,counted,fun _ _ => ready,?_,(fun unset => by cases unset),?_,fun _ => shorter.2,le_refl now,?_,timely.timeouts⟩
  · intro other set
    cases set
    exact shorter.1
  · intro _ unready
    rw [ready] at unready
    cases unready
  · intro task present
    exact sourced_later (timely.sourced task (stop ▸ present)) rfl rfl forward

-- Steps in the frame of the handler leave its stop task alone.
theorem timely_framed (timely : Timely t) (forward : t.clock ≤ now) (keeps : Keeps t.handler after)
    (frame : Frame t.handler after) (tidy : Tidy after) : Timely (t.advance now after) := by
  refine timely_keeps timely forward keeps tidy (counted_framed timely.counted frame) (fun _ on => frame.ready.trans on)
    (fun off => frame.ready.symm.trans off) ?_ (fun there => frame.stopTask ▸ there)
  intro task present before was sourced
  rw [frame.stopTask,was] at present
  cases present
  exact sourced

theorem stop_within (handed : pc = .handoff ∨ (∃ i, pc = .waiting i) → argument ≤ now + 10000)
    (alone : pc = .stop → Within argument) (after : StopPc) : ∀ ms ∈ stopTimeouts argument now pc after, Within ms := by
  have waits : argument ≤ now + 10000 → Within (max 0 (argument - now)) ∧ Within (max 1 (max 0 (argument - now))) := by
    unfold Within
    omega
  have short : Within argument → Within (max 1 argument) := by
    unfold Within
    omega
  unfold stopTimeouts
  split
  · exact List.forall_mem_singleton.mpr (waits (handed (.inl rfl))).1
  · exact List.forall_mem_singleton.mpr (waits (handed (.inl rfl))).2
  · exact List.forall_mem_singleton.mpr (waits (handed (.inr ⟨_,rfl⟩))).2
  · exact List.forall_mem_singleton.mpr (short (alone rfl))
  · exact List.forall_mem_nil _

theorem timely_stop (timely : Timely t) (forward : t.clock ≤ now) (next : t.handler.stop wake provider = some after) :
    Timely ((t.advance now after).given (stopTimeouts t.stopArgument now t.handler.stopPc after.stopPc)) := by
  have ready : after.ready = t.handler.ready := by
    cases stop_cases next with
    | @leaves _ escaping =>
      obtain ⟨middle,frame,⟨_,same⟩ | same⟩ := frame_leave t.handler escaping provider
      · rw [same]; exact frame.ready
      · rw [same]; exact frame.ready
    | dropped | waits | disconnects | ends => rfl
  have present : t.handler.stopTask.isSome = true := by
    cases stop_cases next with
    | dropped there | waits there | leaves there | disconnects there | ends there => rw [there]; rfl
  obtain ⟨before,was⟩ := Option.isSome_iff_exists.mp present
  obtain ⟨handed,alone⟩ := timely.sourced before was
  have moved := timely_keeps timely forward (keeps_stop next) (tidy_stop timely.tidy next) (counted_stop timely.counted next)
    (fun _ on => ready.trans on) (fun off => ready.symm.trans off)
  refine timely_given (moved ?_ fun _ => present) (stop_within ?_ ?_ _)
  · intro task started other same sourced
    cases stop_cases next with
    | dropped => cases started; exact ⟨fun pc => by simp at pc,fun pc => by cases pc⟩
    | waits there pc =>
      cases started
      rw [there] at same
      cases same
      exact ⟨fun _ => sourced.1 (.inl pc),fun pc => by cases pc⟩
    | @leaves _ escaping =>
      obtain ⟨middle,_,⟨_,exact_⟩ | exact_⟩ := frame_leave t.handler escaping provider
      · rw [exact_] at started
        cases started
        exact ⟨fun pc => by simp at pc,fun pc => by cases pc⟩
      · rw [exact_] at started
        cases started
        exact ⟨fun pc => by simp at pc,fun pc => by cases pc⟩
    | disconnects => cases started; exact ⟨fun pc => by simp at pc,fun pc => by cases pc⟩
    | ends => cases started; exact ⟨fun pc => by simp at pc,fun pc => by cases pc⟩
  · intro pc
    rw [Handler.stopPc,was] at pc
    obtain ⟨command,answeredAt,_,_,past,argument⟩ := handed pc
    omega
  · intro pc
    rw [Handler.stopPc,was] at pc
    exact alone pc

theorem timely_announce (timely : Timely t) (forward : t.clock ≤ now) (next : t.handler.announce i now provider = some after) :
    Timely ((t.advance now after).given (t.handler.announceTimeouts i now)) := by
  refine timely_given (timely_framed timely forward (keeps_announce next) (frame_announce next)
    (tidy_announce timely.tidy next)) ?_
  unfold Handler.announceTimeouts
  split
  · rename_i runs
    obtain ⟨created,live,left_⟩ := runs
    have current := live_current timely.tidy (by rw [created]; decide) live
    have capped := timely.capped (by rw [current]; exact Option.some_ne_none _)
    have passed := timely.passed
    refine List.forall_mem_singleton.mpr ⟨left_.le,?_⟩
    omega
  · exact List.forall_mem_nil _

theorem timely_cancelStop (timely : Timely t) (forward : t.clock ≤ now) (next : t.handler.cancelStop = some after) :
    Timely (t.advance now after) := by
  have counted := @counted_step t.handler verbatim .cancelStop after timely.counted next
  have tidy := @tidy_step t.handler verbatim .cancelStop after timely.tidy next
  obtain ⟨before,was,_,rfl⟩ := cancelStop_cases next
  refine timely_keeps timely forward ⟨rfl,rfl,id,.inl rfl⟩ tidy counted (fun _ on => on) id ?_ (fun _ => by rw [was]; rfl)
  intro task present other same sourced
  rw [was] at same
  cases same
  cases present
  exact sourced

theorem advance_fields (t : Timed) (now : Int) (after : Handler) : (t.advance now after).registered = t.registered ∧
    (t.advance now after).timeouts = t.timeouts ∧ (t.advance now after).clock = now ∧
    (t.advance now after).setter = t.setter := by
  unfold Timed.advance
  split <;> exact ⟨rfl,rfl,rfl,rfl⟩

theorem advance_setter (t : Timed) (now : Int) (after : Handler) : (t.advance now after).setter = t.setter := by
  unfold Timed.advance
  split <;> rfl

theorem timely_activate (timely : Timely t) (forward : t.clock ≤ now) : Timely (t.advance now (t.handler.enable now)) := by
  have tidy := tidy_enable timely.tidy now
  have counted := @counted_step t.handler verbatim (.activate now) _ timely.counted rfl
  have enables := enable_cases t.handler now
  generalize t.handler.enable now = after at enables tidy counted ⊢
  have opens : ∀ {after}, Keeps t.handler after → Tidy after → Counted after → after.ready = true →
      after.stopTask = t.handler.stopTask → Timely (t.advance now after) := by
    intro after keeps tidy counted ready stop
    refine timely_keeps timely forward keeps tidy counted (fun _ _ => ready) (fun off => ?_) ?_ (fun there => stop ▸ there)
    · rw [ready] at off
      cases off
    · intro task present before was sourced
      rw [stop,was] at present
      cases present
      exact sourced
  cases enables with
  | announces transferring =>
    rcases start_effect {t.handler with ready := true} now with starts | ⟨_,same⟩
    · cases set : t.setter with
      | none =>
        have off := (timely.unwritten set).1
        rw [transferring] at off
        cases off
      | some command =>
        have frame := frame_start {t.handler with ready := true} now
        have started := timely_starts timely forward starts rfl (timely.written command set) tidy counted frame.ready
          frame.stopTask
        rwa [← set,← advance_setter t now] at started
    · rw [same] at tidy counted ⊢
      exact opens ⟨rfl,rfl,id,.inl rfl⟩ tidy counted rfl rfl
  | waits => exact opens ⟨rfl,rfl,id,.inl rfl⟩ tidy counted rfl rfl
  | converses => exact opens ⟨rfl,rfl,id,.inl rfl⟩ tidy counted rfl rfl

theorem timely_attach (timely : Timely t) (forward : t.clock ≤ now) (unattached : t.handler.session = none)
    (transfer failed : String) : Timely (t.advance now
      {t.handler with session := some ⟨false,false⟩, transferStatement := transfer, failedStatement := failed}) := by
  have tidy : Tidy {t.handler with
      session := some ⟨false,false⟩, transferStatement := transfer, failedStatement := failed} := by
    refine ⟨fun i current => ?_,timely.tidy.obsolete,timely.tidy.unborn,timely.tidy.timeout,timely.tidy.left⟩
    have present := (timely.tidy.current i current).2.2.1
    rw [unattached] at present
    cases present
  refine timely_keeps timely forward ⟨rfl,rfl,id,.inl rfl⟩ tidy (counted_frame timely.counted rfl rfl ⟨[],rfl,by simp⟩)
    (fun _ on => on) id ?_ id
  intro task present before was sourced
  cases present.symm.trans was
  exact sourced

theorem timely_withdraw (timely : Timely t) (forward : t.clock ≤ now) :
    Timely {t.advance now {t.handler with ready := false} with registered := false} := by
  have tidy : Tidy {t.handler with ready := false} := tidy_same timely.tidy rfl rfl rfl rfl rfl
  have created : ({t.handler with ready := false} : Handler).created = t.handler.created := rfl
  rw [advance_still created]
  refine ⟨tidy,counted_frame timely.counted rfl rfl ⟨[],rfl,by simp⟩,(fun on => by cases on),timely.written,timely.unwritten,
    (fun on => by cases on),timely.capped,timely.passed.trans forward,?_,timely.timeouts⟩
  intro task present
  exact sourced_later (timely.sourced task present) rfl rfl forward

theorem accepts_exact {h : Handler} : h.accepts py packet = some command ↔
    ControlCommand.parse py packet h.callId = .ok command ∧ command.commandId ∉ h.seen ∧ h.stopping = false := by
  unfold Handler.accepts
  cases parsed : ControlCommand.parse py packet h.callId with
  | error => simp
  | ok other =>
    dsimp only
    split
    · rename_i stale
      constructor
      · intro found
        cases found
      · rintro ⟨same,fresh,running⟩
        cases same
        rcases stale with seen | stopping
        · exact absurd seen fresh
        · rw [running] at stopping
          cases stopping
    · rename_i fresh
      obtain ⟨unseen,running⟩ := not_or.mp fresh
      constructor
      · intro found
        cases found
        exact ⟨rfl,unseen,by simpa using running⟩
      · rintro ⟨same,_,_⟩
        cases same
        rfl

-- What receive does with a packet, by its acceptance.
theorem receive_accepts (h : Handler) (packet : Packet) (clock : Clock) (provider : Provider) :
    (h.accepts py packet = none ∧ (h.receive py packet clock provider).1 = h) ∨
      ∃ command, h.accepts py packet = some command ∧ h.stopping = false ∧
        ((command.action = .humanAnswered ∧ (h.receive py packet clock provider).1 =
            ((h.note command).humanAnswered command.deadlineMs clock provider).1) ∨
          (command.action = .transferRequested ∧ (h.receive py packet clock provider).1 =
            ((h.note command).transferRequested command.deadlineMs clock).1) ∨
          (command.action = .transferFailed ∧ (h.receive py packet clock provider).1 =
            ((h.note command).transferFailed command.deadlineMs clock provider).1)) := by
  have receives := @receive_cases py h packet clock provider
  generalize h.receive py packet clock provider = result at receives ⊢
  cases receives with
  | refused stale =>
    refine .inl ⟨?_,rfl⟩
    by_contra taken
    obtain ⟨command,same⟩ := Option.ne_none_iff_exists'.mp taken
    obtain ⟨parsed,fresh,running⟩ := accepts_exact.mp same
    rcases stale command parsed with seen | stopping
    · exact fresh seen
    · rw [running] at stopping
      cases stopping
  | human parsed fresh running action =>
    exact .inr ⟨_,accepts_exact.mpr ⟨parsed,fresh,running⟩,running,.inl ⟨action,rfl⟩⟩
  | requested parsed fresh running action =>
    exact .inr ⟨_,accepts_exact.mpr ⟨parsed,fresh,running⟩,running,.inr (.inl ⟨action,rfl⟩)⟩
  | failed parsed fresh running action =>
    exact .inr ⟨_,accepts_exact.mpr ⟨parsed,fresh,running⟩,running,.inr (.inr ⟨action,rfl⟩)⟩

theorem rescheduled_within (h : Handler) (deadline now : Int) :
    ∀ ms ∈ h.rescheduled (remainingMs deadline (steady now)), Within ms := by
  unfold Handler.rescheduled
  split
  · split
    · exact List.forall_mem_nil _
    · split
      · exact List.forall_mem_nil _
      · exact List.forall_mem_singleton.mpr (remaining_range deadline now)
  · exact List.forall_mem_nil _

-- A human_answered counts from its acceptance, whatever it found.
theorem timely_human (timely : Timely t) (hands : Hands t.handler command.deadlineMs now after)
    (tidy : Tidy after) (counted : Counted after) (ready : after.ready = t.handler.ready)
    (action : command.action = .humanAnswered) :
    Timely (((t.advance now after).write t.handler command now).answers t.handler command now) := by
  have writes : t.handler.writes command now ↔ t.handler.granted (remainingMs command.deadlineMs (steady now)) := by
    unfold Handler.writes
    rw [action]
    exact decide_eq_true_iff
  have fields : ∀ u : Timed, u.registered = t.registered → u.timeouts = t.timeouts → u.clock = now → u.handler = after →
      (t.handler.writes command now → u.setter = some command) → (¬ t.handler.writes command now → u.setter = t.setter) →
      Timely (u.answers t.handler command now) := by
    intro u registered timeouts clock handler set unset
    refine timely_given ?_ (rescheduled_within _ _ _)
    refine ⟨handler ▸ tidy,handler ▸ counted,?_,?_,?_,?_,?_,clock.ge,?_,timeouts ▸ timely.timeouts⟩
    all_goals dsimp only
    all_goals rw [handler]
    · intro _ live
      rw [ready]
      exact (hands.live live).1
    · intro other set_
      by_cases open_ : t.handler.writes command now
      · rw [set open_] at set_
        cases set_
        rw [hands.granted (writes.mp open_)]
        omega
      · rw [unset open_] at set_
        rw [(hands.refused (mt writes.mpr open_)).1]
        exact timely.written other set_
    · intro none
      have shut : ¬ t.handler.writes command now := fun open_ => by
        rw [set open_] at none
        cases none
      obtain ⟨off,_⟩ := timely.unwritten ((unset shut).symm.trans none)
      refine ⟨(hands.refused (mt writes.mpr shut)).2.trans off,?_⟩
      by_contra live
      exact shut (writes.mpr (hands.live live))
    · intro registered_ unready other set_
      rw [ready] at unready
      have shut : ¬ t.handler.writes command now := fun open_ => by
        rw [(writes.mp open_).1] at unready
        cases unready
      rw [unset shut] at set_
      rw [(hands.refused (mt writes.mpr shut)).1]
      exact timely.held (registered ▸ registered_) unready other set_
    · intro live
      change after.transferDeadlineMs ≤ now + 10000
      rw [hands.granted (hands.live live)]
      omega
    · intro task present
      have pc : after.stopPc = task.pc := by rw [Handler.stopPc,present]
      constructor
      · intro handed
        have graceful : after.stopPc = .handoff := by
          rcases hands.stop task present with same | stop
          · rw [pc,same]
          · rw [stop] at handed
            simp at handed
        refine ⟨command,now,rfl,action,clock.ge,?_⟩
        dsimp only
        rw [if_pos graceful]
        exact hands.granted (hands.graceful graceful)
      · intro stop
        dsimp only
        rw [if_neg (by rw [pc,stop]; decide)]
        exact remaining_range _ _
  obtain ⟨registered,timeouts,clock,setter⟩ := advance_fields t now after
  unfold Timed.write
  by_cases open_ : t.handler.writes command now
  · rw [if_pos open_]
    exact fields _ registered timeouts clock (advance_handler t now after) (fun _ => rfl) (absurd open_)
  · rw [if_neg open_]
    exact fields _ registered timeouts clock (advance_handler t now after) (fun is => absurd is open_) fun _ => setter

-- A transfer_requested that is held, as no session is ready.
theorem timely_holds (timely : Timely t) (forward : t.clock ≤ now) (created : after.created = t.handler.created)
    (current : after.announcementTask = none) (deadline : after.transferDeadlineMs = command.deadlineMs)
    (action : command.action = .transferRequested) (tidy : Tidy after) (counted : Counted after)
    (idle : after.stopTask = none) : Timely {t.advance now after with setter := some command} := by
  rw [advance_still created]
  refine ⟨tidy,counted,fun _ live => absurd current live,?_,(fun none => by cases none),?_,
    fun live => absurd current live,timely.passed.trans forward,?_,timely.timeouts⟩
  · intro other set
    cases set
    exact deadline.le
  · intro _ _ other set
    cases set
    exact ⟨action,deadline⟩
  · intro task present
    cases present.symm.trans idle

-- A transfer_requested in time takes the deadline over, capped where it starts the
-- announcement at once.
theorem timely_requested (timely : Timely t) (forward : t.clock ≤ now) (registered : t.registered = true)
    (running : t.handler.stopping = false) (action : command.action = .transferRequested)
    (tidy : Tidy ((t.handler.note command).transferRequested command.deadlineMs (steady now)).1)
    (counted : Counted ((t.handler.note command).transferRequested command.deadlineMs (steady now)).1) :
    Timely ((t.advance now ((t.handler.note command).transferRequested command.deadlineMs (steady now)).1).write
      t.handler command now) := by
  have idle := running_idle timely.counted running
  have writes : t.handler.writes command now ↔ now < command.deadlineMs := by
    unfold Handler.writes
    rw [action]
    exact decide_eq_true_iff
  unfold Handler.transferRequested at *
  unfold Timed.write
  by_cases early : now < command.deadlineMs
  · rw [if_pos (show command.deadlineMs > (steady now).first from early)] at *
    rw [if_pos (writes.mpr early)]
    dsimp only at *
    rcases start_effect {(t.handler.note command).call .episode with transferring := true, transferDeadlineMs := command.deadlineMs}
        (steady now).second with starts | ⟨shut,same⟩
    · have frame := frame_start {(t.handler.note command).call .episode with
        transferring := true, transferDeadlineMs := command.deadlineMs} (steady now).second
      exact timely_starts timely forward starts rfl le_rfl tidy counted (frame.ready.trans starts.opened.1) frame.stopTask
    · rw [same] at tidy counted ⊢
      have unannounced : t.handler.announcementTask = none := by
        by_contra there
        obtain ⟨i,current⟩ := Option.ne_none_iff_exists'.mp there
        exact shut ⟨timely.opened registered there,(timely.tidy.current i current).2.2.1⟩
      exact timely_holds timely forward rfl unannounced rfl action tidy counted idle
  · rw [if_neg (show ¬ command.deadlineMs > (steady now).first from early)] at *
    rw [if_neg (mt writes.mp early)]
    refine timely_keeps timely forward ⟨rfl,rfl,id,.inl rfl⟩ tidy counted (fun _ on => on) id ?_ id
    intro task present
    cases present.symm.trans idle

theorem timely_receive (timely : Timely t) (forward : t.clock ≤ now) (registered : t.registered = true)
    (packet : Packet) (provider : Provider) : Timely (t.receive py packet now provider) := by
  have tidy := @tidy_receive t.handler py timely.tidy packet (steady now) provider
  have counted := @counted_receive t.handler py timely.counted packet (steady now) provider
  have ready := @receive_ready py t.handler packet (steady now) provider
  unfold Timed.receive
  rcases @receive_accepts py t.handler packet (steady now) provider with ⟨none,same⟩ | ⟨command,some_,running,cases_⟩
  · rw [none]
    dsimp only
    rw [same] at tidy counted ⊢
    exact timely_framed timely forward (.refl _) (.refl _) tidy
  · have idle := running_idle timely.counted running
    rw [some_]
    dsimp only
    rcases cases_ with ⟨action,same⟩ | ⟨action,same⟩ | ⟨action,same⟩
    · rw [if_pos action]
      have noted : Tidy (t.handler.note command) := tidy_same timely.tidy rfl rfl rfl rfl rfl
      have hands := human_deadline noted idle command.deadlineMs now provider
      rw [← same] at hands
      exact timely_human timely ⟨hands.granted,hands.refused,hands.live,hands.graceful,hands.stop⟩ tidy counted ready action
    · rw [if_neg (by rw [action]; decide)]
      rw [same] at tidy counted ⊢
      exact timely_requested timely forward registered running action tidy counted
    · rw [if_neg (by rw [action]; decide)]
      have unwritten : ∀ u : Timed, u.write t.handler command now = u := by
        intro u
        have never : ¬ t.handler.writes command now := by
          unfold Handler.writes
          rw [action]
          exact Bool.false_ne_true
        unfold Timed.write
        rw [if_neg never]
      rw [unwritten]
      rw [same] at tidy counted ready ⊢
      have keeps := keeps_failed (t.handler.note command) command.deadlineMs (steady now) provider
      have frame := frame_failed (t.handler.note command) command.deadlineMs (steady now) provider
      refine timely_keeps timely forward ⟨keeps.deadline,keeps.created,keeps.transferring,keeps.current⟩ tidy counted
        (fun _ on => ready.trans on) (fun off => ready.symm.trans off) ?_ (fun there => frame.stopTask ▸ there)
      intro task present
      cases present.symm.trans (frame.stopTask.trans idle)

theorem tick_timely (timely : Timely t) (forward : Forward t event) (next : tick py t event = some t') : Timely t' := by
  obtain ⟨now,kind⟩ := event
  cases kind with
  | packet packet provider =>
    simp only [tick] at next
    split at next
    · rename_i registered
      cases next
      exact timely_receive timely forward registered packet provider
    · cases next
  | activate => cases next; exact timely_activate timely forward
  | announce i provider =>
    obtain ⟨after,ran,rfl⟩ := Option.map_eq_some_iff.mp next
    exact timely_announce timely forward ran
  | expire i =>
    obtain ⟨after,ran,rfl⟩ := Option.map_eq_some_iff.mp next
    exact timely_framed timely forward (keeps_expire ran) (frame_expire ran) (tidy_expire timely.tidy ran)
  | stop wake provider =>
    obtain ⟨after,ran,rfl⟩ := Option.map_eq_some_iff.mp next
    exact timely_stop timely forward ran
  | cancelStop =>
    obtain ⟨after,ran,rfl⟩ := Option.map_eq_some_iff.mp next
    exact timely_cancelStop timely forward ran
  | close =>
    cases next
    exact timely_framed timely forward (keeps_cancel _) (frame_cancel _) (tidy_cancel timely.tidy)
  | attach transfer failed =>
    simp only [tick] at next
    split at next
    · rename_i unattached
      cases next
      exact timely_attach timely forward unattached transfer failed
    · cases next
  | withdraw => cases next; exact timely_withdraw timely forward

theorem initial_timely : Timely (Timed.initial callId failed transfer session ready now) := by
  refine ⟨initial_tidy,initial_counted,fun _ live => absurd rfl live,?_,fun _ => ⟨rfl,rfl⟩,?_,fun live => absurd rfl live,
    le_rfl,?_,List.forall_mem_nil _⟩
  · intro command set
    cases set
  · intro _ _ command set
    cases set
  · intro task present
    cases present

-- What the deadlines of a takeover may be, at any time of a run.
structure DeadlineRule (t : Timed) : Prop where
  announcement : ∀ i, Live t.handler i ∨ t.handler.announcementTask = some i → ∃ command, t.setter = some command ∧
    t.handler.transferDeadlineMs ≤ command.deadlineMs ∧ t.handler.transferDeadlineMs ≤ t.reference + 10000
  held : t.handler.transferring = true → t.handler.ready = false → ∃ command, t.setter = some command ∧
    (t.registered = true → command.action = .transferRequested ∧ t.handler.transferDeadlineMs = command.deadlineMs) ∧
    ∀ now, (t.handler.enable now).transferDeadlineMs ≤ command.deadlineMs
  handoff : ∀ task, t.handler.stopTask = some task → task.pc = .handoff ∨ (∃ i, task.pc = .waiting i) →
    ∃ command answeredAt, t.answer = some (command,answeredAt) ∧ command.action = .humanAnswered ∧
      t.stopArgument = min command.deadlineMs (answeredAt + 10000)
  timeouts : ∀ ms ∈ t.timeouts, 0 ≤ ms ∧ ms ≤ 10000

theorem enable_deadline (h : Handler) (now : Int) : (h.enable now).transferDeadlineMs ≤ h.transferDeadlineMs := by
  have enables := enable_cases h now
  generalize h.enable now = after at enables ⊢
  cases enables with
  | announces =>
    rcases start_effect {h with ready := true} now with starts | ⟨_,same⟩
    · exact starts.deadline.trans_le (min_le_left _ _)
    · rw [same]
  | waits => exact le_rfl
  | converses => exact le_rfl

theorem timely_rule (timely : Timely t) : DeadlineRule t := by
  have setBy : t.handler.transferring = true ∨ t.handler.announcementTask ≠ none → ∃ command, t.setter = some command := by
    intro active
    cases set : t.setter with
    | some command => exact ⟨command,rfl⟩
    | none =>
      obtain ⟨off,none⟩ := timely.unwritten set
      rcases active with on | live
      · rw [off] at on
        cases on
      · exact absurd none live
  refine ⟨?_,?_,?_,timely.timeouts⟩
  · intro i active
    have current : t.handler.announcementTask = some i := by
      rcases active with live | current
      · exact live_current timely.tidy live.1 live.2
      · exact current
    have live : t.handler.announcementTask ≠ none := by rw [current]; exact Option.some_ne_none _
    obtain ⟨command,set⟩ := setBy (.inr live)
    exact ⟨command,set,timely.written command set,timely.capped live⟩
  · intro transferring unready
    obtain ⟨command,set⟩ := setBy (.inl transferring)
    exact ⟨command,set,fun registered => timely.held registered unready command set,
      fun now => (enable_deadline t.handler now).trans (timely.written command set)⟩
  · intro task present pc
    obtain ⟨command,answeredAt,answer,action,_,argument⟩ := (timely.sourced task present).1 pc
    exact ⟨command,answeredAt,answer,action,argument⟩

theorem takeover_deadlines
    (path : Runs (tick py) Forward (Timed.initial callId failed transfer session ready startedAt) events t) : DeadlineRule t :=
  timely_rule (path.invariant (fun _ _ _ timely forward next => tick_timely timely forward next) initial_timely)

def sampleTimed : Timed := .initial sampleCallId "Still here." "One moment." (some ⟨false,false⟩) false 1000

-- What an accepted command makes of the timed handler.
def Timed.taken (t : Timed) (command : ControlCommand) (now : Int) (after : Handler) : Timed :=
  let written := (t.advance now after).write t.handler command now
  if command.action = .humanAnswered then written.answers t.handler command now else written

theorem accepts_fresh {h : Handler} (parsed : ControlCommand.parse py packet h.callId = .ok command)
    (fresh : command.commandId ∉ h.seen) (running : h.stopping = false) : h.accepts py packet = some command := by
  have open_ : ¬ (command.commandId ∈ h.seen ∨ h.stopping = true) := by
    rw [running]
    simpa using fresh
  unfold Handler.accepts
  rw [parsed]
  exact if_neg open_

theorem tick_taken {t : Timed} (registered : t.registered = true)
    (parsed : ControlCommand.parse py packet t.handler.callId = .ok command) (fresh : command.commandId ∉ t.handler.seen)
    (running : t.handler.stopping = false) (received : (t.handler.receive py packet (steady now) provider).1 = after) :
    tick py t (now,.packet packet provider) = some (t.taken command now after) := by
  rw [tick,if_pos registered,Timed.receive,received,accepts_fresh parsed fresh running]
  rfl

def Timed.resumed (t : Timed) (event : Int × Tick) : Timed := (tick verbatim t event).getD t

theorem resumed_tick (happens : (tick verbatim t event).isSome = true) : tick verbatim t event = some (t.resumed event) := by
  obtain ⟨after,next⟩ := Option.isSome_iff_exists.mp happens
  rw [Timed.resumed,next]
  rfl

-- The human answers three seconds after the request: the ten seconds of the statement
-- are cut down to the seven that the deadline leaves, and the stop task waits as long.
def timedEnabled : Timed := sampleTimed.resumed (1000,.activate)
def timedRequested : Timed := timedEnabled.taken ⟨"bridge:1",.transferRequested,11000⟩ 1000
  ((timedEnabled.handler.note ⟨"bridge:1",.transferRequested,11000⟩).transferRequested 11000 (steady 1000)).1
def timedBegun : Timed := timedRequested.resumed (1000,.announce 0 sampleProvider)
def timedSpoken : Timed := timedBegun.resumed (1000,.announce 0 sampleProvider)
def timedAnswered : Timed := timedSpoken.taken ⟨"bridge:2",.humanAnswered,11000⟩ 4000
  ((timedSpoken.handler.note ⟨"bridge:2",.humanAnswered,11000⟩).humanAnswered 11000 (steady 4000) sampleProvider).1
def timedWaiting : Timed := timedAnswered.resumed (4000,.stop .finished sampleProvider)

def timedEvents : List (Int × Tick) :=
  [(1000,.activate),(1000,.packet (samplePacket "bridge:1" .transferRequested) sampleProvider),
    (1000,.announce 0 sampleProvider),(1000,.announce 0 sampleProvider),
    (4000,.packet (samplePacket "bridge:2" .humanAnswered) sampleProvider),(4000,.stop .finished sampleProvider)]

theorem timed_requests : tick verbatim timedEnabled
    (1000,.packet (samplePacket "bridge:1" .transferRequested) sampleProvider) = some timedRequested := by
  have parsed := sample_parsed (h := timedEnabled.handler) rfl (.inl rfl) .transferRequested
  apply tick_taken rfl parsed (by decide) rfl
  rw [receive_requested parsed (by decide) rfl rfl]

theorem timed_answers : tick verbatim timedSpoken
    (4000,.packet (samplePacket "bridge:2" .humanAnswered) sampleProvider) = some timedAnswered := by
  have parsed := sample_parsed (h := timedSpoken.handler) rfl (.inr rfl) .humanAnswered
  apply tick_taken rfl parsed (by decide) rfl
  rw [receive_human parsed (by decide) rfl rfl]

theorem timed_path : Runs (tick verbatim) Forward sampleTimed timedEvents timedWaiting := by
  have forward : ∀ t : Timed, ∀ event : Int × Tick, t.clock = 1000 → 1000 ≤ event.1 → Forward t event := by
    intro t event clock later
    rw [Forward,clock]
    exact later
  apply Runs.cons (forward sampleTimed _ rfl (by decide)) (resumed_tick rfl)
  apply Runs.cons (forward timedEnabled _ rfl (by decide)) timed_requests
  apply Runs.cons (forward timedRequested _ rfl (by decide)) (resumed_tick rfl)
  apply Runs.cons (forward timedBegun _ rfl (by decide)) (resumed_tick rfl)
  apply Runs.cons (forward timedSpoken _ rfl (by decide)) timed_answers
  apply Runs.single _ (resumed_tick rfl)
  exact le_refl (4000 : Int)

theorem sample_deadlines : DeadlineRule timedWaiting ∧ timedWaiting.timeouts = [7000,7000,10000] ∧
    timedWaiting.handler.stopTask = some ⟨.waiting 0,false⟩ ∧
    timedWaiting.answer = some (⟨"bridge:2",.humanAnswered,11000⟩,4000) :=
  ⟨takeover_deadlines timed_path,by decide,rfl,rfl⟩

end AidaAgent.Control
