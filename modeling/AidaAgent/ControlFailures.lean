import AidaAgent.ControlCommands

namespace AidaAgent.Control
open JsonText Config Transitions

-- A handler that stops has its stop task, and one whose stop task has run to its
-- end has left the room and shut the job down. A task that is cancelled before its
-- first step never runs.
structure HandedOver (h : Handler) : Prop where
  created : h.stopping = true → h.stopTask.isSome = true
  ended : ∀ task, h.stopTask = some task → task.pc.finished = true → task.pc ≠ .neverRan →
    h.calls.count .disconnect = 1 ∧ h.calls.count .shutdown = 1

structure Sound (h : Handler) : Prop where
  created : h.stopping = true → h.stopTask.isSome = true
  unraised : ∀ task error, h.stopTask = some task → task.pc ≠ .raised error

-- Only an exception can end the stop task early.
theorem handedOver_exact (counted : Counted h) : HandedOver h ↔ Sound h := by
  have counts : ∀ task, h.stopTask = some task → (h.calls.count .shutdown = 1 ↔ task.pc = .ended) := by
    rintro ⟨pc,cancelled⟩ present
    rw [counted.shutdown,past,present]
    cases pc <;> simp
  have leaves : ∀ task, h.stopTask = some task → task.pc = .ended → h.calls.count .disconnect = 1 := by
    rintro ⟨pc,cancelled⟩ present ended
    cases ended
    rw [counted.disconnected,left,present]
  constructor
  · intro past
    refine ⟨past.created,fun task error present raised => ?_⟩
    have both := past.ended task present (by rw [raised]; rfl) (by rw [raised]; simp)
    have ended := (counts task present).mp both.2
    rw [raised] at ended
    cases ended
  · intro sound
    refine ⟨sound.created,fun task present finished ran => ?_⟩
    have ended : task.pc = .ended := by
      have unraised := fun error => sound.unraised task error present
      cases pc : task.pc with
      | ended => rfl
      | neverRan => exact absurd pc ran
      | raised error => exact absurd pc (unraised error)
      | _ => rw [pc] at finished; cases finished
    exact ⟨leaves task present ended,(counts task present).mpr ended⟩

-- The session answers a silence with nothing but RuntimeError.
def Quieting (h : Handler) (provider : Provider) : Prop :=
  h.session.isSome = true → provider.interrupt.handled ∧ (provider.interrupt = .returns → provider.sessionShutdown.handled)

theorem silence_quieting (h : Handler) (provider : Provider) : (h.silence provider).2 = none ↔ Quieting h provider := by
  unfold Handler.silence Quieting Outcome.handled
  cases h.session with
  | none => simp
  | some s =>
    dsimp only
    cases provider.interrupt with
    | raises error => cases error <;> simp
    | returns =>
      dsimp only
      cases provider.sessionShutdown with
      | returns => simp
      | raises error => cases error <;> simp

-- The current announcement is over, but has left its timeout behind.
def Unschedulable (h : Handler) (remaining : Int) : Prop :=
  (h.ready = true ∧ h.session.isSome = true ∧ 0 < remaining) ∧ ¬ (h.transferring = false ∧ h.transferStatement ≠ "") ∧
    ∃ i, h.announcementTimeout = some i ∧ ((h.tasks i).timer = .unset ∨ (h.tasks i).timer = .exited)

-- An announcement runs, or is started now.
def Graceful (h : Handler) (remaining : Int) : Prop :=
  h.ready = true ∧ 0 < remaining ∧
    (h.announcementTask.isSome = true ∨ h.session.isSome = true ∧ h.transferring = false ∧ h.transferStatement ≠ "")

theorem prepare_schedulable (h : Handler) (remaining : Int) (clock : Clock) :
    (h.prepareHandoff remaining clock).2 = none ↔ ¬ Unschedulable h remaining := by
  unfold Handler.prepareHandoff
  split
  · rename_i opened
    dsimp only
    split
    · rename_i fresh
      exact iff_of_true rfl fun stuck => stuck.2.1 fresh
    · rename_i stale
      split
      · rename_i none
        refine iff_of_true rfl ?_
        rintro ⟨_,_,i,timed,_⟩
        rw [none] at timed
        cases timed
      · rename_i i timed
        have same : Unschedulable h remaining ↔ (h.tasks i).timer = .unset ∨ (h.tasks i).timer = .exited := by
          constructor
          · rintro ⟨_,_,j,other,timer⟩
            cases timed.symm.trans other
            exact timer
          · exact fun timer => ⟨opened,stale,i,timed,timer⟩
        rw [same]
        cases (h.tasks i).timer <;> simp
  · rename_i shut
    exact iff_of_true rfl fun stuck => shut stuck.1

theorem start_current {h : Handler} (now : Int) (opened : h.ready = true ∧ h.session.isSome = true) :
    (h.startAnnouncement now).ready = true ∧ (h.startAnnouncement now).announcementTask.isSome = true := by
  rw [start_exact h now opened]
  exact ⟨opened.1,rfl⟩

theorem prepare_graceful (h : Handler) (remaining : Int) (clock : Clock) :
    ((h.prepareHandoff remaining clock).1.ready = true ∧ 0 < remaining ∧
      (h.prepareHandoff remaining clock).1.announcementTask.isSome = true) ↔ Graceful h remaining := by
  unfold Handler.prepareHandoff Graceful
  split
  · rename_i opened
    dsimp only
    split
    · rename_i fresh
      have started := start_current (h := {h with transferDeadlineMs := clock.second + remaining, transferring := true})
        clock.third ⟨opened.1,opened.2.1⟩
      exact iff_of_true ⟨started.1,opened.2.2,started.2⟩ ⟨opened.1,opened.2.2,.inr ⟨opened.2.1,fresh⟩⟩
    · rename_i stale
      have running : ∀ {P : Prop}, P ∨ h.session.isSome = true ∧ h.transferring = false ∧ h.transferStatement ≠ "" ↔ P :=
        or_iff_left fun started => stale started.2
      rw [running]
      split
      · exact Iff.rfl
      · split <;> exact Iff.rfl
  · rename_i shut
    constructor
    · rintro ⟨ready,positive,current⟩
      exact ⟨ready,positive,.inl current⟩
    · rintro ⟨ready,positive,current | ⟨session,_⟩⟩
      · exact ⟨ready,positive,current⟩
      · exact absurd ⟨ready,session,positive⟩ shut

-- The condition on one step. A takeover starts or keeps an announcement that can
-- still be rescheduled, or silences a session that behaves; so does the end of the
-- handoff, whose announcement has not ended with an exception.
def Handled (py : Interpreter) (h : Handler) : Event → Prop
  | .packet packet clock provider => ∀ command, ControlCommand.parse py packet h.callId = .ok command →
      command.commandId ∉ h.seen → h.stopping = false → command.action = .humanAnswered →
      ¬ Unschedulable h (remainingMs command.deadlineMs clock) ∧
        (Graceful h (remainingMs command.deadlineMs clock) ∨ Quieting h provider)
  | .stop wake provider => ∀ task, h.stopTask = some task →
      (task.pc = .handoff → task.cancelled = false → h.announcementTask = none → Quieting h provider) ∧
        ∀ i, task.pc = .waiting i → Excused h wake i ∧ Quieting h provider
  | _ => True

theorem sound_same (stopping : h'.stopping = h.stopping) (stopTask : h'.stopTask = h.stopTask) : Sound h' ↔ Sound h := by
  constructor
  · rintro ⟨created,unraised⟩
    rw [stopping,stopTask] at created
    rw [stopTask] at unraised
    exact ⟨created,unraised⟩
  · rintro ⟨created,unraised⟩
    rw [← stopping,← stopTask] at created
    rw [← stopTask] at unraised
    exact ⟨created,unraised⟩

theorem answered_same (h : Handler) : (∀ remaining, Unschedulable h.answered remaining ↔ Unschedulable h remaining) ∧
    ∀ remaining, Graceful h.answered remaining ↔ Graceful h remaining := by
  unfold Handler.answered
  split <;> exact ⟨fun _ => Iff.rfl,fun _ => Iff.rfl⟩

theorem quieting_cancelled (h : Handler) (provider : Provider) :
    (h.cancelAnnouncement.silence provider).2 = none ↔ Quieting h provider := by
  rw [silence_quieting,Quieting,(cancel_ready h).2]
  rfl

-- A takeover that is accepted leaves a stop task exactly where its session is handled.
theorem human_sound (idle : h.stopTask = none) (deadline : Int) (clock : Clock) (provider : Provider) :
    Sound (h.humanAnswered deadline clock provider).1 ↔ ¬ Unschedulable h (remainingMs deadline clock) ∧
      (Graceful h (remainingMs deadline clock) ∨ Quieting h provider) := by
  have frame := frame_prepare h.answered (remainingMs deadline clock) clock
  have unstarted := frame.stopTask.trans ((answered_exact h).2.2.2.1.trans idle)
  have stopping := frame.stopping.trans (answered_exact h).2.2.1
  have schedulable := prepare_schedulable h.answered (remainingMs deadline clock) clock
  have graceful := prepare_graceful h.answered (remainingMs deadline clock) clock
  have session : ∀ provider, Quieting (h.answered.prepareHandoff (remainingMs deadline clock) clock).1 provider ↔
      Quieting h provider := by
    intro provider
    have same : h.answered.session = h.session := by
      unfold Handler.answered
      split <;> rfl
    rw [Quieting,frame.session,same]
    rfl
  rw [(answered_same h).1] at schedulable
  rw [(answered_same h).2] at graceful
  have answers := human_cases h deadline clock provider
  generalize h.humanAnswered deadline clock provider = result at answers ⊢
  generalize h.answered.prepareHandoff (remainingMs deadline clock) clock = p at frame unstarted stopping schedulable graceful session answers
  have missing : ∀ {out : Handler}, out.stopping = true → out.stopTask = none → ¬ Sound out := by
    intro out stopped none sound
    have some := sound.created stopped
    rw [none] at some
    cases some
  have quiet := (frame_cancel p.1).trans (frame_silence p.1.cancelAnnouncement provider)
  have started : ∀ {out : Handler} {pc}, (∀ error, pc ≠ .raised error) → Sound {out with stopTask := some ⟨pc,false⟩} := by
    intro out pc unraised
    refine ⟨fun _ => rfl,fun task error present => ?_⟩
    cases Option.some.inj present
    exact unraised error
  cases answers with
  | stuck failed =>
    refine iff_of_false (missing stopping unstarted) fun fine => ?_
    rw [schedulable.mpr fine.1] at failed
    cases failed
  | graceful schedules ready positive current =>
    exact iff_of_true (started (by simp)) ⟨schedulable.mp schedules,.inl (graceful.mp ⟨ready,positive,current⟩)⟩
  | broken _ unready failed =>
    refine iff_of_false (missing (quiet.stopping.trans stopping) (quiet.stopTask.trans unstarted)) ?_
    rintro ⟨_,announced | quieting⟩
    · exact unready (graceful.mpr announced)
    · rw [(quieting_cancelled p.1 provider).mpr ((session provider).mpr quieting)] at failed
      cases failed
  | immediate schedules _ silent =>
    exact iff_of_true (started (by simp))
      ⟨schedulable.mp schedules,.inr ((session provider).mp ((quieting_cancelled p.1 provider).mp silent))⟩

theorem receive_sound (counted : Counted h) (sound : Sound h) (packet : Packet) (clock : Clock) (provider : Provider) :
    Sound (h.receive py packet clock provider).1 ↔ Handled py h (.packet packet clock provider) := by
  have receives := @receive_cases py h packet clock provider
  generalize h.receive py packet clock provider = result at receives ⊢
  have noted : ∀ {command}, Sound (h.note command) := fun {_} => ⟨sound.created,sound.unraised⟩
  have single : ∀ {one two}, ControlCommand.parse py packet h.callId = .ok one →
      ControlCommand.parse py packet h.callId = .ok two → one = two := by
    intro one two first second
    rw [first] at second
    exact Except.ok.inj second
  have other : ∀ {command : ControlCommand}, ControlCommand.parse py packet h.callId = .ok command →
      command.action ≠ .humanAnswered → Handled py h (.packet packet clock provider) := by
    intro command parsed action again reparsed _ _ human
    cases single parsed reparsed
    exact absurd human action
  cases receives with
  | refused stale =>
    refine iff_of_true sound fun command parsed fresh running _ => ?_
    rcases stale command parsed with seen | stopping
    · exact absurd seen fresh
    · rw [running] at stopping; cases stopping
  | @human command parsed fresh running action =>
    have idle := running_idle counted running
    refine (human_sound (h := h.note command) idle _ clock provider).trans ⟨?_,?_⟩
    · intro fine again reparsed _ _ _
      cases single parsed reparsed
      exact fine
    · exact fun fine => fine command parsed fresh running action
  | @requested command parsed _ _ action =>
    have frame := frame_requested (h.note command) command.deadlineMs clock
    exact iff_of_true ((sound_same frame.stopping frame.stopTask).mpr noted) (other parsed (by rw [action]; decide))
  | @failed command parsed _ _ action =>
    have frame := frame_failed (h.note command) command.deadlineMs clock provider
    exact iff_of_true ((sound_same frame.stopping frame.stopTask).mpr noted) (other parsed (by rw [action]; decide))

theorem leave_sound (h : Handler) (escaping : Option Error) (provider : Provider) :
    Sound (h.leaveHandoff escaping provider) ↔ escaping = none ∧ Quieting h provider := by
  have quieting := quieting_cancelled h provider
  rcases leave_cases h escaping provider with ⟨error,failed,same⟩ | ⟨silent,none,same⟩
  · rw [same]
    refine iff_of_false (fun sound => sound.unraised _ error rfl rfl) ?_
    rintro ⟨none,fine⟩
    rcases failed with raised | escaped
    · rw [quieting.mpr fine] at raised
      cases raised
    · rw [none] at escaped
      cases escaped
  · rw [same]
    refine iff_of_true ⟨fun _ => rfl,fun task error present => ?_⟩ ⟨none,quieting.mp silent⟩
    cases Option.some.inj present
    simp

theorem stop_sound (next : h.stop wake provider = some h') : Sound h' ↔ Handled py h (.stop wake provider) := by
  have moved : ∀ {out : Handler} {pc}, (∀ error, pc ≠ .raised error) → Sound (out.setStop pc) := by
    intro out pc unraised
    refine ⟨fun _ => rfl,fun task error present => ?_⟩
    cases Option.some.inj present
    exact unraised error
  have handled : ∀ {task : StopTask}, h.stopTask = some task → (task.pc = .handoff → task.cancelled = false →
      h.announcementTask ≠ none) → (∀ i, task.pc ≠ .waiting i) → Handled py h (.stop wake provider) := by
    intro task present handoff waiting again same
    rw [present] at same
    cases same
    exact ⟨fun pc live none => absurd none (handoff pc live),fun i pc => absurd pc (waiting i)⟩
  cases stop_cases next with
  | dropped present pc cancelled =>
    refine iff_of_true (moved (by simp)) (handled present (fun _ live => ?_) fun i waiting => ?_)
    · rw [cancelled] at live
      cases live
    · rw [waiting] at pc
      rcases pc with pc | pc <;> cases pc
  | waits present pc current =>
    refine iff_of_true (moved (by simp)) (handled present (fun _ _ => ?_) fun i waiting => ?_)
    · rw [current]
      simp
    · rw [pc] at waiting
      cases waiting
  | @leaves task escaping present escapes =>
    rw [leave_sound]
    rcases escapes with ⟨rfl,handoff,live,none⟩ | ⟨i,waiting,excused⟩
    · constructor
      · rintro ⟨_,quieting⟩ again same
        cases present.symm.trans same
        refine ⟨fun _ _ _ => quieting,fun i waiting => ?_⟩
        rw [handoff] at waiting
        cases waiting
      · exact fun fine => ⟨rfl,(fine task present).1 handoff live none⟩
    · rw [excused]
      constructor
      · rintro ⟨timely,quieting⟩ again same
        cases present.symm.trans same
        refine ⟨fun handoff => ?_,fun j other => ?_⟩
        · rw [handoff] at waiting
          cases waiting
        · cases waiting.symm.trans other
          exact ⟨timely,quieting⟩
      · exact fun fine => (fine task present).2 i waiting
  | disconnects present pc =>
    exact iff_of_true (moved (by simp)) (handled present (by rw [pc]; simp) (by rw [pc]; simp))
  | ends present pc =>
    exact iff_of_true (moved (by simp)) (handled present (by rw [pc]; simp) (by rw [pc]; simp))

theorem step_sound (counted : Counted h) (sound : Sound h) (next : step py h event = some h') :
    Sound h' ↔ Handled py h event := by
  cases event with
  | packet packet clock provider => cases next; exact receive_sound counted sound packet clock provider
  | activate now =>
    cases next
    have unmoved := enable_unmoved h now
    have stopTask : (h.enable now).stopTask = h.stopTask := by
      have enables := enable_cases h now
      generalize h.enable now = out at enables ⊢
      cases enables with
      | announces => exact (frame_start _ now).stopTask
      | _ => rfl
    exact iff_of_true ((sound_same unmoved.2.2 stopTask).mpr sound) trivial
  | announce i now provider =>
    have frame := frame_announce next
    exact iff_of_true ((sound_same frame.stopping frame.stopTask).mpr sound) trivial
  | expire i =>
    have frame := frame_expire next
    exact iff_of_true ((sound_same frame.stopping frame.stopTask).mpr sound) trivial
  | stop wake provider => exact stop_sound next
  | cancelStop =>
    obtain ⟨task,present,_,rfl⟩ := cancelStop_cases next
    refine iff_of_true ⟨fun _ => rfl,fun again error same => ?_⟩ trivial
    cases Option.some.inj same
    exact sound.unraised task error present
  | close =>
    cases next
    have frame := frame_cancel h
    exact iff_of_true ((sound_same frame.stopping frame.stopTask).mpr sound) trivial

-- A run hands the call over in every state it reaches if and only if each of its
-- steps meets the condition.
theorem handoff_exact
    (path : Runs (step py) Anything (Handler.initial callId session failed transfer ready) events h) :
    (∀ earlier later middle, events = earlier ++ later →
        Runs (step py) Anything (Handler.initial callId session failed transfer ready) earlier middle → HandedOver middle) ↔
      Runs (step py) (Handled py) (Handler.initial callId session failed transfer ready) events h := by
  have initial : Sound (Handler.initial callId session failed transfer ready) :=
    ⟨(fun none => by cases none),fun _ _ none => by cases none⟩
  rw [← path.exactly initial_counted initial (fun _ _ _ counted _ next => counted_step counted next)
    fun _ _ _ counted _ sound next => step_sound counted sound next]
  have counted : ∀ {front state}, Runs (step py) Anything (Handler.initial callId session failed transfer ready) front state →
      Counted state := fun passed => passed.invariant (fun _ _ _ held _ next => counted_step held next) initial_counted
  constructor
  · exact fun passes front back state same passed =>
      (handedOver_exact (counted passed)).mp (passes front back state same passed)
  · exact fun passes front back state same passed =>
      (handedOver_exact (counted passed)).mpr (passes front back state same passed)

theorem asks_handled {h : Handler} (same : h.callId = sampleCallId) :
    Handled verbatim h (.packet (samplePacket "bridge:1" .transferRequested) sampleClock sampleProvider) := by
  intro command parsed _ _ human
  rw [sample_parsed same (.inl rfl) .transferRequested] at parsed
  cases parsed
  cases human

theorem stray_handled (h : Handler) : Handled verbatim h (.packet strayPacket sampleClock sampleProvider) := by
  intro command parsed
  rw [stray_untrusted] at parsed
  cases parsed

theorem answer_handled :
    Handled verbatim sampleSpoken (.packet (samplePacket "bridge:2" .humanAnswered) sampleClock sampleProvider) := by
  intro command parsed _ _ _
  rw [sample_parsed rfl (.inr rfl) .humanAnswered] at parsed
  cases parsed
  have announcing : Graceful sampleSpoken (remainingMs 11000 sampleClock) := ⟨rfl,by decide,.inl rfl⟩
  have timed : sampleSpoken.announcementTimeout = some 0 ∧ (sampleSpoken.tasks 0).timer = .entered := ⟨rfl,rfl⟩
  refine ⟨?_,.inl announcing⟩
  rintro ⟨_,_,i,current,early⟩
  cases timed.1.symm.trans current
  rw [timed.2] at early
  rcases early with unset | exited
  · cases unset
  · cases exited

-- A stop task that does not wait is not held to anything.
theorem stop_handled {h : Handler} (pc : StopPc) (present : h.stopTask = some ⟨pc,false⟩)
    (waits : pc = .handoff → h.announcementTask ≠ none)
    (excused : ∀ i, pc = .waiting i → Excused h .finished i ∧ Quieting h sampleProvider) : Handled verbatim h stopped := by
  intro task same
  cases present.symm.trans same
  exact ⟨fun handoff _ none => absurd none (waits handoff),excused⟩

theorem sample_handled : ∀ s ∈ sampleTrace, Handled verbatim s.1 s.2 := by
  have quieting : Quieting samplePlayed sampleProvider := fun _ => ⟨.inl rfl,fun _ => .inl rfl⟩
  have leaves : Handled verbatim samplePlayed stopped := by
    refine stop_handled (.waiting 0) rfl (by simp) fun i waiting => ?_
    cases waiting
    have unfailed : (samplePlayed.tasks 0).failed = none := rfl
    refine ⟨fun _ error failed => ?_,quieting⟩
    rw [unfailed] at failed
    cases failed
  simp only [sampleTrace,List.forall_mem_cons]
  exact ⟨trivial,asks_handled rfl,trivial,trivial,stray_handled _,asks_handled rfl,answer_handled,
    stop_handled .handoff rfl (fun _ none => by cases none) (by simp),trivial,leaves,
    stop_handled .leaving rfl (by simp) (by simp),List.forall_mem_nil _⟩

theorem sample_handoff : Runs (step verbatim) (Handled verbatim) sampleStart sampleEvents sampleLeft ∧
    (∀ earlier later middle, sampleEvents = earlier ++ later →
      Runs (step verbatim) Anything sampleStart earlier middle → HandedOver middle) ∧
    .accepted ⟨"bridge:2",.humanAnswered,11000⟩ ∈ sampleLeft.calls ∧ sampleLeft.stopTask = some ⟨.ended,false⟩ := by
  have handled := sample_path sample_handled
  have path : Runs (step verbatim) Anything sampleStart sampleEvents sampleLeft := sample_path fun _ _ => trivial
  exact ⟨handled,(handoff_exact path).mpr handled,by decide,rfl⟩

-- A session that answers the silence with another exception than RuntimeError.
def brokenProvider : Provider := {sampleProvider with interrupt := .raises .other}

theorem handoff_prevented : ∃ h, Runs (step verbatim) Anything sampleStart
    [.packet (samplePacket "bridge:1" .humanAnswered) sampleClock brokenProvider] h ∧
      .accepted ⟨"bridge:1",.humanAnswered,11000⟩ ∈ h.calls ∧ h.stopTask = none ∧ ¬ HandedOver h := by
  have parsed := sample_parsed (h := sampleStart) rfl (.inl rfl) .humanAnswered
  have received : step verbatim sampleStart
      (.packet (samplePacket "bridge:1" .humanAnswered) sampleClock brokenProvider) =
        some ((sampleStart.note ⟨"bridge:1",.humanAnswered,11000⟩).humanAnswered 11000 sampleClock brokenProvider).1 := by
    rw [step,receive_human (h := sampleStart) parsed (by decide) rfl rfl]
  refine ⟨_,.single trivial received,by decide,rfl,fun past => ?_⟩
  cases past.created rfl

end AidaAgent.Control
