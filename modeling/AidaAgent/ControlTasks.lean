import AidaAgent.ControlSteps

namespace AidaAgent.Control
open JsonText Config

-- Bookkeeping of the announcement tasks: the current one is not cancelled, and
-- one that has ended is current only if it ended with an exception; every other
-- live task is cancelled; the timeout belongs to the current task.
structure Tidy (h : Handler) : Prop where
  current : ∀ i, h.announcementTask = some i → (h.tasks i).cancelled = false ∧ i < h.created ∧
    h.session.isSome = true ∧ ((h.tasks i).pc = .done → (h.tasks i).failed.isSome = true)
  obsolete : ∀ i, h.announcementTask ≠ some i → (h.tasks i).pc ≠ .done → (h.tasks i).cancelled = true
  unborn : ∀ i, h.created ≤ i → (h.tasks i).pc = .done
  timeout : ∀ i, h.announcementTimeout = some i → h.announcementTask = some i ∧ (h.tasks i).timer ≠ .unset
  left : ∀ i, (h.tasks i).timer = .exited → (h.tasks i).pc = .done

theorem cancelled_task (t : AnnounceTask) : t.cancel.pc = t.pc ∧ t.cancel.timer = t.timer ∧ t.cancel.failed = t.failed ∧
    (t.pc ≠ .done → t.cancel.cancelled = true) := by
  unfold AnnounceTask.cancel
  split <;> simp_all

theorem initial_tidy : Tidy (Handler.initial callId session failed transfer ready) := by
  refine ⟨?_,?_,?_,?_,?_⟩
  all_goals intro i; simp [Handler.initial,absent]

theorem tidy_cancel (tidy : Tidy h) : Tidy h.cancelAnnouncement := by
  rw [cancel_exact]
  refine ⟨?_,?_,?_,?_,?_⟩
  · intro i current
    cases current
  · intro i _ live
    dsimp only at live ⊢
    by_cases same : h.announcementTask = some i
    · rw [if_pos same] at live ⊢
      exact (cancelled_task _).2.2.2 ((cancelled_task _).1 ▸ live)
    · rw [if_neg same] at live ⊢
      exact tidy.obsolete i same live
  · intro i late
    dsimp only
    split
    · rw [(cancelled_task _).1]
      exact tidy.unborn i late
    · exact tidy.unborn i late
  · intro i timed
    dsimp only at timed
    split at timed
    · rename_i none
      have current := (tidy.timeout i timed).1
      rw [none] at current
      cases current
    · cases timed
  · intro i
    dsimp only
    split
    · rw [(cancelled_task _).1,(cancelled_task _).2.1]
      exact tidy.left i
    · exact tidy.left i

theorem tidy_start (tidy : Tidy h) (now : Int) : Tidy (h.startAnnouncement now) := by
  by_cases opened : h.ready = true ∧ h.session.isSome = true
  · have cancelled := tidy_cancel tidy
    rw [cancel_exact] at cancelled
    rw [start_exact h now opened]
    refine ⟨?_,?_,?_,?_,?_⟩
    · intro i current
      cases current
      have present := opened.2
      simpa using present
    · intro i other live
      have differs : i ≠ h.created := fun same => other (same ▸ rfl)
      dsimp only at live ⊢
      rw [if_neg differs] at live ⊢
      exact cancelled.obsolete i (by simp) live
    · intro i late
      dsimp only at late ⊢
      rw [if_neg (by omega)]
      exact cancelled.unborn i (by dsimp only; omega)
    · intro i timed
      exact absurd (cancelled.timeout i timed).1 (by simp)
    · intro i
      dsimp only
      split
      · simp
      · exact cancelled.left i
  · rw [start_closed opened]
    exact tidy

theorem tidy_silence (tidy : Tidy h) (provider : Provider) : Tidy (h.silence provider).1 := by
  obtain ⟨extra,_,exact⟩ := silence_exact h provider
  rw [exact]
  refine ⟨?_,tidy.obsolete,tidy.unborn,tidy.timeout,tidy.left⟩
  intro i current
  have known := tidy.current i current
  simpa using known

-- A task that moves on: it stays as cancelled as it was, and does not come back
-- to life.
theorem tidy_move (tidy : Tidy h) (i : Nat) (t : AnnounceTask) (flag : t.cancelled = (h.tasks i).cancelled)
    (live : t.pc ≠ .done → (h.tasks i).pc ≠ .done) (timer : (h.tasks i).timer ≠ .unset → t.timer ≠ .unset)
    (left : t.timer = .exited → t.pc = .done)
    (done : t.pc = .done → h.announcementTask = some i → t.failed.isSome = true) : Tidy (h.setTask i t) := by
  refine ⟨?_,?_,?_,?_,?_⟩
  · intro j current
    obtain ⟨fresh,born,present,ended⟩ := tidy.current j current
    by_cases same : j = i
    · subst j
      simpa [Handler.setTask,flag] using ⟨fresh,born,present,fun past => done past current⟩
    · simpa [Handler.setTask,same] using ⟨fresh,born,present,ended⟩
  · intro j stale
    by_cases same : j = i
    · subst j
      simpa [Handler.setTask,flag] using fun alive => tidy.obsolete i stale (live alive)
    · simpa [Handler.setTask,same] using tidy.obsolete j stale
  · intro j late
    have past := tidy.unborn j late
    by_cases same : j = i
    · subst j
      have still : t.pc = .done := by
        by_contra alive
        exact live alive past
      simpa [Handler.setTask] using still
    · simpa [Handler.setTask,same] using past
  · intro j timed
    obtain ⟨current,set⟩ := tidy.timeout j timed
    by_cases same : j = i
    · subst j
      simpa [Handler.setTask] using ⟨current,timer set⟩
    · simpa [Handler.setTask,same] using ⟨current,set⟩
  · intro j
    by_cases same : j = i
    · simpa [Handler.setTask,same] using left
    · simpa [Handler.setTask,same] using tidy.left j

theorem leave_set (set : t ≠ Timer.unset) : t.leave ≠ .unset := by
  cases t <;> simp_all [Timer.leave]

theorem tidy_finish (tidy : Tidy h) (i : Nat) (spoken : Bool) (provider : Provider) :
    Tidy (h.finishAnnounce i spoken provider) := by
  rcases finish_exact h i spoken provider with ⟨_,error,_,exact⟩ | ⟨other,exact⟩ | ⟨current,exact⟩
  · have moved : Tidy (h.setTask i {finishedTask (h.tasks i) with failed := some error}) :=
      tidy_move tidy i _ rfl (fun alive => absurd rfl alive) leave_set (fun _ => rfl) fun _ _ => rfl
    rw [exact]
    exact ⟨moved.current,moved.obsolete,moved.unborn,moved.timeout,moved.left⟩
  · have moved : Tidy (h.setTask i (finishedTask (h.tasks i))) :=
      tidy_move tidy i _ rfl (fun alive => absurd rfl alive) leave_set (fun _ => rfl) fun _ now => absurd now other
    rw [exact]
    exact ⟨moved.current,moved.obsolete,moved.unborn,moved.timeout,moved.left⟩
  · rw [exact]
    refine ⟨?_,?_,?_,?_,?_⟩
    · intro j none
      cases none
    · intro j _ alive
      by_cases same : j = i
      · simp [Handler.setTask,same,finishedTask] at alive
      · have stale : h.announcementTask ≠ some j := by
          rw [current]
          simpa using Ne.symm same
        simpa [Handler.setTask,same] using tidy.obsolete j stale (by simpa [Handler.setTask,same] using alive)
    · intro j late
      by_cases same : j = i
      · simp [Handler.setTask,same,finishedTask]
      · simpa [Handler.setTask,same] using tidy.unborn j late
    · intro j none
      cases none
    · intro j
      by_cases same : j = i
      · simp [Handler.setTask,same,finishedTask]
      · simpa [Handler.setTask,same] using tidy.left j

theorem tidy_timeout (tidy : Tidy h) (current : h.announcementTask = some i) (set : (h.tasks i).timer ≠ .unset) :
    Tidy {h with announcementTimeout := some i} := by
  refine ⟨tidy.current,tidy.obsolete,tidy.unborn,?_,tidy.left⟩
  intro j timed
  cases timed
  exact ⟨current,set⟩

-- A live task that is not cancelled is the current one.
theorem live_current (tidy : Tidy h) (live : (h.tasks i).pc ≠ .done) (fresh : (h.tasks i).cancelled = false) :
    h.announcementTask = some i := by
  by_contra stale
  rw [tidy.obsolete i stale live] at fresh
  cases fresh

theorem tidy_audio (tidy : Tidy h) (s : Session → Session) (extra : List Call) :
    Tidy {h with session := h.session.map s, calls := extra ++ h.calls} := by
  refine ⟨?_,tidy.obsolete,tidy.unborn,tidy.timeout,tidy.left⟩
  intro i current
  simpa using tidy.current i current

theorem tidy_entered (tidy : Tidy h) (created : (h.tasks i).pc = .created) (fresh : (h.tasks i).cancelled = false)
    (t : AnnounceTask) (flag : t.cancelled = false) (timer : t.timer = .entered) (live : t.pc ≠ .done) :
    Tidy {(h.setTask i t).call .interrupt with announcementTimeout := some i} := by
  have alive : (h.tasks i).pc ≠ .done := by rw [created]; decide
  have moved := tidy_move tidy i t (flag.trans fresh.symm) (fun _ => alive) (by simp [timer]) (by simp [timer])
    fun past _ => absurd past live
  have current : h.announcementTask = some i := live_current tidy alive fresh
  exact tidy_timeout (h := (h.setTask i t).call .interrupt)
    ⟨moved.current,moved.obsolete,moved.unborn,moved.timeout,moved.left⟩ current
    (by simp [Handler.setTask,Handler.call,timer])

theorem tidy_announce (tidy : Tidy h) (next : h.announce i now provider = some h') : Tidy h' := by
  cases announce_cases next with
  | dropped created cancelled =>
    refine tidy_move tidy i _ rfl (fun alive => absurd rfl alive) id (fun _ => rfl) ?_
    intro _ current
    rw [(tidy.current i current).1] at cancelled
    cases cancelled
  | late => exact tidy_finish tidy i false provider
  | refused created fresh =>
    exact tidy_finish (tidy_entered tidy created fresh {h.tasks i with timer := .entered} fresh rfl (by simp [created]))
      i false provider
  | begun created fresh =>
    exact tidy_entered tidy created fresh {h.tasks i with timer := .entered, pc := .interrupting} fresh rfl (by simp)
  | silent => exact tidy_finish tidy i false provider
  | unsaid => exact tidy_finish (tidy_audio tidy _ [_,_]) i false provider
  | said interrupting fresh timely =>
    have moved := tidy_move tidy i {h.tasks i with pc := .playing} rfl (fun _ => by rw [interrupting]; decide) id
      (fun left => absurd (tidy.left i left) (by rw [interrupting]; decide)) (by simp)
    exact tidy_audio moved _ [_,_]
  | played => exact tidy_finish tidy i true provider

theorem tidy_expire (tidy : Tidy h) (next : h.expire i = some h') : Tidy h' := by
  obtain ⟨_,running,rfl⟩ := expire_cases next
  have live : (h.tasks i).pc ≠ .done := by
    rcases running with pc | pc <;> rw [pc] <;> decide
  exact tidy_move tidy i _ rfl (fun _ => live) (by simp) (by simp) fun past => absurd past live

theorem tidy_prepare (tidy : Tidy h) (remaining : Int) (clock : Clock) : Tidy (h.prepareHandoff remaining clock).1 := by
  unfold Handler.prepareHandoff
  split
  · dsimp only
    split
    · have opened : Tidy {h with transferDeadlineMs := clock.second + remaining, transferring := true} :=
        ⟨tidy.current,tidy.obsolete,tidy.unborn,tidy.timeout,tidy.left⟩
      exact tidy_start opened clock.third
    · have timed : Tidy {h with transferDeadlineMs := clock.second + remaining} :=
        ⟨tidy.current,tidy.obsolete,tidy.unborn,tidy.timeout,tidy.left⟩
      split
      · exact timed
      · split <;> exact timed
  · exact tidy

theorem tidy_same (tidy : Tidy h) (tasks : h'.tasks = h.tasks) (current : h'.announcementTask = h.announcementTask)
    (timeout : h'.announcementTimeout = h.announcementTimeout) (created : h'.created = h.created)
    (session : h'.session.isSome = h.session.isSome) : Tidy h' := by
  refine ⟨?_,?_,?_,?_,?_⟩
  · rw [tasks,current,created,session]; exact tidy.current
  · rw [tasks,current]; exact tidy.obsolete
  · rw [tasks,created]; exact tidy.unborn
  · rw [tasks,current,timeout]; exact tidy.timeout
  · rw [tasks]; exact tidy.left

theorem tidy_human (tidy : Tidy h) (deadline : Int) (clock : Clock) (provider : Provider) :
    Tidy (h.humanAnswered deadline clock provider).1 := by
  have marked : Tidy h.answered := by
    unfold Handler.answered
    split <;> exact tidy_same tidy rfl rfl rfl rfl rfl
  have prepared := tidy_prepare marked (remainingMs deadline clock) clock
  have silenced := tidy_silence (tidy_cancel prepared) provider
  have answers := human_cases h deadline clock provider
  generalize h.humanAnswered deadline clock provider = result at answers ⊢
  cases answers with
  | stuck => exact prepared
  | graceful => exact tidy_same prepared rfl rfl rfl rfl (by simp [Handler.call,Handler.setInput])
  | broken => exact silenced
  | immediate => exact tidy_same silenced rfl rfl rfl rfl rfl

theorem tidy_requested (tidy : Tidy h) (deadline : Int) (clock : Clock) :
    Tidy (h.transferRequested deadline clock).1 := by
  unfold Handler.transferRequested
  split
  · have opened : Tidy {h.call .episode with transferring := true, transferDeadlineMs := deadline} :=
      tidy_same tidy rfl rfl rfl rfl rfl
    exact tidy_start opened clock.second
  · exact tidy

theorem tidy_failed (tidy : Tidy h) (deadline : Int) (clock : Clock) (provider : Provider) :
    Tidy (h.transferFailed deadline clock provider).1 := by
  have cancelled : Tidy ({h with transferring := false} : Handler).cancelAnnouncement :=
    tidy_cancel (tidy_same tidy rfl rfl rfl rfl rfl)
  have audible : Tidy ((({h with transferring := false} : Handler).cancelAnnouncement.setOutput true).setInput true) :=
    tidy_audio (tidy_audio cancelled _ [_]) _ [_]
  have fails := failed_cases h deadline clock provider
  generalize (h.transferFailed deadline clock provider).1 = out at fails ⊢
  cases fails with
  | late => exact tidy
  | unready => exact cancelled
  | resumed => exact audible
  | said => exact tidy_same audible rfl rfl rfl rfl rfl

theorem tidy_receive (tidy : Tidy h) (packet : Packet) (clock : Clock) (provider : Provider) :
    Tidy (h.receive py packet clock provider).1 := by
  have noted : ∀ command, Tidy (h.note command) := fun command => tidy_same tidy rfl rfl rfl rfl rfl
  have receives := @receive_cases py h packet clock provider
  generalize h.receive py packet clock provider = result at receives ⊢
  cases receives with
  | refused => exact tidy
  | human => exact tidy_human (noted _) _ clock provider
  | requested => exact tidy_requested (noted _) _ clock
  | failed => exact tidy_failed (noted _) _ clock provider

theorem tidy_enable (tidy : Tidy h) (now : Int) : Tidy (h.enable now) := by
  have ready : Tidy {h with ready := true} := tidy_same tidy rfl rfl rfl rfl rfl
  have enables := enable_cases h now
  generalize h.enable now = out at enables ⊢
  cases enables with
  | announces => exact tidy_start ready now
  | waits => exact ready
  | converses => exact tidy_audio (tidy_audio ready _ [_]) _ [_]

theorem tidy_leave (tidy : Tidy h) (escaping : Option Error) (provider : Provider) :
    Tidy (h.leaveHandoff escaping provider) := by
  have silenced := tidy_silence (tidy_cancel tidy) provider
  rcases leave_cases h escaping provider with ⟨_,_,same⟩ | ⟨_,_,same⟩
  all_goals
    rw [same]
    exact tidy_same silenced rfl rfl rfl rfl rfl

theorem tidy_stop (tidy : Tidy h) (next : h.stop wake provider = some h') : Tidy h' := by
  cases stop_cases next with
  | leaves => exact tidy_leave tidy _ provider
  | _ => exact tidy_same tidy rfl rfl rfl rfl rfl

theorem prepare_alive (tidy : Tidy h) (alive : ∀ i, h.announcementTask = some i → (h.tasks i).pc ≠ .done)
    (remaining : Int) (clock : Clock) : (h.prepareHandoff remaining clock).2 = none := by
  unfold Handler.prepareHandoff
  split
  · dsimp only
    split
    · rfl
    · split
      · rfl
      · rename_i i timed
        obtain ⟨current,set⟩ := tidy.timeout i timed
        split
        · rfl
        · rfl
        · rename_i unset
          exact absurd unset set
        · rename_i exited
          exact absurd (tidy.left i exited) (alive i current)
  · rfl

theorem silence_handled (h : Handler) (interrupted : provider.interrupt.handled)
    (shut : provider.interrupt = .returns → provider.sessionShutdown.handled) : (h.silence provider).2 = none := by
  unfold Handler.silence
  split
  · rfl
  · rcases interrupted with returns | raises
    · rw [returns]
      dsimp only
      rcases shut returns with fine | raised
      · rw [fine]
      · rw [raised]
    · rw [raises]

-- No announcement has ended with an exception. Only speech.interrupt can make one.
def Unfailed (h : Handler) : Prop := ∀ i, (h.tasks i).failed = none

theorem unfailed_set (clean : Unfailed h) (i : Nat) (t : AnnounceTask) (fine : t.failed = none) :
    Unfailed (h.setTask i t) := by
  intro j
  by_cases same : j = i
  · simpa [Handler.setTask,same] using fine
  · simpa [Handler.setTask,same] using clean j

theorem unfailed_cancel (clean : Unfailed h) : Unfailed h.cancelAnnouncement := by
  rw [cancel_exact]
  intro i
  dsimp only
  split
  · rw [(cancelled_task _).2.2.1]
    exact clean i
  · exact clean i

theorem unfailed_start (clean : Unfailed h) (now : Int) : Unfailed (h.startAnnouncement now) := by
  by_cases opened : h.ready = true ∧ h.session.isSome = true
  · have cancelled := unfailed_cancel clean
    rw [cancel_exact] at cancelled
    rw [start_exact h now opened]
    intro i
    dsimp only
    split
    · rfl
    · exact cancelled i
  · rw [start_closed opened]
    exact clean

theorem unfailed_silence (clean : Unfailed h) (provider : Provider) : Unfailed (h.silence provider).1 := by
  obtain ⟨extra,_,exact⟩ := silence_exact h provider
  rw [exact]
  exact clean

theorem unfailed_finish (clean : Unfailed h) (i : Nat) (spoken : Bool)
    (quiet : provider.interruptSpeech = .returns) : Unfailed (h.finishAnnounce i spoken provider) := by
  rcases finish_exact h i spoken provider with ⟨_,error,raised,_⟩ | ⟨_,exact⟩ | ⟨_,exact⟩
  · rw [quiet] at raised
    cases raised
  · rw [exact]
    exact unfailed_set clean i _ (clean i)
  · rw [exact]
    exact unfailed_set clean i _ (clean i)

theorem unfailed_announce (clean : Unfailed h) (quiet : provider.interruptSpeech = .returns)
    (next : h.announce i now provider = some h') : Unfailed h' := by
  have said : Unfailed ((h.setOutput true).call (.sayTransfer h.transferStatement)) := clean
  cases announce_cases next with
  | dropped => exact unfailed_set clean i _ (clean i)
  | late | silent | played => exact unfailed_finish clean i _ quiet
  | refused =>
    have entered : Unfailed (h.setTask i {h.tasks i with timer := .entered}) := unfailed_set clean i _ (clean i)
    have called : Unfailed {(h.setTask i {h.tasks i with timer := .entered}).call .interrupt with
      announcementTimeout := some i} := entered
    exact unfailed_finish called i false quiet
  | begun =>
    have entered : Unfailed (h.setTask i {h.tasks i with timer := .entered, pc := .interrupting}) :=
      unfailed_set clean i _ (clean i)
    exact entered
  | unsaid => exact unfailed_finish said i false quiet
  | said => exact unfailed_set said i _ (clean i)

theorem unfailed_prepare (clean : Unfailed h) (remaining : Int) (clock : Clock) :
    Unfailed (h.prepareHandoff remaining clock).1 := by
  unfold Handler.prepareHandoff
  split
  · dsimp only
    split
    · exact unfailed_start (h := {h with transferDeadlineMs := clock.second + remaining, transferring := true}) clean
        clock.third
    · split
      · exact clean
      · split <;> exact clean
  · exact clean

theorem unfailed_human (clean : Unfailed h) (deadline : Int) (clock : Clock) (provider : Provider) :
    Unfailed (h.humanAnswered deadline clock provider).1 := by
  have answered : Unfailed h.answered := by
    unfold Handler.answered
    split <;> exact clean
  have prepared := unfailed_prepare answered (remainingMs deadline clock) clock
  have silenced := unfailed_silence (unfailed_cancel prepared) provider
  have answers := human_cases h deadline clock provider
  generalize h.humanAnswered deadline clock provider = result at answers ⊢
  cases answers with
  | stuck => exact prepared
  | graceful => exact prepared
  | broken => exact silenced
  | immediate => exact silenced

theorem unfailed_receive (clean : Unfailed h) (packet : Packet) (clock : Clock) (provider : Provider) :
    Unfailed (h.receive py packet clock provider).1 := by
  have noted : ∀ command, Unfailed (h.note command) := fun _ => clean
  have receives := @receive_cases py h packet clock provider
  generalize h.receive py packet clock provider = result at receives ⊢
  cases receives with
  | refused => exact clean
  | human => exact unfailed_human (noted _) _ clock provider
  | @requested command =>
    unfold Handler.transferRequested
    split
    · exact unfailed_start (h := {(h.note command).call .episode with
        transferring := true, transferDeadlineMs := command.deadlineMs}) (noted command) clock.second
    · exact noted command
  | @failed command =>
    have cancelled := unfailed_cancel (h := {h.note command with transferring := false}) (noted command)
    have fails := failed_cases (h.note command) command.deadlineMs clock provider
    generalize ((h.note command).transferFailed command.deadlineMs clock provider).1 = out at fails ⊢
    cases fails with
    | late => exact noted command
    | _ => exact cancelled

theorem unfailed_enable (clean : Unfailed h) (now : Int) : Unfailed (h.enable now) := by
  have enables := enable_cases h now
  generalize h.enable now = out at enables ⊢
  cases enables with
  | announces => exact unfailed_start (h := {h with ready := true}) clean now
  | _ => exact clean

theorem unfailed_leave (clean : Unfailed h) (escaping : Option Error) (provider : Provider) :
    Unfailed (h.leaveHandoff escaping provider) := by
  have silenced := unfailed_silence (unfailed_cancel clean) provider
  rcases leave_cases h escaping provider with ⟨_,_,same⟩ | ⟨_,_,same⟩
  all_goals
    rw [same]
    exact silenced

theorem unfailed_stop (clean : Unfailed h) (next : h.stop wake provider = some h') : Unfailed h' := by
  cases stop_cases next with
  | leaves => exact unfailed_leave clean _ provider
  | _ => exact clean

-- speech.interrupt returns in this step.
def Tame (_ : Handler) : Event → Prop
  | .announce _ _ provider => provider.interruptSpeech = .returns
  | _ => True

theorem unfailed_step (clean : Unfailed h) (tame : Tame h event) (next : step py h event = some h') :
    Unfailed h' := by
  cases event with
  | packet packet clock provider => cases next; exact unfailed_receive clean packet clock provider
  | activate now => cases next; exact unfailed_enable clean now
  | announce i now provider => exact unfailed_announce clean tame next
  | expire i =>
    simp only [step,Handler.expire] at next
    split at next
    · cases next; exact unfailed_set clean i _ (clean i)
    · cases next
  | stop wake provider => exact unfailed_stop clean next
  | cancelStop =>
    obtain ⟨_,_,_,rfl⟩ := cancelStop_cases next
    exact clean
  | close => cases next; exact unfailed_cancel clean

theorem tidy_step (tidy : Tidy h) (next : step py h event = some h') : Tidy h' := by
  cases event with
  | packet packet clock provider => cases next; exact tidy_receive tidy packet clock provider
  | activate now => cases next; exact tidy_enable tidy now
  | announce i now provider => exact tidy_announce tidy next
  | expire i => exact tidy_expire tidy next
  | stop wake provider => exact tidy_stop tidy next
  | cancelStop =>
    obtain ⟨_,_,_,rfl⟩ := cancelStop_cases next
    exact tidy_same tidy rfl rfl rfl rfl rfl
  | close => cases next; exact tidy_cancel tidy

def Live (h : Handler) (i : Nat) : Prop := (h.tasks i).pc ≠ .done ∧ (h.tasks i).cancelled = false

theorem live_unique (tidy : Tidy h) (one : Live h i) (two : Live h j) : i = j := by
  have both := (live_current tidy one.1 one.2).symm.trans (live_current tidy two.1 two.2)
  exact Option.some.inj both

-- A cancelled announcement never again touches the audio or the session's voice.
theorem obsolete_silent (tidy : Tidy h) (cancelled : (h.tasks i).cancelled = true)
    (next : h.announce i now provider = some h') : h'.session = h.session ∧
      h'.announcementTask = h.announcementTask ∧ (h'.calls = h.calls ∨ h'.calls = .interruptSpeech :: h.calls) := by
  have stale : h.announcementTask ≠ some i := by
    intro current
    rw [(tidy.current i current).1] at cancelled
    cases cancelled
  have finished : ∀ spoken, (h.finishAnnounce i spoken provider).session = h.session ∧
      (h.finishAnnounce i spoken provider).announcementTask = h.announcementTask ∧
      ((h.finishAnnounce i spoken provider).calls = h.calls ∨
        (h.finishAnnounce i spoken provider).calls = .interruptSpeech :: h.calls) := by
    intro spoken
    rcases finish_exact h i spoken provider with ⟨_,error,_,exact⟩ | ⟨_,exact⟩ | ⟨current,_⟩
    · rw [exact]; exact ⟨rfl,rfl,.inr rfl⟩
    · rw [exact]; cases spoken
      · exact ⟨rfl,rfl,.inl rfl⟩
      · exact ⟨rfl,rfl,.inr rfl⟩
    · exact absurd current stale
  have never : ∀ {P : Prop}, (h.tasks i).cancelled = false → P := by
    intro P fresh
    rw [fresh] at cancelled
    cases cancelled
  cases announce_cases next with
  | dropped => exact ⟨rfl,rfl,.inl rfl⟩
  | late _ fresh => exact never fresh
  | refused _ fresh => exact never fresh
  | begun _ fresh => exact never fresh
  | silent => exact finished false
  | unsaid _ fresh => exact never fresh
  | said _ fresh => exact never fresh
  | played => exact finished true

end AidaAgent.Control
