import AidaAgent.Control

namespace AidaAgent.Control
open JsonText Config

-- What each operation of the handler does to its state.
theorem cancel_exact (h : Handler) : h.cancelAnnouncement =
    {h with
      tasks := fun j => if h.announcementTask = some j then (h.tasks j).cancel else h.tasks j
      announcementTask := none
      announcementTimeout := if h.announcementTask = none then h.announcementTimeout else none} := by
  unfold Handler.cancelAnnouncement Handler.setTask
  cases current : h.announcementTask with
  | none =>
    have same : (fun j => if none = some j then (h.tasks j).cancel else h.tasks j) = h.tasks := by simp
    obtain ⟨⟩ := h
    simp_all
  | some i =>
    have same : (fun j => if j = i then (h.tasks i).cancel else h.tasks j) =
        fun j => if some i = some j then (h.tasks j).cancel else h.tasks j := by
      funext j
      by_cases equal : j = i
      · subst j; simp
      · simp [equal,Ne.symm equal]
    simp [same]

theorem start_closed {h : Handler} (shut : ¬ (h.ready = true ∧ h.session.isSome = true)) : h.startAnnouncement now = h := by
  unfold Handler.startAnnouncement
  rw [if_neg shut]

theorem start_exact (h : Handler) (now : Int) (opened : h.ready = true ∧ h.session.isSome = true) :
    h.startAnnouncement now =
    {h with
      session := h.session.map fun _ => ⟨false,false⟩
      transferDeadlineMs := min h.transferDeadlineMs (now + 10000)
      tasks := fun j => if j = h.created then ⟨.created,false,.unset,none⟩
        else if h.announcementTask = some j then (h.tasks j).cancel else h.tasks j
      announcementTask := some h.created
      announcementTimeout := if h.announcementTask = none then h.announcementTimeout else none
      created := h.created + 1
      calls := .setOutput false :: .setInput false :: h.calls} := by
  unfold Handler.startAnnouncement
  rw [if_pos opened,cancel_exact]
  cases h.session <;> rfl

theorem start_transferring (h : Handler) (now : Int) : (h.startAnnouncement now).transferring = h.transferring := by
  by_cases opened : h.ready = true ∧ h.session.isSome = true
  · rw [start_exact h now opened]
  · rw [start_closed opened]

def isSilencing (c : Call) : Bool :=
  c = .setInput false || c = .setOutput false || c = .interrupt || c = .sessionShutdown

theorem silence_exact (h : Handler) (provider : Provider) : ∃ extra, (∀ c ∈ extra, isSilencing c = true) ∧
    (h.silence provider).1 =
      {h with session := h.session.map fun _ => ⟨false,false⟩, calls := extra ++ h.calls} := by
  unfold Handler.silence
  cases present : h.session with
  | none =>
    refine ⟨[],by simp,?_⟩
    obtain ⟨⟩ := h
    simp_all
  | some s =>
    have short : ∀ c ∈ [Call.interrupt,.setOutput false,.setInput false], isSilencing c = true := by decide
    have long : ∀ c ∈ [Call.sessionShutdown,.interrupt,.setOutput false,.setInput false], isSilencing c = true := by
      decide
    cases provider.interrupt with
    | raises error => cases error <;> exact ⟨_,short,by simp [Handler.call,Handler.setInput,Handler.setOutput,present]⟩
    | returns =>
      cases provider.sessionShutdown with
      | raises error => cases error <;> exact ⟨_,long,by simp [Handler.call,Handler.setInput,Handler.setOutput,present]⟩
      | returns => exact ⟨_,long,by simp [Handler.call,Handler.setInput,Handler.setOutput,present]⟩

def finishedTask (t : AnnounceTask) : AnnounceTask := {t with pc := .done, timer := t.timer.leave}

def spokenCalls (spoken : Bool) : List Call := if spoken then [.interruptSpeech] else []

-- The three ends of an announcement: speech.interrupt raises, the task is
-- obsolete, or the task is the current one.
theorem finish_exact (h : Handler) (i : Nat) (spoken : Bool) (provider : Provider) :
    (spoken = true ∧ ∃ error, provider.interruptSpeech = .raises error ∧ h.finishAnnounce i spoken provider =
        {h.setTask i {finishedTask (h.tasks i) with failed := some error} with calls := .interruptSpeech :: h.calls}) ∨
      (h.announcementTask ≠ some i ∧ h.finishAnnounce i spoken provider =
        {h.setTask i (finishedTask (h.tasks i)) with calls := spokenCalls spoken ++ h.calls}) ∨
      (h.announcementTask = some i ∧ h.finishAnnounce i spoken provider =
        {h.setTask i (finishedTask (h.tasks i)) with
          session := h.session.map fun s => {s with output := false}
          announcementTask := none
          announcementTimeout := none
          calls := .setOutput false :: (spokenCalls spoken ++ h.calls)}) := by
  unfold Handler.finishAnnounce
  cases spoken with
  | false =>
    by_cases current : h.announcementTask = some i
    · exact .inr (.inr ⟨current,by simp [current,Handler.setTask,Handler.setOutput,finishedTask,spokenCalls]⟩)
    · exact .inr (.inl ⟨current,by simp [current,Handler.setTask,finishedTask,spokenCalls]⟩)
  | true =>
    cases interrupted : provider.interruptSpeech with
    | raises error => exact .inl ⟨rfl,error,rfl,by simp [Handler.setTask,Handler.call,finishedTask]⟩
    | returns =>
      by_cases current : h.announcementTask = some i
      · exact .inr (.inr ⟨current,by
          simp [current,Handler.setTask,Handler.setOutput,Handler.call,finishedTask,spokenCalls]⟩)
      · exact .inr (.inl ⟨current,by simp [current,Handler.setTask,Handler.call,finishedTask,spokenCalls]⟩)

-- The first part of it changes nothing but the deadline, or starts an announcement.
theorem prepare_cases (h : Handler) (remaining : Int) (clock : Clock) :
    (∃ deadline, (h.prepareHandoff remaining clock).1 = {h with transferDeadlineMs := deadline}) ∨
      (h.ready = true ∧ h.session.isSome = true ∧ h.transferring = false ∧ ∃ deadline,
        (h.prepareHandoff remaining clock).1 =
          ({h with transferDeadlineMs := deadline, transferring := true} : Handler).startAnnouncement clock.third) := by
  unfold Handler.prepareHandoff
  split
  · rename_i opened
    dsimp only
    split
    · rename_i fresh
      exact .inr ⟨opened.1,opened.2.1,fresh.1,_,rfl⟩
    · left
      split
      · exact ⟨_,rfl⟩
      · split <;> exact ⟨_,rfl⟩
  · exact .inl ⟨h.transferDeadlineMs,rfl⟩

-- The ends of an accepted human_answered: the timeout cannot be rescheduled, the
-- handoff is left to the stop task, or the session is silenced at once, with or
-- without an exception.
inductive Answers (prepared : Handler) (failure : Option Error) (remaining : Int) (provider : Provider) :
    Handler × Reply → Prop where
  | stuck : failure = some error → Answers prepared failure remaining provider (prepared,.raised error)
  | graceful : failure = none → prepared.ready = true → 0 < remaining → prepared.announcementTask.isSome = true →
      Answers prepared failure remaining provider
        ({(prepared.setInput false).call .stopCreated with stopTask := some ⟨.handoff,false⟩},.returned true)
  | broken : failure = none → ¬ (prepared.ready = true ∧ 0 < remaining ∧ prepared.announcementTask.isSome = true) →
      (prepared.cancelAnnouncement.silence provider).2 = some error → Answers prepared failure remaining provider ((prepared.cancelAnnouncement.silence provider).1,.raised error)
  | immediate : failure = none → ¬ (prepared.ready = true ∧ 0 < remaining ∧ prepared.announcementTask.isSome = true) →
      (prepared.cancelAnnouncement.silence provider).2 = none → Answers prepared failure remaining provider
        ({(prepared.cancelAnnouncement.silence provider).1.call .stopCreated with stopTask := some ⟨.stop,false⟩},
          .returned true)

theorem human_cases (h : Handler) (deadline : Int) (clock : Clock) (provider : Provider) :
    Answers (h.answered.prepareHandoff (remainingMs deadline clock) clock).1
      (h.answered.prepareHandoff (remainingMs deadline clock) clock).2 (remainingMs deadline clock) provider
      (h.humanAnswered deadline clock provider) := by
  unfold Handler.humanAnswered
  generalize h.answered.prepareHandoff (remainingMs deadline clock) clock = result
  obtain ⟨prepared,failure⟩ := result
  cases failure with
  | some error => exact .stuck rfl
  | none =>
    dsimp only
    unfold Handler.createStop
    split
    · rename_i running
      exact .graceful rfl running.1 running.2.1 running.2.2
    · rename_i idle
      split
      · rename_i out error same
        have broken := @Answers.broken prepared _ (remainingMs deadline clock) _ _ rfl idle
          (congrArg Prod.snd same)
        rwa [same] at broken
      · rename_i out same
        have immediate := @Answers.immediate prepared _ (remainingMs deadline clock) _ rfl idle
          (congrArg Prod.snd same)
        rwa [same] at immediate

-- One step of an announcement task, part by part.
inductive Announces (h : Handler) (i : Nat) (now : Int) (provider : Provider) : Handler → Prop where
  | dropped : (h.tasks i).pc = .created → (h.tasks i).cancelled = true →
      Announces h i now provider (h.setTask i {h.tasks i with pc := .done})
  | late : (h.tasks i).pc = .created → (h.tasks i).cancelled = false → h.transferDeadlineMs - now ≤ 0 →
      Announces h i now provider (h.finishAnnounce i false provider)
  | refused : (h.tasks i).pc = .created → (h.tasks i).cancelled = false → 0 < h.transferDeadlineMs - now →
      Announces h i now provider
        (({(h.setTask i {h.tasks i with timer := .entered}).call .interrupt with
          announcementTimeout := some i}).finishAnnounce i false provider)
  | begun : (h.tasks i).pc = .created → (h.tasks i).cancelled = false → 0 < h.transferDeadlineMs - now →
      Announces h i now provider
        {(h.setTask i {h.tasks i with timer := .entered, pc := .interrupting}).call .interrupt with
          announcementTimeout := some i}
  | silent : (h.tasks i).pc = .interrupting → Announces h i now provider (h.finishAnnounce i false provider)
  | unsaid : (h.tasks i).pc = .interrupting → (h.tasks i).cancelled = false → (h.tasks i).timer ≠ .expired →
      h.transferStatement ≠ "" →
      Announces h i now provider
        (((h.setOutput true).call (.sayTransfer h.transferStatement)).finishAnnounce i false provider)
  | said : (h.tasks i).pc = .interrupting → (h.tasks i).cancelled = false → (h.tasks i).timer ≠ .expired →
      h.transferStatement ≠ "" →
      Announces h i now provider
        (((h.setOutput true).call (.sayTransfer h.transferStatement)).setTask i {h.tasks i with pc := .playing})
  | played : (h.tasks i).pc = .playing → Announces h i now provider (h.finishAnnounce i true provider)

theorem setTask_twice (h : Handler) (i : Nat) (t u : AnnounceTask) : (h.setTask i t).setTask i u = h.setTask i u := by
  have same : ∀ j, (if j = i then u else if j = i then t else h.tasks j) = if j = i then u else h.tasks j := by
    intro j
    split <;> rfl
  simp [Handler.setTask,same]

theorem announce_cases (next : h.announce i now provider = some h') : Announces h i now provider h' := by
  unfold Handler.announce at next
  dsimp only at next
  split at next
  · cases next
  · rename_i created
    split at next
    · rename_i cancelled
      cases next
      exact .dropped created cancelled
    · rename_i live
      have uncancelled : (h.tasks i).cancelled = false := by simpa using live
      split at next
      · rename_i past
        cases next
        exact .late created uncancelled past
      · rename_i early
        split at next
        · cases next
          exact .refused created uncancelled (by omega)
        · cases next
          have begun := @Announces.begun _ _ _ provider created uncancelled (show 0 < h.transferDeadlineMs - now by omega)
          have twice := setTask_twice h i {h.tasks i with timer := .entered}
            {h.tasks i with timer := .entered, pc := .interrupting}
          rw [← twice] at begun
          exact begun
  · rename_i interrupting
    split at next
    · cases next
      exact .silent interrupting
    · rename_i running
      obtain ⟨live,timely⟩ := not_or.mp running
      have uncancelled : (h.tasks i).cancelled = false := by simpa using live
      split at next
      · cases next
        exact .silent interrupting
      · split at next
        · cases next
          exact .silent interrupting
        · rename_i statement
          split at next
          · cases next
            exact .unsaid interrupting uncancelled timely statement
          · cases next
            exact .said interrupting uncancelled timely statement
  · rename_i playing
    cases next
    exact .played playing

-- The ends of transfer_failed: it comes late, no session is ready, or the audio is
-- restored, with or without a statement of the failure.
inductive Fails (h : Handler) : Handler → Prop where
  | late : Fails h h
  | unready : ¬ (h.ready = true ∧ h.session.isSome = true) →
      Fails h ({h with transferring := false} : Handler).cancelAnnouncement
  | resumed : h.ready = true →
      Fails h ((({h with transferring := false} : Handler).cancelAnnouncement.setOutput true).setInput true)
  | said (text : String) : h.ready = true →
      Fails h (((({h with transferring := false} : Handler).cancelAnnouncement.setOutput true).setInput true).call
        (.sayFailed text))

theorem cancel_ready (h : Handler) : h.cancelAnnouncement.ready = h.ready ∧ h.cancelAnnouncement.session = h.session := by
  rw [cancel_exact]
  exact ⟨rfl,rfl⟩

theorem cancel_idle (h : Handler) : h.cancelAnnouncement.announcementTask = none := by
  rw [cancel_exact]

theorem failed_cases (h : Handler) (deadline : Int) (clock : Clock) (provider : Provider) :
    Fails h (h.transferFailed deadline clock provider).1 := by
  unfold Handler.transferFailed
  dsimp only
  obtain ⟨ready,session⟩ := cancel_ready {h with transferring := false}
  rw [ready,session]
  split
  · split
    · rename_i opened
      split
      · exact .resumed opened.1
      · split <;> exact .said _ opened.1
    · rename_i shut
      exact .unready shut
  · exact .late

-- A packet is turned away, or its command is noted and carried out.
inductive Receives (py : Interpreter) (h : Handler) (packet : Packet) (clock : Clock) (provider : Provider) :
    Handler × Reply → Prop where
  | refused : (∀ command, ControlCommand.parse py packet h.callId = .ok command →
        command.commandId ∈ h.seen ∨ h.stopping = true) → Receives py h packet clock provider (h,.returned false)
  | human : ControlCommand.parse py packet h.callId = .ok command → command.commandId ∉ h.seen → h.stopping = false →
      command.action = .humanAnswered →
      Receives py h packet clock provider ((h.note command).humanAnswered command.deadlineMs clock provider)
  | requested : ControlCommand.parse py packet h.callId = .ok command → command.commandId ∉ h.seen →
      h.stopping = false → command.action = .transferRequested →
      Receives py h packet clock provider ((h.note command).transferRequested command.deadlineMs clock)
  | failed : ControlCommand.parse py packet h.callId = .ok command → command.commandId ∉ h.seen → h.stopping = false →
      command.action = .transferFailed →
      Receives py h packet clock provider ((h.note command).transferFailed command.deadlineMs clock provider)

theorem receive_cases (h : Handler) (packet : Packet) (clock : Clock) (provider : Provider) :
    Receives py h packet clock provider (h.receive py packet clock provider) := by
  unfold Handler.receive
  split
  · rename_i parsed
    exact .refused fun command found => by rw [parsed] at found; cases found
  · rename_i command parsed
    split
    · rename_i stale
      exact .refused fun other found => by rw [parsed] at found; cases found; exact stale
    · rename_i fresh
      obtain ⟨unseen,running⟩ := not_or.mp fresh
      have open_ : h.stopping = false := by simpa using running
      split
      · rename_i action; exact .human parsed unseen open_ action
      · rename_i action; exact .requested parsed unseen open_ action
      · rename_i action; exact .failed parsed unseen open_ action

theorem receive_stale {h : Handler} (stale : ∀ command, ControlCommand.parse py packet h.callId = .ok command →
      command.commandId ∈ h.seen ∨ h.stopping = true) :
    h.receive py packet clock provider = (h,.returned false) := by
  unfold Handler.receive
  split
  · rfl
  · rename_i command parsed
    rw [if_pos (stale command parsed)]

theorem receive_taken {h : Handler} (parsed : ControlCommand.parse py packet h.callId = .ok command)
    (fresh : command.commandId ∉ h.seen) (running : h.stopping = false) :
    h.receive py packet clock provider =
      match command.action with
      | .humanAnswered => (h.note command).humanAnswered command.deadlineMs clock provider
      | .transferRequested => (h.note command).transferRequested command.deadlineMs clock
      | .transferFailed => (h.note command).transferFailed command.deadlineMs clock provider := by
  have open_ : ¬ (command.commandId ∈ h.seen ∨ h.stopping = true) := by
    rw [running]
    simpa using fresh
  unfold Handler.receive
  rw [parsed]
  dsimp only
  refine (if_neg open_).trans ?_
  cases command.action <;> rfl

theorem receive_human {h : Handler} (parsed : ControlCommand.parse py packet h.callId = .ok command)
    (fresh : command.commandId ∉ h.seen) (running : h.stopping = false) (action : command.action = .humanAnswered) :
    h.receive py packet clock provider = (h.note command).humanAnswered command.deadlineMs clock provider := by
  rw [receive_taken parsed fresh running,action]

theorem receive_requested {h : Handler} (parsed : ControlCommand.parse py packet h.callId = .ok command)
    (fresh : command.commandId ∉ h.seen) (running : h.stopping = false) (action : command.action = .transferRequested) :
    h.receive py packet clock provider = (h.note command).transferRequested command.deadlineMs clock := by
  rw [receive_taken parsed fresh running,action]

-- The ends of activate with the audio of its caller.
inductive Enables (h : Handler) (now : Int) : Handler → Prop where
  | announces : h.transferring = true → Enables h now (({h with ready := true} : Handler).startAnnouncement now)
  | waits : h.transferring = false → h.stopping = true → Enables h now {h with ready := true}
  | converses : h.transferring = false → h.stopping = false →
      Enables h now ((({h with ready := true} : Handler).setOutput true).setInput true)

theorem enable_cases (h : Handler) (now : Int) : Enables h now (h.enable now) := by
  cases transferring : h.transferring with
  | true =>
    have same : h.enable now = ({h with ready := true} : Handler).startAnnouncement now := by
      simp [Handler.enable,Handler.activate,transferring]
    rw [same]
    exact .announces transferring
  | false =>
    cases stopping : h.stopping with
    | true =>
      have same : h.enable now = {h with ready := true} := by
        simp [Handler.enable,Handler.activate,transferring,stopping]
      rw [same]
      exact .waits transferring stopping
    | false =>
      have same : h.enable now = (({h with ready := true} : Handler).setOutput true).setInput true := by
        simp [Handler.enable,Handler.activate,transferring,stopping]
      rw [same]
      exact .converses transferring stopping

-- What one step of the stop task can do. The exception that escapes from the wait
-- is that of the announcement, other than a timeout.
def Excused (h : Handler) (wake : Wake) (i : Nat) : Prop :=
  wake = .finished → ∀ error, (h.tasks i).failed = some error → error = .timeout

def Escapes (h : Handler) (task : StopTask) (wake : Wake) (escaping : Option Error) : Prop :=
  (escaping = none ∧ task.pc = .handoff ∧ task.cancelled = false ∧ h.announcementTask = none) ∨
    ∃ i, task.pc = .waiting i ∧ (escaping = none ↔ Excused h wake i)

inductive Stops (h : Handler) (wake : Wake) (provider : Provider) : Handler → Prop where
  | dropped : h.stopTask = some task → task.pc = .handoff ∨ task.pc = .stop → task.cancelled = true →
      Stops h wake provider (h.setStop .neverRan)
  | waits : h.stopTask = some task → task.pc = .handoff → h.announcementTask = some i →
      Stops h wake provider (h.setStop (.waiting i))
  | leaves : h.stopTask = some task → Escapes h task wake escaping →
      Stops h wake provider (h.leaveHandoff escaping provider)
  | disconnects : h.stopTask = some task → task.pc = .stop →
      Stops h wake provider ((h.call .disconnect).setStop .leaving)
  | ends : h.stopTask = some task → task.pc = .leaving → Stops h wake provider ((h.call .shutdown).setStop .ended)

theorem stop_cases (next : h.stop wake provider = some h') : Stops h wake provider h' := by
  unfold Handler.stop at next
  split at next
  · cases next
  · rename_i task present
    split at next
    · cases next
    · cases next
    · cases next
    · rename_i handoff
      split at next
      · rename_i cancelled
        cases next
        exact .dropped present (.inl handoff) cancelled
      · rename_i live
        split at next
        · rename_i i current
          cases next
          exact .waits present handoff current
        · rename_i none
          cases next
          exact .leaves present (.inl ⟨rfl,handoff,by simpa using live,none⟩)
    · rename_i i waiting
      have plain : Excused h wake i → Stops h wake provider (h.leaveHandoff none provider) :=
        fun excused => .leaves present (.inr ⟨i,waiting,iff_of_true rfl excused⟩)
      split at next
      · cases next
        exact plain fun finished => by cases finished
      · split at next
        · cases next
          exact plain fun finished => by cases finished
        · cases next
      · split at next
        · split at next
          · rename_i clean
            cases next
            exact plain fun _ error failed => by rw [clean] at failed; cases failed
          · rename_i timeout
            cases next
            exact plain fun _ error failed => by rw [timeout] at failed; cases failed; rfl
          · rename_i error other failed
            cases next
            refine .leaves present (.inr ⟨i,waiting,iff_of_false (by simp) fun excused => ?_⟩)
            exact other (excused rfl error failed)
        · cases next
    · rename_i stop
      split at next
      · rename_i cancelled
        cases next
        exact .dropped present (.inr stop) cancelled
      · cases next
        exact .disconnects present stop
    · rename_i leaving
      cases next
      exact .ends present leaving

-- The end of the handoff: silence, then the room is left unless an exception is out.
theorem leave_cases (h : Handler) (escaping : Option Error) (provider : Provider) :
    (∃ error, ((h.cancelAnnouncement.silence provider).2 = some error ∨ escaping = some error) ∧
        h.leaveHandoff escaping provider = (h.cancelAnnouncement.silence provider).1.setStop (.raised error)) ∨
      (h.cancelAnnouncement.silence provider).2 = none ∧ escaping = none ∧
        h.leaveHandoff escaping provider = ((h.cancelAnnouncement.silence provider).1.call .disconnect).setStop .leaving := by
  unfold Handler.leaveHandoff
  generalize h.cancelAnnouncement.silence provider = result
  obtain ⟨silenced,failure⟩ := result
  cases failure with
  | some error => exact .inl ⟨error,.inl rfl,rfl⟩
  | none =>
    cases escaping with
    | some error => exact .inl ⟨error,.inr rfl,rfl⟩
    | none => exact .inr ⟨rfl,rfl,rfl⟩

-- The timeout of an announcement only marks its timer.
theorem expire_cases {h : Handler} (next : h.expire i = some h') : (h.tasks i).timer = .entered ∧
    ((h.tasks i).pc = .interrupting ∨ (h.tasks i).pc = .playing) ∧
      h' = h.setTask i {h.tasks i with timer := .expired} := by
  unfold Handler.expire at next
  dsimp only at next
  split at next
  · rename_i running
    cases next
    exact ⟨running.1,running.2,rfl⟩
  · cases next

theorem cancelStop_cases {h : Handler} (next : h.cancelStop = some h') : ∃ task, h.stopTask = some task ∧ task.pc.finished = false ∧
    h' = {h with stopTask := some {task with cancelled := true}} := by
  unfold Handler.cancelStop at next
  split at next
  · cases next
  · rename_i task present
    split at next
    · cases next
    · rename_i running
      cases next
      exact ⟨task,present,by simpa using running,rfl⟩

end AidaAgent.Control
