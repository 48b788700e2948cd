import AidaAgent.CallLifecycle
import AidaAgent.WorkerEndings

namespace AidaAgent.Worker
open JsonText Config Bootstrap Control Transitions

-- The phase that the flags of a control stand for, while nothing has ended the job.
def phaseOf (ready stopping transferring : Bool) : Lifecycle.Phase :=
  if stopping then .leaving
  else if ready then (if transferring then .transferring else .conversing)
  else if transferring then .summoned else .starting

def controlPhase (h : Handler) : Lifecycle.Phase := phaseOf h.ready h.stopping h.transferring

def Job.over (j : Job) : Bool := j.aborted || j.cleaned

def Job.phase (j : Job) : Lifecycle.Phase := if j.over then .closed else controlPhase j.control

-- The command that a packet brings. A request past its deadline changes nothing, nor
-- does a failure.
def brought (py : Interpreter) (h : Handler) (packet : Packet) (clock : Clock) : List Lifecycle.Move :=
  match ControlCommand.parse py packet h.callId with
  | .error _ => []
  | .ok command =>
    if command.commandId ∈ h.seen ∨ h.stopping = true then []
    else
      match command.action with
      | .humanAnswered => [.answered]
      | .transferRequested => if command.deadlineMs > clock.first then [.requested] else []
      | .transferFailed => if command.deadlineMs ≥ clock.first then [.failed] else []

def Job.heard (setup : Setup) (j : Job) : Event → List Lifecycle.Move
  | .packet packet clock _ => if j.over then [] else brought setup.py j.control packet clock
  | _ => []

-- The control becomes ready, and abort() or cleanup() runs for the first time.
def changes (j j' : Job) : List Lifecycle.Move :=
  (if j.control.ready = false ∧ j'.control.ready = true then [.welcomed] else []) ++
    (if j.over = false ∧ j'.over = true then [.ended] else [])

def moves (setup : Setup) (j : Job) (event : Event) : List Lifecycle.Move :=
  match step setup j event with
  | none => []
  | some j' => j.heard setup event ++ changes j j'

theorem over_exact {j : Job} : j.over = true ↔ j.aborted = true ∨ j.cleaned = true := by simp [Job.over]

theorem phase_over {j : Job} (over_ : j.over = true) : j.phase = .closed := if_pos over_

theorem phase_going {j : Job} (going : j.over = false) : j.phase = controlPhase j.control := by
  unfold Job.phase
  rw [going]
  rfl

theorem welcomed_moves (transferring : Bool) :
    Lifecycle.step (phaseOf false false transferring) .welcomed = some (phaseOf true false transferring) := by
  cases transferring <;> rfl

theorem requested_moves (ready transferring : Bool) :
    Lifecycle.step (phaseOf ready false transferring) .requested = some (phaseOf ready false true) := by
  cases ready <;> cases transferring <;> rfl

theorem failed_moves (ready transferring : Bool) :
    Lifecycle.step (phaseOf ready false transferring) .failed = some (phaseOf ready false false) := by
  cases ready <;> cases transferring <;> rfl

theorem answered_moves (ready transferring : Bool) :
    Lifecycle.step (phaseOf ready false transferring) .answered = some .leaving := by
  cases ready <;> cases transferring <;> rfl

theorem ended_moves (ready stopping transferring : Bool) :
    Lifecycle.step (phaseOf ready stopping transferring) .ended = some .closed := by
  cases ready <;> cases stopping <;> cases transferring <;> rfl

theorem phaseOf_open (ready stopping transferring : Bool) :
    phaseOf ready stopping transferring = .conversing ∨ phaseOf ready stopping transferring = .transferring ↔
      ready = true ∧ stopping = false := by
  cases ready <;> cases stopping <;> cases transferring <;> decide

-- What every step but a packet keeps of the control.
structure Stands (h h' : Handler) : Prop where
  stopping : h'.stopping = h.stopping
  transferring : h'.transferring = h.transferring

theorem Stands.refl (h : Handler) : Stands h h := ⟨rfl,rfl⟩

theorem Stands.trans (first : Stands h middle) (second : Stands middle h') : Stands h h' :=
  ⟨second.stopping.trans first.stopping,second.transferring.trans first.transferring⟩

theorem stands_cancel (h : Handler) : Stands h h.cancelAnnouncement := by
  rw [cancel_exact]
  exact ⟨rfl,rfl⟩

theorem stands_silence (h : Handler) (provider : Provider) : Stands h (h.silence provider).1 := by
  obtain ⟨extra,_,same⟩ := silence_exact h provider
  rw [same]
  exact ⟨rfl,rfl⟩

theorem stands_start (h : Handler) (now : Int) : Stands h (h.startAnnouncement now) :=
  ⟨(frame_start h now).stopping,start_transferring h now⟩

theorem stands_finish (h : Handler) (i : Nat) (spoken : Bool) (provider : Provider) :
    Stands h (h.finishAnnounce i spoken provider) := by
  rcases finish_exact h i spoken provider with ⟨_,error,_,same⟩ | ⟨_,same⟩ | ⟨_,same⟩
  · rw [same]
    exact ⟨rfl,rfl⟩
  · rw [same]
    exact ⟨rfl,rfl⟩
  · rw [same]
    exact ⟨rfl,rfl⟩

theorem stands_announce (next : h.announce i now provider = some h') : Stands h h' := by
  have entered : ∀ t, Stands h {(h.setTask i t).call .interrupt with announcementTimeout := some i} := fun _ => ⟨rfl,rfl⟩
  have said : Stands h ((h.setOutput true).call (.sayTransfer h.transferStatement)) := ⟨rfl,rfl⟩
  cases announce_cases next with
  | late | silent | played => exact stands_finish h i _ provider
  | dropped | begun | said => exact ⟨rfl,rfl⟩
  | refused => exact (entered _).trans (stands_finish _ _ _ _)
  | unsaid => exact said.trans (stands_finish _ _ _ _)

theorem stands_leave (h : Handler) (escaping : Option Error) (provider : Provider) :
    Stands h (h.leaveHandoff escaping provider) := by
  have silenced := (stands_cancel h).trans (stands_silence h.cancelAnnouncement provider)
  rcases leave_cases h escaping provider with ⟨error,_,same⟩ | ⟨_,_,same⟩
  · rw [same]
    exact silenced.trans ⟨rfl,rfl⟩
  · rw [same]
    exact silenced.trans ⟨rfl,rfl⟩

theorem stands_stop (next : h.stop wake provider = some h') : Stands h h' := by
  cases stop_cases next with
  | leaves => exact stands_leave h _ provider
  | dropped | waits | disconnects | ends => exact ⟨rfl,rfl⟩

theorem stands_enable (h : Handler) (now : Int) : Stands h (h.enable now) := by
  have enables := enable_cases h now
  generalize h.enable now = out at enables
  have ready : Stands h {h with ready := true} := ⟨rfl,rfl⟩
  cases enables with
  | announces => exact ready.trans (stands_start {h with ready := true} now)
  | waits | converses => exact ⟨rfl,rfl⟩

theorem sheltered_stands (sheltered : Sheltered j j') : Stands j.control j'.control := by
  rcases sheltered.control with ⟨same,_⟩ | ⟨_,_,_,provider,same⟩
  · rw [same]
    exact .refl _
  · rw [same]
    exact stands_silence j.control provider

theorem cancelStartup_control (j : Job) : j.cancelStartup.control = j.control := by
  unfold Job.cancelStartup
  split
  · rfl
  · rfl

theorem abort_stands (j : Job) (provider : Provider) : Stands j.control (j.abort provider).1.control :=
  sheltered_stands (abort_sheltered j provider).1

theorem checked_stands {j : Job} {next : Job → Job} (goes : Stands j.control (next j).control) :
    Stands j.control (j.checked setup next).control := by
  unfold Job.checked
  split
  · exact .refl _
  · split
    · exact .refl _
    · exact goes

theorem publishReady_stands (j : Job) (answers : Answers) : Stands j.control (j.publishReady setup answers).control := by
  apply checked_stands
  split
  · exact .refl _
  · exact .refl _

theorem subscribeAudio_stands (j : Job) (answers : Answers) :
    Stands j.control (j.subscribeAudio setup answers).control := by
  obtain ⟨middle,sheltered,raised | ⟨_,found⟩ | waits⟩ := subscribeAudio_cases setup j answers
  · rw [raised]
    have stands := sheltered_stands sheltered
    exact ⟨stands.stopping,stands.transferring⟩
  · rw [found]
    exact (sheltered_stands sheltered).trans (publishReady_stands middle answers)
  · rw [waits]
    have stands := sheltered_stands sheltered
    exact ⟨stands.stopping,stands.transferring⟩

theorem readyPublished_stands (j : Job) (answers : Answers) :
    Stands j.control (j.readyPublished setup answers).control := by
  apply checked_stands (j := j.mark .readyDelivered)
  dsimp only
  split
  · split
    · unfold Job.greet
      dsimp only
      split
      · exact stands_enable j.control answers.now
      · exact stands_enable j.control answers.now
    · exact stands_enable j.control answers.now
  · exact .refl _

theorem wait_stands (j : Job) : Stands j.control (j.wait setup).control := by
  unfold Job.wait
  dsimp only
  split
  · exact .refl _
  · exact .refl _
  · exact .refl _

theorem authorized_stands (j : Job) (answers : Answers) : Stands j.control (j.authorized setup answers).control := by
  unfold Job.authorized
  split
  · exact .refl _
  · split
    · apply checked_stands
      unfold Job.createSession
      split
      · exact ⟨rfl,rfl⟩
      · exact .refl _
    · exact .refl _

theorem resume_stands {j j' : Job} (next : j.resume setup answers = some j') : Stands j.control j'.control := by
  unfold Job.resume at next
  split at next
  · split at next
    · cases next
    · cases next
      exact .refl _
  · cases next
    exact wait_stands j
  · split at next
    · cases next
      exact wait_stands j
    · cases next
  · cases next
    exact authorized_stands j answers
  · cases next
    unfold Job.sessionStarted
    split
    · exact .refl _
    · exact subscribeAudio_stands {j with admission := {j.admission with audioAuthorized := true}} answers
  · split at next
    · cases next
      exact subscribeAudio_stands j answers
    · cases next
  · cases next
    exact readyPublished_stands j answers
  · cases next
  · cases next

theorem clean_stands (j : Job) (provider : Provider) : Stands j.control (j.clean provider).control := by
  have unready : Stands j.control {j.control with ready := false} := ⟨rfl,rfl⟩
  have silenced := unready.trans (stands_silence {j.control with ready := false} provider)
  unfold Job.clean
  split
  · exact .refl _
  · dsimp only
    split
    · rename_i control error same
      have ended : control = (({j.control with ready := false} : Handler).silence provider).1 := (congrArg Prod.fst same).symm
      rw [ended]
      exact silenced
    · rename_i control same
      have ended : control = (({j.control with ready := false} : Handler).silence provider).1 := (congrArg Prod.fst same).symm
      rw [← ended] at silenced
      split
      · exact silenced
      · rw [cancelStartup_control]
        exact silenced

theorem finish_stands {j j' : Job} (next : j.finish provider = some j') : Stands j.control j'.control := by
  unfold Job.finish at next
  split at next
  · cases next
  · cases next
    have aborted : Stands j.control (if j.startup = .raised then (j.abort provider).1 else j).control := by
      split
      · exact abort_stands j provider
      · exact .refl _
    dsimp only
    generalize (if j.startup = .raised then (j.abort provider).1 else j) = middle at aborted ⊢
    split
    · exact aborted.trans (clean_stands {middle with entered := true} provider)
    · exact aborted

theorem controls_stands {j j' : Job} {control : Option Handler} (next : j.controls control = some j')
    (stands : ∀ h, control = some h → Stands j.control h) : Stands j.control j'.control := by
  obtain ⟨h,moved,rfl⟩ := Option.map_eq_some_iff.mp next
  exact stands h moved

theorem step_stands {j j' : Job} (next : step setup j event = some j')
    (spoken : ∀ packet clock provider, event ≠ .packet packet clock provider) : Stands j.control j'.control := by
  cases event with
  | room event sdk =>
    obtain ⟨room,sheltered⟩ := onRoom_sheltered event sdk next
    have stands := sheltered_stands sheltered
    exact ⟨stands.stopping,stands.transferring⟩
  | packet packet clock provider => exact absurd rfl (spoken packet clock provider)
  | resume answers => exact resume_stands next
  | throw =>
    cases throw_raises next
    exact .refl _
  | deadline | cancelEntry =>
    cases next
    rw [cancelStartup_control]
    exact .refl _
  | finish provider => exact finish_stands next
  | jobShutdown provider =>
    cases next
    exact clean_stands j provider
  | clean =>
    change j.cleanNext = some j' at next
    unfold Job.cleanNext at next
    split at next
    · split at next
      · cases next
        exact .refl _
      · cases next
    · cases next
      exact stands_cancel j.control
    · cases next
      exact .refl _
    all_goals cases next
  | sessionClose provider | publisherFailed provider =>
    rw [step,Job.reported] at next
    split at next
    · cases next
      exact abort_stands j provider
    · cases next
  | announce i now provider => exact controls_stands next fun _ => stands_announce
  | expire i =>
    refine controls_stands next fun h moved => ?_
    obtain ⟨_,_,rfl⟩ := expire_cases moved
    exact ⟨rfl,rfl⟩
  | stop wake provider => exact controls_stands next fun _ => stands_stop
  | cancelStop =>
    refine controls_stands next fun h moved => ?_
    obtain ⟨_,_,_,rfl⟩ := cancelStop_cases moved
    exact ⟨rfl,rfl⟩

-- A step that tells no command moves the call by the flags that it changes alone.
theorem quiet_moves (advances : Advances setup j j') (stands : Stands j.control j'.control) :
    Runs Lifecycle.step Anything j.phase (changes j j') j'.phase := by
  cases before : j.over with
  | true =>
    have over_ : j'.over = true := by
      rw [over_exact] at before ⊢
      exact before.imp advances.aborted advances.cleaned
    have unready : ¬ (j.control.ready = false ∧ j'.control.ready = true) := by
      rintro ⟨unready,ready⟩
      rcases advances.opens ready with already | ⟨unaborted,uncleaned,_⟩
      · cases unready.symm.trans already
      · simp [Job.over,unaborted,uncleaned] at before
    rw [changes,if_neg unready,if_neg (by simp [before]),phase_over before,phase_over over_]
    exact .nil
  | false =>
    have welcomes : Runs Lifecycle.step Anything (controlPhase j.control)
        (if j.control.ready = false ∧ j'.control.ready = true then [.welcomed] else [])
        (phaseOf (j.control.ready || j'.control.ready) j.control.stopping j.control.transferring) := by
      split
      · rename_i opens
        obtain ⟨unready,ready⟩ := opens
        obtain ⟨_,_,running⟩ := (advances.opens ready).resolve_left (by simp [unready])
        rw [controlPhase,unready,ready,running]
        exact Runs.single trivial (welcomed_moves _)
      · rename_i same
        have still : (j.control.ready || j'.control.ready) = j.control.ready := by
          cases ready : j.control.ready with
          | true => rfl
          | false => simpa [ready] using same
        rw [still]
        exact .nil
    rw [changes,phase_going before]
    apply welcomes.append
    cases after : j'.over with
    | true =>
      rw [if_pos ⟨before,rfl⟩,phase_over after]
      exact Runs.single trivial (ended_moves _ _ _)
    | false =>
      have kept : (j.control.ready || j'.control.ready) = j'.control.ready := by
        cases ready : j.control.ready with
        | false => rfl
        | true =>
          rcases advances.stays ready with still | cleaned
          · rw [still]
            rfl
          · simp [Job.over,cleaned] at after
      rw [if_neg (by simp),phase_going after,controlPhase,kept,stands.stopping,stands.transferring]
      exact .nil

theorem failed_lowers {h : Handler} (timely : deadline ≥ clock.first) :
    (h.transferFailed deadline clock provider).1.transferring = false := by
  have lowered : ({h with transferring := false} : Handler).cancelAnnouncement.transferring = false :=
    (stands_cancel {h with transferring := false}).transferring
  unfold Handler.transferFailed
  rw [if_pos timely]
  dsimp only
  split
  · split
    · exact lowered
    · split <;> exact lowered
  · exact lowered

-- A packet moves the call as the command that it brings.
theorem receive_moves (h : Handler) (packet : Packet) (clock : Clock) (provider : Provider) :
    Runs Lifecycle.step Anything (controlPhase h) (brought py h packet clock)
      (controlPhase (h.receive py packet clock provider).1) := by
  unfold brought
  split
  · rename_i refused
    have stale : h.receive py packet clock provider = (h,.returned false) := by
      apply receive_stale
      intro command parsed
      cases refused.symm.trans parsed
    rw [stale]
    exact .nil
  · rename_i command parsed
    split
    · rename_i known
      have stale : h.receive py packet clock provider = (h,.returned false) := by
        apply receive_stale
        intro other again
        cases parsed.symm.trans again
        exact known
      rw [stale]
      exact .nil
    · rename_i taken
      obtain ⟨fresh,going⟩ := not_or.mp taken
      have running : h.stopping = false := by simpa using going
      rw [receive_taken parsed fresh running,controlPhase,running]
      cases action : command.action with
      | humanAnswered =>
        have answered := (human_memory (h.note command) command.deadlineMs clock provider).2.2
        dsimp only
        rw [controlPhase,answered]
        exact Runs.single trivial (answered_moves _ _)
      | transferRequested =>
        have frame := frame_requested (h.note command) command.deadlineMs clock
        have calm : ((h.note command).transferRequested command.deadlineMs clock).1.stopping = false :=
          frame.stopping.trans running
        dsimp only
        rw [controlPhase,calm,frame.ready]
        unfold Handler.transferRequested
        split
        · rw [start_transferring]
          exact Runs.single trivial (requested_moves _ _)
        · exact .nil
      | transferFailed =>
        have frame := frame_failed (h.note command) command.deadlineMs clock provider
        have calm : ((h.note command).transferFailed command.deadlineMs clock provider).1.stopping = false :=
          frame.stopping.trans running
        dsimp only
        rw [controlPhase,calm,frame.ready]
        split
        · rename_i timely
          rw [failed_lowers timely]
          exact Runs.single trivial (failed_moves _ _)
        · rename_i late
          unfold Handler.transferFailed
          rw [if_neg late]
          exact .nil

theorem changes_same {middle : Job} (ready : middle.control.ready = j.control.ready) (over_ : middle.over = j.over) (j' : Job) :
    changes j j' = changes middle j' := by
  unfold changes
  rw [ready,over_]

-- What on_data makes of a packet: the control receives it, and an answer before the
-- activation ends the job.
theorem onData_moves (j : Job) (packet : Packet) (clock : Clock) (provider : Provider) :
    Runs Lifecycle.step Anything j.phase (j.heard setup (.packet packet clock provider) ++
      changes j (j.onData setup packet clock provider)) (j.onData setup packet clock provider).phase := by
  cases before : j.over with
  | true =>
    have past : j.aborted = true ∨ j.cleaned = true := over_exact.mp before
    have same : j.onData setup packet clock provider = j := by
      unfold Job.onData
      rw [if_pos past]
    have nothing : changes j j = [] := by simp [changes]
    rw [same,nothing,Job.heard,before]
    exact .nil
  | false =>
    have going : ¬ (j.aborted = true ∨ j.cleaned = true) := by
      rw [← over_exact,before]
      decide
    have heard : j.heard setup (.packet packet clock provider) = brought setup.py j.control packet clock := by
      rw [Job.heard,before]
      rfl
    generalize receives : j.control.receive setup.py packet clock provider = result
    obtain ⟨control,reply⟩ := result
    have received := @receive_moves setup.py j.control packet clock provider
    have ready := @receive_ready setup.py j.control packet clock provider
    rw [receives] at received ready
    have middle : Runs Lifecycle.step Anything j.phase (brought setup.py j.control packet clock) ({j with control} : Job).phase := by
      rw [phase_going before,phase_going (j := {j with control}) before]
      exact received
    have kept : ∀ j', changes j j' = changes {j with control} j' := changes_same ready rfl
    have idle : changes {j with control} {j with control} = [] := by simp [changes]
    unfold Job.onData
    rw [if_neg going,heard,receives,kept]
    cases reply with
    | raised error =>
      dsimp only
      rw [idle,List.append_nil]
      exact middle
    | returned accepted =>
      dsimp only
      split
      · have advances : Advances setup {j with control} (Job.abort {j with control} provider).1 := abort_advances _ provider
        exact middle.append (quiet_moves advances (abort_stands _ provider))
      · rw [idle,List.append_nil]
        exact middle

theorem step_moves (admitted : Admitted setup j) (next : step setup j event = some j') :
    Runs Lifecycle.step Anything j.phase (moves setup j event) j'.phase := by
  rw [moves,next]
  dsimp only
  by_cases spoken : ∃ packet clock provider, event = .packet packet clock provider
  · obtain ⟨packet,clock,provider,rfl⟩ := spoken
    cases next
    exact onData_moves j packet clock provider
  · have other : ∀ packet clock provider, event ≠ .packet packet clock provider :=
      fun packet clock provider same => spoken ⟨packet,clock,provider,same⟩
    have silent : j.heard setup event = [] := by
      unfold Job.heard
      split
      · exact absurd rfl (other _ _ _)
      · rfl
    rw [silent,List.nil_append]
    exact quiet_moves (step_advances admitted next) (step_stands next other)

def history (setup : Setup) (room : Room) (events : List Event) : List Lifecycle.Move :=
  emitted (step setup) (moves setup) (.initial setup room) events

-- A run of a job is a run of the call, and its phase is that of the call.
theorem call_refined (path : Runs (step setup) Anything (.initial setup room) events j) :
    Runs Lifecycle.step Anything .starting (history setup room events) j.phase :=
  path.refined (fun j => Sound setup j ∧ Tied j) Job.phase ⟨initial_sound,initial_tied⟩
    (fun _ _ _ held _ next => ⟨step_sound held.1 next,advances_tied held.2 (step_advances held.1.admitted next)⟩)
    (fun _ _ _ held _ next => step_moves held.1.admitted next)

-- The gate for words is open in the conversation and in a transfer.
theorem available_phase (tied : Tied j) : j.available = true ↔ j.phase = .conversing ∨ j.phase = .transferring := by
  rw [available_exact]
  cases going : j.over with
  | true =>
    have shut : ¬ (j.control.ready = true ∧ j.aborted = false ∧ j.control.stopping = false) := by
      rintro ⟨ready,unaborted,_⟩
      rcases over_exact.mp going with aborted | cleaned
      · cases unaborted.symm.trans aborted
      · cases (tied.unready cleaned).symm.trans ready
    rw [phase_over going]
    exact iff_of_false shut (by decide)
  | false =>
    have unaborted : j.aborted = false := by
      by_contra past
      cases going.symm.trans (over_exact.mpr (.inl (by simpa using past)))
    rw [phase_going going,controlPhase,phaseOf_open,unaborted]
    simp

-- What the moves of a run tell of its call.
theorem call_lifecycle (path : Runs (step setup) Anything (.initial setup room) events j) :
    Runs Lifecycle.step Anything .starting (history setup room events) j.phase ∧
    j.phase = Lifecycle.reached (history setup room events) ∧
    (j.available = true ↔ .welcomed ∈ history setup room events ∧ .answered ∉ history setup room events ∧
      .ended ∉ history setup room events) ∧
    (history setup room events).Pairwise Lifecycle.Precedes := by
  have refined := call_refined path
  refine ⟨refined,Lifecycle.run_reached refined,?_,Lifecycle.run_ordered refined⟩
  rw [available_phase (run_held path).2]
  exact Lifecycle.run_open refined

theorem onData_taken {j : Job} {control : Handler} (going : ¬ (j.aborted = true ∨ j.cleaned = true))
    (received : j.control.receive setup.py packet clock provider = (control,.returned true)) (ready : control.ready = true) :
    step setup j (.packet packet clock provider) = some {j with control} := by
  show some (j.onData setup packet clock provider) = _
  unfold Job.onData
  rw [if_neg going,received]
  dsimp only
  rw [if_neg (by simp [ready])]

-- A caller is welcomed, a transfer is requested, and the human answers.
def sampleHandoff : List Event :=
  [.packet (samplePacket "bridge:1" .transferRequested) sampleClock calm,
    .packet (samplePacket "bridge:2" .humanAnswered) sampleClock calm]

theorem handoff_leaves (conversing : Conversing sampleSetup (sampleCall "Be kind.") j) :
    ∃ j', Runs (step sampleSetup) Anything j sampleHandoff j' ∧ j'.phase = .leaving := by
  obtain ⟨⟨unaborted,uncleaned,_⟩,calls,control⟩ := conversing
  have going : ¬ (j.aborted = true ∨ j.cleaned = true) := by simp [unaborted,uncleaned]
  generalize start : ({Handler.initial sampleSetup.dispatch.callId (some ⟨true,true⟩)
    (sampleCall "Be kind.").failedTransferStatement (sampleCall "Be kind.").transferStatement true with calls} : Handler) = h
    at control
  generalize requests : ((h.note ⟨"bridge:1",.transferRequested,11000⟩).transferRequested 11000 sampleClock).1 = requested
  generalize answers : ((requested.note ⟨"bridge:2",.humanAnswered,11000⟩).humanAnswered 11000 sampleClock calm).1 = answered
  have first : j.control.receive sampleSetup.py (samplePacket "bridge:1" .transferRequested) sampleClock calm =
      (requested,.returned true) := by
    rw [control]
    subst requests start
    exact receive_requested (sample_parsed rfl (.inl rfl) .transferRequested) List.not_mem_nil rfl rfl
  have second : requested.receive sampleSetup.py (samplePacket "bridge:2" .humanAnswered) sampleClock calm =
      (answered,.returned true) := by
    have fresh : "bridge:2" ∉ requested.seen := by
      subst requests start
      show "bridge:2" ∉ ["bridge:1"]
      decide
    subst answers requests start
    exact receive_human (sample_parsed rfl (.inr rfl) .humanAnswered) fresh rfl rfl
  have ready : requested.ready = true ∧ answered.ready = true := by
    subst answers requests start
    exact ⟨rfl,rfl⟩
  have requests_ := onData_taken going first ready.1
  have answers_ := onData_taken (j := {j with control := requested}) going second ready.2
  refine ⟨{j with control := answered},.cons trivial requests_ (.single trivial answers_),?_⟩
  have live : Job.over {j with control := answered} = false := by simp [Job.over,unaborted,uncleaned]
  rw [phase_going live]
  subst answers requests start
  rfl

theorem sample_lifecycle : ∃ (events : List Event) (j j' : Job),
    Runs (step sampleSetup) Anything (.initial sampleSetup (lobby sampleSetup sampleLeg)) events j ∧
    (j.available = true ∧ .welcomed ∈ history sampleSetup (lobby sampleSetup sampleLeg) events) ∧
    Runs (step sampleSetup) Anything j sampleHandoff j' ∧
    j'.available = false ∧ .answered ∈ history sampleSetup (lobby sampleSetup sampleLeg) (events ++ sampleHandoff) := by
  obtain ⟨j,path,conversing⟩ := welcome_opens sample_granted
  obtain ⟨j',rest,leaves⟩ := handoff_leaves conversing
  obtain ⟨⟨unaborted,uncleaned,_⟩,calls,control⟩ := conversing
  have open_ : j.available = true := by
    apply available_exact.mpr
    rw [control]
    exact ⟨rfl,unaborted,rfl⟩
  obtain ⟨_,_,told,_⟩ := call_lifecycle path
  obtain ⟨_,reached,shut,_⟩ := call_lifecycle (path.append rest)
  have answered : .answered ∈ history sampleSetup (lobby sampleSetup sampleLeg) (welcome sampleLeg sampleAttempt ++ sampleHandoff) := by
    rw [leaves] at reached
    cases Lifecycle.reached_exact.mpr reached with
    | leaving _ answered => exact answered
  refine ⟨_,j,j',path,⟨open_,(told.mp open_).1⟩,rest,?_,answered⟩
  by_contra again
  exact (shut.mp (by simpa using again)).2.1 answered

end AidaAgent.Worker
