import AidaAgent.WorkerRequest
import AidaAgent.WorkerWelcome

namespace AidaAgent.Worker
open JsonText Config Bootstrap Control Transitions

-- The marks of a startup that a step leaves as many as there were.
def marksStartup : Mark → Bool
  | .readySent | .greeting => true
  | _ => false

structure Still (j j' : Job) : Prop where
  calls : Without opensInput j.control j'.control
  log : ∃ extra, j'.log = extra ++ j.log ∧ ∀ m ∈ extra, marksStartup m = false

theorem still_same (calls : Without opensInput j.control j'.control) (log : j'.log = j.log) : Still j j' :=
  ⟨calls,[],log,by simp⟩

theorem Still.refl (j : Job) : Still j j := still_same (.refl _) rfl

theorem Still.trans (first : Still j middle) (second : Still middle j') : Still j j' := by
  obtain ⟨extra,before,plain⟩ := first.log
  obtain ⟨more,after,also⟩ := second.log
  refine ⟨first.calls.trans second.calls,more ++ extra,by rw [after,before,List.append_assoc],?_⟩
  intro m member
  rcases List.mem_append.mp member with late | early
  · exact also m late
  · exact plain m early

theorem track_plain (track : marksTrack m = true) : marksStartup m = false := by
  cases m <;> simp [marksTrack,marksStartup] at track ⊢

theorem sheltered_still (sheltered : Sheltered j j') : Still j j' := by
  obtain ⟨extra,whole,marks⟩ := sheltered.log
  refine ⟨?_,extra,whole,fun m member => track_plain (marks m member)⟩
  rcases sheltered.control with ⟨same,_⟩ | ⟨_,_,_,provider,same⟩
  · rw [same]
    exact .refl _
  · rw [same]
    exact (hushed_silence j.control provider).closed

def opened (j : Job) : Nat := j.control.calls.count (.setInput true)
def greetings (j : Job) : Nat := j.log.count .greeting
def readySent (j : Job) : Nat := j.log.count .readySent

theorem without_count (without : Without opensInput h h') :
    h'.calls.count (.setInput true) = h.calls.count (.setInput true) := by
  obtain ⟨extra,whole,plain⟩ := without
  have absent : extra.count (.setInput true) = 0 := List.count_eq_zero.mpr fun member => by
    have opens := plain _ member
    simp [opensInput] at opens
  rw [whole,List.count_append,absent,Nat.zero_add]

theorem still_counts (still : Still j j') :
    opened j' = opened j ∧ greetings j' = greetings j ∧ readySent j' = readySent j := by
  obtain ⟨extra,whole,plain⟩ := still.log
  have absent : ∀ {mark}, marksStartup mark = true → extra.count mark = 0 := fun marks =>
    List.count_eq_zero.mpr fun member => by
      rw [plain _ member] at marks
      cases marks
  refine ⟨without_count still.calls,?_,?_⟩
  · rw [greetings,whole,List.count_append,absent rfl,Nat.zero_add]
    rfl
  · rw [readySent,whole,List.count_append,absent rfl,Nat.zero_add]
    rfl

def Clear (j : Job) : Prop := j.aborted = false ∧ j.cleaned = false ∧ j.control.stopping = false

-- What one step does to the startup: nothing, or agent_ready is sent, or normal turns
-- are opened, by the end of the startup or by a failed transfer.
inductive Turns (j j' : Job) : Prop where
  | still : Still j j' → Turns j j'
  | sends : Clear j' → j'.startup = .publishing → opened j' = opened j → greetings j' = greetings j → Turns j j'
  | opens : Clear j' → j'.control.ready = true → j'.control.transferring = false → readySent j' = readySent j →
      Turns j j'

theorem Turns.after (before : Still j middle) (turns : Turns middle j') : Turns j j' := by
  obtain ⟨open_,greeted,sent⟩ := still_counts before
  cases turns with
  | still after => exact .still (before.trans after)
  | sends clear publishing calls log => exact .sends clear publishing (calls.trans open_) (log.trans greeted)
  | opens clear ready idle log => exact .opens clear ready idle (log.trans sent)

theorem raises_turns (j : Job) : Turns j j.raises := .still (still_same (.refl _) rfl)
theorem returns_turns (j : Job) : Turns j j.returns := .still (still_same (.refl _) rfl)

theorem checked_turns (admitted : Admitted setup j) {next : Job → Job} (goes : Clear j → Turns j (next j)) :
    Turns j (j.checked setup next) := by
  unfold Job.checked
  split
  · exact raises_turns j
  · rename_i valid
    split
    · exact returns_turns j
    · rename_i running
      obtain ⟨unaborted,free⟩ := not_or.mp running
      exact goes ⟨by simpa using unaborted,validate_open valid admitted,by simpa using free⟩

theorem publishReady_turns (admitted : Admitted setup j) (answers : Answers) : Turns j (j.publishReady setup answers) := by
  apply checked_turns admitted
  intro clear
  split
  · exact .sends clear rfl rfl (List.count_cons_of_ne (by simp))
  · exact raises_turns j

theorem subscribeAudio_turns (admitted : Admitted setup j) (answers : Answers) :
    Turns j (j.subscribeAudio setup answers) := by
  obtain ⟨middle,sheltered,raised | ⟨_,found⟩ | waits⟩ := subscribeAudio_cases setup j answers
  · rw [raised]
    exact (raises_turns middle).after (sheltered_still sheltered)
  · rw [found]
    exact (publishReady_turns (sheltered_admitted sheltered admitted) answers).after (sheltered_still sheltered)
  · rw [waits]
    exact .still ((sheltered_still sheltered).trans (still_same (.refl _) rfl))

theorem createSession_turns (j : Job) (call : CallConfiguration) (answers : Answers) :
    Turns j (j.createSession call answers) := by
  unfold Job.createSession
  split
  · exact .still (still_same ⟨[_,_],rfl,by simp [opensInput]⟩ rfl)
  · exact raises_turns j

theorem activate_idle {h : Handler} (enabled : (h.activate now).2 = true) : h.transferring = false := by
  unfold Handler.activate at enabled
  dsimp only at enabled
  split at enabled
  · cases enabled
  · rename_i idle
    simpa using idle

theorem readyPublished_turns (admitted : Admitted setup j) (answers : Answers) :
    Turns j (j.readyPublished setup answers) := by
  have delivered : Still j (j.mark .readyDelivered) := ⟨.refl _,[_],rfl,by simp [marksStartup]⟩
  have marked : Admitted setup (j.mark .readyDelivered) := mark_admitted admitted (by simp) (by simp)
  apply Turns.after delivered
  apply checked_turns marked
  intro clear
  obtain ⟨unaborted,uncleaned,running⟩ := clear
  dsimp only
  split
  · have enables := enable_cases (j.mark .readyDelivered).control answers.now
    have activates := @activate_idle answers.now ((j.mark .readyDelivered).control)
    generalize (j.mark .readyDelivered).control.enable answers.now = out at enables ⊢
    have turns : ∀ {j' : Job}, j'.control = out → j'.aborted = j.aborted → j'.cleaned = j.cleaned →
        readySent j' = readySent (j.mark .readyDelivered) → out.transferring = false →
        out.ready = true ∧ out.stopping = false → Turns (j.mark .readyDelivered) j' := by
      intro j' control aborted cleaned sent idle ready
      subst control
      exact .opens ⟨aborted.trans unaborted,cleaned.trans uncleaned,ready.2⟩ ready.1 idle sent
    split
    · rename_i enabled
      have idle := activates enabled
      cases enables with
      | announces busy => cases idle.symm.trans busy
      | waits _ stopping => cases running.symm.trans stopping
      | converses =>
        unfold Job.greet
        dsimp only
        split
        · exact turns rfl rfl rfl (List.count_cons_of_ne (by simp)) idle ⟨rfl,running⟩
        · exact turns rfl rfl rfl (List.count_cons_of_ne (by simp)) idle ⟨rfl,running⟩
    · cases enables with
      | announces => exact .still (still_same (hushed_start {(j.mark .readyDelivered).control with ready := true} _).closed rfl)
      | waits => exact .still (still_same (.refl _) rfl)
      | converses idle => exact turns rfl rfl rfl rfl idle ⟨rfl,running⟩
  · exact raises_turns _

theorem admit_turns (j : Job) : Turns j (j.wait setup) := by
  have changed := sheltered_still (sheltered_changed j false)
  unfold Job.wait
  dsimp only
  split
  · exact (raises_turns _).after changed
  · exact .still (changed.trans (still_same (.refl _) rfl))
  · have asked : ∀ post, Still (j.setChanged false) ((j.setChanged false).mark (.posted post)) := fun _ =>
      ⟨.refl _,[_],rfl,by simp [marksStartup]⟩
    exact .still (changed.trans ((asked _).trans (still_same (.refl _) rfl)))

theorem resume_turns (admitted : Admitted setup j) (next : j.resume setup answers = some j') : Turns j j' := by
  unfold Job.resume at next
  split at next
  · split at next <;> cases next
    exact .still (still_same (.refl _) rfl)
  · cases next
    exact admit_turns j
  · split at next <;> cases next
    exact admit_turns j
  · cases next
    unfold Job.authorized
    split
    · exact raises_turns j
    · split
      · exact checked_turns admitted fun _ => createSession_turns j _ answers
      · exact raises_turns j
  · cases next
    unfold Job.sessionStarted
    split
    · exact raises_turns j
    · have allowed : Sheltered j {j with admission := {j.admission with audioAuthorized := true}} :=
        sheltered_same rfl rfl rfl rfl rfl rfl rfl rfl rfl
      exact (subscribeAudio_turns (sheltered_admitted allowed admitted) answers).after (sheltered_still allowed)
  · split at next <;> cases next
    exact subscribeAudio_turns admitted answers
  · cases next
    exact readyPublished_turns admitted answers
  all_goals cases next

-- Only a failed transfer opens the input again, of a control that runs on.
theorem receive_opens (h : Handler) (packet : Packet) (clock : Clock) (provider : Provider) :
    Without opensInput h (h.receive py packet clock provider).1 ∨
      (h.receive py packet clock provider).1.ready = true ∧ (h.receive py packet clock provider).1.transferring = false ∧
        (h.receive py packet clock provider).1.stopping = false := by
  have receives := @receive_cases py h packet clock provider
  generalize h.receive py packet clock provider = result at receives ⊢
  have noted : ∀ command, Without opensInput h (h.note command) := fun command =>
    ⟨[_],rfl,by simp [opensInput]⟩
  cases receives with
  | refused => exact .inl (.refl h)
  | human => exact .inl ((noted _).trans (hushed_human _ _ clock provider).closed)
  | requested => exact .inl ((noted _).trans (hushed_requested _ _ clock).closed)
  | @failed command _ _ running =>
    have fails := failed_cases (h.note command) command.deadlineMs clock provider
    generalize ((h.note command).transferFailed command.deadlineMs clock provider).1 = out at fails ⊢
    obtain ⟨ready,_⟩ := cancel_ready {h.note command with transferring := false}
    have flags : ({h.note command with transferring := false} : Handler).cancelAnnouncement.transferring = false ∧
        ({h.note command with transferring := false} : Handler).cancelAnnouncement.stopping = h.stopping := by
      rw [cancel_exact]
      exact ⟨rfl,rfl⟩
    cases fails with
    | late => exact .inl (noted command)
    | unready => exact .inl ((noted command).trans (hushed_cancel {h.note command with transferring := false}).closed)
    | resumed on | said _ on => exact .inr ⟨ready.trans on,flags.1,flags.2.trans running⟩

theorem abort_turns (j : Job) (provider : Provider) : Turns j (j.abort provider).1 :=
  .still (sheltered_still (abort_sheltered j provider).1)

theorem onData_turns (j : Job) (packet : Packet) (clock : Clock) (provider : Provider) :
    Turns j (j.onData setup packet clock provider) := by
  have opens := @receive_opens setup.py j.control packet clock provider
  unfold Job.onData
  split
  · exact .still (.refl j)
  · rename_i past
    obtain ⟨unaborted,uncleaned⟩ := not_or.mp past
    have received : ∀ {control}, Without opensInput j.control control ∨
        control.ready = true ∧ control.transferring = false ∧ control.stopping = false → Turns j {j with control} := by
      rintro control (without | ⟨ready,idle,running⟩)
      · exact .still (still_same without rfl)
      · exact .opens ⟨by simpa using unaborted,by simpa using uncleaned,running⟩ ready idle rfl
    split
    · rename_i same
      rw [same] at opens
      exact received opens
    · rename_i control accepted same
      rw [same] at opens
      split
      · rename_i stops
        rcases opens with without | ⟨_,_,running⟩
        · have moved : Still j {j with control} := still_same without rfl
          exact (abort_turns {j with control} provider).after moved
        · cases running.symm.trans stops.1
      · exact received opens

theorem clean_turns (j : Job) (provider : Provider) : Turns j (j.clean provider) := by
  have silenced := (hushed_silence {j.control with ready := false} provider).closed
  have still : ∀ {j' : Job}, j'.control = (({j.control with ready := false} : Handler).silence provider).1 →
      j'.log = j.log → Still j j' := fun control log => still_same (by rw [control]; exact silenced) log
  unfold Job.clean
  split
  · exact .still (.refl j)
  · dsimp only
    split
    · rename_i same
      exact .still (still (congrArg Prod.fst same).symm rfl)
    · rename_i control same
      have ended := (congrArg Prod.fst same).symm
      split
      · exact .still (still ended rfl)
      · have waits := sheltered_still (cancelStartup_sheltered
          {({j with cleaned := true} : Job).closeAdmission with control, cleanup := .gathering})
        have before : Still j {({j with cleaned := true} : Job).closeAdmission with control, cleanup := .gathering} :=
          still ended rfl
        exact .still (before.trans waits)

theorem finish_turns (next : j.finish provider = some j') : Turns j j' := by
  unfold Job.finish at next
  split at next
  · cases next
  · dsimp only at next
    cases next
    have aborted : Still j (if j.startup = .raised then (j.abort provider).1 else j) := by
      split
      · exact sheltered_still (abort_sheltered j provider).1
      · exact .refl j
    generalize (if j.startup = .raised then (j.abort provider).1 else j) = middle at aborted ⊢
    have entered := aborted.trans (@still_same _ ({middle with entered := true}) (.refl _) rfl)
    split
    · exact (clean_turns _ provider).after entered
    · exact .still entered

theorem onRoom_turns (event : RoomEvent) (sdk : Sdk) (next : j.onRoom setup sdk event = some j') : Turns j j' := by
  obtain ⟨room,sheltered⟩ := onRoom_sheltered event sdk next
  have moved : Still j {j with room} := still_same (.refl _) rfl
  exact .still (moved.trans (sheltered_still sheltered))

theorem controls_turns {j j' : Job} {control : Option Handler} (next : j.controls control = some j')
    (closed : ∀ h, control = some h → Without opensInput j.control h) : Turns j j' := by
  obtain ⟨h,moved,rfl⟩ := Option.map_eq_some_iff.mp next
  exact .still (still_same (closed h moved) rfl)

theorem step_turns (admitted : Admitted setup j) (next : step setup j event = some j') : Turns j j' := by
  have cancelled := sheltered_still (cancelStartup_sheltered j)
  cases event with
  | room event sdk => exact onRoom_turns event sdk next
  | packet packet clock provider =>
    cases next
    exact onData_turns j packet clock provider
  | resume answers => exact resume_turns admitted next
  | throw =>
    cases throw_raises next
    exact raises_turns j
  | deadline | cancelEntry =>
    cases next
    exact .still cancelled
  | finish provider => exact finish_turns next
  | jobShutdown provider =>
    cases next
    exact clean_turns j provider
  | clean =>
    change j.cleanNext = some j' at next
    unfold Job.cleanNext at next
    split at next
    · split at next <;> cases next
      exact .still (still_same (.refl _) rfl)
    · cases next
      exact .still (still_same (hushed_cancel j.control).closed rfl)
    · cases next
      exact .still (still_same (.refl _) rfl)
    all_goals cases next
  | sessionClose provider | publisherFailed provider =>
    rw [step,Job.reported] at next
    split at next
    · cases next
      exact abort_turns j provider
    · cases next
  | announce i now provider => exact controls_turns next fun _ => closed_announce
  | expire i => exact controls_turns next fun _ expires => (hushed_expire expires).closed
  | stop wake provider => exact controls_turns next fun _ stops => (hushed_stop stops).closed
  | cancelStop =>
    refine controls_turns next fun h cancels => ?_
    obtain ⟨_,_,_,rfl⟩ := cancelStop_cases cancels
    exact .refl _

-- What else stands before agent_ready, the first turn of the conversation and the greeting.
structure Gate (setup : Setup) (j : Job) : Prop where
  bound : ∃ leg, j.admission.leg = some leg ∧ Holds setup.routeTokenAttribute j.room leg
  subscribed : Subscribed j
  unaborted : j.aborted = false
  uncleaned : j.cleaned = false
  unanswered : ¬ Answered j.control.calls

theorem clear_gate (admitted : Admitted setup j) (bound : Bound setup j) (clear : Clear j)
    (phase : j.startup = .publishing ∨ j.control.ready = true) : Profiled j ∧ Gate setup j := by
  obtain ⟨unaborted,uncleaned,running⟩ := clear
  have profiled : Profiled j := by
    rcases phase with publishing | ready
    · exact admitted.profiled (.inl (by rw [publishing]; rfl))
    · exact admitted.profiled (.inr ready)
  obtain ⟨leg,call,known,given⟩ := profiled
  refine ⟨⟨leg,call,known,given⟩,⟨leg,known,bound unaborted uncleaned leg known⟩,admitted.subscribed phase,
    unaborted,uncleaned,fun answered => ?_⟩
  cases running.symm.trans (admitted.muted.answered answered)

theorem open_gate (admitted : Admitted setup j) (bound : Bound setup j) (present : j.control.session = some s)
    (open_ : s.input = true) : Profiled j ∧ Gate setup j ∧ .readyDelivered ∈ j.log := by
  obtain ⟨ready,_,running⟩ := admitted.muted.input s present open_
  have live : ¬ (j.aborted = true ∨ j.cleaned = true) := fun ended => by
    cases open_.symm.trans (admitted.off ended s present)
  obtain ⟨unaborted,uncleaned⟩ := not_or.mp live
  obtain ⟨profiled,gate⟩ := clear_gate admitted bound ⟨by simpa using unaborted,by simpa using uncleaned,running⟩ (.inr ready)
  exact ⟨profiled,gate,admitted.delivered ready⟩

-- In every run the session hears the caller only behind the gate, each step that opens
-- its input stands behind it, and so does the one greeting, with nothing transferred. The
-- caller is authorized by an answer that the run itself took.
theorem startup_gate (path : Runs (step setup) Anything (.initial setup room) events j) :
    (∀ s, j.control.session = some s → s.input = true →
      Authorized setup room events j ∧ Gate setup j ∧ .readyDelivered ∈ j.log) ∧
    (∀ event j', step setup j event = some j' →
      (opened j < opened j' → Authorized setup room (events ++ [event]) j' ∧ Gate setup j' ∧ .readyDelivered ∈ j'.log) ∧
      (greetings j < greetings j' → Authorized setup room (events ++ [event]) j' ∧ Gate setup j' ∧
        .readyDelivered ∈ j'.log ∧ j'.control.transferring = false) ∧
      (readySent j < readySent j' → Authorized setup room (events ++ [event]) j' ∧ Gate setup j')) ∧
    greetings j ≤ 1 ∧ readySent j ≤ 1 := by
  have held : Admitted setup j ∧ Bound setup j :=
    path.invariant (fun _ _ _ held _ next => step_admitted held.1 held.2 next) initial_admitted
  obtain ⟨admitted,bound⟩ := held
  refine ⟨fun s present open_ => ?_,fun event j' next => ?_,admitted.greeted.1,admitted.sent.1⟩
  · obtain ⟨profiled,gate,delivered⟩ := open_gate admitted bound present open_
    exact ⟨profiled_authorized path profiled,gate,delivered⟩
  · have later := path.step trivial next
    obtain ⟨after,kept⟩ := step_admitted admitted bound next
    cases step_turns admitted next with
    | still still =>
      obtain ⟨same,greeted,sent⟩ := still_counts still
      exact ⟨fun more => by omega,fun more => by omega,fun more => by omega⟩
    | sends clear publishing same greeted =>
      obtain ⟨profiled,gate⟩ := clear_gate after kept clear (.inl publishing)
      exact ⟨fun more => by omega,fun more => by omega,fun _ => ⟨profiled_authorized later profiled,gate⟩⟩
    | opens clear ready idle sent =>
      obtain ⟨profiled,gate⟩ := clear_gate after kept clear (.inr ready)
      have authorized := profiled_authorized later profiled
      have delivered := after.delivered ready
      exact ⟨fun _ => ⟨authorized,gate,delivered⟩,fun _ => ⟨authorized,gate,delivered,idle⟩,fun more => by omega⟩

theorem sample_startup : ∃ (room : Room) (events : List Event) (j : Job),
    Runs (step sampleSetup) Anything (.initial sampleSetup room) events j ∧ j.control.session = some ⟨true,true⟩ ∧
      Authorized sampleSetup room events j ∧ Gate sampleSetup j ∧ .readyDelivered ∈ j.log := by
  obtain ⟨j,path,_,calls,control⟩ := welcome_opens sample_granted
  have session : j.control.session = some ⟨true,true⟩ := by rw [control]; rfl
  exact ⟨_,_,j,path,session,(startup_gate path).1 _ session rfl⟩

end AidaAgent.Worker
