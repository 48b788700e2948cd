import AidaAgent.WorkerSilence

namespace AidaAgent.Worker
open JsonText Config Bootstrap Control Transitions

-- What every step of the control but activate() keeps of it.
structure Persists (h h' : Handler) : Prop where
  ready : h'.ready = h.ready
  stopping : h.stopping = true → h'.stopping = true
  session : h'.session.isSome = h.session.isSome

theorem Persists.refl (h : Handler) : Persists h h := ⟨rfl,id,rfl⟩

theorem Persists.trans (first : Persists h middle) (second : Persists middle h') : Persists h h' :=
  ⟨second.ready.trans first.ready,second.stopping ∘ first.stopping,second.session.trans first.session⟩

theorem persists_frame (frame : Frame h h') : Persists h h' :=
  ⟨frame.ready,fun stopping => frame.stopping.trans stopping,frame.session⟩

theorem persists_human (h : Handler) (deadline : Int) (clock : Clock) (provider : Provider) :
    Persists h (h.humanAnswered deadline clock provider).1 := by
  have answered : Persists h h.answered := by
    unfold Handler.answered
    split <;> exact ⟨rfl,fun _ => rfl,rfl⟩
  have prepared := persists_frame (frame_prepare h.answered (remainingMs deadline clock) clock)
  obtain ⟨middle,frame,same | ⟨task,same⟩⟩ := frame_answers (human_cases h deadline clock provider)
  · rw [same]
    exact answered.trans (prepared.trans (persists_frame frame))
  · rw [same]
    exact (answered.trans (prepared.trans (persists_frame frame))).trans ⟨rfl,id,rfl⟩

theorem persists_receive (h : Handler) (packet : Packet) (clock : Clock) (provider : Provider) :
    Persists h (h.receive py packet clock provider).1 := by
  have noted : ∀ command, Persists h (h.note command) := fun _ => ⟨rfl,id,rfl⟩
  have receives := @receive_cases py h packet clock provider
  generalize h.receive py packet clock provider = result at receives ⊢
  cases receives with
  | refused => exact .refl h
  | human => exact (noted _).trans (persists_human _ _ clock provider)
  | requested => exact (noted _).trans (persists_frame (frame_requested _ _ clock))
  | failed => exact (noted _).trans (persists_frame (frame_failed _ _ clock provider))

theorem persists_stop (next : h.stop wake provider = some h') : Persists h h' := by
  cases stop_cases next with
  | dropped | waits | disconnects | ends => exact ⟨rfl,id,rfl⟩
  | @leaves _ escaping =>
    obtain ⟨middle,frame,⟨error,same⟩ | same⟩ := frame_leave h escaping provider
    · rw [same]
      exact (persists_frame frame).trans ⟨rfl,id,rfl⟩
    · rw [same]
      exact (persists_frame frame).trans ⟨rfl,id,rfl⟩

theorem persists_cancelStop {h h' : Handler} (next : h.cancelStop = some h') : Persists h h' := by
  obtain ⟨_,_,_,rfl⟩ := cancelStop_cases next
  exact ⟨rfl,id,rfl⟩

-- What a step keeps of a job: an end is an end, a profile is one that the bootstrap
-- service granted, the control becomes ready while nothing has ended the job, and
-- cleanup() takes that back.
structure Advances (setup : Setup) (j j' : Job) : Prop where
  aborted : j.aborted = true → j'.aborted = true
  cleaned : j.cleaned = true → j'.cleaned = true
  stopping : j.control.stopping = true → j'.control.stopping = true
  session : j.control.session.isSome = true → j'.control.session.isSome = true
  created : (j.profile.isSome = true → j.control.session.isSome = true) →
    j'.profile.isSome = true → j'.control.session.isSome = true
  profile : j'.profile = j.profile ∨ ∃ leg attempt call, j'.profile = some call ∧
    authorize setup.py setup.dispatch setup.roomName leg attempt = some (.ok call)
  opens : j'.control.ready = true → j.control.ready = true ∨ Clear j
  stays : j.control.ready = true → j'.control.ready = true ∨ j'.cleaned = true
  closes : j.cleaned = false → j'.cleaned = true → j'.control.ready = false

theorem Advances.clear (advances : Advances setup j j') (clear : Clear j') : Clear j := by
  obtain ⟨unaborted,uncleaned,running⟩ := clear
  refine ⟨?_,?_,?_⟩
  · by_contra past
    cases unaborted.symm.trans (advances.aborted (by simpa using past))
  · by_contra past
    cases uncleaned.symm.trans (advances.cleaned (by simpa using past))
  · by_contra past
    cases running.symm.trans (advances.stopping (by simpa using past))

theorem Advances.trans (first : Advances setup j middle) (second : Advances setup middle j') : Advances setup j j' := by
  refine ⟨second.aborted ∘ first.aborted,second.cleaned ∘ first.cleaned,second.stopping ∘ first.stopping,
    second.session ∘ first.session,second.created ∘ first.created,?_,?_,?_,?_⟩
  · rcases second.profile with same | granted
    · rw [same]
      exact first.profile
    · exact .inr granted
  · intro ready
    rcases second.opens ready with before | clear
    · exact first.opens before
    · exact .inr (first.clear clear)
  · intro ready
    rcases first.stays ready with still | cleaned
    · exact second.stays still
    · exact .inr (second.cleaned cleaned)
  · intro uncleaned cleaned
    cases past : middle.cleaned with
    | false => exact second.closes past cleaned
    | true =>
      by_contra ready
      rcases second.opens (by simpa using ready) with before | ⟨_,open_,_⟩
      · cases (first.closes uncleaned past).symm.trans before
      · cases past.symm.trans open_

theorem advances_control (control : Persists j.control j'.control) (aborted : j.aborted = true → j'.aborted = true)
    (cleaned : j'.cleaned = j.cleaned) (profile : j'.profile = j.profile) : Advances setup j j' := by
  refine ⟨aborted,fun past => cleaned.trans past,control.stopping,fun present => control.session.trans present,?_,
    .inl profile,?_,?_,?_⟩
  · intro created known
    rw [control.session]
    exact created (profile ▸ known)
  · intro ready
    exact .inl (control.ready.symm.trans ready)
  · intro ready
    exact .inl (control.ready.trans ready)
  · intro uncleaned past
    cases uncleaned.symm.trans (cleaned.symm.trans past)

theorem Advances.refl (j : Job) : Advances setup j j := advances_control (.refl _) id rfl rfl

theorem raises_advances (j : Job) : Advances setup j j.raises := advances_control (.refl _) id rfl rfl
theorem returns_advances (j : Job) : Advances setup j j.returns := advances_control (.refl _) id rfl rfl

theorem sheltered_advances (sheltered : Sheltered j j') : Advances setup j j' := by
  refine advances_control ?_ sheltered.aborts sheltered.cleaned sheltered.profile
  rcases sheltered.control with ⟨same,_⟩ | ⟨_,_,_,provider,same⟩
  · rw [same]
    exact .refl _
  · rw [same]
    exact persists_frame (frame_silence j.control provider)

theorem checked_advances (admitted : Admitted setup j) {next : Job → Job} (goes : Clear j → Advances setup j (next j)) :
    Advances setup j (j.checked setup next) := by
  unfold Job.checked
  split
  · exact raises_advances j
  · rename_i valid
    split
    · exact returns_advances j
    · rename_i running
      obtain ⟨unaborted,free⟩ := not_or.mp running
      exact goes ⟨by simpa using unaborted,validate_open valid admitted,by simpa using free⟩

theorem publishReady_advances (admitted : Admitted setup j) (answers : Answers) :
    Advances setup j (j.publishReady setup answers) := by
  apply checked_advances admitted
  intro _
  split
  · exact advances_control (.refl _) id rfl rfl
  · exact raises_advances j

theorem subscribeAudio_advances (admitted : Admitted setup j) (answers : Answers) :
    Advances setup j (j.subscribeAudio setup answers) := by
  obtain ⟨middle,sheltered,raised | ⟨_,found⟩ | waits⟩ := subscribeAudio_cases setup j answers
  · rw [raised]
    exact (sheltered_advances sheltered).trans (raises_advances middle)
  · rw [found]
    exact (sheltered_advances sheltered).trans (publishReady_advances (sheltered_admitted sheltered admitted) answers)
  · rw [waits]
    exact (sheltered_advances sheltered).trans (advances_control (.refl _) id rfl rfl)

theorem createSession_advances (j : Job) (granted : authorize setup.py setup.dispatch setup.roomName leg attempt = some (.ok call))
    (answers : Answers) : Advances setup j (j.createSession call answers) := by
  unfold Job.createSession
  split
  · exact ⟨id,id,id,fun _ => rfl,fun _ _ => rfl,.inr ⟨leg,attempt,call,rfl,granted⟩,.inl,.inl,fun open_ past => by cases open_.symm.trans past⟩
  · exact raises_advances j

theorem wait_advances (j : Job) : Advances setup j (j.wait setup) := by
  have changed : Advances setup j (j.setChanged false) := sheltered_advances (sheltered_changed j false)
  unfold Job.wait
  dsimp only
  split
  · exact changed.trans (raises_advances _)
  · exact changed.trans (advances_control (.refl _) id rfl rfl)
  · exact changed.trans (advances_control (.refl _) id rfl rfl)

-- activate() makes a clear job ready.
theorem enabled_advances (clear : Clear j) (control : j'.control = j.control.enable now) (aborted : j'.aborted = j.aborted)
    (cleaned : j'.cleaned = j.cleaned) (profile : j'.profile = j.profile) : Advances setup j j' := by
  have enables := enable_cases j.control now
  rw [← control] at enables
  have kept : j'.control.ready = true ∧ j'.control.stopping = j.control.stopping ∧
      j'.control.session.isSome = j.control.session.isSome := by
    generalize j'.control = out at enables
    cases enables with
    | announces =>
      have frame := frame_start {j.control with ready := true} now
      exact ⟨frame.ready,frame.stopping,frame.session⟩
    | waits => exact ⟨rfl,rfl,rfl⟩
    | converses =>
      have frame := (frame_output {j.control with ready := true} true).trans (frame_input _ true)
      exact ⟨frame.ready,frame.stopping,frame.session⟩
  obtain ⟨ready,stopping,session⟩ := kept
  refine ⟨fun past => aborted.trans past,fun past => cleaned.trans past,fun past => stopping.trans past,
    fun present => session.trans present,?_,.inl profile,fun _ => .inr clear,fun _ => .inl ready,?_⟩
  · intro created known
    rw [session]
    exact created (profile ▸ known)
  · intro uncleaned past
    cases uncleaned.symm.trans (cleaned.symm.trans past)

theorem readyPublished_advances (admitted : Admitted setup j) (answers : Answers) :
    Advances setup j (j.readyPublished setup answers) := by
  have delivered : Advances setup j (j.mark .readyDelivered) := advances_control (.refl _) id rfl rfl
  have marked : Admitted setup (j.mark .readyDelivered) := mark_admitted admitted (by simp) (by simp)
  apply delivered.trans
  apply checked_advances marked
  intro clear
  dsimp only
  split
  · split
    · unfold Job.greet
      dsimp only
      split <;> exact enabled_advances clear rfl rfl rfl rfl
    · exact enabled_advances clear rfl rfl rfl rfl
  · exact raises_advances _

theorem resume_advances (admitted : Admitted setup j) (next : j.resume setup answers = some j') : Advances setup j j' := by
  unfold Job.resume at next
  split at next
  · split at next <;> cases next
    exact advances_control (.refl _) id rfl rfl
  · cases next
    exact wait_advances j
  · split at next <;> cases next
    exact wait_advances j
  · cases next
    unfold Job.authorized
    split
    · exact raises_advances j
    · split
      · rename_i granted
        exact checked_advances admitted fun _ => createSession_advances j granted answers
      · exact raises_advances j
  · cases next
    unfold Job.sessionStarted
    split
    · exact raises_advances j
    · have allowed : Sheltered j {j with admission := {j.admission with audioAuthorized := true}} :=
        sheltered_same rfl rfl rfl rfl rfl rfl rfl rfl rfl
      exact (sheltered_advances allowed).trans (subscribeAudio_advances (sheltered_admitted allowed admitted) answers)
  · split at next <;> cases next
    exact subscribeAudio_advances admitted answers
  · cases next
    exact readyPublished_advances admitted answers
  · cases next
  · cases next

theorem abort_advances (j : Job) (provider : Provider) : Advances setup j (j.abort provider).1 :=
  sheltered_advances (abort_sheltered j provider).1

theorem clean_advances (j : Job) (provider : Provider) : Advances setup j (j.clean provider) := by
  have frame := frame_silence {j.control with ready := false} provider
  have cleared : ∀ {j' : Job}, j'.control = (({j.control with ready := false} : Handler).silence provider).1 →
      j'.aborted = j.aborted → j'.cleaned = true → j'.profile = j.profile → Advances setup j j' := by
    intro j' control aborted cleaned profile
    have unready : j'.control.ready = false := by
      rw [control]
      exact frame.ready
    have session : j'.control.session.isSome = j.control.session.isSome := by
      rw [control]
      exact frame.session
    refine ⟨fun past => aborted.trans past,fun _ => cleaned,?_,fun present => session.trans present,?_,.inl profile,?_,
      fun _ => .inr cleaned,fun _ _ => unready⟩
    · rw [control]
      exact fun past => frame.stopping.trans past
    · intro created known
      rw [session]
      exact created (profile ▸ known)
    · intro ready
      cases unready.symm.trans ready
  unfold Job.clean
  split
  · exact .refl j
  · dsimp only
    split
    · rename_i same
      exact cleared (congrArg Prod.fst same).symm rfl rfl rfl
    · rename_i control same
      have ended := (congrArg Prod.fst same).symm
      split
      · exact cleared ended rfl rfl rfl
      · have before : Advances setup j {({j with cleaned := true} : Job).closeAdmission with control, cleanup := .gathering} :=
          cleared ended rfl rfl rfl
        exact before.trans (sheltered_advances (cancelStartup_sheltered _))

theorem finish_advances (next : j.finish provider = some j') : Advances setup j j' := by
  unfold Job.finish at next
  split at next
  · cases next
  · cases next
    have aborted : Advances setup j (if j.startup = .raised then (j.abort provider).1 else j) := by
      split
      · exact abort_advances j provider
      · exact .refl j
    dsimp only
    generalize (if j.startup = .raised then (j.abort provider).1 else j) = middle at aborted ⊢
    have entered : Advances setup j {middle with entered := true} :=
      aborted.trans (advances_control (.refl _) id rfl rfl)
    split
    · exact entered.trans (clean_advances _ provider)
    · exact entered

theorem onData_advances (j : Job) (packet : Packet) (clock : Clock) (provider : Provider) :
    Advances setup j (j.onData setup packet clock provider) := by
  unfold Job.onData
  split
  · exact .refl j
  · have persists := @persists_receive setup.py j.control packet clock provider
    have received : ∀ {control}, control = (j.control.receive setup.py packet clock provider).1 →
        Advances setup j {j with control} := by
      rintro control rfl
      exact advances_control persists id rfl rfl
    split
    · rename_i same
      exact received (congrArg Prod.fst same).symm
    · rename_i same
      split
      · exact (received (congrArg Prod.fst same).symm).trans (abort_advances _ provider)
      · exact received (congrArg Prod.fst same).symm

theorem controls_advances {j j' : Job} {control : Option Handler} (next : j.controls control = some j')
    (persists : ∀ h, control = some h → Persists j.control h) : Advances setup j j' := by
  obtain ⟨h,moved,rfl⟩ := Option.map_eq_some_iff.mp next
  exact advances_control (persists h moved) id rfl rfl

theorem step_advances (admitted : Admitted setup j) (next : step setup j event = some j') : Advances setup j j' := by
  cases event with
  | room event sdk =>
    obtain ⟨room,sheltered⟩ := onRoom_sheltered event sdk next
    have moved : Advances setup j {j with room} := advances_control (.refl _) id rfl rfl
    exact moved.trans (sheltered_advances sheltered)
  | packet packet clock provider =>
    cases next
    exact onData_advances j packet clock provider
  | resume answers => exact resume_advances admitted next
  | throw =>
    cases throw_raises next
    exact raises_advances j
  | deadline | cancelEntry =>
    cases next
    exact sheltered_advances (cancelStartup_sheltered j)
  | finish provider => exact finish_advances next
  | jobShutdown provider =>
    cases next
    exact clean_advances j provider
  | clean =>
    change j.cleanNext = some j' at next
    unfold Job.cleanNext at next
    split at next
    · split at next <;> cases next
      exact advances_control (.refl _) id rfl rfl
    · cases next
      exact advances_control (persists_frame (frame_cancel j.control)) id rfl rfl
    · cases next
      exact advances_control (.refl _) id rfl rfl
    all_goals cases next
  | sessionClose provider | publisherFailed provider =>
    rw [step,Job.reported] at next
    split at next
    · cases next
      exact abort_advances j provider
    · cases next
  | announce i now provider => exact controls_advances next fun _ moved => persists_frame (frame_announce moved)
  | expire i => exact controls_advances next fun _ moved => persists_frame (frame_expire moved)
  | stop wake provider => exact controls_advances next fun _ => persists_stop
  | cancelStop => exact controls_advances next fun _ => persists_cancelStop

-- `control.ready and not aborted and not control.stopping`
def Job.available (j : Job) : Bool := j.control.ready && !j.aborted && !j.control.stopping

def Ended (j : Job) : Prop := j.aborted = true ∨ j.cleaned = true ∨ j.control.stopping = true

-- What ties the flags of a job to each other.
structure Tied (j : Job) : Prop where
  unready : j.cleaned = true → j.control.ready = false
  session : j.profile.isSome = true → j.control.session.isSome = true

theorem initial_tied : Tied (.initial setup room) :=
  ⟨fun none => (by cases none),fun none => (by cases none)⟩

theorem advances_tied (tied : Tied j) (advances : Advances setup j j') : Tied j' := by
  refine ⟨fun cleaned => ?_,advances.created tied.session⟩
  cases past : j.cleaned with
  | false => exact advances.closes past cleaned
  | true =>
    by_contra ready
    rcases advances.opens (by simpa using ready) with before | ⟨_,open_,_⟩
    · cases (tied.unready past).symm.trans before
    · cases past.symm.trans open_

-- What holds all along a run of a job, with its flags.
theorem run_held (path : Runs (step setup) Anything (.initial setup room) events j) : Sound setup j ∧ Tied j := by
  have held : ∀ s e s', Sound setup s ∧ Tied s → Anything s e → step setup s e = some s' → Sound setup s' ∧ Tied s' :=
    fun _ _ _ held _ next => ⟨step_sound held.1 next,advances_tied held.2 (step_advances held.1.admitted next)⟩
  exact path.invariant held ⟨initial_sound,initial_tied⟩

theorem available_exact {j : Job} : j.available = true ↔ j.control.ready = true ∧ j.aborted = false ∧ j.control.stopping = false := by
  simp [Job.available,and_assoc]

theorem available_clear (tied : Tied j) (available : j.available = true) : Clear j := by
  obtain ⟨ready,unaborted,running⟩ := available_exact.mp available
  refine ⟨unaborted,?_,running⟩
  by_contra cleaned
  cases (tied.unready (by simpa using cleaned)).symm.trans ready

theorem ended_closed (tied : Tied j) (ended : Ended j) : j.available = false := by
  by_contra open_
  obtain ⟨unaborted,uncleaned,running⟩ := available_clear tied (by simpa using open_)
  rcases ended with aborted | cleaned | stopping
  · cases unaborted.symm.trans aborted
  · cases uncleaned.symm.trans cleaned
  · cases running.symm.trans stopping

theorem advances_ended (ended : Ended j) (advances : Advances setup j j') : Ended j' := by
  rcases ended with aborted | cleaned | stopping
  · exact .inl (advances.aborted aborted)
  · exact .inr (.inl (advances.cleaned cleaned))
  · exact .inr (.inr (advances.stopping stopping))

-- What was open and is not any more is over.
theorem advances_shuts (available : j.available = true) (advances : Advances setup j j') (closed : j'.available = false) :
    Ended j' := by
  obtain ⟨ready,_⟩ := available_exact.mp available
  rcases advances.stays ready with still | cleaned
  · simp only [Job.available,still,Bool.true_and,Bool.and_eq_false_iff,Bool.not_eq_false'] at closed
    rcases closed with aborted | stopping
    · exact .inl aborted
    · exact .inr (.inr stopping)
  · exact .inr (.inl cleaned)

end AidaAgent.Worker
