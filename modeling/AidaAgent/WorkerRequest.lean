import AidaAgent.WorkerGate

namespace AidaAgent.Worker
open JsonText Config Bootstrap Control Transitions

-- Before the bootstrap service is asked, while it is, and after.
def Startup.phase : Startup → Nat
  | .created | .connecting | .waitingLeg => 0
  | .authorizing => 1
  | .starting | .subscribing | .publishing | .returned | .raised => 2

def Mark.post? : Mark → Option Post
  | .posted post => some post
  | _ => none

-- The POSTs that a job has made so far.
def Job.posts (j : Job) : List Post := j.log.filterMap Mark.post?

theorem sheltered_posts (sheltered : Sheltered j j') : j'.posts = j.posts := by
  obtain ⟨extra,whole,marks⟩ := sheltered.log
  have none_ : extra.filterMap Mark.post? = [] := by
    rw [List.filterMap_eq_nil_iff]
    intro m member
    have track := marks m member
    cases m <;> simp [marksTrack,Mark.post?] at track ⊢
  rw [Job.posts,whole,List.filterMap_append,none_,List.nil_append]
  rfl

-- The startup task resumes from its POST with an answer that grants the profile, for the
-- dispatch of the job and the leg that it is bound to.
def Grants (setup : Setup) (j : Job) (event : Event) (leg : SipLeg) (call : CallConfiguration) : Prop :=
  j.startup = .authorizing ∧ j.admission.leg = some leg ∧ ∃ answers, event = .resume answers ∧
    authorize setup.py setup.dispatch setup.roomName leg answers.attempt = some (.ok call)

-- What one step does to the request of the startup.
inductive Reaches (setup : Setup) (j : Job) (event : Event) (j' : Job) : Prop where
  | keeps : j'.admission.leg = j.admission.leg → j'.profile = j.profile → j'.posts = j.posts →
      j'.startup.phase = j.startup.phase ∨ j'.startup.phase = 2 → Reaches setup j event j'
  | asks : j.startup.phase = 0 → j'.startup = .authorizing → admitLeg setup.routeTokenAttribute j.room = .ok (some leg) →
      j'.admission.leg = some leg → j'.profile = j.profile →
        j'.posts = bootstrapPost setup.baseUrl setup.dispatch setup.roomName leg :: j.posts → Reaches setup j event j'
  | granted : Grants setup j event leg call → j'.admission.leg = some leg → j'.profile = some call →
      j'.posts = j.posts → j'.startup.phase = 2 → Reaches setup j event j'

theorem raises_reaches (j : Job) (event : Event) : Reaches setup j event j.raises := .keeps rfl rfl rfl (.inr rfl)
theorem returns_reaches (j : Job) (event : Event) : Reaches setup j event j.returns := .keeps rfl rfl rfl (.inr rfl)

theorem wait_reaches (early : j.startup.phase = 0) (event : Event) : Reaches setup j event (j.wait setup) := by
  unfold Job.wait
  dsimp only
  split
  · exact .keeps rfl rfl rfl (.inr rfl)
  · exact .keeps rfl rfl rfl (.inl early.symm)
  · rename_i leg admitted
    exact .asks early rfl admitted rfl rfl rfl

theorem authorized_reaches (asked : j.startup = .authorizing) (answers : Answers) :
    Reaches setup j (.resume answers) (j.authorized setup answers) := by
  unfold Job.authorized
  split
  · exact raises_reaches j _
  · rename_i leg known
    split
    · rename_i call granted
      unfold Job.checked
      split
      · exact raises_reaches j _
      · split
        · exact returns_reaches j _
        · unfold Job.createSession
          split
          · exact .granted ⟨asked,known,answers,rfl,granted⟩ known rfl rfl rfl
          · exact raises_reaches j _
    · exact raises_reaches j _

-- Once the service has answered, nothing that the startup does asks it again.
structure Later (j j' : Job) : Prop where
  leg : j'.admission.leg = j.admission.leg
  profile : j'.profile = j.profile
  posts : j'.posts = j.posts
  past : j'.startup.phase = 2

theorem checked_later {next : Job → Job} (goes : Later j (next j)) : Later j (j.checked setup next) := by
  unfold Job.checked
  split
  · exact ⟨rfl,rfl,rfl,rfl⟩
  · split
    · exact ⟨rfl,rfl,rfl,rfl⟩
    · exact goes

theorem publishReady_later (j : Job) (answers : Answers) : Later j (j.publishReady setup answers) := by
  apply checked_later
  split <;> exact ⟨rfl,rfl,rfl,rfl⟩

theorem subscribeAudio_later (j : Job) (answers : Answers) : Later j (j.subscribeAudio setup answers) := by
  obtain ⟨middle,sheltered,ends⟩ := subscribeAudio_cases setup j answers
  have posts := sheltered_posts sheltered
  rcases ends with raised | ⟨_,found⟩ | waits
  · rw [raised]
    exact ⟨sheltered.leg,sheltered.profile,posts,rfl⟩
  · have later := @publishReady_later setup middle answers
    rw [found]
    exact ⟨later.leg.trans sheltered.leg,later.profile.trans sheltered.profile,later.posts.trans posts,later.past⟩
  · rw [waits]
    exact ⟨sheltered.leg,sheltered.profile,posts,rfl⟩

theorem sessionStarted_later (j : Job) (answers : Answers) : Later j (j.sessionStarted setup answers) := by
  unfold Job.sessionStarted
  split
  · exact ⟨rfl,rfl,rfl,rfl⟩
  · have later := @subscribeAudio_later setup {j with admission := {j.admission with audioAuthorized := true}} answers
    exact ⟨later.leg,later.profile,later.posts,later.past⟩

theorem greet_later (j : Job) (answers : Answers) : Later j (j.greet answers) := by
  unfold Job.greet
  dsimp only
  split <;> exact ⟨rfl,rfl,rfl,rfl⟩

theorem readyPublished_later (j : Job) (answers : Answers) : Later j (j.readyPublished setup answers) := by
  have delivered : Later (j.mark .readyDelivered) (j.readyPublished setup answers) := by
    apply checked_later
    dsimp only
    split
    · split
      · have later := greet_later {j.mark .readyDelivered with control := (j.mark .readyDelivered).control.enable answers.now} answers
        exact ⟨later.leg,later.profile,later.posts,later.past⟩
      · exact ⟨rfl,rfl,rfl,rfl⟩
    · exact ⟨rfl,rfl,rfl,rfl⟩
  exact ⟨delivered.leg,delivered.profile,delivered.posts,delivered.past⟩

theorem Later.reaches (later : Later j j') : Reaches setup j event j' := .keeps later.leg later.profile later.posts (.inr later.past)

theorem resume_reaches (next : j.resume setup answers = some j') : Reaches setup j (.resume answers) j' := by
  unfold Job.resume at next
  split at next
  · rename_i pending
    split at next
    · cases next
    · cases next
      exact .keeps rfl rfl rfl (.inl (by rw [pending]; rfl))
  · rename_i pending
    cases next
    exact wait_reaches (by rw [pending]; rfl) _
  · rename_i pending
    split at next
    · cases next
      exact wait_reaches (by rw [pending]; rfl) _
    · cases next
  · rename_i pending
    cases next
    exact authorized_reaches pending answers
  · cases next
    exact (sessionStarted_later j answers).reaches
  · split at next
    · cases next
      exact (subscribeAudio_later j answers).reaches
    · cases next
  · cases next
    exact (readyPublished_later j answers).reaches
  · cases next
  · cases next

-- What every other step keeps of the startup.
structure Leaves (j j' : Job) : Prop where
  startup : j'.startup = j.startup
  leg : j'.admission.leg = j.admission.leg
  profile : j'.profile = j.profile
  posts : j'.posts = j.posts

theorem Leaves.trans (first : Leaves j middle) (second : Leaves middle j') : Leaves j j' :=
  ⟨second.startup.trans first.startup,second.leg.trans first.leg,second.profile.trans first.profile,
    second.posts.trans first.posts⟩

theorem Leaves.reaches (leaves : Leaves j j') : Reaches setup j event j' :=
  .keeps leaves.leg leaves.profile leaves.posts (.inl (by rw [leaves.startup]))

theorem sheltered_leaves (sheltered : Sheltered j j') : Leaves j j' :=
  ⟨sheltered.startup,sheltered.leg,sheltered.profile,sheltered_posts sheltered⟩

theorem cancelStartup_leaves (j : Job) : Leaves j j.cancelStartup := sheltered_leaves (cancelStartup_sheltered j)
theorem abort_leaves (j : Job) (provider : Provider) : Leaves j (j.abort provider).1 := sheltered_leaves (abort_sheltered j provider).1

theorem clean_leaves (j : Job) (provider : Provider) : Leaves j (j.clean provider) := by
  unfold Job.clean
  split
  · exact ⟨rfl,rfl,rfl,rfl⟩
  · dsimp only
    split
    · exact ⟨rfl,rfl,rfl,rfl⟩
    · rename_i control _
      split
      · exact ⟨rfl,rfl,rfl,rfl⟩
      · have before : Leaves j {({j with cleaned := true} : Job).closeAdmission with control, cleanup := .gathering} := ⟨rfl,rfl,rfl,rfl⟩
        exact before.trans (cancelStartup_leaves _)

theorem finish_leaves (next : j.finish provider = some j') : Leaves j j' := by
  unfold Job.finish at next
  split at next
  · cases next
  · cases next
    have aborted : Leaves j (if j.startup = .raised then (j.abort provider).1 else j) := by
      split
      · exact abort_leaves j provider
      · exact ⟨rfl,rfl,rfl,rfl⟩
    dsimp only
    generalize (if j.startup = .raised then (j.abort provider).1 else j) = middle at aborted ⊢
    have entered : Leaves j {middle with entered := true} := ⟨aborted.startup,aborted.leg,aborted.profile,aborted.posts⟩
    split
    · exact entered.trans (clean_leaves _ provider)
    · exact entered

theorem onData_leaves (j : Job) (packet : Packet) (clock : Clock) (provider : Provider) :
    Leaves j (j.onData setup packet clock provider) := by
  unfold Job.onData
  split
  · exact ⟨rfl,rfl,rfl,rfl⟩
  · split
    · exact ⟨rfl,rfl,rfl,rfl⟩
    · rename_i control _ _
      split
      · have received : Leaves j {j with control} := ⟨rfl,rfl,rfl,rfl⟩
        exact received.trans (abort_leaves _ provider)
      · exact ⟨rfl,rfl,rfl,rfl⟩

theorem cleanNext_leaves {j j' : Job} (next : j.cleanNext = some j') : Leaves j j' := by
  unfold Job.cleanNext at next
  split at next
  · split at next
    · cases next
      exact ⟨rfl,rfl,rfl,rfl⟩
    · cases next
  · cases next
    exact ⟨rfl,rfl,rfl,rfl⟩
  · cases next
    exact ⟨rfl,rfl,rfl,rfl⟩
  all_goals cases next

theorem step_reaches (next : step setup j event = some j') : Reaches setup j event j' := by
  cases event with
  | room event sdk =>
    obtain ⟨room,sheltered⟩ := onRoom_sheltered event sdk next
    have leaves := sheltered_leaves sheltered
    exact Leaves.reaches ⟨leaves.startup,leaves.leg,leaves.profile,leaves.posts⟩
  | packet packet clock provider =>
    cases next
    exact (onData_leaves j packet clock provider).reaches
  | resume answers => exact resume_reaches next
  | throw =>
    cases throw_raises next
    exact raises_reaches j _
  | deadline | cancelEntry =>
    cases next
    exact (cancelStartup_leaves j).reaches
  | finish provider => exact (finish_leaves next).reaches
  | jobShutdown provider =>
    cases next
    exact (clean_leaves j provider).reaches
  | clean => exact (cleanNext_leaves next).reaches
  | sessionClose provider | publisherFailed provider =>
    rw [step,Job.reported] at next
    split at next
    · cases next
      exact (abort_leaves j provider).reaches
    · cases next
  | announce | expire | stop | cancelStop =>
    obtain ⟨_,_,rfl⟩ := Option.map_eq_some_iff.mp next
    exact Leaves.reaches ⟨rfl,rfl,rfl,rfl⟩

theorem phase_asked {s : Startup} : s.phase = 1 ↔ s = .authorizing := by
  cases s <;> simp [Startup.phase]

-- Before the service is asked there is no profile.
def Early (j : Job) : Prop := j.startup.phase = 0 → j.profile = none

theorem step_early (early : Early j) (next : step setup j event = some j') : Early j' := by
  intro still
  cases step_reaches next with
  | keeps _ profile _ phase =>
    rcases phase with same | past
    · exact profile.trans (early (same.symm.trans still))
    · cases past.symm.trans still
  | asks _ asked =>
    cases (phase_asked.mpr asked).symm.trans still
  | granted _ _ _ _ past =>
    cases past.symm.trans still

theorem run_early (path : Runs (step setup) Anything (.initial setup room) events j) : Early j :=
  path.invariant (fun _ _ _ early _ next => step_early early next) fun _ => rfl

-- A step that gives the job its profile takes the answer that grants it.
theorem step_grants (early : Early j) (next : step setup j event = some j') (known : j'.admission.leg = some leg)
    (given : j'.profile = some call) :
    (j.admission.leg = some leg ∧ j.profile = some call) ∨ Grants setup j event leg call := by
  cases step_reaches next with
  | keeps leg_ profile_ => exact .inl ⟨leg_.symm.trans known,profile_.symm.trans given⟩
  | asks first _ _ _ profile_ => cases (early first).symm.trans (profile_.symm.trans given)
  | granted grants leg_ profile_ =>
    cases Option.some.inj (leg_.symm.trans known)
    cases Option.some.inj (profile_.symm.trans given)
    exact .inr grants

-- The bootstrap service granted the profile of the job, for its dispatch and its leg, in
-- an answer that a step of the run took.
def Authorized (setup : Setup) (room : Room) (events : List Event) (j : Job) : Prop :=
  ∃ leg call, j.admission.leg = some leg ∧ j.profile = some call ∧ ∃ earlier event later middle,
    events = earlier ++ event :: later ∧ Runs (step setup) Anything (.initial setup room) earlier middle ∧
      Grants setup middle event leg call

theorem profile_origin (path : Runs (step setup) Anything (.initial setup room) events j) (known : j.admission.leg = some leg)
    (given : j.profile = some call) : ∃ earlier event later middle, events = earlier ++ event :: later ∧
      Runs (step setup) Anything (.initial setup room) earlier middle ∧ Grants setup middle event leg call := by
  have initial : Early (.initial setup room) := fun _ => rfl
  have unheld : ¬ ((Job.initial setup room).admission.leg = some leg ∧ (Job.initial setup room).profile = some call) :=
    fun held => by cases held.2
  exact path.origin initial (fun _ _ _ early _ next => step_early early next) unheld
    (fun _ _ _ early _ next held => step_grants early next held.1 held.2) ⟨known,given⟩

theorem profiled_authorized (path : Runs (step setup) Anything (.initial setup room) events j) (profiled : Profiled j) :
    Authorized setup room events j := by
  obtain ⟨leg,call,known,given⟩ := profiled
  exact ⟨leg,call,known,given,profile_origin path known given⟩

end AidaAgent.Worker
