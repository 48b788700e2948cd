import AidaAgent.WorkerStartup

namespace AidaAgent.Worker
open JsonText Config Bootstrap Control Transitions

-- abort() or cleanup() has run silence().
def Silenced (j : Job) : Prop := j.aborted = true ∨ j.cleaned = true

def BothOff (h : Handler) : Prop := ∀ s, h.session = some s → s.input = false ∧ s.output = false

-- An announcement that has not come to speak, and that nothing has stopped.
def waitsToSpeak (t : AnnounceTask) : Prop :=
  t.cancelled = false ∧ (t.pc = .created ∨ t.pc = .interrupting ∧ t.timer ≠ .expired)

def Pending (h : Handler) : Prop := h.transferStatement ≠ "" ∧ ∃ i, waitsToSpeak (h.tasks i)

-- What silence() does and what follows from it: no task is touched.
structure Keeps (h h' : Handler) : Prop where
  calls : Without isAudible h h'
  tasks : h'.tasks = h.tasks ∧ h'.transferStatement = h.transferStatement
  off : BothOff h → BothOff h'
  current : h'.announcementTask = h.announcementTask

theorem Keeps.refl (h : Handler) : Keeps h h := ⟨.refl h,⟨rfl,rfl⟩,id,rfl⟩

theorem Keeps.trans (first : Keeps h middle) (second : Keeps middle h') : Keeps h h' :=
  ⟨first.calls.trans second.calls,⟨second.tasks.1.trans first.tasks.1,second.tasks.2.trans first.tasks.2⟩,
    second.off ∘ first.off,second.current.trans first.current⟩

theorem Keeps.pending (keeps : Keeps h h') : Pending h' ↔ Pending h := by
  unfold Pending
  rw [keeps.tasks.1,keeps.tasks.2]

theorem silence_keeps (h : Handler) (provider : Provider) : Keeps h (h.silence provider).1 := by
  have off : BothOff (h.silence provider).1 := silenced_off h provider
  have hushed := hushed_silence h provider
  obtain ⟨_,_,exact⟩ := silence_exact h provider
  rw [exact] at off hushed ⊢
  exact ⟨hushed,⟨rfl,rfl⟩,fun _ => off,rfl⟩

-- Until cleanup() nothing is announced by a control that is not ready.
def Awake (j : Job) : Prop := j.cleaned = false → j.control.announcementTask.isSome = true → j.control.ready = true

-- A step of the job around the control: once it has silenced the session, both
-- directions are off.
structure Settles (j j' : Job) : Prop where
  control : Keeps j.control j'.control
  greetings : greetings j' = greetings j
  silenced : Silenced j' → Silenced j ∨ BothOff j'.control
  later : Silenced j → Silenced j'
  awake : Awake j → Awake j'

theorem awake_kept (cleaned : j'.cleaned = true ∨ j'.cleaned = j.cleaned ∧ j'.control.ready = j.control.ready)
    (current : j'.control.announcementTask.isSome = true → j.control.announcementTask.isSome = true)
    (awake : Awake j) : Awake j' := by
  intro uncleaned running
  rcases cleaned with past | ⟨same,ready⟩
  · cases uncleaned.symm.trans past
  · rw [ready]
    exact awake (same.symm.trans uncleaned) (current running)

theorem settles_same (control : j'.control = j.control) (aborted : j'.aborted = j.aborted) (cleaned : j'.cleaned = j.cleaned)
    (log : j'.log = j.log) : Settles j j' := by
  have same : Silenced j' ↔ Silenced j := by rw [Silenced,aborted,cleaned]; rfl
  refine ⟨?_,by rw [greetings,log]; rfl,fun silenced => .inl (same.mp silenced),same.mpr,?_⟩
  · rw [control]
    exact .refl _
  · exact awake_kept (.inr ⟨cleaned,by rw [control]⟩) (by rw [control]; exact id)

theorem Settles.refl (j : Job) : Settles j j := settles_same rfl rfl rfl rfl

theorem Settles.trans (first : Settles j middle) (second : Settles middle j') : Settles j j' := by
  refine ⟨first.control.trans second.control,second.greetings.trans first.greetings,fun silenced => ?_,
    second.later ∘ first.later,second.awake ∘ first.awake⟩
  rcases second.silenced silenced with before | off
  · rcases first.silenced before with earlier | off
    · exact .inl earlier
    · exact .inr (second.control.off off)
  · exact .inr off

theorem sheltered_settles (sheltered : Sheltered j j') : Settles j j' := by
  have greeted := (still_counts (sheltered_still sheltered)).2.1
  have later : Silenced j → Silenced j' := by
    rintro (aborted | cleaned)
    · exact .inl (sheltered.aborts aborted)
    · exact .inr (sheltered.cleaned.trans cleaned)
  rcases sheltered.control with ⟨same,aborted⟩ | ⟨_,_,_,provider,same⟩
  · have flags : Silenced j' ↔ Silenced j := by rw [Silenced,aborted,sheltered.cleaned]; rfl
    refine ⟨?_,greeted,fun silenced => .inl (flags.mp silenced),later,?_⟩
    · rw [same]
      exact .refl _
    · exact awake_kept (.inr ⟨sheltered.cleaned,by rw [same]⟩) (by rw [same]; exact id)
  · have off : BothOff j'.control := by
      rw [same]
      exact silenced_off j.control provider
    have keeps : Keeps j.control j'.control := by
      rw [same]
      exact silence_keeps j.control provider
    have ready : j'.control.ready = j.control.ready := by
      rw [same]
      exact (frame_silence j.control provider).ready
    exact ⟨keeps,greeted,fun _ => .inr off,later,awake_kept (.inr ⟨sheltered.cleaned,ready⟩) (by rw [keeps.current]; exact id)⟩

theorem abort_settles (j : Job) (provider : Provider) : Settles j (j.abort provider).1 :=
  sheltered_settles (abort_sheltered j provider).1

theorem clean_settles (j : Job) (provider : Provider) : Settles j (j.clean provider) := by
  have keeps : Keeps j.control (({j.control with ready := false} : Handler).silence provider).1 := by
    have unready : Keeps j.control {j.control with ready := false} := ⟨.refl _,⟨rfl,rfl⟩,id,rfl⟩
    exact unready.trans (silence_keeps {j.control with ready := false} provider)
  have off : BothOff (({j.control with ready := false} : Handler).silence provider).1 := silenced_off _ provider
  have settled : ∀ {j' : Job}, j'.control = (({j.control with ready := false} : Handler).silence provider).1 →
      j'.log = j.log → j'.cleaned = true → Settles j j' := by
    intro j' control log cleaned
    refine ⟨?_,by rw [greetings,log]; rfl,fun _ => .inr ?_,fun _ => .inr cleaned,fun _ uncleaned =>
      (by cases uncleaned.symm.trans cleaned)⟩
    · rw [control]
      exact keeps
    · rw [control]
      exact off
  unfold Job.clean
  split
  · exact .refl j
  · dsimp only
    split
    · rename_i same
      exact settled (congrArg Prod.fst same).symm rfl rfl
    · rename_i control same
      have ended := (congrArg Prod.fst same).symm
      split
      · exact settled ended rfl rfl
      · have before : Settles j {({j with cleaned := true} : Job).closeAdmission with control, cleanup := .gathering} :=
          settled ended rfl rfl
        exact before.trans (sheltered_settles (cancelStartup_sheltered _))

-- A step settles, or leaves a job that nothing has ended.
inductive Hushes (j j' : Job) : Prop where
  | settles : Settles j j' → Hushes j j'
  | runs : ¬ Silenced j → ¬ Silenced j' → (Awake j → Awake j') → Hushes j j'

theorem Hushes.after (before : Settles j middle) (hushes : Hushes middle j') : Hushes j j' := by
  cases hushes with
  | settles settles => exact .settles (before.trans settles)
  | runs running after awake => exact .runs (running ∘ before.later) after (awake ∘ before.awake)

theorem raises_hushes (j : Job) : Hushes j j.raises := .settles (settles_same rfl rfl rfl rfl)
theorem returns_hushes (j : Job) : Hushes j j.returns := .settles (settles_same rfl rfl rfl rfl)

theorem checked_hushes (admitted : Admitted setup j) {next : Job → Job}
    (goes : ¬ Silenced j → ¬ Silenced (next j) ∧ (Awake j → Awake (next j))) : Hushes j (j.checked setup next) := by
  unfold Job.checked
  split
  · exact raises_hushes j
  · rename_i valid
    split
    · exact returns_hushes j
    · rename_i running
      obtain ⟨unaborted,_⟩ := not_or.mp running
      have runs : ¬ Silenced j := by
        rintro (aborted | cleaned)
        · exact unaborted aborted
        · cases (validate_open valid admitted).symm.trans cleaned
      exact .runs runs (goes runs).1 (goes runs).2

theorem publishReady_hushes (admitted : Admitted setup j) (answers : Answers) :
    Hushes j (j.publishReady setup answers) := by
  apply checked_hushes admitted
  intro running
  split <;> exact ⟨running,id⟩

theorem subscribeAudio_hushes (admitted : Admitted setup j) (answers : Answers) :
    Hushes j (j.subscribeAudio setup answers) := by
  obtain ⟨middle,sheltered,raised | ⟨_,found⟩ | waits⟩ := subscribeAudio_cases setup j answers
  · rw [raised]
    exact (raises_hushes middle).after (sheltered_settles sheltered)
  · rw [found]
    exact (publishReady_hushes (sheltered_admitted sheltered admitted) answers).after (sheltered_settles sheltered)
  · rw [waits]
    exact .settles ((sheltered_settles sheltered).trans (settles_same rfl rfl rfl rfl))

theorem enable_ready (h : Handler) (now : Int) : (h.enable now).ready = true := by
  have enables := enable_cases h now
  generalize h.enable now = out at enables ⊢
  cases enables with
  | announces => exact (frame_start {h with ready := true} now).ready
  | waits | converses => rfl

theorem readyPublished_hushes (admitted : Admitted setup j) (answers : Answers) :
    Hushes j (j.readyPublished setup answers) := by
  have delivered : Settles j (j.mark .readyDelivered) :=
    ⟨.refl _,List.count_cons_of_ne (by simp),fun silenced => .inl silenced,id,id⟩
  have marked : Admitted setup (j.mark .readyDelivered) := mark_admitted admitted (by simp) (by simp)
  apply Hushes.after delivered
  apply checked_hushes marked
  intro running
  have ready := enable_ready (j.mark .readyDelivered).control answers.now
  unfold Job.greet
  dsimp only
  split
  · split
    · split <;> exact ⟨running,fun _ _ _ => ready⟩
    · exact ⟨running,fun _ _ _ => ready⟩
  · exact ⟨running,id⟩

theorem resume_hushes (admitted : Admitted setup j) (next : j.resume setup answers = some j') : Hushes j j' := by
  have admits : Hushes j (j.wait setup) := by
    have changed := sheltered_settles (sheltered_changed j false)
    unfold Job.wait
    dsimp only
    split
    · exact (raises_hushes _).after changed
    · exact .settles (changed.trans (settles_same rfl rfl rfl rfl))
    · have asked : ∀ post, Settles (j.setChanged false) ((j.setChanged false).mark (.posted post)) := fun _ =>
        ⟨.refl _,List.count_cons_of_ne (by simp),fun silenced => .inl silenced,id,id⟩
      exact .settles (changed.trans ((asked _).trans (settles_same rfl rfl rfl rfl)))
  unfold Job.resume at next
  split at next
  · split at next <;> cases next
    exact .settles (settles_same rfl rfl rfl rfl)
  · cases next
    exact admits
  · split at next <;> cases next
    exact admits
  · cases next
    unfold Job.authorized
    split
    · exact raises_hushes j
    · split
      · apply checked_hushes admitted
        intro running
        unfold Job.createSession
        split <;> exact ⟨running,id⟩
      · exact raises_hushes j
  · cases next
    unfold Job.sessionStarted
    split
    · exact raises_hushes j
    · have allowed : Sheltered j {j with admission := {j.admission with audioAuthorized := true}} :=
        sheltered_same rfl rfl rfl rfl rfl rfl rfl rfl rfl
      exact (subscribeAudio_hushes (sheltered_admitted allowed admitted) answers).after (sheltered_settles allowed)
  · split at next <;> cases next
    exact subscribeAudio_hushes admitted answers
  · cases next
    exact readyPublished_hushes admitted answers
  all_goals cases next

-- Before agent_ready is delivered no command starts an announcement.
theorem unready_keeps (unready : h.ready = false) (idle : h.announcementTask = none) (packet : Packet) (clock : Clock)
    (provider : Provider) : Keeps h (h.receive py packet clock provider).1 := by
  have shut : ∀ {m : Handler}, m.ready = false → ¬ (m.ready = true ∧ m.session.isSome = true) := fun off open_ => by
    cases off.symm.trans open_.1
  have lone : ∀ {m : Handler}, m.announcementTask = none → m.cancelAnnouncement = m := by
    intro m none
    unfold Handler.cancelAnnouncement
    rw [none]
  have receives := @receive_cases py h packet clock provider
  generalize h.receive py packet clock provider = result at receives ⊢
  have noted : ∀ command, Keeps h (h.note command) := fun command => ⟨⟨[_],rfl,by simp [isAudible]⟩,⟨rfl,rfl⟩,id,rfl⟩
  cases receives with
  | refused => exact .refl h
  | @human command =>
    have answered : Keeps (h.note command) (h.note command).answered ∧ (h.note command).answered.ready = false ∧
        (h.note command).answered.announcementTask = none := by
      unfold Handler.answered
      split
      · exact ⟨⟨.refl _,⟨rfl,rfl⟩,id,rfl⟩,unready,idle⟩
      · exact ⟨⟨⟨[.episode],rfl,by simp [isAudible]⟩,⟨rfl,rfl⟩,id,rfl⟩,unready,idle⟩
    obtain ⟨keeps,off,alone⟩ := answered
    have prepared : (h.note command).answered.prepareHandoff (remainingMs command.deadlineMs clock) clock =
        ((h.note command).answered,none) := by
      unfold Handler.prepareHandoff
      rw [if_neg fun open_ => shut off ⟨open_.1,open_.2.1⟩]
    unfold Handler.humanAnswered
    rw [prepared]
    dsimp only
    have silenced := silence_keeps (h.note command).answered provider
    unfold Handler.createStop
    rw [if_neg (fun open_ => by cases off.symm.trans open_.1),lone alone]
    split
    · rename_i same
      rw [congrArg Prod.fst same] at silenced
      exact (noted command).trans (keeps.trans silenced)
    · rename_i same
      rw [congrArg Prod.fst same] at silenced
      exact (noted command).trans (keeps.trans (silenced.trans ⟨⟨[.stopCreated],rfl,by simp [isAudible]⟩,⟨rfl,rfl⟩,id,rfl⟩))
  | @requested command =>
    unfold Handler.transferRequested
    split
    · have closed := shut (m := {(h.note command).call .episode with
        transferring := true, transferDeadlineMs := command.deadlineMs}) unready
      rw [start_closed closed]
      exact (noted command).trans ⟨⟨[.episode],rfl,by simp [isAudible]⟩,⟨rfl,rfl⟩,id,rfl⟩
    · exact noted command
  | @failed command =>
    unfold Handler.transferFailed
    split
    · dsimp only
      rw [lone (show ({h.note command with transferring := false} : Handler).announcementTask = none from idle),
        if_neg (shut (show ({h.note command with transferring := false} : Handler).ready = false from unready))]
      exact (noted command).trans ⟨.refl _,⟨rfl,rfl⟩,id,rfl⟩
    · exact noted command

theorem receive_awake (h : Handler) (packet : Packet) (clock : Clock) (provider : Provider)
    (running : (h.receive py packet clock provider).1.announcementTask.isSome = true) :
    h.announcementTask.isSome = true ∨ h.ready = true := by
  cases ready : h.ready with
  | true => exact .inr rfl
  | false =>
    cases current : h.announcementTask with
    | some i => exact .inl rfl
    | none =>
      rw [(unready_keeps ready current packet clock provider).current,current] at running
      cases running

theorem onData_hushes (awake : Awake j) (packet : Packet) (clock : Clock) (provider : Provider) :
    Hushes j (j.onData setup packet clock provider) := by
  have ready := @receive_ready setup.py j.control packet clock provider
  have wakes := @receive_awake setup.py j.control packet clock provider
  have keeps := fun unready idle => @unready_keeps j.control setup.py unready idle packet clock provider
  unfold Job.onData
  split
  · exact .settles (.refl j)
  · rename_i past
    have uncleaned : j.cleaned = false := by simpa using (not_or.mp past).2
    have received : ∀ {control}, (control.announcementTask.isSome = true →
        j.control.announcementTask.isSome = true ∨ j.control.ready = true) → control.ready = j.control.ready →
        Hushes j {j with control} := by
      refine fun wakes same => .runs past past fun awake uncleaned running => same.trans ?_
      rcases wakes running with before | on
      · exact awake uncleaned before
      · exact on
    split
    · rename_i same
      rw [same] at wakes ready
      exact received wakes ready
    · rename_i control accepted same
      rw [same] at wakes ready keeps
      split
      · rename_i stops
        have unready := ready.symm.trans stops.2
        have idle : j.control.announcementTask = none := by
          by_contra running
          cases unready.symm.trans (awake uncleaned (Option.isSome_iff_ne_none.mpr running))
        have moved : Settles j {j with control} :=
          ⟨keeps unready idle,rfl,fun silenced => .inl silenced,id,
            awake_kept (.inr ⟨rfl,ready⟩) (by rw [(keeps unready idle).current]; exact id)⟩
        exact .settles (moved.trans (abort_settles _ provider))
      · exact received wakes ready

theorem finish_settles (next : j.finish provider = some j') : Settles j j' := by
  unfold Job.finish at next
  split at next
  · cases next
  · dsimp only at next
    cases next
    have aborted : Settles j (if j.startup = .raised then (j.abort provider).1 else j) := by
      split
      · exact abort_settles j provider
      · exact .refl j
    generalize (if j.startup = .raised then (j.abort provider).1 else j) = middle at aborted ⊢
    have entered := aborted.trans (@settles_same _ ({middle with entered := true}) rfl rfl rfl rfl)
    split
    · exact entered.trans (clean_settles _ provider)
    · exact entered

-- A step of a task of the control: without a pending announcement it is not heard.
structure Directs (h h' : Handler) : Prop where
  ready : h'.ready = h.ready
  current : h'.announcementTask.isSome = true → h.announcementTask.isSome = true
  pending : Pending h' → Pending h
  calls : ¬ Pending h → Without isAudible h h'
  off : ¬ Pending h → BothOff h → BothOff h'

theorem Directs.trans (first : Directs h middle) (second : Directs middle h') : Directs h h' :=
  ⟨second.ready.trans first.ready,first.current ∘ second.current,first.pending ∘ second.pending,
    fun quiet => (first.calls quiet).trans (second.calls (quiet ∘ first.pending)),
    fun quiet off => second.off (quiet ∘ first.pending) (first.off quiet off)⟩

theorem keeps_directs (keeps : Keeps h h') (ready : h'.ready = h.ready) : Directs h h' :=
  ⟨ready,by rw [keeps.current]; exact id,keeps.pending.mp,fun _ => keeps.calls,fun _ => keeps.off⟩

theorem pending_tasks {h h' : Handler} (statement : h'.transferStatement = h.transferStatement)
    (tasks : ∀ j, waitsToSpeak (h'.tasks j) → waitsToSpeak (h.tasks j)) : Pending h' → Pending h := by
  rintro ⟨text,j,waits⟩
  exact ⟨statement ▸ text,j,tasks j waits⟩

theorem cancel_directs (h : Handler) : Directs h h.cancelAnnouncement := by
  have calls := hushed_cancel h
  rw [cancel_exact] at calls ⊢
  refine ⟨rfl,(fun none => by cases none),pending_tasks rfl fun j => ?_,fun _ => calls,fun _ off => off⟩
  dsimp only
  split
  · rintro ⟨live,waits⟩
    rw [(cancelled_task _).1,(cancelled_task _).2.1] at waits
    rw [(cancelled_task _).2.2.2] at live
    · cases live
    · rcases waits with created | ⟨interrupting,_⟩
      · rw [created]
        simp
      · rw [interrupting]
        simp
  · exact id

theorem done_silent {t : AnnounceTask} (done : t.pc = .done) : ¬ waitsToSpeak t := by
  rintro ⟨_,created | ⟨interrupting,_⟩⟩
  · cases done.symm.trans created
  · cases done.symm.trans interrupting

theorem finish_directs (h : Handler) (i : Nat) (spoken : Bool) (provider : Provider) :
    Directs h (h.finishAnnounce i spoken provider) := by
  have calls := hushed_finish h i spoken provider
  have ends : ∀ (m : Handler) (t : AnnounceTask), t.pc = .done → m.tasks = h.tasks → ∀ j,
      waitsToSpeak ((m.setTask i t).tasks j) → waitsToSpeak (h.tasks j) := by
    intro m t done same j waits
    unfold Handler.setTask at waits
    dsimp only at waits
    split at waits
    · exact absurd waits (done_silent done)
    · rw [← same]
      exact waits
  rcases finish_exact h i spoken provider with ⟨_,error,_,exact⟩ | ⟨_,exact⟩ | ⟨_,exact⟩
  · rw [exact] at calls ⊢
    exact ⟨rfl,id,pending_tasks rfl (ends h _ rfl rfl),fun _ => calls,fun _ off => off⟩
  · rw [exact] at calls ⊢
    exact ⟨rfl,id,pending_tasks rfl (ends h _ rfl rfl),fun _ => calls,fun _ off => off⟩
  · rw [exact] at calls ⊢
    refine ⟨rfl,(fun none => by cases none),pending_tasks rfl (ends h _ rfl rfl),fun _ => calls,fun _ off s present => ?_⟩
    obtain ⟨before,known,rfl⟩ := Option.map_eq_some_iff.mp present
    exact ⟨(off before known).1,rfl⟩

theorem announce_directs (next : h.announce i now provider = some h') : Directs h h' := by
  have still : ∀ (t : AnnounceTask), (waitsToSpeak t → waitsToSpeak (h.tasks i)) → ∀ j,
      waitsToSpeak ((h.setTask i t).tasks j) → waitsToSpeak (h.tasks j) := by
    intro t waits j later
    unfold Handler.setTask at later
    dsimp only at later
    split at later
    · rename_i same
      rw [same]
      exact waits later
    · exact later
  have speaks : (h.tasks i).pc = .interrupting → (h.tasks i).cancelled = false → (h.tasks i).timer ≠ .expired →
      h.transferStatement ≠ "" → Pending h := fun interrupting live timely statement =>
    ⟨statement,i,live,.inr ⟨interrupting,timely⟩⟩
  cases announce_cases next with
  | dropped => exact ⟨rfl,id,pending_tasks rfl (still _ fun waits => absurd waits (done_silent rfl)),fun _ => .refl h,fun _ => id⟩
  | late | silent | played => exact finish_directs h i _ provider
  | refused created live =>
    have entered : Directs h {(h.setTask i {h.tasks i with timer := .entered}).call .interrupt with
        announcementTimeout := some i} :=
      ⟨rfl,id,pending_tasks rfl (still _ fun _ => ⟨live,.inl created⟩),fun _ => ⟨[_],rfl,by simp [isAudible]⟩,fun _ => id⟩
    exact entered.trans (finish_directs _ i false provider)
  | begun created live =>
    exact ⟨rfl,id,pending_tasks rfl (still _ fun _ => ⟨live,.inl created⟩),fun _ => ⟨[_],rfl,by simp [isAudible]⟩,fun _ => id⟩
  | unsaid interrupting live timely statement =>
    have said := speaks interrupting live timely statement
    have frame := frame_announce next
    exact ⟨frame.ready,(announce_input next).2.1,fun _ => said,fun quiet => absurd said quiet,fun quiet => absurd said quiet⟩
  | said interrupting live timely statement =>
    have said := speaks interrupting live timely statement
    exact ⟨rfl,id,fun _ => said,fun quiet => absurd said quiet,fun quiet => absurd said quiet⟩

theorem expire_directs (next : h.expire i = some h') : Directs h h' := by
  have calls := hushed_expire next
  unfold Handler.expire at next
  dsimp only at next
  split at next
  · cases next
    refine ⟨rfl,id,pending_tasks rfl fun j waits => ?_,fun _ => calls,fun _ => id⟩
    unfold Handler.setTask at waits
    dsimp only at waits
    split at waits
    · rename_i same
      obtain ⟨live,created | ⟨_,timely⟩⟩ := waits
      · exact same ▸ ⟨live,.inl created⟩
      · exact absurd rfl timely
    · exact waits
  · cases next

theorem stop_directs (next : h.stop wake provider = some h') : Directs h h' := by
  have calls := hushed_stop next
  have later : ∀ {out : Handler}, Directs h out → ∀ {last : Handler}, Without isAudible h last → last.tasks = out.tasks →
      last.transferStatement = out.transferStatement → last.announcementTask = out.announcementTask →
      last.ready = out.ready → last.session = out.session → Directs h last := by
    intro out directs last calls tasks statement current ready session
    refine ⟨ready.trans directs.ready,by rw [current]; exact directs.current,?_,fun _ => calls,fun quiet off => ?_⟩
    · unfold Pending
      rw [tasks,statement]
      exact directs.pending
    · unfold BothOff
      rw [session]
      exact directs.off quiet off
  cases stop_cases next with
  | dropped | waits | disconnects | ends => exact ⟨rfl,id,id,fun _ => calls,fun _ => id⟩
  | @leaves _ escaping =>
    have silenced := (cancel_directs h).trans (keeps_directs (silence_keeps h.cancelAnnouncement provider)
      (frame_silence h.cancelAnnouncement provider).ready)
    rcases leave_cases h escaping provider with ⟨_,_,same⟩ | ⟨_,_,same⟩
    · rw [same] at calls ⊢
      exact later silenced calls rfl rfl rfl rfl rfl
    · rw [same] at calls ⊢
      exact later silenced calls rfl rfl rfl rfl rfl

theorem cancelStop_directs {h h' : Handler} (next : h.cancelStop = some h') : Directs h h' := by
  obtain ⟨_,_,_,rfl⟩ := cancelStop_cases next
  exact ⟨rfl,id,id,fun _ => .refl _,fun _ => id⟩

def Directed (j j' : Job) : Prop := Directs j.control j'.control ∧ j'.aborted = j.aborted ∧ j'.cleaned = j.cleaned ∧
  j'.log = j.log

theorem controls_directed {j j' : Job} {control : Option Handler} (next : j.controls control = some j')
    (directs : ∀ h, control = some h → Directs j.control h) : Directed j j' := by
  obtain ⟨h,moved,rfl⟩ := Option.map_eq_some_iff.mp next
  exact ⟨directs h moved,rfl,rfl,rfl⟩

theorem onRoom_settles (event : RoomEvent) (sdk : Sdk) (next : j.onRoom setup sdk event = some j') : Settles j j' := by
  obtain ⟨room,sheltered⟩ := onRoom_sheltered event sdk next
  have moved : Settles j {j with room} := settles_same rfl rfl rfl rfl
  exact moved.trans (sheltered_settles sheltered)

theorem step_hushes (admitted : Admitted setup j) (awake : Awake j) (next : step setup j event = some j') :
    Hushes j j' ∨ Directed j j' := by
  have cancelled := sheltered_settles (cancelStartup_sheltered j)
  cases event with
  | room event sdk => exact .inl (.settles (onRoom_settles event sdk next))
  | packet packet clock provider =>
    cases next
    exact .inl (onData_hushes awake packet clock provider)
  | resume answers => exact .inl (resume_hushes admitted next)
  | throw =>
    cases throw_raises next
    exact .inl (raises_hushes j)
  | deadline | cancelEntry =>
    cases next
    exact .inl (.settles cancelled)
  | finish provider => exact .inl (.settles (finish_settles next))
  | jobShutdown provider =>
    cases next
    exact .inl (.settles (clean_settles j provider))
  | clean =>
    change j.cleanNext = some j' at next
    unfold Job.cleanNext at next
    split at next
    · split at next <;> cases next
      exact .inl (.settles (settles_same rfl rfl rfl rfl))
    · cases next
      exact .inr ⟨cancel_directs j.control,rfl,rfl,rfl⟩
    · cases next
      exact .inl (.settles (settles_same rfl rfl rfl rfl))
    all_goals cases next
  | sessionClose provider | publisherFailed provider =>
    rw [step,Job.reported] at next
    split at next
    · cases next
      exact .inl (.settles (abort_settles j provider))
    · cases next
  | announce i now provider => exact .inr (controls_directed next fun _ => announce_directs)
  | expire i => exact .inr (controls_directed next fun _ => expire_directs)
  | stop wake provider => exact .inr (controls_directed next fun _ => stop_directs)
  | cancelStop => exact .inr (controls_directed next fun _ => cancelStop_directs)

theorem step_awake (admitted : Admitted setup j) (awake : Awake j) (next : step setup j event = some j') : Awake j' := by
  rcases step_hushes admitted awake next with (settles | ⟨_,_,wakes⟩) | ⟨directs,_,cleaned,_⟩
  · exact settles.awake awake
  · exact wakes awake
  · exact awake_kept (.inr ⟨cleaned,directs.ready⟩) directs.current awake

-- Silence that nothing can break any more.
structure Final (j : Job) : Prop where
  silenced : Silenced j
  off : BothOff j.control
  quiet : ¬ Pending j.control

def Unheard (j j' : Job) : Prop := Without isAudible j.control j'.control ∧ greetings j' = greetings j

theorem step_final (admitted : Admitted setup j) (awake : Awake j) (final : Final j) (next : step setup j event = some j') :
    Final j' ∧ Unheard j j' := by
  rcases step_hushes admitted awake next with (settles | ⟨running,_⟩) | ⟨directs,aborted,cleaned,log⟩
  · exact ⟨⟨settles.later final.silenced,settles.control.off final.off,fun pending => final.quiet (settles.control.pending.mp pending)⟩,
      settles.control.calls,settles.greetings⟩
  · exact absurd final.silenced running
  · have same : Silenced j' := by
      rw [Silenced,aborted,cleaned]
      exact final.silenced
    exact ⟨⟨same,directs.off final.quiet final.off,final.quiet ∘ directs.pending⟩,directs.calls final.quiet,by rw [greetings,log]; rfl⟩

-- What holds all along a run of a job.
structure Sound (setup : Setup) (j : Job) : Prop where
  admitted : Admitted setup j
  bound : Bound setup j
  awake : Awake j

theorem initial_sound : Sound setup (.initial setup room) :=
  ⟨initial_admitted.1,initial_admitted.2,fun _ none => by cases none⟩

theorem step_sound (sound : Sound setup j) (next : step setup j event = some j') : Sound setup j' := by
  obtain ⟨admitted,bound⟩ := step_admitted sound.admitted sound.bound next
  exact ⟨admitted,bound,step_awake sound.admitted sound.awake next⟩

theorem runs_final (sound : Sound setup j) (final : Final j) (path : Runs (step setup) Anything j later j') :
    Final j' ∧ Unheard j j' := by
  have preserved : ∀ s e s', Sound setup s ∧ Final s → Anything s e → step setup s e = some s' → Sound setup s' ∧ Final s' :=
    fun _ _ _ held _ next => ⟨step_sound held.1 next,(step_final held.1.admitted held.1.awake held.2 next).1⟩
  refine ⟨(path.invariant preserved ⟨sound,final⟩).2,?_⟩
  apply path.related ⟨sound,final⟩ preserved
  · exact fun _ => ⟨.refl _,rfl⟩
  · exact fun _ _ _ first second => ⟨first.1.trans second.1,second.2.trans first.2⟩
  · exact fun _ _ _ held _ next => (step_final held.1.admitted held.1.awake held.2 next).2

theorem spoken_heard {h h' : Handler} (calls : h'.calls = .sayTransfer text :: extra ++ h.calls) : ¬ Without isAudible h h' := by
  rintro ⟨other,whole,plain⟩
  have same := List.append_cancel_right (whole.symm.trans calls)
  have audible := plain (.sayTransfer text) (by rw [same]; simp)
  cases audible

def uttered (h : Handler) (i : Nat) : Handler :=
  ((h.setOutput true).call (.sayTransfer h.transferStatement)).setTask i {h.tasks i with pc := .playing}

theorem announce_utters {h : Handler} (statement : h.transferStatement ≠ "") (pc : (h.tasks i).pc = .interrupting)
    (live : (h.tasks i).cancelled = false) (timely : (h.tasks i).timer ≠ .expired) (now : Int) :
    h.announce i now calm = some (uttered h i) := by
  have fresh : ¬ ((h.tasks i).cancelled = true ∨ (h.tasks i).timer = .expired) := by
    simp [live,timely]
  unfold Handler.announce
  simp only [pc]
  rw [if_neg fresh]
  show (if h.transferStatement = "" then _ else _) = _
  rw [if_neg statement]
  rfl

-- A pending announcement can still be heard: nothing but its own steps is needed.
theorem pending_speaks (pending : Pending j.control) :
    ∃ later j', Runs (step setup) Anything j later j' ∧ ¬ Without isAudible j.control j'.control := by
  obtain ⟨statement,i,live,created | ⟨interrupting,timely⟩⟩ := pending
  · let now := j.control.transferDeadlineMs - 1
    let begun : Handler := {(j.control.setTask i {j.control.tasks i with timer := .entered, pc := .interrupting}).call .interrupt
      with announcementTimeout := some i}
    have begins : j.control.announce i now calm = some begun := by
      have timely : ¬ j.control.transferDeadlineMs - now ≤ 0 := by
        show ¬ j.control.transferDeadlineMs - (j.control.transferDeadlineMs - 1) ≤ 0
        omega
      have twice := setTask_twice j.control i {j.control.tasks i with timer := .entered}
        {j.control.tasks i with timer := .entered, pc := .interrupting}
      unfold Handler.announce
      dsimp only
      split
      case h_1 done => cases created.symm.trans done
      case h_3 later => cases created.symm.trans later
      case h_4 later => cases created.symm.trans later
      rw [if_neg (by simp [live]),if_neg timely]
      show some ({((j.control.setTask i {j.control.tasks i with timer := .entered}).setTask i
        {j.control.tasks i with timer := .entered, pc := .interrupting}).call .interrupt with announcementTimeout := some i}) = _
      rw [twice]
    have task : begun.tasks i = {j.control.tasks i with timer := .entered, pc := .interrupting} := if_pos rfl
    have speaks := announce_utters (h := begun) (i := i) statement (by rw [task]) (by rw [task]; exact live)
      (by rw [task]; simp) now
    have first : step setup j (.announce i now calm) = some {j with control := begun} := congrArg j.controls begins
    have second : step setup {j with control := begun} (.announce i now calm) = some {j with control := uttered begun i} :=
      congrArg (Job.controls _) speaks
    exact ⟨_,_,.cons trivial first (.single trivial second),@spoken_heard ([.setOutput true,.interrupt]) _ _ _ rfl⟩
  · have speaks := announce_utters statement interrupting live timely 0
    have only : step setup j (.announce i 0 calm) = some {j with control := uttered j.control i} := congrArg j.controls speaks
    exact ⟨_,_,.single trivial only,@spoken_heard ([.setOutput true]) _ _ _ rfl⟩

-- The silence of abort() and cleanup() is final exactly when no announcement is
-- pending at their call: neither of them cancels it.
theorem silence_final (path : Runs (step setup) Anything (.initial setup room) earlier before) (running : ¬ Silenced before)
    (next : step setup before event = some j) (silenced : Silenced j) :
    (∀ later j', Runs (step setup) Anything j later j' →
      Without isAudible j.control j'.control ∧ greetings j' = greetings j ∧ BothOff j'.control) ↔
    ¬ Pending before.control := by
  have sound : Sound setup before := path.invariant (fun _ _ _ held _ next => step_sound held next) initial_sound
  have settles : Settles before j := by
    rcases step_hushes sound.admitted sound.awake next with (settles | ⟨_,after,_⟩) | ⟨_,aborted,cleaned,_⟩
    · exact settles
    · exact absurd silenced after
    · rw [Silenced,aborted,cleaned] at silenced
      exact absurd silenced running
  have off : BothOff j.control := (settles.silenced silenced).resolve_left running
  constructor
  · intro holds pending
    obtain ⟨later,j',heard,spoken⟩ := @pending_speaks setup _ (settles.control.pending.mpr pending)
    exact spoken (holds later j' heard).1
  · intro quiet later j' rest
    obtain ⟨final,calls,greeted⟩ := runs_final (step_sound sound next)
      ⟨silenced,off,fun pending => quiet (settles.control.pending.mp pending)⟩ rest
    exact ⟨calls,greeted,final.off⟩

theorem clean_ends (j : Job) (provider : Provider) : (j.clean provider).cleaned = true := by
  unfold Job.clean
  split
  · assumption
  · dsimp only
    split
    · rfl
    · split
      · rfl
      · exact (cancelStartup_sheltered _).cleaned

theorem conversing_quiet (conversing : Conversing setup call j) : ¬ Silenced j ∧ ¬ Pending j.control := by
  obtain ⟨⟨unaborted,uncleaned,_⟩,calls,control⟩ := conversing
  refine ⟨?_,?_⟩
  · rintro (aborted | cleaned)
    · cases unaborted.symm.trans aborted
    · cases uncleaned.symm.trans cleaned
  · rintro ⟨_,i,waits⟩
    rw [control] at waits
    exact done_silent rfl waits

theorem sample_silence : ∃ before j, step sampleSetup before (.jobShutdown calm) = some j ∧
    ∀ later j', Runs (step sampleSetup) Anything j later j' →
      Without isAudible j.control j'.control ∧ greetings j' = greetings j ∧ BothOff j'.control := by
  obtain ⟨before,path,conversing⟩ := welcome_opens sample_granted
  obtain ⟨running,quiet⟩ := conversing_quiet conversing
  have next : step sampleSetup before (.jobShutdown calm) = some (before.clean calm) := rfl
  exact ⟨before,before.clean calm,next,(silence_final path running next (.inr (clean_ends before calm))).mpr quiet⟩

-- A transfer is requested, its announcement awaits the interruption of the session, and
-- the job is shut down: the announcement enables the output before it is cancelled.
def outlived (packet : Packet) : List Event :=
  [.packet packet sampleClock calm,.announce 0 1000 calm,.jobShutdown calm,.announce 0 1000 calm,.clean,.clean]

theorem transfer_outlives {j : Job} (conversing : Conversing setup call j) (statement : call.transferStatement ≠ "")
    (parsed : ControlCommand.parse setup.py packet setup.dispatch.callId = .ok ⟨commandId,.transferRequested,11000⟩) :
    ∃ j', Runs (step setup) Anything j (outlived packet) j' ∧ j'.cleanup = .finished ∧
      j'.control.session = some ⟨false,true⟩ := by
  obtain ⟨⟨unaborted,uncleaned,returned,idle⟩,calls,control⟩ := conversing
  obtain ⟨room,admission,h,profile,aborted,cleaned,startup,cancelling,cleanup,entered,log⟩ := j
  dsimp only at unaborted uncleaned returned idle control
  subst unaborted uncleaned returned idle
  subst control
  generalize start : ({Handler.initial setup.dispatch.callId (some ⟨true,true⟩) call.failedTransferStatement
    call.transferStatement true with calls} : Handler) = h
  generalize requests : ((h.note ⟨commandId,.transferRequested,11000⟩).transferRequested 11000 sampleClock).1 = requested
  have first : step setup ⟨room,admission,h,profile,false,false,.returned,cancelling,.idle,entered,log⟩
      (.packet packet sampleClock calm) =
        some ⟨room,admission,requested,profile,false,false,.returned,cancelling,.idle,entered,log⟩ := by
    have received : h.receive setup.py packet sampleClock calm = (requested,.returned true) := by
      have heard : ControlCommand.parse setup.py packet h.callId = .ok ⟨commandId,.transferRequested,11000⟩ := by
        subst start
        exact parsed
      subst requests start
      exact receive_requested heard (List.not_mem_nil) rfl rfl
    show some (Job.onData setup _ packet sampleClock calm) = _
    unfold Job.onData
    rw [if_neg (by simp),received]
    subst requests start
    rfl
  generalize begins : {(requested.setTask 0 ⟨.interrupting,false,.entered,none⟩).call .interrupt with
    announcementTimeout := some 0} = begun
  have second : step setup ⟨room,admission,requested,profile,false,false,.returned,cancelling,.idle,entered,log⟩
      (.announce 0 1000 calm) = some ⟨room,admission,begun,profile,false,false,.returned,cancelling,.idle,entered,log⟩ := by
    subst begins
    have twice := setTask_twice requested 0 ⟨.created,false,.entered,none⟩ ⟨.interrupting,false,.entered,none⟩
    rw [← twice]
    subst requests start
    rfl
  generalize ends : (Job.clean ⟨room,admission,begun,profile,false,false,.returned,cancelling,.idle,entered,log⟩ calm) = silent
  have fourth : step setup silent (.announce 0 1000 calm) = some {silent with control := uttered silent.control 0} := by
    have utters : silent.control.announce 0 1000 calm = some (uttered silent.control 0) := by
      subst ends begins requests start
      exact announce_utters statement rfl rfl (fun expired => by cases expired) 1000
    exact congrArg silent.controls utters
  generalize speaks : {silent with control := uttered silent.control 0} = speaking at fourth
  have fifth : step setup speaking .clean =
      some {speaking with control := speaking.control.close, cleanup := .leaving} := by
    subst speaks ends begins requests start
    rfl
  have sixth : step setup {speaking with control := speaking.control.close, cleanup := .leaving} .clean =
      some {speaking with control := speaking.control.close, cleanup := .finished} := rfl
  refine ⟨{speaking with control := speaking.control.close, cleanup := .finished},?_,rfl,?_⟩
  · exact .cons trivial first (.cons trivial second (.cons trivial (congrArg some ends) (.cons trivial fourth
      (.cons trivial fifth (.single trivial sixth)))))
  · subst speaks ends begins requests start
    rfl

theorem sample_outlived : ∃ j, Runs (step sampleSetup) Anything (.initial sampleSetup (lobby sampleSetup sampleLeg))
    (welcome sampleLeg sampleAttempt ++ outlived (samplePacket "bridge:1" .transferRequested)) j ∧
    j.cleanup = .finished ∧ j.control.session = some ⟨false,true⟩ := by
  obtain ⟨middle,path,conversing⟩ := welcome_opens sample_granted
  have parsed := parse_exact.mpr (samplePacket_wellFormed (.inl rfl) .transferRequested)
  obtain ⟨j,rest,finished,session⟩ := transfer_outlives conversing (by decide) parsed
  exact ⟨j,path.append rest,finished,session⟩

end AidaAgent.Worker
