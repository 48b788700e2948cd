import AidaAgent.WorkerSteps
import AidaAgent.Library.Transitions

namespace AidaAgent.Worker
open JsonText Config Bootstrap Control Transitions

def InputOff (h : Handler) : Prop := ∀ s, h.session = some s → s.input = false

-- The job is bound to a leg and has a profile.
def Profiled (j : Job) : Prop := ∃ leg call, j.admission.leg = some leg ∧ j.profile = some call

def Startup.opened : Startup → Bool
  | .starting | .subscribing | .publishing => true
  | _ => false

def Startup.unsent : Startup → Bool
  | .publishing | .returned | .raised => false
  | _ => true

structure Admitted (setup : Setup) (j : Job) : Prop where
  muted : Muted j.control
  closed : j.admission.closed = j.cleaned
  unready : j.startup.done = false → j.control.ready = false
  off : j.aborted = true ∨ j.cleaned = true → InputOff j.control
  profiled : j.startup.opened = true ∨ j.control.ready = true → Profiled j
  subscribed : j.startup = .publishing ∨ j.control.ready = true → Subscribed j
  delivered : j.control.ready = true → .readyDelivered ∈ j.log
  sent : j.log.count .readySent ≤ 1 ∧ (j.startup.unsent = true → j.log.count .readySent = 0)
  greeted : j.log.count .greeting ≤ 1 ∧ (j.startup.done = false → j.log.count .greeting = 0)

theorem marks_count (plain : ∀ m ∈ extra, marksTrack m = true) (other : marksTrack mark = false) (log : List Mark) :
    (extra ++ log).count mark = log.count mark := by
  have absent : extra.count mark = 0 := List.count_eq_zero.mpr fun member => by
    rw [plain mark member] at other
    cases other
  rw [List.count_append,absent,Nat.zero_add]

theorem subscribed_later (subscribed : Subscribed j) (leg : j'.admission.leg = j.admission.leg)
    (log : ∃ extra, j'.log = extra ++ j.log) : Subscribed j' := by
  obtain ⟨bound,publication,known,member⟩ := subscribed
  obtain ⟨extra,whole⟩ := log
  exact ⟨bound,publication,leg.trans known,by rw [whole]; exact List.mem_append_right _ member⟩

theorem profiled_same (profiled : Profiled j) (leg : j'.admission.leg = j.admission.leg)
    (profile : j'.profile = j.profile) : Profiled j' := by
  obtain ⟨bound,call,known,held⟩ := profiled
  exact ⟨bound,call,leg.trans known,profile.trans held⟩

theorem sheltered_admitted (sheltered : Sheltered j j') (admitted : Admitted setup j) : Admitted setup j' := by
  have silent : j'.control = j.control ∨ ∃ provider, j'.control = (j.control.silence provider).1 := by
    rcases sheltered.control with ⟨same,_⟩ | ⟨_,_,_,silenced⟩
    · exact .inl same
    · exact .inr silenced
  have ready : j'.control.ready = j.control.ready := by
    rcases silent with same | ⟨provider,same⟩
    · rw [same]
    · rw [same]
      exact (frame_silence j.control provider).ready
  obtain ⟨extra,whole,marks⟩ := sheltered.log
  have later : ∃ extra, j'.log = extra ++ j.log := ⟨extra,whole⟩
  refine ⟨?_,?_,?_,?_,?_,?_,?_,?_,?_⟩
  · rcases silent with same | ⟨provider,same⟩
    · rw [same]
      exact admitted.muted
    · rw [same]
      exact muted_silence admitted.muted provider
  · rw [sheltered.closed,sheltered.cleaned]
    exact admitted.closed
  · rw [sheltered.startup,ready]
    exact admitted.unready
  · rcases sheltered.control with ⟨same,aborted⟩ | ⟨_,_,_,provider,same⟩
    · rw [same,aborted,sheltered.cleaned]
      exact admitted.off
    · rw [same]
      exact fun _ s present => (silenced_off j.control provider s present).1
  · rw [sheltered.startup,ready]
    exact fun opened => profiled_same (admitted.profiled opened) sheltered.leg sheltered.profile
  · rw [sheltered.startup,ready]
    exact fun opened => subscribed_later (admitted.subscribed opened) sheltered.leg later
  · rw [ready,whole]
    exact fun now => List.mem_append_right _ (admitted.delivered now)
  · rw [whole,marks_count marks rfl,sheltered.startup]
    exact admitted.sent
  · rw [whole,marks_count marks rfl,sheltered.startup]
    exact admitted.greeted

-- The startup ends.
theorem done_admitted (admitted : Admitted setup j) (past : startup.done = true) :
    Admitted setup {j with startup := startup} := by
  have unopened : startup.opened = false ∧ startup ≠ .publishing ∧ startup.unsent = false := by
    cases startup <;> simp [Startup.done,Startup.opened,Startup.unsent] at past ⊢
  refine ⟨admitted.muted,admitted.closed,?_,admitted.off,?_,?_,admitted.delivered,⟨admitted.sent.1,?_⟩,
    ⟨admitted.greeted.1,?_⟩⟩
  · rw [past]
    exact fun none => by cases none
  · rintro (opened | ready)
    · rw [unopened.1] at opened
      cases opened
    · exact admitted.profiled (.inr ready)
  · rintro (publishing | ready)
    · exact absurd publishing unopened.2.1
    · exact admitted.subscribed (.inr ready)
  · rw [unopened.2.2]
    exact fun none => by cases none
  · rw [past]
    exact fun none => by cases none

theorem returns_admitted (admitted : Admitted setup j) : Admitted setup j.returns := done_admitted admitted rfl
theorem raises_admitted (admitted : Admitted setup j) : Admitted setup j.raises := done_admitted admitted rfl

-- The startup goes on to a phase before the session, or stays in one after it.
theorem phase_admitted (admitted : Admitted setup j) (pending : j.startup.unsent = true)
    (next : startup.unsent = true) (opened : startup.opened = true → Profiled j) :
    Admitted setup {j with startup := startup} := by
  have waiting : j.startup.done = false := by
    cases phase : j.startup <;> rw [phase] at pending <;> simp [Startup.unsent,Startup.done] at pending ⊢
  have unready := admitted.unready waiting
  refine ⟨admitted.muted,admitted.closed,fun _ => unready,admitted.off,?_,?_,admitted.delivered,
    ⟨admitted.sent.1,fun _ => admitted.sent.2 pending⟩,⟨admitted.greeted.1,fun _ => admitted.greeted.2 waiting⟩⟩
  · rintro (now | ready)
    · exact opened now
    · rw [unready] at ready
      cases ready
  · rintro (publishing | ready)
    · rw [show startup = .publishing from publishing] at next
      cases next
    · rw [unready] at ready
      cases ready

theorem mark_admitted (admitted : Admitted setup j) (sent : mark ≠ .readySent) (greeted : mark ≠ .greeting) :
    Admitted setup (j.mark mark) := by
  have count : ∀ {other : Mark}, mark ≠ other → (j.mark mark).log.count other = j.log.count other :=
    fun differs => List.count_cons_of_ne (by simpa using differs)
  refine ⟨admitted.muted,admitted.closed,admitted.unready,admitted.off,fun opened =>
    profiled_same (admitted.profiled opened) rfl rfl,fun opened =>
    subscribed_later (admitted.subscribed opened) rfl ⟨[_],rfl⟩,fun ready =>
    List.mem_cons_of_mem _ (admitted.delivered ready),?_,?_⟩
  · rw [count sent]
    exact admitted.sent
  · rw [count greeted]
    exact admitted.greeted

theorem admit_admitted (admitted : Admitted setup j) (pending : j.startup = .connecting ∨ j.startup = .waitingLeg)
    (bound : Bound setup j) : Admitted setup (j.wait setup) ∧ Bound setup (j.wait setup) := by
  have changed := sheltered_changed j false
  have before := sheltered_admitted changed admitted
  have unsent : (j.setChanged false).startup.unsent = true := by
    rcases pending with phase | phase <;> rw [changed.startup,phase] <;> rfl
  have held := sheltered_bound changed bound
  unfold Job.wait
  dsimp only
  split
  · exact ⟨raises_admitted before,held⟩
  · exact ⟨phase_admitted before unsent rfl (fun none => by cases none),held⟩
  · rename_i leg found
    let post := bootstrapPost setup.baseUrl setup.dispatch setup.roomName leg
    have asked : Admitted setup ((j.setChanged false).mark (.posted post)) := mark_admitted before (by simp) (by simp)
    have unready : (j.setChanged false).control.ready = false := before.unready (by
      rcases pending with phase | phase <;> rw [changed.startup,phase] <;> rfl)
    have legged : Admitted setup {(j.setChanged false).mark (.posted post) with
        admission := {(j.setChanged false).admission with leg := some leg}} := by
      refine ⟨asked.muted,asked.closed,asked.unready,asked.off,?_,?_,asked.delivered,asked.sent,asked.greeted⟩
      · rintro (opened | ready)
        · rcases pending with phase | phase
          all_goals
            rw [show ((j.setChanged false).mark (.posted post)).startup = _ from changed.startup.trans phase] at opened
            cases opened
        · cases unready.symm.trans ready
      · rintro (publishing | ready)
        · rcases pending with phase | phase
          all_goals
            rw [show ((j.setChanged false).mark (.posted post)).startup = _ from changed.startup.trans phase] at publishing
            cases publishing
        · cases unready.symm.trans ready
    refine ⟨phase_admitted legged unsent rfl (fun none => by cases none),fun _ _ other known => ?_⟩
    cases Option.some.inj known
    exact admitLeg_exact found

theorem validate_open (valid : Job.validate setup j = .ok u) (admitted : Admitted setup j) : j.cleaned = false :=
  admitted.closed.symm.trans (validate_exact.mp valid).1

-- The checks between two awaits.
theorem checked_admitted (admitted : Admitted setup j) (bound : Bound setup j) {next : Job → Job}
    (goes : j.aborted = false → j.cleaned = false → j.control.stopping = false →
      Admitted setup (next j) ∧ Bound setup (next j)) :
    Admitted setup (j.checked setup next) ∧ Bound setup (j.checked setup next) := by
  unfold Job.checked
  split
  · exact ⟨raises_admitted admitted,bound⟩
  · rename_i valid
    split
    · exact ⟨returns_admitted admitted,bound⟩
    · rename_i running
      obtain ⟨unaborted,free⟩ := not_or.mp running
      exact goes (by simpa using unaborted) (validate_open valid admitted) (by simpa using free)

theorem attached_muted (muted : Muted h) (transferStatement failedStatement : String) :
    Muted ((({h with session := some ⟨true,true⟩, transferStatement, failedStatement} : Handler).setInput false).setOutput
      false) := by
  refine ⟨⟨⟨?_,muted.tidy.obsolete,muted.tidy.unborn,muted.tidy.timeout,muted.tidy.left⟩,muted.transferring,?_⟩,?_⟩
  · intro i current
    obtain ⟨fresh,born,_,ended⟩ := muted.tidy.current i current
    exact ⟨fresh,born,rfl,ended⟩
  · intro s present open_
    cases Option.some.inj present
    cases open_
  · rintro ⟨found,member,human⟩
    exact muted.answered ⟨found,by simpa [Handler.setInput,Handler.setOutput] using member,human⟩

theorem createSession_admitted (admitted : Admitted setup j) (pending : j.startup = .authorizing)
    (leg : j.admission.leg = some bound) (call : CallConfiguration) (answers : Answers) :
    Admitted setup (j.createSession call answers) := by
  have unready := admitted.unready (by rw [pending]; rfl)
  unfold Job.createSession
  split
  · refine ⟨attached_muted admitted.muted _ _,admitted.closed,fun _ => unready,fun _ s present => ?_,fun _ =>
      ⟨bound,call,leg,rfl⟩,?_,?_,⟨admitted.sent.1,fun _ => admitted.sent.2 (by rw [pending]; rfl)⟩,
      ⟨admitted.greeted.1,fun _ => admitted.greeted.2 (by rw [pending]; rfl)⟩⟩
    · cases Option.some.inj present
      rfl
    · rintro (publishing | ready)
      · cases publishing
      · cases unready.symm.trans ready
    · intro ready
      cases unready.symm.trans ready
  · exact raises_admitted admitted

theorem authorized_admitted (admitted : Admitted setup j) (bound : Bound setup j) (pending : j.startup = .authorizing)
    (answers : Answers) : Admitted setup (j.authorized setup answers) ∧ Bound setup (j.authorized setup answers) := by
  unfold Job.authorized
  split
  · exact ⟨raises_admitted admitted,bound⟩
  · rename_i leg known
    split
    · rename_i call _
      apply checked_admitted admitted bound
      intro _ _ _
      refine ⟨createSession_admitted admitted pending known call answers,?_⟩
      unfold Job.createSession
      split <;> exact bound
    · exact ⟨raises_admitted admitted,bound⟩

theorem publishReady_admitted (admitted : Admitted setup j) (bound : Bound setup j) (pending : j.startup.unsent = true)
    (profiled : Profiled j) (subscribed : Subscribed j) (answers : Answers) :
    Admitted setup (j.publishReady setup answers) ∧ Bound setup (j.publishReady setup answers) := by
  have waiting : j.startup.done = false := by
    cases phase : j.startup <;> rw [phase] at pending <;> simp [Startup.unsent,Startup.done] at pending ⊢
  apply checked_admitted admitted bound
  intro _ _ _
  split
  · refine ⟨⟨admitted.muted,admitted.closed,fun _ => admitted.unready waiting,admitted.off,fun _ =>
      profiled_same profiled rfl rfl,fun _ => subscribed_later subscribed rfl ⟨[_],rfl⟩,?_,⟨?_,(fun none => by cases none)⟩,
      ⟨?_,fun _ => ?_⟩⟩,bound⟩
    · exact fun ready => List.mem_cons_of_mem _ (admitted.delivered ready)
    · have none := admitted.sent.2 pending
      simp [Job.mark,none]
    · exact (List.count_cons_of_ne (by simp)).trans_le admitted.greeted.1
    · exact (List.count_cons_of_ne (by simp)).trans (admitted.greeted.2 waiting)
  · exact ⟨raises_admitted admitted,bound⟩

theorem subscribeAudio_admitted (admitted : Admitted setup j) (bound : Bound setup j)
    (pending : j.startup = .starting ∨ j.startup = .subscribing) (answers : Answers) :
    Admitted setup (j.subscribeAudio setup answers) ∧ Bound setup (j.subscribeAudio setup answers) := by
  have opened : j.startup.opened = true ∧ j.startup.unsent = true := by
    rcases pending with phase | phase <;> rw [phase] <;> exact ⟨rfl,rfl⟩
  obtain ⟨middle,sheltered,ends⟩ := subscribeAudio_cases setup j answers
  have after := sheltered_admitted sheltered admitted
  have held := sheltered_bound sheltered bound
  have known := profiled_same (admitted.profiled (.inl opened.1)) sheltered.leg sheltered.profile
  have unsent : middle.startup.unsent = true := by
    rw [sheltered.startup]
    exact opened.2
  rcases ends with raised | ⟨subscribed,found⟩ | waits
  · rw [raised]
    exact ⟨raises_admitted after,held⟩
  · rw [found]
    exact publishReady_admitted after held unsent known subscribed answers
  · rw [waits]
    exact ⟨phase_admitted after unsent rfl fun _ => profiled_same known rfl rfl,held⟩

theorem sessionStarted_admitted (admitted : Admitted setup j) (bound : Bound setup j) (pending : j.startup = .starting)
    (answers : Answers) :
    Admitted setup (j.sessionStarted setup answers) ∧ Bound setup (j.sessionStarted setup answers) := by
  unfold Job.sessionStarted
  split
  · exact ⟨raises_admitted admitted,bound⟩
  · have allowed : Sheltered j {j with admission := {j.admission with audioAuthorized := true}} :=
      sheltered_same rfl rfl rfl rfl rfl rfl rfl rfl rfl
    exact subscribeAudio_admitted (sheltered_admitted allowed admitted) (sheltered_bound allowed bound) (.inl pending) answers

-- The first greeting comes with the end of the startup.
theorem greeting_admitted (admitted : Admitted setup j) (past : j.startup.done = true)
    (first : j.log.count .greeting = 0) : Admitted setup (j.mark .greeting) := by
  refine ⟨admitted.muted,admitted.closed,admitted.unready,admitted.off,fun opened =>
    profiled_same (admitted.profiled opened) rfl rfl,fun opened =>
    subscribed_later (admitted.subscribed opened) rfl ⟨[_],rfl⟩,fun ready =>
    List.mem_cons_of_mem _ (admitted.delivered ready),?_,?_,fun pending => ?_⟩
  · rw [show (j.mark .greeting).log.count .readySent = j.log.count .readySent from List.count_cons_of_ne (by simp)]
    exact admitted.sent
  · simp [Job.mark,first]
  · cases past.symm.trans pending

-- Normal turns are enabled together with the end of the startup.
theorem enabled_admitted (admitted : Admitted setup j) (pending : j.startup = .publishing)
    (delivered : .readyDelivered ∈ j.log) (running : j.aborted = false) (uncleaned : j.cleaned = false) (now : Int)
    (past : startup.done = true) : Admitted setup {j with control := j.control.enable now, startup := startup} := by
  have profiled := admitted.profiled (.inl (by rw [pending]; rfl))
  have sent : startup.unsent = false := by
    cases startup <;> simp [Startup.done,Startup.unsent] at past ⊢
  refine ⟨enable_muted admitted.muted now,admitted.closed,fun open_ => ?_,?_,fun _ => profiled_same profiled rfl rfl,
    fun _ => subscribed_later (admitted.subscribed (.inl pending)) rfl ⟨[],rfl⟩,fun _ => delivered,
    ⟨admitted.sent.1,fun open_ => ?_⟩,admitted.greeted.1,fun open_ => ?_⟩
  · cases past.symm.trans open_
  · rintro (aborted | cleaned)
    · cases running.symm.trans aborted
    · cases uncleaned.symm.trans cleaned
  · cases sent.symm.trans open_
  · cases past.symm.trans open_

theorem readyPublished_admitted (admitted : Admitted setup j) (bound : Bound setup j) (pending : j.startup = .publishing)
    (answers : Answers) :
    Admitted setup (j.readyPublished setup answers) ∧ Bound setup (j.readyPublished setup answers) := by
  have first := admitted.greeted.2 (by rw [pending]; rfl)
  have marked : Admitted setup (j.mark .readyDelivered) := mark_admitted admitted (by simp) (by simp)
  have none : (j.mark .readyDelivered).log.count .greeting = 0 := (List.count_cons_of_ne (by simp)).trans first
  apply checked_admitted marked bound
  intro running uncleaned _
  dsimp only
  split
  · have enabled : ∀ startup : Startup, startup.done = true → Admitted setup {j.mark .readyDelivered with
        control := (j.mark .readyDelivered).control.enable answers.now, startup} := fun _ past =>
      enabled_admitted marked pending (List.mem_cons_self ..) running uncleaned answers.now past
    split
    · unfold Job.greet
      dsimp only
      split
      · exact ⟨greeting_admitted (enabled .returned rfl) rfl none,bound⟩
      · exact ⟨greeting_admitted (enabled .raised rfl) rfl none,bound⟩
    · exact ⟨enabled .returned rfl,bound⟩
  · exact ⟨raises_admitted marked,bound⟩

theorem resume_admitted (admitted : Admitted setup j) (bound : Bound setup j)
    (next : j.resume setup answers = some j') : Admitted setup j' ∧ Bound setup j' := by
  unfold Job.resume at next
  split at next
  · rename_i pending
    split at next
    · cases next
    · cases next
      exact ⟨phase_admitted admitted (by rw [pending]; rfl) rfl fun none => (by cases none),bound⟩
  · rename_i pending
    cases next
    exact admit_admitted admitted (.inl pending) bound
  · rename_i pending
    split at next
    · cases next
      exact admit_admitted admitted (.inr pending) bound
    · cases next
  · rename_i pending
    cases next
    exact authorized_admitted admitted bound pending answers
  · rename_i pending
    cases next
    exact sessionStarted_admitted admitted bound pending answers
  · rename_i pending
    split at next
    · cases next
      exact subscribeAudio_admitted admitted bound (.inr pending) answers
    · cases next
  · rename_i pending
    cases next
    exact readyPublished_admitted admitted bound pending answers
  · cases next
  · cases next

theorem throw_raises {j : Job} (next : j.throw = some j') : j' = j.raises := by
  unfold Job.throw at next
  split at next
  iterate 3
    · split at next <;> cases next
      rfl
  all_goals cases next
  all_goals rfl

-- A step of the control alone, which the worker sees only in its session.
theorem controlled_admitted {control : Handler} (admitted : Admitted setup j) (muted : Muted control)
    (ready : control.ready = j.control.ready) (off : j.aborted = true ∨ j.cleaned = true → InputOff control) :
    Admitted setup {j with control} := by
  refine ⟨muted,admitted.closed,fun pending => ready.trans (admitted.unready pending),off,?_,?_,?_,admitted.sent,
    admitted.greeted⟩
  · rintro (opened | now)
    · exact profiled_same (admitted.profiled (.inl opened)) rfl rfl
    · exact profiled_same (admitted.profiled (.inr (ready.symm.trans now))) rfl rfl
  · rintro (publishing | now)
    · exact subscribed_later (admitted.subscribed (.inl publishing)) rfl ⟨[],rfl⟩
    · exact subscribed_later (admitted.subscribed (.inr (ready.symm.trans now))) rfl ⟨[],rfl⟩
  · exact fun now => admitted.delivered (ready.symm.trans now)

theorem shut_muted (muted : Muted h) (provider : Provider) : Muted (({h with ready := false} : Handler).silence provider).1 := by
  have tidy : Tidy {h with ready := false} := tidy_same muted.tidy rfl rfl rfl rfl rfl
  have frame := frame_silence {h with ready := false} provider
  have transferring : (({h with ready := false} : Handler).silence provider).1.announcementTask = h.announcementTask ∧
      (({h with ready := false} : Handler).silence provider).1.transferring = h.transferring := by
    obtain ⟨_,_,exact⟩ := silence_exact {h with ready := false} provider
    rw [exact]
    exact ⟨rfl,rfl⟩
  refine ⟨⟨tidy_silence tidy provider,?_,fun s present open_ => ?_⟩,fun answered => ?_⟩
  · rw [transferring.1,transferring.2]
    exact muted.transferring
  · rw [(silenced_off _ provider s present).1] at open_
    cases open_
  · have before := answered_frame (h := {h with ready := false}) frame answered
    exact frame.stopping.trans (muted.answered before)

theorem clean_admitted (admitted : Admitted setup j) (bound : Bound setup j) (provider : Provider) :
    Admitted setup (j.clean provider) ∧ Bound setup (j.clean provider) := by
  have shut := shut_muted admitted.muted provider
  have silent := silenced_off {j.control with ready := false} provider
  have unready : (({j.control with ready := false} : Handler).silence provider).1.ready = false :=
    (frame_silence {j.control with ready := false} provider).ready
  unfold Job.clean
  split
  · exact ⟨admitted,bound⟩
  · have ends : ∀ {cleanup control}, control = (({j.control with ready := false} : Handler).silence provider).1 →
        Admitted setup {({j with cleaned := true} : Job).closeAdmission with control, cleanup} := by
      intro cleanup control silenced
      subst silenced
      refine ⟨shut,rfl,fun _ => unready,fun _ s present => (silent s present).1,?_,?_,fun ready => ?_,admitted.sent,
        admitted.greeted⟩
      · rintro (opened | ready)
        · exact profiled_same (admitted.profiled (.inl opened)) rfl rfl
        · cases unready.symm.trans ready
      · rintro (publishing | ready)
        · exact subscribed_later (admitted.subscribed (.inl publishing)) rfl ⟨[],rfl⟩
        · cases unready.symm.trans ready
      · cases unready.symm.trans ready
    dsimp only
    split
    · rename_i same
      exact ⟨ends (congrArg Prod.fst same).symm,ended_bound (.inr rfl)⟩
    · rename_i control same
      have silenced := (congrArg Prod.fst same).symm
      split
      · exact ⟨ends silenced,ended_bound (.inr rfl)⟩
      · have waits := cancelStartup_sheltered
          {({j with cleaned := true} : Job).closeAdmission with control, cleanup := .gathering}
        exact ⟨sheltered_admitted waits (ends silenced),ended_bound (.inr waits.cleaned)⟩

theorem cancelled_off {h : Handler} (off : InputOff h) : InputOff h.cancelAnnouncement := by
  rw [cancel_exact]
  exact off

theorem cleanNext_admitted {j j' : Job} (admitted : Admitted setup j) (bound : Bound setup j) (next : j.cleanNext = some j') :
    Admitted setup j' ∧ Bound setup j' := by
  have moved : ∀ (before : Job) (cleanup : Cleanup), Sheltered before {before with cleanup} := fun _ _ =>
    sheltered_same rfl rfl rfl rfl rfl rfl rfl rfl rfl
  unfold Job.cleanNext at next
  split at next
  · split at next <;> cases next
    exact ⟨sheltered_admitted (moved j .closing) admitted,bound⟩
  · cases next
    have closed := @controlled_admitted _ _ j.control.close admitted (muted_cancel admitted.muted)
      (cancel_ready j.control).1 fun ended => cancelled_off (admitted.off ended)
    exact ⟨sheltered_admitted (moved {j with control := j.control.close} .leaving) closed,bound⟩
  · cases next
    exact ⟨sheltered_admitted (moved j .finished) admitted,bound⟩
  all_goals cases next

theorem abort_admitted (admitted : Admitted setup j) (provider : Provider) :
    Admitted setup (j.abort provider).1 ∧ Bound setup (j.abort provider).1 :=
  ⟨sheltered_admitted (abort_sheltered j provider).1 admitted,abort_bound j provider⟩

theorem finish_admitted (admitted : Admitted setup j) (bound : Bound setup j) (next : j.finish provider = some j') :
    Admitted setup j' ∧ Bound setup j' := by
  unfold Job.finish at next
  split at next
  · cases next
  · dsimp only at next
    cases next
    have aborted : Admitted setup (if j.startup = .raised then (j.abort provider).1 else j) ∧
        Bound setup (if j.startup = .raised then (j.abort provider).1 else j) := by
      split
      · exact abort_admitted admitted provider
      · exact ⟨admitted,bound⟩
    generalize (if j.startup = .raised then (j.abort provider).1 else j) = middle at aborted ⊢
    obtain ⟨admitted',bound'⟩ := aborted
    have unmoved : Sheltered middle {middle with entered := true} := sheltered_same rfl rfl rfl rfl rfl rfl rfl rfl rfl
    have entered : Admitted setup {middle with entered := true} ∧ Bound setup {middle with entered := true} :=
      ⟨sheltered_admitted unmoved admitted',bound'⟩
    split
    · exact clean_admitted entered.1 entered.2 provider
    · exact entered

theorem onData_admitted (admitted : Admitted setup j) (bound : Bound setup j) (packet : Packet) (clock : Clock)
    (provider : Provider) :
    Admitted setup (j.onData setup packet clock provider) ∧ Bound setup (j.onData setup packet clock provider) := by
  have muted := @receive_muted _ setup.py admitted.muted packet clock provider
  have ready := @receive_ready setup.py j.control packet clock provider
  unfold Job.onData
  split
  · exact ⟨admitted,bound⟩
  · rename_i running
    have received : Admitted setup {j with control := (j.control.receive setup.py packet clock provider).1} :=
      controlled_admitted admitted muted ready fun ended => absurd ended running
    split
    · rename_i same
      rw [same] at received
      exact ⟨received,bound⟩
    · rename_i same
      rw [same] at received
      split
      · exact abort_admitted received provider
      · exact ⟨received,bound⟩

-- Nothing of an admission is read from the room but by the bound leg.
theorem room_admitted (admitted : Admitted setup j) (room : Room) : Admitted setup {j with room} :=
  ⟨admitted.muted,admitted.closed,admitted.unready,admitted.off,admitted.profiled,admitted.subscribed,
    admitted.delivered,admitted.sent,admitted.greeted⟩

theorem closed_bound {j : Job} (admitted : Admitted setup j) (closed : j.admission.closed = true) : Bound setup j :=
  ended_bound (.inr (admitted.closed.symm.trans closed))

-- A handler that rechecks the room restores what its change has put at risk.
theorem handled_bound (admitted : Admitted setup j) (room : Room) (handler : Job → Job)
    (handles : Bound setup (handler {j with room})) :
    Bound setup (if j.admission.closed = true then {j with room} else handler {j with room}) := by
  split
  · rename_i closed
    exact closed_bound (room_admitted admitted room) closed
  · exact handles

theorem tracks_bound {j : Job} (bound : Bound setup j) (known : j.room.get identity = some p) (who : q.identity = p.identity)
    (same : q.sid = p.sid ∧ q.kind = p.kind ∧ q.attributes = p.attributes) : Bound setup {j with room := j.room.put q} :=
  fun unaborted uncleaned leg legged => holds_tracks known who same (bound unaborted uncleaned leg legged)

theorem publication_known {room : Room} (known : Room.publication room identity sid = some (p,publication)) :
    room.get identity = some p := by
  unfold Room.publication at known
  cases found : room.get identity with
  | none =>
    rw [found] at known
    cases known
  | some q =>
    rw [found] at known
    simp only [Option.bind_eq_bind,Option.bind_some,Option.bind_eq_some_iff] at known
    obtain ⟨_,_,same⟩ := known
    cases same
    rfl

theorem onRoom_bound (admitted : Admitted setup j) (bound : Bound setup j) (event : RoomEvent) (sdk : Sdk)
    (next : j.onRoom setup sdk event = some j') : Bound setup j' := by
  have untouched : ∀ {p : Participant} {identity sid publication}, j.room.publication identity sid = some (p,publication) →
      ∀ track, Bound setup {j with room := j.room.put (p.setTrack sid track)} := fun known track =>
    tracks_bound bound (publication_known known) rfl ⟨rfl,rfl,rfl⟩
  cases event with
  | participantConnected p =>
    cases next
    exact handled_bound admitted _ (fun j => (j.recheck setup sdk.provider).1) (recheck_sheltered _ _).2
  | participantDisconnected identity =>
    obtain ⟨p,_,same⟩ := Option.bind_eq_some_iff.mp next
    cases same
    exact handled_bound admitted _ (fun j => (j.participantDisconnected setup p sdk.provider).1)
      (participantDisconnected_sheltered _ p _).2
  | participantAttributesChanged identity attributes =>
    obtain ⟨p,_,same⟩ := Option.bind_eq_some_iff.mp next
    cases same
    exact handled_bound admitted _ (fun j => (j.recheck setup sdk.provider).1) (recheck_sheltered _ _).2
  | trackPublished identity publication =>
    obtain ⟨p,known,same⟩ := Option.bind_eq_some_iff.mp next
    cases same
    have kept : (p.putPublication publication).identity = p.identity ∧ (p.putPublication publication).sid = p.sid ∧
        (p.putPublication publication).kind = p.kind ∧ (p.putPublication publication).attributes = p.attributes := by
      unfold Participant.putPublication
      split <;> exact ⟨rfl,rfl,rfl,rfl⟩
    have published := @trackPublished_sheltered setup
      {j with room := j.room.put (p.putPublication publication)} publication (p.putPublication publication) sdk
    exact handled_bound admitted _ (fun j => (j.trackPublished setup publication (p.putPublication publication) sdk).1)
      (sheltered_bound published (tracks_bound bound known kept.1 kept.2))
  | trackSubscribed identity sid =>
    obtain ⟨⟨p,publication⟩,known,same⟩ := Option.bind_eq_some_iff.mp next
    cases same
    have put := untouched known true
    dsimp only
    split
    · exact sheltered_bound (sheltered_changed {j with room := j.room.put (p.setTrack sid true)} true) put
    · exact put
  | trackSubscriptionFailed identity sid =>
    obtain ⟨_,_,same⟩ := Option.bind_eq_some_iff.mp next
    cases same
    split
    · exact abort_bound j _
    · exact bound
  | trackUnsubscribed identity sid =>
    obtain ⟨⟨p,publication⟩,known,same⟩ := Option.bind_eq_some_iff.mp next
    cases same
    have put := untouched known false
    dsimp only
    split
    · exact abort_bound _ _
    · exact put
  | trackUnpublished identity sid =>
    obtain ⟨p,known,same⟩ := Option.bind_eq_some_iff.mp next
    cases same
    exact tracks_bound bound known rfl ⟨rfl,rfl,rfl⟩
  | disconnected =>
    cases next
    split
    · exact bound
    · exact abort_bound j _

theorem onRoom_admitted (admitted : Admitted setup j) (bound : Bound setup j) (event : RoomEvent) (sdk : Sdk)
    (next : j.onRoom setup sdk event = some j') : Admitted setup j' ∧ Bound setup j' := by
  obtain ⟨room,sheltered⟩ := onRoom_sheltered event sdk next
  exact ⟨sheltered_admitted sheltered (room_admitted admitted room),onRoom_bound admitted bound event sdk next⟩

-- The tasks of the control neither open the input nor change the readiness.
def Unopened (h h' : Handler) : Prop := h'.ready = h.ready ∧ (InputOff h → InputOff h')

theorem unopened_announce (next : h.announce i now provider = some h') : Unopened h h' := by
  refine ⟨(frame_announce next).ready,fun off s present => ?_⟩
  obtain ⟨before,known,same⟩ := (announce_input next).2.2 s present
  exact same.trans (off before known)

theorem unopened_expire (next : h.expire i = some h') : Unopened h h' := by
  unfold Handler.expire at next
  dsimp only at next
  split at next
  · cases next
    exact ⟨rfl,id⟩
  · cases next

theorem unopened_stop (next : h.stop wake provider = some h') : Unopened h h' := by
  cases stop_cases next with
  | dropped | waits | disconnects | ends => exact ⟨rfl,id⟩
  | @leaves _ escaping =>
    have silent : InputOff (h.cancelAnnouncement.silence provider).1 := fun s present => (silenced_off _ provider s present).1
    have ready := (frame_silence h.cancelAnnouncement provider).ready.trans (cancel_ready h).1
    rcases leave_cases h escaping provider with ⟨_,_,same⟩ | ⟨_,_,same⟩
    · rw [same]
      exact ⟨ready,fun _ => silent⟩
    · rw [same]
      exact ⟨ready,fun _ => silent⟩

theorem unopened_cancelStop {h h' : Handler} (next : h.cancelStop = some h') : Unopened h h' := by
  obtain ⟨_,_,_,rfl⟩ := cancelStop_cases next
  exact ⟨rfl,id⟩

theorem controls_admitted {j j' : Job} (admitted : Admitted setup j) (bound : Bound setup j) {control : Option Handler}
    (next : j.controls control = some j') (muted : ∀ h, control = some h → Muted h)
    (unopened : ∀ h, control = some h → Unopened j.control h) : Admitted setup j' ∧ Bound setup j' := by
  obtain ⟨h,moved,rfl⟩ := Option.map_eq_some_iff.mp next
  obtain ⟨ready,off⟩ := unopened h moved
  exact ⟨controlled_admitted admitted (muted h moved) ready fun ended => off (admitted.off ended),bound⟩

theorem step_admitted (admitted : Admitted setup j) (bound : Bound setup j) (next : step setup j event = some j') :
    Admitted setup j' ∧ Bound setup j' := by
  have muted := admitted.muted
  have cancelled := cancelStartup_sheltered j
  cases event with
  | room event sdk => exact onRoom_admitted admitted bound event sdk next
  | packet packet clock provider =>
    cases next
    exact onData_admitted admitted bound packet clock provider
  | resume answers => exact resume_admitted admitted bound next
  | throw =>
    cases throw_raises next
    exact ⟨raises_admitted admitted,bound⟩
  | deadline | cancelEntry =>
    cases next
    exact ⟨sheltered_admitted cancelled admitted,sheltered_bound cancelled bound⟩
  | finish provider => exact finish_admitted admitted bound next
  | jobShutdown provider =>
    cases next
    exact clean_admitted admitted bound provider
  | clean => exact cleanNext_admitted admitted bound next
  | sessionClose provider | publisherFailed provider =>
    rw [step,Job.reported] at next
    split at next
    · cases next
      exact abort_admitted admitted provider
    · cases next
  | announce i now provider =>
    exact controls_admitted admitted bound next (fun _ => announce_muted muted) fun _ => unopened_announce
  | expire i => exact controls_admitted admitted bound next (fun _ => expire_muted muted) fun _ => unopened_expire
  | stop wake provider => exact controls_admitted admitted bound next (fun _ => stop_muted muted) fun _ => unopened_stop
  | cancelStop => exact controls_admitted admitted bound next (fun _ => cancelStop_muted muted) fun _ => unopened_cancelStop

theorem initial_muted : Muted (Handler.initial callId none failed transfer ready) :=
  ⟨⟨initial_tidy,(fun none => by cases none),fun _ none => by cases none⟩,fun ⟨_,member,_⟩ => by cases member⟩

theorem initial_admitted : Admitted setup (.initial setup room) ∧ Bound setup (.initial setup room) := by
  refine ⟨⟨initial_muted,rfl,fun _ => rfl,fun _ _ none => (by cases none),?_,?_,(fun none => by cases none),
    ⟨Nat.zero_le 1,fun _ => rfl⟩,⟨Nat.zero_le 1,fun _ => rfl⟩⟩,fun _ _ _ none => (by cases none)⟩
  · rintro (opened | ready)
    · cases opened
    · cases ready
  · rintro (publishing | ready)
    · cases publishing
    · cases ready

end AidaAgent.Worker
