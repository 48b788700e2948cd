import AidaAgent.WorkerEndings
import AidaAgent.WorkerWelcome

namespace AidaAgent.Worker
open JsonText Config Bootstrap Control Transitions

variable {setup : Setup} {j j' : Job}

-- What a step leaves of a job that is being cleaned up, but for those of cleanup() itself.
structure Rests (j j' : Job) : Prop where
  cleaned : j'.cleaned = true
  cleanup : j'.cleanup = j.cleanup
  profile : j'.profile = j.profile
  done : j.startup.done = true → j'.startup = j.startup
  cancelling : j.cancelling = true → j'.cancelling = true

theorem Rests.same (cleaned : j.cleaned = true) (same : j' = j) : Rests j j' := by
  rw [same]
  exact ⟨cleaned,rfl,rfl,fun _ => rfl,id⟩

-- The admission is closed, so that no check passes any more.
theorem closed_invalid (closed : j.admission.closed = true) : ∃ e, Job.validate setup j = .error e := by
  cases valid : Job.validate setup j with
  | error e => exact ⟨e,rfl⟩
  | ok u =>
    have open_ := (validate_exact.mp valid).1
    cases closed.symm.trans open_

theorem closed_checked (closed : j.admission.closed = true) (next : Job → Job) : j.checked setup next = j.raises := by
  obtain ⟨e,invalid⟩ := @closed_invalid setup j closed
  rw [Job.checked,invalid]

theorem raises_rests (cleaned : j.cleaned = true) (running : j.startup.done = false) : Rests j j.raises :=
  ⟨cleaned,rfl,rfl,fun done => (by cases running.symm.trans done),id⟩

theorem wait_rests (cleaned : j.cleaned = true) (running : j.startup.done = false) : Rests j (j.wait setup) := by
  have undone : ∀ startup, j.startup.done = true → startup = j.startup := fun _ done => by cases running.symm.trans done
  unfold Job.wait
  dsimp only
  split
  · exact ⟨cleaned,rfl,rfl,undone _,id⟩
  · exact ⟨cleaned,rfl,rfl,undone _,id⟩
  · exact ⟨cleaned,rfl,rfl,undone _,id⟩

theorem resume_rests (cleaned : j.cleaned = true) (closed : j.admission.closed = true)
    (next : j.resume setup answers = some j') : Rests j j' := by
  unfold Job.resume at next
  split at next
  · rename_i pending
    split at next
    · cases next
    · cases next
      exact ⟨cleaned,rfl,rfl,fun done => (by rw [pending] at done; cases done),id⟩
  · rename_i pending
    cases next
    exact wait_rests cleaned (by rw [pending]; rfl)
  · rename_i pending
    split at next
    · cases next
      exact wait_rests cleaned (by rw [pending]; rfl)
    · cases next
  · rename_i pending
    have running : j.startup.done = false := by rw [pending]; rfl
    have raised : j.authorized setup answers = j.raises := by
      unfold Job.authorized
      split
      · rfl
      · split
        · exact closed_checked closed _
        · rfl
    cases next
    rw [raised]
    exact raises_rests cleaned running
  · rename_i pending
    have running : j.startup.done = false := by rw [pending]; rfl
    obtain ⟨e,invalid⟩ := @closed_invalid setup j closed
    cases next
    rw [Job.sessionStarted,invalid]
    exact raises_rests cleaned running
  · rename_i pending
    have running : j.startup.done = false := by rw [pending]; rfl
    split at next
    · cases next
      rw [Job.subscribeAudio,if_pos closed]
      exact raises_rests cleaned running
    · cases next
  · rename_i pending
    have running : j.startup.done = false := by rw [pending]; rfl
    cases next
    rw [Job.readyPublished,@closed_checked setup (j.mark .readyDelivered) closed]
    exact ⟨cleaned,rfl,rfl,fun done => (by cases running.symm.trans done),id⟩
  · cases next
  · cases next

-- The handlers of the admission do nothing once it is closed.
theorem onRoom_rests (cleaned : j.cleaned = true) (closed : j.admission.closed = true) (event : RoomEvent) (sdk : Sdk)
    (next : j.onRoom setup sdk event = some j') : Rests j j' := by
  have moved : ∀ room, Rests j {j with room} := fun _ => ⟨cleaned,rfl,rfl,fun _ => rfl,id⟩
  cases event with
  | participantConnected p =>
    simp only [Job.onRoom,closed,if_true,Option.some.injEq] at next
    rw [← next]
    exact moved _
  | participantDisconnected identity | participantAttributesChanged identity attributes | trackPublished identity publication =>
    obtain ⟨p,_,same⟩ := Option.bind_eq_some_iff.mp next
    simp only [closed,if_true,Option.pure_def,Option.some.injEq] at same
    rw [← same]
    exact moved _
  | trackSubscribed identity sid | trackUnsubscribed identity sid =>
    obtain ⟨⟨p,publication⟩,_,same⟩ := Option.bind_eq_some_iff.mp next
    simp only [closed,Bool.true_eq_false,false_and,if_false,Option.pure_def,Option.some.injEq] at same
    rw [← same]
    exact moved _
  | trackSubscriptionFailed identity sid =>
    obtain ⟨⟨p,publication⟩,_,same⟩ := Option.bind_eq_some_iff.mp next
    simp only [closed,Bool.true_eq_false,false_and,if_false,Option.pure_def,Option.some.injEq] at same
    exact .same cleaned same.symm
  | trackUnpublished identity sid =>
    obtain ⟨p,_,same⟩ := Option.bind_eq_some_iff.mp next
    cases same
    exact moved _
  | disconnected =>
    simp only [Job.onRoom,closed,if_true,Option.some.injEq] at next
    exact .same cleaned next.symm

theorem abort_again (cleaned : j.cleaned = true) (provider : Provider) : (j.abort provider).1 = j := by
  rw [Job.abort,if_pos (.inr cleaned)]

theorem clean_again (cleaned : j.cleaned = true) (provider : Provider) : j.clean provider = j := by
  rw [Job.clean,if_pos cleaned]

theorem cancelStartup_rests (cleaned : j.cleaned = true) : Rests j j.cancelStartup := by
  unfold Job.cancelStartup
  split
  · exact .same cleaned rfl
  · exact ⟨cleaned,rfl,rfl,fun _ => rfl,fun _ => rfl⟩

theorem finish_rests (cleaned : j.cleaned = true) (next : j.finish provider = some j') : Rests j j' := by
  unfold Job.finish at next
  split at next
  · cases next
  · have same : (if j.startup = .raised then (j.abort provider).1 else j) = j := by
      rw [abort_again cleaned,ite_self]
    have again : ({j with entered := true} : Job).clean provider = {j with entered := true} := @clean_again {j with entered := true} cleaned provider
    dsimp only at next
    rw [same,again,ite_self] at next
    cases next
    exact ⟨cleaned,rfl,rfl,fun _ => rfl,id⟩

theorem step_rests (cleaned : j.cleaned = true) (closed : j.admission.closed = true) (other : event ≠ .clean)
    (next : step setup j event = some j') : Rests j j' := by
  cases event with
  | room event sdk => exact onRoom_rests cleaned closed event sdk next
  | packet packet clock provider =>
    have same : j.onData setup packet clock provider = j := by
      rw [Job.onData,if_pos (.inr cleaned)]
    cases next
    exact .same cleaned same
  | resume answers => exact resume_rests cleaned closed next
  | throw =>
    have running : j.startup.done = false := by
      cases pending : j.startup with
      | returned | raised =>
        rw [step,Job.throw,pending] at next
        cases next
      | created | connecting | waitingLeg | authorizing | starting | subscribing | publishing => rfl
    rw [throw_raises next]
    exact raises_rests cleaned running
  | deadline | cancelEntry =>
    cases next
    exact cancelStartup_rests cleaned
  | finish provider => exact finish_rests cleaned next
  | jobShutdown provider =>
    cases next
    exact .same cleaned (clean_again cleaned provider)
  | clean => exact absurd rfl other
  | sessionClose provider | publisherFailed provider =>
    rw [step,Job.reported] at next
    split at next
    · cases next
      exact .same cleaned (abort_again cleaned provider)
    · cases next
  | announce | expire | stop | cancelStop =>
    obtain ⟨_,_,rfl⟩ := Option.map_eq_some_iff.mp next
    exact ⟨cleaned,rfl,rfl,fun _ => rfl,id⟩

-- Only clean() sets the flag.
theorem wait_cleaned (j : Job) : (j.wait setup).cleaned = j.cleaned := by
  unfold Job.wait
  dsimp only
  split
  · rfl
  · rfl
  · rfl

theorem checked_cleaned {next : Job → Job} (goes : (next j).cleaned = j.cleaned) : (j.checked setup next).cleaned = j.cleaned := by
  unfold Job.checked
  split
  · rfl
  · split
    · rfl
    · exact goes

theorem authorized_cleaned (j : Job) (answers : Answers) : (j.authorized setup answers).cleaned = j.cleaned := by
  unfold Job.authorized
  split
  · rfl
  · split
    · apply checked_cleaned
      unfold Job.createSession
      split
      · rfl
      · rfl
    · rfl

theorem subscribeAudio_cleaned (j : Job) (answers : Answers) : (j.subscribeAudio setup answers).cleaned = j.cleaned := by
  obtain ⟨middle,sheltered,raised | ⟨_,found⟩ | waits⟩ := subscribeAudio_cases setup j answers
  · rw [raised]
    exact sheltered.cleaned
  · rw [found,← sheltered.cleaned]
    apply checked_cleaned
    dsimp only
    split
    · rfl
    · rfl
  · rw [waits]
    exact sheltered.cleaned

theorem readyPublished_cleaned (j : Job) (answers : Answers) : (j.readyPublished setup answers).cleaned = j.cleaned := by
  have delivered : (j.mark .readyDelivered).cleaned = j.cleaned := rfl
  rw [← delivered]
  apply checked_cleaned
  dsimp only
  split
  · split
    · unfold Job.greet
      dsimp only
      split
      · rfl
      · rfl
    · rfl
  · rfl

theorem resume_cleaned (next : j.resume setup answers = some j') : j'.cleaned = j.cleaned := by
  unfold Job.resume at next
  split at next
  · split at next
    · cases next
    · cases next
      rfl
  · cases next
    exact wait_cleaned j
  · split at next
    · cases next
      exact wait_cleaned j
    · cases next
  · cases next
    exact authorized_cleaned j answers
  · cases next
    unfold Job.sessionStarted
    split
    · rfl
    · exact subscribeAudio_cleaned {j with admission := {j.admission with audioAuthorized := true}} answers
  · split at next
    · cases next
      exact subscribeAudio_cleaned j answers
    · cases next
  · cases next
    exact readyPublished_cleaned j answers
  · cases next
  · cases next

theorem cleanNext_cleaned (next : j.cleanNext = some j') : j'.cleaned = j.cleaned := by
  unfold Job.cleanNext at next
  split at next
  · split at next
    · cases next
      rfl
    · cases next
  · cases next
    rfl
  · cases next
    rfl
  all_goals cases next

theorem onData_cleaned (j : Job) (packet : Packet) (clock : Clock) (provider : Provider) :
    (j.onData setup packet clock provider).cleaned = j.cleaned := by
  unfold Job.onData
  split
  · rfl
  · split
    · rfl
    · split
      · exact (abort_sheltered _ provider).1.cleaned
      · rfl

-- A job whose cleanup begins is one that clean() was called on.
theorem step_begins (next : step setup j event = some j') (before : j.cleaned = false) (after : j'.cleaned = true) :
    ∃ middle provider, Job.cleaned middle = false ∧ j' = middle.clean provider := by
  have apart : j'.cleaned = j.cleaned → ∃ middle provider, Job.cleaned middle = false ∧ j' = middle.clean provider := by
    intro same
    cases before.symm.trans (same.symm.trans after)
  cases event with
  | room event sdk =>
    obtain ⟨room,sheltered⟩ := onRoom_sheltered event sdk next
    exact apart sheltered.cleaned
  | packet packet clock provider =>
    cases next
    exact apart (onData_cleaned j packet clock provider)
  | resume answers => exact apart (resume_cleaned next)
  | throw =>
    cases throw_raises next
    exact apart rfl
  | deadline | cancelEntry =>
    cases next
    exact apart (cancelStartup_sheltered j).cleaned
  | finish provider =>
    rw [step,Job.finish] at next
    split at next
    · cases next
    · have kept : (if j.startup = .raised then (j.abort provider).1 else j).cleaned = j.cleaned := by
        split
        · exact (abort_sheltered j provider).1.cleaned
        · rfl
      dsimp only at next
      generalize (if j.startup = .raised then (j.abort provider).1 else j) = middle at kept next
      split at next
      · cases next
        exact ⟨{middle with entered := true},provider,kept.trans before,rfl⟩
      · cases next
        exact apart kept
  | jobShutdown provider =>
    cases next
    exact ⟨j,provider,before,rfl⟩
  | clean => exact apart (cleanNext_cleaned next)
  | sessionClose provider | publisherFailed provider =>
    rw [step,Job.reported] at next
    split at next
    · cases next
      exact apart (abort_sheltered j provider).1.cleaned
    · cases next
  | announce | expire | stop | cancelStop =>
    obtain ⟨_,_,rfl⟩ := Option.map_eq_some_iff.mp next
    exact apart rfl

-- Where it begins: it waits for the startup task that it has cancelled, or for nothing,
-- unless an exception of the provider ends it at once.
inductive Begun (j : Job) : Prop where
  | failed : j.cleanup = .failed → Begun j
  | gathering : j.cleanup = .gathering → j.cancelling = true → Begun j
  | closing : j.cleanup = .closing → j.startup.done = true → Begun j

theorem clean_begun (before : j.cleaned = false) (provider : Provider) : Begun (j.clean provider) := by
  unfold Job.clean
  rw [if_neg (by rw [before]; simp)]
  dsimp only
  split
  · exact .failed rfl
  · split
    · rename_i done
      exact .closing rfl done
    · rename_i running
      unfold Job.cancelStartup
      split
      · rename_i done
        exact absurd done running
      · exact .gathering rfl rfl

theorem clean_cleaned (j : Job) (provider : Provider) : (j.clean provider).cleaned = true := by
  unfold Job.clean
  split
  · assumption
  · dsimp only
    split
    · rfl
    · split
      · rfl
      · unfold Job.cancelStartup
        split
        · rfl
        · rfl

theorem calm_cleans (before : j.cleaned = false) : (j.clean calm).cleanup ≠ .failed := by
  have quiet : ∀ h : Handler, (h.silence calm).2 = none := by
    intro h
    unfold Handler.silence
    split
    · rfl
    · rfl
  unfold Job.clean
  rw [if_neg (by rw [before]; simp)]
  dsimp only
  split
  · rename_i raised
    have none_ := quiet {j.control with ready := false}
    have some_ := congrArg Prod.snd raised
    cases none_.symm.trans some_
  · split
    · exact nofun
    · unfold Job.cancelStartup
      split
      · exact nofun
      · exact nofun

end AidaAgent.Worker
