import AidaAgent.Worker
import AidaAgent.ControlSilence

namespace AidaAgent.Worker
open JsonText Config Bootstrap Control

def marksTrack : Mark → Bool
  | .subscribed _ _ _ => true
  | _ => false

-- abort() ran here for the first time: the session is silenced.
def Silences (j j' : Job) : Prop := j.aborted = false ∧ j.cleaned = false ∧ j'.aborted = true ∧
  ∃ provider, j'.control = (j.control.silence provider).1

-- What abort and the handlers of the admission leave of a job.
structure Sheltered (j j' : Job) : Prop where
  room : j'.room = j.room
  leg : j'.admission.leg = j.admission.leg
  closed : j'.admission.closed = j.admission.closed
  startup : j'.startup = j.startup
  profile : j'.profile = j.profile
  cleaned : j'.cleaned = j.cleaned
  control : (j'.control = j.control ∧ j'.aborted = j.aborted) ∨ Silences j j'
  log : ∃ extra, j'.log = extra ++ j.log ∧ ∀ m ∈ extra, marksTrack m = true

theorem sheltered_same (room : j'.room = j.room) (leg : j'.admission.leg = j.admission.leg)
    (closed : j'.admission.closed = j.admission.closed) (startup : j'.startup = j.startup)
    (profile : j'.profile = j.profile) (cleaned : j'.cleaned = j.cleaned) (control : j'.control = j.control)
    (aborted : j'.aborted = j.aborted) (log : j'.log = j.log) : Sheltered j j' :=
  ⟨room,leg,closed,startup,profile,cleaned,.inl ⟨control,aborted⟩,[],log,by simp⟩

theorem Sheltered.refl (j : Job) : Sheltered j j := sheltered_same rfl rfl rfl rfl rfl rfl rfl rfl rfl

theorem Sheltered.trans (first : Sheltered j middle) (second : Sheltered middle j') : Sheltered j j' := by
  obtain ⟨extra,before,marks⟩ := first.log
  obtain ⟨more,after,also⟩ := second.log
  refine ⟨second.room.trans first.room,second.leg.trans first.leg,second.closed.trans first.closed,
    second.startup.trans first.startup,second.profile.trans first.profile,second.cleaned.trans first.cleaned,?_,
    more ++ extra,by rw [after,before,List.append_assoc],?_⟩
  · rcases first.control with ⟨control,aborted⟩ | silences
    · rcases second.control with ⟨control',aborted'⟩ | ⟨running,uncleaned,ended,provider,silenced⟩
      · exact .inl ⟨control'.trans control,aborted'.trans aborted⟩
      · exact .inr ⟨aborted ▸ running,first.cleaned ▸ uncleaned,ended,provider,by rw [silenced,control]⟩
    · obtain ⟨running,uncleaned,ended,provider,silenced⟩ := silences
      rcases second.control with ⟨control',aborted'⟩ | ⟨running',_⟩
      · exact .inr ⟨running,uncleaned,aborted'.trans ended,provider,control'.trans silenced⟩
      · rw [ended] at running'
        cases running'
  · intro m member
    rcases List.mem_append.mp member with late | early
    · exact also m late
    · exact marks m early

theorem Sheltered.aborts (sheltered : Sheltered j j') (aborted : j.aborted = true) : j'.aborted = true := by
  rcases sheltered.control with ⟨_,same⟩ | ⟨_,_,ended,_⟩
  · rw [same]
    exact aborted
  · exact ended

theorem sheltered_changed (j : Job) (changed : Bool) : Sheltered j (j.setChanged changed) :=
  sheltered_same rfl rfl rfl rfl rfl rfl rfl rfl rfl

theorem cancelStartup_sheltered (j : Job) : Sheltered j j.cancelStartup := by
  unfold Job.cancelStartup
  split
  · exact .refl j
  · exact sheltered_same rfl rfl rfl rfl rfl rfl rfl rfl rfl

theorem abort_sheltered (j : Job) (provider : Provider) : Sheltered j (j.abort provider).1 ∧
    ((j.abort provider).1.aborted = true ∨ (j.abort provider).1.cleaned = true) := by
  unfold Job.abort
  split
  · rename_i past
    exact ⟨.refl j,past⟩
  · rename_i running
    obtain ⟨unaborted,uncleaned⟩ := not_or.mp running
    have silences : ∀ control, control = (j.control.silence provider).1 →
        Sheltered j {j with aborted := true, control} := by
      intro control silenced
      exact ⟨rfl,rfl,rfl,rfl,rfl,rfl,.inr ⟨by simpa using unaborted,by simpa using uncleaned,rfl,provider,silenced⟩,
        [],rfl,by simp⟩
    split
    · rename_i control error same
      exact ⟨silences control (by rw [same]),.inl rfl⟩
    · rename_i control same
      have sheltered := (silences control (by rw [same])).trans (cancelStartup_sheltered _)
      exact ⟨sheltered,.inl ((cancelStartup_sheltered _).aborts rfl)⟩

-- While nothing has ended the job, its bound leg is the one SIP participant of the room.
def Bound (setup : Setup) (j : Job) : Prop := j.aborted = false → j.cleaned = false →
  ∀ leg, j.admission.leg = some leg → Holds setup.routeTokenAttribute j.room leg

theorem ended_bound (ended : j.aborted = true ∨ j.cleaned = true) : Bound setup j := by
  intro unaborted uncleaned
  rcases ended with aborted | cleaned
  · rw [unaborted] at aborted; cases aborted
  · rw [uncleaned] at cleaned; cases cleaned

theorem abort_bound (j : Job) (provider : Provider) : Bound setup (j.abort provider).1 :=
  ended_bound (abort_sheltered j provider).2

theorem sheltered_bound (sheltered : Sheltered j j') (bound : Bound setup j) : Bound setup j' := by
  intro unaborted uncleaned leg known
  rw [sheltered.room]
  refine bound ?_ (sheltered.cleaned ▸ uncleaned) leg (sheltered.leg ▸ known)
  cases aborted : j.aborted with
  | false => rfl
  | true =>
    rw [sheltered.aborts aborted] at unaborted
    cases unaborted

theorem recheck_sheltered (j : Job) (provider : Provider) : Sheltered j (j.recheck setup provider).1 ∧
    Bound setup (j.recheck setup provider).1 := by
  have changed := sheltered_changed j true
  unfold Job.recheck
  dsimp only
  split
  · split
    · rename_i u valid
      refine ⟨changed,fun _ _ leg known => ?_⟩
      obtain ⟨_,found,same,held⟩ := validate_exact.mp valid
      cases known.symm.trans same
      exact held
    · exact ⟨changed.trans (abort_sheltered _ provider).1,abort_bound _ provider⟩
  · rename_i unbound
    refine ⟨changed,fun _ _ leg known => ?_⟩
    rw [known] at unbound
    exact absurd rfl unbound

-- The first abort that raises leaves the rest of the handler out.
theorem participantDisconnected_sheltered (j : Job) (p : Participant) (provider : Provider) :
    Sheltered j (j.participantDisconnected setup p provider).1 ∧
      Bound setup (j.participantDisconnected setup p provider).1 := by
  have first : ∀ {middle failure}, (if j.admission.leg.any (·.sid = p.sid) then j.abort provider else (j,none)) =
      (middle,failure) → Sheltered j middle ∧ (failure.isSome = true → Bound setup middle) := by
    intro middle failure same
    split at same
    · have aborted := abort_sheltered j provider
      rw [same] at aborted
      exact ⟨aborted.1,fun _ => ended_bound aborted.2⟩
    · cases same
      exact ⟨.refl j,fun none => by cases none⟩
  unfold Job.participantDisconnected
  split
  · rename_i middle error same
    obtain ⟨sheltered,bound⟩ := first same
    exact ⟨sheltered,bound rfl⟩
  · rename_i middle same
    have rechecked := @recheck_sheltered setup middle provider
    exact ⟨(first same).1.trans rechecked.1,rechecked.2⟩

theorem requestTrack_sheltered (j : Job) (publication : Publication) (p : Participant) (sdk : Sdk) :
    Sheltered j (j.requestTrack setup publication p sdk).1 := by
  unfold Job.requestTrack
  split
  · exact (abort_sheltered j sdk.provider).1
  · split
    · have asked : Sheltered j {j with admission := {j.admission with
          audioRequested := j.admission.audioRequested ++ [publication.sid]}} :=
        sheltered_same rfl rfl rfl rfl rfl rfl rfl rfl rfl
      dsimp only
      split
      · exact asked
      · exact asked.trans (abort_sheltered _ sdk.provider).1
    · exact .refl j

theorem trackPublished_sheltered (j : Job) (publication : Publication) (p : Participant) (sdk : Sdk) :
    Sheltered j (j.trackPublished setup publication p sdk).1 := by
  have requested := @requestTrack_sheltered setup j publication p sdk
  unfold Job.trackPublished
  split
  · exact .refl j
  · split
    · rename_i same
      rw [same] at requested
      exact requested
    · rename_i same
      rw [same] at requested
      exact requested.trans (sheltered_changed _ true)

theorem boundAudio_exact {a : Admission} (bound : a.boundAudio publication p = true) :
    ∃ leg, a.leg = some leg ∧ p.identity = leg.identity ∧ p.sid = leg.sid := by
  unfold Admission.boundAudio at bound
  split at bound
  · cases bound
  · rename_i leg known
    simp only [Bool.and_eq_true,decide_eq_true_eq] at bound
    exact ⟨leg,known,bound.1.1.1,bound.1.1.2⟩

-- The bound microphone was seen with its track.
def Subscribed (j : Job) : Prop := ∃ leg publication, j.admission.leg = some leg ∧
  .subscribed leg.identity leg.sid publication ∈ j.log

theorem findAudio_sheltered (j : Job) (p : Participant) (sdk : Sdk) (publications : List Publication) :
    Sheltered j (j.findAudio setup p sdk publications).1 ∧
      ((j.findAudio setup p sdk publications).2 = .ok true → Subscribed (j.findAudio setup p sdk publications).1) := by
  induction publications generalizing j with
  | nil => exact ⟨.refl j,fun found => by cases found⟩
  | cons publication rest ih =>
    have published := @trackPublished_sheltered setup j publication p sdk
    unfold Job.findAudio
    split
    · rename_i same
      rw [same] at published
      exact ⟨published,fun found => by cases found⟩
    · rename_i middle same
      rw [same] at published
      split
      · rename_i bound
        obtain ⟨leg,known,identity,sid⟩ := boundAudio_exact bound.1
        refine ⟨published.trans ⟨rfl,rfl,rfl,rfl,rfl,rfl,.inl ⟨rfl,rfl⟩,[_],rfl,by simp [marksTrack]⟩,fun _ => ?_⟩
        exact ⟨leg,publication.sid,known,by simp [Job.mark,identity,sid]⟩
      · obtain ⟨found,subscribed⟩ := ih middle
        exact ⟨published.trans found,subscribed⟩

-- A turn of subscribe_audio, after what its handlers do: it raises, it waits, or the
-- bound microphone is there.
theorem subscribeAudio_cases (setup : Setup) (j : Job) (answers : Answers) : ∃ middle, Sheltered j middle ∧
    (j.subscribeAudio setup answers = middle.raises ∨
      (Subscribed middle ∧ j.subscribeAudio setup answers = middle.publishReady setup answers) ∨
      j.subscribeAudio setup answers = {middle with startup := .subscribing}) := by
  have changed := sheltered_changed j false
  unfold Job.subscribeAudio
  split
  · exact ⟨j,.refl j,.inl rfl⟩
  · dsimp only
    split
    · rename_i p _ _
      obtain ⟨found,subscribed⟩ := @findAudio_sheltered setup (j.setChanged false) p answers.sdk p.publications
      split
      · rename_i middle _ same
        rw [same] at found
        exact ⟨middle,changed.trans found,.inl rfl⟩
      · rename_i middle same
        rw [same] at found subscribed
        exact ⟨middle,changed.trans found,.inr (.inl ⟨subscribed rfl,rfl⟩)⟩
      · rename_i middle same
        rw [same] at found
        exact ⟨middle.setChanged false,(changed.trans found).trans (sheltered_changed middle false),.inr (.inr rfl)⟩
    · exact ⟨j.setChanged false,changed,.inl rfl⟩

theorem handled_sheltered (j : Job) (room : Room) (handler : Job → Job) (handles : Sheltered {j with room} (handler {j with room})) :
    Sheltered {j with room} (if j.admission.closed = true then {j with room} else handler {j with room}) := by
  split
  · exact .refl _
  · exact handles

-- An event of the room changes the room, and then does no more than abort the job.
theorem onRoom_sheltered {j j' : Job} (event : RoomEvent) (sdk : Sdk) (next : j.onRoom setup sdk event = some j') :
    ∃ room, Sheltered {j with room} j' := by
  cases event with
  | participantConnected p =>
    cases next
    exact ⟨_,handled_sheltered j _ (fun j => (j.recheck setup sdk.provider).1) (recheck_sheltered _ _).1⟩
  | participantDisconnected identity =>
    obtain ⟨p,_,same⟩ := Option.bind_eq_some_iff.mp next
    cases same
    exact ⟨_,handled_sheltered j _ (fun j => (j.participantDisconnected setup p sdk.provider).1)
      (participantDisconnected_sheltered _ p _).1⟩
  | participantAttributesChanged identity attributes =>
    obtain ⟨p,_,same⟩ := Option.bind_eq_some_iff.mp next
    cases same
    exact ⟨_,handled_sheltered j _ (fun j => (j.recheck setup sdk.provider).1) (recheck_sheltered _ _).1⟩
  | trackPublished identity publication =>
    obtain ⟨p,_,same⟩ := Option.bind_eq_some_iff.mp next
    cases same
    exact ⟨_,handled_sheltered j _
      (fun j => (j.trackPublished setup publication (p.putPublication publication) sdk).1)
      (trackPublished_sheltered _ publication _ sdk)⟩
  | trackSubscribed identity sid =>
    obtain ⟨⟨p,publication⟩,_,same⟩ := Option.bind_eq_some_iff.mp next
    cases same
    dsimp only
    split
    · exact ⟨_,sheltered_changed _ true⟩
    · exact ⟨_,.refl _⟩
  | trackSubscriptionFailed identity sid =>
    obtain ⟨_,_,same⟩ := Option.bind_eq_some_iff.mp next
    cases same
    split
    · exact ⟨j.room,(abort_sheltered j _).1⟩
    · exact ⟨j.room,.refl j⟩
  | trackUnsubscribed identity sid =>
    obtain ⟨⟨p,publication⟩,_,same⟩ := Option.bind_eq_some_iff.mp next
    cases same
    dsimp only
    split
    · exact ⟨_,(abort_sheltered _ _).1⟩
    · exact ⟨_,.refl _⟩
  | trackUnpublished identity sid =>
    obtain ⟨p,_,same⟩ := Option.bind_eq_some_iff.mp next
    cases same
    exact ⟨_,.refl _⟩
  | disconnected =>
    cases next
    split
    · exact ⟨j.room,.refl j⟩
    · exact ⟨j.room,(abort_sheltered j _).1⟩

end AidaAgent.Worker
