import AidaAgent.SipAdmissionSteps
import AidaAgent.Library.Chronicle

namespace AidaAgent.SipAdmission
open JsonText Config Bootstrap Worker Transitions Chronicle

variable {name : String} {s s' : Scene} {sdk : Sdk} {p : Participant} {publication : Publication} {room : Room}
  {i : Nat} {t : Task}

def requestedSid : Mark → Option String
  | .requested _ _ _ publication => some publication.sid
  | _ => none

def requests (log : List Mark) : List String := log.filterMap requestedSid

-- What a mark needs of the older ones.
def Fits (name : String) : Mark → List Mark → Prop
  | .requested a found p publication,older => .entered ∈ older ∧ .closed ∉ older ∧ a.validate name found = .ok () ∧
      a.boundAudio publication p = true ∧ publication.sid ∉ requests older
  | .closed,older => ∀ sid ∈ requests older, .released sid ∈ older
  | _,_ => True

structure Confined (name : String) (s : Scene) : Prop where
  kept : Kept (Fits name) s.log
  entered : s.admission.audioAuthorized = true → .entered ∈ s.log
  closed : s.admission.closed = true ↔ .closed ∈ s.log
  asked : ∀ sid, sid ∈ s.admission.audioRequested ↔ sid ∈ requests s.log

theorem initial_confined (name : String) (room : Room) : Confined name (.initial room) :=
  ⟨trivial,by simp [Scene.initial,Admission.initial],by simp [Scene.initial,Admission.initial],
    by simp [Scene.initial,Admission.initial,requests]⟩

-- The room, the flag and the calls do not matter.
theorem Confined.carry (confined : Confined name s) (log : s'.log = s.log)
    (authorized : s'.admission.audioAuthorized = s.admission.audioAuthorized)
    (closed : s'.admission.closed = s.admission.closed)
    (asked : s'.admission.audioRequested = s.admission.audioRequested) : Confined name s' := by
  refine ⟨?_,?_,?_,?_⟩
  · rw [log]
    exact confined.kept
  · rw [log,authorized]
    exact confined.entered
  · rw [log,closed]
    exact confined.closed
  · rw [log,asked]
    exact confined.asked

theorem confined_plain {mark : Mark} (confined : Confined name s) (free : ∀ older, Fits name mark older)
    (silent : requestedSid mark = none) (other : mark ≠ .closed) : Confined name (s.mark mark) := by
  refine ⟨⟨free _,confined.kept⟩,fun authorized => ?_,?_,fun sid => ?_⟩
  · exact List.mem_cons_of_mem _ (confined.entered authorized)
  · refine confined.closed.trans (Iff.intro (List.mem_cons_of_mem _) fun member => ?_)
    exact (List.mem_cons.mp member).resolve_left fun same => other same.symm
  · refine (confined.asked sid).trans ?_
    rw [requests,requests,Scene.mark,List.filterMap_cons_none silent]

theorem confined_request (confined : Confined name s) (asks : Asks name s publication p) :
    Confined name (s.setSubscribed publication p sdk) := by
  have asked : Confined name {s with
      admission := {s.admission with audioRequested := s.admission.audioRequested ++ [publication.sid]}
      log := .requested s.admission s.room p publication :: s.log} := by
    refine ⟨⟨⟨confined.entered asks.authorized,?_,asks.valid,asks.bound,?_⟩,confined.kept⟩,fun authorized => ?_,?_,
      fun sid => ?_⟩
    · intro closed
      cases asks.opened.symm.trans (confined.closed.mpr closed)
    · exact fun before => asks.new ((confined.asked _).mpr before)
    · exact List.mem_cons_of_mem _ (confined.entered authorized)
    · refine confined.closed.trans (Iff.intro (List.mem_cons_of_mem _) fun member => ?_)
      exact (List.mem_cons.mp member).resolve_left fun same => by cases same
    · have own : requests (.requested s.admission s.room p publication :: s.log) = publication.sid :: requests s.log :=
        List.filterMap_cons_some rfl
      rw [own,List.mem_append,List.mem_singleton,List.mem_cons,confined.asked]
      exact or_comm
  unfold Scene.setSubscribed
  dsimp only
  split
  · apply asked.carry <;> simp [setChanged_admission]
  · exact asked

theorem confined_preserved (name : String) : Preserved name (Confined name) where
  set confined := confined.carry (by simp) (by rw [setChanged_admission]) (by rw [setChanged_admission])
    (by rw [setChanged_admission])
  clear confined := confined.carry rfl rfl rfl rfl
  abort confined := confined_plain confined (fun _ => trivial) rfl (by simp)
  request := confined_request
  connect confined := confined.carry rfl rfl rfl rfl

-- close() goes through everything that was requested.
theorem confined_close (confined : Confined name s) : Confined name s.close := by
  unfold Scene.close
  split
  · exact confined
  · rename_i opened
    have silent : ∀ sids : List String, requests ((sids.map Mark.released).reverse ++ s.log) = requests s.log := by
      intro sids
      rw [requests,List.filterMap_append,List.filterMap_eq_nil_iff.mpr,List.nil_append,requests]
      intro mark member
      obtain ⟨sid,_,rfl⟩ := List.mem_map.mp (List.mem_reverse.mp member)
      rfl
    have released : Kept (Fits name) ((s.admission.audioRequested.map Mark.released).reverse ++ s.log) := by
      apply kept_append confined.kept
      intro mark member middle _
      obtain ⟨sid,_,rfl⟩ := List.mem_map.mp (List.mem_reverse.mp member)
      trivial
    refine ⟨⟨?_,?_⟩,?_,?_,?_⟩
    · intro sid asked
      rw [setChanged_log] at asked ⊢
      rw [silent,← confined.asked] at asked
      exact List.mem_append_left _ (List.mem_reverse.mpr (List.mem_map_of_mem asked))
    · rw [setChanged_log]
      exact released
    · intro authorized
      rw [Scene.mark,setChanged_log]
      simp only [Scene.mark,setChanged_admission] at authorized
      exact List.mem_cons_of_mem _ (List.mem_append_right _ (confined.entered authorized))
    · simp [Scene.mark,setChanged_admission]
    · intro sid
      simp only [Scene.mark,setChanged_admission,setChanged_log]
      rw [requests,List.filterMap_cons_none rfl,← requests,silent,confined.asked]

theorem confined_lasting (name : String) : Lasting name (Confined name) where
  toPreserved := confined_preserved name
  moving confined := confined.carry rfl rfl rfl rfl
  binding confined := confined.carry rfl rfl rfl rfl
  entering confined := confined_plain confined (fun _ => trivial) rfl (by simp)
  authorizing entered := ⟨entered.kept,fun _ => List.mem_cons_self,entered.closed,entered.asked⟩
  closing := confined_close

-- What a publication needs for subscribe_audio() to return.
structure Heard (name : String) (s : Scene) (leg : SipLeg) (p : Participant) (publication : Publication) : Prop where
  bound : s.admission.leg = some leg
  present : p ∈ s.room.people
  identity : p.identity = leg.identity
  sid : p.sid = leg.sid
  published : publication ∈ p.publications
  audio : publication.kind = .audio
  microphone : publication.source = .microphone
  track : publication.track = true
  asked : publication.sid ∈ s.admission.audioRequested
  valid : s.validate name = .ok ()

theorem boundAudio_exact {a : Admission} : a.boundAudio publication p = true ↔ ∃ leg, a.leg = some leg ∧
    p.identity = leg.identity ∧ p.sid = leg.sid ∧ publication.kind = .audio ∧ publication.source = .microphone := by
  unfold Admission.boundAudio
  cases a.leg with
  | none => simp
  | some leg => simp [and_assoc]

theorem setSubscribed_asked : publication.sid ∈ (s.setSubscribed publication p sdk).admission.audioRequested := by
  unfold Scene.setSubscribed
  dsimp only
  split <;> simp [setChanged_admission]

theorem requestTrack_asked (valid : s.validate name = .ok ()) (bound : s.admission.boundAudio publication p = true) :
    publication.sid ∈ (s.requestTrack name publication p sdk).1.admission.audioRequested := by
  unfold Scene.requestTrack
  rw [valid]
  dsimp only
  split
  · split
    · exact setSubscribed_asked
    · exact setSubscribed_asked
  · rename_i before
    by_contra new
    exact before ⟨bound,new⟩

theorem trackPublished_asked (valid : s.validate name = .ok ()) (authorized : s.admission.audioAuthorized = true)
    (bound : s.admission.boundAudio publication p = true) :
    publication.sid ∈ (s.trackPublished name publication p sdk).1.admission.audioRequested := by
  have opened := (validate_ok.mp valid).1
  have asked : publication.sid ∈ (s.requestTrack name publication p sdk).1.admission.audioRequested :=
    requestTrack_asked valid bound
  unfold Scene.trackPublished
  rw [if_neg (by simp [opened,authorized])]
  split
  · rename_i after raised
    rwa [raised] at asked
  · rename_i after returned
    rw [returned] at asked
    rwa [setChanged_admission]

theorem findAudio_found (publications : List Publication) (valid : s.validate name = .ok ())
    (authorized : s.admission.audioAuthorized = true)
    (found : s.findAudio name p sdk publications = (s',some true)) : ∃ publication ∈ publications,
      s.admission.boundAudio publication p = true ∧ hasTrack s'.room p.identity publication = true ∧
      publication.sid ∈ s'.admission.audioRequested := by
  induction publications generalizing s with
  | nil => cases found
  | cons publication rest ih =>
    rw [Scene.findAudio] at found
    have within := trackPublished_within name s publication p sdk
    split at found
    · cases found
    · rename_i after returned
      rw [returned] at within
      split at found
      · rename_i heard
        cases found
        have bound : s.admission.boundAudio publication p = true := by
          rw [← within.bound]
          exact heard.1
        have asked : publication.sid ∈ (s.trackPublished name publication p sdk).1.admission.audioRequested :=
          trackPublished_asked valid authorized bound
        rw [returned] at asked
        exact ⟨publication,List.mem_cons_self,bound,heard.2,asked⟩
      · obtain ⟨other,member,bound,track,asked⟩ := ih (within.valid valid) (within.authorized.trans authorized) found
        rw [within.bound] at bound
        exact ⟨other,List.mem_cons_of_mem _ member,bound,track,asked⟩

theorem hasTrack_exact {publication : Publication} : hasTrack room identity publication = true ↔
    ∃ p, room.get identity = some p ∧ {publication with track := true} ∈ p.publications := by
  simp [hasTrack,Option.any_eq_true]

theorem subscribeTurn_audio (authorized : s.admission.audioAuthorized = true)
    (returned : (s.subscribeTurn name sdk).2 = .ended .audio) :
    ∃ leg p publication, Heard name (s.subscribeTurn name sdk).1 leg p publication := by
  rcases subscribeTurn_cases name s sdk with ⟨_,shape⟩ | ⟨e,_,shape⟩ | ⟨valid,leg,p,bound,known,_,shape⟩
  · rw [shape] at returned
    cases returned
  · rw [shape] at returned
    cases returned
  · have within := findAudio_within name s.clearChanged p sdk p.publications
    rw [shape] at returned ⊢
    match found : s.clearChanged.findAudio name p sdk p.publications with
    | (after,none) | (after,some false) =>
      rw [found] at returned
      cases returned
    | (after,some true) =>
      rw [found] at within
      obtain ⟨publication,_,mine,track,asked⟩ := findAudio_found (s := s.clearChanged) p.publications valid authorized found
      obtain ⟨q,there,listed⟩ := hasTrack_exact.mp track
      obtain ⟨other,same,who,which,audio,microphone⟩ := boundAudio_exact.mp mine
      obtain ⟨r,still,equal⟩ := cores_get within.people known
      rw [who,← Option.some.inj (bound.symm.trans same)] at there
      cases there.symm.trans still
      cases bound.symm.trans same
      exact ⟨leg,q,_,within.leg.trans bound,(get_exact.mp there).1,(core_same equal).1.trans who,
        (core_same equal).2.1.trans which,listed,audio,microphone,rfl,asked,within.valid valid⟩

theorem Heard.tasks {leg : SipLeg} (heard : Heard name s leg p publication) (tasks : List Task) :
    Heard name {s with tasks := tasks} leg p publication :=
  ⟨heard.bound,heard.present,heard.identity,heard.sid,heard.published,heard.audio,heard.microphone,heard.track,
    heard.asked,heard.valid⟩

theorem begin_audio (returned : (s.begin name sdk call).2 = .ended .audio) :
    ∃ leg p publication, Heard name (s.begin name sdk call).1 leg p publication := by
  cases call with
  | wait =>
    rcases waitTurn_cases name s with ⟨_,same⟩ | ⟨_,_,same⟩ | ⟨_,_,same⟩ <;>
      simp [Scene.begin,same] at returned
  | subscribeAudio =>
    unfold Scene.begin at returned ⊢
    dsimp only at returned ⊢
    split
    · rename_i e refused
      rw [refused] at returned
      cases returned
    · rename_i valid
      rw [valid] at returned
      exact subscribeTurn_audio rfl returned

theorem turn_audio (authorized : call = .subscribeAudio → s.admission.audioAuthorized = true)
    (returned : (s.turn name sdk call).2 = .ended .audio) :
    ∃ leg p publication, Heard name (s.turn name sdk call).1 leg p publication := by
  cases call with
  | wait =>
    rcases waitTurn_cases name s with ⟨_,same⟩ | ⟨_,_,same⟩ | ⟨_,_,same⟩ <;>
      simp [Scene.turn,same] at returned
  | subscribeAudio => exact subscribeTurn_audio (authorized rfl) returned

-- subscribe_audio() returns for a microphone that is heard.
theorem returned_heard {event : Event} (begun : Begun s) (next : step name s event = some s')
    (listed : s'.tasks[i]? = some t) (finished : t.phase = .ended .audio) :
    s.tasks[i]? = some t ∨ ∃ leg p publication, Heard name s' leg p publication := by
  cases step_task next listed with
  | kept before known same =>
    rcases same with rfl | rfl
    · exact .inl known
    · cases shape : before.phase with
      | suspended w => simp [Task.wake,shape] at finished
      | ended result =>
        have same : before.wake = before := by simp [Task.wake,shape]
        rw [same]
        exact .inl known
  | begun call sdk _ shape =>
    subst shape
    rw [step_call] at next
    obtain rfl := Option.some.inj next
    obtain ⟨leg,p,publication,heard⟩ := begin_audio finished
    exact .inr ⟨leg,p,publication,heard.tasks _⟩
  | turned call sdk seen known shape =>
    subst shape
    obtain ⟨call',seen',known',rfl⟩ := step_resume next
    cases known.symm.trans known'
    obtain ⟨leg,p,publication,heard⟩ := turn_audio (fun same => begun i _ known same true rfl) finished
    exact .inr ⟨leg,p,publication,heard.tasks _⟩
  | cancelled call w seen known shape =>
    subst shape
    cases finished

theorem kept_requests (kept : Kept (Fits name) log) : (requests log).Nodup := by
  induction log with
  | nil => exact List.nodup_nil
  | cons mark older ih =>
    cases mark with
    | requested a found p publication => exact List.nodup_cons.mpr ⟨kept.1.2.2.2.2,ih kept.2⟩
    | _ => exact ih kept.2

theorem closed_silent (kept : Kept (Fits name) (newer ++ .closed :: older)) : requests newer = [] := by
  apply List.filterMap_eq_nil_iff.mpr
  intro mark member
  cases mark with
  | requested a found p publication =>
    obtain ⟨middle,fits⟩ := kept_newer kept member
    exact absurd (List.mem_append_right middle List.mem_cons_self) fits.2.1
  | _ => rfl

theorem audio_confinement (path : Runs (step name) Anything (.initial room) events s) :
    (∀ newer a found p publication older, s.log = newer ++ .requested a found p publication :: older →
      .entered ∈ older ∧ .closed ∉ older ∧ publication.kind = .audio ∧ publication.source = .microphone ∧
        (∃ leg, a.leg = some leg ∧ p.identity = leg.identity ∧ p.sid = leg.sid) ∧ a.validate name found = .ok ()) ∧
    (requests s.log).Nodup ∧
    (∀ event s' (i : Nat) t, step name s event = some s' → s'.tasks[i]? = some t → t.phase = .ended .audio →
      s.tasks[i]? = some t ∨ ∃ leg p publication, Heard name s' leg p publication) ∧
    (∀ s', step name s .close = some s' → .closed ∈ s'.log) ∧
    (∀ newer older, s.log = newer ++ .closed :: older → requests newer = [] ∧
      ∀ sid ∈ requests s.log, .released sid ∈ older) := by
  have confined := path.invariant (fun _ _ _ known _ next => (confined_lasting name).step known next)
    (initial_confined name room)
  have begun := path.invariant (fun _ _ _ known _ next => begun_step known next) (initial_begun room)
  refine ⟨?_,kept_requests confined.kept,fun event s' i t next => returned_heard begun next,?_,?_⟩
  · intro newer a found p publication older shape
    have kept := confined.kept
    rw [shape] at kept
    obtain ⟨entered,opened,valid,bound,_⟩ := kept_split kept
    obtain ⟨leg,own,who,which,audio,microphone⟩ := boundAudio_exact.mp bound
    exact ⟨entered,opened,audio,microphone,⟨leg,own,who,which⟩,valid⟩
  · intro s' next
    cases next
    apply (confined_close confined).closed.mp
    unfold Scene.close
    split
    · assumption
    · simp [Scene.mark,setChanged_admission]
  · intro newer older shape
    have kept := confined.kept
    rw [shape] at kept ⊢
    have silent := closed_silent kept
    refine ⟨silent,fun sid asked => ?_⟩
    rw [requests,List.filterMap_append,← requests,silent,List.nil_append] at asked
    exact kept_split kept sid asked

theorem caller_confinement : ∃ s, Runs (step "route") Anything (.initial (callerRoom true))
      [.call .wait steady,.call .subscribeAudio steady,.close] s ∧ requests s.log = ["TR_1"] ∧
    ∀ sid ∈ requests s.log, .released sid ∈ s.log := by
  have begun : Runs (step "route") Anything (.initial (callerRoom true))
      [.call .wait steady,.call .subscribeAudio steady] _ := Runs.step (caller_admitted true) trivial rfl
  have path : Runs (step "route") Anything (.initial (callerRoom true))
      [.call .wait steady,.call .subscribeAudio steady,.close] _ := Runs.step begun trivial rfl
  refine ⟨_,path,rfl,fun sid asked => ?_⟩
  obtain ⟨_,_,_,_,released⟩ := audio_confinement path
  exact List.mem_cons_of_mem _ ((released [] _ rfl).2 sid asked)

end AidaAgent.SipAdmission
