import AidaAgent.SipAdmission
import AidaAgent.Library.Transitions

namespace AidaAgent.SipAdmission
open JsonText Config Bootstrap Worker Transitions

-- What the admission goes by, of a participant and of a room: all but the tracks.
def core (p : Participant) : String × String × ParticipantKind × List (String × String) :=
  (p.identity,p.sid,p.kind,p.attributes)

def cores (room : Room) : List (String × String × ParticipantKind × List (String × String)) := room.people.map core

theorem core_same (same : core p = core q) :
    p.identity = q.identity ∧ p.sid = q.sid ∧ p.kind = q.kind ∧ p.attributes = q.attributes := by
  simpa [core] using same

theorem participants_cores (room : Room) :
    (participants room).map core = (cores room).filter fun c => c.2.2.1 = .sip := by
  unfold participants cores
  rw [List.filter_map]
  rfl

theorem cores_participants (same : cores room = cores room') :
    (participants room).map core = (participants room').map core := by
  rw [participants_cores,participants_cores,same]

theorem cores_alone (same : cores room = cores room') (alone : participants room = [p]) :
    ∃ q, participants room' = [q] ∧ core q = core p := by
  have mapped := cores_participants same
  rw [alone,List.map_singleton] at mapped
  obtain ⟨q,whole,equal⟩ := List.map_eq_singleton_iff.mp mapped.symm
  exact ⟨q,whole,equal⟩

theorem holds_cores (same : cores room = cores room') (held : Holds name room leg) : Holds name room' leg := by
  obtain ⟨p,alone,identity,sid,token⟩ := held
  obtain ⟨q,alone',equal⟩ := cores_alone same alone
  obtain ⟨who,which,_,attributes⟩ := core_same equal
  refine ⟨q,alone',who.trans identity,which.trans sid,?_⟩
  rw [Participant.get,attributes]
  exact token

theorem admitLeg_cores (same : cores room = cores room') : admitLeg name room = admitLeg name room' := by
  have mapped := cores_participants same
  unfold admitLeg
  match one : participants room,two : participants room' with
  | [],[] => rfl
  | [p],[q] =>
    rw [one,two] at mapped
    obtain ⟨who,which,_,attributes⟩ := core_same (List.cons.inj mapped).1
    simp only [Participant.get,who,which,attributes]
  | _ :: _ :: _,_ :: _ :: _ => rfl
  | [],_ :: _ | _ :: _,[] | [_],_ :: _ :: _ | _ :: _ :: _,[_] =>
    rw [one,two] at mapped
    simp at mapped

-- The map of participants is keyed by identity.
theorem get_exact {room : Room} : room.get identity = some p ↔ p ∈ room.people ∧ p.identity = identity := by
  constructor
  · intro found
    have who := List.find?_some found
    exact ⟨List.mem_of_find?_eq_some found,by simpa using who⟩
  · rintro ⟨member,rfl⟩
    cases found : room.people.find? (·.identity = p.identity) with
    | none =>
      have missed := List.find?_eq_none.mp found p member
      simp at missed
    | some q =>
      have who := List.find?_some found
      have same := List.inj_on_of_nodup_map room.keyed (List.mem_of_find?_eq_some found) member (by simpa using who)
      rw [Room.get,found,same]

theorem get_unique {room : Room} (known : room.get identity = some p) (member : q ∈ room.people)
    (same : q.identity = p.identity) : q = p :=
  List.inj_on_of_nodup_map room.keyed member (get_exact.mp known).1 same

theorem put_people {room : Room} (known : room.get identity = some p) (who : q.identity = p.identity) :
    (room.put q).people = room.people.map (replace q) := by
  have present : room.people.any (·.identity = q.identity) = true :=
    List.any_eq_true.mpr ⟨p,(get_exact.mp known).1,by simp [who]⟩
  unfold Room.put
  rw [dif_pos present]

theorem put_cores {room : Room} (known : room.get identity = some p) (same : core q = core p) :
    cores (room.put q) = cores room := by
  have who := (core_same same).1
  rw [cores,cores,put_people known who,List.map_map]
  apply List.map_congr_left
  intro r member
  simp only [Function.comp,replace]
  split
  · rename_i equal
    rw [get_unique known member (equal.trans who)]
    exact same
  · rfl

theorem put_member {room : Room} (known : room.get identity = some p) (who : q.identity = p.identity)
    (member : r ∈ (room.put q).people) : r = q ∨ (r ∈ room.people ∧ r.identity ≠ p.identity) := by
  rw [put_people known who] at member
  obtain ⟨other,inside,shape⟩ := List.mem_map.mp member
  unfold replace at shape
  split at shape
  · exact .inl shape.symm
  · rename_i apart
    subst shape
    exact .inr ⟨inside,fun same => apart (same.trans who.symm)⟩

theorem setTrack_core (p : Participant) (sid : String) (track : Bool) : core (p.setTrack sid track) = core p := rfl

theorem putPublication_core (p : Participant) (publication : Publication) :
    core (p.putPublication publication) = core p := by
  unfold Participant.putPublication
  split <;> rfl

theorem setTrack_cores (room : Room) (identity sid : String) (track : Bool) :
    cores (setTrack room identity sid track) = cores room := by
  unfold setTrack
  split
  · rename_i p known
    exact put_cores known rfl
  · rfl

theorem publication_known {room : Room} (known : room.publication identity sid = some (p,publication)) :
    room.get identity = some p ∧ publication ∈ p.publications ∧ publication.sid = sid := by
  unfold Room.publication at known
  obtain ⟨q,found,rest⟩ := Option.bind_eq_some_iff.mp known
  obtain ⟨r,inside,last⟩ := Option.bind_eq_some_iff.mp rest
  cases last
  have own := List.find?_some inside
  exact ⟨found,List.mem_of_find?_eq_some inside,by simpa using own⟩

variable {name : String} {s s' : Scene} {sdk : Sdk} {p : Participant} {publication : Publication}

theorem setChanged_admission : s.setChanged.admission = {s.admission with changed := true} := by
  unfold Scene.setChanged
  split
  · rename_i set
    rw [← set]
  · rfl

@[simp] theorem setChanged_room : s.setChanged.room = s.room := by unfold Scene.setChanged; split <;> rfl
@[simp] theorem setChanged_connected : s.setChanged.connected = s.connected := by unfold Scene.setChanged; split <;> rfl
@[simp] theorem setChanged_log : s.setChanged.log = s.log := by unfold Scene.setChanged; split <;> rfl

theorem validate_ok : s.validate name = .ok () ↔
    s.admission.closed = false ∧ ∃ leg, s.admission.leg = some leg ∧ Holds name s.room leg := validate_exact

-- When _track_published requests a publication.
structure Asks (name : String) (s : Scene) (publication : Publication) (p : Participant) : Prop where
  opened : s.admission.closed = false
  authorized : s.admission.audioAuthorized = true
  valid : s.validate name = .ok ()
  bound : s.admission.boundAudio publication p = true
  new : publication.sid ∉ s.admission.audioRequested

-- A property that the effects of the handlers keep, one by one.
structure Handled (name : String) (P : Scene → Prop) : Prop where
  set : ∀ {s}, P s → P s.setChanged
  abort : ∀ {s}, P s → P (s.mark .abort)
  request : ∀ {s publication p sdk}, P s → Asks name s publication p → P (s.setSubscribed publication p sdk)

-- And those of the search for the microphone.
structure Preserved (name : String) (P : Scene → Prop) : Prop extends Handled name P where
  clear : ∀ {s}, P s → P s.clearChanged
  connect : ∀ {s : Scene}, P s → P {s with admission := {s.admission with audioConnected := true}}

variable {P : Scene → Prop}

theorem Handled.recheck (kept : Handled name P) (held : P s) : P (s.recheck name sdk).1 := by
  have set := kept.set held
  unfold Scene.recheck
  dsimp only
  split
  · split
    · exact set
    · exact kept.abort set
  · exact set

theorem participantDisconnected_cases (name : String) (s : Scene) (p : Participant) (sdk : Sdk) :
    (s.admission.leg.any (·.sid = p.sid) = true ∧ ((s.participantDisconnected name p sdk).1 = s.mark .abort ∨
      (s.participantDisconnected name p sdk).1 = ((s.mark .abort).recheck name sdk).1)) ∨
    (s.admission.leg.any (·.sid = p.sid) = false ∧ s.participantDisconnected name p sdk = s.recheck name sdk) := by
  unfold Scene.participantDisconnected Scene.abort
  cases own : s.admission.leg.any (·.sid = p.sid) with
  | true =>
    rw [if_pos rfl]
    cases sdk.aborts (s.log.countP Mark.isAbort) with
    | true => exact .inl ⟨rfl,.inr rfl⟩
    | false => exact .inl ⟨rfl,.inl rfl⟩
  | false => exact .inr ⟨rfl,rfl⟩

theorem Handled.participantDisconnected (kept : Handled name P) (held : P s) :
    P (s.participantDisconnected name p sdk).1 := by
  rcases participantDisconnected_cases name s p sdk with ⟨_,raised | returned⟩ | ⟨_,other⟩
  · rw [raised]
    exact kept.abort held
  · rw [returned]
    exact kept.recheck (kept.abort held)
  · rw [other]
    exact kept.recheck held

theorem Handled.requestTrack (kept : Handled name P) (held : P s) (opened : s.admission.closed = false)
    (authorized : s.admission.audioAuthorized = true) : P (s.requestTrack name publication p sdk).1 := by
  unfold Scene.requestTrack
  split
  · exact kept.abort held
  · rename_i valid
    split
    · rename_i asked
      have requested : P (s.setSubscribed publication p sdk) :=
        kept.request held ⟨opened,authorized,valid,asked.1,asked.2⟩
      dsimp only
      split
      · exact requested
      · exact kept.abort requested
    · exact held

theorem Handled.trackPublished (kept : Handled name P) (held : P s) :
    P (s.trackPublished name publication p sdk).1 := by
  unfold Scene.trackPublished
  split
  · exact held
  · rename_i goes
    obtain ⟨opened,authorized⟩ := not_or.mp goes
    have requested : P (s.requestTrack name publication p sdk).1 :=
      kept.requestTrack held (by simpa using opened) (by simpa using authorized)
    split
    · rename_i after raised
      rwa [raised] at requested
    · rename_i after returned
      rw [returned] at requested
      exact kept.set requested

theorem Preserved.findAudio (kept : Preserved name P) (held : P s) (publications : List Publication) :
    P (s.findAudio name p sdk publications).1 := by
  induction publications generalizing s with
  | nil => exact held
  | cons publication rest ih =>
    have published : P (s.trackPublished name publication p sdk).1 := kept.trackPublished held
    rw [Scene.findAudio]
    split
    · rename_i after raised
      rwa [raised] at published
    · rename_i after returned
      rw [returned] at published
      split
      · exact kept.connect published
      · exact ih published

theorem Preserved.subscribeTurn (kept : Preserved name P) (held : P s) : P (s.subscribeTurn name sdk).1 := by
  have clear := kept.clear held
  unfold Scene.subscribeTurn
  split
  · exact held
  · dsimp only
    split
    · exact clear
    · split
      · exact clear
      · rename_i p _
        have found : P (s.clearChanged.findAudio name p sdk p.publications).1 := kept.findAudio clear p.publications
        split
        · rename_i after raised
          rwa [raised] at found
        · rename_i after returned
          rwa [returned] at found
        · rename_i after missing
          rw [missing] at found
          exact kept.clear found

-- An event of the room, for a property that does not look at the room.
theorem Handled.onRoom (kept : Handled name P)
    (moving : ∀ {s : Scene} {room connected}, P s → P {s with room := room, connected := connected}) (held : P s)
    (next : s.onRoom name removedFirst sdk event = some s') : P s' := by
  have moved : ∀ room connected, P {s with room := room, connected := connected} := fun _ _ => moving held
  cases event with
  | participantConnected p =>
    cases next
    split
    · exact moved _ _
    · exact kept.recheck (moved _ _)
  | participantDisconnected identity =>
    obtain ⟨p,_,next⟩ := Option.bind_eq_some_iff.mp next
    cases next
    dsimp only
    split
    · exact moved _ _
    · split
      · exact kept.participantDisconnected (moved _ _)
      · exact moving (kept.participantDisconnected held)
  | participantAttributesChanged identity attributes =>
    obtain ⟨p,_,next⟩ := Option.bind_eq_some_iff.mp next
    cases next
    dsimp only
    split
    · exact moved _ _
    · exact kept.recheck (moved _ _)
  | trackPublished identity publication =>
    obtain ⟨p,_,next⟩ := Option.bind_eq_some_iff.mp next
    cases next
    dsimp only
    split
    · exact moved _ _
    · exact kept.trackPublished (moved _ _)
  | trackSubscribed identity sid =>
    obtain ⟨⟨p,publication⟩,_,next⟩ := Option.bind_eq_some_iff.mp next
    cases next
    dsimp only
    split
    · exact kept.set (moved _ _)
    · exact moved _ _
  | trackSubscriptionFailed identity sid =>
    obtain ⟨p,_,next⟩ := Option.bind_eq_some_iff.mp next
    cases next
    split
    · exact kept.abort held
    · exact held
  | trackUnsubscribed identity sid =>
    obtain ⟨⟨p,publication⟩,_,next⟩ := Option.bind_eq_some_iff.mp next
    cases next
    dsimp only
    split
    · exact kept.abort (moved _ _)
    · exact moved _ _
  | trackUnpublished identity sid =>
    obtain ⟨p,_,next⟩ := Option.bind_eq_some_iff.mp next
    cases next
    exact moved _ _
  | disconnected =>
    cases next
    dsimp only
    split
    · exact moved _ _
    · exact kept.abort (moved _ _)

-- What all handlers leave alone.
structure Within (s s' : Scene) : Prop where
  leg : s'.admission.leg = s.admission.leg
  closed : s'.admission.closed = s.admission.closed
  authorized : s'.admission.audioAuthorized = s.admission.audioAuthorized
  connected : s'.connected = s.connected
  people : cores s.room = cores s'.room
  log : s.log <:+ s'.log
  asked : ∀ sid ∈ s.admission.audioRequested, sid ∈ s'.admission.audioRequested

theorem Within.refl (s : Scene) : Within s s := ⟨rfl,rfl,rfl,rfl,rfl,List.suffix_refl _,fun _ known => known⟩

theorem Within.trans (one : Within s s') (two : Within s' s'') : Within s s'' :=
  ⟨two.leg.trans one.leg,two.closed.trans one.closed,two.authorized.trans one.authorized,
    two.connected.trans one.connected,one.people.trans two.people,one.log.trans two.log,
    fun sid known => two.asked sid (one.asked sid known)⟩

theorem setChanged_within : Within s s.setChanged := by
  refine ⟨?_,?_,?_,by simp,by simp,by simp,?_⟩ <;> rw [setChanged_admission]
  exact fun _ known => known

theorem setSubscribed_within : Within s (s.setSubscribed publication p sdk) := by
  have asked : Within s {s with
      admission := {s.admission with audioRequested := s.admission.audioRequested ++ [publication.sid]}
      log := .requested s.admission s.room p publication :: s.log} :=
    ⟨rfl,rfl,rfl,rfl,rfl,List.suffix_cons _ _,fun sid known => List.mem_append_left _ known⟩
  unfold Scene.setSubscribed
  dsimp only
  split
  · apply asked.trans
    refine Within.trans ?_ setChanged_within
    exact ⟨rfl,rfl,rfl,rfl,(setTrack_cores _ _ _ _).symm,List.suffix_refl _,fun _ known => known⟩
  · exact asked

theorem mark_within (mark : Mark) : Within s (s.mark mark) :=
  ⟨rfl,rfl,rfl,rfl,rfl,List.suffix_cons _ _,fun _ known => known⟩

theorem within_preserved (name : String) (s : Scene) : Preserved name (Within s) where
  set within := within.trans setChanged_within
  clear within := within.trans ⟨rfl,rfl,rfl,rfl,rfl,List.suffix_refl _,fun _ known => known⟩
  abort within := within.trans (mark_within _)
  request within _ := within.trans setSubscribed_within
  connect within := within.trans ⟨rfl,rfl,rfl,rfl,rfl,List.suffix_refl _,fun _ known => known⟩

theorem trackPublished_within (name : String) (s : Scene) (publication : Publication) (p : Participant) (sdk : Sdk) :
    Within s (s.trackPublished name publication p sdk).1 := (within_preserved name s).trackPublished (Within.refl s)

theorem findAudio_within (name : String) (s : Scene) (p : Participant) (sdk : Sdk) (publications : List Publication) :
    Within s (s.findAudio name p sdk publications).1 := (within_preserved name s).findAudio (Within.refl s) publications

theorem Within.valid (within : Within s s') (valid : s.validate name = .ok ()) : s'.validate name = .ok () := by
  obtain ⟨opened,leg,bound,held⟩ := validate_ok.mp valid
  exact validate_ok.mpr ⟨within.closed.trans opened,leg,within.leg.trans bound,holds_cores within.people held⟩

theorem Within.bound (within : Within s s') :
    s'.admission.boundAudio publication p = s.admission.boundAudio publication p := by
  unfold Admission.boundAudio
  rw [within.leg]

theorem cores_get {room room' : Room} (same : cores room = cores room') (known : room.get identity = some p) :
    ∃ q, room'.get identity = some q ∧ core q = core p := by
  obtain ⟨member,who⟩ := get_exact.mp known
  have listed : core p ∈ cores room' := by
    rw [← same]
    exact List.mem_map_of_mem member
  obtain ⟨q,inside,equal⟩ := List.mem_map.mp listed
  exact ⟨q,get_exact.mpr ⟨inside,(core_same equal).1.trans who⟩,equal⟩

-- The other calls are woken at most.
def Rested (s s' : Scene) : Prop := s'.tasks = s.tasks ∨ s'.tasks = s.tasks.map Task.wake

theorem wake_wake (t : Task) : t.wake.wake = t.wake := by
  cases shape : t.phase with
  | suspended woken => simp [Task.wake,shape]
  | ended result => simp [Task.wake,shape]

theorem setChanged_tasks : Rested s s.setChanged := by
  unfold Scene.setChanged
  split
  · exact .inl rfl
  · exact .inr rfl

theorem Rested.trans (one : Rested s s') (two : Rested s' s'') : Rested s s'' := by
  rcases one with same | woken
  · rcases two with same' | woken'
    · exact .inl (same'.trans same)
    · exact .inr (by rw [woken',same])
  · rcases two with same' | woken'
    · exact .inr (same'.trans woken)
    · refine .inr ?_
      rw [woken',woken,List.map_map]
      exact List.map_congr_left fun t _ => wake_wake t

theorem setSubscribed_tasks : Rested s (s.setSubscribed publication p sdk) := by
  unfold Scene.setSubscribed
  dsimp only
  split
  · exact setChanged_tasks
  · exact .inl rfl

theorem rested_preserved (name : String) (s : Scene) : Preserved name (Rested s) where
  set rested := rested.trans setChanged_tasks
  clear rested := rested
  abort rested := rested
  request rested _ := rested.trans setSubscribed_tasks
  connect rested := rested

variable {i : Nat} {t : Task} {result : Result}

-- A call of the list stays what it was, but for a wake-up.
theorem Rested.task (rested : Rested s s') (listed : s'.tasks[i]? = some t) :
    ∃ t', s.tasks[i]? = some t' ∧ (t = t' ∨ t = t'.wake) := by
  rcases rested with same | woken
  · rw [same] at listed
    exact ⟨t,listed,.inl rfl⟩
  · rw [woken,List.getElem?_map] at listed
    obtain ⟨t',known,rfl⟩ := Option.map_eq_some_iff.mp listed
    exact ⟨t',known,.inr rfl⟩

theorem Rested.ended (rested : Rested s s') (listed : s'.tasks[i]? = some t) (finished : t.phase = .ended result) :
    s.tasks[i]? = some t := by
  obtain ⟨t',known,same | woken⟩ := rested.task listed
  · rw [same]
    exact known
  · subst woken
    cases shape : t'.phase with
    | suspended woken => simp [Task.wake,shape] at finished
    | ended result =>
      have same : t'.wake = t' := by simp [Task.wake,shape]
      rwa [same]

-- What a turn may do to the admission besides: wait() binds a leg.
theorem waitTurn_cases (name : String) (s : Scene) :
    (admitLeg name s.room = .ok none ∧ s.waitTurn name = (s.clearChanged,.suspended false)) ∨
    (∃ e, admitLeg name s.room = .error e ∧ s.waitTurn name = (s.clearChanged,.ended (.raised (some e)))) ∨
    (∃ leg, admitLeg name s.room = .ok (some leg) ∧
      s.waitTurn name = ({s with admission := {s.admission with changed := false, leg := some leg}},.ended (.leg leg))) := by
  unfold Scene.waitTurn
  dsimp only
  split
  · rename_i e refused
    exact .inr (.inl ⟨e,refused,rfl⟩)
  · rename_i waiting
    exact .inl ⟨waiting,rfl⟩
  · rename_i leg bound
    exact .inr (.inr ⟨leg,bound,rfl⟩)

-- What a turn of subscribe_audio() makes of its search.
def searched : Scene × Option Bool → Scene × Phase
  | (s,none) => (s,.ended (.raised none))
  | (s,some true) => (s,.ended .audio)
  | (s,some false) => (s.clearChanged,.suspended false)

theorem holds_known {room : Room} (held : Holds name room leg) : ∃ p, room.get leg.identity = some p ∧
    p.identity = leg.identity ∧ p.sid = leg.sid := by
  obtain ⟨p,alone,identity,sid,_⟩ := held
  have listed : p ∈ participants room := by
    rw [alone]
    exact List.mem_singleton_self p
  exact ⟨p,get_exact.mpr ⟨(List.mem_filter.mp listed).1,identity⟩,identity,sid⟩

theorem subscribeTurn_cases (name : String) (s : Scene) (sdk : Sdk) :
    (s.admission.closed = true ∧ s.subscribeTurn name sdk = (s,.ended (.raised (some ⟨"SIP audio unavailable"⟩)))) ∨
    (∃ e, (s.admission.closed = false ∧ s.validate name = .error e) ∧
      s.subscribeTurn name sdk = (s.clearChanged,.ended (.raised (some e)))) ∨
    (s.validate name = .ok () ∧ ∃ leg p, s.admission.leg = some leg ∧ s.room.get leg.identity = some p ∧
      p.sid = leg.sid ∧ s.subscribeTurn name sdk = searched (s.clearChanged.findAudio name p sdk p.publications)) := by
  unfold Scene.subscribeTurn
  split
  · rename_i closed
    exact .inl ⟨closed,rfl⟩
  · rename_i opened
    have same : s.clearChanged.validate name = s.validate name := rfl
    dsimp only
    rw [same]
    split
    · rename_i e refused
      exact .inr (.inl ⟨e,⟨by simpa using opened,refused⟩,rfl⟩)
    · rename_i valid
      obtain ⟨_,leg,bound,held⟩ := validate_ok.mp valid
      obtain ⟨p,known,_,sid⟩ := holds_known held
      have present : s.clearChanged.admission.leg.bind (fun leg => s.clearChanged.room.get leg.identity) = some p := by
        change s.admission.leg.bind (fun leg => s.room.get leg.identity) = some p
        rw [bound]
        exact known
      refine .inr (.inr ⟨valid,leg,p,bound,known,sid,?_⟩)
      rw [present]
      rfl

theorem Rested.length (rested : Rested s s') : s'.tasks.length = s.tasks.length := by
  rcases rested with same | woken
  · rw [same]
  · rw [woken,List.length_map]

theorem waitTurn_tasks : Rested s (s.waitTurn name).1 := by
  rcases waitTurn_cases name s with ⟨_,same⟩ | ⟨_,_,same⟩ | ⟨_,_,same⟩ <;> rw [same] <;> exact .inl rfl

theorem turn_tasks (call : Call) : Rested s (s.turn name sdk call).1 := by
  cases call with
  | wait => exact waitTurn_tasks
  | subscribeAudio => exact (rested_preserved name s).subscribeTurn (.inl rfl)

theorem begin_tasks (call : Call) : Rested s (s.begin name sdk call).1 := by
  cases call with
  | wait => exact waitTurn_tasks
  | subscribeAudio =>
    unfold Scene.begin
    dsimp only
    split
    · exact .inl rfl
    · exact (rested_preserved name s).subscribeTurn (.inl rfl)

theorem close_tasks : Rested s s.close := by
  unfold Scene.close
  split
  · exact .inl rfl
  · exact setChanged_tasks (s := {s with admission := _,log := _})

-- Where a call of the list comes from in a step.
inductive Origin (name : String) (s : Scene) (i : Nat) (t : Task) : Event → Prop where
  | kept (before : Task) : s.tasks[i]? = some before → t = before ∨ t = before.wake → Origin name s i t event
  | begun (call : Call) (sdk : Sdk) : i = s.tasks.length → t = ⟨call,(s.begin name sdk call).2,[s.room]⟩ →
      Origin name s i t (.call call sdk)
  | turned (call : Call) (sdk : Sdk) (seen : List Room) : s.tasks[i]? = some ⟨call,.suspended true,seen⟩ →
      t = ⟨call,(s.turn name sdk call).2,seen ++ [s.room]⟩ → Origin name s i t (.resume i sdk)
  | cancelled (call : Call) (woken : Bool) (seen : List Room) : s.tasks[i]? = some ⟨call,.suspended woken,seen⟩ →
      t = ⟨call,.ended .cancelled,seen⟩ → Origin name s i t (.cancel i)

theorem Rested.origin {event : Event} (rested : Rested s s') (listed : s'.tasks[i]? = some t) :
    Origin name s i t event := by
  obtain ⟨before,known,same⟩ := rested.task listed
  exact .kept before known same

theorem set_cases {tasks : List Task} (listed : (tasks.set j new)[i]? = some t) :
    (i = j ∧ t = new) ∨ (i ≠ j ∧ tasks[i]? = some t) := by
  rw [List.getElem?_set] at listed
  split at listed
  · rename_i same
    split at listed
    · exact .inl ⟨same.symm,(Option.some.inj listed).symm⟩
    · cases listed
  · rename_i apart
    exact .inr ⟨fun same => apart same.symm,listed⟩

theorem step_call (name : String) (s : Scene) (call : Call) (sdk : Sdk) : step name s (.call call sdk) =
    some {(s.begin name sdk call).1 with
      tasks := (s.begin name sdk call).1.tasks ++ [⟨call,(s.begin name sdk call).2,[s.room]⟩]} := rfl

theorem step_resume (next : step name s (.resume i sdk) = some s') : ∃ call seen,
    s.tasks[i]? = some ⟨call,.suspended true,seen⟩ ∧ s' = {(s.turn name sdk call).1 with
      tasks := (s.turn name sdk call).1.tasks.set i ⟨call,(s.turn name sdk call).2,seen ++ [s.room]⟩} := by
  unfold step at next
  dsimp only at next
  split at next
  · rename_i call seen known
    exact ⟨call,seen,known,(Option.some.inj next).symm⟩
  · cases next

theorem step_cancel (next : step name s (.cancel i) = some s') : ∃ call woken seen,
    s.tasks[i]? = some ⟨call,.suspended woken,seen⟩ ∧
      s' = {s with tasks := s.tasks.set i ⟨call,.ended .cancelled,seen⟩} := by
  unfold step at next
  dsimp only at next
  split at next
  · rename_i call woken seen known
    exact ⟨call,woken,seen,known,(Option.some.inj next).symm⟩
  · cases next

theorem step_task {event : Event} (next : step name s event = some s') (listed : s'.tasks[i]? = some t) :
    Origin name s i t event := by
  cases event with
  | room event removedFirst sdk =>
    exact ((rested_preserved name s).onRoom (fun held => held) (.inl rfl) next).origin listed
  | call call sdk =>
    rw [step_call] at next
    obtain rfl := Option.some.inj next
    have rested : Rested s (s.begin name sdk call).1 := begin_tasks call
    dsimp only at listed
    rcases Nat.lt_or_ge i (s.begin name sdk call).1.tasks.length with inside | past
    · rw [List.getElem?_append_left inside] at listed
      exact rested.origin listed
    · rw [List.getElem?_append_right past,List.getElem?_singleton] at listed
      split at listed
      · cases listed
        rw [rested.length] at *
        exact .begun call sdk (by omega) rfl
      · cases listed
  | resume j sdk =>
    obtain ⟨call,seen,known,rfl⟩ := step_resume next
    rcases set_cases listed with ⟨same,shape⟩ | ⟨_,other⟩
    · subst same
      exact .turned call sdk seen known shape
    · exact (turn_tasks call).origin other
  | cancel j =>
    obtain ⟨call,woken,seen,known,rfl⟩ := step_cancel next
    rcases set_cases listed with ⟨same,shape⟩ | ⟨_,other⟩
    · subst same
      exact .cancelled call woken seen known shape
    · exact .kept t other (.inl rfl)
  | close =>
    cases next
    exact close_tasks.origin listed

-- A step, for a property that looks at the log and the admission only.
structure Lasting (name : String) (P : Scene → Prop) : Prop extends Preserved name P where
  moving : ∀ {s : Scene} {room connected tasks}, P s → P {s with room := room, connected := connected, tasks := tasks}
  binding : ∀ {s : Scene} {leg}, P s → P {s with admission := {s.admission with changed := false, leg := some leg}}
  entering : ∀ {s : Scene}, P s → P (s.mark .entered)
  authorizing : ∀ {s : Scene}, P (s.mark .entered) →
    P {s.mark .entered with admission := {s.admission with audioAuthorized := true}}
  closing : ∀ {s : Scene}, P s → P s.close

theorem Lasting.waitTurn (lasting : Lasting name P) (held : P s) : P (s.waitTurn name).1 := by
  rcases waitTurn_cases name s with ⟨_,same⟩ | ⟨_,_,same⟩ | ⟨_,_,same⟩ <;> rw [same]
  · exact lasting.clear held
  · exact lasting.clear held
  · exact lasting.binding held

theorem Lasting.begin (lasting : Lasting name P) (held : P s) (call : Call) : P (s.begin name sdk call).1 := by
  cases call with
  | wait => exact lasting.waitTurn held
  | subscribeAudio =>
    have entered := lasting.entering held
    unfold Scene.begin
    dsimp only
    split
    · exact entered
    · exact lasting.subscribeTurn (lasting.authorizing entered)

theorem Lasting.turn (lasting : Lasting name P) (held : P s) (call : Call) : P (s.turn name sdk call).1 := by
  cases call with
  | wait => exact lasting.waitTurn held
  | subscribeAudio => exact lasting.subscribeTurn held

theorem Lasting.step {event : Event} (lasting : Lasting name P) (held : P s)
    (next : SipAdmission.step name s event = some s') : P s' := by
  cases event with
  | room event removedFirst sdk => exact lasting.onRoom lasting.moving held next
  | call call sdk =>
    rw [step_call] at next
    obtain rfl := Option.some.inj next
    exact lasting.moving (lasting.begin held call)
  | resume i sdk =>
    obtain ⟨call,seen,_,rfl⟩ := step_resume next
    exact lasting.moving (lasting.turn held call)
  | cancel i =>
    obtain ⟨call,woken,seen,_,rfl⟩ := step_cancel next
    exact lasting.moving held
  | close =>
    cases next
    exact lasting.closing held

theorem authorized_lasting (name : String) : Lasting name fun s => s.admission.audioAuthorized = true where
  set authorized := by rwa [setChanged_admission]
  clear authorized := authorized
  abort authorized := authorized
  request authorized _ := setSubscribed_within.authorized.trans authorized
  connect authorized := authorized
  moving authorized := authorized
  binding authorized := authorized
  entering authorized := authorized
  authorizing _ := rfl
  closing authorized := by
    unfold Scene.close
    split
    · exact authorized
    · simpa [Scene.mark,setChanged_admission] using authorized

-- A suspended subscribe_audio() has let the handlers subscribe.
def Begun (s : Scene) : Prop := ∀ (i : Nat) (t : Task), s.tasks[i]? = some t → t.call = .subscribeAudio →
  ∀ woken, t.phase = .suspended woken → s.admission.audioAuthorized = true

theorem initial_begun (room : Room) : Begun (.initial room) := by simp [Begun,Scene.initial]

theorem wake_call (t : Task) : t.wake.call = t.call := by
  unfold Task.wake
  split <;> rfl

theorem wake_suspended (woken : t.wake.phase = .suspended w) : ∃ w, t.phase = .suspended w := by
  cases shape : t.phase with
  | suspended w => exact ⟨w,rfl⟩
  | ended result => simp [Task.wake,shape] at woken

theorem begin_authorized (suspended : (s.begin name sdk .subscribeAudio).2 = .suspended woken) :
    (s.begin name sdk .subscribeAudio).1.admission.audioAuthorized = true := by
  unfold Scene.begin at suspended ⊢
  dsimp only at suspended ⊢
  split
  · rename_i e refused
    rw [refused] at suspended
    cases suspended
  · exact (authorized_lasting name).subscribeTurn rfl

theorem begun_step {event : Event} (begun : Begun s) (next : step name s event = some s') : Begun s' := by
  intro i t listed subscribing woken suspended
  have lasts : s.admission.audioAuthorized = true → s'.admission.audioAuthorized = true :=
    fun authorized => (authorized_lasting name).step authorized next
  cases step_task next listed with
  | kept before known same =>
    rcases same with rfl | rfl
    · exact lasts (begun i t known subscribing woken suspended)
    · obtain ⟨w,before'⟩ := wake_suspended suspended
      exact lasts (begun i before known ((wake_call before).symm.trans subscribing) w before')
  | begun call sdk _ shape =>
    subst shape
    cases subscribing
    rw [step_call] at next
    obtain rfl := Option.some.inj next
    exact begin_authorized suspended
  | turned call sdk seen known shape =>
    subst shape
    exact lasts (begun i _ known subscribing true rfl)
  | cancelled call w seen known shape =>
    subst shape
    cases suspended

-- A caller with a token, and an SDK that does what it is asked.
def callerLeg : SipLeg where
  identity := "sip_caller"
  sid := "PA_caller"
  routeToken := "zyxwvutsrqponmlkjihgfedcbaGFEDCBA9876543210"
  identity_plain := by decide
  sid_plain := by decide
  token_checked := by decide

def caller (track : Bool) : Participant :=
  ⟨callerLeg.identity,callerLeg.sid,.sip,[("route",callerLeg.routeToken)],[⟨"TR_1",.audio,.microphone,track⟩]⟩

def callerRoom (track : Bool) : Room := ⟨[caller track],by simp⟩

def steady : Sdk := ⟨fun _ => true,fun _ => false,fun _ => true⟩

def admitted (track : Bool) : Scene :=
  ⟨callerRoom track,true,{Admission.initial with leg := some callerLeg},[⟨.wait,.ended (.leg callerLeg),[callerRoom track]⟩],[]⟩

theorem caller_leg (track : Bool) : admitLeg "route" (callerRoom track) = .ok (some callerLeg) := by
  have alone : participants (callerRoom track) = [caller track] := rfl
  have shown : (caller track).get "route" = some callerLeg.routeToken := rfl
  have made : SipLeg.make (caller track).identity (caller track).sid callerLeg.routeToken = .ok callerLeg := make_own callerLeg
  unfold admitLeg
  rw [alone]
  dsimp only
  rw [shown]
  dsimp only
  rw [made]
  rfl

theorem caller_admitted (track : Bool) :
    Runs (step "route") Anything (.initial (callerRoom track)) [.call .wait steady] (admitted track) := by
  apply Runs.single trivial
  rcases waitTurn_cases "route" (.initial (callerRoom track)) with ⟨waiting,_⟩ | ⟨_,refused,_⟩ | ⟨leg,bound,shape⟩
  · cases (caller_leg track).symm.trans waiting
  · cases (caller_leg track).symm.trans refused
  · cases (caller_leg track).symm.trans bound
    rw [step_call,Scene.begin,shape]
    rfl

end AidaAgent.SipAdmission
