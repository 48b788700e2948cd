import AidaAgent.AdmissionAudio

namespace AidaAgent.SipAdmission
open JsonText Config Bootstrap Worker Transitions

variable {name : String} {s s' : Scene} {sdk : Sdk} {p : Participant} {publication : Publication} {room : Room}
  {i : Nat} {t : Task}

-- A participant keys its publications by SID.
def Keyed (room : Room) : Prop := ∀ p ∈ room.people, (p.publications.map (·.sid)).Nodup

def Sleeper (s : Scene) (i : Nat) (call : Call) : Prop :=
  ∃ woken seen, s.tasks[i]? = some ⟨call,.suspended woken,seen⟩

-- The worker makes one call at a time, and cancels a wait() when it closes.
def Promised (s : Scene) : Event → Prop
  | .room (.participantConnected p) _ _ => (p.publications.map (·.sid)).Nodup
  | .call call _ => (∀ i call, ¬ Sleeper s i call) ∧ (call = .wait → s.admission.closed = false)
  | .resume i _ => Sleeper s i .wait → s.admission.closed = false
  | _ => True

-- Nothing to bind in the room.
def Unready (name : String) (room : Room) : Prop := admitLeg name room = .ok none

-- The microphones of the bound participant are asked for, and none is heard.
def Unheard (s : Scene) : Prop := ∀ p ∈ s.room.people, ∀ publication ∈ p.publications,
  s.admission.boundAudio publication p = true →
    publication.sid ∈ s.admission.audioRequested ∧ publication.track = false

def Missing (s : Scene) : Prop := .abort ∉ s.log → s.admission.closed = false → Unheard s

-- What a suspended call may rely on while the flag is clear.
def Idle (name : String) (s : Scene) : Call → Prop
  | .wait => Unready name s.room
  | .subscribeAudio => Missing s

theorem setTrack_sids (p : Participant) (sid : String) (track : Bool) :
    (p.setTrack sid track).publications.map (·.sid) = p.publications.map (·.sid) := by
  unfold Participant.setTrack
  rw [List.map_map]
  apply List.map_congr_left
  intro q _
  simp only [Function.comp]
  split <;> rfl

theorem putPublication_nodup (distinct : (p.publications.map (·.sid)).Nodup) (publication : Publication) :
    ((p.putPublication publication).publications.map (·.sid)).Nodup := by
  unfold Participant.putPublication
  split
  · have same : (p.publications.map fun q => if q.sid = publication.sid then publication else q).map (·.sid) =
        p.publications.map (·.sid) := by
      rw [List.map_map]
      apply List.map_congr_left
      intro q _
      simp only [Function.comp]
      split
      · rename_i equal
        exact equal.symm
      · rfl
    rw [same]
    exact distinct
  · rename_i new
    rw [List.map_append,List.map_singleton]
    refine List.nodup_append.mpr ⟨distinct,by simp,?_⟩
    simpa using new

theorem keyed_put (keyed : Keyed room) (own : (p.publications.map (·.sid)).Nodup) : Keyed (room.put p) := by
  intro q member
  unfold Room.put at member
  split at member
  · obtain ⟨r,inside,rfl⟩ := List.mem_map.mp member
    unfold replace
    split
    · exact own
    · exact keyed r inside
  · rcases List.mem_append.mp member with old | new
    · exact keyed q old
    · rw [List.mem_singleton.mp new]
      exact own

theorem keyed_setTrack (keyed : Keyed room) (identity sid : String) (track : Bool) :
    Keyed (setTrack room identity sid track) := by
  unfold setTrack
  split
  · rename_i p known
    apply keyed_put keyed
    rw [setTrack_sids]
    exact keyed p (get_exact.mp known).1
  · exact keyed

theorem keyed_preserved (name : String) : Preserved name fun s => Keyed s.room where
  set keyed := by simpa using keyed
  clear keyed := keyed
  abort keyed := keyed
  request keyed _ := by
    unfold Scene.setSubscribed
    dsimp only
    split
    · simpa using keyed_setTrack keyed _ _ _
    · exact keyed
  connect keyed := keyed

theorem keyed_onRoom (keyed : Keyed s.room) (promised : Promised s (.room event removedFirst sdk))
    (next : s.onRoom name removedFirst sdk event = some s') : Keyed s'.room := by
  have kept := keyed_preserved name
  have gone : ∀ {room} identity, Keyed room → Keyed (room.remove identity) :=
    fun _ keyed q member => keyed q (List.mem_filter.mp member).1
  cases event with
  | participantConnected p =>
    cases next
    have put := keyed_put keyed promised
    split
    · exact put
    · exact kept.recheck (s := {s with room := s.room.put p}) put
  | participantDisconnected identity =>
    obtain ⟨p,_,next⟩ := Option.bind_eq_some_iff.mp next
    cases next
    dsimp only
    split
    · exact gone identity keyed
    · split
      · exact kept.participantDisconnected (s := {s with room := s.room.remove identity}) (gone identity keyed)
      · exact gone identity (kept.participantDisconnected keyed)
  | participantAttributesChanged identity attributes =>
    obtain ⟨p,known,next⟩ := Option.bind_eq_some_iff.mp next
    cases next
    have put : Keyed (s.room.put {p with attributes := attributes}) :=
      keyed_put keyed (keyed p (get_exact.mp known).1)
    dsimp only
    split
    · exact put
    · exact kept.recheck (s := {s with room := s.room.put {p with attributes := attributes}}) put
  | trackPublished identity publication =>
    obtain ⟨p,known,next⟩ := Option.bind_eq_some_iff.mp next
    cases next
    have put := keyed_put keyed (putPublication_nodup (keyed p (get_exact.mp known).1) publication)
    dsimp only
    split
    · exact put
    · exact kept.trackPublished (s := {s with room := s.room.put (p.putPublication publication)}) put
  | trackSubscribed identity sid | trackUnsubscribed identity sid =>
    obtain ⟨⟨p,publication⟩,found,next⟩ := Option.bind_eq_some_iff.mp next
    cases next
    have put : ∀ track, Keyed (s.room.put (p.setTrack sid track)) := by
      intro track
      apply keyed_put keyed
      rw [setTrack_sids]
      exact keyed p (get_exact.mp (publication_known found).1).1
    dsimp only
    split
    · simpa [Scene.abort,Scene.mark] using put _
    · exact put _
  | trackSubscriptionFailed identity sid =>
    obtain ⟨p,_,next⟩ := Option.bind_eq_some_iff.mp next
    cases next
    split <;> exact keyed
  | trackUnpublished identity sid =>
    obtain ⟨p,known,next⟩ := Option.bind_eq_some_iff.mp next
    cases next
    apply keyed_put keyed
    exact (keyed p (get_exact.mp known).1).sublist (List.filter_sublist.map _)
  | disconnected =>
    cases next
    dsimp only
    split <;> exact keyed

theorem unready_exact : Unready name room ↔
    (participants room).length ≤ 1 ∧ ∀ p ∈ participants room, p.get name = none := by
  unfold Unready admitLeg
  rcases participants room with _ | ⟨p,_ | ⟨q,rest⟩⟩
  · simp
  · cases shown : p.get name with
    | none => simp [shown]
    | some token =>
      refine iff_of_false (fun admitted => ?_) (by simp [shown])
      dsimp only at admitted
      rw [shown] at admitted
      dsimp only at admitted
      cases made : SipLeg.make p.identity p.sid token <;> rw [made] at admitted <;> cases admitted
  · refine iff_of_false (by simp) (by simp)

theorem unready_cores (same : cores room = cores room') (unready : Unready name room) : Unready name room' := by
  unfold Unready
  rw [← admitLeg_cores same]
  exact unready

theorem unready_remove (unready : Unready name room) (identity : String) : Unready name (room.remove identity) := by
  obtain ⟨few,bare⟩ := unready_exact.mp unready
  have fewer : List.Sublist (participants (room.remove identity)) (participants room) :=
    List.Sublist.filter _ List.filter_sublist
  exact unready_exact.mpr ⟨Nat.le_trans fewer.length_le few,fun p member => bare p (fewer.subset member)⟩

theorem setChanged_flag : s.setChanged.admission.changed = true := by rw [setChanged_admission]

theorem recheck_flag : (s.recheck name sdk).1.admission.changed = true := by
  unfold Scene.recheck
  dsimp only
  split
  · split <;> exact setChanged_flag
  · exact setChanged_flag

theorem setSubscribed_flag (set : s.admission.changed = true) :
    (s.setSubscribed publication p sdk).admission.changed = true := by
  unfold Scene.setSubscribed
  dsimp only
  split
  · exact setChanged_flag
  · exact set

theorem flag_handled (name : String) : Handled name fun s => s.admission.changed = true where
  set _ := setChanged_flag
  abort set := set
  request set _ := setSubscribed_flag set

-- Once audio is authorized, a publication sets the flag or ends the admission.
theorem trackPublished_told (opened : s.admission.closed = false) (authorized : s.admission.audioAuthorized = true) :
    (s.trackPublished name publication p sdk).1.admission.changed = true ∨
      .abort ∈ (s.trackPublished name publication p sdk).1.log := by
  have raised : (s.requestTrack name publication p sdk).2 = false →
      .abort ∈ (s.requestTrack name publication p sdk).1.log := by
    unfold Scene.requestTrack
    split
    · exact fun _ => List.mem_cons_self
    · split
      · dsimp only
        split
        · intro returned
          cases returned
        · exact fun _ => List.mem_cons_self
      · intro returned
        cases returned
  unfold Scene.trackPublished
  rw [if_neg (by simp [opened,authorized])]
  split
  · rename_i after shape
    rw [shape] at raised
    exact .inr (raised rfl)
  · exact .inl setChanged_flag

-- An event of the room does not clear the flag.
theorem onRoom_flag (next : s.onRoom name removedFirst sdk event = some s') (clear : s'.admission.changed = false) :
    s.admission.changed = false := by
  by_contra set
  have still := (flag_handled name).onRoom (fun held => held) (by simpa using set) next
  cases still.symm.trans clear

variable {removedFirst : Bool} {event : RoomEvent}

-- A participant that comes, or whose attributes change, sets the flag of an open admission.
theorem onRoom_rechecks (opened : s.admission.closed = false)
    (told : (∃ p, event = .participantConnected p) ∨ ∃ identity attributes, event = .participantAttributesChanged identity attributes)
    (next : s.onRoom name removedFirst sdk event = some s') : s'.admission.changed = true := by
  rcases told with ⟨p,rfl⟩ | ⟨identity,attributes,rfl⟩
  · cases next
    rw [if_neg (by simp [opened])]
    exact recheck_flag
  · obtain ⟨p,_,next⟩ := Option.bind_eq_some_iff.mp next
    cases next
    dsimp only
    rw [if_neg (by simp [opened])]
    exact recheck_flag

-- While a closed admission keeps its flag, only what sets no flag is left to check.
theorem unready_onRoom (shut : s.admission.closed = true → s.admission.changed = true)
    (unready : Unready name s.room) (next : s.onRoom name removedFirst sdk event = some s')
    (clear : s'.admission.changed = false) : Unready name s'.room := by
  have opened : s.admission.closed = false := by
    by_contra closed
    cases (shut (by simpa using closed)).symm.trans (onRoom_flag next clear)
  have moved : ∀ {identity p q}, s.room.get identity = some p → core q = core p → Unready name (s.room.put q) :=
    fun known same => unready_cores (put_cores known same).symm unready
  cases event with
  | participantConnected p => cases (onRoom_rechecks opened (.inl ⟨p,rfl⟩) next).symm.trans clear
  | participantDisconnected identity =>
    obtain ⟨p,_,next⟩ := Option.bind_eq_some_iff.mp next
    cases next
    have gone := unready_remove unready identity
    dsimp only at clear ⊢
    rw [if_neg (by simp [opened])] at clear ⊢
    split
    · rename_i first
      rw [if_pos first] at clear
      rcases participantDisconnected_cases name {s with room := s.room.remove identity} p sdk with
        ⟨_,raised | returned⟩ | ⟨_,other⟩
      · rw [raised]
        exact gone
      · rw [returned] at clear
        cases recheck_flag.symm.trans clear
      · rw [other] at clear
        cases recheck_flag.symm.trans clear
    · have within : Within s (s.participantDisconnected name p sdk).1 :=
        (within_preserved name s).participantDisconnected (Within.refl s)
      exact unready_remove (unready_cores within.people unready) identity
  | participantAttributesChanged identity attributes =>
    cases (onRoom_rechecks opened (.inr ⟨identity,attributes,rfl⟩) next).symm.trans clear
  | trackPublished identity publication =>
    obtain ⟨p,known,next⟩ := Option.bind_eq_some_iff.mp next
    cases next
    have published := moved known (putPublication_core p publication)
    dsimp only
    split
    · exact published
    · exact unready_cores ((within_preserved name _).trackPublished (Within.refl _)).people published
  | trackSubscribed identity sid | trackUnsubscribed identity sid =>
    obtain ⟨⟨p,publication⟩,found,next⟩ := Option.bind_eq_some_iff.mp next
    cases next
    have tracked := fun track => moved (publication_known found).1 (setTrack_core p sid track)
    dsimp only
    split
    · simpa [Scene.abort,Scene.mark] using tracked _
    · exact tracked _
  | trackSubscriptionFailed identity sid =>
    obtain ⟨p,_,next⟩ := Option.bind_eq_some_iff.mp next
    cases next
    split <;> exact unready
  | trackUnpublished identity sid =>
    obtain ⟨p,known,next⟩ := Option.bind_eq_some_iff.mp next
    cases next
    exact moved known rfl
  | disconnected =>
    cases next
    dsimp only
    split <;> exact unready

theorem boundAudio_core {a : Admission} (same : core q = core p) :
    a.boundAudio publication q = a.boundAudio publication p := by
  obtain ⟨who,which,_⟩ := core_same same
  unfold Admission.boundAudio
  rw [who,which]

-- A participant put in place of itself, with publications that are no news.
theorem unheard_put (unheard : Unheard s) (known : s.room.get identity = some p) (same : core q = core p)
    (old : ∀ new ∈ q.publications, s.admission.boundAudio new p = true →
      ∃ publication ∈ p.publications, s.admission.boundAudio publication p = true ∧ new.sid = publication.sid ∧
        (publication.track = false → new.track = false)) : Unheard {s with room := s.room.put q} := by
  intro r member new inside bound
  rcases put_member known (core_same same).1 member with rfl | ⟨present,_⟩
  · change s.admission.boundAudio new r = true at bound
    rw [boundAudio_core same] at bound
    obtain ⟨publication,listed,mine,equal,quiet⟩ := old new inside bound
    obtain ⟨asked,silent⟩ := unheard p (get_exact.mp known).1 publication listed mine
    rw [equal]
    exact ⟨asked,quiet silent⟩
  · exact unheard r present new inside bound

theorem setTrack_old {track : Bool} (member : new ∈ (p.setTrack sid track).publications) : ∃ old ∈ p.publications,
    new = if old.sid = sid then {old with track := track} else old := by
  obtain ⟨old,inside,same⟩ := List.mem_map.mp member
  exact ⟨old,inside,same.symm⟩

theorem aborted_handled (name : String) : Handled name fun s => .abort ∈ s.log where
  set aborted := by simpa using aborted
  abort _ := List.mem_cons_self
  request aborted _ := setSubscribed_within.log.subset aborted

theorem missing_onRoom (keyed : Keyed s.room) (shut : s.admission.closed = true → s.admission.changed = true)
    (authorized : s.admission.audioAuthorized = true) (missing : Missing s)
    (next : s.onRoom name removedFirst sdk event = some s') (clear : s'.admission.changed = false) : Missing s' := by
  intro silent _
  have opened : s.admission.closed = false := by
    by_contra closed
    cases (shut (by simpa using closed)).symm.trans (onRoom_flag next clear)
  have before : .abort ∉ s.log := fun aborted => silent ((aborted_handled name).onRoom (fun held => held) aborted next)
  have unheard := missing before opened
  -- _disconnected() ends the admission or sets the flag.
  have told : ∀ room p, (({s with room := room} : Scene).participantDisconnected name p sdk).1.admission.changed = true ∨
      .abort ∈ (({s with room := room} : Scene).participantDisconnected name p sdk).1.log := by
    intro room p
    rcases participantDisconnected_cases name {s with room := room} p sdk with ⟨_,raised | returned⟩ | ⟨_,other⟩
    · rw [raised]
      exact .inr List.mem_cons_self
    · rw [returned]
      exact .inl recheck_flag
    · rw [other]
      exact .inl recheck_flag
  cases event with
  | participantConnected p => cases (onRoom_rechecks opened (.inl ⟨p,rfl⟩) next).symm.trans clear
  | participantDisconnected identity =>
    obtain ⟨p,_,next⟩ := Option.bind_eq_some_iff.mp next
    cases next
    dsimp only at clear silent
    rw [if_neg (by simp [opened])] at clear silent
    split at clear
    · rename_i first
      rw [if_pos first] at silent
      rcases told (s.room.remove identity) p with flag | aborted
      · cases flag.symm.trans clear
      · exact absurd aborted silent
    · rename_i last
      rw [if_neg last] at silent
      rcases told s.room p with flag | aborted
      · cases flag.symm.trans clear
      · exact absurd aborted silent
  | participantAttributesChanged identity attributes =>
    cases (onRoom_rechecks opened (.inr ⟨identity,attributes,rfl⟩) next).symm.trans clear
  | trackPublished identity publication =>
    obtain ⟨p,_,next⟩ := Option.bind_eq_some_iff.mp next
    cases next
    dsimp only at clear silent
    rw [if_neg (by simp [opened])] at clear silent
    rcases @trackPublished_told name {s with room := s.room.put (p.putPublication publication)} sdk
      (p.putPublication publication) publication opened authorized with flag | aborted
    · cases flag.symm.trans clear
    · exact absurd aborted silent
  | trackSubscribed identity sid =>
    obtain ⟨⟨p,publication⟩,found,next⟩ := Option.bind_eq_some_iff.mp next
    cases next
    obtain ⟨known,listed,own⟩ := publication_known found
    dsimp only at clear ⊢
    split
    · rename_i heard
      rw [if_pos heard] at clear
      cases setChanged_flag.symm.trans clear
    · rename_i stranger
      apply unheard_put unheard known (setTrack_core p sid true)
      intro new member bound
      obtain ⟨old,inside,rfl⟩ := setTrack_old member
      split at bound
      · rename_i same
        have equal := List.inj_on_of_nodup_map (keyed p (get_exact.mp known).1) inside listed (same.trans own.symm)
        subst equal
        exact absurd ⟨opened,bound⟩ stranger
      · rename_i other
        rw [if_neg other]
        exact ⟨old,inside,bound,rfl,id⟩
  | trackUnsubscribed identity sid =>
    obtain ⟨⟨p,publication⟩,found,next⟩ := Option.bind_eq_some_iff.mp next
    cases next
    dsimp only at silent ⊢
    split
    · rename_i lost
      rw [if_pos lost] at silent
      exact absurd List.mem_cons_self silent
    · apply unheard_put unheard (publication_known found).1 (setTrack_core p sid false)
      intro new member bound
      obtain ⟨old,inside,rfl⟩ := setTrack_old member
      split at bound
      · rename_i same
        rw [if_pos same]
        exact ⟨old,inside,bound,rfl,fun _ => rfl⟩
      · rename_i other
        rw [if_neg other]
        exact ⟨old,inside,bound,rfl,id⟩
  | trackSubscriptionFailed identity sid =>
    obtain ⟨p,_,next⟩ := Option.bind_eq_some_iff.mp next
    cases next
    split
    · rename_i failed
      rw [if_pos failed] at silent
      exact absurd List.mem_cons_self silent
    · exact unheard
  | trackUnpublished identity sid =>
    obtain ⟨p,known,next⟩ := Option.bind_eq_some_iff.mp next
    cases next
    apply unheard_put (q := {p with publications := p.publications.filter (·.sid ≠ sid)}) unheard known rfl
    intro new member bound
    exact ⟨new,(List.mem_filter.mp member).1,bound,rfl,id⟩
  | disconnected =>
    cases next
    dsimp only at silent
    rw [if_neg (by simp [opened])] at silent
    exact absurd List.mem_cons_self silent

-- A request that is answered with a track at once makes the search succeed.
theorem setTrack_heard (known : s.room.get p.identity = some p) (listed : publication ∈ p.publications) :
    hasTrack (setTrack s.room p.identity publication.sid true) p.identity publication = true := by
  have who : (p.setTrack publication.sid true).identity = p.identity := rfl
  unfold setTrack
  rw [known]
  refine hasTrack_exact.mpr ⟨p.setTrack publication.sid true,get_exact.mpr ⟨?_,who⟩,?_⟩
  · rw [put_people known who]
    refine List.mem_map.mpr ⟨p,(get_exact.mp known).1,?_⟩
    unfold replace
    rw [if_pos who.symm]
  · exact List.mem_map.mpr ⟨publication,listed,by rw [if_pos rfl]⟩

theorem trackPublished_room (known : s.room.get p.identity = some p) (listed : publication ∈ p.publications) :
    (s.trackPublished name publication p sdk).1.room = s.room ∨ (s.admission.boundAudio publication p = true ∧
      hasTrack (s.trackPublished name publication p sdk).1.room p.identity publication = true) := by
  have requested : (s.requestTrack name publication p sdk).1.room = s.room ∨
      (s.admission.boundAudio publication p = true ∧
        hasTrack (s.requestTrack name publication p sdk).1.room p.identity publication = true) := by
    have asked : (s.setSubscribed publication p sdk).room = s.room ∨
        hasTrack (s.setSubscribed publication p sdk).room p.identity publication = true := by
      unfold Scene.setSubscribed
      dsimp only
      split
      · rw [setChanged_room]
        exact .inr (setTrack_heard known listed)
      · exact .inl rfl
    unfold Scene.requestTrack
    split
    · exact .inl rfl
    · split
      · rename_i asks
        dsimp only
        split
        · exact asked.imp id fun heard => ⟨asks.1,heard⟩
        · exact asked.imp id fun heard => ⟨asks.1,heard⟩
      · exact .inl rfl
  unfold Scene.trackPublished
  split
  · exact .inl rfl
  · split
    · rename_i after raised
      rwa [raised] at requested
    · rename_i after returned
      rw [returned] at requested
      simpa using requested

theorem findAudio_missed (publications : List Publication) (listed : ∀ publication ∈ publications, publication ∈ p.publications)
    (known : s.room.get p.identity = some p) (valid : s.validate name = .ok ())
    (authorized : s.admission.audioAuthorized = true)
    (missed : s.findAudio name p sdk publications = (s',some false)) : s'.room = s.room ∧
      ∀ publication ∈ publications, s.admission.boundAudio publication p = true →
        publication.sid ∈ s'.admission.audioRequested ∧ publication.track = false := by
  induction publications generalizing s with
  | nil =>
    cases missed
    exact ⟨rfl,by simp⟩
  | cons publication rest ih =>
    obtain ⟨mine,others⟩ := List.forall_mem_cons.mp listed
    rw [Scene.findAudio] at missed
    have within := trackPublished_within name s publication p sdk
    have room := @trackPublished_room name s sdk p publication known mine
    have asked := fun bound => @trackPublished_asked name s sdk p publication valid authorized bound
    split at missed
    · cases missed
    · rename_i after returned
      rw [returned] at within room asked
      split at missed
      · cases missed
      · rename_i silent
        rw [within.bound] at silent
        have same : after.room = s.room := room.resolve_right silent
        have later := ih others (by rw [same]; exact known) (within.valid valid) (within.authorized.trans authorized) missed
        have rest_ : Within after s' := by
          have found := findAudio_within name after p sdk rest
          rwa [missed] at found
        refine ⟨later.1.trans same,List.forall_mem_cons.mpr ⟨fun bound => ?_,fun other member bound => ?_⟩⟩
        · refine ⟨rest_.asked _ (asked bound),?_⟩
          by_contra track
          apply silent
          refine ⟨bound,hasTrack_exact.mpr ⟨p,by rw [same]; exact known,?_⟩⟩
          have own : {publication with track := true} = publication := by
            have heard : publication.track = true := by simpa using track
            rw [← heard]
          rw [own]
          exact mine
        · exact later.2 other member (by rw [within.bound]; exact bound)

theorem subscribeTurn_missed (authorized : s.admission.audioAuthorized = true)
    (suspended : (s.subscribeTurn name sdk).2 = .suspended woken) : Unheard (s.subscribeTurn name sdk).1 := by
  rcases subscribeTurn_cases name s sdk with ⟨_,shape⟩ | ⟨e,_,shape⟩ | ⟨valid,leg,p,bound,known,_,shape⟩
  · rw [shape] at suspended
    cases suspended
  · rw [shape] at suspended
    cases suspended
  · have within := findAudio_within name s.clearChanged p sdk p.publications
    rw [shape] at suspended ⊢
    match found : s.clearChanged.findAudio name p sdk p.publications with
    | (after,none) | (after,some true) =>
      rw [found] at suspended
      cases suspended
    | (after,some false) =>
      rw [found] at within
      have who := (get_exact.mp known).2
      obtain ⟨same,facts⟩ := findAudio_missed (s := s.clearChanged) p.publications (fun _ member => member)
        (by rw [who]; exact known) valid authorized found
      intro q member publication listed mine
      change q ∈ after.room.people at member
      change after.admission.boundAudio publication q = true at mine
      rw [within.bound] at mine
      obtain ⟨other,own,identity,_⟩ := boundAudio_exact.mp mine
      cases bound.symm.trans own
      rw [same] at member
      obtain rfl := get_unique known member (identity.trans who.symm)
      exact facts publication listed mine

theorem rested_sleeper (rested : Rested s s') (asleep : Sleeper s' i call) : Sleeper s i call := by
  obtain ⟨woken,seen,listed⟩ := asleep
  obtain ⟨⟨call',phase,seen'⟩,known,same | woke⟩ := rested.task listed
  · cases same
    exact ⟨_,_,known⟩
  · cases phase with
    | suspended w =>
      cases woke
      exact ⟨w,_,known⟩
    | ended result => cases woke

-- A new call, or one that goes on, is the only one that sleeps.
theorem call_sleeper (promised : Promised s (.call begun sdk)) (next : step name s (.call begun sdk) = some s')
    (asleep : Sleeper s' i call) : i = s.tasks.length ∧ call = begun ∧
      ∃ woken, (s.begin name sdk call).2 = .suspended woken := by
  obtain ⟨woken,seen,listed⟩ := asleep
  rw [step_call] at next
  obtain rfl := Option.some.inj next
  have rested : Rested s (s.begin name sdk begun).1 := begin_tasks begun
  dsimp only at listed
  rcases Nat.lt_or_ge i (s.begin name sdk begun).1.tasks.length with inside | past
  · rw [List.getElem?_append_left inside] at listed
    exact absurd (rested_sleeper rested ⟨woken,seen,listed⟩) (promised.1 i call)
  · rw [List.getElem?_append_right past,List.getElem?_singleton] at listed
    split at listed
    · have shape := Option.some.inj listed
      have own : call = begun := (congrArg Task.call shape).symm
      rw [rested.length] at *
      rw [own]
      exact ⟨by omega,rfl,woken,congrArg Task.phase shape⟩
    · cases listed

structure Watched (name : String) (s : Scene) : Prop where
  keyed : Keyed s.room
  alone : ∀ {i j one two}, Sleeper s i one → Sleeper s j two → i = j
  shut : s.admission.closed = true → s.admission.changed = true
  begun : Begun s
  idle : s.admission.changed = false → ∀ {i call}, Sleeper s i call → Idle name s call

theorem resume_sleeper (watched : Watched name s) (next : step name s (.resume j sdk) = some s')
    (asleep : Sleeper s' i call) : i = j ∧ Sleeper s j call ∧ ∃ woken, (s.turn name sdk call).2 = .suspended woken := by
  obtain ⟨woken,seen,listed⟩ := asleep
  obtain ⟨turned,before,known,rfl⟩ := step_resume next
  rcases set_cases listed with ⟨same,shape⟩ | ⟨apart,other⟩
  · have own : call = turned := congrArg Task.call shape
    rw [own]
    exact ⟨same,⟨true,before,known⟩,woken,(congrArg Task.phase shape).symm⟩
  · have still := rested_sleeper (turn_tasks turned) ⟨woken,seen,other⟩
    exact absurd (watched.alone still ⟨true,before,known⟩) apart

theorem begin_keyed (keyed : Keyed s.room) (call : Call) : Keyed (s.begin name sdk call).1.room := by
  cases call with
  | wait =>
    rcases waitTurn_cases name s with ⟨_,shape⟩ | ⟨_,_,shape⟩ | ⟨_,_,shape⟩ <;> rw [Scene.begin,shape] <;> exact keyed
  | subscribeAudio =>
    unfold Scene.begin
    dsimp only
    split
    · exact keyed
    · exact (keyed_preserved name).subscribeTurn keyed

theorem turn_keyed (keyed : Keyed s.room) (call : Call) : Keyed (s.turn name sdk call).1.room := by
  cases call with
  | wait =>
    have begun : Keyed (s.begin name sdk .wait).1.room := begin_keyed keyed .wait
    exact begun
  | subscribeAudio => exact (keyed_preserved name).subscribeTurn keyed

theorem opened_preserved (name : String) : Preserved name fun s => s.admission.closed = false where
  set opened := setChanged_within.closed.trans opened
  clear opened := opened
  abort opened := opened
  request opened _ := setSubscribed_within.closed.trans opened
  connect opened := opened

theorem waitTurn_opened (opened : s.admission.closed = false) : (s.waitTurn name).1.admission.closed = false := by
  rcases waitTurn_cases name s with ⟨_,shape⟩ | ⟨_,_,shape⟩ | ⟨_,_,shape⟩ <;> rw [shape] <;> exact opened

-- In a closed admission subscribe_audio() leaves the flag alone.
theorem turn_shut (shut : s.admission.closed = true → s.admission.changed = true)
    (promised : call = .wait → s.admission.closed = false) (closed : (s.turn name sdk call).1.admission.closed = true) :
    (s.turn name sdk call).1.admission.changed = true := by
  cases call with
  | wait => cases (waitTurn_opened (promised rfl)).symm.trans closed
  | subscribeAudio =>
    have before : s.admission.closed = true := by
      by_contra opened
      have still : (s.subscribeTurn name sdk).1.admission.closed = false :=
        (opened_preserved name).subscribeTurn (by simpa using opened)
      cases still.symm.trans closed
    change (s.subscribeTurn name sdk).1.admission.changed = true
    rcases subscribeTurn_cases name s sdk with ⟨_,shape⟩ | ⟨e,⟨opened,_⟩,_⟩ | ⟨valid,_⟩
    · rw [shape]
      exact shut before
    · cases opened.symm.trans before
    · cases (validate_ok.mp valid).1.symm.trans before

theorem begin_shut (shut : s.admission.closed = true → s.admission.changed = true)
    (promised : call = .wait → s.admission.closed = false) (closed : (s.begin name sdk call).1.admission.closed = true) :
    (s.begin name sdk call).1.admission.changed = true := by
  cases call with
  | wait => cases (waitTurn_opened (promised rfl)).symm.trans closed
  | subscribeAudio =>
    unfold Scene.begin at closed ⊢
    dsimp only at closed ⊢
    split
    · rename_i e refused
      rw [refused] at closed
      exact shut closed
    · rename_i valid
      rw [valid] at closed
      exact @turn_shut name _ sdk .subscribeAudio shut (by simp) closed

theorem waitTurn_unready (suspended : (s.waitTurn name).2 = .suspended woken) : Unready name (s.waitTurn name).1.room := by
  rcases waitTurn_cases name s with ⟨waiting,shape⟩ | ⟨_,_,shape⟩ | ⟨_,_,shape⟩ <;> rw [shape] at suspended ⊢
  · exact waiting
  · cases suspended
  · cases suspended

theorem turn_idle (authorized : call = .subscribeAudio → s.admission.audioAuthorized = true)
    (suspended : (s.turn name sdk call).2 = .suspended woken) : Idle name (s.turn name sdk call).1 call := by
  cases call with
  | wait => exact waitTurn_unready suspended
  | subscribeAudio => exact fun _ _ => subscribeTurn_missed (authorized rfl) suspended

theorem begin_idle (suspended : (s.begin name sdk call).2 = .suspended woken) : Idle name (s.begin name sdk call).1 call := by
  cases call with
  | wait => exact waitTurn_unready suspended
  | subscribeAudio =>
    intro _ _
    unfold Scene.begin at suspended ⊢
    dsimp only at suspended ⊢
    split
    · rename_i e refused
      rw [refused] at suspended
      cases suspended
    · rename_i valid
      rw [valid] at suspended
      exact subscribeTurn_missed rfl suspended

theorem idle_tasks (idle : Idle name s call) (tasks : List Task) : Idle name {s with tasks := tasks} call := by
  cases call with
  | wait => exact idle
  | subscribeAudio => exact idle

theorem watched_room (watched : Watched name s) (promised : Promised s (.room event removedFirst sdk))
    (next : s.onRoom name removedFirst sdk event = some s') : Watched name s' := by
  have rested : Rested s s' := (rested_preserved name s).onRoom (fun held => held) (.inl rfl) next
  refine ⟨keyed_onRoom watched.keyed promised next,fun one two => ?_,fun closed => ?_,
    @begun_step name s s' (.room event removedFirst sdk) watched.begun next,fun clear {i call} asleep => ?_⟩
  · exact watched.alone (rested_sleeper rested one) (rested_sleeper rested two)
  · have before : s.admission.closed = true := by
      by_contra opened
      have still := (opened_preserved name).onRoom (fun held => held) (by simpa using opened) next
      cases still.symm.trans closed
    exact (flag_handled name).onRoom (fun held => held) (watched.shut before) next
  · have before := rested_sleeper rested asleep
    have idle := watched.idle (onRoom_flag next clear) before
    obtain ⟨woken,seen,listed⟩ := before
    cases call with
    | wait => exact unready_onRoom watched.shut idle next clear
    | subscribeAudio =>
      exact missing_onRoom watched.keyed watched.shut (watched.begun i _ listed rfl woken rfl) idle next clear

theorem watched_step {event : Event} (watched : Watched name s) (promised : Promised s event)
    (next : step name s event = some s') : Watched name s' := by
  have begun := begun_step watched.begun next
  cases event with
  | room event removedFirst sdk => exact watched_room watched promised next
  | call call sdk =>
    have asleep : ∀ {i other}, Sleeper s' i other → _ := fun asleep => call_sleeper promised next asleep
    refine ⟨?_,fun one two => (asleep one).1.trans (asleep two).1.symm,?_,begun,fun _ {i other} sleeper => ?_⟩
    · rw [step_call] at next
      obtain rfl := Option.some.inj next
      exact begin_keyed watched.keyed call
    · rw [step_call] at next
      obtain rfl := Option.some.inj next
      exact begin_shut watched.shut promised.2
    · obtain ⟨_,rfl,woken,suspended⟩ := asleep sleeper
      rw [step_call] at next
      obtain rfl := Option.some.inj next
      exact idle_tasks (begin_idle suspended) _
  | resume j sdk =>
    have asleep : ∀ {i other}, Sleeper s' i other → _ := fun asleep => resume_sleeper watched next asleep
    refine ⟨?_,fun one two => (asleep one).1.trans (asleep two).1.symm,?_,begun,fun _ {i other} sleeper => ?_⟩
    · obtain ⟨call,seen,_,rfl⟩ := step_resume next
      exact turn_keyed watched.keyed call
    · obtain ⟨call,seen,known,rfl⟩ := step_resume next
      exact turn_shut watched.shut fun same => promised (by subst same; exact ⟨true,seen,known⟩)
    · obtain ⟨_,before,woken,suspended⟩ := asleep sleeper
      obtain ⟨call,seen,known,rfl⟩ := step_resume next
      obtain ⟨w,seen',known'⟩ := before
      cases known.symm.trans known'
      exact idle_tasks (turn_idle (fun same => watched.begun j _ known same true rfl) suspended) _
  | cancel j =>
    obtain ⟨call,woken,seen,known,rfl⟩ := step_cancel next
    have before : ∀ {i other}, Sleeper {s with tasks := s.tasks.set j ⟨call,.ended .cancelled,seen⟩} i other →
        Sleeper s i other := by
      intro i other asleep
      obtain ⟨w,seen',listed⟩ := asleep
      rcases set_cases listed with ⟨_,shape⟩ | ⟨_,old⟩
      · cases shape
      · exact ⟨w,seen',old⟩
    exact ⟨watched.keyed,fun one two => watched.alone (before one) (before two),watched.shut,begun,
      fun clear {_ _} asleep => idle_tasks (watched.idle clear (before asleep)) _⟩
  | close =>
    cases next
    have set : s.close.admission.changed = true := by
      unfold Scene.close
      split
      · rename_i closed
        exact watched.shut closed
      · exact setChanged_flag
    have room : s.close.room = s.room := by
      unfold Scene.close
      split
      · rfl
      · simp [Scene.mark]
    refine ⟨by rw [room]; exact watched.keyed,fun one two => ?_,fun _ => set,begun,fun clear => ?_⟩
    · exact watched.alone (rested_sleeper close_tasks one) (rested_sleeper close_tasks two)
    · cases set.symm.trans clear

theorem initial_watched (keyed : Keyed room) : Watched name (.initial room) := by
  refine ⟨keyed,fun one => ?_,by simp [Scene.initial,Admission.initial],initial_begun room,fun _ {i call} asleep => ?_⟩
  · obtain ⟨_,_,listed⟩ := one
    cases listed
  · obtain ⟨_,_,listed⟩ := asleep
    cases listed

theorem no_lost_waking (keyed : Keyed room) (path : Runs (step name) Promised (.initial room) events s)
    (clear : s.admission.changed = false) :
    (∀ i, Sleeper s i .wait → (participants s.room).length ≤ 1 ∧ ∀ p ∈ participants s.room, p.get name = none) ∧
    (∀ i, Sleeper s i .subscribeAudio → .abort ∉ s.log → s.admission.closed = false →
      ∀ p ∈ s.room.people, ∀ publication ∈ p.publications, publication.kind = .audio → publication.source = .microphone →
        (∃ leg, s.admission.leg = some leg ∧ p.identity = leg.identity ∧ p.sid = leg.sid) →
          publication.sid ∈ s.admission.audioRequested ∧ publication.track = false) := by
  have watched := path.invariant (fun _ _ _ known promised next => watched_step known promised next) (initial_watched keyed)
  constructor
  · exact fun i asleep => unready_exact.mp (watched.idle clear asleep)
  · intro i asleep silent opened p member publication listed audio microphone mine
    obtain ⟨leg,bound,who,which⟩ := mine
    have heard := boundAudio_exact.mpr ⟨leg,bound,who,which,audio,microphone⟩
    exact watched.idle clear asleep silent opened p member publication listed heard

theorem awake (finished : ∀ t ∈ s.tasks, ∃ result, t.phase = .ended result) : ¬ Sleeper s i call := by
  intro asleep
  obtain ⟨woken,seen,listed⟩ := asleep
  obtain ⟨result,shape⟩ := finished _ (List.mem_of_getElem? listed)
  cases shape

theorem caller_waking : ∃ s, Runs (step "route") Promised (.initial (callerRoom false))
      [.call .wait steady,.call .subscribeAudio steady] s ∧ Sleeper s 1 .subscribeAudio ∧
    "TR_1" ∈ s.admission.audioRequested := by
  have keyed : Keyed (callerRoom false) := by
    intro p member
    rw [List.mem_singleton.mp member]
    decide
  obtain ⟨first,_,next,rest⟩ := (caller_admitted false).uncons
  cases rest.nil_ends
  have admitted_ : Runs (step "route") Promised (.initial (callerRoom false)) [.call .wait steady] (admitted false) := by
    apply Runs.single _ next
    exact ⟨fun _ _ => awake (by simp [Scene.initial]),fun _ => rfl⟩
  have once : Promised (admitted false) (.call .subscribeAudio steady) :=
    ⟨fun _ _ => awake (by simp [admitted]),by simp⟩
  have path := Runs.step admitted_ once rfl
  have asleep := (no_lost_waking keyed path rfl).2 1 ⟨false,_,rfl⟩
  refine ⟨_,path,⟨false,_,rfl⟩,(asleep ?_ rfl (caller false) List.mem_cons_self _ List.mem_cons_self rfl rfl ?_).1⟩
  · intro aborted
    cases aborted with
    | tail _ rest => cases rest with
      | tail _ none_ => cases none_
  · exact ⟨callerLeg,rfl,rfl,rfl⟩

end AidaAgent.SipAdmission
