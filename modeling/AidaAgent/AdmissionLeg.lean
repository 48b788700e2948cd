import AidaAgent.SipAdmissionSteps

namespace AidaAgent.SipAdmission
open JsonText Config Bootstrap Worker Transitions

variable {name : String} {s s' : Scene} {sdk : Sdk} {p : Participant} {publication : Publication} {room : Room}
  {i : Nat} {t : Task}

-- The first room that a call of wait() could not pass over, and what it made of it.
def Decided (name : String) (seen : List Room) (answer : Checked (Option SipLeg)) : Prop :=
  ∃ front last, seen = front ++ [last] ∧ (∀ room ∈ front, admitLeg name room = .ok none) ∧ admitLeg name last = answer

def Polled (name : String) (t : Task) : Prop :=
  match t.phase with
  | .suspended _ | .ended .cancelled => ∀ room ∈ t.seen, admitLeg name room = .ok none
  | .ended (.leg leg) => Decided name t.seen (.ok (some leg))
  | .ended (.raised (some e)) => Decided name t.seen (.error e)
  | .ended (.raised none) | .ended .audio => False

def Waits (name : String) (s : Scene) : Prop :=
  ∀ (i : Nat) (t : Task), s.tasks[i]? = some t → t.call = .wait → Polled name t

theorem waitTurn_polled (passed : ∀ room ∈ seen, admitLeg name room = .ok none) :
    Polled name ⟨.wait,(s.waitTurn name).2,seen ++ [s.room]⟩ := by
  rcases waitTurn_cases name s with ⟨waiting,shape⟩ | ⟨e,refused,shape⟩ | ⟨leg,bound,shape⟩ <;> rw [shape]
  · intro room member
    rcases List.mem_append.mp member with earlier | last
    · exact passed room earlier
    · rw [List.mem_singleton.mp last]
      exact waiting
  · exact ⟨seen,s.room,rfl,passed,refused⟩
  · exact ⟨seen,s.room,rfl,passed,bound⟩

theorem waits_step {event : Event} (waits : Waits name s) (next : step name s event = some s') : Waits name s' := by
  intro i t listed waiting
  cases step_task next listed with
  | kept before known same =>
    rcases same with rfl | rfl
    · exact waits i t known waiting
    · have polled := waits i before known ((wake_call before).symm.trans waiting)
      unfold Task.wake
      split
      · rename_i woken shape
        rw [Polled,shape] at polled
        exact polled
      · exact polled
  | begun call sdk _ shape =>
    subst shape
    cases waiting
    have none_ : ∀ room ∈ ([] : List Room), admitLeg name room = .ok none := by simp
    exact waitTurn_polled none_
  | turned call sdk seen known shape =>
    subst shape
    cases waiting
    exact waitTurn_polled (waits i _ known rfl)
  | cancelled call woken seen known shape =>
    subst shape
    exact waits i ⟨call,.suspended woken,seen⟩ known waiting

-- What the contract makes of the rooms that a call of wait() finds. An empty token
-- counts as missing.
inductive Outcome where
  | waiting
  | refused
  | bound (identity sid token : String)
  deriving DecidableEq, Repr

def verdict (name : String) (room : Room) : Outcome :=
  match participants room with
  | [] => .waiting
  | [p] =>
    match p.get name with
    | none => .waiting
    | some token =>
      if token = "" then .waiting
      else if isPlainName p.identity && isPlainName p.sid && (credential (.str token)).isOk then
        .bound p.identity p.sid token
      else .refused
  | _ => .refused

def contract (name : String) (seen : List Room) : Outcome :=
  ((seen.map (verdict name)).find? (· ≠ .waiting)).getD .waiting

def outcomeOf : Checked (Option SipLeg) → Outcome
  | .ok none => .waiting
  | .ok (some leg) => .bound leg.identity leg.sid leg.routeToken
  | .error _ => .refused

-- What the code makes of them.
def Phase.outcome : Phase → Option Outcome
  | .suspended _ | .ended .cancelled => some .waiting
  | .ended (.leg leg) => some (.bound leg.identity leg.sid leg.routeToken)
  | .ended (.raised (some _)) => some .refused
  | .ended (.raised none) | .ended .audio => none

def EmptyToken (name : String) (room : Room) : Prop := ∃ p, participants room = [p] ∧ p.get name = some ""

theorem make_outcome (identity sid token : String) : outcomeOf ((SipLeg.make identity sid token).map some) =
    if isPlainName identity && isPlainName sid && (credential (.str token)).isOk then .bound identity sid token
    else .refused := by
  cases made : SipLeg.make identity sid token with
  | ok leg =>
    obtain ⟨who,which,own⟩ := make_exact made
    subst who which own
    rw [leg.identity_plain,leg.sid_plain,leg.token_checked]
    rfl
  | error e =>
    rw [if_neg]
    · rfl
    · intro valid
      simp only [Bool.and_eq_true] at valid
      unfold SipLeg.make at made
      rw [dif_pos valid.1] at made
      split at made
      · rename_i refused
        rw [refused] at valid
        cases valid.2
      · cases made

theorem empty_refused (identity sid : String) : outcomeOf ((SipLeg.make identity sid "").map some) = .refused := by
  rw [make_outcome]
  have checked : (credential (.str "")).isOk = false := by decide
  rw [checked,Bool.and_false]
  rfl

-- Room by room, the code and the contract part at an empty token only.
theorem verdict_exact (given : ¬ EmptyToken name room) : verdict name room = outcomeOf (admitLeg name room) := by
  unfold verdict admitLeg
  rcases alone : participants room with _ | ⟨p,_ | ⟨q,rest⟩⟩
  · rfl
  · dsimp only
    cases shown : p.get name with
    | none => rfl
    | some token =>
      dsimp only
      rw [make_outcome,if_neg fun empty => given ⟨p,alone,by rw [shown,empty]⟩]
  · rfl

theorem verdict_empty (empty : EmptyToken name room) : verdict name room = .waiting ∧
    outcomeOf (admitLeg name room) = .refused := by
  obtain ⟨p,alone,shown⟩ := empty
  unfold verdict admitLeg
  rw [alone]
  dsimp only
  rw [shown]
  exact ⟨rfl,empty_refused p.identity p.sid⟩

theorem passed_given (passed : admitLeg name room = .ok none) : ¬ EmptyToken name room := by
  intro empty
  have refused := (verdict_empty empty).2
  rw [passed] at refused
  cases refused

theorem contract_passed (passed : ∀ room ∈ front, admitLeg name room = .ok none) (rest : List Room) :
    contract name (front ++ rest) = contract name rest := by
  have none_ : (front.map (verdict name)).find? (· ≠ .waiting) = none := by
    apply List.find?_eq_none.mpr
    intro verdict_ member
    obtain ⟨room,inside,rfl⟩ := List.mem_map.mp member
    rw [verdict_exact (passed_given (passed room inside)),passed room inside]
    simp [outcomeOf]
  unfold contract
  rw [List.map_append,List.find?_append,none_,Option.none_or]

theorem contract_last (name : String) (room : Room) : contract name [room] = verdict name room := by
  unfold contract
  rw [List.map_singleton,List.find?_singleton]
  split
  · rfl
  · rename_i waiting
    simp only [ne_eq,decide_not,Bool.not_eq_true',decide_eq_false_iff_not,not_not] at waiting
    exact waiting.symm

theorem decided_outcome (decided : Decided name seen answer) :
    outcomeOf answer = contract name seen ↔ ∀ room ∈ seen, ¬ EmptyToken name room := by
  obtain ⟨front,last,rfl,passed,here⟩ := decided
  rw [contract_passed passed,contract_last,← here]
  constructor
  · intro same room member empty
    rcases List.mem_append.mp member with earlier | at_
    · exact passed_given (passed room earlier) empty
    · rw [List.mem_singleton.mp at_] at empty
      obtain ⟨waiting,refused⟩ := verdict_empty empty
      rw [waiting,refused] at same
      cases same
  · intro given
    exact (verdict_exact (given last (by simp))).symm

theorem polled_outcome (polled : Polled name t) : t.phase.outcome = some (contract name t.seen) ↔
    ∀ room ∈ t.seen, ¬ EmptyToken name room := by
  have passing : (∀ room ∈ t.seen, admitLeg name room = .ok none) → (some Outcome.waiting = some (contract name t.seen) ↔
      ∀ room ∈ t.seen, ¬ EmptyToken name room) := by
    intro passed
    refine iff_of_true ?_ fun room member => passed_given (passed room member)
    have whole := contract_passed passed []
    rw [List.append_nil] at whole
    rw [whole]
    rfl
  unfold Polled at polled
  split at polled
  · rename_i woken shape
    rw [shape]
    exact passing polled
  · rename_i shape
    rw [shape]
    exact passing polled
  · rename_i leg shape
    rw [shape,← decided_outcome polled]
    simp [Phase.outcome,outcomeOf]
  · rename_i e shape
    rw [shape,← decided_outcome polled]
    simp [Phase.outcome,outcomeOf]
  · cases polled
  · cases polled

theorem wait_outcome (path : Runs (step name) Anything (.initial room) events s) :
    ∀ t ∈ s.tasks, t.call = .wait → (t.phase.outcome = some (contract name t.seen) ↔
      ∀ room ∈ t.seen, ¬ EmptyToken name room) := by
  have waits := path.invariant (fun _ _ _ known _ next => waits_step known next) (by simp [Waits,Scene.initial])
  intro t member waiting
  obtain ⟨i,listed⟩ := List.getElem?_of_mem member
  exact polled_outcome (waits i t listed waiting)

-- The caller joins without a token, which an update of the attributes brings while
-- wait() waits for it.
def bareRoom : Room := ⟨[{caller false with attributes := []}],by simp⟩

def tokenArrives : RoomEvent := .participantAttributesChanged callerLeg.identity [("route",callerLeg.routeToken)]

def bareEvents : List Event := [.call .wait steady,.room tokenArrives false steady,.resume 0 steady]

def bareWaiting : Scene := ⟨bareRoom,true,.initial,[⟨.wait,.suspended false,[bareRoom]⟩],[]⟩

def bareWoken : Scene :=
  ⟨callerRoom false,true,{Admission.initial with changed := true},[⟨.wait,.suspended true,[bareRoom]⟩],[]⟩

def bareTask (phase : Phase) : Task := ⟨.wait,phase,[bareRoom,callerRoom false]⟩

def bareAdmitted : Scene :=
  ⟨callerRoom false,true,{Admission.initial with leg := some callerLeg},[bareTask (.ended (.leg callerLeg))],[]⟩

theorem bare_admitted : Runs (step "route") Anything (.initial bareRoom) bareEvents bareAdmitted := by
  have waits : step "route" (.initial bareRoom) (.call .wait steady) = some bareWaiting := rfl
  have comes : step "route" bareWaiting (.room tokenArrives false steady) = some bareWoken := rfl
  have binds : step "route" bareWoken (.resume 0 steady) = some bareAdmitted := by
    rcases waitTurn_cases "route" bareWoken with ⟨waiting,_⟩ | ⟨_,refused,_⟩ | ⟨leg,bound,shape⟩
    · cases (caller_leg false).symm.trans waiting
    · cases (caller_leg false).symm.trans refused
    · cases (caller_leg false).symm.trans bound
      have turned : step "route" bareWoken (.resume 0 steady) =
          some {(bareWoken.waitTurn "route").1 with
            tasks := (bareWoken.waitTurn "route").1.tasks.set 0 (bareTask (bareWoken.waitTurn "route").2)} := rfl
      rw [turned,shape]
      rfl
  exact ((Runs.single trivial waits).step trivial comes).step trivial binds

theorem caller_outcome : (Phase.ended (.leg callerLeg)).outcome = some (contract "route" [bareRoom,callerRoom false]) := by
  have bare : participants bareRoom = [{caller false with attributes := []}] := rfl
  have alone : participants (callerRoom false) = [caller false] := rfl
  apply (wait_outcome bare_admitted (bareTask (.ended (.leg callerLeg))) (List.mem_singleton_self _) rfl).mpr
  intro room member empty
  obtain ⟨p,only,token⟩ := empty
  rcases List.mem_cons.mp member with rfl | later
  · cases bare.symm.trans only
    cases token
  · rw [List.mem_singleton.mp later] at only
    cases alone.symm.trans only
    have shown : (caller false).get "route" = some callerLeg.routeToken := rfl
    rw [shown] at token
    exact absurd token (by decide)

-- A caller whose token has not arrived yet is turned away.
def unready : Room := ⟨[⟨"sip_1","PA_1",.sip,[("route","")],[]⟩],by simp⟩

theorem empty_token_refused : ∃ s e, Runs (step "route") Anything (.initial unready) [.call .wait steady] s ∧
    s.tasks = [⟨.wait,.ended (.raised (some e)),[unready]⟩] ∧ contract "route" [unready] = .waiting := by
  have empty : EmptyToken "route" unready := ⟨_,rfl,rfl⟩
  have verdict_ := verdict_empty empty
  rcases waitTurn_cases "route" (.initial unready) with ⟨waiting,_⟩ | ⟨e,refused,shape⟩ | ⟨leg,bound,shape⟩
  · have refused := verdict_.2
    change outcomeOf (admitLeg "route" (Scene.initial unready).room) = .refused at refused
    rw [waiting] at refused
    cases refused
  · refine ⟨_,e,Runs.single trivial (step_call _ _ _ _),?_,?_⟩
    · rw [Scene.begin,shape]
      rfl
    · rw [contract_last]
      exact verdict_.1
  · have refused := verdict_.2
    change outcomeOf (admitLeg "route" (Scene.initial unready).room) = .refused at refused
    rw [bound] at refused
    cases refused

-- The admission is over, or the leg is still the one that was bound.
def Over (s : Scene) : Prop := .abort ∈ s.log ∨ s.admission.closed = true

structure Joined (name : String) (s : Scene) : Prop where
  connected : s.connected = true
  holds : ∀ leg, s.admission.leg = some leg → Holds name s.room leg

theorem over_within (within : Within s s') (ended : Over s) : Over s' := by
  rcases ended with aborted | closed
  · exact .inl (within.log.subset aborted)
  · exact .inr (within.closed.trans closed)

theorem over_lasting (name : String) : Lasting name Over where
  set ended := over_within setChanged_within ended
  clear ended := ended
  abort _ := .inl List.mem_cons_self
  request ended _ := over_within setSubscribed_within ended
  connect ended := ended
  moving ended := ended
  binding ended := ended
  entering ended := over_within (mark_within _) ended
  authorizing ended := ended
  closing ended := by
    unfold Scene.close
    split
    · exact ended
    · exact .inr (by simp [Scene.mark,setChanged_admission])

theorem joined_within (within : Within s s') (joined : Joined name s) : Joined name s' :=
  ⟨within.connected.trans joined.connected,fun leg bound =>
    holds_cores within.people (joined.holds leg (within.leg.symm.trans bound))⟩

theorem joined_preserved (name : String) : Preserved name (Joined name) where
  set joined := joined_within setChanged_within joined
  clear joined := ⟨joined.connected,joined.holds⟩
  abort joined := ⟨joined.connected,joined.holds⟩
  request joined _ := joined_within setSubscribed_within joined
  connect joined := ⟨joined.connected,joined.holds⟩

def Sound (name : String) (s : Scene) : Prop := Over s ∨ Joined name s

theorem sound_preserved (name : String) : Preserved name (Sound name) where
  set sound := sound.imp (over_lasting name).set (joined_preserved name).set
  clear sound := sound.imp (over_lasting name).clear (joined_preserved name).clear
  abort _ := .inl (.inl List.mem_cons_self)
  request sound asks := sound.imp (fun ended => (over_lasting name).request ended asks)
    (fun joined => (joined_preserved name).request joined asks)
  connect sound := sound.imp (over_lasting name).connect (joined_preserved name).connect

-- _changed() tells whatever has happened to the participants.
theorem recheck_sound (connected : s.connected = true) : Sound name (s.recheck name sdk).1 := by
  unfold Scene.recheck
  dsimp only
  split
  · split
    · rename_i valid
      obtain ⟨_,leg,bound,held⟩ := validate_ok.mp valid
      refine .inr ⟨by simpa using connected,fun other same => ?_⟩
      rw [bound] at same
      cases same
      exact held
    · exact .inl (.inl List.mem_cons_self)
  · rename_i unbound
    refine .inr ⟨by simpa using connected,fun leg bound => ?_⟩
    rw [bound] at unbound
    exact absurd rfl unbound

theorem participantDisconnected_sound (connected : s.connected = true) :
    Sound name (s.participantDisconnected name p sdk).1 := by
  rcases participantDisconnected_cases name s p sdk with ⟨_,raised | returned⟩ | ⟨_,other⟩
  · rw [raised]
    exact .inl (.inl List.mem_cons_self)
  · rw [returned]
    exact recheck_sound connected
  · rw [other]
    exact recheck_sound connected

-- The bound leg stays when another participant leaves.
theorem holds_remove (known : room.get identity = some p) (other : p.sid ≠ leg.sid) (held : Holds name room leg) :
    Holds name (room.remove identity) leg := by
  obtain ⟨q,alone,who,which,token⟩ := held
  have listed : q ∈ participants room := by
    rw [alone]
    exact List.mem_singleton_self q
  have stays : q.identity ≠ identity := by
    intro same
    have gone := get_unique known (List.mem_filter.mp listed).1 (same.trans (get_exact.mp known).2.symm)
    rw [← gone] at other
    exact other which
  have people : participants (room.remove identity) = (participants room).filter (·.identity ≠ identity) := by
    unfold participants Room.remove
    rw [List.filter_filter,List.filter_filter]
    exact List.filter_congr fun r _ => Bool.and_comm _ _
  refine ⟨q,?_,who,which,token⟩
  rw [people,alone]
  simp [stays]

theorem removed_sound (joined : Joined name s) (known : s.room.get identity = some p) :
    Sound name {(s.participantDisconnected name p sdk).1 with
      room := (s.participantDisconnected name p sdk).1.room.remove identity} := by
  have within : Within s (s.participantDisconnected name p sdk).1 :=
    (within_preserved name s).participantDisconnected (Within.refl s)
  have aborted : Over (s.mark .abort) := .inl List.mem_cons_self
  rcases participantDisconnected_cases name s p sdk with ⟨_,raised | returned⟩ | ⟨apart,_⟩
  · rw [raised]
    exact .inl aborted
  · rw [returned]
    exact .inl ((over_lasting name).recheck aborted)
  · refine .inr ⟨within.connected.trans joined.connected,fun leg bound => ?_⟩
    have before := within.leg.symm.trans bound
    obtain ⟨q,still,same⟩ := cores_get within.people known
    apply holds_remove still
    · intro equal
      rw [before] at apart
      simp [← equal,(core_same same).2.1] at apart
    · exact holds_cores within.people (joined.holds leg before)

theorem Joined.move (joined : Joined name s) (same : cores s.room = cores room) :
    Joined name {s with room := room} :=
  ⟨joined.connected,fun leg bound => holds_cores same (joined.holds leg bound)⟩

theorem sound_onRoom (joined : Joined name s) (next : s.onRoom name removedFirst sdk event = some s') :
    Sound name s' := by
  have kept := sound_preserved name
  have moved : ∀ {identity p q}, s.room.get identity = some p → core q = core p →
      Joined name {s with room := s.room.put q} := fun known same => joined.move (put_cores known same).symm
  cases event with
  | participantConnected p =>
    cases next
    split
    · rename_i closed
      exact .inl (.inr closed)
    · exact recheck_sound joined.connected
  | participantDisconnected identity =>
    obtain ⟨p,known,next⟩ := Option.bind_eq_some_iff.mp next
    cases next
    dsimp only
    split
    · rename_i closed
      exact .inl (.inr closed)
    · split
      · exact participantDisconnected_sound joined.connected
      · exact removed_sound joined known
  | participantAttributesChanged identity attributes =>
    obtain ⟨p,_,next⟩ := Option.bind_eq_some_iff.mp next
    cases next
    dsimp only
    split
    · rename_i closed
      exact .inl (.inr closed)
    · exact recheck_sound joined.connected
  | trackPublished identity publication =>
    obtain ⟨p,known,next⟩ := Option.bind_eq_some_iff.mp next
    cases next
    have published := moved known (putPublication_core p publication)
    dsimp only
    split
    · exact .inr published
    · exact kept.trackPublished (.inr published)
  | trackSubscribed identity sid =>
    obtain ⟨⟨p,publication⟩,found,next⟩ := Option.bind_eq_some_iff.mp next
    cases next
    have tracked := moved (publication_known found).1 (setTrack_core p sid true)
    dsimp only
    split
    · exact kept.set (.inr tracked)
    · exact .inr tracked
  | trackSubscriptionFailed identity sid =>
    obtain ⟨p,_,next⟩ := Option.bind_eq_some_iff.mp next
    cases next
    split
    · exact kept.abort (.inr joined)
    · exact .inr joined
  | trackUnsubscribed identity sid =>
    obtain ⟨⟨p,publication⟩,found,next⟩ := Option.bind_eq_some_iff.mp next
    cases next
    have tracked := moved (publication_known found).1 (setTrack_core p sid false)
    dsimp only
    split
    · exact kept.abort (.inr tracked)
    · exact .inr tracked
  | trackUnpublished identity sid =>
    obtain ⟨p,known,next⟩ := Option.bind_eq_some_iff.mp next
    cases next
    exact .inr (moved known rfl)
  | disconnected =>
    cases next
    dsimp only
    split
    · rename_i closed
      exact .inl (.inr closed)
    · exact .inl (.inl List.mem_cons_self)

theorem waitTurn_joined (joined : Joined name s) : Joined name (s.waitTurn name).1 := by
  rcases waitTurn_cases name s with ⟨_,shape⟩ | ⟨_,_,shape⟩ | ⟨leg,bound,shape⟩ <;> rw [shape]
  · exact (joined_preserved name).clear joined
  · exact (joined_preserved name).clear joined
  · refine ⟨joined.connected,fun other same => ?_⟩
    cases same
    exact admitLeg_exact bound

theorem joined_turn (joined : Joined name s) (call : Call) : Joined name (s.turn name sdk call).1 := by
  cases call with
  | wait => exact waitTurn_joined joined
  | subscribeAudio => exact (joined_preserved name).subscribeTurn joined

theorem joined_begin (joined : Joined name s) (call : Call) : Joined name (s.begin name sdk call).1 := by
  cases call with
  | wait => exact waitTurn_joined joined
  | subscribeAudio =>
    unfold Scene.begin
    dsimp only
    split
    · exact joined_within (mark_within _) joined
    · exact (joined_preserved name).subscribeTurn ⟨joined.connected,joined.holds⟩

theorem sound_step {event : Event} (sound : Sound name s) (next : step name s event = some s') : Sound name s' := by
  rcases sound with ended | joined
  · exact .inl ((over_lasting name).step ended next)
  · cases event with
    | room event removedFirst sdk => exact sound_onRoom joined next
    | call call sdk =>
      rw [step_call] at next
      obtain rfl := Option.some.inj next
      have begun : Joined name (s.begin name sdk call).1 := joined_begin joined call
      exact .inr ⟨begun.connected,begun.holds⟩
    | resume i sdk =>
      obtain ⟨call,seen,_,rfl⟩ := step_resume next
      have turned : Joined name (s.turn name sdk call).1 := joined_turn joined call
      exact .inr ⟨turned.connected,turned.holds⟩
    | cancel i =>
      obtain ⟨call,woken,seen,_,rfl⟩ := step_cancel next
      exact .inr ⟨joined.connected,joined.holds⟩
    | close =>
      cases next
      refine .inl ?_
      unfold Scene.close
      split
      · rename_i closed
        exact .inr closed
      · exact .inr (by simp [Scene.mark,setChanged_admission])

-- A change that does not concern a SIP participant, or not its route token.
def Unrelated (name : String) (room : Room) : RoomEvent → Prop
  | .participantConnected p => p.kind ≠ .sip ∧ ∀ q, room.get p.identity = some q → q.kind ≠ .sip
  | .participantAttributesChanged identity attributes =>
    ∀ p, room.get identity = some p → p.kind = .sip → attributes.lookup name = p.get name
  | .participantDisconnected identity | .trackPublished identity _ | .trackSubscribed identity _
  | .trackSubscriptionFailed identity _ | .trackUnsubscribed identity _ | .trackUnpublished identity _ =>
    ∀ p, room.get identity = some p → p.kind ≠ .sip
  | .disconnected => False

-- LiveKit gives each participant an SID of its own.
def Distinct (room : Room) : Prop := ∀ p ∈ room.people, ∀ q ∈ room.people, p.sid = q.sid → p = q

theorem holds_alone (held : Holds name room leg) (known : room.get identity = some p) (kind : p.kind = .sip) :
    participants room = [p] ∧ p.identity = leg.identity ∧ p.sid = leg.sid ∧ p.get name = some leg.routeToken := by
  obtain ⟨q,alone,facts⟩ := held
  have listed : p ∈ participants room := List.mem_filter.mpr ⟨(get_exact.mp known).1,by simpa using kind⟩
  rw [alone] at listed
  obtain rfl := List.mem_singleton.mp listed
  exact ⟨alone,facts⟩

theorem other_apart (held : Holds name room leg) (distinct : Distinct room) (known : room.get identity = some p)
    (kind : p.kind ≠ .sip) : p.sid ≠ leg.sid := by
  intro same
  obtain ⟨q,alone,_,which,_⟩ := held
  have listed : q ∈ participants room := by
    rw [alone]
    exact List.mem_singleton_self q
  obtain ⟨inside,sip⟩ := List.mem_filter.mp listed
  have equal := distinct p (get_exact.mp known).1 q inside (same.trans which.symm)
  rw [equal] at kind
  exact kind (by simpa using sip)

theorem replaced_others (p : Participant) (kind : p.kind ≠ .sip) (people : List Participant)
    (other : ∀ q ∈ people, q.identity = p.identity → q.kind ≠ .sip) :
    (people.map (replace p)).filter (·.kind = .sip) = people.filter (·.kind = .sip) := by
  induction people with
  | nil => rfl
  | cons q rest ih =>
    have tail := ih fun r member => other r (List.mem_cons_of_mem _ member)
    have head := other q List.mem_cons_self
    rw [List.map_cons,List.filter_cons,List.filter_cons,tail]
    unfold replace
    split
    · rename_i same
      simp [kind,head same]
    · rfl

theorem participants_put_other (kind : p.kind ≠ .sip) (other : ∀ q, room.get p.identity = some q → q.kind ≠ .sip) :
    participants (room.put p) = participants room := by
  unfold participants Room.put
  split
  · apply replaced_others p kind
    exact fun q member same => other q (get_exact.mpr ⟨member,same⟩)
  · dsimp only
    rw [List.filter_append]
    simp [kind]

theorem participants_remove_other (known : room.get identity = some p) (kind : p.kind ≠ .sip) :
    participants (room.remove identity) = participants room := by
  unfold participants Room.remove
  rw [List.filter_filter]
  apply List.filter_congr
  intro q member
  by_cases sip : q.kind = .sip
  · have apart : q.identity ≠ identity := by
      intro same
      rw [get_unique known member (same.trans (get_exact.mp known).2.symm)] at sip
      exact kind sip
    simp [apart]
  · simp [sip]

theorem holds_participants (same : participants room' = participants room) (held : Holds name room leg) :
    Holds name room' leg := by
  obtain ⟨q,alone,facts⟩ := held
  exact ⟨q,same.trans alone,facts⟩

theorem holds_attributes (known : room.get identity = some p) (held : Holds name room leg)
    (token : p.kind = .sip → attributes.lookup name = p.get name) :
    Holds name (room.put {p with attributes := attributes}) leg := by
  have who := (get_exact.mp known).2
  by_cases kind : p.kind = .sip
  · obtain ⟨alone,identity_,sid,own⟩ := holds_alone held known kind
    refine ⟨{p with attributes := attributes},?_,identity_,sid,(token kind).trans own⟩
    have people := put_people known (q := {p with attributes := attributes}) rfl
    have inside : ∀ r ∈ room.people, (replace {p with attributes := attributes} r).kind = r.kind := by
      intro r member
      unfold replace
      split
      · rename_i same
        rw [get_unique known member same]
      · rfl
    rw [participants,people,List.filter_map,List.filter_congr (q := fun r => r.kind = .sip) fun r member => ?_]
    · change (participants room).map _ = _
      rw [alone]
      simp [replace]
    · simp [inside r member]
  · have others : participants (room.put {p with attributes := attributes}) = participants room := by
      apply participants_put_other (p := {p with attributes := attributes}) kind
      intro q same
      cases known.symm.trans ((congrArg room.get who).symm.trans same)
      exact kind
    exact holds_participants others held

theorem recheck_quiet (opened : s.admission.closed = false) (bound : s.admission.leg = some leg)
    (held : Holds name s.room leg) : (s.recheck name sdk).1.log = s.log := by
  have valid : s.setChanged.validate name = .ok () := setChanged_within.valid (validate_ok.mpr ⟨opened,leg,bound,held⟩)
  unfold Scene.recheck
  dsimp only
  split
  · rw [valid]
    simp
  · simp

theorem trackPublished_quiet (opened : s.admission.closed = false) (bound : s.admission.leg = some leg)
    (held : Holds name s.room leg) (other : p.sid ≠ leg.sid) :
    (s.trackPublished name publication p sdk).1.log = s.log := by
  have stranger : s.admission.boundAudio publication p = false := by
    unfold Admission.boundAudio
    rw [bound]
    simp [other]
  have valid : s.validate name = .ok () := validate_ok.mpr ⟨opened,leg,bound,held⟩
  unfold Scene.trackPublished
  split
  · rfl
  · unfold Scene.requestTrack
    rw [valid]
    simp [stranger]

-- A change that is none of its business leaves a live admission alone.
theorem unrelated_quiet (joined : Joined name s) (opened : s.admission.closed = false) (bound : s.admission.leg = some leg)
    (distinct : Distinct s.room) (unrelated : Unrelated name s.room event)
    (next : s.onRoom name removedFirst sdk event = some s') : s'.log = s.log := by
  have held := joined.holds leg bound
  have apart : ∀ {identity p}, s.room.get identity = some p → p.kind ≠ .sip → p.sid ≠ leg.sid :=
    fun known kind => other_apart held distinct known kind
  cases event with
  | participantConnected p =>
    cases next
    rw [if_neg (by simp [opened])]
    exact @recheck_quiet name {s with room := s.room.put p} sdk leg opened bound
      (holds_participants (participants_put_other unrelated.1 unrelated.2) held)
  | participantDisconnected identity =>
    obtain ⟨p,known,next⟩ := Option.bind_eq_some_iff.mp next
    cases next
    have kind := unrelated p known
    have gone : Holds name (s.room.remove identity) leg := holds_participants (participants_remove_other known kind) held
    have same : ∀ room, Holds name room leg →
        (({s with room := room} : Scene).participantDisconnected name p sdk).1.log = s.log := by
      intro room held
      rcases participantDisconnected_cases name {s with room := room} p sdk with ⟨own,_⟩ | ⟨_,other⟩
      · rw [bound] at own
        have equal : leg.sid = p.sid := by simpa using own
        exact absurd equal.symm (apart known kind)
      · rw [other]
        exact @recheck_quiet name {s with room := room} sdk leg opened bound held
    dsimp only
    rw [if_neg (by simp [opened])]
    split
    · exact same _ gone
    · exact same s.room held
  | participantAttributesChanged identity attributes =>
    obtain ⟨p,known,next⟩ := Option.bind_eq_some_iff.mp next
    cases next
    dsimp only
    rw [if_neg (by simp [opened])]
    exact @recheck_quiet name {s with room := _} sdk leg opened bound (holds_attributes known held (unrelated p known))
  | trackPublished identity publication =>
    obtain ⟨p,known,next⟩ := Option.bind_eq_some_iff.mp next
    cases next
    dsimp only
    rw [if_neg (by simp [opened])]
    have same := core_same (putPublication_core p publication)
    apply @trackPublished_quiet name {s with room := s.room.put (p.putPublication publication)} sdk _ _ leg opened bound
    · exact holds_cores (put_cores known (putPublication_core p publication)).symm held
    · rw [same.2.1]
      exact apart known (unrelated p known)
  | trackSubscribed identity sid =>
    obtain ⟨⟨p,publication⟩,_,next⟩ := Option.bind_eq_some_iff.mp next
    cases next
    dsimp only
    split <;> simp
  | trackSubscriptionFailed identity sid =>
    obtain ⟨p,known,next⟩ := Option.bind_eq_some_iff.mp next
    cases next
    rw [if_neg]
    rw [bound]
    have other := apart known (unrelated p known)
    simp [Ne.symm other]
  | trackUnsubscribed identity sid =>
    obtain ⟨⟨p,publication⟩,found,next⟩ := Option.bind_eq_some_iff.mp next
    cases next
    have known := (publication_known found).1
    have other := apart known (unrelated p known)
    dsimp only
    rw [if_neg]
    unfold Admission.boundAudio
    rw [bound]
    simp [other]
  | trackUnpublished identity sid =>
    obtain ⟨p,_,next⟩ := Option.bind_eq_some_iff.mp next
    cases next
    rfl
  | disconnected => cases unrelated

-- After close() no handler is left.
theorem closed_quiet (closed : s.admission.closed = true) (next : s.onRoom name removedFirst sdk event = some s') :
    s'.log = s.log := by
  cases event with
  | participantConnected p =>
    cases next
    rw [if_pos closed]
  | disconnected =>
    cases next
    rw [if_pos closed]
  | participantDisconnected identity | participantAttributesChanged identity _ | trackPublished identity _ =>
    obtain ⟨p,_,next⟩ := Option.bind_eq_some_iff.mp next
    cases next
    dsimp only
    rw [if_pos closed]
  | trackSubscribed identity sid | trackUnsubscribed identity sid =>
    obtain ⟨⟨p,publication⟩,_,next⟩ := Option.bind_eq_some_iff.mp next
    cases next
    simp [closed]
  | trackSubscriptionFailed identity sid =>
    obtain ⟨p,_,next⟩ := Option.bind_eq_some_iff.mp next
    cases next
    simp [closed]
  | trackUnpublished identity sid =>
    obtain ⟨p,_,next⟩ := Option.bind_eq_some_iff.mp next
    cases next
    rfl

theorem leg_continuity (path : Runs (step name) Anything (.initial room) events s) (bound : s.admission.leg = some leg) :
    (.abort ∈ s.log ∨ s.admission.closed = true ∨ (s.connected = true ∧ Holds name s.room leg)) ∧
    (∀ event removedFirst sdk s', Distinct s.room → Unrelated name s.room event →
      step name s (.room event removedFirst sdk) = some s' → .abort ∉ s.log → .abort ∉ s'.log) := by
  have sound := path.invariant (fun _ _ _ known _ next => sound_step known next)
    (.inr ⟨rfl,by simp [Scene.initial,Admission.initial]⟩ : Sound name (.initial room))
  constructor
  · rcases sound with (aborted | closed) | joined
    · exact .inl aborted
    · exact .inr (.inl closed)
    · exact .inr (.inr ⟨joined.connected,joined.holds leg bound⟩)
  · intro event removedFirst sdk s' distinct unrelated next before
    by_cases closed : s.admission.closed = true
    · rwa [closed_quiet closed next]
    · have joined := sound.resolve_left fun ended => ended.elim before closed
      rwa [unrelated_quiet joined (by simpa using closed) bound distinct unrelated next]

def guest : Participant := ⟨"guest","PA_2",.other,[],[]⟩
def intruder : Participant := ⟨"sip_2","PA_3",.sip,[],[]⟩

theorem caller_distinct : Distinct (callerRoom false) := by
  intro p one q two _
  rw [List.mem_singleton.mp one,List.mem_singleton.mp two]

theorem caller_continuity : (admitted false).connected = true ∧ Holds "route" (admitted false).room callerLeg ∧
    ∃ s, step "route" (admitted false) (.room (.participantConnected guest) true steady) = some s ∧ .abort ∉ s.log := by
  obtain ⟨held,quiet⟩ := leg_continuity (caller_admitted false) rfl
  have silent : Mark.abort ∉ (admitted false).log := by simp [admitted]
  obtain ⟨connected,holds⟩ := (held.resolve_left silent).resolve_left (by simp [admitted,Admission.initial])
  refine ⟨connected,holds,_,rfl,quiet (.participantConnected guest) true steady _ caller_distinct ?_ rfl silent⟩
  refine ⟨by decide,fun q known => ?_⟩
  change none = some q at known
  cases known

-- Once a second caller has ended the admission, every guest ends it again.
theorem repeated_abort : ∃ s s', Runs (step "route") Anything (.initial (callerRoom false))
      [.call .wait steady,.room (.participantConnected intruder) true steady] s ∧
    s.admission.leg = some callerLeg ∧ s.admission.closed = false ∧ Distinct s.room ∧
    Unrelated "route" s.room (.participantConnected guest) ∧
    step "route" s (.room (.participantConnected guest) true steady) = some s' ∧ s'.log = .abort :: s.log := by
  refine ⟨_,_,Runs.step (caller_admitted false) trivial rfl,rfl,rfl,?_,?_,rfl,rfl⟩
  · intro p one q two same
    change p ∈ [caller false,intruder] at one
    change q ∈ [caller false,intruder] at two
    simp only [List.mem_cons,List.not_mem_nil,or_false] at one two
    rcases one with rfl | rfl <;> rcases two with rfl | rfl
    · rfl
    · exact absurd same (by decide)
    · exact absurd same (by decide)
    · rfl
  · refine ⟨by decide,fun q known => ?_⟩
    change none = some q at known
    cases known

end AidaAgent.SipAdmission
