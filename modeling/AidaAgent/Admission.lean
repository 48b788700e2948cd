import AidaAgent.Bootstrap

namespace AidaAgent.Worker
open JsonText Config Bootstrap

inductive ParticipantKind where
  | sip | other
  deriving DecidableEq, Repr

inductive TrackKind where
  | audio | video
  deriving DecidableEq, Repr

inductive TrackSource where
  | microphone | other
  deriving DecidableEq, Repr

-- A publication of a participant. `track` tells whether its track is subscribed.
structure Publication where
  sid : String
  kind : TrackKind
  source : TrackSource
  track : Bool
  deriving DecidableEq, Repr

structure Participant where
  identity : String
  sid : String
  kind : ParticipantKind
  attributes : List (String × String)
  publications : List Publication
  deriving DecidableEq, Repr

-- room.remote_participants, in order: a map keyed by identity.
structure Room where
  people : List Participant
  keyed : (people.map (·.identity)).Nodup

def Room.get (room : Room) (identity : String) : Option Participant := room.people.find? (·.identity = identity)

def replace (p : Participant) (q : Participant) : Participant := if q.identity = p.identity then p else q

theorem replace_identity (p : Participant) (people : List Participant) :
    (people.map (replace p)).map (·.identity) = people.map (·.identity) := by
  rw [List.map_map]
  apply List.map_congr_left
  intro q _
  simp only [Function.comp,replace]
  split
  · rename_i same
    exact same.symm
  · rfl

def Room.put (room : Room) (p : Participant) : Room :=
  if known : room.people.any (·.identity = p.identity) then
    ⟨room.people.map (replace p),by rw [replace_identity]; exact room.keyed⟩
  else
    ⟨room.people ++ [p],by
      have fresh : p.identity ∉ room.people.map (·.identity) := by simpa using known
      simp only [List.map_append,List.map_cons,List.map_nil]
      exact List.nodup_append.mpr ⟨room.keyed,by simp,by simpa using fresh⟩⟩

def Room.remove (room : Room) (identity : String) : Room :=
  ⟨room.people.filter (·.identity ≠ identity),room.keyed.sublist (List.Sublist.map _ List.filter_sublist)⟩

def Participant.get (p : Participant) (name : String) : Option String := p.attributes.lookup name

def Participant.putPublication (p : Participant) (publication : Publication) : Participant :=
  if p.publications.any (·.sid = publication.sid) then
    {p with publications := p.publications.map fun q => if q.sid = publication.sid then publication else q}
  else {p with publications := p.publications ++ [publication]}

def Participant.setTrack (p : Participant) (sid : String) (track : Bool) : Participant :=
  {p with publications := p.publications.map fun q => if q.sid = sid then {q with track := track} else q}

-- The state of SipAdmission. `changed` is its asyncio.Event.
structure Admission where
  leg : Option SipLeg
  changed : Bool
  closed : Bool
  audioAuthorized : Bool
  audioRequested : List String
  audioConnected : Bool

def Admission.initial : Admission := ⟨none,false,false,false,[],false⟩

def participants (room : Room) : List Participant := room.people.filter (·.kind = .sip)

-- One turn of the loop in wait(): a leg, or nothing to bind yet.
def admitLeg (name : String) (room : Room) : Checked (Option SipLeg) :=
  match participants room with
  | [] => .ok none
  | [p] =>
    match p.get name with
    | none => .ok none
    | some token => (SipLeg.make p.identity p.sid token).map some
  | _ => refuse "ambiguous SIP participants"

def holdsLeg (name : String) (p : Participant) (leg : SipLeg) : Bool :=
  p.identity = leg.identity && p.sid = leg.sid && p.get name = some leg.routeToken

def Admission.validate (a : Admission) (name : String) (room : Room) : Checked Unit :=
  match a.closed,a.leg,participants room with
  | false,some leg,[p] => require (holdsLeg name p leg) "SIP participant changed"
  | _,_,_ => refuse "SIP participant changed"

def Admission.boundAudio (a : Admission) (publication : Publication) (p : Participant) : Bool :=
  match a.leg with
  | none => false
  | some leg => p.identity = leg.identity && p.sid = leg.sid && publication.kind = .audio &&
      publication.source = .microphone

-- The one SIP participant of the room is the one that was bound.
def Holds (name : String) (room : Room) (leg : SipLeg) : Prop :=
  ∃ p, participants room = [p] ∧ p.identity = leg.identity ∧ p.sid = leg.sid ∧
    p.get name = some leg.routeToken

theorem holdsLeg_exact : holdsLeg name p leg = true ↔
    p.identity = leg.identity ∧ p.sid = leg.sid ∧ p.get name = some leg.routeToken := by
  simp [holdsLeg,and_assoc]

theorem validate_exact : Admission.validate a name room = .ok u ↔
    a.closed = false ∧ ∃ leg, a.leg = some leg ∧ Holds name room leg := by
  unfold Admission.validate Holds
  split
  · rename_i leg p open_ bound single
    rw [require_ok,holdsLeg_exact]
    constructor
    · exact fun held => ⟨open_,leg,bound,p,single,held⟩
    · rintro ⟨_,other,same,q,also,held⟩
      cases bound.symm.trans same
      cases single.symm.trans also
      exact held
  · rename_i other
    refine iff_of_false (by simp) ?_
    rintro ⟨open_,leg,bound,p,single,_⟩
    exact other leg p open_ bound single

-- A leg is bound to the single SIP participant, with the token it shows.
theorem admitLeg_exact (admitted : admitLeg name room = .ok (some leg)) : Holds name room leg := by
  unfold admitLeg at admitted
  split at admitted
  · cases admitted
  · rename_i p single
    split at admitted
    · cases admitted
    · rename_i token shown
      cases made : SipLeg.make p.identity p.sid token with
      | error e => rw [made] at admitted; cases admitted
      | ok made' =>
        rw [made] at admitted
        cases admitted
        obtain ⟨identity,sid,routeToken⟩ := make_exact made
        exact ⟨p,single,identity.symm,sid.symm,by rw [shown,routeToken]⟩
  · simp at admitted

-- The tracks of a participant do not matter to its admission.
theorem holds_tracks {room : Room} (known : room.get identity = some p) (who : q.identity = p.identity)
    (same : q.sid = p.sid ∧ q.kind = p.kind ∧ q.attributes = p.attributes) (held : Holds name room leg) :
    Holds name (room.put q) leg := by
  have found := List.find?_some known
  have member := List.mem_of_find?_eq_some known
  have unique : ∀ r ∈ room.people, r.identity = q.identity → r = p := by
    intro r inside equal
    exact List.inj_on_of_nodup_map room.keyed inside member (equal.trans who)
  have present : room.people.any (·.identity = q.identity) = true :=
    List.any_eq_true.mpr ⟨p,member,by simp [who]⟩
  have kept : ∀ r ∈ room.people, (replace q r).identity = r.identity ∧ (replace q r).sid = r.sid ∧
      (replace q r).kind = r.kind ∧ (replace q r).attributes = r.attributes := by
    intro r inside
    unfold replace
    split
    · rename_i equal
      rw [unique r inside equal]
      exact ⟨who,same.1,same.2.1,same.2.2⟩
    · exact ⟨rfl,rfl,rfl,rfl⟩
  obtain ⟨single,alone,equal,sid,token⟩ := held
  have people : (room.put q).people = room.people.map (replace q) := by
    unfold Room.put
    rw [dif_pos present]
  have filtered : participants (room.put q) = (participants room).map (replace q) := by
    rw [participants,participants,people,List.filter_map]
    congr 1
    apply List.filter_congr
    intro r inside
    simp [(kept r inside).2.2.1]
  have inside : single ∈ room.people := by
    have listed : single ∈ participants room := by rw [alone]; simp
    exact (List.mem_filter.mp listed).1
  obtain ⟨stays,sidStays,_,attributes⟩ := kept single inside
  refine ⟨replace q single,by rw [filtered,alone]; rfl,stays.trans equal,sidStays.trans sid,?_⟩
  rw [Participant.get,attributes]
  exact token

end AidaAgent.Worker
