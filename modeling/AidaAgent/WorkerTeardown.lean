import AidaAgent.Worker

namespace AidaAgent.Teardown
open Transitions
open Worker (Startup)

-- What start_authorized creates, and the control, which the entrypoint creates.
inductive Resource where
  | history | publisher | control | session
  deriving DecidableEq, Repr

-- The order of the loop in cleanup().
def resources : List Resource := [.history,.publisher,.control,.session]

-- SipAdmission.handlers, registered on the room by its constructor.
def admissionHandlers : List String :=
  ["participant_connected","participant_disconnected","participant_attributes_changed","disconnected",
    "track_published","track_subscribed","track_subscription_failed","track_unsubscribed"]

-- How far the block from create_session to session.start gets before it raises. No
-- await stands in it.
inductive Creation where
  | nothing | session | publisher | history | complete
  deriving DecidableEq, Repr

def Creation.made : Creation → List Resource
  | .nothing => []
  | .session => [.session]
  | .publisher => [.session,.publisher]
  | .history | .complete => [.session,.publisher,.history]

inductive Caller where
  | sdk | entrypoint
  deriving DecidableEq, Repr

-- The call of cleanup() that runs the body. While it awaits the close of a resource, the
-- ones that the loop has still to visit are kept.
inductive Body where
  | idle
  | gathering (caller : Caller)
  | closing (caller : Caller) (current : Resource) (pending : List Resource)
  | returned
  | raised
  deriving DecidableEq, Repr

-- How an await ends; timesOut is the TimeoutError of asyncio.wait_for. CancelledError is
-- no Exception: the except clauses of _stop() and of the loop in cleanup() let it pass.
inductive Ending where
  | returns | raises | timesOut | cancelled
  deriving DecidableEq, Repr

-- control._stop_task. It ends cancelled where room.disconnect() ends in CancelledError,
-- or where the task was cancelled before its first step.
inductive StopTask where
  | absent
  | running
  | ended (ending : Ending)
  deriving DecidableEq, Repr

-- The local variables of the entrypoint. A resource is not None once it is created.
-- `bodies`, `returned` and `closes` record the calls made of cleanup() and of the closes.
structure Lifetime where
  registered : List String
  admissionClosed : Bool
  startup : Startup
  cancelling : Bool
  created : List Resource
  ready : Bool
  stopping : Bool
  stopTask : StopTask
  aborted : Bool
  cleaned : Bool
  entered : Bool
  body : Body
  bodies : Nat
  returned : List Caller
  closes : List Resource
  deriving DecidableEq, Repr

def Lifetime.initial : Lifetime :=
  ⟨admissionHandlers ++ ["data_received"],false,.created,false,[],false,false,.absent,false,false,false,.idle,0,[],[]⟩

def Lifetime.present (l : Lifetime) (r : Resource) : Bool := r = .control || l.created.contains r

-- Whether silence() returns. Only a session can make it raise.
def Lifetime.silences (l : Lifetime) (quiet : Bool) : Bool := quiet || !l.present .session

def Lifetime.cancelStartup (l : Lifetime) : Lifetime := if l.startup.done then l else {l with cancelling := true}

-- abort(). The second component tells whether it returns. ctx.shutdown only asks the SDK
-- for the cleanup, which is an event of its own.
def Lifetime.abort (l : Lifetime) (quiet : Bool) : Lifetime × Bool :=
  if l.aborted = true ∨ l.cleaned = true then (l,true)
  else if l.silences quiet then (({l with aborted := true} : Lifetime).cancelStartup,true)
  else ({l with aborted := true},false)

-- SipAdmission.close. An exception of set_subscribed(False) is dropped there.
def Lifetime.closeAdmission (l : Lifetime) : Lifetime :=
  if l.admissionClosed then l
  else {l with admissionClosed := true, registered := admissionHandlers.foldl List.erase l.registered}

-- The loop of cleanup() from some resource on, up to its next await or its end.
def Lifetime.closeNext (l : Lifetime) (caller : Caller) : List Resource → Lifetime
  | [] => {l with body := .returned, returned := caller :: l.returned}
  | r :: pending =>
    if l.present r then {l with closes := l.closes ++ [r], body := .closing caller r pending}
    else l.closeNext caller pending

-- A call of cleanup(), up to its first await or its end.
def Lifetime.clean (l : Lifetime) (caller : Caller) (quiet : Bool) : Lifetime :=
  if l.cleaned then {l with returned := caller :: l.returned}
  else
    let l := ({l with cleaned := true, bodies := l.bodies + 1, ready := false} : Lifetime).closeAdmission
    let l := {l with registered := l.registered.erase "data_received"}
    if l.silences quiet = false then {l with body := .raised}
    else if l.startup.done then l.closeNext caller resources
    else {l with body := .gathering caller}.cancelStartup

-- What the calls of one stretch of start_authorized answer, up to its next await.
structure Answers where
  ambiguous : Bool      -- several SIP participants
  found : Bool          -- the leg, or in subscribe_audio its microphone
  authorized : Bool     -- authorize returns a call
  valid : Bool          -- the room still has the leg
  creation : Creation
  requests : Bool       -- set_subscribed(True) returns
  quiet : Bool          -- silence() returns
  identified : Bool     -- the local participant has an identity
  starts : Bool         -- publisher.start() and history.start() return
  greets : Bool

def Lifetime.returns (l : Lifetime) : Lifetime := {l with startup := .returned}
def Lifetime.raises (l : Lifetime) : Lifetime := {l with startup := .raised}

-- SipAdmission.validate raises once the admission is closed.
def Lifetime.validates (l : Lifetime) (answers : Answers) : Bool := !l.admissionClosed && answers.valid

-- admission.validate() with the check after it.
def Lifetime.checked (l : Lifetime) (answers : Answers) (next : Lifetime → Lifetime) : Lifetime :=
  if l.validates answers = false then l.raises
  else if l.aborted = true ∨ l.stopping = true then l.returns
  else next l

-- SipAdmission.wait
def Lifetime.wait (l : Lifetime) (answers : Answers) : Lifetime :=
  if answers.ambiguous then l.raises
  else if answers.found then {l with startup := .authorizing}
  else {l with startup := .waitingLeg}

def Lifetime.create (l : Lifetime) (creation : Creation) : Lifetime :=
  {l with created := l.created ++ creation.made, startup := if creation = .complete then .starting else .raised}

def Lifetime.authorized (l : Lifetime) (answers : Answers) : Lifetime :=
  if answers.authorized then l.checked answers fun l => l.create answers.creation else l.raises

-- SipAdmission.subscribe_audio up to its wait or its end. A request that fails aborts.
def Lifetime.subscribeAudio (l : Lifetime) (answers : Answers) : Lifetime :=
  if l.validates answers = false then l.raises
  else
    match if answers.requests then (l,true) else l.abort answers.quiet with
    | (l,false) => l.raises
    | (l,true) =>
      if answers.found then
        l.checked answers fun l => if answers.identified then {l with startup := .publishing} else l.raises
      else {l with startup := .subscribing}

-- From the delivery of agent_ready to the end.
def Lifetime.readyPublished (l : Lifetime) (answers : Answers) : Lifetime :=
  l.checked answers fun l =>
    if answers.starts = false then l.raises
    else if answers.greets then {l with ready := true}.returns
    else {l with ready := true}.raises

-- One resumption of the startup task. The SDK may drop a cancellation at its own awaits.
def Lifetime.resume (l : Lifetime) (answers : Answers) : Option Lifetime :=
  match l.startup with
  | .created => if l.cancelling then none else some {l with startup := .connecting}
  | .connecting => some (l.wait answers)
  | .waitingLeg => if l.cancelling then none else some (l.wait answers)
  | .authorizing => some (l.authorized answers)
  | .starting => some (l.subscribeAudio answers)
  | .subscribing => if l.cancelling then none else some (l.subscribeAudio answers)
  | .publishing => some (l.readyPublished answers)
  | .returned | .raised => none

-- Its await raises: the awaited call failed, or the task was cancelled.
def Lifetime.throw (l : Lifetime) : Option Lifetime :=
  match l.startup with
  | .created | .waitingLeg | .subscribing => if l.cancelling then some l.raises else none
  | .connecting | .authorizing | .starting | .publishing => some l.raises
  | .returned | .raised => none

-- The condition in the finally block.
abbrev Lifetime.leaves (l : Lifetime) : Prop := l.aborted = true ∨ (l.stopping = true ∧ l.ready = false)

-- The end of the entrypoint, once the startup task is done: except clauses and finally.
def Lifetime.finish (l : Lifetime) (quiet cleansQuiet : Bool) : Option Lifetime :=
  if l.entered = true ∨ l.startup.done = false then none
  else
    let l := if l.startup = .raised then (l.abort quiet).1 else l
    let l := {l with entered := true}
    some (if l.leaves then l.clean .entrypoint cleansQuiet else l)

-- What control.receive makes of a packet: it may accept a human_answered, and may raise.
structure Receipt where
  answers : Bool
  escapes : Bool

-- An accepted human_answered creates the stop task, unless an exception comes first.
def Lifetime.receive (l : Lifetime) (receipt : Receipt) : Lifetime :=
  if l.stopping = false ∧ receipt.answers = true then
    {l with stopping := true, stopTask := if receipt.escapes then l.stopTask else .running}
  else l

def Lifetime.stopEnds (l : Lifetime) (ending : Ending) : Option Lifetime :=
  if l.stopTask = .running ∧ ending ≠ .timesOut then some {l with stopTask := .ended ending} else none

-- on_data, while it is registered.
def Lifetime.onData (l : Lifetime) (receipt : Receipt) (quiet : Bool) : Option Lifetime :=
  if l.registered.contains "data_received" then
    if l.aborted then some l
    else
      let l := l.receive receipt
      some (if receipt.escapes = false ∧ l.stopping = true ∧ l.ready = false then (l.abort quiet).1 else l)
  else none

-- How asyncio.wait_for(close(), timeout=2) can end. The history and the publisher gather
-- their task with return_exceptions, control.close awaits the stop task, and what
-- session.aclose does is the SDK's.
def Lifetime.canEnd (l : Lifetime) (r : Resource) (ending : Ending) : Bool :=
  match r with
  | .history | .publisher => ending ≠ .cancelled
  | .session => true
  | .control => ending = .timesOut ||
    match l.stopTask with
    | .absent => ending = .returns
    | .running => false
    | .ended result => ending = result

-- `except Exception: pass`, and the next turn of the loop.
def Lifetime.closed (l : Lifetime) (ending : Ending) : Option Lifetime :=
  match l.body with
  | .closing caller current pending =>
    if l.canEnd current ending = false then none
    else if ending = .cancelled then some {l with body := .raised}
    else some (l.closeNext caller pending)
  | _ => none

def Lifetime.gathered (l : Lifetime) : Option Lifetime :=
  match l.body with
  | .gathering caller => if l.startup.done then some (l.closeNext caller resources) else none
  | _ => none

-- A CancelledError at an await of the body leaves cleanup().
def Lifetime.cancelCleanup (l : Lifetime) : Option Lifetime :=
  match l.body with
  | .gathering _ | .closing _ _ _ => some {l with body := .raised}
  | _ => none

inductive Event where
  | resume (answers : Answers)
  | throw
  | deadline                          -- of the startup
  | cancelEntry                       -- the SDK cancels the entrypoint, which awaits the startup
  | abort (quiet : Bool)              -- from the room, the session or the publisher
  | packet (receipt : Receipt) (quiet : Bool)
  | jobShutdown (quiet : Bool)        -- the SDK calls cleanup()
  | finish (quiet cleansQuiet : Bool)
  | gathered
  | closed (ending : Ending)
  | stopEnds (ending : Ending)        -- of the stop task
  | cancelCleanup

def step (l : Lifetime) : Event → Option Lifetime
  | .resume answers => l.resume answers
  | .throw => l.throw
  | .deadline | .cancelEntry => some l.cancelStartup
  | .abort quiet => some (l.abort quiet).1
  | .packet receipt quiet => l.onData receipt quiet
  | .jobShutdown quiet => some (l.clean .sdk quiet)
  | .finish quiet cleansQuiet => l.finish quiet cleansQuiet
  | .gathered => l.gathered
  | .closed ending => l.closed ending
  | .stopEnds ending => l.stopEnds ending
  | .cancelCleanup => l.cancelCleanup

-- The running cleanup() is not cancelled.
def Uncancelled (_ : Lifetime) : Event → Prop
  | .cancelCleanup => False
  | _ => True

-- Nothing is created before the profile is authorized.
def Early : Startup → Bool
  | .created | .connecting | .waitingLeg | .authorizing => true
  | _ => false

-- How far the closes are: those made, followed by those the loop still makes or has left
-- out, are the closes of everything that is present.
def Closes (l : Lifetime) : Prop :=
  match l.body with
  | .idle | .gathering _ => l.closes = []
  | .closing _ _ pending => l.closes ≠ [] ∧ l.startup.done = true ∧
    l.closes ++ pending.filter l.present = resources.filter l.present
  | .returned => l.startup.done = true ∧ l.closes = resources.filter l.present
  | .raised => l.closes = [] ∨
    l.startup.done = true ∧ ∃ rest, l.closes ++ rest = resources.filter l.present

-- Before cleanup() everything is registered and no call of it has been made.
structure Entered (l : Lifetime) : Prop where
  before : l.cleaned = false → l.registered = Lifetime.initial.registered ∧ l.admissionClosed = false ∧ l.body = .idle ∧
    l.bodies = 0 ∧ l.returned = []
  after : l.cleaned = true → l.registered = [] ∧ l.bodies = 1 ∧ l.body ≠ .idle

structure Owned (l : Lifetime) : Prop where
  early : Early l.startup = true → l.created = []
  nodup : l.created.Nodup
  own : .control ∉ l.created
  entered : Entered l
  closes : Closes l

-- What all but cleanup() leaves alone.
structure Works (l l' : Lifetime) : Prop where
  registered : l'.registered = l.registered
  admissionClosed : l'.admissionClosed = l.admissionClosed
  cleaned : l'.cleaned = l.cleaned
  body : l'.body = l.body
  bodies : l'.bodies = l.bodies
  returned : l'.returned = l.returned
  closes : l'.closes = l.closes

theorem Works.refl (l : Lifetime) : Works l l := ⟨rfl,rfl,rfl,rfl,rfl,rfl,rfl⟩

theorem Works.trans (first : Works l middle) (second : Works middle l') : Works l l' :=
  ⟨second.registered.trans first.registered,second.admissionClosed.trans first.admissionClosed,
    second.cleaned.trans first.cleaned,second.body.trans first.body,second.bodies.trans first.bodies,
    second.returned.trans first.returned,second.closes.trans first.closes⟩

theorem entered_works (entered : Entered l) (works : Works l l') : Entered l' := by
  refine ⟨?_,?_⟩
  · rw [works.registered,works.admissionClosed,works.cleaned,works.body,works.bodies,works.returned]
    exact entered.before
  · rw [works.registered,works.cleaned,works.body,works.bodies]
    exact entered.after

-- Work of the startup task, or of the handlers, that creates nothing after its end.
theorem owned_works (owned : Owned l) (works : Works l l') (early : Early l'.startup = true → l'.created = [])
    (nodup : l'.created.Nodup) (own : .control ∉ l'.created)
    (done : l.startup.done = true → l'.startup = l.startup ∧ l'.created = l.created) : Owned l' := by
  refine ⟨early,nodup,own,entered_works owned.entered works,?_⟩
  have closes := owned.closes
  have ended : l.startup.done = true → l'.startup.done = true ∧ l'.present = l.present := by
    intro finished
    obtain ⟨startup,created⟩ := done finished
    refine ⟨startup ▸ finished,?_⟩
    funext r
    rw [Lifetime.present,Lifetime.present,created]
  unfold Closes at *
  rw [works.body,works.closes]
  cases body : l.body with
  | idle | gathering =>
    rw [body] at closes
    exact closes
  | closing caller current pending =>
    rw [body] at closes
    obtain ⟨begun,done,whole⟩ := closes
    obtain ⟨finished,same⟩ := ended done
    exact ⟨begun,finished,same ▸ whole⟩
  | returned =>
    rw [body] at closes
    obtain ⟨finished,same⟩ := ended closes.1
    exact ⟨finished,same ▸ closes.2⟩
  | raised =>
    rw [body] at closes
    rcases closes with none | ⟨done,whole⟩
    · exact .inl none
    · obtain ⟨finished,same⟩ := ended done
      exact .inr ⟨finished,same ▸ whole⟩

-- Work that creates nothing and does not go back before the authorization.
structure Proceeds (l l' : Lifetime) : Prop extends Works l l' where
  created : l'.created = l.created
  later : Early l'.startup = false

theorem proceeds_returns (l : Lifetime) : Proceeds l l.returns := ⟨⟨rfl,rfl,rfl,rfl,rfl,rfl,rfl⟩,rfl,rfl⟩
theorem proceeds_raises (l : Lifetime) : Proceeds l l.raises := ⟨⟨rfl,rfl,rfl,rfl,rfl,rfl,rfl⟩,rfl,rfl⟩

theorem Proceeds.after (works : Works l middle) (created : middle.created = l.created) (rest : Proceeds middle l') :
    Proceeds l l' := ⟨works.trans rest.toWorks,rest.created.trans created,rest.later⟩

theorem proceeds_checked {next : Lifetime → Lifetime} (rest : Proceeds l (next l)) :
    Proceeds l (l.checked answers next) := by
  unfold Lifetime.checked
  split
  · exact proceeds_raises l
  · split
    · exact proceeds_returns l
    · exact rest

-- cancel() and abort() leave the startup task where it stands.
theorem works_cancel (l : Lifetime) : Works l l.cancelStartup ∧ l.cancelStartup.startup = l.startup ∧
    l.cancelStartup.created = l.created := by
  unfold Lifetime.cancelStartup
  split
  · exact ⟨.refl l,rfl,rfl⟩
  · exact ⟨⟨rfl,rfl,rfl,rfl,rfl,rfl,rfl⟩,rfl,rfl⟩

theorem works_abort (l : Lifetime) (quiet : Bool) : Works l (l.abort quiet).1 ∧ (l.abort quiet).1.startup = l.startup ∧
    (l.abort quiet).1.created = l.created := by
  unfold Lifetime.abort
  have flagged : Works l {l with aborted := true} := ⟨rfl,rfl,rfl,rfl,rfl,rfl,rfl⟩
  split
  · exact ⟨.refl l,rfl,rfl⟩
  · split
    · obtain ⟨works,startup,created⟩ := works_cancel {l with aborted := true}
      exact ⟨flagged.trans works,startup,created⟩
    · exact ⟨flagged,rfl,rfl⟩

theorem works_receive (l : Lifetime) (receipt : Receipt) : Works l (l.receive receipt) ∧
    (l.receive receipt).startup = l.startup ∧ (l.receive receipt).created = l.created := by
  unfold Lifetime.receive
  split
  · exact ⟨⟨rfl,rfl,rfl,rfl,rfl,rfl,rfl⟩,rfl,rfl⟩
  · exact ⟨.refl l,rfl,rfl⟩

theorem proceeds_subscribe (l : Lifetime) (answers : Answers) : Proceeds l (l.subscribeAudio answers) := by
  have requested : Works l (if answers.requests then (l,true) else l.abort answers.quiet).1 ∧
      (if answers.requests then (l,true) else l.abort answers.quiet).1.created = l.created := by
    split
    · exact ⟨.refl l,rfl⟩
    · exact ⟨(works_abort l answers.quiet).1,(works_abort l answers.quiet).2.2⟩
  unfold Lifetime.subscribeAudio
  generalize (if answers.requests then (l,true) else l.abort answers.quiet) = result at requested
  obtain ⟨middle,went⟩ := result
  obtain ⟨works,created⟩ := requested
  split
  · exact proceeds_raises l
  · cases went with
    | false => exact .after works created (proceeds_raises middle)
    | true =>
      dsimp only
      split
      · refine .after works created (proceeds_checked ?_)
        split
        · exact ⟨⟨rfl,rfl,rfl,rfl,rfl,rfl,rfl⟩,rfl,rfl⟩
        · exact proceeds_raises middle
      · exact .after works created ⟨⟨rfl,rfl,rfl,rfl,rfl,rfl,rfl⟩,rfl,rfl⟩

theorem proceeds_ready (l : Lifetime) (answers : Answers) : Proceeds l (l.readyPublished answers) := by
  refine proceeds_checked ?_
  split
  · exact proceeds_raises l
  · split
    · exact ⟨⟨rfl,rfl,rfl,rfl,rfl,rfl,rfl⟩,rfl,rfl⟩
    · exact ⟨⟨rfl,rfl,rfl,rfl,rfl,rfl,rfl⟩,rfl,rfl⟩

theorem owned_proceeds (owned : Owned l) (running : l.startup.done = false) (proceeds : Proceeds l l') : Owned l' := by
  refine owned_works owned proceeds.toWorks ?_ ?_ ?_ ?_
  · intro early
    rw [proceeds.later] at early
    cases early
  · exact proceeds.created ▸ owned.nodup
  · exact proceeds.created ▸ owned.own
  · intro done
    rw [running] at done
    cases done

-- The steps before the authorization.
theorem owned_waits (owned : Owned l) (running : Early l.startup = true) (startup : Startup) :
    Owned {l with startup := startup} := by
  have created := owned.early running
  refine owned_works owned ⟨rfl,rfl,rfl,rfl,rfl,rfl,rfl⟩ (fun _ => created) owned.nodup owned.own ?_
  intro done
  cases same : l.startup <;> simp_all [Early,Startup.done]

theorem owned_wait (owned : Owned l) (running : Early l.startup = true) (answers : Answers) : Owned (l.wait answers) := by
  unfold Lifetime.wait
  split
  · exact owned_waits owned running .raised
  · split
    · exact owned_waits owned running .authorizing
    · exact owned_waits owned running .waitingLeg

theorem made_nodup (creation : Creation) : creation.made.Nodup ∧ .control ∉ creation.made := by
  cases creation <;> decide

theorem owned_authorized (owned : Owned l) (authorizing : l.startup = .authorizing) (answers : Answers) :
    Owned (l.authorized answers) := by
  have running : l.startup.done = false := by rw [authorizing]; rfl
  have created : l.created = [] := owned.early (by rw [authorizing]; rfl)
  obtain ⟨nodup,own⟩ := made_nodup answers.creation
  have makes : Owned (l.create answers.creation) := by
    have whole : (l.create answers.creation).created = answers.creation.made := by
      rw [Lifetime.create,created,List.nil_append]
    refine owned_works owned ⟨rfl,rfl,rfl,rfl,rfl,rfl,rfl⟩ ?_ (whole ▸ nodup) (whole ▸ own) ?_
    · intro early
      unfold Lifetime.create at early
      dsimp only at early
      split at early <;> cases early
    · intro done
      rw [running] at done
      cases done
  unfold Lifetime.authorized Lifetime.checked
  split
  · split
    · exact owned_proceeds owned running (proceeds_raises l)
    · split
      · exact owned_proceeds owned running (proceeds_returns l)
      · exact makes
  · exact owned_proceeds owned running (proceeds_raises l)

theorem owned_resume (owned : Owned l) (next : l.resume answers = some l') : Owned l' := by
  unfold Lifetime.resume at next
  have running : ∀ {at_}, l.startup = at_ → at_.done = false → l.startup.done = false := fun same open_ => same ▸ open_
  have early : ∀ {at_}, l.startup = at_ → Early at_ = true → Early l.startup = true := fun same before => same ▸ before
  cases startup : l.startup with
  | created =>
    simp only [startup] at next
    split at next
    · cases next
    · cases next
      exact owned_waits owned (early startup rfl) .connecting
  | connecting =>
    simp only [startup] at next
    cases next
    exact owned_wait owned (early startup rfl) answers
  | waitingLeg =>
    simp only [startup] at next
    split at next
    · cases next
    · cases next
      exact owned_wait owned (early startup rfl) answers
  | authorizing =>
    simp only [startup] at next
    cases next
    exact owned_authorized owned startup answers
  | starting =>
    simp only [startup] at next
    cases next
    exact owned_proceeds owned (running startup rfl) (proceeds_subscribe l answers)
  | subscribing =>
    simp only [startup] at next
    split at next
    · cases next
    · cases next
      exact owned_proceeds owned (running startup rfl) (proceeds_subscribe l answers)
  | publishing =>
    simp only [startup] at next
    cases next
    exact owned_proceeds owned (running startup rfl) (proceeds_ready l answers)
  | returned | raised => simp [startup] at next

theorem throw_raises {l l' : Lifetime} (next : l.throw = some l') : l.startup.done = false ∧ l' = l.raises := by
  unfold Lifetime.throw at next
  cases startup : l.startup with
  | created | waitingLeg | subscribing =>
    simp only [startup] at next
    split at next
    · cases next
      exact ⟨rfl,rfl⟩
    · cases next
  | connecting | authorizing | starting | publishing =>
    simp only [startup] at next
    cases next
    exact ⟨rfl,rfl⟩
  | returned | raised => simp [startup] at next

-- The loop closes what is present of the rest, and changes nothing else.
theorem closeNext_frame (l : Lifetime) (caller : Caller) (pending : List Resource) :
    (l.closeNext caller pending).created = l.created ∧ (l.closeNext caller pending).startup = l.startup ∧
      (l.closeNext caller pending).registered = l.registered ∧ (l.closeNext caller pending).cleaned = l.cleaned ∧
      (l.closeNext caller pending).bodies = l.bodies ∧ (l.closeNext caller pending).body ≠ .idle := by
  induction pending with
  | nil => exact ⟨rfl,rfl,rfl,rfl,rfl,by simp [Lifetime.closeNext]⟩
  | cons r rest ih =>
    rw [Lifetime.closeNext]
    split
    · exact ⟨rfl,rfl,rfl,rfl,rfl,by simp⟩
    · exact ih

theorem closeNext_closes {l : Lifetime} {pending : List Resource} (done : l.startup.done = true) (caller : Caller)
    (whole : l.closes ++ pending.filter l.present = resources.filter l.present) : Closes (l.closeNext caller pending) := by
  induction pending with
  | nil =>
    rw [List.filter_nil,List.append_nil] at whole
    exact ⟨done,whole⟩
  | cons r rest ih =>
    rw [Lifetime.closeNext]
    split
    · rename_i there
      rw [List.filter_cons_of_pos there,List.append_cons] at whole
      exact ⟨by simp,done,whole⟩
    · rename_i absent
      rw [List.filter_cons_of_neg absent] at whole
      exact ih whole

-- The synchronous beginning of the body.
def Lifetime.withdrawn (l : Lifetime) : Lifetime :=
  {l with cleaned := true, bodies := l.bodies + 1, ready := false, admissionClosed := true, registered := []}

theorem clean_first (entered : Entered l) (fresh : l.cleaned = false) (caller : Caller) (quiet : Bool) :
    l.clean caller quiet =
      if l.silences quiet = false then {l.withdrawn with body := .raised}
      else if l.startup.done then l.withdrawn.closeNext caller resources
      else {l.withdrawn with body := .gathering caller}.cancelStartup := by
  obtain ⟨registered,open_,_⟩ := entered.before fresh
  have none : (admissionHandlers.foldl List.erase Lifetime.initial.registered).erase "data_received" = [] := by decide
  have admission : ∀ k : Lifetime, k.admissionClosed = false →
      k.closeAdmission = {k with admissionClosed := true, registered := admissionHandlers.foldl List.erase k.registered} := by
    intro k isOpen
    rw [Lifetime.closeAdmission,isOpen]
    rfl
  have begun : ({l with cleaned := true, bodies := l.bodies + 1, ready := false} : Lifetime).admissionClosed = false := open_
  unfold Lifetime.clean
  rw [if_neg (by rw [fresh]; decide),admission _ begun]
  dsimp only
  rw [registered,none]
  rfl

theorem owned_clean (owned : Owned l) (caller : Caller) (quiet : Bool) : Owned (l.clean caller quiet) := by
  cases cleaned : l.cleaned with
  | true =>
    unfold Lifetime.clean
    rw [if_pos cleaned]
    have unset : ∀ {P : Prop}, l.cleaned = false → P := by
      intro P fresh
      rw [cleaned] at fresh
      cases fresh
    exact ⟨owned.early,owned.nodup,owned.own,⟨unset,owned.entered.after⟩,owned.closes⟩
  | false =>
    rw [clean_first owned.entered cleaned]
    obtain ⟨_,_,idle,bodies,_⟩ := owned.entered.before cleaned
    have closes := owned.closes
    rw [Closes,idle] at closes
    have first : l.withdrawn.bodies = 1 := by rw [Lifetime.withdrawn,bodies]
    have begun : ∀ body, body ≠ .idle → Entered {l.withdrawn with body := body} :=
      fun body some_ => ⟨(fun fresh => by cases fresh),fun _ => ⟨rfl,first,some_⟩⟩
    split
    · exact ⟨owned.early,owned.nodup,owned.own,begun .raised (by simp),.inl closes⟩
    · split
      · rename_i done
        obtain ⟨created,startup,registered,cleaned_,bodies_,body⟩ := closeNext_frame l.withdrawn caller resources
        have unclosed : l.withdrawn.closes = [] := closes
        have ended : l.withdrawn.startup.done = true := done
        have whole : Closes (l.withdrawn.closeNext caller resources) :=
          closeNext_closes ended caller (by rw [unclosed,List.nil_append])
        refine ⟨?_,created ▸ owned.nodup,created ▸ owned.own,⟨?_,fun _ => ⟨registered,bodies_.trans first,body⟩⟩,whole⟩
        · rw [startup,created]
          exact owned.early
        · intro fresh
          rw [cleaned_] at fresh
          cases fresh
      · obtain ⟨works,startup,created⟩ := works_cancel {l.withdrawn with body := .gathering caller}
        have gathering : Owned {l.withdrawn with body := .gathering caller} :=
          ⟨owned.early,owned.nodup,owned.own,begun (.gathering caller) (by simp),closes⟩
        refine owned_works gathering works ?_ (created ▸ owned.nodup) (created ▸ owned.own) fun _ => ⟨startup,created⟩
        rw [startup,created]
        exact owned.early

-- Bookkeeping of the handlers that touches neither the cleanup nor the startup.
theorem owned_same (owned : Owned l) (works : Works l l') (startup : l'.startup = l.startup)
    (created : l'.created = l.created) : Owned l' := by
  refine owned_works owned works ?_ (created ▸ owned.nodup) (created ▸ owned.own) fun _ => ⟨startup,created⟩
  rw [startup,created]
  exact owned.early

theorem owned_cancel (owned : Owned l) : Owned l.cancelStartup := by
  obtain ⟨works,startup,created⟩ := works_cancel l
  exact owned_same owned works startup created

theorem owned_abort (owned : Owned l) (quiet : Bool) : Owned (l.abort quiet).1 := by
  obtain ⟨works,startup,created⟩ := works_abort l quiet
  exact owned_same owned works startup created

-- The end of the entrypoint is that of its startup task, and then a call of cleanup()
-- where the call is over. A cleanup that has begun leaves no abort to the except clauses.
theorem finish_cases {l l' : Lifetime} (next : l.finish quiet cleansQuiet = some l') :
    ∃ middle, Works l middle ∧ middle.startup = l.startup ∧ middle.created = l.created ∧
      (l.cleaned = true → (middle.leaves ↔ l.leaves)) ∧
      ((middle.leaves ∧ l' = middle.clean .entrypoint cleansQuiet) ∨ (¬ middle.leaves ∧ l' = middle)) := by
  unfold Lifetime.finish at next
  split at next
  · cases next
  · have aborted : Works l (if l.startup = .raised then (l.abort quiet).1 else l) ∧
        (if l.startup = .raised then (l.abort quiet).1 else l).startup = l.startup ∧
        (if l.startup = .raised then (l.abort quiet).1 else l).created = l.created ∧
        (l.cleaned = true → (if l.startup = .raised then (l.abort quiet).1 else l) = l) := by
      split
      · obtain ⟨works,startup,created⟩ := works_abort l quiet
        refine ⟨works,startup,created,fun cleaned => ?_⟩
        rw [Lifetime.abort,if_pos (.inr cleaned)]
      · exact ⟨.refl l,rfl,rfl,fun _ => rfl⟩
    generalize (if l.startup = .raised then (l.abort quiet).1 else l) = middle at aborted next
    obtain ⟨works,startup,created,unchanged⟩ := aborted
    have entered : Works l {middle with entered := true} := works.trans ⟨rfl,rfl,rfl,rfl,rfl,rfl,rfl⟩
    refine ⟨{middle with entered := true},entered,startup,created,fun cleaned => ?_,?_⟩
    · rw [unchanged cleaned]
    · cases next
      split
      · rename_i over_
        exact .inl ⟨over_,rfl⟩
      · rename_i staying
        exact .inr ⟨staying,rfl⟩

theorem owned_finish (owned : Owned l) (next : l.finish quiet cleansQuiet = some l') : Owned l' := by
  obtain ⟨middle,works,startup,created,_,ends⟩ := finish_cases next
  have ended := owned_same owned works startup created
  rcases ends with ⟨_,rfl⟩ | ⟨_,rfl⟩
  · exact owned_clean ended .entrypoint cleansQuiet
  · exact ended

theorem owned_data (owned : Owned l) (next : l.onData receipt quiet = some l') : Owned l' := by
  unfold Lifetime.onData at next
  split at next
  · split at next
    · cases next
      exact owned
    · obtain ⟨works,startup,created⟩ := works_receive l receipt
      have heard : Owned (l.receive receipt) := owned_same owned works startup created
      cases next
      split
      · exact owned_abort heard quiet
      · exact heard
  · cases next

theorem begun_cleaned (owned : Owned l) (begun : l.body ≠ .idle) : l.cleaned = true := by
  cases fresh : l.cleaned with
  | true => rfl
  | false => exact absurd (owned.entered.before fresh).2.2.1 begun

-- The loop goes on, whatever the last close came to.
theorem owned_closeNext (owned : Owned l) (left : l.body ≠ .idle) (caller : Caller) (done : l.startup.done = true)
    (whole : l.closes ++ pending.filter l.present = resources.filter l.present) :
    Owned (l.closeNext caller pending) := by
  obtain ⟨created,startup,registered,cleaned_,bodies,body⟩ := closeNext_frame l caller pending
  have begun := begun_cleaned owned left
  obtain ⟨off,once,_⟩ := owned.entered.after begun
  refine ⟨?_,created ▸ owned.nodup,created ▸ owned.own,⟨?_,fun _ => ⟨registered.trans off,bodies.trans once,body⟩⟩,
    closeNext_closes done caller whole⟩
  · rw [startup,created]
    exact owned.early
  · intro fresh
    rw [cleaned_,begun] at fresh
    cases fresh

theorem owned_raised (owned : Owned l) (left : l.body ≠ .idle)
    (closes : Closes {l with body := .raised}) : Owned {l with body := .raised} := by
  obtain ⟨off,once,_⟩ := owned.entered.after (begun_cleaned owned left)
  refine ⟨owned.early,owned.nodup,owned.own,⟨fun fresh => ?_,fun _ => ⟨off,once,by simp⟩⟩,closes⟩
  exact absurd (owned.entered.before fresh).2.2.1 left

theorem closed_cases {l l' : Lifetime} (next : l.closed ending = some l') :
    ∃ caller current pending, l.body = .closing caller current pending ∧
      ((ending = .cancelled ∧ l' = {l with body := .raised}) ∨ (ending ≠ .cancelled ∧ l' = l.closeNext caller pending)) := by
  unfold Lifetime.closed at next
  split at next
  · rename_i caller current pending body
    split at next
    · cases next
    · split at next
      · rename_i cancelled
        cases next
        exact ⟨caller,current,pending,body,.inl ⟨cancelled,rfl⟩⟩
      · rename_i caught
        cases next
        exact ⟨caller,current,pending,body,.inr ⟨caught,rfl⟩⟩
  · cases next

theorem stopEnds_works {l l' : Lifetime} (next : l.stopEnds ending = some l') : Works l l' ∧ l'.startup = l.startup ∧
    l'.created = l.created := by
  unfold Lifetime.stopEnds at next
  split at next
  · cases next
    exact ⟨⟨rfl,rfl,rfl,rfl,rfl,rfl,rfl⟩,rfl,rfl⟩
  · cases next

theorem gathered_exact {l l' : Lifetime} (next : l.gathered = some l') : ∃ caller, l.body = .gathering caller ∧ l.startup.done = true ∧
    l' = l.closeNext caller resources := by
  unfold Lifetime.gathered at next
  split at next
  · rename_i caller body
    split at next
    · rename_i done
      cases next
      exact ⟨caller,body,done,rfl⟩
    · cases next
  · cases next

theorem step_owned (owned : Owned l) (uncancelled : Uncancelled l event) (next : step l event = some l') : Owned l' := by
  cases event with
  | resume answers => exact owned_resume owned next
  | throw =>
    obtain ⟨running,same⟩ := throw_raises next
    rw [same]
    exact owned_proceeds owned running (proceeds_raises l)
  | deadline => cases next; exact owned_cancel owned
  | cancelEntry => cases next; exact owned_cancel owned
  | abort quiet => cases next; exact owned_abort owned quiet
  | packet receipt quiet => exact owned_data owned next
  | jobShutdown quiet => cases next; exact owned_clean owned .sdk quiet
  | finish quiet cleansQuiet => exact owned_finish owned next
  | gathered =>
    obtain ⟨caller,body,done,same⟩ := gathered_exact next
    have closes := owned.closes
    rw [Closes,body] at closes
    rw [same]
    exact owned_closeNext owned (by rw [body]; simp) caller done (by rw [show l.closes = [] from closes,List.nil_append])
  | closed ending =>
    obtain ⟨caller,current,pending,body,ends⟩ := closed_cases (show l.closed ending = some l' from next)
    have closes := owned.closes
    rw [Closes,body] at closes
    obtain ⟨begun,done,whole⟩ := closes
    have left : l.body ≠ .idle := by rw [body]; simp
    rcases ends with ⟨_,rfl⟩ | ⟨_,rfl⟩
    · exact owned_raised owned left (.inr ⟨done,_,whole⟩)
    · exact owned_closeNext owned left caller done whole
  | stopEnds ending =>
    obtain ⟨works,startup,created⟩ := stopEnds_works (show l.stopEnds ending = some l' from next)
    exact owned_same owned works startup created
  | cancelCleanup => exact uncancelled.elim

theorem initial_owned : Owned .initial :=
  ⟨fun _ => rfl,.nil,List.not_mem_nil,⟨fun _ => ⟨rfl,rfl,rfl,rfl,rfl⟩,(fun cleaned => by cases cleaned)⟩,rfl⟩

end AidaAgent.Teardown
