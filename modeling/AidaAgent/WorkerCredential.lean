import AidaAgent.WorkerEndings
import AidaAgent.WorkerRequest
import AidaAgent.WorkerWelcome

namespace AidaAgent.Worker
open JsonText Config Bootstrap Control Transitions

-- The POST of a job for the leg that it is bound to.
def Posted (setup : Setup) (j : Job) (leg : SipLeg) : Prop :=
  j.admission.leg = some leg ∧ j.posts = [bootstrapPost setup.baseUrl setup.dispatch setup.roomName leg]

-- What has become of the credential of a dispatch: it was posted at most once, with the
-- leg that the job is bound to, and a job without a POST has no profile.
structure Spent (setup : Setup) (j : Job) : Prop where
  early : j.startup.phase = 0 → j.posts = [] ∧ j.profile = none
  once : j.posts = [] ∨ ∃ leg, Posted setup j leg
  asked : j.startup = .authorizing → j.posts ≠ []
  given : j.profile ≠ none → j.posts ≠ []

theorem initial_spent (setup : Setup) (room : Room) : Spent setup (.initial setup room) :=
  ⟨fun _ => ⟨rfl,rfl⟩,.inl rfl,fun asked => (by cases asked),fun known => absurd rfl known⟩

theorem Spent.posted (spent : Spent setup j) (known : j.admission.leg = some leg) (made : j.posts ≠ []) : Posted setup j leg := by
  rcases spent.once with none_ | ⟨other,bound,one⟩
  · exact absurd none_ made
  · cases Option.some.inj (known.symm.trans bound)
    exact ⟨bound,one⟩

theorem step_spent (spent : Spent setup j) (next : step setup j event = some j') : Spent setup j' := by
  cases step_reaches next with
  | keeps leg profile posts phase =>
    refine ⟨fun still => ?_,?_,fun asked => ?_,?_⟩
    · rcases phase with same | past
      · rw [posts,profile]
        exact spent.early (same.symm.trans still)
      · cases past.symm.trans still
    · simp only [Posted,leg,posts]
      exact spent.once
    · rw [posts]
      rcases phase with same | past
      · exact spent.asked (phase_asked.mp (same.symm.trans (phase_asked.mpr asked)))
      · cases (phase_asked.mpr asked).symm.trans past
    · rw [posts,profile]
      exact spent.given
  | @asks leg early asked _ bound profile posts =>
    obtain ⟨unmade,unknown⟩ := spent.early early
    rw [unmade] at posts
    have made : j'.posts ≠ [] := by rw [posts]; simp
    refine ⟨fun still => ?_,.inr ⟨leg,bound,posts⟩,fun _ => made,fun _ => made⟩
    cases (phase_asked.mpr asked).symm.trans still
  | @granted leg call grants bound profile posts past =>
    have made : j'.posts ≠ [] := by
      rw [posts]
      exact spent.asked grants.1
    refine ⟨fun still => ?_,?_,fun _ => made,fun _ => made⟩
    · cases past.symm.trans still
    · have before := spent.posted grants.2.1 (spent.asked grants.1)
      exact .inr ⟨leg,bound,posts.trans before.2⟩

theorem run_spent (path : Runs (step setup) Anything (.initial setup room) events j) : Spent setup j :=
  path.invariant (fun _ _ _ spent _ next => step_spent spent next) (initial_spent setup room)

-- A step that posts is the first to do so, and posts with the one SIP participant that
-- the room has then.
theorem step_posts (spent : Spent setup j) (next : step setup j event = some j') (made : j'.posts ≠ j.posts) :
    j.posts = [] ∧ ∃ leg, Holds setup.routeTokenAttribute j.room leg ∧ Posted setup j' leg := by
  cases step_reaches next with
  | keeps _ _ same => exact absurd same made
  | granted _ _ _ same => exact absurd same made
  | @asks leg early _ admitted bound _ posts =>
    obtain ⟨unmade,_⟩ := spent.early early
    rw [unmade] at posts
    exact ⟨unmade,leg,admitLeg_exact admitted,bound,posts⟩

-- The size check on the way gives what one on the whole body would.
theorem joined_grows (raw : ByteArray) (chunks : List ByteArray) : raw.size ≤ (chunks.foldl (· ++ ·) raw).size := by
  induction chunks generalizing raw with
  | nil => exact Nat.le_refl _
  | cons chunk rest ih =>
    have more := ih (raw ++ chunk)
    rw [ByteArray.size_append] at more
    exact Nat.le_trans (Nat.le_add_right _ _) more

theorem readBody_joined {raw : ByteArray} (small : raw.size ≤ maxResponseBytes) (chunks : List ByteArray) :
    readBody raw chunks = if (chunks.foldl (· ++ ·) raw).size > maxResponseBytes then refuse "bootstrap response too large"
      else .ok (chunks.foldl (· ++ ·) raw) := by
  induction chunks generalizing raw with
  | nil => exact (if_neg (Nat.not_lt.mpr small)).symm
  | cons chunk rest ih =>
    rw [readBody,List.foldl_cons]
    by_cases large : (raw ++ chunk).size > maxResponseBytes
    · rw [if_pos large,if_pos (Nat.lt_of_lt_of_le large (joined_grows (raw ++ chunk) rest))]
    · rw [if_neg large]
      exact ih (Nat.not_lt.mp large)

theorem authorize_joined (py : Interpreter) (dispatch : DispatchConfiguration) (roomName : String) (leg : SipLeg)
    (status : Nat) (contentType : String) (encoding : Option String) {chunks chunks' : List ByteArray}
    (same : chunks.foldl (· ++ ·) ByteArray.empty = chunks'.foldl (· ++ ·) ByteArray.empty) :
    authorize py dispatch roomName leg (.answered status contentType encoding chunks) =
      authorize py dispatch roomName leg (.answered status contentType encoding chunks') := by
  have empty : ByteArray.empty.size ≤ maxResponseBytes := Nat.zero_le _
  simp only [authorize]
  rw [readBody_joined empty,readBody_joined empty,same]

-- A dispatch's credential leaves the job at most once, for the call's own address, without
-- redirects, and with the leg that the room held then; only the answer to that POST can give
-- the job a profile, and it is judged as a whole.
structure Frugal (setup : Setup) (room : Room) (events : List Event) (j : Job) : Prop where
  once : j.posts = [] ∨ ∃ leg, Posted setup j leg
  fresh : ∀ event j', step setup j event = some j' → j'.posts ≠ j.posts →
    j.posts = [] ∧ ∃ leg, Holds setup.routeTokenAttribute j.room leg ∧ Posted setup j' leg
  direct : ∀ post ∈ j.posts, post.url = bootstrapUrl setup.baseUrl setup.dispatch.callId ∧ post.allowRedirects = false
  granted : ∀ call, j.profile = some call → ∃ leg, Posted setup j leg ∧ ∃ earlier event later middle,
    events = earlier ++ event :: later ∧ Runs (step setup) Anything (.initial setup room) earlier middle ∧
      Posted setup middle leg ∧ Grants setup middle event leg call
  whole : ∀ leg status contentType encoding chunks chunks',
    chunks.foldl (· ++ ·) ByteArray.empty = chunks'.foldl (· ++ ·) ByteArray.empty →
      authorize setup.py setup.dispatch setup.roomName leg (.answered status contentType encoding chunks) =
        authorize setup.py setup.dispatch setup.roomName leg (.answered status contentType encoding chunks')

theorem credential_once (path : Runs (step setup) Anything (.initial setup room) events j) : Frugal setup room events j := by
  have spent := run_spent path
  refine ⟨spent.once,fun event j' next made => step_posts spent next made,fun post member => ?_,fun call known => ?_,
    fun leg status contentType encoding _ _ same =>
      authorize_joined setup.py setup.dispatch setup.roomName leg status contentType encoding same⟩
  · rcases spent.once with none_ | ⟨leg,_,one⟩
    · rw [none_] at member
      cases member
    · rw [one] at member
      cases List.mem_singleton.mp member
      exact ⟨rfl,rfl⟩
  · rcases spent.once with none_ | ⟨leg,bound,one⟩
    · exact absurd none_ (spent.given (by rw [known]; simp))
    · obtain ⟨earlier,event,later,middle,whole,front,grants⟩ := profile_origin path bound known
      have before := run_spent front
      exact ⟨leg,⟨bound,one⟩,earlier,event,later,middle,whole,front,before.posted grants.2.1 (before.asked grants.1),grants⟩

theorem sample_credential : ∃ (room : Room) (events : List Event) (j : Job), j.profile.isSome = true ∧
    Frugal sampleSetup room events j := by
  obtain ⟨j,path,_,calls,control⟩ := welcome_opens sample_granted
  have ready : j.control.ready = true := by rw [control]; rfl
  obtain ⟨_,_,_,known⟩ := (run_held path).1.admitted.profiled (.inr ready)
  exact ⟨_,_,j,by rw [known]; rfl,credential_once path⟩

end AidaAgent.Worker
