import AidaAgent.WorkerTeardown

namespace AidaAgent.Teardown
open Transitions
open Worker (Startup)

-- cleanup() no longer waits for the startup task: its loop has begun.
def Gathered (l : Lifetime) : Prop :=
  match l.body with
  | .closing _ _ _ | .returned => True
  | .raised => l.closes ≠ []
  | .idle | .gathering _ => False

theorem gathered_done (owned : Owned l) (gathered : Gathered l) : l.startup.done = true ∧ l.cleaned = true := by
  have closes := owned.closes
  have begun : l.body ≠ .idle := by
    intro idle
    rw [Gathered,idle] at gathered
    exact gathered
  refine ⟨?_,begun_cleaned owned begun⟩
  unfold Closes at closes
  unfold Gathered at gathered
  cases body : l.body with
  | closing =>
    rw [body] at closes
    exact closes.2.1
  | returned =>
    rw [body] at closes
    exact closes.1
  | raised =>
    rw [body] at closes gathered
    rcases closes with none | ⟨done,_⟩
    · exact absurd none gathered
    · exact done
  | idle | gathering =>
    rw [body] at gathered
    exact gathered.elim

-- A close has been made only where the loop has begun.
theorem begun_gathered (owned : Owned l) (begun : l.closes ≠ []) : Gathered l := by
  have closes := owned.closes
  unfold Closes at closes
  unfold Gathered
  cases body : l.body with
  | idle | gathering =>
    rw [body] at closes
    exact absurd closes begun
  | closing | returned => exact trivial
  | raised => exact begun

-- One turn of the loop: it has come to its end, or the close of the next resource is made.
theorem closeNext_exact (l : Lifetime) (caller : Caller) (pending : List Resource) :
    (pending.filter l.present = [] ∧
        l.closeNext caller pending = {l with body := .returned, returned := caller :: l.returned}) ∨
      ∃ r rest, pending.filter l.present = r :: rest.filter l.present ∧
        l.closeNext caller pending = {l with closes := l.closes ++ [r], body := .closing caller r rest} := by
  induction pending with
  | nil => exact .inl ⟨rfl,rfl⟩
  | cons r rest ih =>
    rw [Lifetime.closeNext]
    split
    · rename_i there
      exact .inr ⟨r,rest,List.filter_cons_of_pos there,rfl⟩
    · rename_i absent
      rw [List.filter_cons_of_neg absent]
      exact ih

theorem closeNext_gathered (l : Lifetime) (caller : Caller) (pending : List Resource) :
    Gathered (l.closeNext caller pending) := by
  rcases closeNext_exact l caller pending with ⟨_,same⟩ | ⟨r,rest,_,same⟩
  · rw [same]; exact trivial
  · rw [same]; exact trivial

theorem gathered_works (gathered : Gathered l) (works : Works l l') : Gathered l' := by
  unfold Gathered
  rw [works.body,works.closes]
  exact gathered

theorem again_clean {l : Lifetime} (cleaned : l.cleaned = true) (caller : Caller) (quiet : Bool) :
    l.clean caller quiet = {l with returned := caller :: l.returned} := by
  unfold Lifetime.clean
  rw [if_pos cleaned]

-- Nothing is created once the startup task is over.
theorem gathered_step (owned : Owned l) (gathered : Gathered l) (uncancelled : Uncancelled l event)
    (next : step l event = some l') : Gathered l' ∧ l'.created = l.created := by
  obtain ⟨done,cleaned⟩ := gathered_done owned gathered
  cases event with
  | resume answers =>
    have never : l.resume answers = none := by
      unfold Lifetime.resume
      cases startup : l.startup <;> simp_all [Startup.done]
    cases never.symm.trans next
  | throw =>
    rw [(throw_raises next).1] at done
    cases done
  | deadline | cancelEntry =>
    cases next
    obtain ⟨works,_,created⟩ := works_cancel l
    exact ⟨gathered_works gathered works,created⟩
  | abort quiet =>
    cases next
    obtain ⟨works,_,created⟩ := works_abort l quiet
    exact ⟨gathered_works gathered works,created⟩
  | packet receipt quiet =>
    simp only [step,Lifetime.onData,(owned.entered.after cleaned).1] at next
    cases next
  | jobShutdown quiet =>
    cases next
    rw [again_clean cleaned]
    exact ⟨gathered,rfl⟩
  | finish quiet cleansQuiet =>
    obtain ⟨middle,works,_,created,_,ends⟩ := finish_cases (show l.finish quiet cleansQuiet = some l' from next)
    have still := gathered_works gathered works
    rcases ends with ⟨_,rfl⟩ | ⟨_,rfl⟩
    · rw [again_clean (works.cleaned.trans cleaned)]
      exact ⟨still,created⟩
    · exact ⟨still,created⟩
  | gathered =>
    obtain ⟨caller,body,_,_⟩ := gathered_exact next
    rw [Gathered,body] at gathered
    exact gathered.elim
  | closed ending =>
    obtain ⟨caller,current,pending,body,ends⟩ := closed_cases (show l.closed ending = some l' from next)
    have closes := owned.closes
    rw [Closes,body] at closes
    rcases ends with ⟨_,rfl⟩ | ⟨_,rfl⟩
    · exact ⟨closes.1,rfl⟩
    · exact ⟨closeNext_gathered l caller pending,(closeNext_frame l caller pending).1⟩
  | stopEnds ending =>
    obtain ⟨works,_,created⟩ := stopEnds_works (show l.stopEnds ending = some l' from next)
    exact ⟨gathered_works gathered works,created⟩
  | cancelCleanup => exact uncancelled.elim

theorem gathered_run (owned : Owned l) (gathered : Gathered l) (path : Runs step Uncancelled l later l') :
    l'.created = l.created := by
  have each : ∀ k event k', (Owned k ∧ Gathered k ∧ k.created = l.created) → Uncancelled k event → step k event = some k' →
      Owned k' ∧ Gathered k' ∧ k'.created = l.created := by
    intro k event k' known uncancelled next
    obtain ⟨after,same⟩ := gathered_step known.1 known.2.1 uncancelled next
    exact ⟨step_owned known.1 uncancelled next,after,same.trans known.2.2⟩
  exact (path.invariant each ⟨owned,gathered,rfl⟩).2.2

-- However the closes to come end, short of CancelledError, the loop makes them and returns.
theorem loop_finishes (endings : List Ending) {l : Lifetime} (body : l.body = .closing caller current pending)
    (caught : ∀ ending ∈ endings, ending ≠ .cancelled)
    (enough : endings.length = (pending.filter l.present).length + 1) (ran : run step l (endings.map .closed) = some l') :
    l'.body = .returned ∧ l'.closes = l.closes ++ pending.filter l.present := by
  induction endings generalizing l current pending with
  | nil => cases enough
  | cons ending rest ih =>
    obtain ⟨here,later⟩ := List.forall_mem_cons.mp caught
    rw [List.map_cons,run] at ran
    obtain ⟨middle,next,tail⟩ := Option.bind_eq_some_iff.mp ran
    obtain ⟨_,_,_,same,ends⟩ := closed_cases (show l.closed ending = some middle from next)
    cases body.symm.trans same
    rcases ends with ⟨cancelled,_⟩ | ⟨_,turned⟩
    · exact absurd cancelled here
    · rcases closeNext_exact l caller pending with ⟨none,done⟩ | ⟨r,others,some_,goes⟩
      · rw [none] at enough ⊢
        have last : rest = [] := List.length_eq_zero_iff.mp (by simpa using enough)
        rw [last] at tail
        cases tail
        rw [turned,done,List.append_nil]
        exact ⟨rfl,rfl⟩
      · rw [some_] at enough ⊢
        have fewer : rest.length = (others.filter l.present).length + 1 := by simpa using enough
        rw [turned,goes] at tail
        obtain ⟨returned,closes⟩ := ih (l := {l with closes := l.closes ++ [r], body := .closing caller r others}) rfl later
          fewer tail
        refine ⟨returned,closes.trans ?_⟩
        rw [List.append_assoc]
        rfl

-- What the teardown should keep to, in every state of a run.
structure TeardownRule (l : Lifetime) : Prop where
  once : l.bodies ≤ 1
  created : l.created.Nodup ∧ .control ∉ l.created
  nothing : Gathered l → ∀ later l', Runs step Uncancelled l later l' → l'.created = l.created
  closed : l.returned ≠ [] → l.closes.count .control = 1 ∧ ∀ r ∈ l.created, l.closes.count r = 1
  never : ∀ r, l.closes.count r ≤ 1 ∧ (l.present r = false → r ∉ l.closes)
  prevented : l.closes ≠ [] → (∀ caller current pending, l.body ≠ .closing caller current pending) →
    ∀ r, l.present r = true → r ∈ l.closes
  continues : ∀ caller current pending, ∀ endings : List Ending, ∀ l', l.body = .closing caller current pending →
    (∀ ending ∈ endings, ending ≠ .cancelled) → endings.length = (pending.filter l.present).length + 1 →
    run step l (endings.map .closed) = some l' → l'.body = .returned ∧ l'.closes = l.closes ++ pending.filter l.present
  unregistered : l.returned ≠ [] → l.registered = []

-- What is present and has not had its close made.
def Lifetime.outstanding (l : Lifetime) : List Resource :=
  (resources.filter l.present).filter fun r => !l.closes.contains r

theorem outstanding_nil (l : Lifetime) : l.outstanding = [] ↔ ∀ r, l.present r = true → r ∈ l.closes := by
  have every : ∀ r, r ∈ resources := by
    intro r
    cases r <;> decide
  rw [Lifetime.outstanding,List.filter_eq_nil_iff]
  constructor
  · intro none r there
    simpa using none r (List.mem_filter.mpr ⟨every r,there⟩)
  · intro whole r member
    simpa using whole r (List.mem_filter.mp member).2

-- The two ways of breaking the rule: a call has returned too early, or the loop was left.
structure Settled (l : Lifetime) : Prop where
  returned : l.returned ≠ [] → l.outstanding = []
  finished : l.body = .raised → l.closes ≠ [] → l.outstanding = []

theorem resources_once (l : Lifetime) : (resources.filter l.present).Nodup := by
  have nodup : resources.Nodup := by decide
  exact nodup.filter _

theorem closes_part (owned : Owned l) : ∃ rest, l.closes ++ rest = resources.filter l.present := by
  have closes := owned.closes
  unfold Closes at closes
  cases body : l.body with
  | idle | gathering =>
    rw [body] at closes
    exact ⟨_,by rw [closes,List.nil_append]⟩
  | closing =>
    rw [body] at closes
    exact ⟨_,closes.2.2⟩
  | returned =>
    rw [body] at closes
    exact ⟨[],by rw [List.append_nil,closes.2]⟩
  | raised =>
    rw [body] at closes
    rcases closes with none | ⟨_,whole⟩
    · exact ⟨_,by rw [none,List.nil_append]⟩
    · exact whole

theorem returned_whole (owned : Owned l) (returned : l.body = .returned) : l.outstanding = [] := by
  have closes := owned.closes
  rw [Closes,returned] at closes
  rw [outstanding_nil,closes.2]
  intro r there
  exact List.mem_filter.mpr ⟨by cases r <;> decide,there⟩

theorem owned_rule (owned : Owned l) : TeardownRule l ↔ Settled l := by
  obtain ⟨rest,whole⟩ := closes_part owned
  have nodup : l.closes.Nodup := (List.nodup_append.mp (whole ▸ resources_once l)).1
  have present : ∀ r ∈ l.created, l.present r = true := fun r made => by simp [Lifetime.present,made]
  constructor
  · intro rule
    refine ⟨fun returned => (outstanding_nil l).mpr fun r there => ?_,fun raised begun => ?_⟩
    · obtain ⟨control,others⟩ := rule.closed returned
      have counted : l.closes.count r = 1 := by
        cases own : l.created.contains r with
        | true => exact others r (by simpa using own)
        | false =>
          rw [Lifetime.present,own,Bool.or_false,decide_eq_true_eq] at there
          rw [there]
          exact control
      exact List.count_pos_iff.mp (by omega)
    · exact (outstanding_nil l).mpr (rule.prevented begun (by rw [raised]; simp))
  · intro settled
    refine ⟨?_,⟨owned.nodup,owned.own⟩,fun gathered _ _ => gathered_run owned gathered,?_,?_,?_,
      fun _ _ _ endings _ body caught enough ran => loop_finishes endings body caught enough ran,?_⟩
    · cases cleaned : l.cleaned with
      | true => exact (owned.entered.after cleaned).2.1.le
      | false => exact (owned.entered.before cleaned).2.2.2.1.le.trans (Nat.zero_le 1)
    · intro returned
      have every := (outstanding_nil l).mp (settled.returned returned)
      have counted := fun r there => List.count_eq_one_of_mem nodup (every r there)
      exact ⟨counted .control rfl,fun r made => counted r (present r made)⟩
    · intro r
      refine ⟨List.nodup_iff_count_le_one.mp nodup r,fun absent member => ?_⟩
      have there := (List.mem_filter.mp (whole ▸ List.mem_append_left rest member)).2
      rw [absent] at there
      cases there
    · intro begun stands
      apply (outstanding_nil l).mp
      have closes := owned.closes
      unfold Closes at closes
      cases body : l.body with
      | idle | gathering =>
        rw [body] at closes
        exact absurd closes begun
      | closing caller current pending => exact absurd body (stands caller current pending)
      | returned => exact returned_whole owned body
      | raised => exact settled.finished body begun
    · intro returned
      cases cleaned : l.cleaned with
      | true => exact (owned.entered.after cleaned).1
      | false => exact absurd (owned.entered.before cleaned).2.2.2.2 returned

-- The condition on one step: no close ends in CancelledError while others are to be made,
-- and cleanup() is called again only when all of them have been.
def Orderly (l : Lifetime) : Event → Prop
  | .closed .cancelled => l.outstanding = []
  | .jobShutdown _ => l.cleaned = true → l.outstanding = []
  | .finish _ _ => l.cleaned = true → l.leaves → l.outstanding = []
  | .cancelCleanup => False
  | _ => True

theorem orderly_uncancelled (orderly : Orderly l event) : Uncancelled l event := by
  cases event with
  | cancelCleanup => exact orderly
  | _ => exact trivial

-- The control is always there, so that nothing has been closed before the loop.
theorem control_outstanding {l : Lifetime} (none : l.closes = []) : l.outstanding ≠ [] := by
  intro empty
  have closed := (outstanding_nil l).mp empty .control rfl
  rw [none] at closed
  cases closed

theorem unclosed_settled {l : Lifetime} (none : l.closes = []) : Settled l ↔ l.returned = [] := by
  constructor
  · intro settled
    by_contra returned
    exact control_outstanding none (settled.returned returned)
  · intro waits
    exact ⟨fun returned => absurd waits returned,fun _ begun => absurd none begun⟩

-- All but cleanup() and the ends of its awaits.
theorem settled_works (owned : Owned l) (works : Works l l') (done : l.startup.done = true → l'.created = l.created) :
    Settled l' ↔ Settled l := by
  by_cases none : l.closes = []
  · rw [unclosed_settled none,unclosed_settled (works.closes.trans none),works.returned]
  · have finished := (gathered_done owned (begun_gathered owned none)).1
    have same : l'.outstanding = l.outstanding := by
      have present : l'.present = l.present := by
        funext r
        rw [Lifetime.present,Lifetime.present,done finished]
      rw [Lifetime.outstanding,Lifetime.outstanding,present,works.closes]
    constructor
    · intro settled
      exact ⟨fun returned => same ▸ settled.returned (works.returned ▸ returned),
        fun raised begun => same ▸ settled.finished (works.body ▸ raised) (works.closes ▸ begun)⟩
    · intro settled
      exact ⟨fun returned => same ▸ settled.returned (works.returned ▸ returned),
        fun raised begun => same ▸ settled.finished (works.body ▸ raised) (works.closes ▸ begun)⟩

theorem works_data {l l' : Lifetime} (next : l.onData receipt quiet = some l') : Works l l' ∧ l'.created = l.created := by
  unfold Lifetime.onData at next
  split at next
  · split at next
    · cases next
      exact ⟨.refl l,rfl⟩
    · obtain ⟨heard,_,created⟩ := works_receive l receipt
      obtain ⟨aborted,_,unmade⟩ := works_abort (l.receive receipt) quiet
      cases next
      split
      · exact ⟨heard.trans aborted,unmade.trans created⟩
      · exact ⟨heard,created⟩
  · cases next

theorem works_authorized (l : Lifetime) (answers : Answers) : Works l (l.authorized answers) := by
  have raises : Works l l.raises := (proceeds_raises l).toWorks
  unfold Lifetime.authorized Lifetime.checked
  split
  · split
    · exact raises
    · split
      · exact (proceeds_returns l).toWorks
      · exact ⟨rfl,rfl,rfl,rfl,rfl,rfl,rfl⟩
  · exact raises

theorem works_wait (l : Lifetime) (answers : Answers) : Works l (l.wait answers) := by
  unfold Lifetime.wait
  split
  · exact ⟨rfl,rfl,rfl,rfl,rfl,rfl,rfl⟩
  · split
    · exact ⟨rfl,rfl,rfl,rfl,rfl,rfl,rfl⟩
    · exact ⟨rfl,rfl,rfl,rfl,rfl,rfl,rfl⟩

theorem works_resume {l l' : Lifetime} (next : l.resume answers = some l') : l.startup.done = false ∧ Works l l' := by
  unfold Lifetime.resume at next
  cases startup : l.startup with
  | created =>
    simp only [startup] at next
    split at next
    · cases next
    · cases next
      exact ⟨rfl,rfl,rfl,rfl,rfl,rfl,rfl,rfl⟩
  | connecting =>
    simp only [startup] at next
    cases next
    exact ⟨rfl,works_wait l answers⟩
  | waitingLeg =>
    simp only [startup] at next
    split at next
    · cases next
    · cases next
      exact ⟨rfl,works_wait l answers⟩
  | authorizing =>
    simp only [startup] at next
    cases next
    exact ⟨rfl,works_authorized l answers⟩
  | starting =>
    simp only [startup] at next
    cases next
    exact ⟨rfl,(proceeds_subscribe l answers).toWorks⟩
  | subscribing =>
    simp only [startup] at next
    split at next
    · cases next
    · cases next
      exact ⟨rfl,(proceeds_subscribe l answers).toWorks⟩
  | publishing =>
    simp only [startup] at next
    cases next
    exact ⟨rfl,(proceeds_ready l answers).toWorks⟩
  | returned | raised => simp [startup] at next

-- A turn of the loop makes the next close, or returns with all of them made.
theorem turn_settled {l : Lifetime} {pending : List Resource} (waits : l.returned ≠ [] → l.outstanding = [])
    (whole : l.closes ++ pending.filter l.present = resources.filter l.present) :
    Settled (l.closeNext caller pending) := by
  rcases closeNext_exact l caller pending with ⟨none,same⟩ | ⟨r,rest,_,same⟩
  · rw [none,List.append_nil] at whole
    rw [same]
    refine ⟨fun _ => (outstanding_nil _).mpr fun r there => ?_,fun raised => by cases raised⟩
    exact whole ▸ List.mem_filter.mpr ⟨by cases r <;> decide,there⟩
  · rw [same]
    refine ⟨fun returned => (outstanding_nil _).mpr fun r there => ?_,fun raised => by cases raised⟩
    exact List.mem_append_left _ ((outstanding_nil l).mp (waits returned) r there)

theorem clean_settled (owned : Owned l) (settled : Settled l) (caller : Caller) (quiet : Bool) :
    Settled (l.clean caller quiet) ↔ (l.cleaned = true → l.outstanding = []) := by
  cases cleaned : l.cleaned with
  | true =>
    rw [again_clean cleaned]
    constructor
    · intro after _
      exact after.returned (by simp)
    · intro whole
      exact ⟨fun _ => whole rfl,fun raised begun => settled.finished raised begun⟩
  | false =>
    refine iff_of_true ?_ fun begun => by cases begun
    obtain ⟨_,_,idle,_,waits⟩ := owned.entered.before cleaned
    have none : l.closes = [] := by
      have closes := owned.closes
      rwa [Closes,idle] at closes
    rw [clean_first owned.entered cleaned]
    split
    · exact (unclosed_settled (l := {l.withdrawn with body := .raised}) none).mpr waits
    · split
      · refine turn_settled (fun returned => absurd waits returned) ?_
        rw [show l.withdrawn.closes = [] from none,List.nil_append]
      · obtain ⟨works,_,_⟩ := works_cancel {l.withdrawn with body := .gathering caller}
        exact (unclosed_settled (works.closes.trans none)).mpr (works.returned.trans waits)

theorem step_settled (owned : Owned l) (uncancelled : Uncancelled l event) (settled : Settled l)
    (next : step l event = some l') : Settled l' ↔ Orderly l event := by
  have worked : ∀ {k}, Works l k → (l.startup.done = true → k.created = l.created) → Settled k :=
    fun works done => (settled_works owned works done).mpr settled
  cases event with
  | resume answers =>
    obtain ⟨running,works⟩ := works_resume (show l.resume answers = some l' from next)
    refine iff_of_true (worked works fun done => ?_) trivial
    rw [running] at done
    cases done
  | throw =>
    obtain ⟨_,rfl⟩ := throw_raises (show l.throw = some l' from next)
    exact iff_of_true (worked (proceeds_raises l).toWorks fun _ => rfl) trivial
  | deadline | cancelEntry =>
    cases next
    obtain ⟨works,_,created⟩ := works_cancel l
    exact iff_of_true (worked works fun _ => created) trivial
  | abort quiet =>
    cases next
    obtain ⟨works,_,created⟩ := works_abort l quiet
    exact iff_of_true (worked works fun _ => created) trivial
  | packet receipt quiet =>
    obtain ⟨works,created⟩ := works_data (show l.onData receipt quiet = some l' from next)
    exact iff_of_true (worked works fun _ => created) trivial
  | jobShutdown quiet =>
    cases next
    exact clean_settled owned settled .sdk quiet
  | finish quiet cleansQuiet =>
    obtain ⟨middle,works,startup,created,same,ends⟩ := finish_cases (show l.finish quiet cleansQuiet = some l' from next)
    have ended := owned_same owned works startup created
    have still := worked works fun _ => created
    have outstanding : middle.outstanding = l.outstanding := by
      rw [Lifetime.outstanding,Lifetime.outstanding,works.closes,
        show middle.present = l.present from funext fun r => by rw [Lifetime.present,Lifetime.present,created]]
    rcases ends with ⟨leaves,rfl⟩ | ⟨stays,rfl⟩
    · rw [clean_settled ended still,works.cleaned,outstanding]
      exact ⟨fun whole cleaned _ => whole cleaned,fun whole cleaned => whole cleaned ((same cleaned).mp leaves)⟩
    · exact iff_of_true still fun cleaned leaves => absurd ((same cleaned).mpr leaves) stays
  | gathered =>
    obtain ⟨caller,body,_,rfl⟩ := gathered_exact (show l.gathered = some l' from next)
    have none : l.closes = [] := by
      have closes := owned.closes
      rwa [Closes,body] at closes
    exact iff_of_true (turn_settled settled.returned (by rw [none,List.nil_append])) trivial
  | closed ending =>
    obtain ⟨caller,current,pending,body,ends⟩ := closed_cases (show l.closed ending = some l' from next)
    have closes := owned.closes
    rw [Closes,body] at closes
    obtain ⟨begun,_,whole⟩ := closes
    rcases ends with ⟨rfl,rfl⟩ | ⟨caught,rfl⟩
    · exact ⟨fun after => after.finished rfl begun,fun made => ⟨settled.returned,fun _ _ => made⟩⟩
    · refine iff_of_true (turn_settled settled.returned whole) ?_
      cases ending with
      | cancelled => exact absurd rfl caught
      | _ => exact trivial
  | stopEnds ending =>
    obtain ⟨works,_,created⟩ := stopEnds_works (show l.stopEnds ending = some l' from next)
    exact iff_of_true (worked works fun _ => created) trivial
  | cancelCleanup => exact uncancelled.elim

-- A run keeps to the rule in every state it reaches if and only if each of its steps
-- meets the condition.
theorem teardown_exact (path : Runs step Uncancelled .initial events l) :
    (∀ earlier later middle, events = earlier ++ later → Runs step Uncancelled .initial earlier middle →
        TeardownRule middle) ↔ Runs step Orderly .initial events l := by
  have initial : Settled .initial := ⟨fun returned => absurd rfl returned,fun raised => by cases raised⟩
  have owned : ∀ {front state}, Runs step Uncancelled .initial front state → Owned state :=
    fun passed => passed.invariant (fun _ _ _ owned uncancelled next => step_owned owned uncancelled next) initial_owned
  rw [← path.exactly initial_owned initial (fun _ _ _ owned uncancelled next => step_owned owned uncancelled next)
    fun _ _ _ owned uncancelled settled next => step_settled owned uncancelled settled next]
  constructor
  · exact fun passes front back state same passed =>
      (owned_rule (owned passed)).mp (passes front back state same passed)
  · exact fun passes front back state same passed =>
      (owned_rule (owned passed)).mpr (passes front back state same passed)

def sampleAnswers : Answers := ⟨false,true,true,true,.complete,true,true,true,true,true⟩

-- The human answers a conversing call, and room.disconnect() ends in CancelledError: the
-- stop task has shut the job down, but control.close() raises what the task ended in.
def answeredEvents : List Event :=
  [.resume sampleAnswers,.resume sampleAnswers,.resume sampleAnswers,.resume sampleAnswers,.resume sampleAnswers,
    .finish true true,.packet ⟨true,false⟩ true,.stopEnds .cancelled,.jobShutdown true,
    .closed .returns,.closed .returns,.closed .cancelled]

def sampleUnclosed : Lifetime :=
  ⟨[],true,.returned,false,[.session,.publisher,.history],false,true,.ended .cancelled,false,true,true,.raised,1,[],
    [.history,.publisher,.control]⟩

theorem session_unclosed : Runs step Uncancelled .initial answeredEvents sampleUnclosed ∧
    .session ∈ sampleUnclosed.created ∧ .session ∉ sampleUnclosed.closes ∧ ¬ TeardownRule sampleUnclosed := by
  refine ⟨?_,by decide,by decide,fun rule => ?_⟩
  · iterate 11 apply Runs.cons trivial rfl
    exact Runs.single trivial rfl
  · have closed := rule.prevented (by decide) (fun _ _ _ => by simp [sampleUnclosed]) .session rfl
    revert closed
    decide

-- The room ends while session.start is awaited; the job is shut down, and the finally
-- block of the entrypoint finds cleanup() already running.
def sampleEvents : List Event :=
  [.resume sampleAnswers,.resume sampleAnswers,.resume sampleAnswers,.abort true,.jobShutdown true,.throw]

def sampleGathering : Lifetime :=
  ⟨[],true,.raised,true,[.session,.publisher,.history],false,false,.absent,true,true,false,.gathering .sdk,1,[],[]⟩

theorem sample_gathering : Runs step Orderly .initial sampleEvents sampleGathering := by
  iterate 4 apply Runs.cons trivial rfl
  apply Runs.cons (fun cleaned => by cases cleaned) rfl
  exact Runs.single trivial rfl

-- That second call returns at once, and no close has been made.
theorem early_return : ¬ ∀ events l, Runs step Uncancelled .initial events l → l.returned ≠ [] →
    l.closes.count .control = 1 ∧ ∀ r ∈ l.created, l.closes.count r = 1 := by
  intro claim
  have gathering := sample_gathering.weaken fun _ _ => orderly_uncancelled
  have again : step sampleGathering (.finish true true) =
      some {sampleGathering with entered := true, returned := [.entrypoint]} := rfl
  have promised : Uncancelled sampleGathering (.finish true true) := trivial
  have counts := (claim _ _ (gathering.step promised again) (by simp)).1
  cases counts

-- Where it comes after the loop instead, everything has been closed, though two of the
-- closes failed and the last one ended in CancelledError.
def closingEvents : List Event :=
  [.gathered,.closed .raises,.closed .timesOut,.closed .returns,.closed .cancelled,.finish true true]

def sampleClosed : Lifetime := {sampleGathering with
  entered := true, body := .raised, returned := [.entrypoint], closes := [.history,.publisher,.control,.session]}

theorem sample_closing : Runs step Orderly sampleGathering closingEvents sampleClosed := by
  iterate 4 apply Runs.cons trivial rfl
  refine Runs.cons ?_ rfl ?_
  · exact rfl
  · exact Runs.single (fun _ _ => rfl) rfl

theorem sample_teardown : Runs step Uncancelled .initial (sampleEvents ++ closingEvents) sampleClosed ∧
    TeardownRule sampleClosed ∧ ∀ earlier later middle, sampleEvents ++ closingEvents = earlier ++ later →
      Runs step Uncancelled .initial earlier middle → TeardownRule middle := by
  have orderly := sample_gathering.append sample_closing
  have path := orderly.weaken fun _ _ => orderly_uncancelled
  have rules := (teardown_exact path).mpr orderly
  exact ⟨path,rules _ [] _ (List.append_nil _).symm path,rules⟩

end AidaAgent.Teardown
