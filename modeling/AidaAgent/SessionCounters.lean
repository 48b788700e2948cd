import AidaAgent.Library.Tally
import AidaAgent.WorkerStatus

namespace AidaAgent.Status
open PythonDict Tally Transitions

variable {E S : Type}

-- What a notification tells of its executor, if it tells anything.
def observation : Event E S → Option (E × JobState)
  | .jobUpdated executor true jobStatus => (jobState jobStatus).map fun state => (executor,state)
  | _ => none

def observations (events : List (Event E S)) : List (E × JobState) := events.filterMap observation

theorem observations_append (events : List (Event E S)) (event : Event E S) :
    observations (events ++ [event]) = observations events ++ (observation event).toList := by
  unfold observations
  rw [List.filterMap_append]
  cases told : observation event <;> simp [told]

variable [DecidableEq E] {s s' : Server E S} {log : List (E × JobState)}

-- The counters and the weak map against the log of what was observed.
structure Counted (s : Server E S) (log : List (E × JobState)) : Prop where
  keyed : (keys s.status.jobs).Nodup
  held : ∀ e, e ∉ s.gone → s.status.jobs.lookup e =
    if e ∈ reported log then some ((first JobState.terminal log e).getD .running) else none
  ended : ∀ e ∈ s.gone, e ∈ settled JobState.terminal log
  started : s.status.startedSessions = (reported log).card
  processed : s.status.processedSessions = (settled JobState.terminal log).card
  failed : s.status.failedSessions = (settledAs JobState.terminal .failed log).card
  active : s.status.activeSessions = s.status.startedSessions - s.status.processedSessions

theorem initial_counted : Counted (Server.initial : Server E S) [] :=
  ⟨List.nodup_nil,fun _ _ => rfl,fun _ member => (List.not_mem_nil member).elim,rfl,rfl,rfl,rfl⟩

-- A step that touches neither.
theorem Counted.quiet (counted : Counted s log) (jobs : s'.status.jobs = s.status.jobs) (gone : s'.gone = s.gone)
    (started : s'.status.startedSessions = s.status.startedSessions)
    (active : s'.status.activeSessions = s.status.activeSessions)
    (processed : s'.status.processedSessions = s.status.processedSessions)
    (failed : s'.status.failedSessions = s.status.failedSessions) : Counted s' log := by
  refine ⟨jobs ▸ counted.keyed,?_,gone ▸ counted.ended,started ▸ counted.started,processed ▸ counted.processed,
    failed ▸ counted.failed,?_⟩
  · rw [jobs,gone]
    exact counted.held
  · rw [active,started,processed]
    exact counted.active

-- The three things an observation can find.
theorem enter_counted (counted : Counted s log) (here : executor ∉ s.gone) (new : executor ∉ reported log) :
    Counted {s with status := s.status.enter executor} (log ++ [(executor,.running)]) := by
  have open_ : executor ∉ settled JobState.terminal log := fun member => new (settled_reported member)
  have settled_ : settled JobState.terminal (log ++ [(executor,.running)]) = settled JobState.terminal log := by
    rw [settled_push,if_neg (by decide)]
  have failed_ : settledAs JobState.terminal .failed (log ++ [(executor,.running)]) =
      settledAs JobState.terminal .failed log := by
    rw [settledAs_push,if_neg (by simp [JobState.terminal])]
  have reported_ : reported (log ++ [(executor,JobState.running)]) = insert executor (reported log) :=
    reported_push executor JobState.running
  refine ⟨keys_put counted.keyed executor .running,?_,?_,?_,?_,?_,?_⟩
  · intro e present
    have before := counted.held e present
    unfold WorkerStatus.enter
    dsimp only
    rw [lookup_put,reported_,first_push]
    by_cases own : e = executor
    · subst own
      simp [first_none.mpr open_,JobState.terminal]
    · simp [own,before]
  · rw [settled_]
    exact counted.ended
  · rw [reported_,Finset.card_insert_of_notMem new,← counted.started]
    rfl
  · rw [settled_,← counted.processed]
    rfl
  · rw [failed_,← counted.failed]
    rfl
  · have active := counted.active
    unfold WorkerStatus.enter
    dsimp only
    push_cast
    omega

theorem settle_counted (counted : Counted s log) (known : executor ∈ reported log)
    (open_ : executor ∉ settled JobState.terminal log) (final : state.terminal = true) :
    Counted {s with status := s.status.settle executor state} (log ++ [(executor,state)]) := by
  have reported_ : reported (log ++ [(executor,state)]) = reported log := by
    rw [reported_push,Finset.insert_eq_self.mpr known]
  have settled_ : settled JobState.terminal (log ++ [(executor,state)]) = insert executor (settled JobState.terminal log) := by
    rw [settled_push,if_pos final]
  refine ⟨keys_put counted.keyed executor state,?_,?_,?_,?_,?_,?_⟩
  · intro e present
    have before := counted.held e present
    unfold WorkerStatus.settle
    dsimp only
    rw [lookup_put,reported_,first_push]
    by_cases own : e = executor
    · subst own
      simp [first_none.mpr open_,final,known]
    · simp [own,before]
  · intro e gone
    rw [settled_]
    exact Finset.mem_insert_of_mem (counted.ended e gone)
  · rw [reported_,← counted.started]
    rfl
  · rw [settled_,Finset.card_insert_of_notMem open_,← counted.processed]
    rfl
  · by_cases fails : state = .failed
    · subst fails
      have unfailed : executor ∉ settledAs JobState.terminal .failed log := fun member => open_ (settledAs_settled _ member)
      rw [settledAs_push,if_pos ⟨open_,final,rfl⟩,Finset.card_insert_of_notMem unfailed,← counted.failed]
      rfl
    · rw [settledAs_push,if_neg (fun fresh => fails fresh.2.2),← counted.failed]
      show s.status.failedSessions + (if state = .failed then 1 else 0) = s.status.failedSessions
      rw [if_neg fails,Nat.add_zero]
  · have active := counted.active
    unfold WorkerStatus.settle
    dsimp only
    push_cast
    omega

-- Only what the log says of each executor counts.
theorem Counted.congr {other : List (E × JobState)} (counted : Counted s log) (reported_ : reported other = reported log)
    (settled_ : settled JobState.terminal other = settled JobState.terminal log)
    (first_ : ∀ e, first JobState.terminal other e = first JobState.terminal log e) : Counted s other := by
  have failed_ : settledAs JobState.terminal .failed other = settledAs JobState.terminal .failed log := by
    ext e
    rw [mem_settledAs,mem_settledAs,first_]
  refine ⟨counted.keyed,?_,settled_ ▸ counted.ended,reported_ ▸ counted.started,settled_ ▸ counted.processed,
    failed_ ▸ counted.failed,counted.active⟩
  intro e present
  rw [reported_,first_]
  exact counted.held e present

theorem repeat_counted (counted : Counted s log) (known : executor ∈ reported log)
    (idle : state.terminal = true → executor ∈ settled JobState.terminal log) :
    Counted s (log ++ [(executor,state)]) := by
  refine counted.congr ?_ ?_ fun e => ?_
  · rw [reported_push,Finset.insert_eq_self.mpr known]
  · rw [settled_push]
    split
    · rename_i final
      exact Finset.insert_eq_self.mpr (idle final)
    · rfl
  · rw [first_push]
    cases found : first JobState.terminal log e with
    | some outcome => rfl
    | none =>
      have stays : ¬ (e = executor ∧ state.terminal = true) := by
        rintro ⟨rfl,final⟩
        exact first_none.mp found (idle final)
      rw [if_neg stays]
      rfl

-- An executor that is new and settled at once counts as one that ran before.
theorem sudden_counted (counted : Counted s (log ++ [(executor,.running)] ++ [(executor,state)])) :
    Counted s (log ++ [(executor,state)]) := by
  refine counted.congr ?_ ?_ fun e => ?_
  · rw [reported_push,reported_push,reported_push,Finset.insert_idem]
  · rw [settled_push,settled_push,settled_push]
    rfl
  · rw [first_push,first_push,first_push,if_neg (fun both : e = executor ∧ JobState.running.terminal = true => by cases both.2),
      Option.or_none]

-- An observation, whatever it finds: the executor new, running, or settled.
theorem observe_counted (counted : Counted s log) (here : executor ∉ s.gone) (state : JobState) :
    Counted {s with status := s.status.observeJob executor state} (log ++ [(executor,state)]) := by
  have held := counted.held executor here
  by_cases known : executor ∈ reported log
  · rw [if_pos known] at held
    have listed : executor ∈ keys s.status.jobs := lookup_isSome.mp (by rw [held]; rfl)
    unfold WorkerStatus.observeJob
    dsimp only
    rw [if_pos listed,held]
    by_cases done : executor ∈ settled JobState.terminal log
    · obtain ⟨outcome,found⟩ := Option.ne_none_iff_exists'.mp fun none_ => first_none.mp none_ done
      have settled_ : ¬ (some ((some outcome).getD .running) = some JobState.running ∧ state.terminal = true) := by
        rintro ⟨same,_⟩
        have running : outcome = .running := Option.some.inj same
        rw [running] at found
        cases first_terminal found
      rw [found,if_neg settled_]
      exact repeat_counted counted known fun _ => done
    · rw [first_none.mpr done]
      by_cases final : state.terminal = true
      · rw [if_pos ⟨rfl,final⟩]
        exact settle_counted counted known done final
      · rw [if_neg fun both => final both.2]
        exact repeat_counted counted known fun done => absurd done final
  · rw [if_neg known] at held
    have unlisted : executor ∉ keys s.status.jobs := by
      rw [← lookup_isSome,held]
      exact Bool.false_ne_true
    have entered := enter_counted counted here known
    have own : (s.status.enter executor).jobs.lookup executor = some .running := by
      unfold WorkerStatus.enter
      dsimp only
      rw [lookup_put,if_pos rfl]
    unfold WorkerStatus.observeJob
    dsimp only
    rw [if_neg unlisted,own]
    by_cases final : state.terminal = true
    · rw [if_pos ⟨rfl,final⟩]
      refine sudden_counted (settle_counted entered ?_ ?_ final)
      · rw [reported_push]
        exact Finset.mem_insert_self _ _
      · rw [settled_push,if_neg (by decide)]
        exact fun member => known (settled_reported member)
    · rw [if_neg fun both => final both.2]
      cases state with
      | running => exact entered
      | success => exact absurd rfl final
      | failed => exact absurd rfl final

theorem collected_counted (counted : Counted s log) (held : s.status.jobs.lookup executor = some outcome)
    (ended : outcome ≠ .running) : Counted
      {s with status := {s.status with jobs := erase s.status.jobs executor},gone := executor :: s.gone} log := by
  refine ⟨keys_filter counted.keyed _,?_,?_,counted.started,counted.processed,counted.failed,counted.active⟩
  · intro e present
    have other : e ≠ executor := fun same => present (same ▸ List.mem_cons_self)
    dsimp only
    rw [lookup_erase counted.keyed,if_neg other]
    exact counted.held e fun gone => present (List.mem_cons_of_mem _ gone)
  · intro e gone
    rcases List.mem_cons.mp gone with rfl | before
    · by_contra open_
      have here : e ∉ s.gone := fun before => open_ (counted.ended e before)
      have entry := counted.held e here
      rw [held,first_none.mpr open_] at entry
      split at entry
      · exact ended (Option.some.inj entry)
      · cases entry
    · exact counted.ended e before

theorem updated_counted (counted : Counted s log) (here : executor ∉ s.gone) (runningJob : Bool) (jobStatus : JobStatus) :
    Counted {s with status := s.status.updateJobStatus executor runningJob jobStatus}
      (log ++ (observation (Event.jobUpdated executor runningJob jobStatus : Event E S)).toList) := by
  unfold WorkerStatus.updateJobStatus observation
  cases runningJob with
  | false => exact (List.append_nil log).symm ▸ counted
  | true =>
    cases told : jobState jobStatus with
    | none =>
      simp only [told]
      exact (List.append_nil log).symm ▸ counted
    | some state =>
      simp only [told]
      exact observe_counted counted here state

variable [DecidableEq S]

theorem counted_step (counted : Counted s log) (moved : step s event = some s') :
    Counted s' (log ++ (observation event).toList) := by
  have unheard : ∀ {after : Server E S}, observation event = none → Counted after log → Counted after (log ++ (observation event).toList) := by
    intro after none_ still
    rw [none_]
    exact (List.append_nil log).symm ▸ still
  cases step_cases moved with
  | jobUpdated here => exact updated_counted counted here _ _
  | collected held ended => exact unheard rfl (collected_counted counted held ended)
  | clears severs =>
    refine unheard ?_ (counted.quiet rfl rfl rfl rfl rfl rfl)
    cases event with
    | jobUpdated => cases severs
    | _ => rfl
  | registers | begins | socketCloses | draining => exact unheard rfl (counted.quiet rfl rfl rfl rfl rfl rfl)

theorem counted_run (path : Runs step Anything (Server.initial : Server E S) events s) : Counted s (observations events) := by
  induction path with
  | nil => exact initial_counted
  | step _ _ moved ih =>
    rw [observations_append]
    exact counted_step ih moved

-- The session counters count executors, however often and in whatever order they are
-- heard of.
theorem session_counters (path : Runs step Anything (Server.initial : Server E S) events s) :
    s.snapshot.sessions.started = (reported (observations events)).card ∧
      s.snapshot.sessions.processed = (settled JobState.terminal (observations events)).card ∧
      s.snapshot.sessions.failed = (settledAs JobState.terminal .failed (observations events)).card ∧
      s.snapshot.sessions.active = s.snapshot.sessions.started - s.snapshot.sessions.processed ∧
      0 ≤ s.snapshot.sessions.active ∧ 0 ≤ s.snapshot.sessions.completed ∧
      s.snapshot.sessions.completed + s.snapshot.sessions.failed = s.snapshot.sessions.processed := by
  have counted := counted_run path
  have begun : s.status.processedSessions ≤ s.status.startedSessions := by
    rw [counted.processed,counted.started]
    exact Finset.card_le_card settled_reported
  have ended : s.status.failedSessions ≤ s.status.processedSessions := by
    rw [counted.failed,counted.processed]
    exact Finset.card_le_card (settledAs_settled _)
  have active := counted.active
  unfold Server.snapshot WorkerStatus.snapshot
  dsimp only
  refine ⟨counted.started,counted.processed,counted.failed,active,?_,?_,?_⟩
  · omega
  · omega
  · omega

-- One that fails and is then said to have succeeded, one that runs on, and the first
-- gone.
def sampleJobs : List (Event Nat Nat) :=
  [.jobUpdated 1 true .running,.jobUpdated 2 true .running,.jobUpdated 1 true .failed,.jobUpdated 1 true .success,
   .jobUpdated 3 false .running,.collected 1]

theorem sample_counters : ∃ s : Server Nat Nat, run step Server.initial sampleJobs = some s ∧
    s.snapshot.sessions.started = 2 ∧ s.snapshot.sessions.processed = 1 ∧ s.snapshot.sessions.failed = 1 ∧
      s.snapshot.sessions.active = 1 := by
  obtain ⟨s,ran⟩ : ∃ s : Server Nat Nat, run step Server.initial sampleJobs = some s := ⟨_,rfl⟩
  obtain ⟨started,processed,failed,active,_⟩ := session_counters (run_exact.mp ran)
  have two : (reported (observations sampleJobs)).card = 2 := by decide
  have one : (settled JobState.terminal (observations sampleJobs)).card = 1 := by decide
  have lost : (settledAs JobState.terminal .failed (observations sampleJobs)).card = 1 := by decide
  rw [two] at started
  rw [one] at processed
  rw [started,processed] at active
  exact ⟨s,ran,started,processed,failed.trans lost,active⟩

end AidaAgent.Status
