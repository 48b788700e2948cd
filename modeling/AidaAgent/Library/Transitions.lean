import Mathlib

namespace Transitions

-- A system is a partial step function: `none` means that the event cannot happen
-- in that state. `allowed` states what the environment promises about a step.
variable {State Event : Type} {step : State → Event → Option State}
  {allowed : State → Event → Prop}

inductive Runs (step : State → Event → Option State) (allowed : State → Event → Prop) :
    State → List Event → State → Prop where
  | nil : Runs step allowed s [] s
  | step : Runs step allowed origin earlier middle → allowed middle event →
      step middle event = some after → Runs step allowed origin (earlier ++ [event]) after

def Anything (_ : State) (_ : Event) : Prop := True

theorem Runs.append (left : Runs step allowed before earlier middle)
    (right : Runs step allowed middle later after) : Runs step allowed before (earlier ++ later) after := by
  induction right with
  | nil => simpa using left
  | step _ promised next ih => simpa only [List.append_assoc] using Runs.step ih promised next

theorem Runs.single (promised : allowed before event) (next : step before event = some after) :
    Runs step allowed before [event] after := by
  simpa using Runs.step Runs.nil promised next

theorem Runs.cons (promised : allowed before event) (next : step before event = some middle)
    (rest : Runs step allowed middle later after) : Runs step allowed before (event :: later) after :=
  (Runs.single promised next).append rest

theorem Runs.weaken {weaker : State → Event → Prop} (implied : ∀ s e, allowed s e → weaker s e)
    (path : Runs step allowed before events after) : Runs step weaker before events after := by
  induction path with
  | nil => exact .nil
  | step _ promised next ih => exact .step ih (implied _ _ promised) next

theorem Runs.invariant {holds : State → Prop} (path : Runs step allowed before events after)
    (preserved : ∀ s e s', holds s → allowed s e → step s e = some s' → holds s')
    (start : holds before) : holds after := by
  induction path with
  | nil => exact start
  | step _ promised next ih => exact preserved _ _ _ ih promised next

-- A reflexive and transitive relation that each step establishes, under an
-- invariant of the run, relates both ends of the run.
theorem Runs.related {holds : State → Prop} {rel : State → State → Prop}
    (path : Runs step allowed before events after) (start : holds before)
    (preserved : ∀ s e s', holds s → allowed s e → step s e = some s' → holds s')
    (refl : ∀ s, rel s s) (trans : ∀ a b c, rel a b → rel b c → rel a c)
    (each : ∀ s e s', holds s → allowed s e → step s e = some s' → rel s s') : rel before after := by
  induction path with
  | nil => exact refl _
  | step prior promised next ih =>
    exact trans _ _ _ ih (each _ _ _ (prior.invariant preserved start) promised next)

theorem Runs.nil_ends (path : Runs step allowed before [] after) : before = after := by
  generalize empty : ([] : List Event) = events at path
  cases path with
  | nil => rfl
  | step => simp at empty

theorem Runs.uncons (path : Runs step allowed before (event :: later) after) :
    ∃ middle, allowed before event ∧ step before event = some middle ∧
      Runs step allowed middle later after := by
  generalize whole : event :: later = events at path
  induction path generalizing later with
  | nil => cases whole
  | @step earlier middle last after prior promised next ih =>
    cases earlier with
    | nil =>
      obtain ⟨rfl,rfl⟩ := List.cons.inj whole
      rw [Runs.nil_ends prior]
      exact ⟨_,promised,next,.nil⟩
    | cons head tail =>
      obtain ⟨rfl,rfl⟩ := List.cons.inj whole
      obtain ⟨first,allowedFirst,stepFirst,rest⟩ := ih rfl
      exact ⟨first,allowedFirst,stepFirst,rest.step promised next⟩

def run (step : State → Event → Option State) : State → List Event → Option State
  | s,[] => some s
  | s,event :: rest => (step s event).bind (run step · rest)

theorem run_exact : run step before events = some after ↔ Runs step Anything before events after := by
  induction events generalizing before with
  | nil =>
    constructor
    · intro same
      cases Option.some.inj same
      exact .nil
    · intro path
      rw [path.nil_ends]
      rfl
  | cons event rest ih =>
    constructor
    · intro ran
      obtain ⟨middle,next,tail⟩ := Option.bind_eq_some_iff.mp ran
      exact .cons trivial next (ih.mp tail)
    · intro path
      obtain ⟨middle,_,next,tail⟩ := path.uncons
      simp [run,next,ih.mpr tail]

theorem Runs.split (path : Runs step allowed before (earlier ++ later) after) :
    ∃ middle, Runs step allowed before earlier middle ∧ Runs step allowed middle later after := by
  induction earlier generalizing before with
  | nil => exact ⟨before,.nil,path⟩
  | cons event rest ih =>
    obtain ⟨first,promised,next,tail⟩ := path.uncons
    obtain ⟨middle,left,right⟩ := ih tail
    exact ⟨middle,.cons promised next left,right⟩

theorem Runs.unique {promised : State → Event → Prop} (one : Runs step allowed before events after)
    (two : Runs step promised before events other) : after = other := by
  have first := run_exact.mpr (one.weaken fun _ _ _ => trivial)
  rw [run_exact.mpr (two.weaken fun _ _ _ => trivial)] at first
  exact (Option.some.inj first).symm

-- Where a good state stays good in exactly the fine steps, a run passes through
-- good states only if and only if each of its steps is fine.
theorem Runs.exactly {holds good : State → Prop} {fine : State → Event → Prop}
    (path : Runs step allowed before events after) (start : holds before) (begun : good before)
    (preserved : ∀ s e s', holds s → allowed s e → step s e = some s' → holds s')
    (each : ∀ s e s', holds s → allowed s e → good s → step s e = some s' → (good s' ↔ fine s e)) :
    (∀ earlier later middle, events = earlier ++ later → Runs step allowed before earlier middle → good middle) ↔
      Runs step fine before events after := by
  induction path with
  | nil =>
    constructor
    · intro _
      exact .nil
    · intro _ earlier later middle empty passed
      obtain ⟨rfl,_⟩ := List.append_eq_nil_iff.mp empty.symm
      rwa [← passed.nil_ends]
  | @step earlier middle event after prior promised next ih =>
    have known := prior.invariant preserved start
    have whole := Runs.step prior promised next
    constructor
    · intro passes
      have before := ih.mp fun front back state same => passes front (back ++ [event]) state (by rw [same,List.append_assoc])
      have here := passes earlier [event] middle rfl prior
      exact .step before ((each _ _ _ known promised here next).mp (passes _ [] after (by simp) whole)) next
    · intro fineRun front back state same passed
      obtain ⟨at_,fineFront,last⟩ := fineRun.split
      cases prior.unique fineFront
      have before := ih.mpr fineFront
      have here := before earlier [] middle (by simp) prior
      obtain ⟨_,fineLast,stepped,done⟩ := last.uncons
      rcases List.eq_nil_or_concat back with empty | ⟨init,final,shape⟩
      · subst empty
        rw [List.append_nil] at same
        subst same
        rw [passed.unique whole]
        exact (each _ _ _ known promised here next).mpr fineLast
      · subst shape
        rw [List.concat_eq_append,← List.append_assoc] at same
        exact before front init state (List.append_inj_left' same rfl) passed

-- What a run has got at its end, had not at its start, and can get by steps of one kind
-- only, it got by such a step.
theorem Runs.origin {holds got : State → Prop} {cause : State → Event → Prop}
    (path : Runs step allowed before events after) (start : holds before)
    (preserved : ∀ s e s', holds s → allowed s e → step s e = some s' → holds s') (without : ¬ got before)
    (each : ∀ s e s', holds s → allowed s e → step s e = some s' → got s' → got s ∨ cause s e) (held : got after) :
    ∃ earlier event later middle, events = earlier ++ event :: later ∧ Runs step allowed before earlier middle ∧
      cause middle event := by
  induction path with
  | nil => exact absurd held without
  | @step events middle event after prior promised next ih =>
    rcases each _ _ _ (prior.invariant preserved start) promised next held with already | caused
    · obtain ⟨earlier,first,later,origin,whole,front,caused⟩ := ih already
      exact ⟨earlier,first,later ++ [event],origin,by rw [whole,List.append_assoc,List.cons_append],front,caused⟩
    · exact ⟨events,event,[],middle,rfl,prior,caused⟩

-- Where each step of one system is a run of another, under an invariant of the first, so
-- are its runs.
theorem Runs.simulated {State' Event' : Type} {step' : State' → Event' → Option State'}
    {allowed' : State' → Event' → Prop} (holds : State → Prop) (view : State → State')
    (path : Runs step allowed before events after) (start : holds before)
    (preserved : ∀ s e s', holds s → allowed s e → step s e = some s' → holds s')
    (each : ∀ s e s', holds s → allowed s e → step s e = some s' → ∃ events', Runs step' allowed' (view s) events' (view s')) :
    ∃ events', Runs step' allowed' (view before) events' (view after) := by
  induction path with
  | nil => exact ⟨[],.nil⟩
  | step prior promised next ih =>
    obtain ⟨earlier,front⟩ := ih
    obtain ⟨later,back⟩ := each _ _ _ (prior.invariant preserved start) promised next
    exact ⟨earlier ++ later,front.append back⟩

-- Events that change nothing can be deleted from a run.
def kept (step : State → Event → Option State) (idle : State → Event → Bool) :
    State → List Event → List Event
  | _,[] => []
  | s,event :: rest =>
    let tail := kept step idle ((step s event).getD s) rest
    if idle s event then tail else event :: tail

theorem run_kept {idle : State → Event → Bool}
    (unchanged : ∀ s e, idle s e = true → step s e = some s)
    (ran : run step before events = some after) :
    run step before (kept step idle before events) = some after := by
  induction events generalizing before with
  | nil => simpa [kept] using ran
  | cons event rest ih =>
    obtain ⟨middle,next,tail⟩ := Option.bind_eq_some_iff.mp ran
    have shorter := ih tail
    cases skipped : idle before event with
    | true =>
      have same := unchanged _ _ skipped
      rw [same] at next
      cases Option.some.inj next
      simpa [kept,skipped,same] using shorter
    | false => simpa [kept,skipped,next,run] using shorter

-- What a run puts out, step by step.
def emitted {Output : Type} (step : State → Event → Option State) (emit : State → Event → List Output) :
    State → List Event → List Output
  | _,[] => []
  | s,event :: rest => emit s event ++ emitted step emit ((step s event).getD s) rest

theorem emitted_snoc {Output : Type} {emit : State → Event → List Output}
    (path : Runs step allowed before events middle) :
    emitted step emit before (events ++ [event]) = emitted step emit before events ++ emit middle event := by
  induction events generalizing before with
  | nil =>
    rw [path.nil_ends]
    simp [emitted]
  | cons first rest ih =>
    obtain ⟨next,_,stepped,tail⟩ := path.uncons
    simp [emitted,stepped,ih tail]

-- Where each step of one system puts out the events by which another goes from the view
-- of the one state to that of the next, what a run puts out is a run of the other.
theorem Runs.refined {State' Event' : Type} {step' : State' → Event' → Option State'}
    {emit : State → Event → List Event'} (holds : State → Prop) (view : State → State')
    (path : Runs step allowed before events after) (start : holds before)
    (preserved : ∀ s e s', holds s → allowed s e → step s e = some s' → holds s')
    (each : ∀ s e s', holds s → allowed s e → step s e = some s' → Runs step' Anything (view s) (emit s e) (view s')) :
    Runs step' Anything (view before) (emitted step emit before events) (view after) := by
  induction path with
  | nil => exact .nil
  | step prior promised next ih =>
    rw [emitted_snoc prior]
    exact ih.append (each _ _ _ (prior.invariant preserved start) promised next)

-- Two runs whose events match, from states that are alike, put out the same and end
-- alike if each pair of matching steps does.
theorem Runs.paired {Output : Type} {emit : State → Event → List Output} {alike : State → State → Prop}
    {matched : Event → Event → Prop} (one : Runs step allowed before events after)
    (two : Runs step allowed before' events' after') (start : alike before before')
    (related : List.Forall₂ matched events events')
    (each : ∀ s s' e e' t t', alike s s' → matched e e' → allowed s e → allowed s' e' → step s e = some t →
      step s' e' = some t' → alike t t' ∧ emit s e = emit s' e') :
    alike after after' ∧ emitted step emit before events = emitted step emit before' events' := by
  induction related generalizing before before' with
  | nil =>
    rw [← one.nil_ends,← two.nil_ends]
    exact ⟨start,rfl⟩
  | cons same _ ih =>
    obtain ⟨middle,promised,stepped,rest⟩ := one.uncons
    obtain ⟨middle',promised',stepped',rest'⟩ := two.uncons
    obtain ⟨alike_,out⟩ := each _ _ _ _ _ _ start same promised promised' stepped stepped'
    obtain ⟨ends,outs⟩ := ih rest rest' alike_
    simp only [emitted,stepped,stepped',Option.getD_some]
    exact ⟨ends,by rw [out,outs]⟩

end Transitions
