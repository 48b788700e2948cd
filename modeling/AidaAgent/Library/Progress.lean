import AidaAgent.Library.Transitions

namespace Transitions
variable {State Event : Type} {step : State → Event → Option State} {allowed : State → Event → Prop}

-- `rank` says how much is left to do. Where something is, an event that does some of it
-- can happen, and nothing that happens makes it more.
structure Progresses (step : State → Event → Option State) (Held : State → Prop) (rank : State → Nat) : Prop where
  keeps : ∀ s event s', Held s → step s event = some s' → Held s' ∧ rank s' ≤ rank s
  goes : ∀ s, Held s → rank s ≠ 0 → ∃ event s', step s event = some s' ∧ rank s' < rank s

theorem Progresses.falls {Held : State → Prop} {rank : State → Nat} (progresses : Progresses step Held rank) (held : Held s)
    (path : Runs step allowed s events s') : Held s' ∧ rank s' ≤ rank s := by
  induction path with
  | nil => exact ⟨held,Nat.le_refl _⟩
  | step _ _ next ih =>
    obtain ⟨still,below⟩ := progresses.keeps _ _ _ ih.1 next
    exact ⟨still,Nat.le_trans below ih.2⟩

-- A schedule that does all that is left, and is no longer than that.
theorem Progresses.finishes {Held : State → Prop} {rank : State → Nat} (progresses : Progresses step Held rank) (held : Held s) :
    ∃ events s', Runs step Anything s events s' ∧ Held s' ∧ rank s' = 0 ∧ events.length ≤ rank s := by
  generalize size : rank s = n
  induction n using Nat.strongRecOn generalizing s with
  | ind n ih =>
    by_cases over_ : rank s = 0
    · exact ⟨[],s,.nil,held,over_,Nat.zero_le n⟩
    · obtain ⟨event,middle,next,less⟩ := progresses.goes s held over_
      obtain ⟨still,_⟩ := progresses.keeps s event middle held next
      have below : rank middle < n := size ▸ less
      obtain ⟨events,s',path,done,nothing,short⟩ := ih (rank middle) below still rfl
      refine ⟨event :: events,s',.cons trivial next path,done,nothing,?_⟩
      rw [List.length_cons]
      omega

end Transitions
