import AidaAgent.Library.Transitions

namespace AidaAgent.Lifecycle
open Transitions

-- A call as its parties see it: the startup, in which a takeover may already be asked for,
-- the conversation, the transfer to a human, the leave of the agent, and the end.
inductive Phase where
  | starting | summoned | conversing | transferring | leaving | closed
  deriving DecidableEq, Repr

inductive Move where
  | welcomed | requested | failed | answered | ended
  deriving DecidableEq, Repr

def step : Phase → Move → Option Phase
  | .starting,.welcomed => some .conversing
  | .summoned,.welcomed => some .transferring
  | .starting,.requested | .summoned,.requested => some .summoned
  | .conversing,.requested | .transferring,.requested => some .transferring
  | .starting,.failed | .summoned,.failed => some .starting
  | .conversing,.failed | .transferring,.failed => some .conversing
  | .starting,.answered | .summoned,.answered | .conversing,.answered | .transferring,.answered => some .leaving
  | .starting,.ended | .summoned,.ended | .conversing,.ended | .transferring,.ended | .leaving,.ended => some .closed
  | _,_ => none

def after (asked : Bool) : Move → Bool
  | .requested => true
  | .failed => false
  | _ => asked

-- A takeover was asked for and has not failed since.
def pending (moves : List Move) : Bool := moves.foldl after false

-- The phase that a call is in after its moves.
def reached (moves : List Move) : Phase :=
  if .ended ∈ moves then .closed
  else if .answered ∈ moves then .leaving
  else if .welcomed ∈ moves then (if pending moves then .transferring else .conversing)
  else if pending moves then .summoned else .starting

theorem pending_snoc (moves : List Move) (move : Move) : pending (moves ++ [move]) = after (pending moves) move := by
  unfold pending
  rw [List.foldl_append]
  rfl

-- What the moves so far say of a phase.
inductive Reached (moves : List Move) : Phase → Prop where
  | closed : .ended ∈ moves → Reached moves .closed
  | leaving : .ended ∉ moves → .answered ∈ moves → Reached moves .leaving
  | transferring : .ended ∉ moves → .answered ∉ moves → .welcomed ∈ moves → pending moves = true → Reached moves .transferring
  | conversing : .ended ∉ moves → .answered ∉ moves → .welcomed ∈ moves → pending moves = false → Reached moves .conversing
  | summoned : .ended ∉ moves → .answered ∉ moves → .welcomed ∉ moves → pending moves = true → Reached moves .summoned
  | starting : .ended ∉ moves → .answered ∉ moves → .welcomed ∉ moves → pending moves = false → Reached moves .starting

theorem reached_exact : Reached moves p ↔ p = reached moves := by
  constructor
  · intro facts
    unfold reached
    cases facts with
    | closed ended => rw [if_pos ended]
    | leaving going answered => rw [if_neg going,if_pos answered]
    | transferring going unanswered welcomed asked =>
      rw [if_neg going,if_neg unanswered,if_pos welcomed,asked]
      rfl
    | conversing going unanswered welcomed idle =>
      rw [if_neg going,if_neg unanswered,if_pos welcomed,idle]
      rfl
    | summoned going unanswered unwelcomed asked =>
      rw [if_neg going,if_neg unanswered,if_neg unwelcomed,asked]
      rfl
    | starting going unanswered unwelcomed idle =>
      rw [if_neg going,if_neg unanswered,if_neg unwelcomed,idle]
      rfl
  · intro same
    subst same
    unfold reached
    split
    · rename_i ended
      exact .closed ended
    · rename_i going
      split
      · rename_i answered
        exact .leaving going answered
      · rename_i unanswered
        split
        · rename_i welcomed
          cases asked : pending moves with
          | true => exact .transferring going unanswered welcomed asked
          | false => exact .conversing going unanswered welcomed asked
        · rename_i unwelcomed
          cases asked : pending moves with
          | true => exact .summoned going unanswered unwelcomed asked
          | false => exact .starting going unanswered unwelcomed asked

theorem step_reached (facts : Reached moves p) (next : step p move = some p') : Reached (moves ++ [move]) p' := by
  have asked := pending_snoc moves move
  cases move with
  | welcomed =>
    cases facts with
    | closed | leaving | transferring | conversing => cases next
    | summoned going unanswered _ asks =>
      cases next
      exact .transferring (by simp [going]) (by simp [unanswered]) (by simp) (asked.trans asks)
    | starting going unanswered _ idle =>
      cases next
      exact .conversing (by simp [going]) (by simp [unanswered]) (by simp) (asked.trans idle)
  | requested =>
    cases facts with
    | closed | leaving => cases next
    | transferring going unanswered welcomed | conversing going unanswered welcomed =>
      cases next
      exact .transferring (by simp [going]) (by simp [unanswered]) (by simp [welcomed]) asked
    | summoned going unanswered unwelcomed | starting going unanswered unwelcomed =>
      cases next
      exact .summoned (by simp [going]) (by simp [unanswered]) (by simp [unwelcomed]) asked
  | failed =>
    cases facts with
    | closed | leaving => cases next
    | transferring going unanswered welcomed | conversing going unanswered welcomed =>
      cases next
      exact .conversing (by simp [going]) (by simp [unanswered]) (by simp [welcomed]) asked
    | summoned going unanswered unwelcomed | starting going unanswered unwelcomed =>
      cases next
      exact .starting (by simp [going]) (by simp [unanswered]) (by simp [unwelcomed]) asked
  | answered =>
    cases facts with
    | closed | leaving => cases next
    | transferring going | conversing going | summoned going | starting going =>
      cases next
      exact .leaving (by simp [going]) (by simp)
  | ended =>
    cases facts with
    | closed => cases next
    | leaving | transferring | conversing | summoned | starting =>
      cases next
      exact .closed (by simp)

-- The moves alone tell the phase.
theorem run_reached (path : Runs step Anything .starting moves p) : p = reached moves := by
  apply reached_exact.mp
  induction path with
  | nil => exact .starting (by simp) (by simp) (by simp) rfl
  | step _ _ next ih => exact step_reached ih next

-- A call speaks with its caller from the welcome to the answer or the end.
theorem run_open (path : Runs step Anything .starting moves p) : p = .conversing ∨ p = .transferring ↔
    .welcomed ∈ moves ∧ .answered ∉ moves ∧ .ended ∉ moves := by
  have facts := reached_exact.mpr (run_reached path)
  constructor
  · intro open_
    cases facts with
    | conversing going unanswered welcomed => exact ⟨welcomed,unanswered,going⟩
    | transferring going unanswered welcomed => exact ⟨welcomed,unanswered,going⟩
    | closed | leaving | summoned | starting => rcases open_ with same | same <;> cases same
  · intro told
    obtain ⟨welcomed,unanswered,going⟩ := told
    cases facts with
    | conversing => exact .inl rfl
    | transferring => exact .inr rfl
    | closed ended => exact absurd ended going
    | leaving _ answered => exact absurd answered unanswered
    | summoned _ _ unwelcomed | starting _ _ unwelcomed => exact absurd welcomed unwelcomed

-- What may come, at whatever distance, after a move.
def Precedes (earlier later : Move) : Prop :=
  earlier ≠ .ended ∧ (earlier = .answered → later = .ended) ∧ (earlier = .welcomed → later ≠ .welcomed)

-- Nothing follows the end, nothing but the end follows an answer, and the caller is
-- welcomed once.
theorem run_ordered (path : Runs step Anything .starting moves p) : moves.Pairwise Precedes := by
  induction path with
  | nil => exact .nil
  | @step earlier p move p' prior _ next ih =>
    have facts := reached_exact.mpr (run_reached prior)
    rw [List.pairwise_append]
    refine ⟨ih,List.pairwise_singleton _ _,fun before early _ last => ?_⟩
    cases List.mem_singleton.mp last
    refine ⟨?_,?_,?_⟩
    · intro same
      subst same
      cases facts with
      | closed => cases move <;> cases next
      | leaving going | transferring going | conversing going | summoned going | starting going => exact absurd early going
    · intro same
      subst same
      cases facts with
      | closed => cases move <;> cases next
      | leaving =>
        cases move with
        | ended => rfl
        | _ => cases next
      | transferring _ unanswered | conversing _ unanswered | summoned _ unanswered | starting _ unanswered =>
        exact absurd early unanswered
    · intro same again
      subst same again
      cases facts with
      | closed | leaving | transferring | conversing => cases next
      | summoned _ _ unwelcomed | starting _ _ unwelcomed => exact absurd early unwelcomed

end AidaAgent.Lifecycle
