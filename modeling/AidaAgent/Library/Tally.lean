import Mathlib

namespace Tally

-- What a log of reports says of each key: whether it was reported, whether it is
-- settled, and how it was settled first.
variable {κ σ : Type} [DecidableEq κ] {terminal : σ → Bool} {log : List (κ × σ)}

def reported (log : List (κ × σ)) : Finset κ := (log.map Prod.fst).toFinset

def settled (terminal : σ → Bool) (log : List (κ × σ)) : Finset κ :=
  ((log.filter fun report => terminal report.2).map Prod.fst).toFinset

def first (terminal : σ → Bool) (log : List (κ × σ)) (key : κ) : Option σ :=
  (log.find? fun report => report.1 = key && terminal report.2).map Prod.snd

def settledAs [DecidableEq σ] (terminal : σ → Bool) (outcome : σ) (log : List (κ × σ)) : Finset κ :=
  (settled terminal log).filter fun key => first terminal log key = some outcome

theorem mem_reported : key ∈ reported log ↔ ∃ state, (key,state) ∈ log := by
  simp [reported]

theorem mem_settled : key ∈ settled terminal log ↔ ∃ state, (key,state) ∈ log ∧ terminal state = true := by
  simp [settled]

theorem settled_reported : settled terminal log ⊆ reported log := by
  intro key member
  obtain ⟨state,known,_⟩ := mem_settled.mp member
  exact mem_reported.mpr ⟨state,known⟩

theorem reported_push (key : κ) (state : σ) : reported (log ++ [(key,state)]) = insert key (reported log) := by
  ext k
  simp only [reported,List.map_append,List.map_cons,List.map_nil,List.mem_toFinset,List.mem_append,List.mem_singleton,
    Finset.mem_insert]
  exact or_comm

theorem settled_push (key : κ) (state : σ) : settled terminal (log ++ [(key,state)]) =
    if terminal state = true then insert key (settled terminal log) else settled terminal log := by
  ext k
  rw [mem_settled]
  split
  · rename_i final
    rw [Finset.mem_insert,mem_settled]
    constructor
    · rintro ⟨found,member,done⟩
      rcases List.mem_append.mp member with old | new
      · exact .inr ⟨found,old,done⟩
      · exact .inl (Prod.mk.inj (List.mem_singleton.mp new)).1
    · rintro (rfl | ⟨found,old,done⟩)
      · exact ⟨state,by simp,final⟩
      · exact ⟨found,List.mem_append_left _ old,done⟩
  · rename_i open_
    rw [mem_settled]
    constructor
    · rintro ⟨found,member,done⟩
      rcases List.mem_append.mp member with old | new
      · exact ⟨found,old,done⟩
      · rw [(Prod.mk.inj (List.mem_singleton.mp new)).2] at done
        exact absurd done open_
    · rintro ⟨found,old,done⟩
      exact ⟨found,List.mem_append_left _ old,done⟩

theorem first_none : first terminal log key = none ↔ key ∉ settled terminal log := by
  rw [first,Option.map_eq_none_iff,List.find?_eq_none,mem_settled]
  constructor
  · rintro unfound ⟨state,member,done⟩
    exact unfound _ member (by simp [done])
  · intro unsettled report member found
    simp only [Bool.and_eq_true,decide_eq_true_eq] at found
    exact unsettled ⟨report.2,by rw [← found.1]; exact member,found.2⟩

theorem first_terminal (found : first terminal log key = some state) : terminal state = true := by
  obtain ⟨report,known,rfl⟩ := Option.map_eq_some_iff.mp found
  have passed := List.find?_some known
  simp only [Bool.and_eq_true] at passed
  exact passed.2

-- The first outcome stands, and a report settles only its own key.
theorem first_push (key : κ) (state : σ) (k : κ) : first terminal (log ++ [(key,state)]) k =
    (first terminal log k).or (if k = key ∧ terminal state = true then some state else none) := by
  unfold first
  rw [List.find?_append]
  cases log.find? fun report => report.1 = k && terminal report.2 with
  | some report => simp
  | none =>
    by_cases own : k = key ∧ terminal state = true
    · obtain ⟨rfl,done⟩ := own
      simp [done]
    · have unfound : (decide (key = k) && terminal state) = false := by
        rw [Bool.and_eq_false_iff,decide_eq_false_iff_not]
        by_contra both
        obtain ⟨same,done⟩ := not_or.mp both
        exact own ⟨(not_not.mp same).symm,by simpa using done⟩
      simp [own,unfound]

theorem mem_settledAs [DecidableEq σ] {outcome : σ} :
    key ∈ settledAs terminal outcome log ↔ first terminal log key = some outcome := by
  rw [settledAs,Finset.mem_filter]
  refine ⟨And.right,fun found => ⟨?_,found⟩⟩
  by_contra unsettled
  rw [first_none.mpr unsettled] at found
  cases found

theorem settledAs_settled [DecidableEq σ] (outcome : σ) : settledAs terminal outcome log ⊆ settled terminal log :=
  Finset.filter_subset _ _

theorem settledAs_push [DecidableEq σ] (outcome : σ) (key : κ) (state : σ) :
    settledAs terminal outcome (log ++ [(key,state)]) =
      if key ∉ settled terminal log ∧ terminal state = true ∧ state = outcome then
        insert key (settledAs terminal outcome log) else settledAs terminal outcome log := by
  ext k
  rw [mem_settledAs,first_push]
  by_cases fresh : key ∉ settled terminal log ∧ terminal state = true ∧ state = outcome
  · rw [if_pos fresh,Finset.mem_insert,mem_settledAs]
    obtain ⟨unsettled,done,rfl⟩ := fresh
    by_cases own : k = key
    · subst own
      simp [first_none.mpr unsettled,done]
    · simp [own]
  · rw [if_neg fresh,mem_settledAs]
    cases found : first terminal log k with
    | some outcome => rfl
    | none =>
      by_cases own : k = key ∧ terminal state = true
      · obtain ⟨rfl,done⟩ := own
        have differs : state ≠ outcome := fun same => fresh ⟨first_none.mp found,done,same⟩
        simp [done,differs]
      · simp [own]

end Tally
