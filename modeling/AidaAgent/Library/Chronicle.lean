import Mathlib

namespace Chronicle

-- A log of entries, newest first, in which each entry fits the older ones.
variable {Entry : Type} {fits : Entry → List Entry → Prop}

def Kept (fits : Entry → List Entry → Prop) : List Entry → Prop
  | [] => True
  | entry :: older => fits entry older ∧ Kept fits older

theorem kept_append (kept : Kept fits log)
    (each : ∀ entry ∈ extra, ∀ middle, (∀ other ∈ middle, other ∈ extra) → fits entry (middle ++ log)) :
    Kept fits (extra ++ log) := by
  induction extra with
  | nil => exact kept
  | cons entry older ih =>
    constructor
    · exact each entry (by simp) older fun other member => List.mem_cons_of_mem _ member
    · apply ih
      intro other member middle inside
      exact each other (List.mem_cons_of_mem _ member) middle fun e found => List.mem_cons_of_mem _ (inside e found)

theorem kept_split (kept : Kept fits (newer ++ entry :: older)) : fits entry older := by
  induction newer with
  | nil => exact kept.1
  | cons _ _ ih => exact ih kept.2

-- An entry that every later one must respect is respected by all of them.
theorem kept_newer (kept : Kept fits (newer ++ entry :: older)) (later : other ∈ newer) :
    ∃ middle, fits other (middle ++ entry :: older) := by
  induction newer with
  | nil => cases later
  | cons first rest ih =>
    rcases List.mem_cons.mp later with same | member
    · subst same
      exact ⟨rest,kept.1⟩
    · exact ih kept.2 member

-- Uses that each need an opening of their own: a log is spent when its newest
-- opening has been used.
variable {opens uses : Entry → Bool}

def spent (opens uses : Entry → Bool) : List Entry → Bool
  | [] => true
  | entry :: older => if opens entry then false else if uses entry then true else spent opens uses older

def Rationed (opens uses : Entry → Bool) : List Entry → Prop :=
  Kept fun entry older => uses entry = true → spent opens uses older = false

theorem spent_plain (plain : ∀ entry ∈ extra, opens entry = false ∧ uses entry = false) :
    spent opens uses (extra ++ log) = spent opens uses log := by
  induction extra with
  | nil => rfl
  | cons entry older ih =>
    obtain ⟨first,rest⟩ := List.forall_mem_cons.mp plain
    simpa [spent,first.1,first.2] using ih rest

theorem rationed_plain (kept : Rationed opens uses log) (plain : ∀ entry ∈ extra, uses entry = false) :
    Rationed opens uses (extra ++ log) := by
  apply kept_append kept
  intro entry member _ _ used
  rw [plain entry member] at used
  cases used

theorem spent_between (open_ : spent opens uses (middle ++ older) = false) (closed : spent opens uses older = true) :
    ∃ entry ∈ middle, opens entry = true := by
  induction middle with
  | nil =>
    rw [List.nil_append,closed] at open_
    cases open_
  | cons entry rest ih =>
    by_cases opened : opens entry = true
    · exact ⟨entry,by simp,opened⟩
    · simp only [List.cons_append,spent,if_neg opened] at open_
      split at open_
      · cases open_
      · obtain ⟨found,member,opening⟩ := ih open_
        exact ⟨found,List.mem_cons_of_mem _ member,opening⟩

-- Between two uses, and before the first one, there is an opening.
theorem rationed_between (kept : Rationed opens uses (newer ++ later :: (middle ++ earlier :: older)))
    (disjoint : opens earlier = false) (used : uses later = true) (before : uses earlier = true) :
    ∃ entry ∈ middle, opens entry = true :=
  spent_between (kept_split kept used) (by simp [spent,disjoint,before])

theorem rationed_first (kept : Rationed opens uses (newer ++ entry :: older)) (used : uses entry = true) :
    ∃ other ∈ older, opens other = true :=
  @spent_between _ _ _ _ ([]) (by simpa using kept_split kept used) rfl

end Chronicle
