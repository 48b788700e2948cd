import AidaAgent.Library.PythonDict

namespace Revisions
open PythonDict

-- Entries that revise one another: those of one key stand for one thing, and the
-- one with the greatest rank is what it is now.
variable {κ ε ν : Type} [LinearOrder ν] (key : ε → κ) (rank : ε → ν)

def Latest (entries : List ε) (e : ε) : Prop :=
  e ∈ entries ∧ ∀ other ∈ entries, key other = key e → rank other ≤ rank e

-- Two entries of one key and one rank are the same entry.
def Ranked (entries : List ε) : Prop :=
  ∀ e ∈ entries, ∀ other ∈ entries, key e = key other → rank e = rank other → e = other

variable {key rank}

theorem latest_unique {entries : List ε} (ranked : Ranked key rank entries) (one : Latest key rank entries e)
    (two : Latest key rank entries other) (shared : key e = key other) : e = other :=
  ranked e one.1 other two.1 shared (le_antisymm (two.2 e one.1 shared) (one.2 other two.1 shared.symm))

theorem latest_append {front : List ε} (kept : e ∈ front ++ [last])
    (above : ∀ other ∈ front, key other = key e → rank other ≤ rank e) (end_ : key last = key e → rank last ≤ rank e) :
    Latest key rank (front ++ [last]) e := by
  refine ⟨kept,fun other member called => ?_⟩
  rcases List.mem_append.mp member with inside | single
  · exact above other inside called
  · rw [List.mem_singleton.mp single] at called ⊢
    exact end_ called

-- A new entry with the greatest rank takes the place of the others of its key.
theorem latest_push {entries : List ε} (newest : ∀ other ∈ entries, rank other < rank e) :
    Latest key rank (entries ++ [e]) x ↔ x = e ∨ (Latest key rank entries x ∧ key x ≠ key e) := by
  constructor
  · rintro ⟨member,greatest⟩
    rcases List.mem_append.mp member with inside | single
    · refine .inr ⟨⟨inside,fun other member => greatest other (List.mem_append_left _ member)⟩,fun shared => ?_⟩
      exact absurd (greatest e (by simp) shared.symm) (not_le.mpr (newest x inside))
    · exact .inl (List.mem_singleton.mp single)
  · rintro (rfl | ⟨⟨inside,greatest⟩,apart⟩)
    · exact latest_append (by simp) (fun other member _ => (newest other member).le) fun _ => le_refl _
    · exact latest_append (List.mem_append_left _ inside) greatest fun shared => absurd shared.symm apart

variable [DecidableEq κ]

variable (key rank) in
def take (table : List (κ × ε)) (e : ε) : List (κ × ε) :=
  match table.lookup (key e) with
  | some old => if rank old < rank e then put table (key e) e else table
  | none => put table (key e) e

variable (key rank) in
-- Entries merged in the order they come.
def merge (entries : List ε) : List (κ × ε) := entries.foldl (take key rank) []

theorem lookup_take (table : List (κ × ε)) (e : ε) (k : κ) :
    (take key rank table e).lookup k =
      if k = key e then some ((table.lookup k).elim e fun old => if rank old < rank e then e else old)
      else table.lookup k := by
  unfold take
  by_cases same : k = key e
  · subst same
    cases found : table.lookup (key e) with
    | none => simp [lookup_put]
    | some old =>
      by_cases newer : rank old < rank e
      · simp [newer,lookup_put]
      · simp [newer,found]
  · split
    · split
      · simp [lookup_put,same]
      · simp
    · simp [lookup_put,same]

theorem merge_append (entries : List ε) (e : ε) :
    merge key rank (entries ++ [e]) = take key rank (merge key rank entries) e := by
  simp [merge]

theorem merge_present {entries : List ε} (member : e ∈ entries) :
    ((merge key rank entries).lookup (key e)).isSome = true := by
  induction entries using List.reverseRecOn with
  | nil => cases member
  | append_singleton front last ih =>
    rw [merge_append,lookup_take]
    split
    · rfl
    · rename_i other
      rcases List.mem_append.mp member with inside | single
      · exact ih inside
      · rw [List.mem_singleton.mp single] at other
        exact absurd rfl other

-- What stands at a key is the latest entry of that key.
theorem merge_found {entries : List ε} (found : (merge key rank entries).lookup k = some e) :
    key e = k ∧ Latest key rank entries e := by
  induction entries using List.reverseRecOn generalizing e with
  | nil => cases found
  | append_singleton front last ih =>
    rw [merge_append,lookup_take] at found
    by_cases same : k = key last
    · rw [if_pos same] at found
      have kept := Option.some.inj found
      cases before : (merge key rank front).lookup k with
      | none =>
        rw [before,Option.elim_none] at kept
        subst kept
        have first : ∀ other ∈ front, key other ≠ k := by
          intro other member called
          have present : ((merge key rank front).lookup (key other)).isSome = true := merge_present member
          rw [called,before] at present
          cases present
        refine ⟨same.symm,latest_append (by simp) (fun other member called => ?_) fun _ => le_refl _⟩
        exact absurd (called.trans same.symm) (first other member)
      | some old =>
        obtain ⟨called,inside,greatest⟩ := ih before
        have shared : key old = key last := called.trans same
        rw [before,Option.elim_some] at kept
        by_cases newer : rank old < rank last
        · rw [if_pos newer] at kept
          subst kept
          refine ⟨same.symm,latest_append (by simp) (fun other member called => ?_) fun _ => le_refl _⟩
          exact (greatest other member (called.trans shared.symm)).trans newer.le
        · rw [if_neg newer] at kept
          subst kept
          exact ⟨called,latest_append (List.mem_append_left _ inside) greatest fun _ => not_lt.mp newer⟩
    · rw [if_neg same] at found
      obtain ⟨called,inside,greatest⟩ := ih found
      refine ⟨called,latest_append (List.mem_append_left _ inside) greatest fun shared => ?_⟩
      exact absurd (called.symm.trans shared.symm) same

theorem merge_exact {entries : List ε} (ranked : Ranked key rank entries) :
    (merge key rank entries).lookup k = some e ↔ key e = k ∧ Latest key rank entries e := by
  refine ⟨merge_found,?_⟩
  rintro ⟨rfl,latest⟩
  have present : ((merge key rank entries).lookup (key e)).isSome = true := merge_present latest.1
  obtain ⟨kept,found⟩ := Option.isSome_iff_exists.mp present
  obtain ⟨called,standing⟩ := merge_found found
  rw [found,latest_unique ranked standing latest called]

omit [DecidableEq κ] in
-- Every entry is revised by the latest of its key.
theorem latest_above {entries : List ε} (member : e ∈ entries) :
    ∃ top, key top = key e ∧ Latest key rank entries top ∧ rank e ≤ rank top := by
  classical
  have present : ((merge key rank entries).lookup (key e)).isSome = true := merge_present member
  obtain ⟨top,found⟩ := Option.isSome_iff_exists.mp present
  obtain ⟨called,latest⟩ := merge_found found
  exact ⟨top,called,latest,latest.2 e member called.symm⟩

omit [DecidableEq κ] in
-- A list of the latest entries so far, and every entry since, say as much as all
-- the entries: neither the order nor what else of them is told again matters.
theorem catch_up {older newer listed told all : List ε} (standing : ∀ e, e ∈ listed ↔ Latest key rank older e)
    (covered : ∀ e ∈ newer, e ∈ told) (known : ∀ e ∈ told, e ∈ older ++ newer)
    (given : ∀ e, e ∈ all ↔ e ∈ listed ∨ e ∈ told) :
    Latest key rank all e ↔ Latest key rank (older ++ newer) e := by
  have inside : ∀ other ∈ all, other ∈ older ++ newer := by
    intro other member
    rcases (given other).mp member with old | later
    · exact List.mem_append_left _ ((standing other).mp old).1
    · exact known other later
  constructor
  · rintro ⟨member,greatest⟩
    refine ⟨inside e member,fun other told_ called => ?_⟩
    rcases List.mem_append.mp told_ with old | later
    · obtain ⟨top,shared,latest,above⟩ :
          ∃ top, key top = key other ∧ Latest key rank older top ∧ rank other ≤ rank top := latest_above old
      exact above.trans (greatest top ((given top).mpr (.inl ((standing top).mpr latest))) (shared.trans called))
    · exact greatest other ((given other).mpr (.inr (covered other later))) called
  · rintro ⟨member,greatest⟩
    refine ⟨(given e).mpr ?_,fun other told_ => greatest other (inside other told_)⟩
    rcases List.mem_append.mp member with old | later
    · exact .inl ((standing e).mpr ⟨old,fun other inside_ => greatest other (List.mem_append_left _ inside_)⟩)
    · exact .inr (covered e later)

end Revisions
