import Mathlib

namespace PythonDict

-- A dict as the list of its entries: a new key goes to the end, a known one keeps
-- its place.
variable {κ ν : Type} [DecidableEq κ]

def put (d : List (κ × ν)) (key : κ) (value : ν) : List (κ × ν) :=
  if d.any (·.1 = key) then d.map fun e => if e.1 = key then (key,value) else e else d ++ [(key,value)]

def keys (d : List (κ × ν)) : List κ := d.map Prod.fst

theorem lookup_isSome {d : List (κ × ν)} : (d.lookup key).isSome = true ↔ key ∈ keys d := by
  induction d with
  | nil => simp [keys]
  | cons e rest ih =>
    obtain ⟨k,v⟩ := e
    simp only [keys,List.map_cons,List.mem_cons] at ih ⊢
    rw [List.lookup_cons]
    by_cases same : key = k
    · simp [same]
    · rw [beq_eq_false_iff_ne.mpr same,ih]
      simp [same]

theorem lookup_replace (d : List (κ × ν)) (key : κ) (value : ν) (k : κ) :
    (d.map fun e => if e.1 = key then (key,value) else e).lookup k =
      if k = key then (d.lookup key).map fun _ => value else d.lookup k := by
  induction d with
  | nil => simp
  | cons e rest ih =>
    obtain ⟨other,old⟩ := e
    rw [List.map_cons]
    by_cases known : other = key <;> by_cases asked : k = key
    · simp [known,asked]
    · simp [known,asked,List.lookup_cons,beq_eq_false_iff_ne.mpr asked,ih]
    · have away : key ≠ other := fun same => known same.symm
      simp only [known,if_false,asked,if_true,List.lookup_cons,beq_eq_false_iff_ne.mpr away] at ih ⊢
      exact ih
    · simp only [known,if_false,asked,List.lookup_cons] at ih ⊢
      rw [ih]

theorem lookup_put (d : List (κ × ν)) (key : κ) (value : ν) (k : κ) :
    (put d key value).lookup k = if k = key then some value else d.lookup k := by
  unfold put
  split
  · rename_i known
    rw [lookup_replace]
    split
    · have present : (d.lookup key).isSome = true := by
        rw [lookup_isSome]
        simpa [keys] using known
      obtain ⟨old,found⟩ := Option.isSome_iff_exists.mp present
      rw [found]
      rfl
    · rfl
  · rename_i fresh
    rw [List.lookup_append]
    split
    · rename_i same
      subst same
      have absent : d.lookup k = none := by
        rw [← Option.not_isSome_iff_eq_none,lookup_isSome]
        simpa [keys] using fresh
      simp [absent]
    · rename_i other
      simp [List.lookup_cons,beq_eq_false_iff_ne.mpr other]

theorem keys_put (distinct : (keys d).Nodup) (key : κ) (value : ν) : (keys (put d key value)).Nodup := by
  unfold put
  split
  · have same : keys (d.map fun e => if e.1 = key then (key,value) else e) = keys d := by
      unfold keys
      rw [List.map_map]
      apply List.map_congr_left
      intro e _
      simp only [Function.comp]
      split
      · rename_i found
        exact found.symm
      · rfl
    rw [same]
    exact distinct
  · rename_i fresh
    have absent : key ∉ keys d := by simpa [keys] using fresh
    unfold keys at distinct absent ⊢
    rw [List.map_append]
    refine List.nodup_append.mpr ⟨distinct,by simp,fun other member last single => ?_⟩
    rw [List.mem_singleton.mp single]
    rintro rfl
    exact absent member

theorem lookup_mem {d : List (κ × ν)} (distinct : (keys d).Nodup) : d.lookup key = some value ↔ (key,value) ∈ d := by
  induction d with
  | nil => simp
  | cons e rest ih =>
    obtain ⟨k,v⟩ := e
    obtain ⟨fresh,others⟩ := List.nodup_cons.mp distinct
    rw [List.lookup_cons,List.mem_cons]
    by_cases same : key = k
    · subst same
      simp only [beq_self_eq_true,Option.some.injEq,Prod.mk.injEq,true_and]
      constructor
      · exact fun equal => .inl equal.symm
      · rintro (equal | inside)
        · exact equal.symm
        · exact absurd (List.mem_map_of_mem inside) fresh
    · rw [beq_eq_false_iff_ne.mpr same]
      simp only [ih others,Prod.mk.injEq,same,false_and,false_or]

omit [DecidableEq κ] in
-- A dict comprehension that keeps some of the entries.
theorem keys_filter {d : List (κ × ν)} (distinct : (keys d).Nodup) (kept : κ × ν → Bool) :
    (keys (d.filter kept)).Nodup := distinct.sublist (List.filter_sublist.map Prod.fst)

theorem lookup_filter {d : List (κ × ν)} (distinct : (keys d).Nodup) (kept : κ × ν → Bool) :
    (d.filter kept).lookup key = some value ↔ d.lookup key = some value ∧ kept (key,value) = true := by
  rw [lookup_mem (keys_filter distinct kept),lookup_mem distinct,List.mem_filter]

-- `del d[key]`
def erase (d : List (κ × ν)) (key : κ) : List (κ × ν) := d.filter fun e => e.1 ≠ key

theorem lookup_erase {d : List (κ × ν)} (distinct : (keys d).Nodup) (key k : κ) :
    (erase d key).lookup k = if k = key then none else d.lookup k := by
  apply Option.ext
  intro value
  rw [erase,lookup_filter distinct]
  by_cases same : k = key <;> simp [same]

theorem length_put_le (d : List (κ × ν)) (key : κ) (value : ν) : (put d key value).length ≤ d.length + 1 := by
  unfold put
  split <;> simp

theorem length_put_known {d : List (κ × ν)} (known : key ∈ keys d) (value : ν) :
    (put d key value).length = d.length := by
  have present : d.any (·.1 = key) = true := by simpa [keys] using known
  rw [put,if_pos present,List.length_map]

theorem mem_put {d : List (κ × ν)} (member : e ∈ put d key value) : e ∈ d ∨ e = (key,value) := by
  unfold put at member
  split at member
  · obtain ⟨old,inside,rfl⟩ := List.mem_map.mp member
    split
    · exact .inr rfl
    · exact .inl inside
  · simpa using member

-- Entries put one after another: the last one of a key stays.
def putAll (d : List (κ × ν)) (entries : List (κ × ν)) : List (κ × ν) := entries.foldl (fun d e => put d e.1 e.2) d

theorem lookup_putAll (d entries : List (κ × ν)) (key : κ) :
    (putAll d entries).lookup key = (entries.reverse.lookup key).or (d.lookup key) := by
  induction entries generalizing d with
  | nil => rfl
  | cons e rest ih =>
    obtain ⟨k,v⟩ := e
    rw [putAll,List.foldl_cons,← putAll,ih,lookup_put,List.reverse_cons,List.lookup_append,Option.or_assoc,
      List.lookup_cons]
    congr 1
    by_cases same : key = k
    · simp [same]
    · simp [same,beq_eq_false_iff_ne.mpr same]

theorem mem_putAll {d entries : List (κ × ν)} (member : e ∈ putAll d entries) : e ∈ d ∨ e ∈ entries := by
  induction entries generalizing d with
  | nil => exact .inl member
  | cons first rest ih =>
    rcases ih member with early | later
    · rcases mem_put early with old | here
      · exact .inl old
      · rw [here]
        exact .inr List.mem_cons_self
    · exact .inr (List.mem_cons_of_mem first later)

theorem keys_putAll (distinct : (keys d).Nodup) (entries : List (κ × ν)) : (keys (putAll d entries)).Nodup := by
  induction entries generalizing d with
  | nil => exact distinct
  | cons e rest ih => exact ih (keys_put distinct e.1 e.2)

-- Entries in groups, each with at most one entry a key: the last group that has
-- one decides.
theorem lookup_groups {ι : Type} (group : ι → List (κ × ν)) (groups : List ι)
    (distinct : ∀ i ∈ groups, (keys (group i)).Nodup) :
    (groups.flatMap group).reverse.lookup key = some value ↔
      ∃ front i back, groups = front ++ i :: back ∧ (key,value) ∈ group i ∧
        ∀ later ∈ back, ∀ other, (key,other) ∉ group later := by
  have single : ∀ i ∈ groups, ∀ v, (group i).reverse.lookup key = some v ↔ (key,v) ∈ group i := by
    intro i member v
    have reversed : (keys (group i).reverse).Nodup := by
      unfold keys
      rw [List.map_reverse]
      exact List.nodup_reverse.mpr (distinct i member)
    rw [lookup_mem reversed,List.mem_reverse]
  induction groups with
  | nil => simp
  | cons i rest ih =>
    rw [List.flatMap_cons,List.reverse_append,List.lookup_append]
    have later := ih (fun j member => distinct j (List.mem_cons_of_mem _ member))
      fun j member => single j (List.mem_cons_of_mem _ member)
    cases found : (rest.flatMap group).reverse.lookup key with
    | some other =>
      rw [Option.some_or,Option.some.injEq]
      rw [found,Option.some.injEq] at later
      refine later.trans ⟨?_,?_⟩
      · rintro ⟨front,j,back,rfl,facts⟩
        exact ⟨i :: front,j,back,rfl,facts⟩
      · rintro ⟨front,j,back,split,inside,none⟩
        cases front with
        | cons head tail =>
          obtain ⟨rfl,rest_⟩ := List.cons.inj split
          exact ⟨tail,j,back,rest_,inside,none⟩
        | nil =>
          obtain ⟨rfl,rfl⟩ := List.cons.inj split
          have shown : ∃ j ∈ rest, (key,other) ∈ group j := by
            obtain ⟨before,after,split_,_⟩ := List.lookup_eq_some_iff.mp found
            have inside : (key,other) ∈ (rest.flatMap group).reverse := by
              rw [split_]
              simp
            simpa using inside
          obtain ⟨j,member,held⟩ := shown
          exact absurd held (none j member other)
    | none =>
      rw [Option.none_or,single i List.mem_cons_self value]
      have absent : ∀ j ∈ rest, ∀ other, (key,other) ∉ group j := by
        intro j member other inside
        have present : key ∈ keys (rest.flatMap group).reverse := by
          unfold keys
          refine List.mem_map.mpr ⟨(key,other),?_,rfl⟩
          rw [List.mem_reverse]
          exact List.mem_flatMap.mpr ⟨j,member,inside⟩
        rw [← lookup_isSome,found] at present
        cases present
      constructor
      · exact fun inside => ⟨[],i,rest,rfl,inside,absent⟩
      · rintro ⟨front,j,back,split,inside,_⟩
        cases front with
        | nil =>
          obtain ⟨rfl,_⟩ := List.cons.inj split
          exact inside
        | cons head tail =>
          obtain ⟨_,rest_⟩ := List.cons.inj split
          exact absurd inside (absent j (by rw [rest_]; simp) value)

end PythonDict
