import AidaAgent.PlatformConfig

namespace AidaAgent.PlatformConfig
open JsonText PythonText Config

-- Two rows claim the same setting of the same scope.
def Duplicated (rows : List Row) : Prop :=
  ∃ front one middle two back pair, rows = front ++ one :: (middle ++ two :: back) ∧
    scopedKey one = some pair ∧ scopedKey two = some pair

theorem duplicated_exact {rows : List Row} : Duplicated rows ↔ ¬ (rows.filterMap scopedKey).Nodup := by
  constructor
  · rintro ⟨front,one,middle,two,back,pair,rfl,first,second⟩ distinct
    rw [List.filterMap_append,List.filterMap_cons_some first,List.filterMap_append,
      List.filterMap_cons_some second] at distinct
    have rest := (List.nodup_append.mp distinct).2.1
    exact (List.nodup_cons.mp rest).1 (by simp)
  · induction rows with
    | nil => exact fun repeated => absurd List.nodup_nil repeated
    | cons row rest ih =>
      intro repeated
      have later : ¬ (rest.filterMap scopedKey).Nodup → Duplicated (row :: rest) := by
        intro again
        obtain ⟨front,one,middle,two,back,pair,rfl,facts⟩ := ih again
        exact ⟨row :: front,one,middle,two,back,pair,rfl,facts⟩
      cases claimed : scopedKey row with
      | none =>
        rw [List.filterMap_cons_none claimed] at repeated
        exact later repeated
      | some pair =>
        rw [List.filterMap_cons_some claimed,List.nodup_cons] at repeated
        by_cases present : pair ∈ rest.filterMap scopedKey
        · obtain ⟨other,member,same⟩ := List.mem_filterMap.mp present
          obtain ⟨middle,back,rfl⟩ := List.append_of_mem member
          exact ⟨[],row,middle,other,back,pair,rfl,claimed,same⟩
        · exact later fun distinct => repeated ⟨present,distinct⟩

-- The check passes without a duplicate and otherwise names one.
theorem checkRows_exact (seen : List (String × String)) (rows : List Row) :
    (checkRows seen (rows.map .obj) = .ok () ∧ (rows.filterMap scopedKey).Nodup ∧
      ∀ pair ∈ rows.filterMap scopedKey, pair ∉ seen) ∨
    ((∃ message, checkRows seen (rows.map .obj) = .error (.unavailable message)) ∧
      ¬ ((rows.filterMap scopedKey).Nodup ∧ ∀ pair ∈ rows.filterMap scopedKey, pair ∉ seen)) := by
  induction rows generalizing seen with
  | nil => exact .inl ⟨rfl,List.nodup_nil,by simp⟩
  | cons row rest ih =>
    rw [List.map_cons,checkRows]
    cases claimed : scopedKey row with
    | none =>
      rw [List.filterMap_cons_none claimed]
      exact ih seen
    | some pair =>
      rw [List.filterMap_cons_some claimed]
      dsimp only
      split
      · rename_i known
        refine .inr ⟨⟨_,rfl⟩,fun fresh => ?_⟩
        exact fresh.2 pair List.mem_cons_self known
      · rename_i new
        rcases ih (pair :: seen) with ⟨passed,distinct,fresh⟩ | ⟨failed,repeated⟩
        · refine .inl ⟨passed,List.nodup_cons.mpr ⟨fun member => ?_,distinct⟩,?_⟩
          · exact fresh pair member List.mem_cons_self
          · refine List.forall_mem_cons.mpr ⟨new,fun other member known => ?_⟩
            exact fresh other member (List.mem_cons_of_mem _ known)
        · refine .inr ⟨failed,fun fine => repeated ⟨(List.nodup_cons.mp fine.1).2,fun other member known => ?_⟩⟩
          rcases List.mem_cons.mp known with rfl | older
          · exact (List.nodup_cons.mp fine.1).1 member
          · exact fine.2 other (List.mem_cons_of_mem _ member) older

-- What the rows give to a scope.
def given (py : Printer) (rows : List Row) (scope : String) : Values := rows.filterMap (setting py scope)

theorem settle_given (py : Printer) (scope : String) (rows : List Row) (values : Values) :
    (rows.map Json.obj).foldl (settle py scope) values = PythonDict.putAll values (given py rows scope) := by
  induction rows generalizing values with
  | nil => rfl
  | cons row rest ih =>
    rw [List.map_cons,List.foldl_cons,ih,given,given]
    cases shown : setting py scope row with
    | none => rw [List.filterMap_cons_none shown,settle,shown]
    | some entry =>
      rw [List.filterMap_cons_some shown,settle,shown]
      rfl

theorem settle_scopes (py : Printer) (rows : List Row) (order : List String) (values : Values) :
    order.foldl (fun values scope => (rows.map Json.obj).foldl (settle py scope) values) values =
      PythonDict.putAll values (order.flatMap (given py rows)) := by
  induction order generalizing values with
  | nil => rfl
  | cons scope rest ih =>
    rw [List.foldl_cons,settle_given,ih,List.flatMap_cons,PythonDict.putAll,PythonDict.putAll,PythonDict.putAll,
      List.foldl_append]

theorem setting_exact {row : Row} : setting py scope row = some (key,value) ↔
    get row "app" = some (.str scope) ∧ get row "settingKey" = some (.str key) ∧ key ∈ settingKeys ∧
      settingValue py row = some value := by
  unfold setting
  split
  · rename_i app name own named
    rw [own,named]
    split
    · rename_i read
      simp only [Option.map_eq_some_iff,Prod.mk.injEq,Option.some.injEq,Json.str.injEq]
      constructor
      · rintro ⟨text,shown,rfl,rfl⟩
        exact ⟨read.1,rfl,read.2,shown⟩
      · rintro ⟨_,rfl,_,shown⟩
        exact ⟨value,shown,rfl,rfl⟩
    · rename_i skipped
      refine iff_of_false (by simp) ?_
      rintro ⟨same,key_,known,_⟩
      cases same
      cases key_
      exact skipped ⟨rfl,known⟩
  · rename_i other
    refine iff_of_false (by simp) ?_
    rintro ⟨own,named,_⟩
    exact other _ _ own named

theorem settingKeys_loud : ∀ key ∈ settingKeys, isBlank key = false := by decide

-- A setting that counts is a claim, so a table without duplicates gives a scope at
-- most one value for a key.
theorem setting_claims {row : Row} (known : scope ∈ scopes) (shown : setting py scope row = some (key,value)) :
    scopedKey row = some (scope,key) := by
  obtain ⟨own,named,listed,_⟩ := setting_exact.mp shown
  unfold scopedKey
  rw [own,named]
  exact if_pos ⟨known,settingKeys_loud key listed⟩

theorem given_distinct (known : scope ∈ scopes) (distinct : (rows.filterMap scopedKey).Nodup) :
    (PythonDict.keys (given py rows scope)).Nodup := by
  have inside : List.Sublist ((given py rows scope).map fun e => (scope,e.1)) (rows.filterMap scopedKey) := by
    clear distinct
    induction rows with
    | nil => exact List.Sublist.refl _
    | cons row rest ih =>
      rw [given]
      cases shown : setting py scope row with
      | none =>
        rw [List.filterMap_cons_none shown]
        cases claimed : scopedKey row with
        | none => rwa [List.filterMap_cons_none claimed]
        | some pair =>
          rw [List.filterMap_cons_some claimed]
          exact ih.cons pair
      | some entry =>
        obtain ⟨key,value⟩ := entry
        rw [List.filterMap_cons_some shown,List.filterMap_cons_some (setting_claims known shown),List.map_cons]
        exact ih.cons_cons _
  have pairs := distinct.sublist inside
  rw [PythonDict.keys]
  have shape : (given py rows scope).map (fun e => (scope,e.1)) =
      ((given py rows scope).map Prod.fst).map fun key => (scope,key) := by simp
  rw [shape] at pairs
  exact pairs.of_map

-- The value of the last scope that has one.
def SetIn (py : Printer) (rows : List Row) (scope key value : String) : Prop :=
  ∃ row ∈ rows, get row "app" = some (.str scope) ∧ get row "settingKey" = some (.str key) ∧
    settingValue py row = some value

def Chosen (py : Printer) (rows : List Row) (key value : String) : Prop :=
  ∃ front scope back, scopes = front ++ scope :: back ∧ SetIn py rows scope key value ∧
    ∀ later ∈ back, ∀ other, ¬ SetIn py rows later key other

theorem given_mem (listed : key ∈ settingKeys) : (key,value) ∈ given py rows scope ↔ SetIn py rows scope key value := by
  unfold given SetIn
  rw [List.mem_filterMap]
  constructor
  · rintro ⟨row,member,shown⟩
    obtain ⟨own,named,_,text⟩ := setting_exact.mp shown
    exact ⟨row,member,own,named,text⟩
  · rintro ⟨row,member,own,named,text⟩
    exact ⟨row,member,setting_exact.mpr ⟨own,named,listed,text⟩⟩

structure Resolved (py : Printer) (rows : List Row) (values : Values) : Prop where
  distinct : (PythonDict.keys values).Nodup
  known : ∀ key ∈ PythonDict.keys values, key ∈ settingKeys
  chosen : ∀ key ∈ settingKeys, ∀ value, values.lookup key = some value ↔ Chosen py rows key value

theorem resolve_values (distinct : (rows.filterMap scopedKey).Nodup) :
    Resolved py rows (PythonDict.putAll [] (scopes.flatMap (given py rows))) := by
  have found : ∀ key, (PythonDict.putAll [] (scopes.flatMap (given py rows))).lookup key =
      (scopes.flatMap (given py rows)).reverse.lookup key := by
    intro key
    rw [PythonDict.lookup_putAll]
    cases (scopes.flatMap (given py rows)).reverse.lookup key <;> rfl
  refine ⟨@PythonDict.keys_putAll _ _ _ [] List.nodup_nil _,?_,?_⟩
  · intro key member
    rw [← PythonDict.lookup_isSome,found,PythonDict.lookup_isSome,PythonDict.keys,List.map_reverse,List.mem_reverse] at member
    obtain ⟨entry,inside,rfl⟩ := List.mem_map.mp member
    obtain ⟨scope,_,held⟩ := List.mem_flatMap.mp inside
    obtain ⟨row,_,shown⟩ := List.mem_filterMap.mp held
    exact (setting_exact.mp shown).2.2.1
  · intro key listed value
    rw [found,PythonDict.lookup_groups (given py rows) scopes fun scope known => given_distinct known distinct]
    unfold Chosen
    simp only [given_mem listed]

theorem resolve_exact (py : Printer) (rows : List Row) :
    (∃ values, resolve py (rows.map .obj) = .ok values ∧ ¬ Duplicated rows ∧ Resolved py rows values) ∨
    ((∃ message, resolve py (rows.map .obj) = .error (.unavailable message)) ∧ Duplicated rows) := by
  unfold resolve
  rcases checkRows_exact [] rows with ⟨passed,distinct,_⟩ | ⟨⟨message,failed⟩,repeated⟩
  · refine .inl ⟨_,?_,fun twice => duplicated_exact.mp twice distinct,resolve_values distinct⟩
    rw [passed,← settle_scopes]
    rfl
  · refine .inr ⟨⟨message,?_⟩,duplicated_exact.mpr fun distinct => repeated ⟨distinct,by simp⟩⟩
    rw [failed]
    rfl

end AidaAgent.PlatformConfig
