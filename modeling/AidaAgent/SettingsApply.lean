import AidaAgent.SettingsFetch

namespace AidaAgent.PlatformConfig
open JsonText PythonText UrlSplit Config

variable {py : Printer} {server : Server} {table : String} {rows : List Row} {env : Environ}

-- Every page is as large as the request allows.
def fullPages (rows : List Row) (offset : Nat) : Nat := min pageSize (rows.length - offset)

theorem readRows_full (serves : Serves py server base token table rows (fullPages rows)) :
    Returns (fun fuel => readRows py server base token table fuel 0 []) (.ok (rows.map .obj)) := by
  refine ⟨rows.length + 1,fun more => ?_⟩
  refine @readRows_whole py server base token table rows (fullPages rows) 0 rows.length serves (fun _ _ _ => rfl) ?_ more
  rw [Nat.zero_add]
  exact Nat.le_mul_of_pos_left _ (by decide)

-- The bootstrap settings are there.
structure Bootstrapped (env : Environ) : Prop where
  address : isBlank ((env "NOCODB_BASE_URL").getD "") = false
  token : isBlank ((env "NOCODB_API_TOKEN").getD "") = false

theorem Bootstrapped.apiToken (set : Bootstrapped env) : PlatformConfig.apiToken env ≠ "" := by
  intro empty
  cases set.token.symm.trans (strip_empty.mp empty)

-- Nothing is served under no address: a path alone has no type.
theorem serves_address (serves : Serves py server base token table rows count) : base ≠ "" := by
  rintro rfl
  obtain ⟨_,_,_,_,_,⟨requested,_⟩,_⟩ := serves.found
  have path : (("" ++ basesPath).toList) = basesPath.toList := by decide
  have whole : splitLast '#' (unwrap basesPath.toList) = (none,basesPath.toList) := by decide
  have untyped : typed (unwrap basesPath.toList) = false := by decide
  rw [path,requestable,whole,untyped] at requested
  cases requested

theorem fetch_reads (set : Bootstrapped env) (addressed : origin env ≠ "")
    (found : tableId py server (origin env) (apiToken env) = .ok table)
    (read : Returns (fun fuel => readRows py server (origin env) (apiToken env) table fuel 0 []) result) :
    Returns (fetch py server env) (result >>= resolve py) := by
  obtain ⟨fuel,enough⟩ := read
  refine ⟨fuel,fun more => ?_⟩
  rw [fetch,if_neg (by simp [addressed,set.apiToken]),found]
  dsimp only at enough ⊢
  rw [enough more,Option.map_some]

theorem fetch_full (set : Bootstrapped env)
    (serves : Serves py server (origin env) (apiToken env) table rows (fullPages rows)) :
    Returns (fetch py server env) (resolve py (rows.map .obj)) :=
  fetch_reads set (serves_address serves) serves.tableId (readRows_full serves)

-- environ.update of values that are all held.
def written (env : Environ) (values : Values) : Environ :=
  values.foldl (fun env entry => Function.update env entry.1 (some entry.2)) env

-- An update writes the values up to the first one that is refused.
theorem update_cases (holds : String → Bool) (env : Environ) (values : Values) : ∃ front back, values = front ++ back ∧
    (∀ entry ∈ front, holds entry.2 = true) ∧ ((back = [] ∧ update holds env values = (true,written env front)) ∨
      ∃ entry rest, back = entry :: rest ∧ holds entry.2 = false ∧
        update holds env values = (false,written env front)) := by
  induction values generalizing env with
  | nil => exact ⟨[],[],rfl,(fun _ none => by cases none),.inl ⟨rfl,rfl⟩⟩
  | cons entry rest ih =>
    obtain ⟨key,value⟩ := entry
    cases held : holds value with
    | false =>
      refine ⟨[],(key,value) :: rest,rfl,(fun _ none => by cases none),.inr ⟨(key,value),rest,rfl,held,?_⟩⟩
      rw [update,held,if_neg (by simp)]
      rfl
    | true =>
      obtain ⟨front,back,whole,all,ends⟩ := ih (Function.update env key (some value))
      have step : update holds env ((key,value) :: rest) = update holds (Function.update env key (some value)) rest := by
        rw [update,held,if_pos rfl]
      refine ⟨(key,value) :: front,back,by rw [whole]; rfl,List.forall_mem_cons.mpr ⟨held,all⟩,?_⟩
      rw [step]
      exact ends

theorem written_lookup (distinct : (PythonDict.keys values).Nodup) (env : Environ) (key : String) :
    written env values key = (values.lookup key).or (env key) := by
  induction values generalizing env with
  | nil => rfl
  | cons entry rest ih =>
    obtain ⟨own,value⟩ := entry
    obtain ⟨fresh,others⟩ := List.nodup_cons.mp distinct
    rw [written,List.foldl_cons]
    change written (Function.update env own (some value)) rest key = _
    rw [ih others,List.lookup_cons]
    by_cases same : key = own
    · have absent : rest.lookup own = none := by
        rw [← Option.not_isSome_iff_eq_none,PythonDict.lookup_isSome]
        exact fresh
      rw [same,absent,Function.update_self]
      simp
    · rw [beq_eq_false_iff_ne.mpr same,Function.update_of_ne same]

-- An error that is not of the update leaves the environment as it was.
theorem apply_error (failed : apply py server holds env fuel = some (.error (.unavailable message),env')) : env' = env := by
  obtain ⟨fetched,_,same⟩ := Option.map_eq_some_iff.mp failed
  cases fetched with
  | error e =>
    cases same
    rfl
  | ok values =>
    unfold applyTo at same
    dsimp only at same
    obtain ⟨front,back,_,_,⟨_,moved⟩ | ⟨_,_,_,_,moved⟩⟩ := update_cases holds (popSettings env) values
    · rw [moved] at same
      cases same
    · rw [moved] at same
      cases same

-- What apply() leaves behind.
structure Applied (py : Printer) (rows : List Row) (env : Environ) (names : List String) (env' : Environ) : Prop where
  chosen : ∀ key ∈ settingKeys, ∀ value, env' key = some value ↔ Chosen py rows key value
  kept : ∀ key, key ∉ settingKeys → env' key = env key
  ordered : names.Pairwise (· < ·)
  named : ∀ key, key ∈ names ↔ key ∈ settingKeys ∧ env' key ≠ none

-- The environment holds every value that the store has chosen.
def Held (py : Printer) (rows : List Row) (holds : String → Bool) : Prop :=
  ∀ key ∈ settingKeys, ∀ value, Chosen py rows key value → holds value = true

-- What is left where it does not: the settings are gone, and some are set again.
structure Refused (py : Printer) (rows : List Row) (holds : String → Bool) (env env' : Environ) : Prop where
  kept : ∀ key, key ∉ settingKeys → env' key = env key
  again : ∀ key ∈ settingKeys, ∀ value, env' key = some value → Chosen py rows key value ∧ holds value = true
  refused : ∃ key ∈ settingKeys, env' key = none ∧ ∃ value, Chosen py rows key value ∧ holds value = false

-- The settings of the environment are those of the values.
def replaceSettings (env : Environ) (values : Values) : Environ := fun key =>
  (values.lookup key).or (if key ∈ settingKeys then none else env key)

theorem written_settings (distinct : (PythonDict.keys values).Nodup) (env : Environ) :
    written (popSettings env) values = replaceSettings env values := by
  funext key
  exact written_lookup distinct (popSettings env) key

theorem replaceSettings_foreign (known : ∀ key ∈ PythonDict.keys values, key ∈ settingKeys) (foreign : key ∉ settingKeys) :
    replaceSettings env values key = env key := by
  have absent : values.lookup key = none := by
    rw [← Option.not_isSome_iff_eq_none,PythonDict.lookup_isSome]
    exact fun member => foreign (known key member)
  simp [replaceSettings,foreign,absent]

theorem replaceSettings_own (listed : key ∈ settingKeys) : replaceSettings env values key = values.lookup key := by
  simp [replaceSettings,listed]

theorem replaceSettings_applied (resolved : Resolved py rows values) :
    Applied py rows env ((PythonDict.keys values).mergeSort (· ≤ ·)) (replaceSettings env values) := by
  refine ⟨?_,?_,?_,?_⟩
  · intro key listed value
    rw [replaceSettings_own listed]
    exact resolved.chosen key listed value
  · exact fun key foreign => replaceSettings_foreign resolved.known foreign
  · have sorted := @List.pairwise_mergeSort _ (fun a b : String => decide (a ≤ b))
      (by simpa using fun a b c => @le_trans String _ a b c) (by simpa using fun a b => le_total a b)
      (PythonDict.keys values)
    have distinct := (List.mergeSort_perm (PythonDict.keys values) (fun a b => decide (a ≤ b))).nodup_iff.mpr
      resolved.distinct
    exact (sorted.and distinct).imp fun facts => lt_of_le_of_ne (by simpa using facts.1) facts.2
  · intro key
    rw [(List.mergeSort_perm (PythonDict.keys values) _).mem_iff]
    constructor
    · intro member
      have listed := resolved.known key member
      rw [replaceSettings_own listed]
      refine ⟨listed,?_⟩
      rw [← Option.isSome_iff_ne_none,PythonDict.lookup_isSome]
      exact member
    · rintro ⟨listed,set⟩
      rw [replaceSettings_own listed,← Option.isSome_iff_ne_none,PythonDict.lookup_isSome] at set
      exact set

-- How the update of a resolved table ends.
theorem update_resolved (resolved : Resolved py rows values) (holds : String → Bool) (env : Environ) :
    (Held py rows holds ∧ update holds (popSettings env) values = (true,replaceSettings env values)) ∨
      (¬ Held py rows holds ∧ ∃ env', update holds (popSettings env) values = (false,env') ∧
        Refused py rows holds env env') := by
  obtain ⟨front,back,whole,all,ends⟩ := update_cases holds (popSettings env) values
  have distinct := resolved.distinct
  rcases ends with ⟨rfl,moved⟩ | ⟨entry,rest,rfl,refused,moved⟩
  · rw [List.append_nil] at whole
    subst whole
    left
    refine ⟨fun key listed value chosen => ?_,by rw [moved,written_settings distinct]⟩
    have found := (resolved.chosen key listed value).mpr chosen
    exact all (key,value) ((PythonDict.lookup_mem distinct).mp found)
  · subst whole
    have known : entry.1 ∈ settingKeys :=
      resolved.known entry.1 (List.mem_map_of_mem (List.mem_append_right _ List.mem_cons_self))
    have chosen : Chosen py rows entry.1 entry.2 := (resolved.chosen entry.1 known entry.2).mp
      ((PythonDict.lookup_mem distinct).mpr (List.mem_append_right _ List.mem_cons_self))
    rw [PythonDict.keys,List.map_append,List.nodup_append] at distinct
    obtain ⟨first,_,apart⟩ := distinct
    have fronts : ∀ key ∈ PythonDict.keys front, key ∈ settingKeys := by
      intro key member
      apply resolved.known key
      rw [PythonDict.keys,List.map_append]
      exact List.mem_append_left _ member
    refine .inr ⟨fun held => ?_,_,moved,?_,?_,entry.1,known,?_,entry.2,chosen,refused⟩
    · cases (held entry.1 known entry.2 chosen).symm.trans refused
    · intro key foreign
      rw [written_settings first]
      exact replaceSettings_foreign fronts foreign
    · intro key listed value set
      rw [written_settings first,replaceSettings_own listed] at set
      have member := (PythonDict.lookup_mem first).mp set
      refine ⟨(resolved.chosen key listed value).mp ?_,all _ member⟩
      rw [List.lookup_append,set,Option.some_or]
    · rw [written_settings first,replaceSettings_own known,← Option.not_isSome_iff_eq_none,PythonDict.lookup_isSome]
      exact fun member => apart _ member _ (List.mem_map_of_mem List.mem_cons_self) rfl

theorem apply_resolved (set : Bootstrapped env)
    (serves : Serves py server (origin env) (apiToken env) table rows (fullPages rows)) (holds : String → Bool) :
    (¬ Duplicated rows ∧ Held py rows holds ∧
      ∃ names env', Returns (apply py server holds env) (.ok names,env') ∧ Applied py rows env names env') ∨
    (¬ Duplicated rows ∧ ¬ Held py rows holds ∧
      ∃ env', Returns (apply py server holds env) (.error .valueError,env') ∧ Refused py rows holds env env') ∨
    (Duplicated rows ∧ ∃ message, Returns (apply py server holds env) (.error (.unavailable message),env)) := by
  have fetched := fetch_full set serves
  rcases resolve_exact py rows with ⟨values,resolved,single,facts⟩ | ⟨⟨message,refused⟩,twice⟩
  · rw [resolved] at fetched
    have applied := fetched.map (applyTo holds env)
    dsimp only [applyTo] at applied
    rcases update_resolved facts holds env with ⟨held,moved⟩ | ⟨unheld,env',moved,left_⟩
    · rw [moved] at applied
      exact .inl ⟨single,held,_,_,applied,replaceSettings_applied facts⟩
    · rw [moved] at applied
      exact .inr (.inl ⟨single,unheld,env',applied,left_⟩)
  · rw [refused] at fetched
    exact .inr (.inr ⟨twice,message,fetched.map _⟩)

theorem applied_unique (one : Applied py rows env names env') (two : Applied py rows env other env'') :
    names = other ∧ env' = env'' := by
  have same : env' = env'' := by
    funext key
    by_cases listed : key ∈ settingKeys
    · apply Option.ext
      intro value
      exact (one.chosen key listed value).trans (two.chosen key listed value).symm
    · rw [one.kept key listed,two.kept key listed]
  subst same
  have distinct : ∀ {names : List String}, names.Pairwise (· < ·) → names.Nodup :=
    fun ordered => ordered.imp fun less => ne_of_lt less
  have perm := (List.perm_ext_iff_of_nodup (distinct one.ordered) (distinct two.ordered)).mpr
    fun key => (one.named key).trans (two.named key).symm
  exact ⟨perm.eq_of_pairwise (fun a b _ _ less more => absurd more (lt_asymm less)) one.ordered two.ordered,rfl⟩

theorem applied_perm (perm : rows.Perm rows') (applied : Applied py rows env names env') :
    Applied py rows' env names env' := by
  have given_ : ∀ scope key value, SetIn py rows scope key value ↔ SetIn py rows' scope key value := by
    intro scope key value
    unfold SetIn
    simp only [perm.mem_iff]
  refine ⟨fun key listed value => ?_,applied.kept,applied.ordered,applied.named⟩
  rw [applied.chosen key listed value]
  unfold Chosen
  simp only [given_]

theorem duplicated_perm (perm : rows.Perm rows') : Duplicated rows ↔ Duplicated rows' := by
  rw [duplicated_exact,duplicated_exact,(perm.filterMap scopedKey).nodup_iff]

theorem held_perm (perm : rows.Perm rows') : Held py rows holds ↔ Held py rows' holds := by
  have chosen : ∀ key value, Chosen py rows key value ↔ Chosen py rows' key value := by
    intro key value
    unfold Chosen SetIn
    simp only [perm.mem_iff]
  unfold Held
  simp only [chosen]

-- A call has one outcome.
theorem ok_iff {holds : String → Bool} (returned : Returns (apply py server holds env) (.ok one,after)) :
    Returns (apply py server holds env) (.ok names,env') ↔ one = names ∧ after = env' := by
  constructor
  · intro ran
    have same := Prod.mk.inj (returned.unique ran)
    exact ⟨Except.ok.inj same.1,same.2⟩
  · intro same
    rwa [← same.1,← same.2]

theorem not_ok {holds : String → Bool} (returned : Returns (apply py server holds env) (.error e,after)) :
    ¬ Returns (apply py server holds env) (.ok names,env') := by
  intro ran
  cases (Prod.mk.inj (returned.unique ran)).1

-- Two tables with the same rows lead to the same call.
theorem apply_order (set : Bootstrapped env)
    (serves : Serves py server (origin env) (apiToken env) table rows (fullPages rows)) (perm : rows.Perm rows')
    (serves' : Serves py server' (origin env) (apiToken env) table' rows' (fullPages rows')) (holds : String → Bool) :
    Returns (apply py server holds env) (.ok names,env') ↔ Returns (apply py server' holds env) (.ok names,env') := by
  rcases apply_resolved set serves holds with
    ⟨single,held,one,after,returned,applied⟩ | ⟨single,unheld,_,returned,_⟩ | ⟨twice,message,returned⟩
  · rcases apply_resolved set serves' holds with ⟨_,_,two,after',returned',applied'⟩ | ⟨_,unheld',_⟩ | ⟨twice',_⟩
    · have same := applied_unique (applied_perm perm applied) applied'
      rw [ok_iff returned,ok_iff returned',same.1,same.2]
    · exact absurd ((held_perm perm).mp held) unheld'
    · exact absurd ((duplicated_perm perm).mpr twice') single
  · rcases apply_resolved set serves' holds with ⟨_,held',_⟩ | ⟨_,_,_,returned',_⟩ | ⟨twice',_⟩
    · exact absurd ((held_perm perm).mpr held') unheld
    · exact iff_of_false (not_ok returned) (not_ok returned')
    · exact absurd ((duplicated_perm perm).mpr twice') single
  · rcases apply_resolved set serves' holds with ⟨single',_⟩ | ⟨single',_⟩ | ⟨_,message',returned'⟩
    · exact absurd ((duplicated_perm perm).mp twice) single'
    · exact absurd ((duplicated_perm perm).mp twice) single'
    · exact iff_of_false (not_ok returned) (not_ok returned')

theorem apply_refused (set : Bootstrapped env)
    (serves : Serves py server (origin env) (apiToken env) table rows (fullPages rows)) (holds : String → Bool) :
    (∃ message env', Returns (apply py server holds env) (.error (.unavailable message),env')) ↔ Duplicated rows := by
  rcases apply_resolved set serves holds with ⟨single,_,names,env',returned,_⟩ | ⟨single,_,env',returned,_⟩ | ⟨twice,message,returned⟩
  · refine iff_of_false (fun failed => ?_) single
    obtain ⟨message,other,failed⟩ := failed
    exact not_ok failed returned
  · refine iff_of_false (fun failed => ?_) single
    obtain ⟨message,other,failed⟩ := failed
    cases (Prod.mk.inj (returned.unique failed)).1
  · exact iff_of_true ⟨message,env,returned⟩ twice

def plain : Printer := { verbatim with quote := fun text => "'" ++ text ++ "'" }

def sampleEnv (address : String) : Environ := fun key =>
  if key = "NOCODB_BASE_URL" then some address else if key = "NOCODB_API_TOKEN" then some "token" else none

def sampleRow (app value : String) : Row :=
  [("app",.str app),("settingKey",.str "LIVEKIT_URL"),("settingValue",.str value)]

theorem sample_origin : origin (sampleEnv "https://store/") = "https://store" := by decide
theorem sample_bootstrapped : Bootstrapped (sampleEnv "https://store/") := ⟨by decide,by decide⟩

theorem sample_serves {cap : Nat} (some_ : 1 ≤ cap) (most : cap ≤ pageSize) (rows : List Row) :
    Serves plain (shelf "https://store" rows cap) (origin (sampleEnv "https://store/"))
      (apiToken (sampleEnv "https://store/")) "t" rows fun offset => min cap (rows.length - offset) := by
  rw [sample_origin]
  exact shelf_serves store_address some_ most

-- With the store's bootstrap settings there and its whole table served, apply() comes to an
-- end. A duplicate is its only SettingsUnavailable, which leaves the environment as it was;
-- otherwise it sets what the table chooses, in any order of the rows, or comes to a value
-- that the environment does not hold.
theorem settings_resolution (set : Bootstrapped env)
    (serves : Serves py server (origin env) (apiToken env) table rows (fullPages rows)) (holds : String → Bool) :
    (∃ outcome env', Returns (apply py server holds env) (outcome,env')) ∧
    ((∃ message env', Returns (apply py server holds env) (.error (.unavailable message),env')) ↔ Duplicated rows) ∧
    (¬ Duplicated rows → Held py rows holds → ∃ names env', Returns (apply py server holds env) (.ok names,env') ∧
      Applied py rows env names env') ∧
    (¬ Duplicated rows → ¬ Held py rows holds → ∃ env', Returns (apply py server holds env) (.error .valueError,env') ∧
      Refused py rows holds env env') ∧
    (∀ server' holds' fuel message env', apply py server' holds' env fuel = some (.error (.unavailable message),env') →
      env' = env) ∧
    (∀ rows' server' table', rows.Perm rows' →
      Serves py server' (origin env) (apiToken env) table' rows' (fullPages rows') →
        (∀ names env', Returns (apply py server holds env) (.ok names,env') ↔
          Returns (apply py server' holds env) (.ok names,env')) ∧
        ((∃ message env', Returns (apply py server holds env) (.error (.unavailable message),env')) ↔
          ∃ message env', Returns (apply py server' holds env) (.error (.unavailable message),env'))) := by
  refine ⟨?_,apply_refused set serves holds,?_,?_,fun _ _ _ _ _ failed => apply_error failed,?_⟩
  · rcases apply_resolved set serves holds with ⟨_,_,names,env',returned,_⟩ | ⟨_,_,env',returned,_⟩ | ⟨_,message,returned⟩
    · exact ⟨_,_,returned⟩
    · exact ⟨_,_,returned⟩
    · exact ⟨_,_,returned⟩
  · intro single held
    rcases apply_resolved set serves holds with ⟨_,_,found⟩ | ⟨_,unheld,_⟩ | ⟨twice,_⟩
    · exact found
    · exact absurd held unheld
    · exact absurd twice single
  · intro single unheld
    rcases apply_resolved set serves holds with ⟨_,held,_⟩ | ⟨_,_,found⟩ | ⟨twice,_⟩
    · exact absurd held unheld
    · exact found
    · exact absurd twice single
  · intro rows' server' table' perm serves'
    have refused := (apply_refused set serves holds).trans
      ((duplicated_perm perm).trans (apply_refused set serves' holds).symm)
    exact ⟨fun names env' => apply_order set serves perm serves' holds,refused⟩

theorem sample_settings : ∃ names env',
    Returns (apply plain (shelf "https://store" [sampleRow "aida" " wss://a ",sampleRow "aida-agent" " "] 200) osHolds
      (sampleEnv "https://store/")) (.ok names,env') ∧ env' "LIVEKIT_URL" = some "wss://a" := by
  have serves := sample_serves (by decide) (Nat.le_refl _) [sampleRow "aida" " wss://a ",sampleRow "aida-agent" " "]
  obtain ⟨_,_,resolved,_⟩ := settings_resolution sample_bootstrapped serves osHolds
  have single : ¬ Duplicated [sampleRow "aida" " wss://a ",sampleRow "aida-agent" " "] := by
    rw [duplicated_exact]
    decide
  have values : ∀ row ∈ [sampleRow "aida" " wss://a ",sampleRow "aida-agent" " "], ∀ value,
      settingValue plain row = some value → value = "wss://a" ∧ get row "app" = some (.str "aida") ∧
        get row "settingKey" = some (.str "LIVEKIT_URL") := by
    intro row listed value text
    have blank : settingValue plain (sampleRow "aida-agent" " ") = none := by decide
    have loud : settingValue plain (sampleRow "aida" " wss://a ") = some "wss://a" := by decide
    simp only [List.mem_cons,List.not_mem_nil,or_false] at listed
    rcases listed with rfl | rfl
    · exact ⟨Option.some.inj (text.symm.trans loud),rfl,rfl⟩
    · cases blank.symm.trans text
  have held : Held plain [sampleRow "aida" " wss://a ",sampleRow "aida-agent" " "] osHolds := by
    intro key listed value chosen
    obtain ⟨_,_,_,_,⟨row,member,_,_,text⟩,_⟩ := chosen
    rw [(values row member value text).1]
    decide
  obtain ⟨names,env',returned,applied⟩ := resolved single held
  refine ⟨names,env',returned,(applied.chosen "LIVEKIT_URL" (by decide) "wss://a").mpr ?_⟩
  refine ⟨["*"],"aida",["aida-agent"],rfl,?_,?_⟩
  · exact ⟨sampleRow "aida" " wss://a ",by simp,rfl,rfl,by decide⟩
  · intro later member other set
    obtain rfl := List.mem_singleton.mp member
    obtain ⟨row,listed,own,_,text⟩ := set
    have apart := own.symm.trans (values row listed other text).2.1
    simp at apart

-- A value with a NUL, for an environment with another one.
def nulRow : Row := sampleRow "aida" "wss://a\x00"
def oldEnv : Environ := Function.update (sampleEnv "https://store/") "LIVEKIT_URL" (some "wss://old")

-- os.environ refuses the value, after the setting that it had is gone.
theorem value_refused : isBlank ((oldEnv "NOCODB_BASE_URL").getD "") = false ∧
    isBlank ((oldEnv "NOCODB_API_TOKEN").getD "") = false ∧
    Serves plain (shelf "https://store" [nulRow] 200) (origin oldEnv) (apiToken oldEnv) "t" [nulRow] (fullPages [nulRow]) ∧
    ¬ Duplicated [nulRow] ∧ oldEnv "LIVEKIT_URL" = some "wss://old" ∧
    ∃ env', Returns (apply plain (shelf "https://store" [nulRow] 200) osHolds oldEnv) (.error .valueError,env') ∧
      env' "LIVEKIT_URL" = none := by
  have same : origin oldEnv = "https://store" := by decide
  have serves : Serves plain (shelf "https://store" [nulRow] 200) (origin oldEnv) (apiToken oldEnv) "t" [nulRow]
      (fullPages [nulRow]) := by
    rw [same]
    exact shelf_serves store_address (by decide) (Nat.le_refl _)
  have fetched : Returns (fetch plain (shelf "https://store" [nulRow] 200) oldEnv) (resolve plain [.obj nulRow]) :=
    fetch_full ⟨by decide,by decide⟩ serves
  have values : resolve plain [.obj nulRow] = .ok [("LIVEKIT_URL","wss://a\x00")] := by decide
  rw [values] at fetched
  obtain ⟨fuel,enough⟩ := fetched
  refine ⟨by decide,by decide,serves,by rw [duplicated_exact]; decide,by decide,popSettings oldEnv,⟨fuel,fun more => ?_⟩,
    by decide⟩
  have refused : osHolds "wss://a\x00" = false := by decide
  rw [apply,enough more,Option.map_some]
  simp only [applyTo,update,refused,Bool.false_eq_true,if_false]

-- fetch() and the rows it went by.
def WholeTable (py : Printer) (server : Server) (env : Environ) (table : String) (rows : List Row) : Prop :=
  ∀ values, Returns (fetch py server env) (.ok values) →
    Returns (fun fuel => readRows py server (origin env) (apiToken env) table fuel 0 []) (.ok (rows.map .obj)) ∧
      resolve py (rows.map .obj) = .ok values

theorem fetch_whole_exact {count : Nat → Nat} (set : Bootstrapped env)
    (serves : Serves py server (origin env) (apiToken env) table rows count) :
    WholeTable py server env table rows ↔
      ∀ k, (∀ i, i < k → count (pageSize * i) = pageSize) → pageSize * k < rows.length →
        count (pageSize * k) = min pageSize (rows.length - pageSize * k) ∨
          Duplicated (rows.take (pageSize * k + count (pageSize * k))) := by
  have early : ∀ k, (∀ i, i < k → count (pageSize * i) = pageSize) → pageSize * k < rows.length →
      count (pageSize * k) ≠ min pageSize (rows.length - pageSize * k) →
        Returns (fun fuel => readRows py server (origin env) (apiToken env) table fuel 0 [])
          (.ok ((rows.take (pageSize * k + count (pageSize * k))).map .obj)) := by
    intro k before inside short
    refine ⟨k + 1,fun more => ?_⟩
    have read := readRows_early serves before inside short k (Nat.le_refl k) more
    rwa [Nat.sub_self,Nat.mul_zero] at read
  constructor
  · intro whole k before inside
    by_contra bad
    obtain ⟨short,single⟩ := not_or.mp bad
    have read := early k before inside short
    have fetched := fetch_reads set (serves_address serves) serves.tableId read
    rcases resolve_exact py (rows.take (pageSize * k + count (pageSize * k))) with ⟨values,resolved,_⟩ | ⟨_,twice⟩
    · change Returns _ (resolve py _) at fetched
      rw [resolved] at fetched
      have same := (Except.ok.inj ((whole values fetched).1.unique read))
      have lengths := congrArg List.length same
      rw [List.length_map,List.length_map,List.length_take] at lengths
      have most := serves.most (pageSize * k)
      have within := serves.within (pageSize * k)
      omega
    · exact single twice
  · intro exact_ values fetched
    by_cases full : ∀ k, pageSize * k < rows.length →
        count (pageSize * k) = min pageSize (rows.length - pageSize * k)
    · have read : Returns (fun fuel => readRows py server (origin env) (apiToken env) table fuel 0 [])
          (.ok (rows.map .obj)) := by
        refine ⟨rows.length + 1,fun more => ?_⟩
        refine @readRows_whole py server _ _ table rows count 0 rows.length serves (fun k _ => full k) ?_ more
        rw [Nat.zero_add]
        exact Nat.le_mul_of_pos_left _ (by decide)
      exact ⟨read,(fetched.unique (fetch_reads set (serves_address serves) serves.tableId read)).symm⟩
    · classical
      have some_ := not_forall.mp full
      obtain ⟨inside,short⟩ := Classical.not_imp.mp (Nat.find_spec some_)
      -- Every page before the first bad one is full, as the table goes on.
      have before : ∀ i, i < Nat.find some_ → count (pageSize * i) = pageSize := by
        intro i earlier
        have good := not_not.mp (Nat.find_min some_ earlier)
        have further : pageSize * (i + 1) ≤ pageSize * Nat.find some_ := Nat.mul_le_mul_left _ earlier
        rw [Nat.mul_succ] at further
        rw [good (by omega)]
        omega
      have twice := (exact_ _ before inside).resolve_left short
      rcases resolve_exact py (rows.take (pageSize * Nat.find some_ + count (pageSize * Nat.find some_))) with
        ⟨_,_,single,_⟩ | ⟨⟨message,refused⟩,_⟩
      · exact absurd twice single
      · have failed := fetch_reads set (serves_address serves) serves.tableId (early _ before inside short)
        change Returns _ (resolve py _) at failed
        rw [refused] at failed
        cases fetched.unique failed

-- A table of three pages, whose setting is on the last one.
def spareRow (i : Nat) : Row := [("app",.str "aida"),("settingKey",.str i.repr),("settingValue",.str "spare")]
def longTable : List Row := (List.range 450).map spareRow ++ [sampleRow "aida" "wss://a"]

theorem spare_claims (i : Nat) : scopedKey (spareRow i) = some ("aida",i.repr) := by
  have loud : isBlank i.repr = false := by
    rw [← Bool.not_eq_true,isBlank,List.all_eq_true]
    intro blank
    obtain ⟨c,rest,shape⟩ := List.exists_cons_of_ne_nil (show i.repr.toList ≠ [] by simp [Nat.toList_repr])
    have space := blank c (by rw [shape]; exact List.mem_cons_self)
    have visible := List.all_eq_true.mp (digits_visible i) c (by rw [shape]; exact List.mem_cons_self)
    cases space.symm.trans (visible_plain visible).2.1
  have own : get (spareRow i) "app" = some (.str "aida") := rfl
  have named : get (spareRow i) "settingKey" = some (.str i.repr) := rfl
  rw [scopedKey,own,named]
  exact if_pos ⟨by decide,loud⟩

theorem longTable_single : ¬ Duplicated longTable := by
  have spare : ((List.range 450).map spareRow).filterMap scopedKey = (List.range 450).map fun i => ("aida",i.repr) := by
    rw [List.filterMap_map]
    exact List.filterMap_eq_map_iff_forall_eq_some.mpr fun i _ => spare_claims i
  have last : [sampleRow "aida" "wss://a"].filterMap scopedKey = [("aida","LIVEKIT_URL")] := by decide
  rw [duplicated_exact,longTable,List.filterMap_append,spare,last,not_not,List.nodup_append]
  refine ⟨?_,by simp,?_⟩
  · refine List.Nodup.map (fun i j same => ?_) List.nodup_range
    exact Nat.repr_inj.mp (Prod.mk.inj same).2
  · intro pair member other known
    obtain ⟨i,_,rfl⟩ := List.mem_map.mp member
    rw [List.mem_singleton] at known
    intro same
    have letter : 'L' ∈ Nat.toDigits 10 i := by
      rw [← Nat.toList_repr,(Prod.mk.inj (same.trans known)).2]
      decide
    have digit := Nat.isDigit_of_mem_toDigits (by decide) (by decide) letter
    revert digit
    decide

theorem sample_whole : ∃ values, Returns (fetch plain (shelf "https://store" longTable pageSize) (sampleEnv "https://store/"))
      (.ok values) ∧
    WholeTable plain (shelf "https://store" longTable pageSize) (sampleEnv "https://store/") "t" longTable := by
  have serves := sample_serves (by decide) (Nat.le_refl pageSize) longTable
  rcases resolve_exact plain longTable with ⟨values,resolved,_⟩ | ⟨_,twice⟩
  · have fetched := fetch_full sample_bootstrapped serves
    rw [resolved] at fetched
    refine ⟨values,fetched,(fetch_whole_exact sample_bootstrapped serves).mpr ?_⟩
    exact fun k _ _ => .inl rfl
  · exact absurd twice longTable_single

-- A server that gives one record at a time is read for one record.
theorem capped_partial : Serves plain
      (shelf "https://store" [sampleRow "aida" "wss://a",sampleRow "aida-agent" "wss://b"] 1)
      (origin (sampleEnv "https://store/")) (apiToken (sampleEnv "https://store/")) "t"
      [sampleRow "aida" "wss://a",sampleRow "aida-agent" "wss://b"] (fun offset => min 1 (2 - offset)) ∧
    Returns (fetch plain (shelf "https://store" [sampleRow "aida" "wss://a",sampleRow "aida-agent" "wss://b"] 1)
      (sampleEnv "https://store/")) (.ok [("LIVEKIT_URL","wss://a")]) ∧
    resolve plain ([sampleRow "aida" "wss://a",sampleRow "aida-agent" "wss://b"].map .obj) =
      .ok [("LIVEKIT_URL","wss://b")] ∧
    ¬ WholeTable plain (shelf "https://store" [sampleRow "aida" "wss://a",sampleRow "aida-agent" "wss://b"] 1)
      (sampleEnv "https://store/") "t" [sampleRow "aida" "wss://a",sampleRow "aida-agent" "wss://b"] := by
  have serves := @sample_serves 1 (by decide) (by decide)
    [sampleRow "aida" "wss://a",sampleRow "aida-agent" "wss://b"]
  have whole : resolve plain ([sampleRow "aida" "wss://a",sampleRow "aida-agent" "wss://b"].map .obj) =
      .ok [("LIVEKIT_URL","wss://b")] := by decide
  have read := fetch_reads sample_bootstrapped (serves_address serves) serves.tableId
    ⟨1,readRows_early serves (fun i below => absurd below (Nat.not_lt_zero i)) (by decide) (by decide) 0 (Nat.le_refl 0)⟩
  have first : resolve plain (readTo [sampleRow "aida" "wss://a",sampleRow "aida-agent" "wss://b"] 1) =
      .ok [("LIVEKIT_URL","wss://a")] := by decide
  have fetched : Returns
      (fetch plain (shelf "https://store" [sampleRow "aida" "wss://a",sampleRow "aida-agent" "wss://b"] 1)
        (sampleEnv "https://store/"))
      (resolve plain (readTo [sampleRow "aida" "wss://a",sampleRow "aida-agent" "wss://b"] 1)) := read
  rw [first] at fetched
  refine ⟨serves,fetched,whole,fun reads => ?_⟩
  have same := whole.symm.trans (reads _ fetched).2
  simp at same

end AidaAgent.PlatformConfig
