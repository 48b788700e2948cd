import AidaAgent.CommandLineStart

namespace AidaAgent.CommandLine
open JsonText PythonText Config PlatformConfig Logstore Deployment

-- Two environments that a deployment states alike, whatever else they hold under the
-- names of settings.
def SameBootstrap (env env' : Environ) : Prop := ∀ key, key ∉ settingKeys → env' key = env key

theorem zoned_same (same : SameBootstrap env env') : SameBootstrap (zoned env) (zoned env') := by
  have zone : env' "TZ" = env "TZ" := same "TZ" (by decide)
  intro key foreign
  unfold zoned Deployment.read
  rw [zone]
  split
  · by_cases own : key = "TZ"
    · subst own
      simp
    · simp only [Function.update_of_ne own]
      exact same key foreign
  · exact same key foreign

theorem fetch_same (same : SameBootstrap env env') : fetch py server env' fuel = fetch py server env fuel := by
  have address : origin env' = origin env := by
    unfold origin
    rw [same "NOCODB_BASE_URL" (by decide)]
  have token : apiToken env' = apiToken env := by
    unfold apiToken
    rw [same "NOCODB_API_TOKEN" (by decide)]
  rw [fetch,fetch,address,token]

theorem popSettings_same (same : SameBootstrap env env') : popSettings env' = popSettings env := by
  funext key
  unfold popSettings
  by_cases listed : key ∈ settingKeys
  · rw [if_pos listed,if_pos listed]
  · rw [if_neg listed,if_neg listed,same key listed]

-- What main() does once the store has answered.
def answered (m : Machine) (arguments : List String) (env : Environ) : Except Failure Values → Process × Except Ending Outcome
  | .ok values =>
    match update osHolds (popSettings env) values with
    | (false,env) => (⟨⟨env,[],[]⟩,[]⟩,.error (.failed .valueError))
    | (true,env) =>
      let p : Process := ⟨⟨env,[],[]⟩,["[settings] PlatformConfig applied: " ++
        if (PythonDict.keys values).mergeSort (· ≤ ·) = [] then "no rows"
        else ", ".intercalate ((PythonDict.keys values).mergeSort (· ≤ ·))]⟩
      if arguments.head? = some "preview" then (p,.ok (.previews arguments.tail))
      else ((workerMain m arguments p).1,(workerMain m arguments p).2.map .runs)
  | .error (.unavailable message) =>
    if arguments.head? = some "preview" then
      (⟨⟨env,[],[]⟩,["[settings] PlatformConfig unavailable, reporting the environment as is: " ++ message]⟩,
        .ok (.previews arguments.tail))
    else (⟨⟨env,[],[]⟩,[]⟩,.error (.exits ("[settings] Cannot start: " ++ message)))
  | .error e => (⟨⟨env,[],[]⟩,[]⟩,.error (.failed e))

theorem main_answered (helpless : "--help" ∉ arguments ∧ "-h" ∉ arguments)
    (versionless : ¬ (arguments = ["version"] ∨ arguments = ["--version"])) (m : Machine) (fuel : Nat) (env : Environ) :
    main m arguments fuel env = (fetch m.printer m.store (zoned env) fuel).map (answered m arguments (zoned env)) := by
  unfold main start applyPlatformConfig PlatformConfig.apply
  rw [if_neg versionless,if_neg (not_or.mpr helpless)]
  cases fetched : fetch m.printer m.store (zoned env) fuel with
  | none => simp only [Option.map_none]
  | some result =>
    simp only [Option.map_some,Option.some.injEq]
    cases result with
    | ok values =>
      simp only [answered,applyTo]
      generalize update osHolds (popSettings (zoned env)) values = updated
      obtain ⟨_ | _,environ⟩ := updated <;> rfl
    | error e =>
      cases e with
      | unavailable message =>
        by_cases previewing : arguments.head? = some "preview"
        · simp only [answered,applyTo,previewing,if_true]
          rfl
        · simp only [answered,applyTo,previewing,if_false]
      | attributeError | keyError | valueError | httpException | recursionError => rfl

-- Two starts that say the same, do the same and leave the same.
structure SameStart (one two : Process × Except Ending Outcome) : Prop where
  lines : two.1.lines = one.1.lines
  warnings : two.1.world.warnings = one.1.world.warnings
  files : two.1.world.files = one.1.world.files
  ending : two.2 = one.2

theorem answered_same (same : SameBootstrap env env') (m : Machine) (arguments : List String) (fetched : Except Failure Values) :
    SameStart (answered m arguments env fetched) (answered m arguments env' fetched) ∧
      ((∃ values, fetched = .ok values) → answered m arguments env' fetched = answered m arguments env fetched) := by
  cases fetched with
  | ok values =>
    have equal : answered m arguments env' (.ok values) = answered m arguments env (.ok values) := by
      simp only [answered,popSettings_same same]
    exact ⟨by rw [equal]; exact ⟨rfl,rfl,rfl,rfl⟩,fun _ => equal⟩
  | error e =>
    refine ⟨?_,fun known => (by obtain ⟨_,impossible⟩ := known; cases impossible)⟩
    cases e with
    | unavailable message =>
      unfold answered
      dsimp only
      split <;> exact ⟨rfl,rfl,rfl,rfl⟩
    | attributeError | keyError | valueError | httpException | recursionError => exact ⟨rfl,rfl,rfl,rfl⟩

-- A setting in the environment of a deployment changes nothing about how the program
-- starts: it prints, writes and does the same, and runs in the same environment. Only
-- where the store has given no settings is the environment left as it was.
theorem ambient_ignored (same : SameBootstrap env env') (helpless : "--help" ∉ arguments ∧ "-h" ∉ arguments)
    (m : Machine) (fuel : Nat) :
    Option.Rel (fun one two => SameStart one two ∧
        (one.1.world.environ = two.1.world.environ ∨ SameBootstrap one.1.world.environ two.1.world.environ ∧
          ((arguments = ["version"] ∨ arguments = ["--version"]) ∨
            ∃ e, fetch m.printer m.store (zoned env) fuel = some (.error e))))
      (main m arguments fuel env) (main m arguments fuel env') := by
  have zones := zoned_same same
  by_cases version : arguments = ["version"] ∨ arguments = ["--version"]
  · unfold main start
    rw [if_pos version,if_pos version]
    exact .some ⟨⟨rfl,rfl,rfl,rfl⟩,.inr ⟨zones,.inl version⟩⟩
  · rw [main_answered helpless version,main_answered helpless version,fetch_same zones]
    cases fetched : fetch m.printer m.store (zoned env) fuel with
    | none => exact .none
    | some result =>
      obtain ⟨alike,equal⟩ := answered_same zones m arguments result
      refine .some ⟨alike,?_⟩
      cases result with
      | ok values =>
        left
        rw [equal ⟨values,rfl⟩]
      | error e =>
        refine .inr ⟨?_,.inr ⟨e,rfl⟩⟩
        cases e with
        | unavailable message =>
          unfold answered
          dsimp only
          split <;> exact zones
        | attributeError | keyError | valueError | httpException | recursionError => exact zones

-- A key of another project in the environment.
def strayEnv : Environ := Function.update (sampleEnv "https://store/") "LIVEKIT_API_SECRET" (some "stray")

theorem sample_ambient : ∃ one two, main sampleMachine ["start"] 1 (sampleEnv "https://store/") = some one ∧
    main sampleMachine ["start"] 1 strayEnv = some two ∧ SameStart one two := by
  have same : SameBootstrap (sampleEnv "https://store/") strayEnv := by
    intro key foreign
    have other : key ≠ "LIVEKIT_API_SECRET" := by
      intro named
      rw [named] at foreign
      exact foreign (by decide)
    exact Function.update_of_ne other _ _
  obtain ⟨p,ran⟩ := sample_main
  have helpless : "--help" ∉ ["start"] ∧ "-h" ∉ ["start"] := ⟨by decide,by decide⟩
  have alike := ambient_ignored same helpless sampleMachine 1
  rw [ran] at alike
  generalize main sampleMachine ["start"] 1 strayEnv = other at alike
  cases alike with
  | some both => exact ⟨_,_,ran,rfl,both.1⟩

end AidaAgent.CommandLine
