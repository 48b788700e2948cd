import AidaAgent.CommandLine
import AidaAgent.ServiceOrigin
import AidaAgent.SettingsApply

namespace AidaAgent.CommandLine
open JsonText PythonText Config PlatformConfig Logstore Deployment

-- Rows that are settled are objects.
theorem checkRows_objects (checked : checkRows seen rows = .ok u) : ∃ objects : List Row, rows = objects.map .obj := by
  induction rows generalizing seen with
  | nil => exact ⟨[],rfl⟩
  | cons row rest ih =>
    cases row with
    | obj fields =>
      rw [checkRows] at checked
      split at checked
      · obtain ⟨objects,rfl⟩ := ih checked
        exact ⟨fields :: objects,rfl⟩
      · split at checked
        · cases checked
        · obtain ⟨objects,rfl⟩ := ih checked
          exact ⟨fields :: objects,rfl⟩
    | null | bool | int | float | constant | str | arr => cases checked

theorem resolve_resolved (resolved : resolve py rows = .ok values) : ∃ objects, Resolved py objects values := by
  have checked : ∃ u, checkRows [] rows = .ok u := by
    cases result : checkRows [] rows with
    | ok u => exact ⟨u,rfl⟩
    | error e =>
      rw [resolve,result] at resolved
      cases resolved
  obtain ⟨u,passed⟩ := checked
  obtain ⟨objects,rfl⟩ := checkRows_objects passed
  rcases resolve_exact py objects with ⟨values',same,_,facts⟩ | ⟨⟨message,refused⟩,_⟩
  · cases Except.ok.inj (resolved.symm.trans same)
    exact ⟨objects,facts⟩
  · cases resolved.symm.trans refused

-- What fetch() returns are settings that rows of the store choose.
theorem fetch_resolved (fetched : fetch py server env fuel = some (.ok values)) : ∃ objects, Resolved py objects values := by
  unfold fetch at fetched
  split at fetched
  · cases fetched
  · split at fetched
    · cases fetched
    · obtain ⟨rows,_,bound⟩ := Option.map_eq_some_iff.mp fetched
      cases rows with
      | error e => cases bound
      | ok rows => exact resolve_resolved bound

-- Settings are read the same from two environments that differ in the variables of the
-- log store only.
def SameSettings (env env' : Environ) : Prop := ∀ key, key ∉ Logstore.names → env' key = env key

theorem read_same (same : SameSettings env env') (plain : key ∉ Logstore.names) (default : String) :
    read env' key default = read env key default := by
  unfold Deployment.read
  rw [same key plain]

theorem deployment_same (same : SameSettings env env') :
    DeploymentConfiguration.fromEnv env' = DeploymentConfiguration.fromEnv env := by
  have setting : ∀ key, key ∉ Logstore.names → deploymentSetting env' key = deploymentSetting env key := by
    intro key plain
    rw [deploymentSetting,deploymentSetting,read_same same plain]
  rw [DeploymentConfiguration.fromEnv,setting _ (by decide),setting _ (by decide),setting _ (by decide),
    setting _ (by decide)]
  rfl

theorem bootstrap_same (same : SameSettings env env') :
    BootstrapConfiguration.fromEnv py env' = BootstrapConfiguration.fromEnv py env := by
  have timeout : bootstrapTimeout py env' = bootstrapTimeout py env := by
    rw [bootstrapTimeout,bootstrapTimeout,read_same same (by decide)]
  rw [BootstrapConfiguration.fromEnv,BootstrapConfiguration.fromEnv,read_same same (by decide),read_same same (by decide),timeout]

theorem checkSettings_ok (checked : checkSettings m env = .ok u) : (∃ d, DeploymentConfiguration.fromEnv env = .ok d) ∧
    (∃ c, BootstrapConfiguration.fromEnv m.python env = .ok c) ∧
      ∀ key ∈ requiredSettings, isBlank (read env key "") = false := by
  unfold checkSettings at checked
  split at checked
  · cases checked
  · rename_i d deployed
    split at checked
    · cases checked
    · rename_i c configured
      split at checked
      · cases checked
      · rename_i none_
        refine ⟨⟨d,deployed⟩,⟨c,configured⟩,fun key member => ?_⟩
        have filled := List.find?_eq_none.mp none_ key member
        simpa using filled

-- What a server that is made says of itself.
structure Listed (m : Machine) (env : Environ) (server : AgentServer) : Prop where
  named : fullMatch isNameChar 1 64 server.agentName = true
  agentName : server.agentName = read env "LIVEKIT_AGENT_NAME" "aida-prime"
  port : 1 ≤ server.statusPort ∧ server.statusPort ≤ 65535 ∧ server.statusPort ≠ 8081
  watched : server.watched = enabled env
  pinned : m.sdk = "1.8.0"

theorem makeServer_ok (made : makeServer m env = .ok server) : Listed m env server := by
  unfold makeServer at made
  dsimp only at made
  split at made
  · rename_i named
    split at made
    · cases made
    · rename_i port found
      split at made
      · cases made
      · rename_i pinned
        cases made
        have bounds := (Option.filter_eq_some_iff.mp found).2
        exact ⟨named,rfl,of_decide_eq_true bounds,rfl,by simpa using pinned⟩
  · cases made

-- What apply_platform_config leaves where it lets the program go on without an excuse.
theorem applied_ok (helpless : "--help" ∉ arguments ∧ "-h" ∉ arguments) (working : arguments.head? ≠ some "preview")
    (applied : applyPlatformConfig m arguments fuel p = some (p',.ok u)) : ∃ values,
      fetch m.printer m.store p.world.environ fuel = some (.ok values) ∧
        p' = (p.set (replaceSettings p.world.environ values)).print ("[settings] PlatformConfig applied: " ++
          if PythonDict.keys values = [] then "no rows"
          else ", ".intercalate ((PythonDict.keys values).mergeSort (· ≤ ·))) := by
  unfold applyPlatformConfig at applied
  rw [if_neg (not_or.mpr helpless)] at applied
  obtain ⟨result,ran,same⟩ := Option.map_eq_some_iff.mp applied
  obtain ⟨fetched,known,rfl⟩ := Option.map_eq_some_iff.mp ran
  cases fetched with
  | ok values =>
    obtain ⟨rows,resolved⟩ := fetch_resolved known
    dsimp only [applyTo] at same
    rcases update_resolved resolved osHolds p.world.environ with ⟨_,moved⟩ | ⟨_,environ,moved,_⟩
    rotate_left
    · rw [moved] at same
      cases same
    rw [moved] at same
    cases same
    have empty : (PythonDict.keys values).mergeSort (fun a b => decide (a ≤ b)) = [] ↔ PythonDict.keys values = [] := by
      rw [← List.length_eq_zero_iff,List.length_mergeSort,List.length_eq_zero_iff]
    exact ⟨values,known,by simp only [empty]⟩
  | error e =>
    cases e with
    | unavailable message =>
      dsimp only [applyTo] at same
      rw [if_neg working] at same
      cases same
    | attributeError | keyError | valueError | httpException | recursionError => cases same

-- A worker that is started: where its settings come from, and that they are complete.
structure Started (m : Machine) (env : Environ) (fuel : Nat) (p : Process) (server : AgentServer) : Prop where
  store : ∃ rows values, fetch m.printer m.store (zoned env) fuel = some (.ok values) ∧ Resolved m.printer rows values ∧
    (∀ key ∈ settingKeys, key ∉ Logstore.names → p.world.environ key = values.lookup key) ∧
    (∀ key, key ∉ settingKeys → key ∉ Logstore.names → p.world.environ key = zoned env key) ∧
    Left server.watched (replaceSettings (zoned env) values) p.world.environ ∧
    p.lines = ["[settings] PlatformConfig applied: " ++ if PythonDict.keys values = [] then "no rows"
      else ", ".intercalate ((PythonDict.keys values).mergeSort (· ≤ ·))]
  deployment : ∃ d, DeploymentConfiguration.fromEnv p.world.environ = .ok d
  bootstrap : ∃ c, BootstrapConfiguration.fromEnv m.python p.world.environ = .ok c
  required : ∀ key ∈ requiredSettings, isBlank (read p.world.environ key "") = false
  listed : Listed m p.world.environ server

-- main() of the worker, where it comes to a server.
theorem workerMain_ok (registering : registers m arguments = true) (served : workerMain m arguments p = (p',.ok server)) :
    checkSettings m p.world.environ = .ok () ∧ p'.lines = p.lines ∧ makeServer m p'.world.environ = .ok server ∧
      ∃ decision, Left decision p.world.environ p'.world.environ := by
  unfold workerMain at served
  rw [if_pos registering] at served
  split at served
  · cases served
  · rename_i checked
    split at served
    · cases served
    · rename_i world decided configured
      obtain ⟨rfl,made⟩ := Prod.mk.inj served
      refine ⟨checked,rfl,made,?_⟩
      rcases configure_outcome m.host p.world with ⟨_,decision,_,left⟩ | ⟨_,e,raised,_⟩
      · rw [configured] at left
        exact ⟨decision,left⟩
      · rw [configured] at raised
        cases raised

theorem left_settings (left : Left decision before after) : SameSettings before after := left.others

theorem requiredSettings_plain : ∀ key ∈ requiredSettings, key ∉ Logstore.names := by decide

theorem main_started (registering : registers m arguments = true) (helpless : "-h" ∉ arguments)
    (started : main m arguments fuel env = some (p,.ok (.runs server))) : Started m env fuel p server := by
  obtain ⟨commands,unhelped⟩ := Bool.and_eq_true_iff.mp registering
  have help : "--help" ∉ arguments := by
    intro member
    simp [member] at unhelped
  unfold main start at started
  split at started
  · cases started
  · obtain ⟨⟨middle,applied⟩,ran,same⟩ := Option.map_eq_some_iff.mp started
    cases applied with
    | error e => cases same
    | ok u =>
      dsimp only at same
      split at same
      · cases same
      · rename_i working
        obtain ⟨values,fetched,rfl⟩ := applied_ok ⟨help,helpless⟩ working ran
        obtain ⟨rows,resolved⟩ := fetch_resolved fetched
        have replaced : Applied m.printer rows (zoned env) _ (replaceSettings (zoned env) values) := replaceSettings_applied resolved
        generalize outcome : workerMain m arguments _ = served at same
        obtain ⟨p',made⟩ := served
        cases made with
        | error e => cases same
        | ok server' =>
          cases same
          obtain ⟨checked,lines,made,decision,left⟩ := workerMain_ok registering outcome
          have settings := left_settings left
          obtain ⟨deployed,configured,filled⟩ := checkSettings_ok checked
          have listed := makeServer_ok made
          have decided : server.watched = decision := listed.watched.trans (left_enabled left)
          refine ⟨⟨rows,values,fetched,resolved,?_,?_,?_,lines⟩,?_,?_,?_,listed⟩
          · intro key own plain
            exact (settings key plain).trans (replaceSettings_own own)
          · intro key foreign plain
            exact (settings key plain).trans (replaced.kept key foreign)
          · rw [decided]
            exact left
          · rw [deployment_same settings]
            exact deployed
          · rw [bootstrap_same settings]
            exact configured
          · intro key member
            rw [read_same settings (requiredSettings_plain key member)]
            exact filled key member

-- A worker that registers has its settings from the store alone, and all of them.
theorem worker_starts (registering : registers m arguments = true) (helpless : "-h" ∉ arguments)
    (started : main m arguments fuel env = some (p,.ok (.runs server))) : Started m env fuel p server :=
  main_started registering helpless started

-- A store with the settings of a worker, and a host that starts it.
def sampleValues : Values :=
  [("LIVEKIT_URL","wss://livekit.test"),("LIVEKIT_API_KEY","key"),("LIVEKIT_API_SECRET","secret"),
    ("OFFICEPULSE_API_BASE_URL","https://pulse.test"),("AIDA_ROUTE_TOKEN_ATTRIBUTE","sip.routeToken"),
    ("AIDA_STT_MODEL","stt"),("AIDA_LLM_MODEL","llm"),("AIDA_TTS_MODEL","tts"),("AIDA_TTS_VOICE","voice")]

def sampleRows : List Row := sampleValues.map fun entry =>
  [("app",.str "aida"),("settingKey",.str entry.1),("settingValue",.str entry.2)]

def sampleMachine : Machine where
  printer := plain
  python := asciiPython
  store := shelf "https://store" sampleRows 200
  host := sampleHost (.ok "/tmp/key")
  int := fun text => if text = "8082" then some 8082 else none
  buildInfo := "\x7b\x7d"
  sdk := "1.8.0"
  program := "aida-agent"

def sampleServer : AgentServer := ⟨"aida-prime","0.0.0.0",8082,false⟩

theorem sample_main : ∃ p, main sampleMachine ["start"] 1 (sampleEnv "https://store/") = some (p,.ok (.runs sampleServer)) :=
  ⟨_,rfl⟩

theorem sample_started : ∃ p, Started sampleMachine (sampleEnv "https://store/") 1 p sampleServer := by
  obtain ⟨p,ran⟩ := sample_main
  exact ⟨p,worker_starts (by decide) (by decide) ran⟩

end AidaAgent.CommandLine
