import AidaAgent.CommandLineStart

namespace AidaAgent.CommandLine
open JsonText PythonText Config PlatformConfig UrlSplit Deployment Transitions

-- What a job has once entrypoint() has read its dispatch and the settings.
structure Entered where
  setup : Worker.Setup
  deployment : DeploymentConfiguration
  bootstrap : BootstrapConfiguration

-- The try block of entrypoint().
def readJob (py : Interpreter) (python : Python) (env : Environ) (metadata roomName : String) : Checked Entered := do
  let dispatch ← DispatchConfiguration.parse py metadata roomName
  let deployment ← DeploymentConfiguration.fromEnv env
  let bootstrap ← BootstrapConfiguration.fromEnv python env
  return ⟨⟨py,dispatch,roomName,bootstrap.baseUrl,bootstrap.routeTokenAttribute⟩,deployment,bootstrap⟩

-- A job that is not taken up is shut down before it has connected to its room.
inductive Entry where
  | rejected (warning reason : String)
  | enters (job : Entered)

def entrypoint (py : Interpreter) (python : Python) (env : Environ) (metadata roomName : String) : Entry :=
  match readJob py python env metadata roomName with
  | .error _ => .rejected "agent job rejected: invalid configuration" "invalid configuration"
  | .ok job => .enters job

theorem readJob_exact : readJob py python env metadata roomName = .ok job ↔
    DispatchConfiguration.parse py metadata roomName = .ok job.setup.dispatch ∧
      DeploymentConfiguration.fromEnv env = .ok job.deployment ∧ BootstrapConfiguration.fromEnv python env = .ok job.bootstrap ∧
        job.setup = ⟨py,job.setup.dispatch,roomName,job.bootstrap.baseUrl,job.bootstrap.routeTokenAttribute⟩ := by
  simp only [readJob,bind_ok,pure_ok]
  constructor
  · intro entered
    obtain ⟨dispatch,parsed,deployment,deployed,bootstrap,configured,rfl⟩ := entered
    exact ⟨parsed,deployed,configured,rfl⟩
  · intro parts
    obtain ⟨parsed,deployed,configured,same⟩ := parts
    refine ⟨job.setup.dispatch,parsed,job.deployment,deployed,job.bootstrap,configured,?_⟩
    rw [← same]

theorem entrypoint_exact : entrypoint py python env metadata roomName = .enters job ↔
    readJob py python env metadata roomName = .ok job := by
  unfold entrypoint
  cases readJob py python env metadata roomName with
  | error e => simp
  | ok other => simp

-- An origin is not the empty text.
theorem origin_set {key : String} (origin : Origin python (stripSlashes (read env key "")) authority) :
    ∃ value, env key = some value ∧ Origin python (stripSlashes value) authority := by
  cases known : env key with
  | some value =>
    rw [Deployment.read,known] at origin
    exact ⟨value,rfl,origin⟩
  | none =>
    rw [Deployment.read,known] at origin
    obtain ⟨scheme,_,_,whole⟩ := origin.written
    have nothing : (stripSlashes (none.getD "")).toList = [] := by decide
    have long := congrArg List.length (nothing.symm.trans whole)
    simp [separator] at long

theorem named_set {key : String} (named : fullMatch isAttributeChar 1 128 (read env key "") = true) :
    env key = some (read env key "") := by
  cases known : env key with
  | some value => rw [Deployment.read,known,Option.getD_some]
  | none =>
    rw [Deployment.read,known] at named
    have empty : fullMatch isAttributeChar 1 128 (none.getD "") = false := by decide
    cases empty.symm.trans named

-- A model of speech has its name from the store, too.
theorem deploymentSetting_set (accepted : deploymentSetting env name = .ok text) :
    ∃ value, env name = some value ∧ text = strip value := by
  simp only [deploymentSetting,bind_ok,require_ok,pure_ok] at accepted
  obtain ⟨_,filled,rfl⟩ := accepted
  cases known : env name with
  | some value => exact ⟨value,rfl,by rw [Deployment.read,known]; rfl⟩
  | none =>
    rw [Deployment.read,known] at filled
    have empty : (strip (none.getD "") ≠ "") = False := by decide
    simp only [empty,decide_false,Bool.false_and] at filled
    cases filled

structure Spoken (values : Values) (d : DeploymentConfiguration) : Prop where
  stt : ∃ value, values.lookup "AIDA_STT_MODEL" = some value ∧ d.sttModel = strip value
  llm : ∃ value, values.lookup "AIDA_LLM_MODEL" = some value ∧ d.llmModel = strip value
  tts : ∃ value, values.lookup "AIDA_TTS_MODEL" = some value ∧ d.ttsModel = strip value
  voice : ∃ value, values.lookup "AIDA_TTS_VOICE" = some value ∧ d.ttsVoice = strip value

-- What a job of a worker has to do with the values that the store gave the worker.
structure Served (py : Interpreter) (python : Python) (values : Values) (environ : Environ) (metadata roomName : String) :
    Prop where
  taken : (∃ job, entrypoint py python environ metadata roomName = .enters job) ↔
    ∃ d, DispatchConfiguration.parse py metadata roomName = .ok d
  spoken : ∀ job, entrypoint py python environ metadata roomName = .enters job → Spoken values job.deployment
  routeToken : ∀ job, entrypoint py python environ metadata roomName = .enters job →
    values.lookup "AIDA_ROUTE_TOKEN_ATTRIBUTE" = some job.setup.routeTokenAttribute
  credential : ∀ job, entrypoint py python environ metadata roomName = .enters job → ∃ address authority,
    values.lookup "OFFICEPULSE_API_BASE_URL" = some address ∧ job.setup.baseUrl = stripSlashes address ∧
      Origin python (stripSlashes address) authority ∧
        ∀ room events j, Runs (Worker.step job.setup) Anything (.initial job.setup room) events j → ∀ post ∈ j.posts,
          urlsplit python.unicode post.url.toList = some ⟨https,authority,callPath job.setup.dispatch.callId,[],[]⟩ ∧
            ∃ leg, post = Bootstrap.bootstrapPost job.setup.baseUrl job.setup.dispatch roomName leg

theorem deployment_spoken (stored : ∀ key ∈ settingKeys, key ∉ Logstore.names → environ key = values.lookup key)
    (deployed : DeploymentConfiguration.fromEnv environ = .ok d) : Spoken values d := by
  have named : ∀ {key text}, key ∈ settingKeys → key ∉ Logstore.names → deploymentSetting environ key = .ok text →
      ∃ value, values.lookup key = some value ∧ text = strip value := by
    intro key text listed plain accepted
    obtain ⟨value,known,same⟩ := deploymentSetting_set accepted
    exact ⟨value,(stored key listed plain).symm.trans known,same⟩
  simp only [DeploymentConfiguration.fromEnv,bind_ok,pure_ok] at deployed
  obtain ⟨stt,one,llm,two,tts,three,voice,four,rfl⟩ := deployed
  exact ⟨named (by decide) (by decide) one,named (by decide) (by decide) two,named (by decide) (by decide) three,
    named (by decide) (by decide) four⟩

-- A run posts to the address of its call, under the origin that the job was given.
theorem run_reaches {setup : Worker.Setup} (origin : Origin python setup.baseUrl authority)
    (canonical : Uuid.Canonical setup.dispatch.callId) (path : Runs (Worker.step setup) Anything (.initial setup room) events j)
    (made : post ∈ j.posts) :
    urlsplit python.unicode post.url.toList = some ⟨https,authority,callPath setup.dispatch.callId,[],[]⟩ ∧
      ∃ leg, post = Bootstrap.bootstrapPost setup.baseUrl setup.dispatch setup.roomName leg := by
  rcases (Worker.run_spent path).once with none_ | ⟨leg,_,one⟩
  · rw [none_] at made
    cases made
  · rw [one] at made
    cases List.mem_singleton.mp made
    exact ⟨origin.reaches canonical,leg,rfl⟩

-- In a worker that registers a job is refused for its dispatch alone, and what it takes up
-- has its models, its attribute and the address of its credential from the store.
theorem jobs_from_store (registering : registers m arguments = true) (helpless : "-h" ∉ arguments)
    (started : main m arguments fuel env = some (p,.ok (.runs server))) : ∃ values,
      fetch m.printer m.store (zoned env) fuel = some (.ok values) ∧
        ∀ py metadata roomName, Served py m.python values p.world.environ metadata roomName := by
  have ready := main_started registering helpless started
  obtain ⟨_,values,fetched,_,stored,_⟩ := ready.store
  refine ⟨values,fetched,fun py metadata roomName => ?_⟩
  have parts : ∀ {job}, entrypoint py m.python p.world.environ metadata roomName = .enters job → _ := fun entered =>
    readJob_exact.mp (entrypoint_exact.mp entered)
  constructor
  · constructor
    · intro taken
      obtain ⟨job,entered⟩ := taken
      exact ⟨_,(parts entered).1⟩
    · intro dispatched
      obtain ⟨d,parsed⟩ := dispatched
      obtain ⟨deployment,deployed⟩ := ready.deployment
      obtain ⟨bootstrap,configured⟩ := ready.bootstrap
      refine ⟨⟨⟨py,d,roomName,bootstrap.baseUrl,bootstrap.routeTokenAttribute⟩,deployment,bootstrap⟩,?_⟩
      apply entrypoint_exact.mpr
      exact readJob_exact.mpr ⟨parsed,deployed,configured,rfl⟩
  · intro job entered
    exact deployment_spoken stored (parts entered).2.1
  · intro job entered
    obtain ⟨_,_,configured,whole⟩ := parts entered
    have facts := fromEnv_exact.mp configured
    have known := named_set (facts.routeToken ▸ facts.named)
    rw [whole,← stored _ (by decide) (by decide),known,facts.routeToken]
  · intro job entered
    obtain ⟨dispatched,_,configured,whole⟩ := parts entered
    have facts := fromEnv_exact.mp configured
    obtain ⟨authority,origin⟩ := facts.origin
    have same : job.setup.roomName = roomName := by rw [whole]
    rw [facts.base] at origin
    obtain ⟨address,known,named⟩ := origin_set origin
    have base : job.setup.baseUrl = stripSlashes address := by
      rw [whole,facts.base,Deployment.read,known]
      rfl
    refine ⟨address,authority,(stored _ (by decide) (by decide)).symm.trans known,base,named,?_⟩
    intro room events j path post made
    rw [← base] at named
    rw [← same]
    exact run_reaches named (Bootstrap.dispatch_parts dispatched).2.1 path made

-- The sample worker takes up the sample call.
theorem sample_jobs : ∃ p values, Served verbatim asciiPython values p
    (dumps verbatim ⟨true,true⟩ (.obj (Bootstrap.metadataOf Bootstrap.sampleDispatch))) Bootstrap.sampleRoom ∧
      ∃ job, entrypoint verbatim asciiPython p (dumps verbatim ⟨true,true⟩ (.obj (Bootstrap.metadataOf Bootstrap.sampleDispatch)))
        Bootstrap.sampleRoom = .enters job := by
  obtain ⟨p,ran⟩ := sample_main
  obtain ⟨values,_,served⟩ := jobs_from_store (by decide) (by decide) ran
  have sample := served verbatim (dumps verbatim ⟨true,true⟩ (.obj (Bootstrap.metadataOf Bootstrap.sampleDispatch)))
    Bootstrap.sampleRoom
  exact ⟨p.world.environ,values,sample,sample.taken.mpr ⟨_,Bootstrap.sample_dispatched⟩⟩

end AidaAgent.CommandLine
