import AidaAgent.ControlTasks
import AidaAgent.ControlFrames

namespace AidaAgent.Control
open JsonText PythonText Config Transitions RecentKeys

-- A packet of the server that carries this command for this call.
structure WellFormed (py : Interpreter) (packet : Packet) (callId : String) (command : ControlCommand) : Prop where
  origin : packet.topic = "aida.control" ∧ packet.participant = none
  size : packet.data.size ≤ 2048
  target : Uuid.Canonical callId
  document : ∃ fields, loadsBytes py packet.data = some (.obj fields) ∧ DistinctKeys (.obj fields) ∧
    (∀ key, key ∈ keys fields ↔ key ∈ commandFields) ∧ get fields "type" = some (.str "control") ∧
    get fields "callId" = some (.str callId) ∧ get fields "commandId" = some (.str command.commandId) ∧
    get fields "action" = some (.str command.action.text) ∧ get fields "deadlineMs" = some (.int command.deadlineMs)
  commandId : 1 ≤ command.commandId.length ∧ command.commandId.length ≤ 128 ∧
    ∀ c ∈ command.commandId.toList, isAlphanumeric c = true ∨ c ∈ ['_','.',':','-']
  deadline : 0 < command.deadlineMs ∧ command.deadlineMs ≤ maxSafeInteger

theorem commandId_exact : commandIdText value = .ok text ↔ value = .str text ∧ 1 ≤ text.length ∧ text.length ≤ 128 ∧
    ∀ c ∈ text.toList, isAlphanumeric c = true ∨ c ∈ ['_','.',':','-'] := by
  simp only [commandIdText,matched_ok,fullMatch_exact,Bool.or_eq_true,decide_eq_true_eq,List.mem_cons,
    List.not_mem_nil,or_false,or_assoc]

theorem readAction_exact : readAction value = .ok action ↔ value = .str action.text := by
  have known : ∀ found : Action, isText value found.text = true →
      (Except.ok (ε := InvalidConfiguration) found = .ok action ↔ value = .str action.text) := by
    intro found same
    rw [isText_exact.mp same]
    cases found <;> cases action <;> simp [Action.text]
  unfold readAction
  split
  · exact known _ ‹_›
  · split
    · exact known _ ‹_›
    · split
      · exact known _ ‹_›
      · rename_i first second third
        simp only [isText_exact] at first second third
        simp only [refuse_ok,false_iff]
        cases action <;> assumption

theorem readDeadline_exact : readDeadline value = .ok deadline ↔
    value = .int deadline ∧ 0 < deadline ∧ deadline ≤ maxSafeInteger := by
  unfold readDeadline
  split
  · rename_i found
    split
    · rename_i within
      constructor
      · intro same
        cases same
        exact ⟨rfl,within⟩
      · rintro ⟨same,_⟩
        cases same
        rfl
    · rename_i outside
      simp only [refuse_ok,false_iff]
      rintro ⟨same,within⟩
      cases same
      exact outside within
  · rename_i other
    simp only [refuse_ok,false_iff]
    rintro ⟨same,_⟩
    exact other deadline same

theorem wellFormed_strict (wellFormed : WellFormed py packet callId command) :
    ∃ fields, strictJson py (.bytes packet.data) 2048 = .ok fields ∧ (∀ key, key ∈ keys fields ↔ key ∈ commandFields) ∧
      get fields "type" = some (.str "control") ∧ get fields "callId" = some (.str callId) ∧
      get fields "commandId" = some (.str command.commandId) ∧
      get fields "action" = some (.str command.action.text) ∧ get fields "deadlineMs" = some (.int command.deadlineMs) := by
  obtain ⟨fields,loaded,distinct,named,kind,target,commandId,action,deadline⟩ := wellFormed.document
  have nodup : (keys fields).Nodup := by
    cases distinct with
    | obj nodup _ => exact nodup
  have strict : Strict (.obj fields) := by
    refine .obj nodup fun f member => ?_
    have read := (get_exact nodup).mpr (show (f.1,f.2) ∈ fields from member)
    have known := (named f.1).mp (List.mem_map_of_mem member)
    simp only [commandFields,List.mem_cons,List.not_mem_nil,or_false] at known
    have text : ∀ {t}, get fields f.1 = some (.str t) → Strict f.2 := by
      intro t same
      rw [read] at same
      rw [Option.some.inj same]
      exact .str
    rcases known with key | key | key | key | key
    · exact text (key ▸ kind)
    · exact text (key ▸ target)
    · exact text (key ▸ commandId)
    · exact text (key ▸ action)
    · rw [key,deadline] at read
      rw [← Option.some.inj read]
      exact .int
  exact ⟨fields,strictJson_exact.mpr ⟨wellFormed.size,loaded,strict⟩,named,kind,target,commandId,action,deadline⟩

theorem parse_exact : ControlCommand.parse py packet callId = .ok command ↔ WellFormed py packet callId command := by
  simp only [ControlCommand.parse,bind_ok,require_ok,Bool.and_eq_true,beq_iff_eq,sameKeys_exact,isText_exact,
    canonicalUuid_exact,commandId_exact,readAction_exact,readDeadline_exact,item_str,item_int,pure_ok]
  constructor
  · rintro ⟨_,origin,fields,loaded,_,named,_,kind,target,⟨read,canonical⟩,_,same,commandId,⟨given,text⟩,action,acted,
      deadline,⟨timed,within⟩,rfl⟩
    subst same
    obtain ⟨size,parsed,strict⟩ := strictJson_exact.mp loaded
    exact ⟨origin,size,canonical,⟨fields,parsed,strict_distinct strict,named,kind,read,given,acted,timed⟩,text,within⟩
  · intro wellFormed
    obtain ⟨fields,loaded,named,kind,target,commandId,action,deadline⟩ := wellFormed_strict wellFormed
    exact ⟨(),wellFormed.origin,fields,loaded,(),named,(),kind,callId,⟨target,wellFormed.target⟩,(),rfl,
      command.commandId,⟨commandId,wellFormed.commandId⟩,command.action,action,command.deadlineMs,
      ⟨deadline,wellFormed.deadline⟩,rfl⟩

-- The packet in which the server sends a command.
def commandOf (callId : String) (command : ControlCommand) : List (String × Json) :=
  [("type",.str "control"),("callId",.str callId),("commandId",.str command.commandId),
   ("action",.str command.action.text),("deadlineMs",.int command.deadlineMs)]

def packetOf (py : Interpreter) (callId : String) (command : ControlCommand) : Packet :=
  ⟨"aida.control",none,(dumps py ⟨true,true⟩ (.obj (commandOf callId command))).toUTF8⟩

theorem safe_digits (safe : value ≤ (maxSafeInteger : Int)) (positive : 0 < value) :
    (Nat.toDigits 10 value.natAbs).length ≤ maxStrDigits := by
  have bound : value.natAbs < 10 ^ 16 := by
    have wide : maxSafeInteger < 10 ^ 16 := by decide
    omega
  have short := (Nat.length_toDigits_le_iff (by decide) (by decide)).mpr bound
  exact short.trans (by decide)

theorem commandOf_shape {command : ControlCommand} (depth : Nat)
    (deadline : 0 < command.deadlineMs ∧ command.deadlineMs ≤ maxSafeInteger) :
    ∀ f ∈ commandOf callId command, FloatFree f.2 ∧ Fits depth f.2 ∧ DistinctKeys f.2 := by
  intro f member
  simp only [commandOf,List.mem_cons,List.not_mem_nil,or_false] at member
  rcases member with rfl | rfl | rfl | rfl | rfl
  · exact ⟨.str,.str,.str⟩
  · exact ⟨.str,.str,.str⟩
  · exact ⟨.str,.str,.str⟩
  · exact ⟨.str,.str,.str⟩
  · exact ⟨.int,.int (safe_digits deadline.2 deadline.1),.int⟩

theorem packetOf_wellFormed {py : Interpreter} {command : ControlCommand} (target : Uuid.Canonical callId)
    (commandId : commandIdText (.str command.commandId) = .ok command.commandId)
    (deadline : 0 < command.deadlineMs ∧ command.deadlineMs ≤ maxSafeInteger)
    (size : (packetOf py callId command).data.size ≤ 2048) :
    WellFormed py (packetOf py callId command) callId command := by
  have nodup : (keys (commandOf callId command)).Nodup := by
    show commandFields.Nodup
    decide
  have read : ∀ {key value}, (key,value) ∈ commandOf callId command → get (commandOf callId command) key = some value :=
    fun member => (get_exact nodup).mpr member
  obtain ⟨depth,deep⟩ : ∃ depth, py.recursionLimit = depth + 1 := by
    have enough := py.limit_ok
    exact ⟨py.recursionLimit - 1,by omega⟩
  have shape := @commandOf_shape callId _ depth deadline
  have fits : Fits py.recursionLimit (.obj (commandOf callId command)) := by
    rw [deep]
    exact .obj fun f member => (shape f member).2.1
  have loaded : loadsBytes py (packetOf py callId command).data = some (.obj (commandOf callId command)) := by
    rw [packetOf,loadsBytes_dumps fits,reread_floatFree (.obj fun f member => (shape f member).1)]
  exact ⟨⟨rfl,rfl⟩,size,target,⟨commandOf callId command,loaded,.obj nodup fun f member => (shape f member).2.2,
    fun _ => Iff.rfl,read (by simp [commandOf]),read (by simp [commandOf]),read (by simp [commandOf]),
    read (by simp [commandOf]),read (by simp [commandOf])⟩,(commandId_exact.mp commandId).2,deadline⟩

theorem human_reply (h : Handler) : (h.humanAnswered deadline clock provider).2 ≠ .returned false := by
  have answers := human_cases h deadline clock provider
  generalize h.humanAnswered deadline clock provider = result at answers ⊢
  cases answers <;> simp

theorem requested_reply (h : Handler) : (h.transferRequested deadline clock).2 = .returned true := by
  unfold Handler.transferRequested
  split <;> rfl

theorem failed_reply (h : Handler) : (h.transferFailed deadline clock provider).2 ≠ .returned false := by
  unfold Handler.transferFailed
  dsimp only
  split
  · split
    · split
      · simp
      · split <;> simp
    · simp
  · simp

-- A packet is turned away without a trace, or its command is taken up.
theorem receive_parts (h : Handler) (packet : Packet) (clock : Clock) (provider : Provider) :
    ((¬ ∃ command, WellFormed py packet h.callId command ∧ command.commandId ∉ h.seen ∧ h.stopping = false) ∧
        h.receive py packet clock provider = (h,.returned false)) ∨
      ∃ command, WellFormed py packet h.callId command ∧ command.commandId ∉ h.seen ∧ h.stopping = false ∧
        (h.receive py packet clock provider).2 ≠ .returned false := by
  have receives := @receive_cases py h packet clock provider
  generalize h.receive py packet clock provider = result at receives ⊢
  cases receives with
  | refused stale =>
    refine .inl ⟨?_,rfl⟩
    rintro ⟨command,wellFormed,fresh,running⟩
    rcases stale command (parse_exact.mpr wellFormed) with seen | stopping
    · exact fresh seen
    · rw [running] at stopping; cases stopping
  | human parsed fresh running => exact .inr ⟨_,parse_exact.mp parsed,fresh,running,human_reply _⟩
  | requested parsed fresh running =>
    exact .inr ⟨_,parse_exact.mp parsed,fresh,running,by rw [requested_reply]; simp⟩
  | failed parsed fresh running => exact .inr ⟨_,parse_exact.mp parsed,fresh,running,failed_reply _⟩

-- The commands that a step takes up: receive does not return False for them.
def takenUp (py : Interpreter) (h : Handler) : Event → List ControlCommand
  | .packet packet clock provider =>
    match ControlCommand.parse py packet h.callId with
    | .ok command => if (h.receive py packet clock provider).2 = .returned false then [] else [command]
    | .error _ => []
  | _ => []

def accepted (py : Interpreter) : Handler → List Event → List ControlCommand := emitted (step py) (takenUp py)

-- The handler's memory of a run: its cache of command ids and its stop flag.
structure Remembers (h : Handler) (history : List ControlCommand) : Prop where
  seen : h.seen = recent maxSeen (history.map ControlCommand.commandId)
  stopping : h.stopping = true ↔ ∃ command ∈ history, command.action = .humanAnswered

-- What a step leaves of the memory when it takes up no command.
def Unmoved (h h' : Handler) : Prop := h'.callId = h.callId ∧ h'.seen = h.seen ∧ h'.stopping = h.stopping

theorem frame_unmoved (frame : Frame h h') : Unmoved h h' := ⟨frame.callId,frame.seen,frame.stopping⟩

theorem human_memory (h : Handler) (deadline : Int) (clock : Clock) (provider : Provider) :
    (h.humanAnswered deadline clock provider).1.callId = h.callId ∧
      (h.humanAnswered deadline clock provider).1.seen = h.seen ∧
      (h.humanAnswered deadline clock provider).1.stopping = true := by
  have prepared := frame_prepare h.answered (remainingMs deadline clock) clock
  obtain ⟨seen,callId,stopping,_⟩ := answered_exact h
  obtain ⟨middle,frame,result | ⟨task,result⟩⟩ := frame_answers (human_cases h deadline clock provider)
  all_goals
    have whole := prepared.trans frame
    rw [result]
    exact ⟨whole.callId.trans callId,whole.seen.trans seen,whole.stopping.trans stopping⟩

theorem stop_unmoved (next : h.stop wake provider = some h') : Unmoved h h' := by
  cases stop_cases next with
  | @leaves _ escaping =>
    obtain ⟨middle,frame,⟨error,result⟩ | result⟩ := frame_leave h escaping provider
    all_goals
      rw [result]
      exact ⟨frame.callId,frame.seen,frame.stopping⟩
  | _ => exact ⟨rfl,rfl,rfl⟩

theorem enable_unmoved (h : Handler) (now : Int) : Unmoved h (h.enable now) := by
  have started := frame_start {h with ready := true} now
  have enables := enable_cases h now
  generalize h.enable now = out at enables ⊢
  cases enables with
  | announces => exact ⟨started.callId,started.seen,started.stopping⟩
  | _ => exact ⟨rfl,rfl,rfl⟩

theorem receive_memory (h : Handler) (packet : Packet) (clock : Clock) (provider : Provider) :
    (takenUp py h (.packet packet clock provider) = [] ∧ (h.receive py packet clock provider).1 = h) ∨
      ∃ command, takenUp py h (.packet packet clock provider) = [command] ∧ h.stopping = false ∧
        (h.receive py packet clock provider).1.callId = h.callId ∧
        (h.receive py packet clock provider).1.seen = push maxSeen h.seen command.commandId ∧
        ((h.receive py packet clock provider).1.stopping = true ↔ command.action = .humanAnswered) := by
  simp only [takenUp]
  have receives := @receive_cases py h packet clock provider
  generalize h.receive py packet clock provider = result at receives ⊢
  cases receives with
  | refused =>
    refine .inl ⟨?_,rfl⟩
    split
    · rw [if_pos rfl]
    · rfl
  | @human command parsed _ running action =>
    obtain ⟨callId,seen,stopping⟩ := human_memory (h.note command) command.deadlineMs clock provider
    exact .inr ⟨command,by rw [parsed]; exact if_neg (human_reply _),running,callId,seen,iff_of_true stopping action⟩
  | @requested command parsed _ running action =>
    have frame := frame_requested (h.note command) command.deadlineMs clock
    refine .inr ⟨command,by rw [parsed]; exact if_neg (by rw [requested_reply]; simp),running,frame.callId,frame.seen,?_⟩
    rw [frame.stopping,action]
    simpa [Handler.note,Handler.call] using running
  | @failed command parsed _ running action =>
    have frame := frame_failed (h.note command) command.deadlineMs clock provider
    refine .inr ⟨command,by rw [parsed]; exact if_neg (failed_reply _),running,frame.callId,frame.seen,?_⟩
    rw [frame.stopping,action]
    simpa [Handler.note,Handler.call] using running

theorem step_unmoved (next : step py h event = some h') (idle : takenUp py h event = []) : Unmoved h h' := by
  cases event with
  | packet packet clock provider =>
    cases next
    rcases @receive_memory py h packet clock provider with ⟨_,same⟩ | ⟨command,taken,_⟩
    · rw [same]; exact ⟨rfl,rfl,rfl⟩
    · rw [idle] at taken; cases taken
  | activate now => cases next; exact enable_unmoved h now
  | announce i now provider => exact frame_unmoved (frame_announce next)
  | expire i => exact frame_unmoved (frame_expire next)
  | stop wake provider => exact stop_unmoved next
  | cancelStop =>
    obtain ⟨_,_,_,rfl⟩ := cancelStop_cases next
    exact ⟨rfl,rfl,rfl⟩
  | close => cases next; exact frame_unmoved (frame_cancel h)

theorem step_remembers (memory : Remembers h history) (next : step py h event = some h') :
    Remembers h' (history ++ takenUp py h event) ∧ h'.callId = h.callId := by
  cases taken : takenUp py h event with
  | nil =>
    obtain ⟨callId,seen,stopping⟩ := step_unmoved next taken
    rw [List.append_nil]
    exact ⟨⟨seen.trans memory.seen,by rw [stopping]; exact memory.stopping⟩,callId⟩
  | cons command rest =>
    cases event with
    | packet packet clock provider =>
      cases next
      rcases @receive_memory py h packet clock provider with ⟨none,_⟩ |
        ⟨found,one,running,callId,seen,stopping⟩
      · rw [none] at taken; cases taken
      · rw [one] at taken
        cases taken
        refine ⟨⟨?_,?_⟩,callId⟩
        · rw [seen,memory.seen,push_recent (by decide),List.map_append]
          rfl
        · have before : ¬ ∃ earlier ∈ history, earlier.action = .humanAnswered := by
            rw [← memory.stopping,running]
            decide
          rw [stopping]
          constructor
          · intro human
            exact ⟨command,by simp,human⟩
          · rintro ⟨other,member,human⟩
            rcases List.mem_append.mp member with early | last
            · exact absurd ⟨other,early,human⟩ before
            · rwa [← List.mem_singleton.mp last]
    | _ => simp [takenUp] at taken

theorem initial_remembers : Remembers (Handler.initial callId session failed transfer ready) [] :=
  ⟨rfl,by simp [Handler.initial]⟩

theorem runs_remember {h' : Handler} (memory : Remembers h []) (path : Runs (step py) promise h events h') :
    Remembers h' (accepted py h events) ∧ h'.callId = h.callId := by
  induction path with
  | nil => exact ⟨memory,rfl⟩
  | step prior _ next ih =>
    obtain ⟨remembers,callId⟩ := step_remembers ih.1 next
    rw [accepted,emitted_snoc prior]
    exact ⟨remembers,callId.trans ih.2⟩

-- A session that returns or raises RuntimeError, and speech handles that return.
def Calm (_ : Handler) : Event → Prop
  | .packet _ _ provider => provider.interrupt.handled ∧ provider.sessionShutdown.handled ∧ provider.say.handled
  | .announce _ _ provider => provider.interruptSpeech = .returns
  | _ => True

theorem calm_tame (calm : Calm h event) : Tame h event := by
  cases event with
  | announce i now provider => exact calm
  | _ => trivial

theorem calm_human (tidy : Tidy h) (clean : Unfailed h) (interrupted : provider.interrupt.handled)
    (shut : provider.sessionShutdown.handled) : ∃ verdict, (h.humanAnswered deadline clock provider).2 = .returned verdict := by
  have answered : Tidy h.answered ∧ Unfailed h.answered := by
    unfold Handler.answered
    split <;> exact ⟨tidy_same tidy rfl rfl rfl rfl rfl,clean⟩
  have alive : ∀ i, h.answered.announcementTask = some i → (h.answered.tasks i).pc ≠ .done := by
    intro i current past
    have raised := (answered.1.current i current).2.2.2 past
    rw [answered.2 i] at raised
    cases raised
  have prepared := prepare_alive answered.1 alive (remainingMs deadline clock) clock
  have silenced := fun out : Handler => silence_handled out interrupted fun _ => shut
  have answers := human_cases h deadline clock provider
  generalize h.humanAnswered deadline clock provider = result at answers ⊢
  cases answers with
  | stuck failed => rw [prepared] at failed; cases failed
  | graceful => exact ⟨_,rfl⟩
  | broken _ _ failed => rw [silenced] at failed; cases failed
  | immediate => exact ⟨_,rfl⟩

theorem calm_failed (h : Handler) (said : provider.say.handled) :
    ∃ verdict, (h.transferFailed deadline clock provider).2 = .returned verdict := by
  unfold Handler.transferFailed
  dsimp only
  split
  · split
    · split
      · exact ⟨_,rfl⟩
      · rcases said with returns | raises
        · rw [returns]; exact ⟨_,rfl⟩
        · rw [raises]; exact ⟨_,rfl⟩
    · exact ⟨_,rfl⟩
  · exact ⟨_,rfl⟩

theorem calm_reply (tidy : Tidy h) (clean : Unfailed h) (calm : Calm h (.packet packet clock provider)) :
    ∃ verdict, (h.receive py packet clock provider).2 = .returned verdict := by
  obtain ⟨interrupted,shut,said⟩ := calm
  have noted : ∀ command, Tidy (h.note command) ∧ Unfailed (h.note command) :=
    fun _ => ⟨tidy_same tidy rfl rfl rfl rfl rfl,clean⟩
  have receives := @receive_cases py h packet clock provider
  generalize h.receive py packet clock provider = result at receives ⊢
  cases receives with
  | refused => exact ⟨_,rfl⟩
  | @human command => exact calm_human (noted command).1 (noted command).2 interrupted shut
  | requested => exact ⟨true,requested_reply _⟩
  | failed => exact calm_failed _ said

-- The commands that a packet may still give after a history of accepted ones.
def Acceptable (py : Interpreter) (callId : String) (history : List ControlCommand) (packet : Packet)
    (command : ControlCommand) : Prop :=
  WellFormed py packet callId command ∧ (∀ earlier ∈ history, earlier.action ≠ .humanAnswered) ∧
    command.commandId ∉ recent maxSeen (history.map ControlCommand.commandId)

def rejects (py : Interpreter) (h : Handler) : Event → Bool
  | .packet packet clock provider => decide ((h.receive py packet clock provider).2 = .returned false)
  | _ => false

theorem rejects_idle (rejected : rejects py h event = true) : step py h event = some h := by
  cases event with
  | packet packet clock provider =>
    have refused := of_decide_eq_true rejected
    rcases @receive_parts py h packet clock provider with ⟨_,same⟩ | ⟨_,_,_,_,taken⟩
    · rw [step,same]
    · exact absurd refused taken
  | _ => cases rejected

theorem memory_acceptable {h : Handler} (memory : Remembers h history) :
    (∃ command, WellFormed py packet h.callId command ∧ command.commandId ∉ h.seen ∧ h.stopping = false) ↔
      ∃ command, Acceptable py h.callId history packet command := by
  have running : h.stopping = false ↔ ∀ earlier ∈ history, earlier.action ≠ .humanAnswered := by
    rw [← Bool.not_eq_true,memory.stopping]
    simp
  simp only [Acceptable,memory.seen,running]
  constructor
  · rintro ⟨command,wellFormed,fresh,open_⟩
    exact ⟨command,wellFormed,open_,fresh⟩
  · rintro ⟨command,wellFormed,open_,fresh⟩
    exact ⟨command,wellFormed,fresh,open_⟩

theorem reply_exact {h : Handler} (memory : Remembers h history) (packet : Packet) (clock : Clock) (provider : Provider) :
    (h.receive py packet clock provider).2 = .returned false ↔
      ¬ ∃ command, Acceptable py h.callId history packet command := by
  rw [← memory_acceptable memory]
  rcases @receive_parts py h packet clock provider with ⟨none,rejected⟩ | ⟨command,wellFormed,fresh,running,taken⟩
  · rw [rejected]
    simpa using none
  · simp only [taken,false_iff,not_not]
    exact ⟨command,wellFormed,fresh,running⟩

theorem runs_calm (start : Tidy h ∧ Unfailed h) (path : Runs (step py) Calm h events h') : Tidy h' ∧ Unfailed h' :=
  @Runs.invariant _ _ _ _ _ _ _ (fun h => Tidy h ∧ Unfailed h) path
    (fun _ _ _ both calm next => ⟨tidy_step both.1 next,unfailed_step both.2 (calm_tame calm) next⟩) start

-- What holds of receive after any run: it returns False for exactly the packets
-- that are not acceptable and, where the session behaves, True for the others;
-- packets turned away can be deleted; recent redeliveries are among them.
structure CommandRule (py : Interpreter) (start : Handler) (events : List Event) (h : Handler) : Prop where
  refused : ∀ packet clock provider, (h.receive py packet clock provider).2 = .returned false ↔
    ¬ ∃ command, Acceptable py start.callId (accepted py start events) packet command
  taken : Runs (step py) Calm start events h → ∀ packet clock provider, Calm h (.packet packet clock provider) →
    ((h.receive py packet clock provider).2 = .returned true ↔
      ∃ command, Acceptable py start.callId (accepted py start events) packet command)
  deletion : run (step py) start (kept (step py) (rejects py) start events) = some h
  redelivery : ∀ before command since, accepted py start events = before ++ command :: since →
    since.length < maxSeen → ∀ packet clock provider again, WellFormed py packet start.callId again →
      again.commandId = command.commandId → h.receive py packet clock provider = (h,.returned false)

theorem rule_redelivery {h : Handler} (memory : Remembers h (before ++ command :: since)) (few : since.length < maxSeen)
    (wellFormed : WellFormed py packet h.callId again) (duplicate : again.commandId = command.commandId) :
    h.receive py packet clock provider = (h,.returned false) := by
  have refused : ¬ ∃ found, Acceptable py h.callId (before ++ command :: since) packet found := by
    rintro ⟨found,foundFormed,_,fresh⟩
    have one : found = again := by
      have both := parse_exact.mpr foundFormed
      rw [parse_exact.mpr wellFormed] at both
      exact (Except.ok.inj both).symm
    rw [List.map_append,List.map_cons,one,duplicate] at fresh
    exact fresh (recent_keeps (by simpa using few) _ _)
  have reply := (reply_exact memory packet clock provider).mpr refused
  rcases @receive_parts py h packet clock provider with ⟨_,rejected⟩ | ⟨_,_,_,_,taken⟩
  · exact rejected
  · exact absurd reply taken

theorem rule_taken {h : Handler} (memory : Remembers h history) (behaves : Tidy h ∧ Unfailed h)
    (calm : Calm h (.packet packet clock provider)) : (h.receive py packet clock provider).2 = .returned true ↔
      ∃ command, Acceptable py h.callId history packet command := by
  obtain ⟨verdict,reply⟩ := @calm_reply _ _ _ _ py behaves.1 behaves.2 calm
  have known := @reply_exact _ py _ memory packet clock provider
  rw [reply] at known ⊢
  cases verdict with
  | false => simpa using known
  | true =>
    have acceptable := not_not.mp (mt known.mpr (by simp))
    simpa using acceptable

theorem command_acceptance
    (path : Runs (step py) Anything (Handler.initial callId session failed transfer ready) events h) :
    CommandRule py (Handler.initial callId session failed transfer ready) events h := by
  obtain ⟨memory,callId'⟩ := runs_remember initial_remembers path
  refine ⟨?_,?_,run_kept (fun _ _ => rejects_idle) (run_exact.mpr path),?_⟩
  · intro packet clock provider
    rw [← callId']
    exact reply_exact memory packet clock provider
  · intro calmPath packet clock provider calm
    have clean : Unfailed (Handler.initial callId session failed transfer ready) := fun _ => rfl
    rw [← callId']
    exact rule_taken memory (runs_calm ⟨initial_tidy,clean⟩ calmPath) calm
  · intro before command since whole few packet clock provider again wellFormed duplicate
    rw [← callId'] at wellFormed
    exact rule_redelivery (whole ▸ memory) few wellFormed duplicate

def sampleCallId : String := "00000000-0000-4000-8000-000000000000"
def sampleClock : Clock := ⟨1000,1000,1000⟩
def sampleProvider : Provider := ⟨.returns,.returns,.returns,.returns,.returns⟩
def sampleStart : Handler := .initial sampleCallId (some ⟨false,false⟩) "Still here." "One moment." false
def samplePacket (commandId : String) (action : Action) : Packet :=
  packetOf verbatim sampleCallId ⟨commandId,action,11000⟩

def strayPacket : Packet := {samplePacket "bridge:2" .humanAnswered with participant := some "caller"}

theorem samplePacket_wellFormed (known : commandId = "bridge:1" ∨ commandId = "bridge:2") (action : Action) :
    WellFormed verbatim (samplePacket commandId action) sampleCallId ⟨commandId,action,11000⟩ := by
  have target : (Uuid.parse sampleCallId).map Uuid.print = some sampleCallId := by decide
  have named : commandIdText (.str commandId) = .ok commandId := by
    rcases known with rfl | rfl <;> decide
  have timed : (0 : Int) < 11000 ∧ (11000 : Int) ≤ maxSafeInteger := by decide
  refine packetOf_wellFormed (Uuid.canonical_exact.mp target) named timed ?_
  have free : FloatFree (.obj (commandOf sampleCallId ⟨commandId,action,11000⟩)) :=
    .obj fun f member => (commandOf_shape 0 timed f member).1
  have printable := @printable_write _ verbatim ⟨true,true⟩ rfl free
  have size : ∀ text : String, text.toUTF8.size = text.utf8ByteSize := fun _ => rfl
  rw [packetOf,size,dumps,utf8_size_printable printable]
  rcases known with rfl | rfl <;> cases action <;> decide +kernel

-- What a step that happens leaves behind; of the packets, whose bytes are parsed, the
-- command is given instead.
def Handler.resumed (h : Handler) (event : Event) : Handler := (step verbatim h event).getD h

theorem resumed_step (happens : (step verbatim h event).isSome = true) : step verbatim h event = some (h.resumed event) := by
  obtain ⟨after,next⟩ := Option.isSome_iff_exists.mp happens
  rw [Handler.resumed,next]
  rfl

def announced : Event := .announce 0 1000 sampleProvider
def stopped : Event := .stop .finished sampleProvider

-- A transfer is requested on an activated call and its statement is spoken; the human
-- answers while it plays, and the stop task waits for its end before it leaves.
def sampleEnabled : Handler := sampleStart.enable 1000
def sampleRequested : Handler :=
  ((sampleEnabled.note ⟨"bridge:1",.transferRequested,11000⟩).transferRequested 11000 sampleClock).1
def sampleBegun : Handler := sampleRequested.resumed announced
def sampleSpoken : Handler := sampleBegun.resumed announced
def sampleAnswered : Handler :=
  ((sampleSpoken.note ⟨"bridge:2",.humanAnswered,11000⟩).humanAnswered 11000 sampleClock sampleProvider).1
def sampleWaiting : Handler := sampleAnswered.resumed stopped
def samplePlayed : Handler := sampleWaiting.resumed announced
def sampleLeaving : Handler := samplePlayed.resumed stopped
def sampleLeft : Handler := sampleLeaving.resumed stopped

-- The states of that run, each with what happens in it. A participant's packet and a
-- redelivered one come in between.
def sampleTrace : List (Handler × Event) :=
  [(sampleStart,.activate 1000),
    (sampleEnabled,.packet (samplePacket "bridge:1" .transferRequested) sampleClock sampleProvider),
    (sampleRequested,announced),(sampleBegun,announced),
    (sampleSpoken,.packet strayPacket sampleClock sampleProvider),
    (sampleSpoken,.packet (samplePacket "bridge:1" .transferRequested) sampleClock sampleProvider),
    (sampleSpoken,.packet (samplePacket "bridge:2" .humanAnswered) sampleClock sampleProvider),
    (sampleAnswered,stopped),(sampleWaiting,announced),(samplePlayed,stopped),(sampleLeaving,stopped)]

def sampleEvents : List Event := sampleTrace.map Prod.snd

theorem sample_parsed {h : Handler} (same : h.callId = sampleCallId) (known : commandId = "bridge:1" ∨ commandId = "bridge:2")
    (action : Action) : ControlCommand.parse verbatim (samplePacket commandId action) h.callId =
      .ok ⟨commandId,action,11000⟩ := by
  rw [same]
  exact parse_exact.mpr (samplePacket_wellFormed known action)

theorem stray_untrusted (callId : String) :
    ControlCommand.parse verbatim strayPacket callId = refuse "untrusted control origin" := rfl

theorem sample_strays : sampleSpoken.receive verbatim strayPacket sampleClock sampleProvider =
    (sampleSpoken,.returned false) := by
  apply receive_stale
  intro command parsed
  rw [stray_untrusted] at parsed
  cases parsed

theorem sample_redelivers : sampleSpoken.receive verbatim (samplePacket "bridge:1" .transferRequested) sampleClock
    sampleProvider = (sampleSpoken,.returned false) := by
  apply receive_stale
  intro command parsed
  rw [sample_parsed rfl (.inl rfl) .transferRequested] at parsed
  cases parsed
  left
  decide

theorem sample_requests : step verbatim sampleEnabled
    (.packet (samplePacket "bridge:1" .transferRequested) sampleClock sampleProvider) = some sampleRequested := by
  have parsed := sample_parsed (h := sampleEnabled) rfl (.inl rfl) .transferRequested
  rw [step,receive_requested parsed (by decide) rfl rfl,sampleRequested]

theorem sample_answers : step verbatim sampleSpoken
    (.packet (samplePacket "bridge:2" .humanAnswered) sampleClock sampleProvider) = some sampleAnswered := by
  have parsed := sample_parsed (h := sampleSpoken) rfl (.inr rfl) .humanAnswered
  rw [step,receive_human parsed (by decide) rfl rfl,sampleAnswered]

theorem sample_path {allowed : Handler → Event → Prop} (promised : ∀ s ∈ sampleTrace, allowed s.1 s.2) :
    Runs (step verbatim) allowed sampleStart sampleEvents sampleLeft := by
  simp only [sampleTrace,List.forall_mem_cons] at promised
  obtain ⟨activate,request,begins,speaks,stray,again,answer,waits,plays,leaves,shuts,_⟩ := promised
  apply Runs.cons activate rfl
  apply Runs.cons request sample_requests
  apply Runs.cons begins (resumed_step rfl)
  apply Runs.cons speaks (resumed_step rfl)
  apply Runs.cons stray (by rw [step,sample_strays])
  apply Runs.cons again (by rw [step,sample_redelivers])
  apply Runs.cons answer sample_answers
  apply Runs.cons waits (resumed_step rfl)
  apply Runs.cons plays (resumed_step rfl)
  apply Runs.cons leaves (resumed_step rfl)
  exact Runs.single shuts (resumed_step rfl)

theorem sample_commands : CommandRule verbatim sampleStart sampleEvents sampleLeft :=
  command_acceptance (sample_path fun _ _ => trivial)

end AidaAgent.Control
