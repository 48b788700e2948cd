import AidaAgent.ControlCommands

namespace AidaAgent.Control
open JsonText Config Transitions

-- The current announcement is between its own output enable and its end.
def Playing (h : Handler) : Prop := ∃ i, h.announcementTask = some i ∧ (h.tasks i).pc = .playing

def Conversing (h : Handler) : Prop := h.transferring = false ∧ h.stopping = false

-- The audio of a ready handler follows from the state of the transfer.
def AudioRule (h : Handler) : Prop := ∀ s, h.session = some s →
  (s.input = true ↔ Conversing h) ∧ (s.output = true ↔ Conversing h ∨ Playing h)

structure Settled (h : Handler) : Prop where
  tidy : Tidy h
  clean : Unfailed h
  transferring : ∀ i, h.announcementTask = some i → h.transferring = true ∧ h.ready = true
  stopping : h.stopTask.isSome = true → h.stopping = true

structure Audible (h : Handler) : Prop extends Settled h where
  audio : h.ready = true → AudioRule h

-- A ready session that is silent fits a handler without announcement, or with
-- one that has not begun to play, as long as it does not converse.
theorem silent_rule (h : Handler) (busy : ¬ Conversing h) (quiet : ¬ Playing h)
    (session : ∀ s, h.session = some s → s.input = false ∧ s.output = false) : AudioRule h := by
  intro s present
  obtain ⟨input,output⟩ := session s present
  simp [input,output,busy,quiet]

theorem off_session {before after : Option Session} (off : after = before.map fun _ => ⟨false,false⟩) :
    ∀ s, after = some s → s.input = false ∧ s.output = false := by
  rintro s present
  rw [off] at present
  obtain ⟨_,_,rfl⟩ := Option.map_eq_some_iff.mp present
  exact ⟨rfl,rfl⟩

theorem rule_same (rule : AudioRule h) (session : h'.session = h.session)
    (conversing : Conversing h' ↔ Conversing h) (playing : Playing h' ↔ Playing h) : AudioRule h' := by
  intro s present
  rw [session] at present
  rw [conversing,playing]
  exact rule s present

theorem start_rule (h : Handler) (now : Int) (opened : h.ready = true ∧ h.session.isSome = true)
    (busy : h.transferring = true) : AudioRule (h.startAnnouncement now) := by
  rw [start_exact h now opened]
  apply silent_rule
  · rintro ⟨idle,_⟩
    rw [busy] at idle
    cases idle
  · rintro ⟨i,current,playing⟩
    cases current
    simp at playing
  · exact off_session rfl

theorem no_session (h : Handler) (shut : ¬ (h.ready = true ∧ h.session.isSome = true)) (ready : h.ready = true) :
    AudioRule h := by
  intro s present
  exact absurd ⟨ready,by rw [present]; rfl⟩ shut

theorem start_audible (settled : Settled h) (now : Int) (busy : h.transferring = true) :
    Audible (h.startAnnouncement now) := by
  have frame := frame_start h now
  refine ⟨⟨tidy_start settled.tidy now,unfailed_start settled.clean now,?_,?_⟩,?_⟩
  · by_cases opened : h.ready = true ∧ h.session.isSome = true
    · rw [start_exact h now opened]
      exact fun _ _ => ⟨busy,opened.1⟩
    · rw [start_closed opened]
      exact settled.transferring
  · rw [frame.stopTask,frame.stopping]
    exact settled.stopping
  · intro ready
    by_cases opened : h.ready = true ∧ h.session.isSome = true
    · exact start_rule h now opened busy
    · rw [start_closed opened] at ready ⊢
      exact no_session h opened ready

theorem cancel_settled (settled : Settled h) (transferring : Bool) :
    Settled ({h with transferring := transferring} : Handler).cancelAnnouncement := by
  have lowered : Tidy {h with transferring := transferring} := tidy_same settled.tidy rfl rfl rfl rfl rfl
  have tidy := tidy_cancel lowered
  have clean : Unfailed ({h with transferring := transferring} : Handler).cancelAnnouncement :=
    unfailed_cancel (h := {h with transferring := transferring}) settled.clean
  rw [cancel_exact] at tidy clean ⊢
  exact ⟨tidy,clean,(fun _ none => by cases none),settled.stopping⟩

theorem silence_audible (settled : Settled h) (provider : Provider) (stopping : h.stopping = true) :
    Audible (h.cancelAnnouncement.silence provider).1 := by
  have tidy := tidy_silence (tidy_cancel settled.tidy) provider
  have clean := unfailed_silence (unfailed_cancel settled.clean) provider
  obtain ⟨extra,_,exact⟩ := silence_exact h.cancelAnnouncement provider
  rw [exact] at tidy clean ⊢
  rw [cancel_exact] at tidy clean ⊢
  refine ⟨⟨tidy,clean,(fun _ none => by cases none),settled.stopping⟩,fun _ => silent_rule _ ?_ ?_ (off_session rfl)⟩
  · rintro ⟨_,idle⟩
    rw [show _ = true from stopping] at idle
    cases idle
  · rintro ⟨_,none,_⟩
    cases none

theorem requested_audible (audible : Audible h) (deadline : Int) (clock : Clock) :
    Audible (h.transferRequested deadline clock).1 := by
  unfold Handler.transferRequested
  split
  · have opened : Settled {h.call .episode with transferring := true, transferDeadlineMs := deadline} :=
      ⟨tidy_same audible.tidy rfl rfl rfl rfl rfl,audible.clean,
        fun i current => ⟨rfl,(audible.transferring i current).2⟩,audible.stopping⟩
    exact start_audible opened clock.second rfl
  · exact audible

-- Both directions are enabled by a handler that converses.
theorem resumed_audible (settled : Settled h) (conversing : Conversing h) :
    Audible ((h.setOutput true).setInput true) := by
  have tidy := tidy_audio (tidy_audio settled.tidy (fun s => {s with output := true}) [.setOutput true])
    (fun s => {s with input := true}) [.setInput true]
  refine ⟨⟨tidy,settled.clean,settled.transferring,settled.stopping⟩,fun _ s present => ?_⟩
  simp only [Handler.setInput,Handler.setOutput,Option.map_map,Option.map_eq_some_iff] at present
  obtain ⟨_,_,rfl⟩ := present
  exact ⟨iff_of_true rfl conversing,iff_of_true rfl (.inl conversing)⟩

theorem failed_audible (audible : Audible h) (running : h.stopping = false) (deadline : Int) (clock : Clock)
    (provider : Provider) : Audible (h.transferFailed deadline clock provider).1 := by
  have settled := cancel_settled audible.toSettled false
  have conversing : Conversing ({h with transferring := false} : Handler).cancelAnnouncement := by
    rw [cancel_exact]
    exact ⟨rfl,running⟩
  have resumed := resumed_audible settled conversing
  have fails := failed_cases h deadline clock provider
  generalize (h.transferFailed deadline clock provider).1 = out at fails ⊢
  cases fails with
  | late => exact audible
  | unready shut =>
    obtain ⟨ready,session⟩ := cancel_ready {h with transferring := false}
    refine ⟨settled,no_session _ ?_⟩
    rw [ready,session]
    exact shut
  | resumed => exact resumed
  | said =>
    exact ⟨⟨tidy_same resumed.tidy rfl rfl rfl rfl rfl,resumed.clean,resumed.transferring,resumed.stopping⟩,resumed.audio⟩

theorem answered_settled (settled : Settled h) : Settled h.answered ∧ h.answered.session = h.session ∧
    h.answered.announcementTask = h.announcementTask ∧ h.answered.tasks = h.tasks ∧
    h.answered.transferring = h.transferring := by
  unfold Handler.answered
  split
  all_goals exact ⟨⟨tidy_same settled.tidy rfl rfl rfl rfl rfl,settled.clean,settled.transferring,fun _ => rfl⟩,
    rfl,rfl,rfl,rfl⟩

-- Before the stop task is created, a handler with an announcement is audible.
theorem prepare_audible (audible : Audible h) (remaining : Int) (clock : Clock) :
    Settled (h.answered.prepareHandoff remaining clock).1 ∧
      ((h.answered.prepareHandoff remaining clock).1.announcementTask.isSome = true →
        Audible (h.answered.prepareHandoff remaining clock).1 ∧
          ¬ Conversing (h.answered.prepareHandoff remaining clock).1) := by
  obtain ⟨settled,session,current,tasks,transferring⟩ := answered_settled audible.toSettled
  have frame := frame_prepare h.answered remaining clock
  have stopping := frame.stopping.trans (answered_exact h).2.2.1
  have busy : ¬ Conversing (h.answered.prepareHandoff remaining clock).1 := by
    rintro ⟨_,idle⟩
    rw [stopping] at idle
    cases idle
  rcases prepare_cases h.answered remaining clock with ⟨deadline,exact⟩ | ⟨_,_,_,deadline,exact⟩
  · rw [exact] at busy ⊢
    have timed : Settled {h.answered with transferDeadlineMs := deadline} :=
      ⟨tidy_same settled.tidy rfl rfl rfl rfl rfl,settled.clean,settled.transferring,settled.stopping⟩
    refine ⟨timed,fun some => ⟨⟨timed,fun ready => ?_⟩,busy⟩⟩
    obtain ⟨i,known⟩ := Option.isSome_iff_exists.mp some
    have open_ := settled.transferring i known
    have ready' : h.ready = true := (answered_exact h).2.2.2.2.symm.trans ready
    apply rule_same (audible.audio ready') session
    · refine iff_of_false busy ?_
      rintro ⟨idle,_⟩
      rw [← transferring,open_.1] at idle
      cases idle
    · simp [Playing,current,tasks]
  · have opened : Settled {h.answered with transferDeadlineMs := deadline, transferring := true} :=
      ⟨tidy_same settled.tidy rfl rfl rfl rfl rfl,settled.clean,
        (fun i some => ⟨rfl,(settled.transferring i some).2⟩),settled.stopping⟩
    have started := start_audible opened clock.third rfl
    rw [exact] at busy ⊢
    exact ⟨started.toSettled,fun _ => ⟨started,busy⟩⟩

theorem graceful_rule (rule : AudioRule h) (busy : ¬ Conversing h) (task : StopTask) :
    AudioRule {(h.setInput false).call .stopCreated with stopTask := some task} := by
  intro s present
  obtain ⟨before,same,rfl⟩ := Option.map_eq_some_iff.mp present
  exact ⟨iff_of_false (by simp) busy,(rule before same).2⟩

theorem human_audible (audible : Audible h) (deadline : Int) (clock : Clock) (provider : Provider) :
    Audible (h.humanAnswered deadline clock provider).1 := by
  obtain ⟨settled,open_⟩ := prepare_audible audible (remainingMs deadline clock) clock
  have frame := frame_prepare h.answered (remainingMs deadline clock) clock
  have stopping := frame.stopping.trans (answered_exact h).2.2.1
  have marked := (answered_settled audible.toSettled).1
  have alive : ∀ i, h.answered.announcementTask = some i → (h.answered.tasks i).pc ≠ .done := by
    intro i current past
    have raised := (marked.tidy.current i current).2.2.2 past
    rw [marked.clean i] at raised
    cases raised
  have possible := prepare_alive marked.tidy alive (remainingMs deadline clock) clock
  have silenced := silence_audible settled provider stopping
  have answers := human_cases h deadline clock provider
  generalize h.humanAnswered deadline clock provider = result at answers ⊢
  cases answers with
  | stuck failed => rw [possible] at failed; cases failed
  | graceful _ ready _ current =>
    obtain ⟨prepared,busy⟩ := open_ current
    exact ⟨⟨tidy_same prepared.tidy rfl rfl rfl rfl (by simp [Handler.call,Handler.setInput]),prepared.clean,
      prepared.transferring,fun _ => stopping⟩,fun _ => graceful_rule (prepared.audio ready) busy _⟩
  | broken => exact silenced
  | immediate =>
    have session := (frame_cancel (h.answered.prepareHandoff (remainingMs deadline clock) clock).1).trans
      (frame_silence _ provider)
    exact ⟨⟨tidy_same silenced.tidy rfl rfl rfl rfl rfl,silenced.clean,silenced.transferring,
      fun _ => session.stopping.trans stopping⟩,silenced.audio⟩

theorem receive_audible (audible : Audible h) (packet : Packet) (clock : Clock) (provider : Provider) :
    Audible (h.receive py packet clock provider).1 := by
  have noted : ∀ command, Audible (h.note command) := fun command =>
    ⟨⟨tidy_same audible.tidy rfl rfl rfl rfl rfl,audible.clean,audible.transferring,audible.stopping⟩,audible.audio⟩
  have receives := @receive_cases py h packet clock provider
  generalize h.receive py packet clock provider = result at receives ⊢
  cases receives with
  | refused => exact audible
  | human => exact human_audible (noted _) _ clock provider
  | requested => exact requested_audible (noted _) _ clock
  | failed _ _ running => exact failed_audible (noted _) running _ clock provider

theorem enable_audible (audible : Audible h) (running : h.stopping = false) (now : Int) : Audible (h.enable now) := by
  have ready : Settled {h with ready := true} :=
    ⟨tidy_same audible.tidy rfl rfl rfl rfl rfl,audible.clean,
      (fun i current => ⟨(audible.transferring i current).1,rfl⟩),audible.stopping⟩
  have enables := enable_cases h now
  generalize h.enable now = out at enables ⊢
  cases enables with
  | announces busy => exact start_audible ready now busy
  | waits _ stopped => rw [running] at stopped; cases stopped
  | converses idle => exact resumed_audible ready ⟨idle,running⟩

-- The end of an announcement mutes what the current task had enabled, and an
-- obsolete one changes nothing.
theorem finish_audible (settled : Settled h) (quiet : provider.interruptSpeech = .returns)
    (input : h.ready = true → ∀ s, h.session = some s → (s.input = true ↔ Conversing h))
    (rule : h.announcementTask ≠ some i → h.ready = true → AudioRule h) :
    Audible (h.finishAnnounce i spoken provider) := by
  have tidy := tidy_finish settled.tidy i spoken provider
  have clean := unfailed_finish settled.clean i spoken quiet
  rcases finish_exact h i spoken provider with ⟨_,error,raised,_⟩ | ⟨other,exact⟩ | ⟨current,exact⟩
  · rw [quiet] at raised
    cases raised
  · rw [exact] at tidy clean ⊢
    refine ⟨⟨tidy,clean,settled.transferring,settled.stopping⟩,fun ready => ?_⟩
    refine rule_same (rule other ready) rfl Iff.rfl ?_
    constructor
    · rintro ⟨j,current,playing⟩
      have differs : j ≠ i := by rintro rfl; exact other current
      exact ⟨j,current,by simpa [Handler.setTask,differs] using playing⟩
    · rintro ⟨j,current,playing⟩
      have differs : j ≠ i := by rintro rfl; exact other current
      exact ⟨j,current,by simpa [Handler.setTask,differs] using playing⟩
  · have busy := (settled.transferring i current).1
    rw [exact] at tidy clean ⊢
    refine ⟨⟨tidy,clean,(fun _ none => by cases none),settled.stopping⟩,fun ready s present => ?_⟩
    obtain ⟨before,same,rfl⟩ := Option.map_eq_some_iff.mp present
    refine ⟨input ready before same,iff_of_false (by simp) ?_⟩
    rintro (⟨idle,_⟩ | ⟨_,none,_⟩)
    · rw [show h.transferring = false from idle] at busy
      cases busy
    · cases none

theorem announce_audible (audible : Audible h) (quiet : provider.interruptSpeech = .returns)
    (next : h.announce i now provider = some h') : Audible h' := by
  have tidy := tidy_announce audible.tidy next
  have clean := unfailed_announce audible.clean quiet next
  have frame := frame_announce next
  have input := fun ready s present => (audible.audio ready s present).1
  have whole : Audible (h.finishAnnounce i false provider) := finish_audible audible.toSettled quiet input fun _ => audible.audio
  have waiting : ∀ {t : AnnounceTask}, t.pc ≠ .playing → (h.tasks i).pc ≠ .playing → ∀ {out : Handler},
      out.session = h.session → out.transferring = h.transferring → out.stopping = h.stopping →
      out.announcementTask = h.announcementTask → out.tasks = (h.setTask i t).tasks → AudioRule h → AudioRule out := by
    intro t still before out session transferring stopping current tasks rule
    apply rule_same rule session
    · rw [Conversing,Conversing,transferring,stopping]
    · simp only [Playing,current,tasks,Handler.setTask]
      constructor
      · rintro ⟨j,known,playing⟩
        split at playing
        · exact absurd playing still
        · exact ⟨j,known,playing⟩
      · rintro ⟨j,known,playing⟩
        refine ⟨j,known,?_⟩
        split
        · rename_i same
          rw [same] at playing
          exact absurd playing before
        · exact playing
  cases announce_cases next with
  | dropped created =>
    have before : (h.tasks i).pc ≠ .playing := by rw [created]; decide
    exact ⟨⟨tidy,clean,audible.transferring,audible.stopping⟩,
      fun ready => waiting (by simp) before rfl rfl rfl rfl rfl (audible.audio ready)⟩
  | late => exact whole
  | refused created fresh =>
    have before : (h.tasks i).pc ≠ .playing := by rw [created]; decide
    have entered : Settled {(h.setTask i {h.tasks i with timer := .entered}).call .interrupt with
        announcementTimeout := some i} :=
      ⟨tidy_entered audible.tidy created fresh {h.tasks i with timer := .entered} fresh rfl (by simp [created]),
        unfailed_set audible.clean i _ (audible.clean i),audible.transferring,audible.stopping⟩
    exact finish_audible entered quiet input fun _ ready =>
      waiting (t := {h.tasks i with timer := .entered}) before before rfl rfl rfl rfl rfl (audible.audio ready)
  | begun created =>
    have before : (h.tasks i).pc ≠ .playing := by rw [created]; decide
    exact ⟨⟨tidy,clean,audible.transferring,audible.stopping⟩,
      fun ready => waiting (t := {h.tasks i with timer := .entered, pc := .interrupting}) (by simp) before
        rfl rfl rfl rfl rfl (audible.audio ready)⟩
  | silent => exact whole
  | unsaid interrupting fresh =>
    have current := live_current audible.tidy (by rw [interrupting]; decide) fresh
    have enabled : Settled ((h.setOutput true).call (.sayTransfer h.transferStatement)) :=
      ⟨tidy_audio audible.tidy (fun s => {s with output := true}) [.sayTransfer _,.setOutput true],audible.clean,
        audible.transferring,audible.stopping⟩
    refine finish_audible enabled quiet ?_ fun other => absurd current other
    intro ready s present
    obtain ⟨before,same,rfl⟩ := Option.map_eq_some_iff.mp present
    exact input ready before same
  | said interrupting fresh =>
    have current := live_current audible.tidy (by rw [interrupting]; decide) fresh
    refine ⟨⟨tidy,clean,audible.transferring,audible.stopping⟩,fun ready s present => ?_⟩
    obtain ⟨before,same,rfl⟩ := Option.map_eq_some_iff.mp present
    exact ⟨input ready before same,iff_of_true rfl (.inr ⟨i,current,by simp [Handler.setTask]⟩)⟩
  | played => exact finish_audible audible.toSettled quiet input fun _ => audible.audio

theorem expire_audible (audible : Audible h) (next : h.expire i = some h') : Audible h' := by
  have tidy := tidy_expire audible.tidy next
  obtain ⟨_,_,rfl⟩ := expire_cases next
  refine ⟨⟨tidy,unfailed_set audible.clean i _ (audible.clean i),audible.transferring,audible.stopping⟩,
    fun ready => rule_same (audible.audio ready) rfl Iff.rfl ?_⟩
  have pc : ∀ j, (if j = i then {h.tasks i with timer := Timer.expired} else h.tasks j).pc = (h.tasks j).pc := by
    intro j
    split
    · rename_i same; rw [same]
    · rfl
  simp only [Playing,Handler.setTask,pc]

theorem stop_audible (audible : Audible h) (next : h.stop wake provider = some h') : Audible h' := by
  have same : ∀ {out : Handler}, h.stopTask.isSome = true → out.session = h.session → out.transferring = h.transferring →
      out.stopping = h.stopping → out.ready = h.ready → out.announcementTask = h.announcementTask →
      out.announcementTimeout = h.announcementTimeout → out.created = h.created → out.tasks = h.tasks → Audible out := by
    intro out started session transferring stopping ready current timeout created tasks
    refine ⟨⟨tidy_same audible.tidy tasks current timeout created (by rw [session]),?_,?_,?_⟩,?_⟩
    · rw [Unfailed,tasks]; exact audible.clean
    · rw [current,transferring,ready]; exact audible.transferring
    · intro _; rw [stopping]; exact audible.stopping started
    · rw [ready]
      intro open_
      refine rule_same (audible.audio open_) session ?_ ?_
      · rw [Conversing,Conversing,transferring,stopping]
      · rw [Playing,Playing,current,tasks]
  have left : h.stopTask.isSome = true → ∀ escaping, Audible (h.leaveHandoff escaping provider) := by
    intro started escaping
    have silenced := silence_audible audible.toSettled provider (audible.stopping started)
    have frame := (frame_cancel h).trans (frame_silence h.cancelAnnouncement provider)
    have stopping := frame.stopping.trans (audible.stopping started)
    rcases leave_cases h escaping provider with ⟨_,_,equal⟩ | ⟨_,_,equal⟩
    all_goals
      rw [equal]
      exact ⟨⟨tidy_same silenced.tidy rfl rfl rfl rfl rfl,silenced.clean,silenced.transferring,fun _ => stopping⟩,
        silenced.audio⟩
  have started : ∀ {task}, h.stopTask = some task → h.stopTask.isSome = true := fun present => by rw [present]; rfl
  cases stop_cases next with
  | leaves present => exact left (started present) _
  | dropped present | waits present | disconnects present | ends present =>
    exact same (started present) rfl rfl rfl rfl rfl rfl rfl rfl

-- What the runs of the audio rule promise: speech handles can be interrupted, the
-- owner activates no handler that is stopping, nothing is closed yet.
def Undisturbed (h : Handler) : Event → Prop
  | .announce _ _ provider => provider.interruptSpeech = .returns
  | .activate _ => h.stopping = false
  | .close => False
  | _ => True

theorem step_audible (audible : Audible h) (promised : Undisturbed h event) (next : step py h event = some h') :
    Audible h' := by
  cases event with
  | packet packet clock provider => cases next; exact receive_audible audible packet clock provider
  | activate now => cases next; exact enable_audible audible promised now
  | announce i now provider => exact announce_audible audible promised next
  | expire i => exact expire_audible audible next
  | stop wake provider => exact stop_audible audible next
  | cancelStop =>
    obtain ⟨_,present,_,rfl⟩ := cancelStop_cases next
    exact ⟨⟨tidy_same audible.tidy rfl rfl rfl rfl rfl,audible.clean,audible.transferring,
      fun _ => audible.stopping (by rw [present]; rfl)⟩,audible.audio⟩
  | close => exact promised.elim

-- A session that is handed over before activation, or enabled with a ready handler.
theorem initial_audible (open_ : ready = true → session = ⟨true,true⟩) :
    Audible (Handler.initial callId (some session) failed transfer ready) := by
  refine ⟨⟨initial_tidy,fun _ => rfl,(fun _ none => by cases none),(fun none => by cases none)⟩,fun on s present => ?_⟩
  have both := open_ on
  subst both
  cases present
  exact ⟨iff_of_true rfl ⟨rfl,rfl⟩,iff_of_true rfl (.inl ⟨rfl,rfl⟩)⟩

theorem transfer_audio (open_ : ready = true → session = ⟨true,true⟩)
    (path : Runs (step py) Undisturbed (Handler.initial callId (some session) failed transfer ready) events h) :
    (h.ready = true → AudioRule h) ∧ (∀ i j, Live h i → Live h j → i = j) ∧
      ∀ i now provider h', (h.tasks i).cancelled = true → h.announce i now provider = some h' →
        h'.session = h.session ∧ (h'.calls = h.calls ∨ h'.calls = .interruptSpeech :: h.calls) := by
  have audible := path.invariant (fun _ _ _ held promised next => step_audible held promised next) (initial_audible open_)
  refine ⟨audible.audio,fun _ _ => live_unique audible.tidy,?_⟩
  intro i now provider h' cancelled next
  obtain ⟨session,_,calls⟩ := obsolete_silent audible.tidy cancelled next
  exact ⟨session,calls⟩

theorem sample_audio : (sampleRequested.ready = true ∧ AudioRule sampleRequested) ∧
    sampleLeft.ready = true ∧ AudioRule sampleLeft := by
  have requested : Runs (step verbatim) Undisturbed sampleStart
      [.activate 1000,.packet (samplePacket "bridge:1" .transferRequested) sampleClock sampleProvider] sampleRequested :=
    .cons rfl rfl (.single trivial sample_requests)
  have undisturbed : ∀ s ∈ sampleTrace, Undisturbed s.1 s.2 := by
    simp only [sampleTrace,List.forall_mem_cons]
    exact ⟨rfl,trivial,rfl,rfl,trivial,trivial,trivial,trivial,rfl,trivial,trivial,List.forall_mem_nil _⟩
  exact ⟨⟨rfl,(transfer_audio (fun none => by cases none) requested).1 rfl⟩,
    rfl,(transfer_audio (fun none => by cases none) (sample_path undisturbed)).1 rfl⟩

end AidaAgent.Control
