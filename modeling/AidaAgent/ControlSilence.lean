import AidaAgent.ControlFailures

namespace AidaAgent.Control
open JsonText Config

-- The calls that make the agent heard, or let it hear.
def isAudible : Call → Bool
  | .setInput enabled | .setOutput enabled => enabled
  | .sayTransfer _ | .sayFailed _ => true
  | _ => false

def opensInput (c : Call) : Bool := c = .setInput true

-- What is called between two states is none of the banned calls.
def Without (banned : Call → Bool) (h h' : Handler) : Prop :=
  ∃ extra, h'.calls = extra ++ h.calls ∧ ∀ c ∈ extra, banned c = false

theorem Without.refl (h : Handler) : Without banned h h := ⟨[],rfl,by simp⟩

theorem Without.trans (first : Without banned h middle) (second : Without banned middle h') : Without banned h h' := by
  obtain ⟨extra,before,plain⟩ := first
  obtain ⟨more,after,also⟩ := second
  refine ⟨more ++ extra,by rw [after,before,List.append_assoc],?_⟩
  intro c member
  rcases List.mem_append.mp member with late | early
  · exact also c late
  · exact plain c early

theorem Without.closed (hushed : Without isAudible h h') : Without opensInput h h' := by
  obtain ⟨extra,whole,plain⟩ := hushed
  refine ⟨extra,whole,fun c member => ?_⟩
  have quiet := plain c member
  by_contra opens
  have same : c = .setInput true := by simpa [opensInput] using opens
  rw [same] at quiet
  cases quiet

theorem hushed_cancel (h : Handler) : Without isAudible h h.cancelAnnouncement := by
  rw [cancel_exact]
  exact .refl h

theorem hushed_start (h : Handler) (now : Int) : Without isAudible h (h.startAnnouncement now) := by
  by_cases opened : h.ready = true ∧ h.session.isSome = true
  · rw [start_exact h now opened]
    exact ⟨[_,_],rfl,by simp [isAudible]⟩
  · rw [start_closed opened]
    exact .refl h

theorem silencing_hushed (silencing : isSilencing c = true) : isAudible c = false := by
  cases c with
  | setInput enabled | setOutput enabled => cases enabled <;> simp [isSilencing,isAudible] at *
  | _ => first | rfl | cases silencing

theorem hushed_silence (h : Handler) (provider : Provider) : Without isAudible h (h.silence provider).1 := by
  obtain ⟨extra,quiet,exact⟩ := silence_exact h provider
  rw [exact]
  exact ⟨extra,rfl,fun c member => silencing_hushed (quiet c member)⟩

theorem spoken_hushed (spoken : Bool) : ∀ c ∈ spokenCalls spoken, isAudible c = false := by
  cases spoken <;> simp [spokenCalls,isAudible]

theorem hushed_finish (h : Handler) (i : Nat) (spoken : Bool) (provider : Provider) :
    Without isAudible h (h.finishAnnounce i spoken provider) := by
  rcases finish_exact h i spoken provider with ⟨_,error,_,exact⟩ | ⟨_,exact⟩ | ⟨_,exact⟩
  · rw [exact]
    exact ⟨[.interruptSpeech],rfl,by simp [isAudible]⟩
  · rw [exact]
    exact ⟨_,rfl,spoken_hushed spoken⟩
  · rw [exact]
    exact ⟨.setOutput false :: spokenCalls spoken,rfl,List.forall_mem_cons.mpr ⟨rfl,spoken_hushed spoken⟩⟩

theorem hushed_prepare (h : Handler) (remaining : Int) (clock : Clock) :
    Without isAudible h (h.prepareHandoff remaining clock).1 := by
  rcases prepare_cases h remaining clock with ⟨deadline,exact⟩ | ⟨_,_,_,deadline,exact⟩
  · rw [exact]
    exact .refl h
  · rw [exact]
    exact hushed_start {h with transferDeadlineMs := deadline, transferring := true} clock.third

theorem hushed_human (h : Handler) (deadline : Int) (clock : Clock) (provider : Provider) :
    Without isAudible h (h.humanAnswered deadline clock provider).1 := by
  have answered : Without isAudible h h.answered := by
    unfold Handler.answered
    split
    · exact .refl h
    · exact ⟨[.episode],rfl,by simp [isAudible]⟩
  have prepared := answered.trans (hushed_prepare h.answered (remainingMs deadline clock) clock)
  have answers := human_cases h deadline clock provider
  generalize h.humanAnswered deadline clock provider = result at answers ⊢
  generalize (h.answered.prepareHandoff (remainingMs deadline clock) clock).1 = p at prepared answers
  have silenced := prepared.trans ((hushed_cancel p).trans (hushed_silence _ provider))
  have last : ∀ {out : Handler} {task}, Without isAudible h out →
      Without isAudible h {out.call .stopCreated with stopTask := some task} :=
    fun before => before.trans ⟨[_],rfl,by simp [isAudible]⟩
  cases answers with
  | stuck => exact prepared
  | graceful =>
    have muted : Without isAudible p (p.setInput false) := ⟨[_],rfl,by simp [isAudible]⟩
    exact last (prepared.trans muted)
  | broken => exact silenced
  | immediate => exact last silenced

theorem hushed_requested (h : Handler) (deadline : Int) (clock : Clock) :
    Without isAudible h (h.transferRequested deadline clock).1 := by
  unfold Handler.transferRequested
  split
  · have marked : Without isAudible h {h.call .episode with transferring := true, transferDeadlineMs := deadline} :=
      ⟨[.episode],rfl,by simp [isAudible]⟩
    exact marked.trans (hushed_start _ clock.second)
  · exact .refl h

theorem hushed_stop (next : h.stop wake provider = some h') : Without isAudible h h' := by
  cases stop_cases next with
  | dropped | waits => exact .refl h
  | disconnects | ends => exact ⟨[_],rfl,by simp [isAudible]⟩
  | @leaves _ escaping =>
    have silenced := (hushed_cancel h).trans (hushed_silence h.cancelAnnouncement provider)
    rcases leave_cases h escaping provider with ⟨_,_,same⟩ | ⟨_,_,same⟩
    · rw [same]
      exact silenced
    · rw [same]
      exact silenced.trans ⟨[.disconnect],rfl,by simp [isAudible]⟩

theorem hushed_expire (next : h.expire i = some h') : Without isAudible h h' := by
  obtain ⟨_,_,rfl⟩ := expire_cases next
  exact .refl h

-- An announcement enables the output and speaks, but never opens the input.
theorem closed_announce (next : h.announce i now provider = some h') : Without opensInput h h' := by
  have saying : Without opensInput h ((h.setOutput true).call (.sayTransfer h.transferStatement)) :=
    ⟨[_,_],rfl,by simp [opensInput]⟩
  cases announce_cases next with
  | dropped => exact .refl h
  | late | silent | played => exact (hushed_finish h i _ provider).closed
  | refused =>
    have entered : Without opensInput h {(h.setTask i {h.tasks i with timer := .entered}).call .interrupt with
        announcementTimeout := some i} := ⟨[_],rfl,by simp [opensInput]⟩
    exact entered.trans (hushed_finish _ i false provider).closed
  | begun => exact ⟨[_],rfl,by simp [opensInput]⟩
  | unsaid => exact saying.trans (hushed_finish _ i false provider).closed
  | said => exact saying

-- The input of a handler is open only while it is ready and nothing is transferred.
structure Muffled (h : Handler) : Prop where
  tidy : Tidy h
  transferring : h.announcementTask.isSome = true → h.transferring = true
  input : ∀ s, h.session = some s → s.input = true → h.ready = true ∧ h.transferring = false ∧ h.stopping = false

structure Muted (h : Handler) : Prop extends Muffled h where
  answered : Answered h.calls → h.stopping = true

theorem muted_off (muted : Muted h) (frame : Frame h h') (tidy : Tidy h')
    (transferring : h'.announcementTask.isSome = true → h'.transferring = true)
    (off : ∀ s, h'.session = some s → s.input = false) : Muted h' := by
  refine ⟨⟨tidy,transferring,fun s present open_ => ?_⟩,fun answered => ?_⟩
  · rw [off s present] at open_
    cases open_
  · rw [frame.stopping]
    exact muted.answered (answered_frame frame answered)

theorem muted_same (muted : Muted h) (frame : Frame h h') (tidy : Tidy h')
    (transferring : h'.announcementTask.isSome = true → h'.transferring = true) (flag : h'.transferring = h.transferring)
    (input : ∀ s', h'.session = some s' → ∃ s, h.session = some s ∧ s'.input = s.input) : Muted h' := by
  refine ⟨⟨tidy,transferring,fun s' present open_ => ?_⟩,fun answered => ?_⟩
  · obtain ⟨s,before,same⟩ := input s' present
    rw [frame.ready,flag,frame.stopping]
    exact muted.input s before (same ▸ open_)
  · rw [frame.stopping]
    exact muted.answered (answered_frame frame answered)

theorem silenced_off (h : Handler) (provider : Provider) : ∀ s, (h.silence provider).1.session = some s →
    s.input = false ∧ s.output = false := by
  obtain ⟨_,_,exact⟩ := silence_exact h provider
  rw [exact]
  intro s present
  obtain ⟨_,_,rfl⟩ := Option.map_eq_some_iff.mp present
  exact ⟨rfl,rfl⟩

theorem muted_cancel (muted : Muted h) : Muted h.cancelAnnouncement := by
  have frame := frame_cancel h
  have tidy := tidy_cancel muted.tidy
  rw [cancel_exact] at frame tidy ⊢
  exact muted_same muted frame tidy (fun none => by cases none) rfl fun s' present => ⟨s',present,rfl⟩

theorem muted_silence (muted : Muted h) (provider : Provider) : Muted (h.silence provider).1 := by
  refine muted_off muted (frame_silence h provider) (tidy_silence muted.tidy provider) ?_
    fun s present => (silenced_off h provider s present).1
  obtain ⟨_,_,exact⟩ := silence_exact h provider
  rw [exact]
  exact muted.transferring

theorem started_muted (tidy : Tidy h) (transferring : h.transferring = true)
    (closed : ∀ s, h.session = some s → s.input = true → h.ready = true) (answered : Answered h.calls → h.stopping = true)
    (now : Int) : Muted (h.startAnnouncement now) := by
  have frame := frame_start h now
  have started := tidy_start tidy now
  by_cases opened : h.ready = true ∧ h.session.isSome = true
  · have later := answered_frame frame
    rw [start_exact h now opened] at started later ⊢
    refine ⟨⟨started,fun _ => transferring,fun s present open_ => ?_⟩,fun said => answered (later said)⟩
    obtain ⟨_,_,rfl⟩ := Option.map_eq_some_iff.mp present
    cases open_
  · rw [start_closed opened]
    refine ⟨⟨tidy,fun _ => transferring,fun s present open_ => ?_⟩,answered⟩
    exact absurd ⟨closed s present open_,by rw [present]; rfl⟩ opened

theorem requested_muted (muted : Muted h) (deadline : Int) (clock : Clock) :
    Muted (h.transferRequested deadline clock).1 := by
  unfold Handler.transferRequested
  split
  · refine started_muted (h := {h.call .episode with transferring := true, transferDeadlineMs := deadline})
      (tidy_same muted.tidy rfl rfl rfl rfl rfl) rfl (fun s present open_ => (muted.input s present open_).1) ?_ clock.second
    exact fun answered => muted.answered (answered_frame (frame_call rfl) answered)
  · exact muted

theorem failed_muted (muted : Muted h) (running : h.stopping = false) (deadline : Int) (clock : Clock)
    (provider : Provider) : Muted (h.transferFailed deadline clock provider).1 := by
  have frame := frame_failed h deadline clock provider
  have tidy := tidy_failed muted.tidy deadline clock provider
  have answered : ∀ {out : Handler}, Frame h out → Answered out.calls → out.stopping = true := by
    intro out framed said
    rw [framed.stopping]
    exact muted.answered (answered_frame framed said)
  have fails := failed_cases h deadline clock provider
  generalize (h.transferFailed deadline clock provider).1 = out at fails frame tidy ⊢
  have idle := cancel_idle {h with transferring := false}
  have none : ∀ {P : Prop}, ({h with transferring := false} : Handler).cancelAnnouncement.announcementTask.isSome = true → P := by
    intro P some
    rw [idle] at some
    cases some
  have flags : ({h with transferring := false} : Handler).cancelAnnouncement.transferring = false ∧
      ({h with transferring := false} : Handler).cancelAnnouncement.stopping = h.stopping := by
    rw [cancel_exact]
    exact ⟨rfl,rfl⟩
  obtain ⟨ready,session⟩ := cancel_ready {h with transferring := false}
  cases fails with
  | late => exact muted
  | unready shut =>
    refine ⟨⟨tidy,none,fun s present open_ => ?_⟩,answered frame⟩
    rw [session] at present
    exact absurd ⟨(muted.input s present open_).1,by rw [present]; rfl⟩ shut
  | resumed on | said _ on =>
    exact ⟨⟨tidy,none,fun _ _ _ => ⟨ready.trans on,flags.1,flags.2.trans running⟩⟩,answered frame⟩

theorem answered_muted (muted : Muffled h) : Tidy h.answered ∧ h.answered.session = h.session ∧
    h.answered.announcementTask = h.announcementTask ∧ h.answered.transferring = h.transferring ∧
    h.answered.announcementTimeout = h.announcementTimeout := by
  unfold Handler.answered
  split <;> exact ⟨tidy_same muted.tidy rfl rfl rfl rfl rfl,rfl,rfl,rfl,rfl⟩

-- A transfer closes the input before the takeover, and the takeover closes it where
-- nothing is transferred, also where it raises.
theorem human_muted (muted : Muffled h) (deadline : Int) (clock : Clock) (provider : Provider) :
    Muted (h.humanAnswered deadline clock provider).1 := by
  obtain ⟨answered,session,current,transferring,timeout⟩ := answered_muted muted
  have frame := frame_prepare h.answered (remainingMs deadline clock) clock
  have tidy := tidy_prepare answered (remainingMs deadline clock) clock
  have stopping := frame.stopping.trans (answered_exact h).2.2.1
  have cases_ := prepare_cases h.answered (remainingMs deadline clock) clock
  have schedulable := prepare_schedulable h.answered (remainingMs deadline clock) clock
  have answers := human_cases h deadline clock provider
  generalize h.humanAnswered deadline clock provider = result at answers ⊢
  generalize h.answered.prepareHandoff (remainingMs deadline clock) clock = p at frame tidy stopping cases_ schedulable answers
  have tied : p.1.announcementTask.isSome = true → p.1.transferring = true := by
    rcases cases_ with ⟨_,exact⟩ | ⟨_,_,_,_,exact⟩
    · rw [exact]
      exact fun some => transferring.trans (muted.transferring (current ▸ some))
    · rw [exact,start_transferring]
      exact fun _ => rfl
  have quiet := (frame_cancel p.1).trans (frame_silence p.1.cancelAnnouncement provider)
  have silenced := tidy_silence (tidy_cancel tidy) provider
  have idle : ¬ (p.1.cancelAnnouncement.silence provider).1.announcementTask.isSome = true := by
    obtain ⟨_,_,exact⟩ := silence_exact p.1.cancelAnnouncement provider
    rw [exact,show _ = none from cancel_idle p.1]
    decide
  -- What is left open before the takeover is closed by one of its ends.
  have ends : ∀ {out : Handler}, Tidy out → (out.announcementTask.isSome = true → out.transferring = true) →
      out.stopping = true → (∀ s, out.session = some s → s.input = false) → Muted out := by
    intro out tidied tie stopped off
    refine ⟨⟨tidied,tie,fun s present open_ => ?_⟩,fun _ => stopped⟩
    rw [off s present] at open_
    cases open_
  have off := fun s present => (silenced_off p.1.cancelAnnouncement provider s present).1
  cases answers with
  | @stuck error failed =>
    refine ends tidy tied stopping fun s present => ?_
    by_contra opened
    have stuck : Unschedulable h.answered (remainingMs deadline clock) := by
      by_contra fine
      rw [schedulable.mpr fine] at failed
      cases failed
    obtain ⟨_,fresh,i,timed,_⟩ := stuck
    have running := (answered.timeout i timed).1
    have before : ∃ s, h.session = some s ∧ s.input = true := by
      rcases cases_ with ⟨_,exact⟩ | ⟨_,present',idle',_,_⟩
      · rw [exact,show _ = h.session from session] at present
        exact ⟨s,present,by simpa using opened⟩
      · have busy := muted.transferring (by rw [← current,running]; rfl)
        rw [← transferring,idle'] at busy
        cases busy
    obtain ⟨s',present',open_⟩ := before
    have free := (muted.input s' present' open_).2.1
    rw [muted.transferring (by rw [← current,running]; rfl)] at free
    cases free
  | graceful =>
    refine ends (tidy_same tidy rfl rfl rfl rfl (by simp [Handler.call,Handler.setInput])) tied stopping ?_
    intro s present
    obtain ⟨_,_,rfl⟩ := Option.map_eq_some_iff.mp present
    rfl
  | broken => exact ends silenced (fun some => absurd some idle) (quiet.stopping.trans stopping) off
  | immediate =>
    exact ends (tidy_same silenced rfl rfl rfl rfl rfl) (fun some => absurd some idle) (quiet.stopping.trans stopping) off

theorem receive_muted (muted : Muted h) (packet : Packet) (clock : Clock) (provider : Provider) :
    Muted (h.receive py packet clock provider).1 := by
  have receives := @receive_cases py h packet clock provider
  generalize h.receive py packet clock provider = result at receives ⊢
  have marked : ∀ command, Muffled (h.note command) := fun command =>
    ⟨tidy_same muted.tidy rfl rfl rfl rfl rfl,muted.transferring,muted.input⟩
  have noted : ∀ {command : ControlCommand}, command.action ≠ .humanAnswered → Muted (h.note command) := by
    intro command other
    refine ⟨marked command,?_⟩
    rintro ⟨found,member,human⟩
    rcases List.mem_cons.mp member with same | earlier
    · cases same
      exact absurd human other
    · exact muted.answered ⟨found,earlier,human⟩
  cases receives with
  | refused => exact muted
  | human => exact human_muted (marked _) _ clock provider
  | requested _ _ _ action => exact requested_muted (noted (by rw [action]; decide)) _ clock
  | failed _ _ running action => exact failed_muted (noted (by rw [action]; decide)) running _ clock provider

theorem enable_muted (muted : Muted h) (now : Int) : Muted (h.enable now) := by
  have tidy := tidy_enable muted.tidy now
  have enables := enable_cases h now
  generalize h.enable now = out at enables tidy ⊢
  cases enables with
  | announces transferring =>
    exact started_muted (h := {h with ready := true}) (tidy_same muted.tidy rfl rfl rfl rfl rfl) transferring
      (fun _ _ _ => rfl) muted.answered now
  | waits _ stopping =>
    refine ⟨⟨tidy,muted.transferring,fun s present open_ => ?_⟩,muted.answered⟩
    have running := (muted.input s present open_).2.2
    rw [stopping] at running
    cases running
  | converses idle running =>
    refine ⟨⟨tidy,muted.transferring,fun _ _ _ => ⟨rfl,idle,running⟩⟩,?_⟩
    rintro ⟨found,member,human⟩
    have before : .accepted found ∈ h.calls := by simpa [Handler.setInput,Handler.setOutput] using member
    exact muted.answered ⟨found,before,human⟩

-- The input stays as it is while an announcement runs.
theorem announce_input {h h' : Handler} (next : h.announce i now provider = some h') : h'.transferring = h.transferring ∧
    (h'.announcementTask.isSome = true → h.announcementTask.isSome = true) ∧
    ∀ s', h'.session = some s' → ∃ s, h.session = some s ∧ s'.input = s.input := by
  have finished : ∀ (m : Handler) (spoken : Bool), m.transferring = h.transferring →
      (m.announcementTask.isSome = true → h.announcementTask.isSome = true) →
      (∀ s', m.session = some s' → ∃ s, h.session = some s ∧ s'.input = s.input) →
      (m.finishAnnounce i spoken provider).transferring = h.transferring ∧
        ((m.finishAnnounce i spoken provider).announcementTask.isSome = true → h.announcementTask.isSome = true) ∧
        ∀ s', (m.finishAnnounce i spoken provider).session = some s' → ∃ s, h.session = some s ∧ s'.input = s.input := by
    intro m spoken flag current input
    rcases finish_exact m i spoken provider with ⟨_,error,_,exact⟩ | ⟨_,exact⟩ | ⟨_,exact⟩
    · rw [exact]
      exact ⟨flag,current,input⟩
    · rw [exact]
      exact ⟨flag,current,input⟩
    · rw [exact]
      refine ⟨flag,(fun none => by cases none),fun s' present => ?_⟩
      obtain ⟨s,same,rfl⟩ := Option.map_eq_some_iff.mp present
      exact input s same
  have enabled : ∀ s', (h.setOutput true).session = some s' → ∃ s, h.session = some s ∧ s'.input = s.input := by
    intro s' present
    obtain ⟨s,same,rfl⟩ := Option.map_eq_some_iff.mp present
    exact ⟨s,same,rfl⟩
  have same : ∀ s', h.session = some s' → ∃ s, h.session = some s ∧ s'.input = s.input := fun s' present => ⟨s',present,rfl⟩
  cases announce_cases next with
  | dropped | begun => exact ⟨rfl,id,same⟩
  | late | silent | played => exact finished h _ rfl id same
  | refused => exact finished _ false rfl id same
  | unsaid => exact finished _ false rfl id enabled
  | said => exact ⟨rfl,id,enabled⟩

theorem announce_muted (muted : Muted h) (next : h.announce i now provider = some h') : Muted h' := by
  obtain ⟨flag,current,input⟩ := announce_input next
  refine muted_same muted (frame_announce next) (tidy_announce muted.tidy next) (fun some => ?_) flag input
  rw [flag]
  exact muted.transferring (current some)

theorem expire_muted (muted : Muted h) (next : h.expire i = some h') : Muted h' := by
  have frame := frame_expire next
  have tidy := tidy_expire muted.tidy next
  obtain ⟨_,_,rfl⟩ := expire_cases next
  exact muted_same muted frame tidy muted.transferring rfl fun s' present => ⟨s',present,rfl⟩

theorem stop_muted (muted : Muted h) (next : h.stop wake provider = some h') : Muted h' := by
  have tidy := tidy_stop muted.tidy next
  have called : ∀ {out : Handler} {c : Call}, Muted out → (∀ command, c ≠ .accepted command) →
      ∀ {pc}, Muted ((out.call c).setStop pc) := by
    intro out c before other pc
    refine ⟨⟨tidy_same before.tidy rfl rfl rfl rfl rfl,before.transferring,before.input⟩,?_⟩
    rintro ⟨found,member,human⟩
    rcases List.mem_cons.mp member with same | earlier
    · exact absurd same.symm (other found)
    · exact before.answered ⟨found,earlier,human⟩
  cases stop_cases next with
  | dropped | waits => exact ⟨⟨tidy,muted.transferring,muted.input⟩,muted.answered⟩
  | disconnects | ends => exact called muted (by simp)
  | @leaves _ escaping =>
    have silenced := muted_silence (muted_cancel muted) provider
    rcases leave_cases h escaping provider with ⟨_,_,same⟩ | ⟨_,_,same⟩
    · rw [same] at tidy ⊢
      exact ⟨⟨tidy,silenced.transferring,silenced.input⟩,silenced.answered⟩
    · rw [same]
      exact called silenced (by simp)

theorem cancelStop_muted (muted : Muted h) (next : h.cancelStop = some h') : Muted h' := by
  obtain ⟨_,_,_,rfl⟩ := cancelStop_cases next
  exact ⟨⟨tidy_same muted.tidy rfl rfl rfl rfl rfl,muted.transferring,muted.input⟩,muted.answered⟩

end AidaAgent.Control
