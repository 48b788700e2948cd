import AidaAgent.HistoryMerge

namespace AidaAgent.History
open Transcripts Transitions

-- What both filters ask of the role and of the text.
def Spoken (item : ChatItem) : Prop := ∃ role text, item.role = some role ∧ (role = .user ∨ role = .assistant) ∧
  item.textContent = some text ∧ text ≠ ""

-- item() passes on a live row with the text of the item.
def Enqueues (h : TranscriptHistory) (item : ChatItem) : Prop := ∃ after row, h.item item = .ok (after,some row) ∧
  after.queue = h.queue ++ [row] ∧ row.content = item.textContent.toList

-- snapshot() lists the item where session.history has it.
def Lists (h : TranscriptHistory) (item : ChatItem) : Prop := h.entry item ≠ none

theorem lists_exact {h : TranscriptHistory} {item : ChatItem} : Lists h item ↔ item.type = .message ∧ Spoken item := by
  constructor
  · intro listed
    obtain ⟨row,entry⟩ := Option.ne_none_iff_exists'.mp listed
    obtain ⟨role,text,message,speaker,content,shown,written,_⟩ := entry_exact.mp entry
    exact ⟨message,role,text,speaker,shown,content,written⟩
  · rintro ⟨message,role,text,speaker,shown,content,written⟩ hidden
    have entry := (entry_exact (h := h)).mpr ⟨role,text,message,speaker,content,shown,written,rfl⟩
    rw [hidden] at entry
    cases entry

theorem enqueue_queue {h : TranscriptHistory} (room : h.queue.length < queueSize) (row : Row) :
    (h.enqueue row).queue = h.queue ++ [row] := by
  unfold TranscriptHistory.enqueue
  rw [if_pos room]

theorem spoken_enqueues {h : TranscriptHistory} {item : ChatItem} (open_ : h.closed = false)
    (room : h.queue.length < queueSize) (spoken : Spoken item) : Enqueues h item := by
  obtain ⟨role,text,speaker,shown,content,written⟩ := spoken
  have listed : ¬ ((role ≠ .user ∧ role ≠ .assistant) ∨ lacksText (some text) = true) := by
    rintro (⟨notUser,notAssistant⟩ | lacking)
    · exact shown.elim notUser notAssistant
    · exact written (by simpa [lacksText] using lacking)
  unfold Enqueues TranscriptHistory.item
  rw [if_neg (by simp [open_]),speaker,content]
  dsimp only
  rw [if_neg listed]
  refine ⟨_,_,rfl,?_,rfl⟩
  rw [enqueue_queue]
  · cases role <;> rfl
  · cases role <;> exact room

-- An item that is not spoken changes nothing, though one without a role raises.
theorem unspoken_passed {item : ChatItem} (h : TranscriptHistory) (unspoken : ¬ Spoken item) :
    h.item item = .ok (h,none) ∨ ∃ e, h.item item = .error e := by
  unfold TranscriptHistory.item
  split
  · exact .inl rfl
  · split
    · exact .inr ⟨_,rfl⟩
    · rename_i role speaker
      split
      · exact .inl rfl
      · rename_i listed
        obtain ⟨who,written⟩ := not_or.mp listed
        have shown : role = .user ∨ role = .assistant := by
          by_contra neither
          exact who (not_or.mp neither)
        cases text : item.textContent with
        | none =>
          rw [text] at written
          exact absurd rfl written
        | some text_ =>
          rw [text] at written
          exact absurd ⟨role,text_,speaker,shown,text,by simpa [lacksText] using written⟩ unspoken

theorem enqueues_exact {h : TranscriptHistory} {item : ChatItem} (open_ : h.closed = false)
    (room : h.queue.length < queueSize) : Enqueues h item ↔ Spoken item := by
  refine ⟨fun enqueues => ?_,spoken_enqueues open_ room⟩
  by_contra unspoken
  obtain ⟨after,row,passed,_⟩ := enqueues
  rcases unspoken_passed h unspoken with silent | ⟨e,raised⟩
  · rw [silent] at passed
    cases passed
  · rw [raised] at passed
    cases passed

-- Where the two filters agree on an item.
def Fair (item : ChatItem) : Prop := item.type = .message ∨ ¬ Spoken item

theorem agreement_exact {h : TranscriptHistory} {item : ChatItem} (open_ : h.closed = false)
    (room : h.queue.length < queueSize) : (Enqueues h item ↔ Lists h item) ↔ Fair item := by
  rw [enqueues_exact open_ room,lists_exact]
  constructor
  · intro same
    by_cases spoken : Spoken item
    · exact .inl (same.mp spoken).1
    · exact .inr spoken
  · rintro (message | unspoken)
    · exact ⟨fun spoken => ⟨message,spoken⟩,And.right⟩
    · exact iff_of_false unspoken fun listed => unspoken listed.2

-- Items and events of two runs that differ only in what snapshot() hides.
def SameShown (one two : ChatItem) : Prop :=
  one = two ∨ ((∀ h : TranscriptHistory, ¬ Lists h one) ∧ ∀ h : TranscriptHistory, ¬ Lists h two)

inductive Matched : Event → Event → Prop where
  | same (event : Event) : Matched event event
  | item : SameShown one two → Matched (.item one) (.item two)
  | edited : List.Forall₂ SameShown items items' → Matched (.edited items) (.edited items')

-- What leaves the worker: the rows sent to lk.transcription, and the answers to
-- observers.
inductive Sent where
  | row (row : Row)
  | answer (answer : Except Raised Page)

def sends (setup : Setup) (s : Scene) : Event → List Sent
  | .published => (s.history.queue.take 1).map .row
  | .request r => [.answer (s.ask setup r).2]
  | _ => []

-- Scenes of the two runs at the same point.
structure Alike (s s' : Scene) : Prop where
  history : s.history = s'.history
  clock : s.clock = s'.clock
  items : List.Forall₂ SameShown s.items s'.items

-- item() is only called with items on which the filters agree.
def AllFair (_ : Scene) : Event → Prop
  | .item item => Fair item
  | _ => True

theorem same_entries (h : TranscriptHistory) (same : List.Forall₂ SameShown items items') :
    items.filterMap h.entry = items'.filterMap h.entry := by
  induction same with
  | nil => rfl
  | cons first _ ih =>
    rw [List.filterMap_cons,List.filterMap_cons,ih]
    rcases first with rfl | ⟨one,two⟩
    · rfl
    · rw [not_not.mp (one h),not_not.mp (two h)]

theorem getTranscript_congr (setup : Setup) (h : TranscriptHistory) (same : List.Forall₂ SameShown items items')
    (now : ℚ) (r : Request) : h.getTranscript setup items now r = h.getTranscript setup items' now r := by
  have shown (h : TranscriptHistory) : h.snapshot items = h.snapshot items' := by
    unfold TranscriptHistory.snapshot
    rw [same_entries h same]
  simp only [TranscriptHistory.getTranscript,TranscriptHistory.freeze,shown]

-- An item that leaves a row in neither feed leaves the scene as it is, but for the list.
theorem item_unseen {item : ChatItem} (unspoken : ¬ Spoken item) (moved : step setup s (.item item) = some t) :
    t = {s with items := s.items ++ [item]} := by
  unfold step at moved
  dsimp only at moved
  rcases unspoken_passed s.history unspoken with silent | ⟨e,raised⟩
  · rw [silent] at moved
    rw [← Option.some.inj moved]
    unfold Scene.emit
    simp
  · rw [raised] at moved
    exact (Option.some.inj moved).symm

theorem unseen_unspoken {item : ChatItem} (hidden : ∀ h : TranscriptHistory, ¬ Lists h item) (fair : Fair item) :
    ¬ Spoken item := by
  intro spoken
  rcases fair with message | unspoken
  · exact hidden .initial (lists_exact.mpr ⟨message,spoken⟩)
  · exact unspoken spoken

theorem item_alike (alike : Alike s s') (same : SameShown one two) (fair : Fair one) (fair' : Fair two)
    (moved : step setup s (.item one) = some t) (moved' : step setup s' (.item two) = some t') : Alike t t' := by
  have items : List.Forall₂ SameShown (s.items ++ [one]) (s'.items ++ [two]) :=
    List.rel_append alike.items (.cons same .nil)
  rcases same with rfl | ⟨hidden,hidden'⟩
  · have shared : s.history.item one = s'.history.item one := congrArg (·.item one) alike.history
    cases step_cases moved with
    | told passed =>
      cases step_cases moved' with
      | told passed' =>
        cases (shared.symm.trans passed).symm.trans passed'
        exact ⟨rfl,alike.clock,items⟩
      | raised failed => cases (shared.symm.trans passed).symm.trans failed
    | raised failed =>
      cases step_cases moved' with
      | told passed => cases (shared.symm.trans failed).symm.trans passed
      | raised => exact ⟨alike.history,alike.clock,items⟩
  · rw [item_unseen (unseen_unspoken hidden fair) moved,item_unseen (unseen_unspoken hidden' fair') moved']
    exact ⟨alike.history,alike.clock,items⟩

theorem event_alike (alike : Alike s s') (other : ∀ item, event ≠ .item item) (moved : step setup s event = some t)
    (moved' : step setup s' event = some t') : Alike t t' ∧ sends setup s event = sends setup s' event := by
  obtain ⟨h,listed,now,told⟩ := s
  obtain ⟨h',listed',now',told'⟩ := s'
  obtain ⟨rfl,rfl,items⟩ := alike
  cases step_cases moved with
  | told | raised => exact absurd rfl (other _)
  | caller =>
    cases step_cases moved'
    exact ⟨⟨rfl,rfl,items⟩,rfl⟩
  | edited =>
    cases step_cases moved'
    exact ⟨⟨rfl,rfl,List.forall₂_same.mpr fun _ _ => .inl rfl⟩,rfl⟩
  | published waiting =>
    cases step_cases moved' with
    | published waiting' =>
      cases waiting.symm.trans waiting'
      exact ⟨⟨rfl,rfl,items⟩,rfl⟩
  | request =>
    rename_i r
    have asked := getTranscript_congr setup h items now r
    cases step_cases moved'
    unfold sends Scene.ask
    dsimp only at asked ⊢
    rw [asked]
    exact ⟨⟨rfl,rfl,items⟩,rfl⟩
  | elapsed =>
    cases step_cases moved'
    exact ⟨⟨rfl,rfl,items⟩,rfl⟩
  | close =>
    cases step_cases moved'
    exact ⟨⟨rfl,rfl,items⟩,rfl⟩

theorem alike_step (alike : Alike s s') (matched : Matched event event') (fair : AllFair s event)
    (fair' : AllFair s' event') (moved : step setup s event = some t) (moved' : step setup s' event' = some t') :
    Alike t t' ∧ sends setup s event = sends setup s' event' := by
  cases matched with
  | same event =>
    by_cases told : ∃ item, event = .item item
    · obtain ⟨item,rfl⟩ := told
      exact ⟨item_alike alike (.inl rfl) fair fair' moved moved',rfl⟩
    · exact event_alike alike (fun item same => told ⟨item,same⟩) moved moved'
  | item same => exact ⟨item_alike alike same fair fair' moved moved',rfl⟩
  | edited items =>
    cases Option.some.inj moved
    cases Option.some.inj moved'
    exact ⟨⟨alike.history,alike.clock,items⟩,rfl⟩

-- The two feeds show the same items on exactly the fair ones, and where all are fair,
-- nothing that leaves the worker depends on what the snapshot hides.
theorem visibility_exact (setup : Setup) :
    (∀ (h : TranscriptHistory) item, h.closed = false → h.queue.length < queueSize →
      ((Enqueues h item ↔ Lists h item) ↔ Fair item)) ∧
    ∀ opening opening' clock events events' s s', List.Forall₂ SameShown opening opening' →
      List.Forall₂ Matched events events' → Runs (step setup) AllFair (Scene.opening opening clock) events s →
      Runs (step setup) AllFair (Scene.opening opening' clock) events' s' →
        emitted (step setup) (sends setup) (Scene.opening opening clock) events =
            emitted (step setup) (sends setup) (Scene.opening opening' clock) events' ∧
          s.history = s'.history := by
  refine ⟨fun h item => agreement_exact,?_⟩
  intro opening opening' clock events events' s s' items matched one two
  have start : Alike (Scene.opening opening clock) (Scene.opening opening' clock) := ⟨rfl,rfl,items⟩
  obtain ⟨alike,sent⟩ := one.paired two start matched fun _ _ _ _ _ _ => alike_step
  exact ⟨sent,alike.history⟩

-- What the tests call a tool payload.
def toolItem (payload : String) : ChatItem := ⟨"tool",.functionCall,some .assistant,some payload,fun same => nomatch same⟩

-- It is not in the snapshot, and goes out on the live feed.
theorem tool_leaks : ¬ (Enqueues .initial (toolItem "private tool payload") ↔
      Lists .initial (toolItem "private tool payload")) ∧
    SameShown (toolItem "private tool payload") (toolItem "another") ∧
    emitted (step sampleSetup) (sends sampleSetup) (Scene.opening [] 0) [.item (toolItem "private tool payload"),.published] ≠
      emitted (step sampleSetup) (sends sampleSetup) (Scene.opening [] 0) [.item (toolItem "another"),.published] := by
  have hidden (payload : String) (h : TranscriptHistory) : ¬ Lists h (toolItem payload) := by
    rw [lists_exact]
    rintro ⟨message,_⟩
    cases message
  refine ⟨fun same => ?_,.inr ⟨hidden _,hidden _⟩,fun same => ?_⟩
  · refine hidden _ _ (same.mp (spoken_enqueues rfl (by decide) ?_))
    exact ⟨.assistant,"private tool payload",rfl,.inr rfl,rfl,by decide⟩
  · have one : emitted (step sampleSetup) (sends sampleSetup) (Scene.opening [] 0)
        [.item (toolItem "private tool payload"),.published] =
          [.row ⟨"tool","tool",.assistant,["private tool payload"],true,1⟩] := rfl
    have two : emitted (step sampleSetup) (sends sampleSetup) (Scene.opening [] 0) [.item (toolItem "another"),.published] =
        [.row ⟨"tool","tool",.assistant,["another"],true,1⟩] := rfl
    rw [one,two] at same
    simp at same

-- Two calls with instructions of their own and the same reply.
def told (rules : String) : List Event :=
  [.item ⟨"item_1",.message,some .system,some rules,fun _ => Option.some_ne_none _⟩,.item answer,.published]

theorem told_fair (rules : String) : ∃ s, Runs (step sampleSetup) AllFair (Scene.opening [] 0) (told rules) s :=
  ⟨_,.cons (.inl rfl) rfl (.cons (.inl rfl) rfl (.single trivial rfl))⟩

theorem sample_privacy : emitted (step sampleSetup) (sends sampleSetup) (Scene.opening [] 0) (told "one") =
    emitted (step sampleSetup) (sends sampleSetup) (Scene.opening [] 0) (told "two") := by
  obtain ⟨_,one⟩ := told_fair "one"
  obtain ⟨_,two⟩ := told_fair "two"
  have hidden (rules : String) (h : TranscriptHistory) :
      ¬ Lists h ⟨"item_1",.message,some .system,some rules,fun _ => Option.some_ne_none _⟩ := by
    rw [lists_exact]
    rintro ⟨_,role,_,speaker,shown,_⟩
    cases speaker
    rcases shown with user | assistant
    · cases user
    · cases assistant
  have matched : List.Forall₂ Matched (told "one") (told "two") :=
    .cons (.item (.inr ⟨hidden _,hidden _⟩)) (.cons (.same _) (.cons (.same _) .nil))
  exact ((visibility_exact sampleSetup).2 [] [] 0 _ _ _ _ .nil matched one two).1

end AidaAgent.History
