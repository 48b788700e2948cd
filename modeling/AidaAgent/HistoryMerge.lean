import AidaAgent.Library.Revisions
import AidaAgent.TranscriptHistory

namespace AidaAgent.History
open PythonText PythonDict Transcripts Transitions Revisions

-- What one row revises, and which revision it is.
abbrev Standing (rows : List Row) (row : Row) : Prop := Latest Row.segmentId Row.sequence rows row

def mergeRows (rows : List Row) : List (String × Row) := merge Row.segmentId Row.sequence rows

-- The identifiers in use: those of the items and those of the segments told.
def used (s : Scene) : List String := s.items.map (·.id) ++ s.emitted.map (·.segmentId)

-- A generated segment and the item passed to item() have identifiers of their own;
-- the item is a message, and the history changes in no other way.
def Lively (s : Scene) : Event → Prop
  | .caller text _ drawn => isBlank text = false → s.history.pending = none → callerSegment drawn ∉ used s
  | .item item => item.type = .message ∧ item.id ∉ used s
  | .edited _ | .close => False
  | .published | .request _ | .elapsed _ => True

-- The rows of the items present from the start, and the rows told since.
def opened (items : List ChatItem) : List Row := items.filterMap TranscriptHistory.initial.entry
def rows (opening : List ChatItem) (s : Scene) : List Row := opened opening ++ s.emitted

-- The entries of committed text.
def TranscriptHistory.entries (h : TranscriptHistory) (items : List ChatItem) : List Row := items.filterMap h.entry

theorem snapshot_parts (h : TranscriptHistory) (items : List ChatItem) :
    h.snapshot items = h.entries items ++ h.pending.toList := rfl

theorem entry_exact {h : TranscriptHistory} : h.entry item = some row ↔ ∃ role text,
    item.type = .message ∧ item.role = some role ∧ item.textContent = some text ∧ (role = .user ∨ role = .assistant) ∧
      text ≠ "" ∧ row = ⟨item.id,((h.committed.lookup item.id).getD (item.id,0)).1,role,[text],true,
        ((h.committed.lookup item.id).getD (item.id,0)).2⟩ := by
  unfold TranscriptHistory.entry
  split
  · rename_i role text message speaker content
    split
    · rename_i shown
      constructor
      · intro same
        exact ⟨role,text,message,speaker,content,shown.1,shown.2,(Option.some.inj same).symm⟩
      · rintro ⟨_,_,_,roles,texts,_,_,rfl⟩
        rw [speaker] at roles
        rw [content] at texts
        cases roles
        cases texts
        rfl
    · rename_i hidden
      constructor
      · intro impossible
        cases impossible
      · rintro ⟨_,_,_,roles,texts,who,written,_⟩
        rw [speaker] at roles
        rw [content] at texts
        cases roles
        cases texts
        exact absurd ⟨who,written⟩ hidden
  · rename_i other
    constructor
    · intro impossible
      cases impossible
    · rintro ⟨role,text,message,speaker,content,_⟩
      exact (other role text message speaker content).elim

-- An entry depends on what is committed for the item.
theorem entry_congr {h h' : TranscriptHistory} (same : h'.committed.lookup item.id = h.committed.lookup item.id) :
    h'.entry item = h.entry item := by
  apply Option.ext
  intro row
  rw [entry_exact,entry_exact,same]

theorem entries_congr {h h' : TranscriptHistory}
    (same : ∀ item ∈ items, h'.committed.lookup item.id = h.committed.lookup item.id) :
    h'.entries items = h.entries items :=
  List.filterMap_congr fun item member => entry_congr (same item member)

theorem entries_append (h : TranscriptHistory) (items : List ChatItem) (item : ChatItem) :
    h.entries (items ++ [item]) = h.entries items ++ (h.entry item).toList := by
  unfold TranscriptHistory.entries
  rw [List.filterMap_append]
  cases found : h.entry item <;> simp [found]

-- What each operation does.
theorem caller_silent {h : TranscriptHistory} (silent : h.closed = true ∨ isBlank text = true) :
    h.caller text final drawn = (h,none) := by
  unfold TranscriptHistory.caller
  rw [if_pos silent]

def TranscriptHistory.callerSegment (h : TranscriptHistory) (drawn : Uuid4) : String :=
  (h.pending.map Row.segmentId).getD (History.callerSegment drawn)

theorem caller_emits {h : TranscriptHistory} (open_ : h.closed = false) (spoken : isBlank text = false) :
    ∃ h' row, h.caller text final drawn = (h',some row) ∧ row.segmentId = h.callerSegment drawn ∧
      row.sequence = h.sequence + 1 ∧ row.isFinal = false ∧ h'.sequence = row.sequence ∧
      h'.committed = h.committed ∧ h'.pending = some row ∧ h'.closed = h.closed := by
  have audible : ¬ (h.closed = true ∨ isBlank text = true) := by simp [open_,spoken]
  unfold TranscriptHistory.caller TranscriptHistory.callerSegment TranscriptHistory.row
  rw [if_neg audible]
  dsimp only
  refine ⟨_,_,rfl,?_,rfl,rfl,?_⟩
  · cases h.pending <;> rfl
  · obtain ⟨queue,queued⟩ := enqueue_frame _ _
    rw [queued]
    cases final <;> exact ⟨rfl,rfl,rfl,rfl⟩

def TranscriptHistory.itemSegment (h : TranscriptHistory) (role : Role) (id : String) : String :=
  match role,h.pending with
  | .user,some pending => pending.segmentId
  | _,_ => id

theorem item_emits {h : TranscriptHistory} (open_ : h.closed = false) (speaker : item.role = some role)
    (shown : role = .user ∨ role = .assistant) (content : item.textContent = some text) (written : text ≠ "") :
    ∃ h' row, h.item item = .ok (h',some row) ∧
      row = ⟨item.id,h.itemSegment role item.id,role,[text],true,h.sequence + 1⟩ ∧ h'.sequence = row.sequence ∧
      h'.committed = put h.committed item.id (row.segmentId,row.sequence) ∧
      h'.pending = (if role = .user then none else h.pending) ∧ h'.closed = h.closed := by
  have listed : ¬ ((role ≠ .user ∧ role ≠ .assistant) ∨ lacksText (some text) = true) := by
    rintro (⟨notUser,notAssistant⟩ | lacking)
    · exact shown.elim notUser notAssistant
    · exact written (by simpa [lacksText] using lacking)
  unfold TranscriptHistory.item
  rw [if_neg (by simp [open_]),speaker,content]
  dsimp only
  rw [if_neg listed]
  refine ⟨_,_,rfl,rfl,?_⟩
  obtain ⟨queue,queued⟩ := enqueue_frame _ _
  rw [queued]
  cases role <;> exact ⟨rfl,rfl,rfl,rfl⟩

-- An item that snapshot() does not list is passed over.
theorem item_silent {h : TranscriptHistory} (message : item.type = .message) (hidden : h.entry item = none) :
    h.item item = .ok (h,none) := by
  unfold TranscriptHistory.item
  split
  · rfl
  · cases speaker : item.role with
    | none => exact absurd speaker (item.typed message)
    | some role =>
      dsimp only
      rw [if_pos]
      by_contra listed
      obtain ⟨who,written⟩ := not_or.mp listed
      cases content : item.textContent with
      | none => rw [content] at written; simp [lacksText] at written
      | some text =>
        rw [content] at written
        have shown : role = .user ∨ role = .assistant := by
          by_contra neither
          exact who (not_or.mp neither)
        have entry := (entry_exact (h := h)).mpr
          ⟨role,text,message,speaker,content,shown,by simpa [lacksText] using written,rfl⟩
        rw [hidden] at entry
        cases entry

-- A step that tells one row: in the snapshot it takes the place of what stood at its
-- segment, and committed entries stay.
structure Emits (s s' : Scene) (row : Row) : Prop where
  emitted : s'.emitted = s.emitted ++ [row]
  counted : row.sequence = s.history.sequence + 1
  sequence : s'.history.sequence = row.sequence
  closed : s'.history.closed = s.history.closed
  snapshot : s'.snapshot.Perm (row :: s.snapshot.filter (·.segmentId ≠ row.segmentId))
  kept : ∀ x ∈ s.history.entries s.items, x ∈ s'.history.entries s'.items
  final : row.isFinal = true → row ∈ s'.history.entries s'.items

-- A step that tells nothing.
structure Quiet (s s' : Scene) : Prop where
  emitted : s'.emitted = s.emitted
  sequence : s'.history.sequence = s.history.sequence
  closed : s'.history.closed = s.history.closed
  snapshot : s'.snapshot = s.snapshot
  entries : s'.history.entries s'.items = s.history.entries s.items

-- What the snapshot, the rows and the identifiers have to do with each other.
structure Told (opening : List ChatItem) (s : Scene) : Prop where
  running : s.history.closed = false
  keyed : (s.items.map (·.id)).Nodup
  numbered : ∀ row ∈ rows opening s, row.sequence ≤ s.history.sequence
  ranked : Ranked Row.segmentId Row.sequence (rows opening s)
  named : ∀ row ∈ rows opening s, row.segmentId ∈ used s
  listed : ∀ row, row ∈ s.snapshot ↔ Standing (rows opening s) row
  once : (s.snapshot.map Row.segmentId).Nodup
  settled : ∀ row ∈ rows opening s, row.isFinal = true → row ∈ s.history.entries s.items

theorem Told.fresh (told : Told opening s) (row : Row) (listed : row ∈ s.snapshot) : row.segmentId ∈ used s :=
  told.named row ((told.listed row).mp listed).1

theorem Told.quiet (told : Told opening s) (quiet : Quiet s s') (keyed : (s'.items.map (·.id)).Nodup)
    (grown : ∀ id ∈ s.items.map (·.id), id ∈ s'.items.map (·.id)) : Told opening s' := by
  have same : rows opening s' = rows opening s := by rw [rows,rows,quiet.emitted]
  refine ⟨quiet.closed.trans told.running,keyed,?_,same ▸ told.ranked,?_,?_,?_,?_⟩
  · rw [same,quiet.sequence]
    exact told.numbered
  · rw [same]
    intro row member
    rcases List.mem_append.mp (told.named row member) with item | segment
    · exact List.mem_append_left _ (grown _ item)
    · exact List.mem_append_right _ (quiet.emitted ▸ segment)
  · rw [same,quiet.snapshot]
    exact told.listed
  · rw [quiet.snapshot]
    exact told.once
  · rw [same,quiet.entries]
    exact told.settled

theorem Told.emits (told : Told opening s) (emits : Emits s s' row) (keyed : (s'.items.map (·.id)).Nodup)
    (grown : ∀ id ∈ s.items.map (·.id), id ∈ s'.items.map (·.id)) : Told opening s' := by
  have pushed : rows opening s' = rows opening s ++ [row] := by
    rw [rows,rows,emits.emitted,List.append_assoc]
  have newest : ∀ other ∈ rows opening s, other.sequence < row.sequence := by
    intro other member
    rw [emits.counted]
    exact Nat.lt_succ_of_le (told.numbered other member)
  refine ⟨emits.closed.trans told.running,keyed,?_,?_,?_,?_,?_,?_⟩
  · rw [pushed,emits.sequence]
    intro other member
    rcases List.mem_append.mp member with inside | single
    · exact (newest other inside).le
    · rw [List.mem_singleton.mp single]
  · rw [pushed]
    intro one first two second shared same
    rcases List.mem_append.mp first with inside | single <;> rcases List.mem_append.mp second with inside' | single'
    · exact told.ranked one inside two inside' shared same
    · rw [List.mem_singleton.mp single'] at same
      exact absurd same (newest one inside).ne
    · rw [List.mem_singleton.mp single] at same
      exact absurd same.symm (newest two inside').ne
    · rw [List.mem_singleton.mp single,List.mem_singleton.mp single']
  · rw [pushed]
    intro other member
    rcases List.mem_append.mp member with inside | single
    · rcases List.mem_append.mp (told.named other inside) with item | segment
      · exact List.mem_append_left _ (grown _ item)
      · refine List.mem_append_right _ ?_
        rw [emits.emitted,List.map_append]
        exact List.mem_append_left _ segment
    · refine List.mem_append_right _ ?_
      rw [List.mem_singleton.mp single,emits.emitted]
      simp
  · intro x
    rw [pushed,emits.snapshot.mem_iff,List.mem_cons,Standing,latest_push newest,List.mem_filter,told.listed]
    simp
  · rw [(emits.snapshot.map _).nodup_iff,List.map_cons,List.nodup_cons]
    refine ⟨?_,told.once.sublist (List.filter_sublist.map _)⟩
    intro member
    obtain ⟨other,kept,shared⟩ := List.mem_map.mp member
    have apart := (List.mem_filter.mp kept).2
    simp [shared] at apart
  · rw [pushed]
    intro other member finished
    rcases List.mem_append.mp member with inside | single
    · exact emits.kept other (told.settled other inside finished)
    · rw [List.mem_singleton.mp single] at finished ⊢
      exact emits.final finished

theorem filter_apart {listed : List Row} (apart : ∀ x ∈ listed, x.segmentId ≠ place) :
    listed.filter (·.segmentId ≠ place) = listed :=
  List.filter_eq_self.mpr fun x member => decide_eq_true (apart x member)

-- The pending row is the only one of its segment.
theorem Told.waiting (told : Told opening s) (waiting : s.history.pending = some before) :
    s.snapshot.filter (·.segmentId ≠ before.segmentId) = s.history.entries s.items := by
  have listed : s.snapshot = s.history.entries s.items ++ [before] := by
    rw [Scene.snapshot,snapshot_parts,waiting]
    rfl
  have once := told.once
  rw [listed,List.map_append] at once
  have apart : ∀ x ∈ s.history.entries s.items, x.segmentId ≠ before.segmentId := by
    intro x member
    exact (List.nodup_append.mp once).2.2 _ (List.mem_map_of_mem member) _ (by simp)
  rw [listed,List.filter_append,filter_apart apart]
  simp

theorem Told.idle (told : Told opening s) (fresh : place ∉ used s) :
    s.snapshot.filter (·.segmentId ≠ place) = s.snapshot :=
  filter_apart fun x member same => fresh (same ▸ told.fresh x member)

theorem caller_told (told : Told opening s) (lively : Lively s (.caller text final drawn)) :
    Told opening (s.emit (s.history.caller text final drawn)) := by
  by_cases spoken : isBlank text = true
  · rw [caller_silent (.inr spoken)]
    exact told.quiet ⟨by simp [Scene.emit],rfl,rfl,rfl,rfl⟩ told.keyed fun _ member => member
  · have audible : isBlank text = false := by simpa using spoken
    obtain ⟨h',row,called,segment,counted,partial_,sequence,committed,pending,closed⟩ :=
      @caller_emits text final drawn s.history told.running audible
    rw [called]
    have entries : h'.entries s.items = s.history.entries s.items :=
      entries_congr fun item _ => by rw [committed]
    have listed : s.snapshot.filter (·.segmentId ≠ row.segmentId) = s.history.entries s.items := by
      cases waiting : s.history.pending with
      | some before =>
        rw [segment,TranscriptHistory.callerSegment,waiting]
        exact told.waiting waiting
      | none =>
        have drawn_ : row.segmentId = callerSegment drawn := by
          rw [segment,TranscriptHistory.callerSegment,waiting]
          rfl
        rw [drawn_,told.idle (lively audible waiting),Scene.snapshot,snapshot_parts,waiting]
        simp
    have emits : Emits s (s.emit (h',some row)) row := by
      refine ⟨rfl,counted,sequence,closed,?_,?_,?_⟩
      · rw [listed,Scene.snapshot]
        unfold Scene.emit
        dsimp only
        rw [snapshot_parts,entries,pending]
        exact List.perm_append_singleton row _
      · unfold Scene.emit
        dsimp only
        rw [entries]
        exact fun x member => member
      · rw [partial_]
        intro impossible
        cases impossible
    exact told.emits emits told.keyed fun _ member => member

-- What is left of the snapshot once an item takes its place.
theorem Told.remaining {item : ChatItem} (told : Told opening s) (fresh : item.id ∉ used s) (shown : role = .user ∨ role = .assistant) :
    s.snapshot.filter (·.segmentId ≠ s.history.itemSegment role item.id) =
      s.history.entries s.items ++ (if role = .user then none else s.history.pending).toList := by
  rcases shown with rfl | rfl
  · cases waiting : s.history.pending with
    | some before =>
      have taken : s.history.itemSegment .user item.id = before.segmentId := by
        simp only [TranscriptHistory.itemSegment,waiting]
      rw [taken,told.waiting waiting]
      simp
    | none =>
      have own : s.history.itemSegment .user item.id = item.id := by
        simp only [TranscriptHistory.itemSegment,waiting]
      rw [own,told.idle fresh,Scene.snapshot,snapshot_parts,waiting]
      simp
  · have own : s.history.itemSegment .assistant item.id = item.id := rfl
    rw [own,told.idle fresh]
    rfl

theorem entries_older {s : Scene} {item : ChatItem} (fresh : item.id ∉ used s) {h' : TranscriptHistory}
    (committed : h'.committed = put s.history.committed item.id place) :
    h'.entries s.items = s.history.entries s.items := by
  refine entries_congr fun other member => ?_
  have apart : other.id ≠ item.id := by
    intro same
    exact fresh (List.mem_append_left _ (same ▸ List.mem_map_of_mem member))
  rw [committed,lookup_put,if_neg apart]

theorem item_told (told : Told opening s) (lively : Lively s (.item item)) (moved : step setup s (.item item) = some s') :
    Told opening s' := by
  obtain ⟨message,fresh⟩ := lively
  have keyed : ((s.items ++ [item]).map (·.id)).Nodup := by
    rw [List.map_append,List.map_singleton]
    refine List.nodup_append.mpr ⟨told.keyed,by simp,fun id known last single => ?_⟩
    rw [List.mem_singleton.mp single]
    rintro rfl
    exact fresh (List.mem_append_left _ known)
  have grown : ∀ id ∈ s.items.map (·.id), id ∈ (s.items ++ [item]).map (·.id) := by
    intro id known
    rw [List.map_append]
    exact List.mem_append_left _ known
  unfold step at moved
  dsimp only at moved
  cases listed : s.history.entry item with
  | none =>
    rw [item_silent message listed] at moved
    cases Option.some.inj moved
    have same : s.history.entries (s.items ++ [item]) = s.history.entries s.items := by
      rw [entries_append,listed]
      simp
    refine told.quiet ⟨by simp [Scene.emit],rfl,rfl,?_,same⟩ keyed grown
    unfold Scene.emit Scene.snapshot
    dsimp only
    rw [snapshot_parts,snapshot_parts,same]
  | some entry =>
    obtain ⟨role,text,_,speaker,content,shown,written,_⟩ := entry_exact.mp listed
    obtain ⟨h',row,passed,told_,sequence,committed,pending,closed⟩ := item_emits told.running speaker shown content written
    rw [passed] at moved
    cases Option.some.inj moved
    have own : h'.entry item = some row := by
      refine entry_exact.mpr ⟨role,text,message,speaker,content,shown,written,?_⟩
      rw [committed,lookup_put,if_pos rfl,told_]
      rfl
    have entries : h'.entries (s.items ++ [item]) = s.history.entries s.items ++ [row] := by
      rw [entries_append,entries_older fresh committed,own]
      rfl
    have place : row.segmentId = s.history.itemSegment role item.id := by rw [told_]
    have emits : Emits s (Scene.emit {s with items := s.items ++ [item]} (h',some row)) row := by
      refine ⟨rfl,by rw [told_],sequence,closed,?_,?_,?_⟩
      · rw [place,told.remaining fresh shown,← pending]
        unfold Scene.emit Scene.snapshot
        dsimp only
        rw [snapshot_parts,entries,List.append_assoc]
        exact List.perm_middle
      · intro x member
        exact entries ▸ List.mem_append_left _ member
      · intro _
        exact entries ▸ List.mem_append_right _ List.mem_cons_self
    exact told.emits emits keyed grown

theorem told_step (told : Told opening s) (lively : Lively s event) (moved : step setup s event = some s') :
    Told opening s' := by
  cases step_cases moved with
  | caller => exact caller_told told lively
  | told | raised => exact item_told told lively moved
  | edited => exact lively.elim
  | close => exact lively.elim
  | published | elapsed => exact told.quiet ⟨rfl,rfl,rfl,rfl,rfl⟩ told.keyed fun _ member => member
  | request =>
    rename_i r
    obtain ⟨snapshots,asked⟩ := getTranscript_frame s.history setup s.items s.clock r
    unfold Scene.ask
    dsimp only
    rw [asked]
    exact told.quiet ⟨rfl,rfl,rfl,rfl,rfl⟩ told.keyed fun _ member => member

theorem filterMap_keys {f : α → Option β} {g : β → γ} {k : α → γ} (keys : ∀ x y, f x = some y → g y = k x)
    (l : List α) : List.Sublist ((l.filterMap f).map g) (l.map k) := by
  induction l with
  | nil => exact .slnil
  | cons x rest ih =>
    rw [List.filterMap_cons,List.map_cons]
    cases found : f x with
    | none => exact ih.cons (k x)
    | some y =>
      dsimp only
      rw [List.map_cons,keys x y found]
      exact ih.cons_cons (k x)

-- What is there from the start is listed at its own identifier, unnumbered.
theorem opened_own (opening : List ChatItem) : ∀ row ∈ opened opening,
    row.sequence = 0 ∧ row.segmentId = row.id ∧ row.id ∈ opening.map (·.id) := by
  intro row member
  obtain ⟨item,known,listed⟩ := List.mem_filterMap.mp member
  obtain ⟨_,_,_,_,_,_,_,rfl⟩ := entry_exact.mp listed
  exact ⟨rfl,rfl,List.mem_map_of_mem known⟩

theorem told_opening (distinct : (opening.map (·.id)).Nodup) (clock : ℚ) :
    Told opening (Scene.opening opening clock) := by
  have own := opened_own opening
  have once : ((opened opening).map Row.segmentId).Nodup := by
    refine distinct.sublist (filterMap_keys (fun item row listed => ?_) opening)
    obtain ⟨_,_,_,_,_,_,_,rfl⟩ := entry_exact.mp listed
    rfl
  have all : rows opening (Scene.opening opening clock) = opened opening := List.append_nil _
  have listed : (Scene.opening opening clock).snapshot = opened opening := List.append_nil _
  have ranked : Ranked Row.segmentId Row.sequence (opened opening) :=
    fun one first two second shared _ => List.inj_on_of_nodup_map once first second shared
  refine ⟨rfl,distinct,?_,?_,?_,?_,?_,?_⟩
  · rw [all]
    intro row member
    exact (own row member).1.le
  · rw [all]
    exact ranked
  · rw [all]
    intro row member
    obtain ⟨_,same,known⟩ := own row member
    exact List.mem_append_left _ (same ▸ known)
  · intro row
    rw [all,listed]
    refine ⟨fun member => ⟨member,fun other known _ => ?_⟩,fun standing => standing.1⟩
    rw [(own other known).1]
    exact Nat.zero_le _
  · rw [listed]
    exact once
  · rw [all]
    exact fun row member _ => member

theorem told_run (distinct : (opening.map (·.id)).Nodup)
    (path : Runs (step setup) Lively (Scene.opening opening clock) events s) : Told opening s :=
  path.invariant (fun _ _ _ told lively moved => told_step told lively moved) (told_opening distinct clock)

-- Rows once told stay told, in their order.
theorem emitted_grows (moved : step setup s event = some s') : s.emitted <+: s'.emitted := by
  cases step_cases moved with
  | caller | told => exact List.prefix_append _ _
  | raised | edited | published | request | elapsed | close => exact List.prefix_rfl

theorem told_later (path : Runs (step setup) allowed s events s') : s.emitted <+: s'.emitted := by
  induction path with
  | nil => exact List.prefix_rfl
  | step _ _ moved ih => exact ih.trans (emitted_grows moved)

theorem Told.ranked_within (told : Told opening s) (within : ∀ row ∈ given, row ∈ rows opening s) :
    Ranked Row.segmentId Row.sequence given :=
  fun one first two second shared same => told.ranked one (within one first) two (within two second) shared same

-- A committed row is the last of its segment, whatever else arrives.
theorem Told.final_stands (told : Told opening s) (within : ∀ row ∈ given, row ∈ rows opening s)
    (member : row ∈ given) (finished : row.isFinal = true) : (mergeRows given).lookup row.segmentId = some row := by
  have listed : row ∈ s.snapshot := by
    rw [Scene.snapshot,snapshot_parts]
    exact List.mem_append_left _ (told.settled row (within row member) finished)
  have standing := (told.listed row).mp listed
  exact (merge_exact (told.ranked_within within)).mpr
    ⟨rfl,member,fun other known shared => standing.2 other (within other known) shared⟩

-- Catching up from a snapshot, with every row told since and any of those before,
-- gives the snapshot of the later moment.
theorem history_converges (distinct : (opening.map (·.id)).Nodup)
    (before : Runs (step setup) Lively (Scene.opening opening clock) earlier s)
    (after : Runs (step setup) Lively s later s') :
    ∃ newer, s'.emitted = s.emitted ++ newer ∧
      (∀ received given : List Row, (∀ row ∈ newer, row ∈ received) → (∀ row ∈ received, row ∈ s'.emitted) →
        (∀ row, row ∈ given ↔ row ∈ s.snapshot ∨ row ∈ received) →
        ∀ place row, (mergeRows given).lookup place = some row ↔ row ∈ s'.snapshot ∧ row.segmentId = place) ∧
      (∀ given : List Row, (∀ row ∈ given, row ∈ s.snapshot ∨ row ∈ s'.emitted) →
        ∀ row ∈ given, row.isFinal = true → (mergeRows given).lookup row.segmentId = some row) ∧
      (s'.snapshot.map Row.segmentId).Nodup := by
  have earlier_ := told_run distinct before
  have later_ := told_run distinct (before.append after)
  obtain ⟨newer,grown⟩ := told_later after
  have all : rows opening s' = rows opening s ++ newer := by
    rw [rows,rows,← grown,List.append_assoc]
  have listed : ∀ row ∈ s.snapshot, row ∈ rows opening s' := by
    intro row member
    rw [all]
    exact List.mem_append_left _ ((earlier_.listed row).mp member).1
  have told : ∀ row ∈ s'.emitted, row ∈ rows opening s' := fun row member => List.mem_append_right _ member
  refine ⟨newer,grown.symm,?_,?_,later_.once⟩
  · intro received given covered known members place row
    have within : ∀ other ∈ given, other ∈ rows opening s' := by
      intro other member
      exact ((members other).mp member).elim (listed other) fun inside => told other (known other inside)
    have same : Standing given row ↔ Standing (rows opening s') row := by
      rw [all]
      exact catch_up earlier_.listed covered (fun other inside => all ▸ told other (known other inside)) members
    rw [mergeRows,merge_exact (later_.ranked_within within),later_.listed,← same,and_comm]
  · intro given members row member finished
    exact later_.final_stands (fun other inside => (members other inside).elim (listed other) (told other)) member finished

-- A caller turn under a greeting: partial, final, committed.
def greeting : ChatItem := ⟨"item_1",.message,some .assistant,some "Office",by simp⟩
def answer : ChatItem := ⟨"item_2",.message,some .user,some "Hello there",by simp⟩

def overheard : Scene := (Scene.opening [greeting] 0).emit (TranscriptHistory.initial.caller "Hello" false (sampleUuid 1))
def recognized : Scene := overheard.emit (overheard.history.caller "Hello there" true (sampleUuid 2))

def sampleSetup : Setup := ⟨JsonText.verbatim,"call","aida-call"⟩

theorem sample_catch_up : ∃ s' newer, Runs (step sampleSetup) Lively overheard
    [.caller "Hello there" true (sampleUuid 2),.item answer] s' ∧ s'.emitted = overheard.emitted ++ newer ∧
      newer.length = 2 ∧ s'.snapshot.length = 2 ∧
        ∀ place row, (mergeRows (overheard.snapshot ++ newer)).lookup place = some row ↔
          row ∈ s'.snapshot ∧ row.segmentId = place := by
  have heard : Runs (step sampleSetup) Lively (Scene.opening [greeting] 0) [.caller "Hello" false (sampleUuid 1)] overheard :=
    .single (fun _ _ => by decide) rfl
  have spoken : Runs (step sampleSetup) Lively overheard [.caller "Hello there" true (sampleUuid 2)] recognized :=
    .single (fun _ waiting => by cases waiting) rfl
  have committed : Runs (step sampleSetup) Lively recognized [.item answer] _ :=
    .single ⟨rfl,by decide⟩ rfl
  obtain ⟨newer,grown,converges,_⟩ := history_converges (by decide) heard (spoken.append committed)
  refine ⟨_,newer,spoken.append committed,grown,?_,rfl,?_⟩
  · have sizes := congrArg List.length grown
    rw [List.length_append] at sizes
    have told : overheard.emitted.length = 1 := rfl
    exact Nat.add_left_cancel (sizes.symm.trans (by rw [told]; rfl))
  · refine converges newer _ (fun row member => member) (fun row member => ?_) fun row => List.mem_append
    rw [grown]
    exact List.mem_append_right _ member

end AidaAgent.History
