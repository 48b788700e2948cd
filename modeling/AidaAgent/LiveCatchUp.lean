import AidaAgent.LiveDelivery

namespace AidaAgent.Live
open JsonText PythonText PythonDict Transcripts Transitions Revisions History

-- The rows whose stream has reached the observers, and the streams.
def Broadcast.arrived (b : Broadcast) : List Row := (b.attempts.filter (·.2)).map (·.1)
def Broadcast.heard (b : Broadcast) (callId : String) : List TextStream := b.arrived.map (textStream callId)

-- What an observer keeps of each segment: the revision with the greatest sequence.
def mergeRevisions (given : List Revision) : List (String × Revision) := merge Revision.segmentId Revision.sequence given

-- What an observer has: the items of a snapshot, and what it reads off the streams.
def Has (callId : String) (snapshot : List Row) (received : List TextStream) (given : List Revision) : Prop :=
  ∀ r, r ∈ given ↔ (∃ row ∈ snapshot, r = revision row) ∨ ∃ stream ∈ received, readStream callId stream = some r

-- The sender takes rows as the history publishes them.
theorem take_published (b : Broadcast) (open_ : b.closed = false) :
    ∃ events, Runs (History.step setup) History.Lively b.scene events b.take.scene := by
  unfold Broadcast.take
  split
  · exact ⟨[],.nil⟩
  · rename_i row queue waiting
    refine ⟨[.published],.single trivial ?_⟩
    have running : b.scene.history.closed ≠ true := by
      rw [show b.scene.history.closed = false from open_]
      decide
    simp only [History.step,waiting,if_neg running]

theorem run_published (b : Broadcast) (open_ : b.closed = false) :
    ∃ events, Runs (History.step setup) History.Lively b.scene events b.run.scene := by
  unfold Broadcast.run
  split
  · exact ⟨[],.nil⟩
  · exact take_published b open_

theorem step_published (open_ : b.closed = false) (lively : Lively b event) (next : step setup b event = some b') :
    ∃ events, Runs (History.step setup) History.Lively b.scene events b'.scene := by
  cases step_cases next with
  | history _ moved => exact ⟨_,.single lively moved⟩
  | runs => exact run_published b open_
  | takes => exact take_published b open_
  | settle =>
    rename_i row outcome arrived _ _
    exact run_published (b.attempt row arrived) open_
  | start | cut | cancelled => exact ⟨[],.nil⟩
  | close => exact lively.elim

theorem step_open (open_ : b.closed = false) (lively : Lively b event) (next : step setup b event = some b') :
    b'.closed = false := by
  cases step_cases next with
  | history tells => exact tells.closed.trans open_
  | runs => exact (run_takes b).closed.trans open_
  | takes => exact (take_takes b).closed.trans open_
  | settle => exact (run_takes _).closed.trans open_
  | start | cut | cancelled => exact open_
  | close => exact lively.elim

-- A run with the sender is a run of the history.
theorem run_published_all (path : Runs (step setup) Lively b events b') (open_ : b.closed = false) :
    ∃ events', Runs (History.step setup) History.Lively b.scene events' b'.scene :=
  Runs.simulated (·.closed = false) Broadcast.scene path open_
    (fun _ _ _ open_ lively next => step_open open_ lively next) fun _ _ _ open_ lively next => step_published open_ lively next

theorem take_attempts (b : Broadcast) : b.take.attempts = b.attempts := by
  unfold Broadcast.take
  split <;> rfl

theorem run_attempts (b : Broadcast) : b.run.attempts = b.attempts := by
  unfold Broadcast.run
  split
  · rfl
  · exact take_attempts b

theorem step_attempts (next : step setup b event = some b') : b.attempts <+: b'.attempts := by
  cases step_cases next with
  | runs => rw [run_attempts]
  | takes => rw [take_attempts]
  | settle =>
    rw [run_attempts]
    exact List.prefix_append _ _
  | cut => exact List.prefix_append _ _
  | history | start | cancelled | close => exact List.prefix_rfl

theorem run_attempts_grow (path : Runs (step setup) allowed b events b') : b.attempts <+: b'.attempts := by
  induction path with
  | nil => exact List.prefix_rfl
  | step _ _ next ih => exact ih.trans (step_attempts next)

theorem arrived_later (path : Runs (step setup) allowed b events b') : ∃ since, b'.arrived = b.arrived ++ since ∧
    ∀ attempt ∈ b'.attempts.drop b.attempts.length, attempt.2 = true → attempt.1 ∈ since := by
  obtain ⟨more,grown⟩ := run_attempts_grow path
  refine ⟨(more.filter (·.2)).map (·.1),?_,?_⟩
  · unfold Broadcast.arrived
    rw [← grown,List.filter_append,List.map_append]
  · intro attempt later arrived
    rw [← grown,List.drop_left] at later
    exact List.mem_map_of_mem (List.mem_filter.mpr ⟨later,arrived⟩)

theorem Accounted.arrived (accounted : Accounted b) : ∀ row ∈ b.arrived, row ∈ b.scene.emitted := by
  intro row member
  obtain ⟨attempt,kept,rfl⟩ := List.mem_map.mp member
  have tried : attempt.1 ∈ b.tried := List.mem_map_of_mem (List.mem_filter.mp kept).1
  exact accounted.order.subset (List.mem_append_left _ (List.mem_append_left _ tried))

-- Nothing told since has been lost, and nothing is on its way.
structure Settled (b b' : Broadcast) : Prop where
  dropped : b'.dropped = b.dropped
  arrived : ∀ attempt ∈ b'.attempts.drop b.attempts.length, attempt.2 = true
  queue : b'.queue = []
  idle : ∀ row, b'.sender ≠ .publishing row

-- What an observer with a snapshot of one moment makes of the streams by a later one.
structure CatchesUp (setup : Setup) (b b' : Broadcast) (since : List Row) (received : List TextStream)
    (given : List Revision) : Prop where
  shows : ∀ row ∈ b'.scene.snapshot, (mergeRevisions given).lookup row.segmentId = some (revision row) ↔
    row ∈ b.scene.snapshot ∨ textStream setup.callId row ∈ received
  behind : ∀ place r, (mergeRevisions given).lookup place = some r → ∃ row ∈ b'.scene.snapshot, row.segmentId = place ∧
    r.segmentId = place ∧ r.sequence ≤ row.sequence ∧ (r.isFinal = true → r = revision row)
  finals : ∀ r ∈ given, r.isFinal = true → (mergeRevisions given).lookup r.segmentId = some r
  whole : Settled b b' → (∀ row ∈ since, textStream setup.callId row ∈ received) → ∀ place r,
    (mergeRevisions given).lookup place = some r ↔ ∃ row ∈ b'.scene.snapshot, row.segmentId = place ∧ r = revision row

section Merging
variable {opening : List ChatItem} {b b' : Broadcast} {given : List Revision} {source : Row → Prop}

-- Each revision given is that of a row told so far.
theorem given_ranked (told : Told opening b'.scene)
    (rows_ : ∀ r ∈ given, ∃ row ∈ rows opening b'.scene, r = revision row ∧ source row) :
    Ranked Revision.segmentId Revision.sequence given := by
  intro one first two second shared same
  obtain ⟨row,member,rfl,_⟩ := rows_ one first
  obtain ⟨row',member',rfl,_⟩ := rows_ two second
  rw [told.ranked row member row' member' shared same]

theorem given_standing (told : Told opening b'.scene)
    (rows_ : ∀ r ∈ given, ∃ row ∈ rows opening b'.scene, r = revision row ∧ source row) (listed : row ∈ b'.scene.snapshot) :
    (mergeRevisions given).lookup row.segmentId = some (revision row) ↔ revision row ∈ given := by
  have standing := (told.listed row).mp listed
  unfold mergeRevisions
  rw [merge_exact (given_ranked told rows_)]
  refine ⟨fun latest => latest.2.1,fun member => ⟨rfl,member,fun other known shared => ?_⟩⟩
  obtain ⟨row',member',rfl,_⟩ := rows_ other known
  exact standing.2 row' member' shared

theorem given_behind (told : Told opening b'.scene)
    (rows_ : ∀ r ∈ given, ∃ row ∈ rows opening b'.scene, r = revision row ∧ source row)
    (shown : (mergeRevisions given).lookup place = some r) : ∃ row ∈ b'.scene.snapshot, row.segmentId = place ∧
      r.segmentId = place ∧ r.sequence ≤ row.sequence ∧ (r.isFinal = true → r = revision row) := by
  obtain ⟨named,member,_⟩ := merge_found shown
  obtain ⟨row,known,rfl,_⟩ := rows_ r member
  obtain ⟨top,shared,latest,above⟩ : ∃ top, top.segmentId = row.segmentId ∧
    Standing (rows opening b'.scene) top ∧ row.sequence ≤ top.sequence := latest_above known
  refine ⟨top,(told.listed top).mpr latest,shared.trans named,named,above,fun final => ?_⟩
  have entry : row ∈ b'.scene.snapshot := List.mem_append_left _ (told.settled row known final)
  rw [latest_unique told.ranked ((told.listed row).mp entry) latest shared.symm]

end Merging

-- A row told since that was neither lost nor is on its way has arrived since.
theorem settled_arrived (before : Accounted b) (accounted : Accounted b') (settled : Settled b b')
    (attempts : b.attempts <+: b'.attempts) (grown : b'.scene.emitted = b.scene.emitted ++ newer) (member : row ∈ newer) :
    ∃ attempt ∈ b'.attempts.drop b.attempts.length, attempt.1 = row := by
  have fresh : row ∉ b.scene.emitted := by
    intro old
    have distinct : (b'.scene.emitted.map (·.sequence)).Nodup := by
      rw [accounted.numbered]
      exact List.nodup_range'
    rw [grown,List.map_append] at distinct
    exact (List.nodup_append.mp distinct).2.2 _ (List.mem_map_of_mem old) _ (List.mem_map_of_mem member) rfl
  have told : row ∈ b'.scene.emitted := grown ▸ List.mem_append_right _ member
  rcases List.mem_append.mp (accounted.whole.mem_iff.mpr told) with kept | lost
  · unfold Broadcast.kept at kept
    rw [settled.queue,inFlight_idle settled.idle,List.append_nil,List.append_nil] at kept
    obtain ⟨attempt,tried,rfl⟩ := List.mem_map.mp kept
    refine ⟨attempt,?_,rfl⟩
    rw [← List.take_append_drop b.attempts.length b'.attempts,← List.prefix_iff_eq_take.mp attempts] at tried
    rcases List.mem_append.mp tried with old | later
    · have known : attempt.1 ∈ b.kept := List.mem_append_left _ (List.mem_append_left _ (List.mem_map_of_mem old))
      exact absurd (before.order.subset known) fresh
    · exact later
  · rw [settled.dropped] at lost
    exact absurd (before.whole.subset (List.mem_append_right _ lost)) fresh

-- An observer that catches up with a snapshot shows a segment as it stands exactly when
-- the segment's last revision is in the snapshot or reached it; where nothing was lost
-- that is the whole snapshot of the later moment, and a final is never given up.
theorem live_converges (distinct : (opening.map (·.id)).Nodup)
    (before : Runs (step setup) Lively (.opening opening clock) earlier b) (after : Runs (step setup) Lively b later b') :
    ∃ since, b'.arrived = b.arrived ++ since ∧ ∀ received given, (∀ stream ∈ received, stream ∈ b'.heard setup.callId) →
      Has setup.callId b.scene.snapshot received given → CatchesUp setup b b' since received given := by
  have start : (Broadcast.opening opening clock).closed = false := rfl
  have open_ : b.closed = false := before.invariant (fun _ _ _ open_ lively next => step_open open_ lively next) start
  obtain ⟨_,history⟩ := run_published_all before start
  obtain ⟨_,more⟩ := run_published_all after open_
  have told := told_run distinct history
  have told' := told_run distinct (history.append more)
  obtain ⟨newer,grown⟩ := told_later more
  have accounted := run_accounted before
  have accounted' := run_accounted (before.append after)
  obtain ⟨since,arrived,tries⟩ := arrived_later after
  have all : rows opening b'.scene = rows opening b.scene ++ newer := by
    rw [rows,rows,← grown,List.append_assoc]
  refine ⟨since,arrived,fun received given heard has => ?_⟩
  have rows_ : ∀ r ∈ given, ∃ row ∈ rows opening b'.scene, r = revision row ∧
      (row ∈ b.scene.snapshot ∨ textStream setup.callId row ∈ received) := by
    intro r member
    rcases (has r).mp member with ⟨row,listed,rfl⟩ | ⟨stream,known,read⟩
    · refine ⟨row,?_,rfl,.inl listed⟩
      rw [all]
      exact List.mem_append_left _ ((told.listed row).mp listed).1
    · obtain ⟨row,came,rfl⟩ := List.mem_map.mp (heard stream known)
      obtain ⟨_,rfl⟩ := read_exact.mp read
      exact ⟨row,List.mem_append_right _ (accounted'.arrived row came),rfl,.inr known⟩
  have shows : ∀ row ∈ b'.scene.snapshot, (mergeRevisions given).lookup row.segmentId = some (revision row) ↔
      row ∈ b.scene.snapshot ∨ textStream setup.callId row ∈ received := by
    intro row listed
    rw [given_standing told' rows_ listed]
    constructor
    · intro member
      obtain ⟨other,known,same,source⟩ := rows_ _ member
      have shared : row.segmentId = other.segmentId := congrArg Revision.segmentId same
      have rank : row.sequence = other.sequence := congrArg Revision.sequence same
      rwa [told'.ranked row ((told'.listed row).mp listed).1 other known shared rank]
    · rintro (old | came)
      · exact (has _).mpr (.inl ⟨row,old,rfl⟩)
      · exact (has _).mpr (.inr ⟨_,came,read_exact.mpr ⟨rfl,rfl⟩⟩)
  refine ⟨shows,fun place r shown => given_behind told' rows_ shown,?_,?_⟩
  · intro r member final
    obtain ⟨row,known,rfl,_⟩ := rows_ r member
    have listed : row ∈ b'.scene.snapshot := List.mem_append_left _ (told'.settled row known final)
    exact (given_standing told' rows_ listed).mpr member
  · intro settled covered place r
    have present : ∀ row ∈ b'.scene.snapshot, row ∈ b.scene.snapshot ∨ textStream setup.callId row ∈ received := by
      intro row listed
      have standing := (told'.listed row).mp listed
      have member := standing.1
      rw [all] at member
      rcases List.mem_append.mp member with old | later
      · refine .inl ((told.listed row).mpr ⟨old,fun other known shared => ?_⟩)
        exact standing.2 other (by rw [all]; exact List.mem_append_left _ known) shared
      · obtain ⟨attempt,made,rfl⟩ := settled_arrived accounted accounted' settled (run_attempts_grow after) grown.symm later
        exact .inr (covered _ (tries attempt made (settled.arrived attempt made)))
    constructor
    · intro shown
      obtain ⟨row,listed,named,_⟩ := given_behind told' rows_ shown
      have stands := (shows row listed).mpr (present row listed)
      rw [named,shown] at stands
      exact ⟨row,listed,named,Option.some.inj stands⟩
    · rintro ⟨row,listed,rfl,rfl⟩
      exact (shows row listed).mpr (present row listed)

theorem sample_catchUp : ∃ given, (mergeRevisions given).lookup secondRow.segmentId = some (revision secondRow) := by
  obtain ⟨since,_,catches⟩ := live_converges (show (([] : List ChatItem).map (·.id)).Nodup from List.nodup_nil) sample_joins sample_ends
  have has : Has sampleRoom.callId sampleJoined.scene.snapshot [textStream sampleRoom.callId secondRow]
      [revision firstRow,revision secondRow] := by
    intro r
    have listed : sampleJoined.scene.snapshot = [firstRow] := rfl
    rw [listed]
    simp [read_exact]
  have heard : ∀ stream ∈ [textStream sampleRoom.callId secondRow], stream ∈ sampleEnded.heard sampleRoom.callId :=
    fun _ member => member
  exact ⟨_,((catches _ _ heard has).shows secondRow (List.mem_singleton_self _)).mpr (.inr (List.mem_singleton_self _))⟩

end AidaAgent.Live
