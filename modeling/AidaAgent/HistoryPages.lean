import AidaAgent.TranscriptHistory

namespace AidaAgent.History
open JsonText PythonDict Transcripts Transitions

-- The page of a snapshot at an offset.
def pageOf (frozen : Frozen) (offset : Nat) : Page :=
  let stop := min (offset + pageChars) frozen.text.length
  ⟨frozen.token,slice frozen.text offset stop,if stop < frozen.text.length then some stop else none⟩

def unexpired (now : ℚ) (snapshots : List (String × Frozen)) : List (String × Frozen) :=
  snapshots.filter fun e => now - e.2.started < 60

-- The snapshot a first request makes.
def frozenNow (setup : Setup) (h : TranscriptHistory) (items : List ChatItem) (now : ℚ) (r : Request) : Frozen :=
  ⟨now,r.token,snapshotText setup (h.snapshot items)⟩

-- What is stored once that page is out.
def afterPage (snapshots : List (String × Frozen)) (identity : String) (frozen : Frozen) (offset : Nat) :
    List (String × Frozen) :=
  if frozen.text.length ≤ offset + pageChars then erase snapshots identity else snapshots

theorem page_refused {h : TranscriptHistory} (refused : (h.page identity offset request).2 = .error e) :
    (h.page identity offset request).1 = h := by
  unfold TranscriptHistory.page at refused ⊢
  split at refused
  · rfl
  · split at refused
    · rename_i beyond
      rw [if_pos beyond]
    · cases refused

theorem page_served {h : TranscriptHistory} (held : h.snapshots.lookup identity = some frozen)
    (inside : offset < frozen.text.length) (named : offset ≠ 0 → names request frozen.token = true) :
    h.page identity offset request =
      ({h with snapshots := afterPage h.snapshots identity frozen offset},.ok (pageOf frozen offset)) := by
  have granted : ¬ (frozen.text.length ≤ offset ∨ (offset ≠ 0 ∧ names request frozen.token = false)) := by
    rintro (beyond | ⟨later,unnamed⟩)
    · omega
    · rw [named later] at unnamed
      cases unnamed
  have last : min (offset + pageChars) frozen.text.length = frozen.text.length ↔
      frozen.text.length ≤ offset + pageChars := min_eq_right_iff
  unfold TranscriptHistory.page afterPage
  rw [held]
  dsimp only
  rw [if_neg granted]
  simp only [last]
  split <;> rfl

theorem page_exact {h : TranscriptHistory} (served : (h.page identity offset request).2 = .ok page) :
    ∃ frozen, h.snapshots.lookup identity = some frozen ∧ offset < frozen.text.length ∧
      (offset ≠ 0 → names request frozen.token = true) ∧ page = pageOf frozen offset ∧
      (h.page identity offset request).1 = {h with snapshots := afterPage h.snapshots identity frozen offset} := by
  cases held : h.snapshots.lookup identity with
  | none =>
    unfold TranscriptHistory.page at served
    rw [held] at served
    cases served
  | some frozen =>
    by_cases granted : offset < frozen.text.length ∧ (offset ≠ 0 → names request frozen.token = true)
    · have whole : h.page identity offset request = _ := page_served held granted.1 granted.2
      rw [whole] at served ⊢
      cases served
      exact ⟨frozen,rfl,granted.1,granted.2,rfl,rfl⟩
    · unfold TranscriptHistory.page at served
      rw [held] at served
      dsimp only at served
      rw [if_pos] at served
      · cases served
      · by_contra refused
        obtain ⟨inside,named⟩ := not_or.mp refused
        refine granted ⟨by omega,fun later => ?_⟩
        by_contra unnamed
        exact named ⟨later,by simpa using unnamed⟩

-- What a request does: it is refused, and leaves what is unexpired as it is, or it is
-- served from a snapshot made for it or found unexpired.
structure Serves (setup : Setup) (h : TranscriptHistory) (items : List ChatItem) (now : ℚ) (r : Request)
    (offset : Nat) (frozen : Frozen) (found : List (String × Frozen)) : Prop where
  authorized : h.authorized setup r = true
  held : found.lookup r.callerIdentity = some frozen
  inside : offset < frozen.text.length
  reads : ∃ request, readRequest setup.py r.payload = .ok (offset,request) ∧
    (offset ≠ 0 → names request frozen.token = true)
  first : offset = 0 → frozen = frozenNow setup h items now r ∧
    found = put (unexpired now h.snapshots) r.callerIdentity frozen ∧ frozen.text.length ≤ maxSnapshotChars ∧
    ((unexpired now h.snapshots).length < maxTransfers ∨ r.callerIdentity ∈ keys (unexpired now h.snapshots))
  later : offset ≠ 0 → found = unexpired now h.snapshots

theorem snapshotText_nonempty (setup : Setup) (rows : List Row) : 0 < (snapshotText setup rows).length := by
  unfold snapshotText dumps
  rw [String.length_ofList]
  exact write_length _

theorem freeze_exact {h : TranscriptHistory} : h.freeze setup items now r = .ok after ↔
    (snapshotText setup (h.snapshot items)).length ≤ maxSnapshotChars ∧
      (h.snapshots.length < maxTransfers ∨ r.callerIdentity ∈ keys h.snapshots) ∧
      after = {h with snapshots := put h.snapshots r.callerIdentity (frozenNow setup h items now r)} := by
  unfold TranscriptHistory.freeze
  dsimp only
  split
  · rename_i long
    constructor
    · intro impossible
      cases impossible
    · rintro ⟨fits,_⟩
      omega
  · rename_i fits
    split
    · rename_i busy
      constructor
      · intro impossible
        cases impossible
      · rintro ⟨_,room | known,_⟩
        · omega
        · exact absurd known busy.2
    · rename_i room
      have place : h.snapshots.length < maxTransfers ∨ r.callerIdentity ∈ keys h.snapshots := by
        by_contra neither
        obtain ⟨full,unknown⟩ := not_or.mp neither
        exact room ⟨not_lt.mp full,unknown⟩
      constructor
      · intro made
        cases made
        exact ⟨not_lt.mp fits,place,rfl⟩
      · rintro ⟨_,_,rfl⟩
        rfl

-- The snapshot made for a first page always has that page.
theorem freeze_served {h : TranscriptHistory} (made : h.freeze setup items now r = .ok after)
    (request : List (String × Json)) : ∃ page, (after.page r.callerIdentity 0 request).2 = .ok page := by
  obtain ⟨_,_,rfl⟩ := freeze_exact.mp made
  have held : (put h.snapshots r.callerIdentity (frozenNow setup h items now r)).lookup r.callerIdentity =
      some (frozenNow setup h items now r) := by
    rw [lookup_put,if_pos rfl]
  have inside : 0 < (frozenNow setup h items now r).text.length := snapshotText_nonempty setup _
  refine ⟨pageOf (frozenNow setup h items now r) 0,?_⟩
  rw [page_served held inside fun later => absurd rfl later]

-- A served request.
theorem getTranscript_served {h : TranscriptHistory} (served : (h.getTranscript setup items now r).2 = .ok page) :
    ∃ offset frozen found, Serves setup h items now r offset frozen found ∧ page = pageOf frozen offset ∧
      (h.getTranscript setup items now r).1 = {h with snapshots := afterPage found r.callerIdentity frozen offset} := by
  unfold TranscriptHistory.getTranscript at served ⊢
  split at served
  · cases served
  · rename_i granted
    have authorized : h.authorized setup r = true := by simpa using granted
    rw [if_neg granted]
    split at served
    · cases served
    · rename_i offset request reads
      dsimp only at served ⊢
      split at served
      · rename_i first
        subst first
        rw [if_pos rfl]
        split at served
        · cases served
        · rename_i after made
          obtain ⟨fits,room,rfl⟩ := freeze_exact.mp made
          obtain ⟨frozen,held,inside,named,rfl,left⟩ := page_exact served
          have own := held
          rw [lookup_put,if_pos rfl] at own
          cases own
          exact ⟨0,_,_,⟨authorized,held,inside,⟨request,reads,named⟩,fun _ => ⟨rfl,rfl,fits,room⟩,
            fun later => absurd rfl later⟩,rfl,left⟩
      · rename_i later
        rw [if_neg later]
        obtain ⟨frozen,held,inside,named,rfl,left⟩ := page_exact served
        exact ⟨offset,frozen,_,⟨authorized,held,inside,⟨request,reads,named⟩,fun first => absurd first later,
          fun _ => rfl⟩,rfl,left⟩

-- A refused one.
theorem getTranscript_refused {h : TranscriptHistory} (refused : (h.getTranscript setup items now r).2 = .error e) :
    (h.getTranscript setup items now r).1 = h ∨
      (h.getTranscript setup items now r).1 = {h with snapshots := unexpired now h.snapshots} := by
  unfold TranscriptHistory.getTranscript at refused ⊢
  split at refused
  · rename_i denied
    rw [if_pos denied]
    exact .inl rfl
  · rename_i granted
    rw [if_neg granted]
    split at refused
    · exact .inl rfl
    · rename_i offset request reads
      dsimp only at refused ⊢
      split at refused
      · rename_i first
        subst first
        rw [if_pos rfl]
        split at refused
        · exact .inr rfl
        · rename_i after made
          obtain ⟨page,served⟩ := freeze_served made request
          rw [served] at refused
          cases refused
      · rename_i later
        rw [if_neg later]
        exact .inr (page_refused refused)

theorem lookup_unexpired {snapshots : List (String × Frozen)} (keyed : (keys snapshots).Nodup) :
    (unexpired now snapshots).lookup who = some frozen ↔
      snapshots.lookup who = some frozen ∧ now - frozen.started < 60 := by
  rw [unexpired,lookup_filter keyed,decide_eq_true_eq]

-- One snapshot for each observer, and no more than there may be.
structure Shelved (snapshots : List (String × Frozen)) : Prop where
  keyed : (keys snapshots).Nodup
  few : snapshots.length ≤ maxTransfers

theorem Shelved.unexpired (shelved : Shelved snapshots) (now : ℚ) : Shelved (unexpired now snapshots) :=
  ⟨keys_filter shelved.keyed _,(List.length_filter_le _ _).trans shelved.few⟩

theorem Shelved.put (shelved : Shelved snapshots)
    (room : snapshots.length < maxTransfers ∨ identity ∈ keys snapshots) (frozen : Frozen) :
    Shelved (put snapshots identity frozen) := by
  refine ⟨keys_put shelved.keyed identity frozen,?_⟩
  rcases room with room | known
  · exact (length_put_le snapshots identity frozen).trans room
  · rw [length_put_known known]
    exact shelved.few

theorem Shelved.afterPage (shelved : Shelved snapshots) (identity : String) (frozen : Frozen) (offset : Nat) :
    Shelved (afterPage snapshots identity frozen offset) := by
  unfold History.afterPage
  split
  · exact ⟨keys_filter shelved.keyed _,(List.length_filter_le _ _).trans shelved.few⟩
  · exact shelved

theorem Serves.found_shelved (serves : Serves setup h items now r offset frozen found) (shelved : Shelved h.snapshots) :
    Shelved found := by
  by_cases first : offset = 0
  · obtain ⟨_,made,_,room⟩ := serves.first first
    rw [made]
    exact (shelved.unexpired now).put room frozen
  · rw [serves.later first]
    exact shelved.unexpired now

theorem request_shelved {s : Scene} (shelved : Shelved s.history.snapshots) (r : Request) :
    Shelved (s.ask setup r).1.history.snapshots := by
  unfold Scene.ask
  dsimp only
  cases answered : (s.history.getTranscript setup s.items s.clock r).2 with
  | ok page =>
    obtain ⟨offset,frozen,found,serves,_,left⟩ := getTranscript_served answered
    rw [left]
    exact (serves.found_shelved shelved).afterPage r.callerIdentity frozen offset
  | error e =>
    rcases getTranscript_refused answered with same | pruned
    · rw [same]
      exact shelved
    · rw [pruned]
      exact shelved.unexpired s.clock

theorem step_request (setup : Setup) (s : Scene) (r : Request) : step setup s (.request r) = some (s.ask setup r).1 := rfl

-- Only requests and the end of the call touch the snapshots, and time goes forward.
theorem step_snapshots (other : ∀ r, event ≠ .request r) (unclosed : event ≠ .close)
    (moved : step setup s event = some s') : s'.history.snapshots = s.history.snapshots := by
  cases step_cases moved with
  | caller => exact caller_frame s.history _ _ _
  | told passed => exact item_frame passed
  | raised | edited | published | elapsed => rfl
  | request => exact absurd rfl (other _)
  | close => exact absurd rfl unclosed

theorem step_clock (moved : step setup s event = some s') : s.clock ≤ s'.clock := by
  cases step_cases moved with
  | elapsed forward => exact le_add_of_nonneg_right forward
  | caller | told | raised | edited | published | request | close => exact le_refl _

theorem shelved_step (shelved : Shelved s.history.snapshots) (moved : step setup s event = some s') :
    Shelved s'.history.snapshots := by
  by_cases asked : ∃ r, event = .request r
  · obtain ⟨r,rfl⟩ := asked
    cases Option.some.inj moved
    exact request_shelved shelved r
  · by_cases ended : event = .close
    · subst ended
      cases Option.some.inj moved
      exact ⟨List.nodup_nil,Nat.zero_le _⟩
    · rw [step_snapshots (fun r same => asked ⟨r,same⟩) ended moved]
      exact shelved

theorem shelved_run (path : Runs (step setup) allowed (Scene.opening items clock) events s) :
    Shelved s.history.snapshots :=
  path.invariant (fun s _ _ shelved _ moved => @shelved_step setup s _ _ shelved moved) ⟨List.nodup_nil,Nat.zero_le _⟩

theorem pageOf_next (frozen : Frozen) (offset : Nat) : (pageOf frozen offset).nextOffset =
    if offset + pageChars < frozen.text.length then some (offset + pageChars) else none := by
  unfold pageOf
  dsimp only
  by_cases more : offset + pageChars < frozen.text.length
  · rw [min_eq_left more.le]
  · rw [min_eq_right (not_lt.mp more),if_neg (lt_irrefl _),if_neg more]

-- What the observer leaves alone between two pages: it does not start again.
def NoRestart (setup : Setup) (who : String) (_ : Scene) : Event → Prop
  | .close => False
  | .request r => r.callerIdentity = who → ∀ request, readRequest setup.py r.payload ≠ .ok (0,request)
  | _ => True

-- Nor does a request of its own outside the transfer fetch the last page.
def Undisturbed (setup : Setup) (who : String) (s : Scene) (event : Event) : Prop :=
  NoRestart setup who s event ∧ ∀ r page, event = .request r → r.callerIdentity = who →
    (s.ask setup r).2 = .ok page → page.nextOffset ≠ none

-- A snapshot stays through a request that is not the last of its observer.
theorem kept_request {s : Scene} (shelved : Shelved s.history.snapshots)
    (held : s.history.snapshots.lookup who = some frozen) (time : s.clock - frozen.started < 60)
    (undisturbed : Undisturbed setup who s (.request r)) :
    (s.ask setup r).1.history.snapshots.lookup who = some frozen := by
  have live : (unexpired s.clock s.history.snapshots).lookup who = some frozen :=
    (lookup_unexpired shelved.keyed).mpr ⟨held,time⟩
  obtain ⟨started,last⟩ := undisturbed
  unfold Scene.ask at last ⊢
  dsimp only at last ⊢
  cases answered : (s.history.getTranscript setup s.items s.clock r).2 with
  | error e =>
    rcases getTranscript_refused answered with same | pruned
    · rw [same]
      exact held
    · rw [pruned]
      exact live
  | ok page =>
    obtain ⟨offset,served,found,serves,rfl,left⟩ := getTranscript_served answered
    rw [left]
    dsimp only
    by_cases own : r.callerIdentity = who
    · have later : offset ≠ 0 := by
        rintro rfl
        obtain ⟨request,reads,_⟩ := serves.reads
        exact started own request reads
      have same := serves.held
      rw [serves.later later,own,live] at same
      cases same
      have more := last r _ rfl own answered
      rw [pageOf_next] at more
      have inside : ¬ frozen.text.length ≤ offset + pageChars := by
        intro beyond
        rw [if_neg (not_lt.mpr beyond)] at more
        exact more rfl
      rw [afterPage,if_neg inside,serves.later later]
      exact live
    · have kept : found.lookup who = some frozen := by
        by_cases first : offset = 0
        · obtain ⟨_,made,_⟩ := serves.first first
          rw [made,lookup_put,if_neg (fun same => own same.symm)]
          exact live
        · rw [serves.later first]
          exact live
      unfold afterPage
      split
      · rw [lookup_erase (serves.found_shelved shelved).keyed,if_neg (fun same => own same.symm)]
        exact kept
      · exact kept

theorem kept_run (shelved : Shelved s.history.snapshots) (held : s.history.snapshots.lookup who = some frozen)
    (path : Runs (step setup) (Undisturbed setup who) s events s') (time : s'.clock - frozen.started < 60) :
    s'.history.snapshots.lookup who = some frozen ∧ Shelved s'.history.snapshots := by
  induction path with
  | nil => exact ⟨held,shelved⟩
  | @step earlier middle event after prior undisturbed moved ih =>
    have forward := step_clock moved
    obtain ⟨kept,sound⟩ := ih (by linarith)
    refine ⟨?_,shelved_step sound moved⟩
    by_cases asked : ∃ r, event = .request r
    · obtain ⟨r,rfl⟩ := asked
      cases Option.some.inj moved
      exact kept_request sound kept time undisturbed
    · have open_ : event ≠ .close := by
        rintro rfl
        exact undisturbed.1
      rw [step_snapshots (fun r same => asked ⟨r,same⟩) open_ moved]
      exact kept

structure Asks (setup : Setup) (s : Scene) (who : String) (offset : Nat) (r : Request)
    (request : List (String × Json)) : Prop where
  identity : r.callerIdentity = who
  authorized : s.history.authorized setup r = true
  reads : readRequest setup.py r.payload = .ok (offset,request)

-- A transfer: a first page, then each next offset with the token returned, less than a
-- minute after the first. The answers are what the observer gets, errors too.
inductive Transfer (setup : Setup) (between : Scene → Event → Prop) (who : String) (s : Scene) :
    List (Except Raised Page) → Scene → Prop where
  | first : Asks setup s who 0 r request → s.ask setup r = (s',.ok page) →
      Transfer setup between who s [.ok page] s'
  | next : Transfer setup between who s (front ++ [.ok page]) middle → page.nextOffset = some offset →
      Runs (step setup) between middle gap later → later.clock - s.clock < 60 →
      Asks setup later who offset r request → names request page.snapshotId = true →
      later.ask setup r = (s',reply) → Transfer setup between who s (front ++ [.ok page] ++ [reply]) s'

def transferred (frozen : Frozen) (count : Nat) : List Page :=
  (List.range count).map fun i => pageOf frozen (pageChars * i)

theorem transferred_succ (frozen : Frozen) (count : Nat) :
    transferred frozen (count + 1) = transferred frozen count ++ [pageOf frozen (pageChars * count)] := by
  simp [transferred,List.range_succ]

-- The scene after a page of a snapshot.
def Scene.served (s : Scene) (found : List (String × Frozen)) (who : String) (frozen : Frozen) (offset : Nat) : Scene :=
  {s with history := {s.history with snapshots := afterPage found who frozen offset}}

-- The request for a first page, with room for it.
theorem ask_first {s : Scene} (asks : Asks setup s who 0 r request)
    (fits : (frozenNow setup s.history s.items s.clock r).text.length ≤ maxSnapshotChars)
    (room : (unexpired s.clock s.history.snapshots).length < maxTransfers) :
    s.ask setup r =
      (s.served (put (unexpired s.clock s.history.snapshots) who (frozenNow setup s.history s.items s.clock r)) who
        (frozenNow setup s.history s.items s.clock r) 0,.ok (pageOf (frozenNow setup s.history s.items s.clock r) 0)) := by
  have held : (put (unexpired s.clock s.history.snapshots) r.callerIdentity
      (frozenNow setup s.history s.items s.clock r)).lookup r.callerIdentity =
        some (frozenNow setup s.history s.items s.clock r) := by
    rw [lookup_put,if_pos rfl]
  have answered : s.history.getTranscript setup s.items s.clock r =
      ({s.history with snapshots := afterPage (put (unexpired s.clock s.history.snapshots) r.callerIdentity
        (frozenNow setup s.history s.items s.clock r)) r.callerIdentity (frozenNow setup s.history s.items s.clock r) 0},
        .ok (pageOf (frozenNow setup s.history s.items s.clock r) 0)) := by
    unfold TranscriptHistory.getTranscript
    rw [asks.authorized,if_neg (by simp),asks.reads]
    dsimp only
    rw [if_pos rfl]
    split
    · rename_i refused
      exact absurd (refused.symm.trans (freeze_exact.mpr ⟨fits,.inl room,rfl⟩)) (by simp)
    · rename_i made
      obtain ⟨_,_,rfl⟩ := freeze_exact.mp made
      exact page_served held (snapshotText_nonempty setup _) fun later => absurd rfl later
  unfold Scene.ask
  rw [answered,asks.identity]
  rfl

-- The request for a page other than the first, of a snapshot that is there.
theorem ask_next {s : Scene} (shelved : Shelved s.history.snapshots)
    (held : s.history.snapshots.lookup who = some frozen) (time : s.clock - frozen.started < 60)
    (asks : Asks setup s who offset r request) (later : offset ≠ 0) (inside : offset < frozen.text.length)
    (named : names request frozen.token = true) :
    s.ask setup r =
      (s.served (unexpired s.clock s.history.snapshots) who frozen offset,.ok (pageOf frozen offset)) := by
  have live : (unexpired s.clock s.history.snapshots).lookup r.callerIdentity = some frozen := by
    rw [asks.identity]
    exact (lookup_unexpired shelved.keyed).mpr ⟨held,time⟩
  have answered : s.history.getTranscript setup s.items s.clock r =
      ({s.history with snapshots := afterPage (unexpired s.clock s.history.snapshots) r.callerIdentity frozen offset},
        .ok (pageOf frozen offset)) := by
    unfold TranscriptHistory.getTranscript
    rw [asks.authorized,if_neg (by simp),asks.reads]
    dsimp only
    rw [if_neg later]
    exact page_served live inside fun _ => named
  unfold Scene.ask
  rw [answered,asks.identity]
  rfl

-- And of one that is not.
theorem ask_absent {s : Scene} (shelved : Shelved s.history.snapshots) (absent : s.history.snapshots.lookup who = none)
    (asks : Asks setup s who offset r request) (later : offset ≠ 0) :
    (s.ask setup r).2 = .error (.rpcError 2002 "Transcript snapshot expired; retry") := by
  have dead : (unexpired s.clock s.history.snapshots).lookup who = none := by
    cases found : (unexpired s.clock s.history.snapshots).lookup who with
    | none => rfl
    | some frozen =>
      rw [((lookup_unexpired shelved.keyed).mp found).1] at absent
      cases absent
  unfold Scene.ask TranscriptHistory.getTranscript
  rw [asks.authorized,if_neg (by simp),asks.reads]
  dsimp only
  rw [if_neg later,asks.identity]
  unfold TranscriptHistory.page
  rw [show (s.history.snapshots.filter fun e => s.clock - e.2.started < 60) = unexpired s.clock s.history.snapshots
    from rfl,dead]

-- How far a transfer has come: `count` pages before the last one, and the snapshot
-- still there while more is left.
structure Going (setup : Setup) (who : String) (s : Scene) (frozen : Frozen) (count : Nat)
    (answers : List (Except Raised Page)) (s' : Scene) : Prop where
  started : frozen.started = s.clock
  text : frozen.text = snapshotText setup s.snapshot
  fits : frozen.text.length ≤ maxSnapshotChars
  shelved : Shelved s'.history.snapshots
  answers : answers = (transferred frozen (count + 1)).map .ok
  inside : pageChars * count < frozen.text.length
  held : pageChars * (count + 1) < frozen.text.length → s'.history.snapshots.lookup who = some frozen

theorem first_going (shelved : Shelved s.history.snapshots) (asks : Asks setup s who 0 r request)
    (answered : s.ask setup r = (s',.ok page)) : ∃ frozen, Going setup who s frozen 0 [.ok page] s' := by
  have served : (s.history.getTranscript setup s.items s.clock r).2 = .ok page := congrArg Prod.snd answered
  have moved : (s.ask setup r).1 = s' := congrArg Prod.fst answered
  obtain ⟨offset,frozen,found,serves,rfl,left⟩ := getTranscript_served served
  obtain ⟨request',reads,_⟩ := serves.reads
  rw [asks.reads] at reads
  cases reads
  obtain ⟨made,stored,fits,_⟩ := serves.first rfl
  refine ⟨frozen,by rw [made]; rfl,by rw [made]; rfl,fits,moved ▸ request_shelved shelved r,rfl,serves.inside,?_⟩
  intro more
  have inside : ¬ frozen.text.length ≤ 0 + pageChars := by omega
  rw [← moved]
  unfold Scene.ask
  dsimp only
  rw [left]
  dsimp only
  rw [afterPage,if_neg inside,← asks.identity]
  exact serves.held

theorem next_going (going : Going setup who s frozen count (front ++ [.ok page]) middle)
    (more : page.nextOffset = some offset) (gap : Runs (step setup) (Undisturbed setup who) middle events later)
    (time : later.clock - s.clock < 60) (asks : Asks setup later who offset r request)
    (named : names request page.snapshotId = true) (answered : later.ask setup r = (s',reply)) :
    Going setup who s frozen (count + 1) (front ++ [.ok page] ++ [reply]) s' := by
  have split := going.answers
  rw [transferred_succ,List.map_append] at split
  have last : [Except.ok page] = [Except.ok (pageOf frozen (pageChars * count))] := List.append_inj_right' split rfl
  have same : page = pageOf frozen (pageChars * count) := Except.ok.inj (List.cons.inj last).1
  rw [same,pageOf_next] at more
  have inside : pageChars * (count + 1) < frozen.text.length ∧ offset = pageChars * (count + 1) := by
    split at more
    · rename_i less
      cases more
      exact ⟨by rw [Nat.mul_succ]; exact less,(Nat.mul_succ _ _).symm⟩
    · cases more
  obtain ⟨less,rfl⟩ := inside
  have live : later.clock - frozen.started < 60 := by rw [going.started]; exact time
  obtain ⟨held,shelved⟩ := kept_run going.shelved (going.held less) gap live
  have positive : pageChars * (count + 1) ≠ 0 := by simp [pageChars]
  have token : names request frozen.token = true := by
    rw [same] at named
    exact named
  have asked := ask_next shelved held live asks positive less token
  rw [answered] at asked
  obtain ⟨rfl,page_⟩ := Prod.mk.inj asked
  refine ⟨going.started,going.text,going.fits,?_,?_,less,?_⟩
  · have sound := @request_shelved setup later shelved r
    rw [answered] at sound
    exact sound
  · rw [going.answers,transferred_succ frozen (count + 1),List.map_append,page_]
    rfl
  · intro further
    have unfinished : ¬ frozen.text.length ≤ pageChars * (count + 1) + pageChars := by
      rw [Nat.mul_succ] at further
      omega
    unfold Scene.served
    dsimp only
    rw [afterPage,if_neg unfinished]
    exact (lookup_unexpired shelved.keyed).mpr ⟨held,live⟩

theorem transfer_going (shelved : Shelved s.history.snapshots)
    (transfer : Transfer setup (Undisturbed setup who) who s answers s') :
    ∃ frozen count, Going setup who s frozen count answers s' := by
  induction transfer with
  | first asks answered =>
    obtain ⟨frozen,going⟩ := first_going shelved asks answered
    exact ⟨frozen,0,going⟩
  | next _ more gap time asks named answered ih =>
    obtain ⟨frozen,count,going⟩ := ih
    exact ⟨frozen,count + 1,next_going going more gap time asks named answered⟩

theorem page_text (frozen : Frozen) (offset : Nat) :
    (pageOf frozen offset).text.toList = (frozen.text.toList.drop offset).take pageChars := by
  unfold pageOf slice
  dsimp only
  rw [String.toList_ofList,List.take_eq_take_iff,List.length_drop,String.length_toList]
  omega

-- The pages read one after another are the text as far as they go.
theorem transferred_text (frozen : Frozen) (count : Nat) :
    ((transferred frozen count).map (·.text.toList)).flatten = frozen.text.toList.take (pageChars * count) := by
  induction count with
  | zero => rfl
  | succ count ih =>
    rw [transferred_succ,List.map_append,List.flatten_append,ih,Nat.mul_succ,List.take_add]
    simp [page_text]

theorem transferred_whole (reached : frozen.text.length ≤ pageChars * count) :
    String.join ((transferred frozen count).map Page.text) = frozen.text := by
  have whole := transferred_text frozen count
  rw [List.take_of_length_le (by rw [String.length_toList]; exact reached)] at whole
  rw [String.join_eq,List.map_map]
  exact (congrArg String.ofList whole).trans (String.ofList_toList)

theorem pages_counted (inside : pageChars * count < length) :
    count + 1 ≤ length ⌈/⌉ pageChars ∧ (length ≤ pageChars * (count + 1) ↔ count + 1 = length ⌈/⌉ pageChars) := by
  rw [Nat.ceilDiv_eq_add_pred_div]
  unfold pageChars at inside ⊢
  omega

-- The texts of a snapshot and of a page.
theorem row_floatFree (row : Row) : FloatFree row.json := by
  refine .obj fun field member => ?_
  simp only [List.mem_cons,List.not_mem_nil,or_false] at member
  rcases member with rfl | rfl | rfl | rfl | rfl | rfl
  · exact .str
  · exact .str
  · exact .str
  · refine .arr fun item inside => ?_
    obtain ⟨text,_,rfl⟩ := List.mem_map.mp inside
    exact .str
  · exact .bool
  · exact .int

theorem snapshotText_printable (setup : Setup) (listed : List Row) :
    ∀ c ∈ (snapshotText setup listed).toList, Printable c := by
  unfold snapshotText dumps
  rw [String.toList_ofList]
  refine printable_write rfl (.obj fun field member => ?_)
  simp only [List.mem_cons,List.not_mem_nil,or_false] at member
  rcases member with rfl | rfl
  · exact .str
  · refine .arr fun item inside => ?_
    obtain ⟨row,_,rfl⟩ := List.mem_map.mp inside
    exact row_floatFree row

theorem page_floatFree (page : Page) : FloatFree page.json := by
  refine .obj fun field member => ?_
  simp only [List.mem_cons,List.not_mem_nil,or_false] at member
  rcases member with rfl | rfl | rfl
  · exact .str
  · exact .str
  · cases page.nextOffset with
    | none => exact .null
    | some offset => exact .int

theorem escapedSize_printable (printable : Printable c) : escapedSize c ≤ 2 := by
  unfold escapedSize
  split
  · exact Nat.le_refl _
  · rw [if_pos (show 0x20 ≤ c.toNat ∧ c.toNat < 0x7f from printable)]
    exact Nat.le_succ 1

theorem quotedSize_printable {text : String} (printable : ∀ c ∈ text.toList, Printable c) :
    quotedSize text ≤ 2 + 2 * text.length := by
  unfold quotedSize
  have bound : weigh escapedSize text.toList ≤ 2 * text.toList.length :=
    weigh_le fun c member => escapedSize_printable (printable c member)
  rw [String.length_toList] at bound
  omega

theorem uuid_printable (uuid : Uuid4) : ∀ c ∈ uuid.text.toList, Printable c := by
  obtain ⟨n,_,same⟩ := uuid.canonical
  rw [← same]
  intro c member
  rcases Uuid.print_mem member with rfl | ⟨d,small,rfl⟩
  · exact ⟨by decide,by decide⟩
  · exact printable_digitChar d small

theorem uuid_length (uuid : Uuid4) : uuid.text.length = 36 := by
  obtain ⟨n,_,same⟩ := uuid.canonical
  rw [← same,← String.length_toList,Uuid.print_length]

-- A response is printable ASCII, so its length is its size.
theorem response_size (py : Interpreter) (page : Page) : (page.response py).utf8ByteSize =
    weigh (fun _ => 1) (write py ⟨true,true⟩ page.json) := by
  rw [Page.response,dumps,utf8_size_printable (printable_write rfl (page_floatFree page)),weigh_length]

theorem response_short (py : Interpreter) {page : Page} (short : page.text.length ≤ pageChars)
    (printable : ∀ c ∈ page.text.toList, Printable c) (bound : ∀ offset ∈ page.nextOffset, offset < 10 ^ 7) :
    (page.response py).utf8ByteSize < 15 * 1024 := by
  have token := quotedSize_printable (uuid_printable page.snapshotId)
  have text := quotedSize_printable printable
  have next : (write py ⟨true,true⟩ (page.nextOffset.elim .null fun offset => .int offset)).length ≤ 7 := by
    cases more : page.nextOffset with
    | none => simp [write]
    | some offset => exact Nat.toDigits_length 10 offset 7 (by decide) (bound offset more)
  rw [uuid_length] at token
  rw [response_size,Page.json,weigh_write_obj (by simp) fun _ _ => rfl]
  simp only [List.map_cons,List.map_nil,List.sum_cons,List.sum_nil,weigh_length,write,length_writeString]
  have keys : quotedSize "snapshotId" = 12 ∧ quotedSize "text" = 6 ∧ quotedSize "nextOffset" = 12 := by decide
  unfold pageChars at short
  omega

theorem response_read (py : Interpreter) {page : Page} (bound : ∀ offset ∈ page.nextOffset, offset < 10 ^ 7) :
    loads py (page.response py) = some page.json := by
  have fits : Fits py.recursionLimit page.json := by
    obtain ⟨depth,limit⟩ := Nat.exists_eq_add_of_le' py.limit_ok
    rw [limit]
    refine .obj fun field member => ?_
    simp only [List.mem_cons,List.not_mem_nil,or_false] at member
    rcases member with rfl | rfl | rfl
    · exact .str
    · exact .str
    · cases more : page.nextOffset with
      | none => exact .null
      | some offset =>
        exact .int ((Nat.toDigits_length 10 offset 7 (by decide) (bound offset more)).trans (by decide))
  rw [Page.response,loads_dumps fits,reread_floatFree (page_floatFree page)]

-- A page of a snapshot that was made from a history.
theorem page_limits {frozen : Frozen} (setup : Setup) (text : frozen.text = snapshotText setup listed)
    (fits : frozen.text.length ≤ maxSnapshotChars) (inside : offset < frozen.text.length) :
    (pageOf frozen offset).text ≠ "" ∧ ((pageOf frozen offset).response setup.py).utf8ByteSize < 15 * 1024 ∧
      loads setup.py ((pageOf frozen offset).response setup.py) = some (pageOf frozen offset).json := by
  have shown := page_text frozen offset
  have bound : ∀ next ∈ (pageOf frozen offset).nextOffset, next < 10 ^ 7 := by
    intro next more
    rw [pageOf_next] at more
    split at more
    · rename_i less
      cases more
      unfold maxSnapshotChars at fits
      omega
    · cases more
  refine ⟨?_,response_short setup.py ?_ ?_ bound,response_read setup.py bound⟩
  · intro empty
    have size : 0 = min pageChars (frozen.text.length - offset) := by
      rw [← String.length_toList,← List.length_drop,← List.length_take,← shown,empty]
      rfl
    unfold pageChars at size
    omega
  · rw [← String.length_toList,shown]
    exact List.length_take_le _ _
  · intro c member
    rw [shown] at member
    have known := List.mem_of_mem_drop (List.mem_of_mem_take member)
    rw [text] at known
    exact snapshotText_printable setup _ c known

-- What a transfer gives.
structure Reassembles (setup : Setup) (text : String) (pages : List Page) : Prop where
  few : pages.length ≤ text.length ⌈/⌉ pageChars
  each : ∀ page ∈ pages, page.text ≠ "" ∧ (page.response setup.py).utf8ByteSize < 15 * 1024 ∧
    loads setup.py (page.response setup.py) = some page.json
  last : ∀ page, pages.getLast? = some page → (page.nextOffset = none ↔ pages.length = text.length ⌈/⌉ pageChars)
  whole : pages.length = text.length ⌈/⌉ pageChars → String.join (pages.map Page.text) = text

theorem Going.reassembles (going : Going setup who s frozen count replies s') :
    Reassembles setup (snapshotText setup s.snapshot) (transferred frozen (count + 1)) := by
  have size : (transferred frozen (count + 1)).length = count + 1 := by simp [transferred]
  obtain ⟨few,exact_⟩ := pages_counted going.inside
  refine ⟨by rw [size,← going.text]; exact few,?_,?_,?_⟩
  · intro page member
    obtain ⟨i,early,rfl⟩ := List.mem_map.mp member
    refine page_limits setup going.text going.fits (lt_of_le_of_lt ?_ going.inside)
    exact Nat.mul_le_mul_left _ (Nat.lt_succ_iff.mp (List.mem_range.mp early))
  · intro page last
    rw [transferred_succ,List.getLast?_concat] at last
    cases last
    rw [size,← going.text,← exact_,pageOf_next]
    split
    · rename_i more
      simp only [reduceCtorEq,false_iff]
      rw [Nat.mul_succ]
      omega
    · rename_i reached
      simp only [true_iff]
      rw [Nat.mul_succ]
      omega
  · rw [size,← going.text]
    intro complete
    exact transferred_whole (exact_.mpr complete)

-- Whatever requests of whatever observers come in between, a transfer that its own
-- observer lets run gets the text of one moment.
theorem pages_exact (path : Runs (step setup) Anything (Scene.opening items clock) events s) :
    s.history.snapshots.length ≤ maxTransfers ∧
      (∀ r offset request page, readRequest setup.py r.payload = .ok (offset,request) → 0 < offset →
        (s.ask setup r).2 = .ok page → ∃ frozen, s.history.snapshots.lookup r.callerIdentity = some frozen ∧
          s.clock - frozen.started < 60 ∧ names request frozen.token = true) ∧
      (∀ r e, (s.ask setup r).2 = .error e → ∀ who frozen, s.clock - frozen.started < 60 →
        ((s.ask setup r).1.history.snapshots.lookup who = some frozen ↔
          s.history.snapshots.lookup who = some frozen)) ∧
      ∀ who answers s', Transfer setup (Undisturbed setup who) who s answers s' →
        ∃ pages, answers = pages.map .ok ∧ Reassembles setup (snapshotText setup s.snapshot) pages := by
  have shelved := shelved_run path
  refine ⟨shelved.few,?_,?_,?_⟩
  · intro r offset request page reads later served
    unfold Scene.ask at served
    dsimp only at served
    obtain ⟨offset',frozen,found,serves,_,_⟩ := getTranscript_served served
    obtain ⟨request',reads',named⟩ := serves.reads
    rw [reads] at reads'
    cases reads'
    have nonzero : offset ≠ 0 := later.ne'
    have held := serves.held
    rw [serves.later nonzero,lookup_unexpired shelved.keyed] at held
    exact ⟨frozen,held.1,held.2,named nonzero⟩
  · intro r e refused who frozen time
    unfold Scene.ask at refused ⊢
    dsimp only at refused ⊢
    rcases getTranscript_refused refused with same | pruned
    · rw [same]
    · rw [pruned,lookup_unexpired shelved.keyed]
      exact and_iff_left time
  · intro who answers s' transfer
    obtain ⟨frozen,count,going⟩ := transfer_going shelved transfer
    exact ⟨_,going.answers,going.reassembles⟩

-- The request for a page, as an observer writes it.
def pageFields (offset : Nat) (token : Uuid4) : List (String × Json) :=
  [("offset",.int offset),("snapshotId",.str token.text)]

def pagePayload (py : Interpreter) (offset : Nat) (token : Uuid4) : String :=
  dumps py ⟨true,true⟩ (.obj (pageFields offset token))

theorem read_first (py : Interpreter) : readRequest py "" = .ok (0,[]) := by
  have empty : loads py "{}" = some (.obj []) := by
    obtain ⟨depth,limit⟩ := Nat.exists_eq_add_of_le' py.limit_ok
    have written : loads py (dumps py ⟨true,true⟩ (.obj [])) = some (reread py (.obj [])) := by
      refine loads_dumps ?_
      rw [limit]
      exact .obj fun _ member => nomatch member
    exact written
  unfold readRequest
  rw [if_pos rfl,decode_value.mpr empty]
  rfl

theorem read_page (py : Interpreter) (token : Uuid4) (bound : offset < 10 ^ 7) :
    readRequest py (pagePayload py offset token) = .ok (offset,pageFields offset token) := by
  have fits : Fits py.recursionLimit (.obj (pageFields offset token)) := by
    obtain ⟨depth,limit⟩ := Nat.exists_eq_add_of_le' py.limit_ok
    rw [limit]
    refine .obj fun field member => ?_
    simp only [pageFields,List.mem_cons,List.not_mem_nil,or_false] at member
    rcases member with rfl | rfl
    · exact .int ((Nat.toDigits_length 10 offset 7 (by decide) bound).trans (by decide))
    · exact .str
  have free : FloatFree (.obj (pageFields offset token)) := by
    refine .obj fun field member => ?_
    simp only [pageFields,List.mem_cons,List.not_mem_nil,or_false] at member
    rcases member with rfl | rfl
    · exact .int
    · exact .str
  have read : loads py (pagePayload py offset token) = some (.obj (pageFields offset token)) := by
    rw [pagePayload,loads_dumps fits,reread_floatFree free]
  have filled : pagePayload py offset token ≠ "" := by
    intro empty
    have size := congrArg String.length empty
    rw [pagePayload,dumps,String.length_ofList] at size
    exact (@write_length py ⟨true,true⟩ (.obj (pageFields offset token))).ne' size
  unfold readRequest
  rw [if_neg filled,decode_value.mpr read]
  simp [pageFields,JsonText.get,List.lookup]

theorem page_named (offset : Nat) (token : Uuid4) : names (pageFields offset token) token = true := by
  simp [names,pageFields,JsonText.get]

-- An observer of a call in which one thing was said.
def observedCall : Setup := ⟨verbatim,"call","aida-call"⟩
def said (text : String) : ChatItem := ⟨"item_1",.message,some .assistant,some text,fun _ => Option.some_ne_none _⟩

theorem said_listed (shown : text ≠ "") : TranscriptHistory.initial.snapshot [said text] =
    [⟨"item_1","item_1",.assistant,[text],true,0⟩] := by
  have entry : TranscriptHistory.initial.entry (said text) = _ := if_pos ⟨.inr rfl,shown⟩
  unfold TranscriptHistory.snapshot
  rw [List.filterMap_cons,entry]
  rfl

theorem said_length (shown : text ≠ "") :
    (snapshotText observedCall (TranscriptHistory.initial.snapshot [said text])).length = quotedSize text + 126 := by
  have keys : quotedSize "callId" = 8 ∧ quotedSize "items" = 7 ∧ quotedSize "id" = 4 ∧ quotedSize "segment_id" = 12 ∧
    quotedSize "role" = 6 ∧ quotedSize "content" = 9 ∧ quotedSize "is_final" = 10 ∧ quotedSize "sequence" = 10 := by decide
  have values : quotedSize "call" = 6 ∧ quotedSize "item_1" = 8 ∧ quotedSize "assistant" = 11 := by decide
  rw [said_listed shown,snapshotText,dumps,String.length_ofList]
  simp [write,writeItems,writeFields,length_writeString,Row.json,Role.text,observedCall,keys,values,Style.item,Style.key,
    Style.gap,writeInt]
  omega

def observes (payload : String) : Request :=
  ⟨"admin-observer-1",payload,true,some [("aida.transcriptObserver","aida-call")],sampleUuid 1⟩

theorem observed_asks {s : Scene} (unclosed : s.history.closed = false)
    (reads : readRequest observedCall.py payload = .ok (offset,request)) :
    Asks observedCall s "admin-observer-1" offset (observes payload) request := by
  refine ⟨rfl,?_,reads⟩
  rw [TranscriptHistory.authorized,unclosed]
  simp [observes,observedCall]

def observedScene (text : String) : Scene := Scene.opening [said text] 0
def observedFrozen (text : String) : Frozen := frozenNow observedCall .initial [said text] 0 (observes "")

-- The observer has its first page, and asks for others.
def observedNext (text : String) : Scene :=
  (observedScene text).served [("admin-observer-1",observedFrozen text)] "admin-observer-1" (observedFrozen text) 0

def pageAt (offset : Nat) : Request := observes (pagePayload verbatim offset (sampleUuid 1))

-- What takes two pages to tell.
def TwoPages (text : String) : Prop := pageChars + 1 < (observedFrozen text).text.length ∧
  (observedFrozen text).text.length ≤ 2 * pageChars

theorem observed_first (two : TwoPages text) :
    (observedScene text).ask observedCall (observes "") = (observedNext text,.ok (pageOf (observedFrozen text) 0)) := by
  have asks := observed_asks (s := observedScene text) rfl (read_first observedCall.py)
  have fits : (observedFrozen text).text.length ≤ maxSnapshotChars := two.2.trans (by decide)
  exact ask_first asks fits (Nat.zero_lt_succ 31)

theorem observed_kept (two : TwoPages text) :
    (observedNext text).history.snapshots = [("admin-observer-1",observedFrozen text)] := by
  have unfinished : ¬ (observedFrozen text).text.length ≤ 0 + pageChars := by
    have long := two.1
    omega
  unfold observedNext Scene.served afterPage
  dsimp only
  rw [if_neg unfinished]

theorem observed_more (two : TwoPages text) : (pageOf (observedFrozen text) 0).nextOffset = some pageChars := by
  have long := two.1
  rw [pageOf_next,if_pos (by omega),Nat.zero_add]

theorem observed_fresh (text : String) : (observedNext text).clock - (observedFrozen text).started < 60 := by
  show (0 : ℚ) - 0 < 60
  norm_num

theorem observed_reads (two : TwoPages text) (early : offset < (observedFrozen text).text.length) :
    readRequest observedCall.py (pagePayload verbatim offset (sampleUuid 1)) = .ok (offset,pageFields offset (sampleUuid 1)) :=
  read_page observedCall.py (sampleUuid 1) ((early.trans_le two.2).trans (by decide))

-- A page of it is asked for by its offset.
theorem observed_page (two : TwoPages text) (early : offset < (observedFrozen text).text.length) (later : offset ≠ 0) :
    (observedNext text).ask observedCall (pageAt offset) =
      ((observedNext text).served [("admin-observer-1",observedFrozen text)] "admin-observer-1" (observedFrozen text) offset,
        .ok (pageOf (observedFrozen text) offset)) := by
  have kept := observed_kept two
  have shelved : Shelved (observedNext text).history.snapshots := by
    rw [kept]
    exact ⟨List.nodup_singleton _,Nat.succ_le_succ (Nat.zero_le 31)⟩
  have held : (observedNext text).history.snapshots.lookup "admin-observer-1" = some (observedFrozen text) := by
    rw [kept]
    rfl
  have live : unexpired (observedNext text).clock (observedNext text).history.snapshots =
      [("admin-observer-1",observedFrozen text)] := by
    rw [kept]
    exact List.filter_cons_of_pos (decide_eq_true (observed_fresh text))
  have asked := ask_next shelved held (observed_fresh text) (observed_asks rfl (observed_reads two early)) later early
    (page_named _ _)
  rw [live] at asked
  exact asked

theorem observed_transfer (two : TwoPages text)
    (gap : Runs (step observedCall) between (observedNext text) events later) (unclosed : later.history.closed = false)
    (time : later.clock - (observedFrozen text).started < 60) :
    Transfer observedCall between "admin-observer-1" (observedScene text)
      [.ok (pageOf (observedFrozen text) 0),(later.ask observedCall (pageAt pageChars)).2]
      (later.ask observedCall (pageAt pageChars)).1 := by
  have early := Nat.lt_of_succ_lt two.1
  have first := observed_asks (s := observedScene text) rfl (read_first observedCall.py)
  have asks : Asks observedCall later "admin-observer-1" pageChars (pageAt pageChars) (pageFields pageChars (sampleUuid 1)) :=
    observed_asks unclosed (observed_reads two early)
  have named : names (pageFields pageChars (sampleUuid 1)) (pageOf (observedFrozen text) 0).snapshotId = true :=
    page_named pageChars (sampleUuid 1)
  have started : Transfer observedCall between "admin-observer-1" (observedScene text)
      ([] ++ [.ok (pageOf (observedFrozen text) 0)]) (observedNext text) := .first first (observed_first two)
  exact started.next (observed_more two) gap time asks named Prod.mk.eta.symm

-- The observer fetches the last page by an offset of its own, between two pages.
theorem observed_gone (two : TwoPages text) : ∃ s, Runs (step observedCall) (NoRestart observedCall "admin-observer-1")
    (observedNext text) [.request (pageAt (pageChars + 1))] s ∧ s.history.closed = false ∧ s.clock = 0 ∧
      s.history.snapshots = [] := by
  have own : NoRestart observedCall "admin-observer-1" (observedNext text) (.request (pageAt (pageChars + 1))) := by
    intro _ request again
    cases (observed_reads two two.1).symm.trans again
  have finished : (observedFrozen text).text.length ≤ pageChars + 1 + pageChars := by
    have short := two.2
    omega
  have moved : step observedCall (observedNext text) (.request (pageAt (pageChars + 1))) = some ((observedNext text).served
      [("admin-observer-1",observedFrozen text)] "admin-observer-1" (observedFrozen text) (pageChars + 1)) := by
    rw [step_request,observed_page two two.1 (Nat.succ_ne_zero pageChars)]
  refine ⟨_,.single own moved,rfl,rfl,?_⟩
  unfold Scene.served afterPage
  dsimp only
  rw [if_pos finished]
  rfl

-- A last page of its own, asked for by an offset of its own, leaves the observer
-- without the next one.
theorem observed_refused (two : TwoPages text) : ∃ answers s', Transfer observedCall
    (NoRestart observedCall "admin-observer-1") "admin-observer-1" (observedScene text) answers s' ∧
      ∃ e, .error e ∈ answers := by
  obtain ⟨s,gap,unclosed,time,gone⟩ := observed_gone two
  have asks : Asks observedCall s "admin-observer-1" pageChars (pageAt pageChars) (pageFields pageChars (sampleUuid 1)) :=
    observed_asks unclosed (observed_reads two (Nat.lt_of_succ_lt two.1))
  have shelved : Shelved s.history.snapshots := by
    rw [gone]
    exact ⟨List.nodup_nil,Nat.zero_le _⟩
  have refused := ask_absent shelved (by rw [gone]; rfl) asks (by decide)
  have fresh : s.clock - (observedFrozen text).started < 60 := by
    rw [time]
    exact observed_fresh text
  refine ⟨_,_,observed_transfer two gap unclosed fresh,.rpcError 2002 "Transcript snapshot expired; retry",?_⟩
  rw [refused]
  exact List.mem_cons_of_mem _ List.mem_cons_self

theorem observed_joined (two : TwoPages text) (answers : [Except.ok (pageOf (observedFrozen text) 0),
      ((observedNext text).ask observedCall (pageAt pageChars)).2] = pages.map .ok)
    (whole : Reassembles observedCall (snapshotText observedCall (observedScene text).snapshot) pages) :
    ∃ first last : Page, ((observedScene text).ask observedCall (observes "")).2 = .ok first ∧
      ((observedNext text).ask observedCall (pageAt pageChars)).2 = .ok last ∧ last.nextOffset = none ∧
        first.text ++ last.text = snapshotText observedCall (observedScene text).snapshot := by
  have second := congrArg Prod.snd (observed_page two (Nat.lt_of_succ_lt two.1) (by decide))
  rw [second] at answers
  have both : [pageOf (observedFrozen text) 0,pageOf (observedFrozen text) pageChars] = pages :=
    List.map_injective_iff.mpr (fun _ _ => Except.ok.inj) answers
  subst both
  have ended : (pageOf (observedFrozen text) pageChars).nextOffset = none := by
    rw [pageOf_next,if_neg (by have short := two.2; omega)]
  have joined := whole.whole ((whole.last _ rfl).mp ended)
  have two_texts (first last : String) : String.join [first,last] = first ++ last := by simp [String.join]
  exact ⟨_,_,congrArg Prod.snd (observed_first two),second,ended,(two_texts _ _).symm.trans joined⟩

theorem observed_length (text : String) (shown : text ≠ "") : (observedFrozen text).text.length = quotedSize text + 126 :=
  said_length shown

def monologue : String := String.ofList (List.replicate pageChars 'a')

theorem monologue_two : TwoPages monologue := by
  have shown : monologue ≠ "" := by
    intro empty
    have size := congrArg String.length empty
    rw [monologue,String.length_ofList,List.length_replicate] at size
    cases size
  have quoted : quotedSize monologue = 2 + pageChars := by
    rw [quotedSize,monologue,String.toList_ofList,weigh_replicate]
    rfl
  rw [TwoPages,observed_length monologue shown,quoted]
  decide

theorem monologue_lost : ∃ answers s', Transfer observedCall (NoRestart observedCall "admin-observer-1") "admin-observer-1"
    (observedScene monologue) answers s' ∧ ∃ e, .error e ∈ answers :=
  observed_refused monologue_two

theorem monologue_pages : ∃ first last : Page,
    ((observedScene monologue).ask observedCall (observes "")).2 = .ok first ∧
      ((observedNext monologue).ask observedCall (pageAt pageChars)).2 = .ok last ∧ last.nextOffset = none ∧
        first.text ++ last.text = snapshotText observedCall (observedScene monologue).snapshot := by
  have still : Runs (step observedCall) (Undisturbed observedCall "admin-observer-1") (observedNext monologue) []
    (observedNext monologue) := .nil
  have transfer := observed_transfer monologue_two still rfl (observed_fresh monologue)
  have opening : Runs (step observedCall) Anything (Scene.opening [said monologue] 0) [] (observedScene monologue) := .nil
  obtain ⟨pages,answers,whole⟩ := (pages_exact opening).2.2.2 _ _ _ transfer
  exact observed_joined monologue_two answers whole

end AidaAgent.History
