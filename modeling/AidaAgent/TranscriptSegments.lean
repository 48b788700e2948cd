import AidaAgent.Transcripts

namespace AidaAgent.Transcripts
open JsonText PythonText

inductive Call where
  | caller (text : String) (isFinal : Bool) (drawn : Drawn)
  | assistant (text itemId : String) (drawn : Drawn)

def Call.text : Call → String
  | .caller text _ _ | .assistant text _ _ => text

def Call.isCaller : Call → Bool
  | .caller .. => true
  | .assistant .. => false

-- A final call of the caller, which ends the open segment.
def Call.ends : Call → Bool
  | .caller _ isFinal _ => isFinal
  | .assistant .. => false

def TranscriptStream.call (s : TranscriptStream) : Call → TranscriptStream × Option TranscriptEvent
  | .caller text isFinal drawn => s.caller text isFinal drawn
  | .assistant text itemId drawn => s.assistant text itemId drawn

def TranscriptStream.after (s : TranscriptStream) (calls : List Call) : TranscriptStream :=
  calls.foldl (fun s call => (s.call call).1) s

def TranscriptStream.produced : TranscriptStream → List Call → List (Option TranscriptEvent)
  | _,[] => []
  | s,call :: rest => (s.call call).2 :: (s.call call).1.produced rest

-- A call of the caller draws a segment id where no segment is open.
def TranscriptStream.opens (s : TranscriptStream) (call : Call) : List String :=
  match s.callerSegment,call with
  | none,.caller _ _ drawn => [drawn.segment.text]
  | _,_ => []

def TranscriptStream.generated : TranscriptStream → List Call → List String
  | _,[] => []
  | s,call :: rest => s.opens call ++ (s.call call).1.generated rest

-- The last partial since the last final call that was not blank.
def keepPartial (last : Option String) : Call → Option String
  | .caller text isFinal _ => if isFinal then none else if isBlank text then last else some text
  | .assistant .. => last

def lastPartial (calls : List Call) : Option String := calls.foldl keepPartial none

theorem lastPartial_snoc (front : List Call) (call : Call) :
    lastPartial (front ++ [call]) = keepPartial (lastPartial front) call := by
  rw [lastPartial,List.foldl_append]
  rfl

theorem after_append (s : TranscriptStream) (front back : List Call) :
    s.after (front ++ back) = (s.after front).after back := List.foldl_append

theorem after_snoc (s : TranscriptStream) (front : List Call) (call : Call) :
    s.after (front ++ [call]) = ((s.after front).call call).1 := after_append s front [call]

theorem generated_append (s : TranscriptStream) (front back : List Call) :
    s.generated (front ++ back) = s.generated front ++ (s.after front).generated back := by
  induction front generalizing s with
  | nil => rfl
  | cons call rest ih =>
    rw [List.cons_append,TranscriptStream.generated,TranscriptStream.generated,ih,List.append_assoc]
    rfl

-- The text that a call of the caller shows: a blank final repeats the partial.
def TranscriptStream.spoken (s : TranscriptStream) (text : String) (isFinal : Bool) : String :=
  if isBlank text = true ∧ isFinal = true then s.callerText else text

-- What a call of the caller leaves behind and what it returns.
structure Called (s : TranscriptStream) (text : String) (isFinal : Bool) (drawn : Drawn) (after : TranscriptStream)
    (out : Option TranscriptEvent) : Prop where
  segment : after.callerSegment = if isFinal then none else some (s.callerSegment.getD drawn.segment)
  kept : after.callerText = if isFinal then "" else if isBlank text then s.callerText else text
  shown : (after.sequence,out) = if isBlank (s.spoken text isFinal) then (s.sequence,none) else
    (s.sequence + 1,some ⟨s.callId,drawn.event,s.streamId,s.sequence + 1,(s.callerSegment.getD drawn.segment).text,
      clipBytes maxTextBytes (sanitized (s.spoken text isFinal)),isFinal,drawn.timestamp,.caller⟩)

theorem caller_called (s : TranscriptStream) (text : String) (isFinal : Bool) (drawn : Drawn) :
    Called s text isFinal drawn (s.caller text isFinal drawn).1 (s.caller text isFinal drawn).2 := by
  cases isFinal <;> cases blank : isBlank text
  all_goals
    constructor
    all_goals simp only [TranscriptStream.caller,TranscriptStream.event,TranscriptStream.spoken,blank]
    all_goals cases silent : isBlank s.callerText <;> simp [blank,silent]

-- An event takes the next number, and only an event takes one.
theorem call_numbered (s : TranscriptStream) (call : Call) :
    ((s.call call).2 = none ∧ (s.call call).1.sequence = s.sequence) ∨
      ∃ e, (s.call call).2 = some e ∧ e.sequence = s.sequence + 1 ∧ (s.call call).1.sequence = s.sequence + 1 := by
  cases call with
  | caller text isFinal drawn =>
    have shown := (caller_called s text isFinal drawn).shown
    simp only [TranscriptStream.call]
    split at shown
    · obtain ⟨sequence,out⟩ := Prod.mk.inj shown
      exact .inl ⟨out,sequence⟩
    · obtain ⟨sequence,out⟩ := Prod.mk.inj shown
      exact .inr ⟨_,out,rfl,sequence⟩
  | assistant text itemId drawn =>
    simp only [TranscriptStream.call,TranscriptStream.assistant,TranscriptStream.event]
    split
    · exact .inl ⟨rfl,rfl⟩
    · exact .inr ⟨_,rfl,rfl,rfl⟩

theorem produced_numbered (s : TranscriptStream) (calls : List Call) :
    ((s.produced calls).filterMap id).map (·.sequence) =
      List.range' (s.sequence + 1) ((s.produced calls).filterMap id).length := by
  induction calls generalizing s with
  | nil => rfl
  | cons call rest ih =>
    rw [TranscriptStream.produced]
    rcases call_numbered s call with ⟨silent,same⟩ | ⟨e,shown,number,next⟩
    · rw [silent,List.filterMap_cons_none (f := id) rfl,ih,same]
    · rw [shown,List.filterMap_cons_some (f := id) rfl,List.map_cons,ih,number,next,List.length_cons,List.range'_succ]

-- A call of the assistant leaves the segment of the caller as it is.
theorem assistant_frame (s : TranscriptStream) (text itemId : String) (drawn : Drawn) :
    (s.assistant text itemId drawn).1.callerSegment = s.callerSegment ∧
      (s.assistant text itemId drawn).1.callerText = s.callerText := by
  unfold TranscriptStream.assistant TranscriptStream.event
  split <;> exact ⟨rfl,rfl⟩

theorem assistant_shows {s : TranscriptStream} (shown : (s.assistant text itemId drawn).2 = some e) :
    e.segmentId = "assistant-" ++ itemId ∧ e.text = clipBytes maxTextBytes (sanitized text) ∧ isBlank text = false := by
  unfold TranscriptStream.assistant TranscriptStream.event at shown
  split at shown
  · cases shown
  · rename_i spoken
    cases shown
    exact ⟨rfl,rfl,by simpa using spoken⟩

structure Shows (s : TranscriptStream) (text : String) (isFinal : Bool) (drawn : Drawn) (e : TranscriptEvent) : Prop where
  segment : e.segmentId = (s.callerSegment.getD drawn.segment).text
  final : e.isFinal = isFinal
  published : e.text = clipBytes maxTextBytes (sanitized (s.spoken text isFinal))
  spoken : isBlank (s.spoken text isFinal) = false

theorem caller_shows {s : TranscriptStream} (shown : (s.caller text isFinal drawn).2 = some e) :
    Shows s text isFinal drawn e := by
  have called := (caller_called s text isFinal drawn).shown
  split at called
  · cases (Prod.mk.inj called).2.symm.trans shown
  · rename_i spoken
    cases (Prod.mk.inj called).2.symm.trans shown
    exact ⟨rfl,rfl,rfl,by simpa using spoken⟩

theorem ends_caller (ends : Call.ends call = true) : ∃ text drawn, call = .caller text true drawn := by
  cases call with
  | caller text isFinal drawn =>
    cases ends
    exact ⟨text,drawn,rfl⟩
  | assistant => cases ends

theorem call_ends {s : TranscriptStream} (ends : Call.ends call = true) : (s.call call).1.callerSegment = none := by
  obtain ⟨text,drawn,rfl⟩ := ends_caller ends
  exact (caller_called s text true drawn).segment

-- Without a final call the open segment stays open.
theorem after_open {s : TranscriptStream} (segment : s.callerSegment = some uuid)
    (unended : ∀ call ∈ calls, Call.ends call = false) : (s.after calls).callerSegment = some uuid := by
  induction calls generalizing s with
  | nil => exact segment
  | cons call rest ih =>
    obtain ⟨first,others⟩ := List.forall_mem_cons.mp unended
    apply ih _ others
    cases call with
    | caller text isFinal drawn =>
      cases first
      have next := (caller_called s text false drawn).segment
      rw [segment] at next
      exact next
    | assistant text itemId drawn => exact (assistant_frame s text itemId drawn).1.trans segment

theorem after_partial (s : TranscriptStream) (calls : List Call) (quiet : s.callerText = "") :
    (s.after calls).callerText = (lastPartial calls).getD "" := by
  induction calls using List.reverseRecOn with
  | nil => exact quiet
  | append_singleton front call ih =>
    rw [after_snoc,lastPartial_snoc]
    cases call with
    | caller text isFinal drawn =>
      have kept := (caller_called (s.after front) text isFinal drawn).kept
      rw [ih] at kept
      simp only [TranscriptStream.call,kept,keepPartial]
      cases isFinal <;> cases isBlank text <;> rfl
    | assistant text itemId drawn => exact (assistant_frame (s.after front) text itemId drawn).2.trans ih

-- The segment of a call is the open one or one that was drawn up to the call.
theorem segment_known (s : TranscriptStream) (calls : List Call) (back : List Call) :
    (((s.after calls).callerSegment.getD drawn.segment).text) ∈
      (s.callerSegment.map (·.text)).toList ++ s.generated (calls ++ .caller text isFinal drawn :: back) := by
  induction calls generalizing s with
  | nil =>
    simp only [TranscriptStream.after,List.foldl_nil,List.nil_append,TranscriptStream.generated,TranscriptStream.opens]
    cases s.callerSegment <;> simp
  | cons call rest ih =>
    rcases List.mem_append.mp (ih (s.call call).1) with still | drew
    · rw [List.cons_append,TranscriptStream.generated]
      cases call with
      | assistant words itemId d =>
        simp only [TranscriptStream.call,(assistant_frame s words itemId d).1] at still
        exact List.mem_append_left _ still
      | caller words final d =>
        have next := (caller_called s words final d).segment
        simp only [TranscriptStream.call,next] at still
        cases final with
        | true => simp at still
        | false =>
          simp only [Bool.false_eq_true,if_false,Option.map_some,Option.toList_some] at still
          unfold TranscriptStream.opens
          cases opened : s.callerSegment with
          | none =>
            rw [opened] at still
            exact List.mem_append_right _ (List.mem_append_left _ still)
          | some uuid =>
            rw [opened] at still
            exact List.mem_append_left _ still
    · rw [List.cons_append,TranscriptStream.generated]
      exact List.mem_append_right _ (List.mem_append_right _ drew)

-- An assistant segment is not the text of a UUID.
theorem assistant_apart (uuid : Uuid4) (itemId : String) : "assistant-" ++ itemId ≠ uuid.text := by
  intro same
  obtain ⟨n,_,printed⟩ := uuid.canonical
  have second : (uuid.text.toList)[1]? = some 's' := by
    rw [← same,String.toList_append]
    rfl
  have inside : 's' ∈ (Uuid.print n).toList := by
    rw [printed]
    exact List.mem_of_getElem? second
  have letters : ∀ d, d < 16 → 's' ≠ Nat.digitChar d := by decide
  rcases Uuid.print_mem inside with dash | ⟨d,below,letter⟩
  · cases dash
  · exact letters d below letter

-- What the stream returns for a call after others.
def TranscriptStream.output (s : TranscriptStream) (front : List Call) (call : Call) : Option TranscriptEvent :=
  ((s.after front).call call).2

theorem caller_segment {s : TranscriptStream} (caller : Call.isCaller call = true) (shown : s.output front call = some e)
    (rest : List Call) :
    e.segmentId ∈ (s.callerSegment.map (·.text)).toList ++ s.generated (front ++ call :: rest) := by
  cases call with
  | caller text isFinal drawn =>
    rw [(caller_shows shown).segment]
    exact segment_known s front rest
  | assistant => cases caller

-- A final call between two events of the caller parts their segments.
theorem segments_part {s : TranscriptStream}
    (distinct : (s.generated (front ++ last :: (rest ++ two :: back))).Nodup) (ends : Call.ends last = true)
    (inside : e ∈ s.generated (front ++ [last])) (caller : Call.isCaller two = true)
    (shown : s.output (front ++ last :: rest) two = some f) : e ≠ f.segmentId := by
  have shape : front ++ last :: (rest ++ two :: back) = (front ++ [last]) ++ (rest ++ two :: back) := by simp
  have resumed : s.after (front ++ last :: rest) = (s.after (front ++ [last])).after rest := by
    rw [← after_append,List.append_assoc]
    rfl
  have none : (s.after (front ++ [last])).callerSegment = none := by
    rw [after_snoc]
    exact call_ends ends
  rw [TranscriptStream.output,resumed] at shown
  have later := caller_segment caller shown back
  rw [none] at later
  rw [shape,generated_append] at distinct
  exact (List.nodup_append.mp distinct).2.2 e inside _ (by simpa using later)

-- The partial of an open segment is remembered until the segment ends.
theorem lastPartial_open (front : List Call) (unended : ∀ call ∈ middle, Call.ends call = false)
    (spoken : isBlank text = false) :
    ∃ words, lastPartial (front ++ .caller text false drawn :: middle) = some words ∧ isBlank words = false := by
  induction middle using List.reverseRecOn with
  | nil =>
    refine ⟨text,?_,spoken⟩
    rw [lastPartial_snoc]
    simp [keepPartial,spoken]
  | append_singleton rest call ih =>
    obtain ⟨words,kept,said⟩ := ih fun other member => unended other (List.mem_append_left _ member)
    have last := unended call (by simp)
    rw [← List.cons_append,← List.append_assoc,lastPartial_snoc,kept]
    cases call with
    | assistant => exact ⟨words,rfl,said⟩
    | caller next isFinal d =>
      cases last
      cases blank : isBlank next with
      | true => exact ⟨words,by simp [keepPartial,blank],said⟩
      | false => exact ⟨next,by simp [keepPartial,blank],blank⟩

structure Disciplined (s : TranscriptStream) (calls : List Call) : Prop where
  numbered : ((s.produced calls).filterMap id).map (·.sequence) =
    List.range' 1 ((s.produced calls).filterMap id).length
  silent : ∀ front call back, calls = front ++ call :: back → s.output front call = none →
    (s.after (front ++ [call])).sequence = (s.after front).sequence
  segments : ∀ front one middle two back e f, calls = front ++ one :: (middle ++ two :: back) →
    one.isCaller = true → two.isCaller = true → s.output front one = some e →
    s.output (front ++ one :: middle) two = some f →
      (e.segmentId = f.segmentId ↔ ∀ call ∈ one :: middle, call.ends = false)
  final : ∀ front one middle two back e f, calls = front ++ one :: (middle ++ two :: back) →
    one.isCaller = true → s.output front one = some e → e.isFinal = true →
    s.output (front ++ one :: middle) two = some f → f.segmentId ≠ e.segmentId
  closes : ∀ front one middle two back e, calls = front ++ one :: (middle ++ two :: back) →
    one.isCaller = true → s.output front one = some e → e.isFinal = false →
    (∀ call ∈ middle, call.ends = false) → two.ends = true →
      ∃ f words, s.output (front ++ one :: middle) two = some f ∧ f.isFinal = true ∧ f.segmentId = e.segmentId ∧
        f.text = clipBytes maxTextBytes (sanitized words) ∧ (isBlank two.text = false → words = two.text) ∧
        (isBlank two.text = true → lastPartial (front ++ one :: middle) = some words)

-- Between the calls of one segment no final call stands.
theorem segments_same {s : TranscriptStream} (unended : ∀ call ∈ one :: middle, Call.ends call = false)
    (first : Call.isCaller one = true) (second : Call.isCaller two = true) (shown : s.output front one = some e)
    (again : s.output (front ++ one :: middle) two = some f) : e.segmentId = f.segmentId := by
  obtain ⟨open_,rest⟩ := List.forall_mem_cons.mp unended
  cases one with
  | assistant => cases first
  | caller text isFinal drawn =>
    cases two with
    | assistant => cases second
    | caller text' isFinal' drawn' =>
      cases open_
      have opened : ((s.after front).call (.caller text false drawn)).1.callerSegment =
          some ((s.after front).callerSegment.getD drawn.segment) := (caller_called (s.after front) text false drawn).segment
      have kept : (s.after (front ++ .caller text false drawn :: middle)).callerSegment =
          some ((s.after front).callerSegment.getD drawn.segment) := by
        rw [after_append]
        exact @after_open _ middle _ opened rest
      rw [(caller_shows shown).segment,(caller_shows again).segment,kept]
      rfl

theorem segments_exact {s : TranscriptStream} (closed : s.callerSegment = none)
    (distinct : (s.generated (front ++ one :: (middle ++ two :: back))).Nodup) (first : Call.isCaller one = true)
    (second : Call.isCaller two = true) (shown : s.output front one = some e)
    (again : s.output (front ++ one :: middle) two = some f) :
    e.segmentId = f.segmentId ↔ ∀ call ∈ one :: middle, Call.ends call = false := by
  refine ⟨fun same call member => ?_,fun unended => segments_same unended first second shown again⟩
  by_contra ended
  obtain ⟨earlier,later,split⟩ := List.append_of_mem member
  have whole : front ++ one :: (middle ++ two :: back) = (front ++ earlier) ++ call :: (later ++ two :: back) := by
    rw [← List.cons_append,split]
    simp
  have inside : e.segmentId ∈ s.generated ((front ++ earlier) ++ [call]) := by
    obtain ⟨rest,shape⟩ : ∃ rest, (front ++ earlier) ++ [call] = front ++ one :: rest := by
      cases earlier with
      | nil =>
        obtain ⟨rfl,_⟩ := List.cons.inj split
        exact ⟨[],by simp⟩
      | cons head more =>
        obtain ⟨rfl,_⟩ := List.cons.inj split
        exact ⟨more ++ [call],by simp⟩
    have known := caller_segment first shown rest
    rw [closed,← shape] at known
    simpa using known
  have resumed : front ++ one :: middle = (front ++ earlier) ++ call :: later := by
    rw [split]
    simp
  rw [whole] at distinct
  rw [resumed] at again
  exact segments_part distinct (by simpa using ended) inside second again same

theorem segment_closes {s : TranscriptStream} (quiet : s.callerText = "") (first : Call.isCaller one = true)
    (shown : s.output front one = some e) (part : e.isFinal = false)
    (unended : ∀ call ∈ middle, Call.ends call = false) (ends : Call.ends two = true) :
    ∃ f words, s.output (front ++ one :: middle) two = some f ∧ f.isFinal = true ∧ f.segmentId = e.segmentId ∧
      f.text = clipBytes maxTextBytes (sanitized words) ∧ (isBlank two.text = false → words = two.text) ∧
      (isBlank two.text = true → lastPartial (front ++ one :: middle) = some words) := by
  obtain ⟨text',drawn',rfl⟩ := ends_caller ends
  cases one with
  | assistant => cases first
  | caller text isFinal drawn =>
    have shows_ := caller_shows shown
    cases shows_.final.symm.trans part
    have spoken : isBlank text = false := by simpa [TranscriptStream.spoken] using shows_.spoken
    have remembers : ∃ words, lastPartial (front ++ .caller text false drawn :: middle) = some words ∧
        isBlank words = false := lastPartial_open front unended spoken
    obtain ⟨words,remembered,said⟩ := remembers
    have held := after_partial s (front ++ .caller text false drawn :: middle) quiet
    rw [remembered,Option.getD_some] at held
    have chosen : isBlank ((s.after (front ++ .caller text false drawn :: middle)).spoken text' true) = false := by
      simp only [TranscriptStream.spoken,held]
      split
      · exact said
      · rename_i loud
        simpa using loud
    have called := (caller_called (s.after (front ++ .caller text false drawn :: middle)) text' true drawn').shown
    rw [chosen] at called
    have made : s.output (front ++ .caller text false drawn :: middle) (.caller text' true drawn') = some _ :=
      (Prod.mk.inj called).2
    have same := segments_same (List.forall_mem_cons.mpr ⟨rfl,unended⟩) first rfl shown made
    refine ⟨_,_,made,rfl,same.symm,rfl,fun loud => ?_,fun blank => ?_⟩
    · simp [TranscriptStream.spoken,Call.text] at loud ⊢
      simp [loud]
    · simp only [Call.text] at blank
      simp [TranscriptStream.spoken,blank,held,remembered]

theorem segment_discipline (callId : String) (streamId : Uuid4) (calls : List Call)
    (distinct : ((TranscriptStream.initial callId streamId).generated calls).Nodup) :
    Disciplined (TranscriptStream.initial callId streamId) calls := by
  refine ⟨produced_numbered _ calls,?_,?_,?_,?_⟩
  · intro front call back _ silent
    rw [after_snoc]
    rcases call_numbered ((TranscriptStream.initial callId streamId).after front) call with ⟨_,same⟩ | ⟨e,shown,_⟩
    · exact same
    · cases silent.symm.trans shown
  · rintro front one middle two back e f rfl first second shown again
    exact segments_exact rfl distinct first second shown again
  · rintro front one middle two back e f rfl first shown final again same
    cases one with
    | assistant => cases first
    | caller text isFinal drawn =>
      cases two with
      | assistant text' itemId drawn' =>
        rw [(caller_shows shown).segment,(assistant_shows again).1] at same
        exact assistant_apart _ itemId same
      | caller text' isFinal' drawn' =>
        have unended := (segments_exact rfl distinct rfl rfl shown again).mp same.symm
        have ends := unended _ List.mem_cons_self
        cases ((caller_shows shown).final.symm.trans final).symm.trans ends
  · rintro front one middle two back e rfl first shown part unended ends
    exact segment_closes rfl first shown part unended ends

def sampleCalls : List Call :=
  [.caller "Can you help" false (sampleDrawn 1),.assistant "Yes." "item" (sampleDrawn 2),
   .caller "" true (sampleDrawn 3),.caller "Tomorrow" true (sampleDrawn 4)]

theorem sample_discipline : Disciplined sampleStream sampleCalls := by
  apply segment_discipline
  have drawn : sampleStream.generated sampleCalls = [Uuid.print 1,Uuid.print 4] := by decide +kernel
  rw [← sampleStream,drawn]
  decide +kernel

end AidaAgent.Transcripts
