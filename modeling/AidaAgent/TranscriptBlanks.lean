import AidaAgent.TranscriptSegments

namespace AidaAgent.Transcripts
open JsonText PythonText

-- What the handset is promised of a call after others: it shows no blank text,
-- and it takes no number where it has nothing to show.
structure NoBlank (s : TranscriptStream) (front : List Call) (call : Call) : Prop where
  shown : ∀ e, s.output front call = some e → isBlank e.text = false
  quiet : isBlank (clipBytes maxTextBytes (sanitized call.text)) = true →
    (call.ends = true → lastPartial front = none) →
      s.output front call = none ∧ (s.after (front ++ [call])).sequence = (s.after front).sequence

-- Some character is neither white space nor removed, and ends within the limit
-- once the removed ones before it are gone.
def Visible (text : String) : Prop :=
  ∃ front c back, text.toList = front ++ c :: back ∧ isSpace c = false ∧ isControl c = false ∧
    weigh Char.utf8Size (front.filter fun d => !isControl d) + c.utf8Size ≤ maxTextBytes

theorem visible_exact {text : String} : isBlank (clipBytes maxTextBytes (sanitized text)) = false ↔ Visible text := by
  have some_ : isBlank (clipBytes maxTextBytes (sanitized text)) = false ↔
      ∃ c ∈ fit maxTextBytes (text.toList.filter fun d => !isControl d), isSpace c = false := by
    rw [isBlank,clipBytes_fit,sanitized,String.toList_ofList,List.all_eq_false]
    simp
  rw [some_]
  constructor
  · rintro ⟨c,member,printed⟩
    obtain ⟨front,back,split,small⟩ := fit_mem.mp member
    obtain ⟨before,after,whole,rfl,rest⟩ := List.filter_eq_append_iff.mp split
    obtain ⟨gap,tail,shape,removed,kept,_⟩ := List.filter_eq_cons_iff.mp rest
    refine ⟨before ++ gap,c,tail,by rw [whole,shape,List.append_assoc],printed,by simpa using kept,?_⟩
    have none : gap.filter (fun d => !isControl d) = [] := List.filter_eq_nil_iff.mpr removed
    rwa [List.filter_append,none,List.append_nil]
  · rintro ⟨front,c,back,whole,printed,kept,small⟩
    refine ⟨c,fit_mem.mpr ⟨front.filter fun d => !isControl d,back.filter fun d => !isControl d,?_,small⟩,printed⟩
    rw [whole,List.filter_append,List.filter_cons_of_pos (by simpa using kept)]

theorem lastPartial_mem (kept : lastPartial calls = some words) :
    ∃ call ∈ calls, Call.text call = words ∧ isBlank words = false := by
  induction calls using List.reverseRecOn generalizing words with
  | nil => cases kept
  | append_singleton front call ih =>
    have older : lastPartial front = some words → ∃ call' ∈ front ++ [call], Call.text call' = words ∧ isBlank words = false := by
      intro still
      obtain ⟨call',member,facts⟩ := ih still
      exact ⟨call',List.mem_append_left _ member,facts⟩
    rw [lastPartial_snoc] at kept
    cases call with
    | assistant => exact older kept
    | caller text isFinal drawn =>
      cases isFinal with
      | true => cases kept
      | false =>
        cases blank : isBlank text with
        | true =>
          rw [keepPartial,blank] at kept
          exact older kept
        | false =>
          rw [keepPartial,blank] at kept
          cases kept
          exact ⟨.caller words false drawn,by simp,rfl,blank⟩

-- An event shows the text of its call or the partial that a blank final closes.
theorem output_text {s : TranscriptStream} (quiet : s.callerText = "") (shown : s.output front call = some e) :
    ∃ text, e.text = clipBytes maxTextBytes (sanitized text) ∧ isBlank text = false ∧
      (text = call.text ∨ lastPartial front = some text) := by
  cases call with
  | caller text isFinal drawn =>
    have facts := caller_shows shown
    refine ⟨_,facts.published,facts.spoken,?_⟩
    have held := after_partial s front quiet
    have loud := facts.spoken
    unfold TranscriptStream.spoken at loud ⊢
    split at loud
    · rename_i blank
      rw [if_pos blank]
      cases kept : lastPartial front with
      | none =>
        rw [held,kept] at loud
        cases loud
      | some words =>
        rw [held,kept]
        exact .inr rfl
    · rename_i spoken
      rw [if_neg spoken]
      exact .inl rfl
  | assistant text itemId drawn =>
    obtain ⟨_,published,spoken⟩ := assistant_shows shown
    exact ⟨text,published,spoken,.inl rfl⟩

theorem output_spoken {s : TranscriptStream} (loud : isBlank (Call.text call) = false) :
    ∃ e, s.output front call = some e ∧ e.text = clipBytes maxTextBytes (sanitized call.text) := by
  cases call with
  | caller text isFinal drawn =>
    have called := (caller_called (s.after front) text isFinal drawn).shown
    simp only [Call.text] at loud
    simp only [TranscriptStream.spoken,loud,Bool.false_eq_true,false_and,if_false] at called
    exact ⟨_,(Prod.mk.inj called).2,rfl⟩
  | assistant text itemId drawn =>
    cases out : ((s.after front).assistant text itemId drawn).2 with
    | none =>
      unfold TranscriptStream.assistant TranscriptStream.event at out
      split at out
      · rename_i blank
        cases blank.symm.trans loud
      · cases out
    | some e => exact ⟨e,out,(assistant_shows out).2.1⟩

theorem output_blank {s : TranscriptStream} (quiet : s.callerText = "") (blank : isBlank (Call.text call) = true)
    (nothing : Call.ends call = true → lastPartial front = none) : s.output front call = none := by
  cases out : s.output front call with
  | none => rfl
  | some e =>
    obtain ⟨text,_,loud,from_⟩ := output_text quiet out
    rcases from_ with rfl | kept
    · cases blank.symm.trans loud
    · cases call with
      | assistant words itemId drawn =>
        cases (assistant_shows out).2.2.symm.trans blank
      | caller words isFinal drawn =>
        cases isFinal with
        | true => cases (nothing rfl).symm.trans kept
        | false =>
          have spoken : isBlank words = false := by simpa [TranscriptStream.spoken] using (caller_shows out).spoken
          cases blank.symm.trans spoken

-- The promise is kept in exactly the runs whose every call is blank to begin with
-- or leaves something to see.
theorem blank_free_exact (callId : String) (streamId : Uuid4) (calls : List Call) :
    (∀ front call back, calls = front ++ call :: back → NoBlank (.initial callId streamId) front call) ↔
      ∀ call ∈ calls, isBlank call.text = true ∨ Visible call.text := by
  constructor
  · intro promised call member
    obtain ⟨front,back,split⟩ := List.append_of_mem member
    cases loud : isBlank call.text with
    | true => exact .inl rfl
    | false =>
      obtain ⟨e,out,text⟩ := @output_spoken call front (.initial callId streamId) loud
      have shown := (promised front call back split).shown e out
      rw [text] at shown
      exact .inr (visible_exact.mp shown)
  · rintro each front call back rfl
    have seen : ∀ call' ∈ front ++ call :: back, isBlank (Call.text call') = false → Visible call'.text :=
      fun call' member loud => (each call' member).resolve_left (by simp [loud])
    constructor
    · intro e out
      obtain ⟨text,published,loud,from_⟩ := output_text rfl out
      rw [published]
      apply visible_exact.mpr
      rcases from_ with rfl | kept
      · exact seen call (by simp) loud
      · obtain ⟨call',member,rfl,_⟩ := lastPartial_mem kept
        exact seen call' (List.mem_append_left _ member) loud
    · intro hidden nothing
      have blank : isBlank call.text = true := by
        rcases each call (by simp) with blank | visible
        · exact blank
        · cases hidden.symm.trans (visible_exact.mpr visible)
      have out := @output_blank call front (.initial callId streamId) rfl blank nothing
      refine ⟨out,?_⟩
      rw [after_snoc]
      rcases call_numbered ((TranscriptStream.initial callId streamId).after front) call with ⟨_,same⟩ | ⟨e,shown,_⟩
      · exact same
      · cases out.symm.trans shown

-- A lone control character is not white space, so the call goes through; then
-- nothing is left of its text.
theorem control_text_shown :
    (∃ e, sampleStream.output [] (.caller "\x01" true (sampleDrawn 1)) = some e ∧ e.text = "" ∧ e.sequence = 1) ∧
      ¬ NoBlank sampleStream [] (.caller "\x01" true (sampleDrawn 1)) := by
  have loud : isBlank (Call.text (.caller "\x01" true (sampleDrawn 1))) = false := by decide
  obtain ⟨e,out,text⟩ := @output_spoken (.caller "\x01" true (sampleDrawn 1)) [] sampleStream loud
  have empty : e.text = "" := by
    apply String.toList_injective
    have nothing : (sanitized (Call.text (.caller "\x01" true (sampleDrawn 1)))).toList = [] := by decide
    rw [text,clipBytes_fit,nothing]
    rfl
  refine ⟨⟨e,out,empty,?_⟩,fun promised => ?_⟩
  · rcases call_numbered sampleStream (.caller "\x01" true (sampleDrawn 1)) with ⟨silent,_⟩ | ⟨f,shown,number,_⟩
    · cases silent.symm.trans out
    · cases shown.symm.trans out
      exact number
  · have shown := promised.shown e out
    rw [empty] at shown
    cases shown

end AidaAgent.Transcripts
