import AidaAgent.Library.Utf8Clip
import AidaAgent.Library.Uuid

namespace AidaAgent.Transcripts
open JsonText PythonText

def maxTextBytes : Nat := 6000

-- str(uuid4())
structure Uuid4 where
  text : String
  canonical : Uuid.Canonical text

inductive Speaker where
  | caller | assistant
  deriving DecidableEq, Repr

def Speaker.name : Speaker → String
  | .caller => "caller"
  | .assistant => "assistant"

structure TranscriptEvent where
  callId : String
  eventId : Uuid4
  streamId : Uuid4
  sequence : Nat
  segmentId : String
  text : String
  isFinal : Bool
  timestamp : String
  speaker : Speaker

def TranscriptEvent.json (e : TranscriptEvent) : Json :=
  .obj [("type",.str "transcript"),("callId",.str e.callId),("eventId",.str e.eventId.text),
    ("streamId",.str e.streamId.text),("sequence",.int e.sequence),("segmentId",.str e.segmentId),
    ("text",.str e.text),("isFinal",.bool e.isFinal),("timestamp",.str e.timestamp),
    ("speaker",.str e.speaker.name)]

-- json.dumps(event,ensure_ascii=False,separators=(",",":")).encode()
def TranscriptEvent.payload (py : Interpreter) (e : TranscriptEvent) : ByteArray :=
  (dumps py ⟨false,false⟩ e.json).toUTF8

structure TranscriptStream where
  callId : String
  streamId : Uuid4
  sequence : Nat
  callerSegment : Option Uuid4
  callerText : String

def TranscriptStream.initial (callId : String) (streamId : Uuid4) : TranscriptStream := ⟨callId,streamId,0,none,""⟩

-- The class of re.sub(r"[\x00-\x08\x0b\x0c\x0e-\x1f]","",text)
def isControl (c : Char) : Bool :=
  c.toNat ≤ 0x08 || c.toNat = 0x0b || c.toNat = 0x0c || (0x0e ≤ c.toNat && c.toNat ≤ 0x1f)

def sanitized (text : String) : String := String.ofList (text.toList.filter fun c => !isControl c)

-- What a call draws from uuid4() and the clock, where it asks them.
structure Drawn where
  segment : Uuid4
  event : Uuid4
  timestamp : String

-- TranscriptStream._event
def TranscriptStream.event (s : TranscriptStream) (text : String) (final : Bool) (segment : String) (speaker : Speaker)
    (drawn : Drawn) : TranscriptStream × Option TranscriptEvent :=
  if isBlank text then (s,none)
  else
    ({s with sequence := s.sequence + 1},
      some ⟨s.callId,drawn.event,s.streamId,s.sequence + 1,segment,clipBytes maxTextBytes (sanitized text),final,
        drawn.timestamp,speaker⟩)

def TranscriptStream.caller (s : TranscriptStream) (text : String) (isFinal : Bool) (drawn : Drawn) :
    TranscriptStream × Option TranscriptEvent :=
  let segment := s.callerSegment.getD drawn.segment
  let s := {s with callerSegment := some segment}
  let s := if isBlank text then s else {s with callerText := text}
  -- A blank final closes the partial that is on display.
  let text := if isBlank text = true ∧ isFinal = true then s.callerText else text
  let (s,event) := s.event text isFinal segment.text .caller drawn
  (if isFinal then {s with callerSegment := none, callerText := ""} else s,event)

def TranscriptStream.assistant (s : TranscriptStream) (text itemId : String) (drawn : Drawn) :
    TranscriptStream × Option TranscriptEvent :=
  s.event text true ("assistant-" ++ itemId) .assistant drawn

theorem event_exact {s : TranscriptStream} {segment : String} : s.event text final segment speaker drawn = (after,some e) ↔
    isBlank text = false ∧ after = {s with sequence := s.sequence + 1} ∧
      e = ⟨s.callId,drawn.event,s.streamId,s.sequence + 1,segment,clipBytes maxTextBytes (sanitized text),final,
        drawn.timestamp,speaker⟩ := by
  unfold TranscriptStream.event
  split
  · rename_i blank
    simp [blank]
  · rename_i spoken
    simp only [Bool.not_eq_true] at spoken
    simp only [spoken,Prod.mk.injEq,Option.some.injEq,true_and]
    exact ⟨fun same => ⟨same.1.symm,same.2.symm⟩,fun same => ⟨same.1.symm,same.2.symm⟩⟩

-- The longest prefix of `whole` that takes no more than `limit` bytes.
structure LongestPrefix (limit : Nat) (whole part : String) : Prop where
  front : part.toList <+: whole.toList
  small : part.utf8ByteSize ≤ limit
  longest : ∀ other : String, other.toList <+: whole.toList → other.utf8ByteSize ≤ limit → other.toList <+: part.toList

theorem size_weigh (text : String) : text.utf8ByteSize = weigh Char.utf8Size text.toList := by
  rw [← utf8_size,String.ofList_toList]

theorem clipBytes_longest (limit : Nat) (text : String) : LongestPrefix limit text (clipBytes limit text) := by
  refine ⟨?_,?_,?_⟩
  · rw [clipBytes_fit]
    exact fit_front limit _
  · rw [size_weigh,clipBytes_fit]
    exact fit_size limit _
  · intro other inside small
    rw [size_weigh] at small
    rw [clipBytes_fit]
    exact fit_longest inside small

-- Two revisions of one utterance are cut at the same place.
theorem clipBytes_grows {earlier later : String} (inside : earlier.toList <+: later.toList) :
    (clipBytes limit earlier).toList <+: (clipBytes limit later).toList ∧
      (clipBytes limit earlier ≠ earlier → clipBytes limit later = clipBytes limit earlier) := by
  obtain ⟨grown,same⟩ := @fit_grows earlier.toList later.toList limit inside
  rw [clipBytes_fit,clipBytes_fit]
  refine ⟨grown,fun cut => String.toList_injective ?_⟩
  rw [clipBytes_fit,clipBytes_fit]
  apply same
  intro whole
  apply cut
  apply String.toList_injective
  rw [clipBytes_fit,whole]

-- What is left of a text takes at most two bytes in JSON for each of its own.
theorem escapeChar_size (plain : isControl c = false) :
    weigh Char.utf8Size (escapeChar false c) ≤ 2 * c.utf8Size := by
  have positive := c.utf8Size_pos
  cases short : escapeShort c with
  | some letter =>
    have one : letter.utf8Size = 1 := by
      unfold escapeShort at short
      split_ifs at short <;> cases short <;> rfl
    have slash : ('\\' : Char).utf8Size = 1 := rfl
    simp only [escapeChar,short,weigh_cons,weigh_nil,one,slash]
    omega
  | none =>
    have printed : ¬ c.toNat < 0x20 := by
      intro low
      have tab : c ≠ '\t' := by rintro rfl; cases short
      have line : c ≠ '\n' := by rintro rfl; cases short
      have back : c ≠ '\r' := by rintro rfl; cases short
      have numbers : ∀ d : Char, c ≠ d → c.toNat ≠ d.toNat := fun d differs same => differs (Char.toNat_inj.mp same)
      have nine : c.toNat ≠ 9 := numbers '\t' tab
      have ten : c.toNat ≠ 10 := numbers '\n' line
      have thirteen : c.toNat ≠ 13 := numbers '\r' back
      simp only [isControl,Bool.or_eq_false_iff,decide_eq_false_iff_not,Bool.and_eq_false_iff] at plain
      omega
    simp only [escapeChar,short,if_neg printed,or_true,if_true,weigh_cons,weigh_nil]
    omega

theorem sanitized_plain {text : String} (member : c ∈ (sanitized text).toList) : isControl c = false := by
  rw [sanitized,String.toList_ofList] at member
  simpa using (List.mem_filter.mp member).2

theorem writeString_size (text : String) (plain : ∀ c ∈ text.toList, isControl c = false) :
    weigh Char.utf8Size (writeString false text) ≤ 2 + 2 * text.utf8ByteSize := by
  rw [weigh_writeString rfl,size_weigh]
  generalize text.toList = cs at plain
  induction cs with
  | nil => simp
  | cons c rest ih =>
    obtain ⟨head,tail⟩ := List.forall_mem_cons.mp plain
    have first := escapeChar_size head
    have others := ih tail
    simp only [weigh_cons]
    omega

-- The text is the only part of the packet that the two payloads do not share.
theorem payload_size (py : Interpreter) (e : TranscriptEvent) (plain : ∀ c ∈ e.text.toList, isControl c = false) :
    (e.payload py).size ≤ 2 * e.text.utf8ByteSize + ({e with text := ""}.payload py).size := by
  have sized : ∀ text : String, text.toUTF8.size = text.utf8ByteSize := fun _ => rfl
  have quoted := writeString_size e.text plain
  have empty : weigh Char.utf8Size (writeString false "") = 2 := rfl
  simp only [TranscriptEvent.payload,TranscriptEvent.json,sized,dumps,utf8_size,write,writeFields,weigh_append,
    weigh_cons,weigh_nil,empty]
  omega

theorem packet_limits :
    (∀ s text final segment speaker drawn after e,
      TranscriptStream.event s text final segment speaker drawn = (after,some e) →
        LongestPrefix maxTextBytes (sanitized text) e.text) ∧
    (∀ s text final segment speaker drawn after e s' text' final' segment' speaker' drawn' after' e',
      TranscriptStream.event s text final segment speaker drawn = (after,some e) →
      TranscriptStream.event s' text' final' segment' speaker' drawn' = (after',some e') →
      (sanitized text).toList <+: (sanitized text').toList →
        e.text.toList <+: e'.text.toList ∧ (e.text ≠ sanitized text → e'.text = e.text)) ∧
    (∀ py s text final segment speaker drawn after e,
      TranscriptStream.event s text final segment speaker drawn = (after,some e) →
        (e.payload py).size ≤ 12000 + ({e with text := ""}.payload py).size) := by
  refine ⟨?_,?_,?_⟩
  · intro s text final segment speaker drawn after e made
    obtain ⟨_,_,rfl⟩ := event_exact.mp made
    exact clipBytes_longest maxTextBytes (sanitized text)
  · intro s text final segment speaker drawn after e s' text' final' segment' speaker' drawn' after' e' made made' inside
    obtain ⟨_,_,rfl⟩ := event_exact.mp made
    obtain ⟨_,_,rfl⟩ := event_exact.mp made'
    exact clipBytes_grows inside
  · intro py s text final segment speaker drawn after e made
    obtain ⟨_,_,rfl⟩ := event_exact.mp made
    have clipped := clipBytes_longest maxTextBytes (sanitized text)
    have small : (clipBytes maxTextBytes (sanitized text)).utf8ByteSize ≤ 6000 := clipped.small
    have bound := payload_size py
      ⟨s.callId,drawn.event,s.streamId,s.sequence + 1,segment,clipBytes maxTextBytes (sanitized text),final,
        drawn.timestamp,speaker⟩ fun c member => sanitized_plain (clipped.front.subset member)
    dsimp only at bound ⊢
    omega

def sampleUuid (n : UInt8) : Uuid4 := ⟨Uuid.print n.toNat,n.toNat,by have small := n.toNat_lt; omega,rfl⟩
def sampleDrawn (n : UInt8) : Drawn := ⟨sampleUuid n,sampleUuid (n + 100),"2026-09-06T12:00:00.000Z"⟩
def sampleStream : TranscriptStream := .initial "b8a4b1a2-6a52-4f0d-9a55-0e6c0b1b8f11" (sampleUuid 0)

-- A letter and so many characters of three bytes each. At 2000 of them the limit falls
-- into the last character.
def longTurn (count : Nat) : String := String.ofList ('a' :: List.replicate count '語')

theorem longTurn_made (count : Nat) : ∃ after e,
    sampleStream.event (longTurn count) true "assistant-item" .assistant (sampleDrawn 1) = (after,some e) := by
  have spoken : isBlank (longTurn count) = false := by
    rw [isBlank,longTurn,String.toList_ofList]
    rfl
  exact ⟨_,_,event_exact.mpr ⟨spoken,rfl,rfl⟩⟩

theorem longTurn_plain (count : Nat) : sanitized (longTurn count) = longTurn count := by
  have plain : ∀ c ∈ (longTurn count).toList, !isControl c := by
    intro c member
    rw [longTurn,String.toList_ofList] at member
    rcases List.mem_cons.mp member with rfl | wide
    · rfl
    · rw [List.eq_of_mem_replicate wide]
      rfl
  rw [sanitized,List.filter_eq_self.mpr plain,String.ofList_toList]

theorem longTurn_size (count : Nat) : (longTurn count).utf8ByteSize = count * 3 + 1 := by
  rw [longTurn,utf8_size,weigh_cons,weigh_replicate]
  exact Nat.add_comm _ _

-- The revision shows no more than the text that was cut off.
theorem sample_limits : ∃ e e' : TranscriptEvent, LongestPrefix maxTextBytes (longTurn 2000) e.text ∧
    e.text ≠ longTurn 2000 ∧ e'.text = e.text ∧
    (e.payload verbatim).size ≤ 12000 + ({e with text := ""}.payload verbatim).size := by
  obtain ⟨after,e,made⟩ := longTurn_made 2000
  obtain ⟨after',e',made'⟩ := longTurn_made 2500
  have longest : LongestPrefix maxTextBytes (longTurn 2000) e.text := by
    rw [← longTurn_plain]
    exact packet_limits.1 _ _ _ _ _ _ _ _ made
  have cut : e.text ≠ longTurn 2000 := by
    intro whole
    have small := longest.small
    rw [whole,longTurn_size] at small
    exact absurd small (by decide)
  have grows : (sanitized (longTurn 2000)).toList <+: (sanitized (longTurn 2500)).toList := by
    rw [longTurn_plain,longTurn_plain,longTurn,longTurn,String.toList_ofList,String.toList_ofList]
    apply (List.prefix_cons_inj 'a').mpr
    exact ⟨List.replicate 500 '語',List.replicate_append_replicate⟩
  have revised := (packet_limits.2.1 _ _ _ _ _ _ _ _ _ _ _ _ _ _ _ _ made made' grows).2
  rw [longTurn_plain] at revised
  exact ⟨e,e',longest,cut,revised cut,packet_limits.2.2 verbatim _ _ _ _ _ _ _ _ made⟩

end AidaAgent.Transcripts
