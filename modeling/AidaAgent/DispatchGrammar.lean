import AidaAgent.Config

namespace AidaAgent.Config
open JsonText PythonText

-- [A-Za-z0-9] and some more characters, in full, between `least` and `most` of them.
structure Word (more : List Char) (least most : Nat) (text : String) : Prop where
  long : least ≤ text.length
  short : text.length ≤ most
  spelled : ∀ c ∈ text.toList, ('A' ≤ c ∧ c ≤ 'Z') ∨ ('a' ≤ c ∧ c ≤ 'z') ∨ ('0' ≤ c ∧ c ≤ '9') ∨ c ∈ more

theorem isAlphanumeric_exact : isAlphanumeric c = true ↔
    ('A' ≤ c ∧ c ≤ 'Z') ∨ ('a' ≤ c ∧ c ≤ 'z') ∨ ('0' ≤ c ∧ c ≤ '9') := by
  simp only [isAlphanumeric,Char.isAlpha,Char.isUpper,Char.isLower,Char.isDigit,Bool.or_eq_true,Bool.and_eq_true,
    decide_eq_true_eq,or_assoc]
  exact Iff.rfl

theorem matched_word {cls : Char → Bool} (spelled : ∀ c, cls c = true ↔ isAlphanumeric c = true ∨ c ∈ more) :
    matched (fullMatch cls least most) message value = .ok text ↔ value = .str text ∧ Word more least most text := by
  rw [matched_ok,fullMatch_exact]
  refine and_congr_right fun _ => ⟨?_,?_⟩
  · rintro ⟨long,short,all⟩
    refine ⟨long,short,fun c member => ?_⟩
    have own := (spelled c).mp (all c member)
    rw [isAlphanumeric_exact] at own
    simpa only [or_assoc] using own
  · rintro ⟨long,short,all⟩
    refine ⟨long,short,fun c member => (spelled c).mpr ?_⟩
    have own := all c member
    rw [isAlphanumeric_exact]
    simpa only [or_assoc] using own

theorem credential_exact : credential value = .ok text ↔ value = .str text ∧ Word ['_','-'] 43 256 text :=
  matched_word fun c => by simp [or_assoc]

theorem pbxInstanceId_exact : pbxInstanceId value = .ok text ↔ value = .str text ∧ Word ['_','.','-'] 1 80 text :=
  matched_word fun c => by simp [or_assoc]

theorem extensionContext_exact : extensionContext value = .ok text ↔ value = .str text ∧ Word ['_','.','-'] 1 40 text :=
  matched_word fun c => by simp [or_assoc]

-- The dispatch of a call: its document and the four texts in it.
structure Dispatched (py : Interpreter) (raw roomName : String) (d : DispatchConfiguration) : Prop where
  size : raw.utf8ByteSize ≤ 16384
  document : ∃ fields, loads py raw = some (.obj fields) ∧ Everywhere List.Nodup (fun _ => False) (.obj fields) ∧
    (∀ key, key ∈ keys fields ↔ key ∈ ["callSessionId","bootstrapToken","pbxInstanceId","context"]) ∧
    get fields "callSessionId" = some (.str d.callId) ∧ get fields "bootstrapToken" = some (.str d.bootstrapToken) ∧
    get fields "pbxInstanceId" = some (.str d.pbxInstanceId) ∧ get fields "context" = some (.str d.context)
  call : Uuid.Hyphenated d.callId
  room : roomName = "aida-" ++ d.callId
  token : Word ['_','-'] 43 256 d.bootstrapToken
  instance_ : Word ['_','.','-'] 1 80 d.pbxInstanceId
  context : Word ['_','.','-'] 1 40 d.context

theorem parse_dispatched : DispatchConfiguration.parse py raw roomName = .ok d ↔ Dispatched py raw roomName d := by
  obtain ⟨callId,bootstrapToken,pbxInstanceId,context⟩ := d
  simp only [DispatchConfiguration.parse,bind_ok,require_ok,sameKeys_exact,canonicalUuid_exact,credential_exact,
    pbxInstanceId_exact,extensionContext_exact,strictJson_exact,beq_iff_eq,pure_ok,item_str,Uuid.canonical_hyphenated]
  constructor
  · rintro ⟨fields,⟨size,read,strict⟩,_,names,call,⟨callText,hyphenated⟩,_,room,token,⟨tokenText,tokenWord⟩,
      instance_,⟨instanceText,instanceWord⟩,context_,⟨contextText,contextWord⟩,same⟩
    cases same
    exact ⟨size,⟨fields,read,strict,names,callText,tokenText,instanceText,contextText⟩,hyphenated,room,tokenWord,
      instanceWord,contextWord⟩
  · rintro ⟨size,⟨fields,read,strict,names,callText,tokenText,instanceText,contextText⟩,hyphenated,room,tokenWord,
      instanceWord,contextWord⟩
    exact ⟨fields,⟨size,read,strict⟩,⟨⟩,names,callId,⟨callText,hyphenated⟩,⟨⟩,room,bootstrapToken,⟨tokenText,tokenWord⟩,
      pbxInstanceId,⟨instanceText,instanceWord⟩,context,⟨contextText,contextWord⟩,rfl⟩

-- What a refusal can say.
def dispatchMessages : List String :=
  ["invalid JSON object","invalid dispatch fields","canonical UUID required","dispatch room does not match call",
   "invalid call credential","invalid PBX instance ID","invalid extension context"]

theorem bind_error {x : Checked α} {f : α → Checked β} (refused : (x >>= f) = .error e) :
    x = .error e ∨ ∃ a, x = .ok a ∧ f a = .error e := by
  cases x with
  | error own =>
    left
    cases refused
    rfl
  | ok a => exact .inr ⟨a,rfl,refused⟩

theorem require_message (refused : require holds message = .error e) : e = ⟨message⟩ := by
  unfold require refuse at refused
  split at refused
  · cases refused
  · cases refused
    rfl

theorem matched_message (refused : matched accepts message value = .error e) : e = ⟨message⟩ := by
  unfold matched refuse at refused
  split at refused
  · split at refused
    · cases refused
    · cases refused
      rfl
  · cases refused
    rfl

theorem parse_message (refused : DispatchConfiguration.parse py raw roomName = .error e) : e.message ∈ dispatchMessages := by
  unfold DispatchConfiguration.parse at refused
  rcases bind_error refused with json | ⟨_,_,refused⟩
  · rw [strictJson_message json]
    decide
  rcases bind_error refused with fields | ⟨_,_,refused⟩
  · rw [require_message fields]
    decide
  rcases bind_error refused with call | ⟨_,_,refused⟩
  · rw [matched_message call]
    decide
  rcases bind_error refused with room | ⟨_,_,refused⟩
  · rw [require_message room]
    decide
  rcases bind_error refused with token | ⟨_,_,refused⟩
  · rw [matched_message token]
    decide
  rcases bind_error refused with instance_ | ⟨_,_,refused⟩
  · rw [matched_message instance_]
    decide
  rcases bind_error refused with context | ⟨_,_,refused⟩
  · rw [matched_message context]
    decide
  · cases refused

-- The parser returns on its grammar, with the four texts of the document, and refuses
-- everything else.
theorem dispatch_exact (py : Interpreter) (raw roomName : String) :
    (∀ d, DispatchConfiguration.parse py raw roomName = .ok d ↔ Dispatched py raw roomName d) ∧
      ((∀ d, ¬ Dispatched py raw roomName d) → ∃ message ∈ dispatchMessages,
        DispatchConfiguration.parse py raw roomName = .error ⟨message⟩) := by
  refine ⟨fun d => parse_dispatched,fun undispatched => ?_⟩
  cases parsed : DispatchConfiguration.parse py raw roomName with
  | ok d => exact absurd (parse_dispatched.mp parsed) (undispatched d)
  | error e => exact ⟨e.message,parse_message parsed,rfl⟩

end AidaAgent.Config
