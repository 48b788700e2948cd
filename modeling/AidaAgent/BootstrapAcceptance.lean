import AidaAgent.BootstrapConformance

namespace AidaAgent.Bootstrap
open JsonText PythonText Config

-- A call configuration that some conforming snapshot describes.
structure Sendable (call : CallConfiguration) : Prop where
  callId : Uuid.Canonical call.callId
  pbxInstance : pbxInstanceId (.str call.pbxInstanceId) = .ok call.pbxInstanceId
  extension : extensionContext (.str call.context) = .ok call.context
  tenant : call.tenantId = "" ∨ TenantId call.tenantId
  businessName : TextRow 256 true call.businessName
  prompt : TextRow 12000 true call.prompt
  locale : call.locale = "en-US"
  didE164 : isE164 call.didE164 = true
  tone : TextRow 256 false call.tone
  objective : TextRow 2048 false call.objective
  opening : TextRow 2048 false call.openingStatement
  transfer : TextRow 2048 false call.transferStatement
  failedTransfer : TextRow 2048 false call.failedTransferStatement
  schema : call.schemaVersion = 2

-- The snapshot that the authority stores for it.
def snapshotOf (call : CallConfiguration) : List (String × Json) :=
  [("schemaVersion",.int 2),("callSessionId",.str call.callId),("pbxInstanceId",.str call.pbxInstanceId),
   ("context",.str call.context),("businessName",.str call.businessName),("prompt",.str call.prompt),
   ("locale",.str call.locale),("didE164",.str call.didE164),("tone",.str call.tone),
   ("objective",.str call.objective),("openingStatement",.str call.openingStatement),
   ("transferStatement",.str call.transferStatement),
   ("failedTransferStatement",.str call.failedTransferStatement)] ++
    if call.tenantId = "" then [] else [("tenantId",.str call.tenantId)]

theorem snapshotOf_keys (call : CallConfiguration) :
    keys (snapshotOf call) = ["schemaVersion","callSessionId","pbxInstanceId","context","businessName","prompt",
      "locale","didE164","tone","objective","openingStatement","transferStatement","failedTransferStatement"] ++
        if call.tenantId = "" then [] else ["tenantId"] := by
  unfold keys snapshotOf
  split <;> rfl

theorem snapshotOf_distinct (call : CallConfiguration) : (keys (snapshotOf call)).Nodup := by
  rw [snapshotOf_keys]
  split <;> decide

theorem snapshotOf_get (member : (key,value) ∈ snapshotOf call) : get (snapshotOf call) key = some value :=
  (get_exact (snapshotOf_distinct call)).mpr member

theorem snapshotOf_contract (sendable : Sendable call) : Contract (snapshotOf call) call := by
  have text : ∀ {key text}, (key,.str text) ∈ snapshotOf call → itemOrEmpty (snapshotOf call) key = .str text :=
    fun member => itemOrEmpty_str.mpr (.inl (snapshotOf_get member))
  have value : ∀ {key text}, (key,.str text) ∈ snapshotOf call → item (snapshotOf call) key = .str text :=
    fun member => item_str.mpr (snapshotOf_get member)
  refine ⟨?_,?_,snapshotOf_get (by simp [snapshotOf]),⟨snapshotOf_get (by simp [snapshotOf]),sendable.callId⟩,?_,?_,?_,
    ⟨text (by simp [snapshotOf]),sendable.businessName⟩,⟨text (by simp [snapshotOf]),sendable.prompt⟩,
    ⟨text (by simp [snapshotOf]),sendable.locale⟩,⟨text (by simp [snapshotOf]),sendable.didE164⟩,
    ⟨text (by simp [snapshotOf]),sendable.tone⟩,⟨text (by simp [snapshotOf]),sendable.objective⟩,
    ⟨text (by simp [snapshotOf]),sendable.opening⟩,⟨text (by simp [snapshotOf]),sendable.transfer⟩,
    ⟨text (by simp [snapshotOf]),sendable.failedTransfer⟩,sendable.schema⟩
  · rw [snapshotOf_keys]
    split <;> decide
  · rw [snapshotOf_keys]
    split <;> decide
  · rw [@value _ call.pbxInstanceId (by simp [snapshotOf])]
    exact sendable.pbxInstance
  · rw [@value _ call.context (by simp [snapshotOf])]
    exact sendable.extension
  · by_cases empty : call.tenantId = ""
    · refine .inl ⟨get_none.mpr ?_,empty⟩
      rw [snapshotOf_keys,if_pos empty]
      decide
    · refine .inr ⟨snapshotOf_get (by simp [snapshotOf,empty]),?_⟩
      exact sendable.tenant.resolve_left empty

def responseOf (callId room : String) (leg : SipLeg) (snapshot : List (String × Json)) : List (String × Json) :=
  [("callSessionId",.str callId),("roomName",.str room),("sipParticipantIdentity",.str leg.identity),
   ("sipParticipantSid",.str leg.sid),("profileSnapshot",.obj snapshot)]

theorem responseOf_get (member : (key,value) ∈ responseOf callId room leg snapshot) :
    get (responseOf callId room leg snapshot) key = some value :=
  (get_exact (show (keys (responseOf callId room leg snapshot)).Nodup from by
    show responseKeys.Nodup
    decide)).mpr member

theorem responseOf_binds : Binds (responseOf d.callId room leg snapshot) d room leg :=
  ⟨fun _ => Iff.rfl,responseOf_get (by simp [responseOf]),responseOf_get (by simp [responseOf]),
    responseOf_get (by simp [responseOf]),responseOf_get (by simp [responseOf])⟩

-- Each field of it but the profile is a text.
theorem responseOf_field (member : field ∈ responseOf callId room leg snapshot) :
    field.2 = .obj snapshot ∨ ∃ text, field.2 = .str text := by
  simp only [responseOf,List.mem_cons,List.not_mem_nil,or_false] at member
  rcases member with rfl | rfl | rfl | rfl | rfl
  · exact .inr ⟨_,rfl⟩
  · exact .inr ⟨_,rfl⟩
  · exact .inr ⟨_,rfl⟩
  · exact .inr ⟨_,rfl⟩
  · exact .inl rfl

theorem responseOf_floatFree (flat : Flat snapshot) : FloatFree (.obj (responseOf callId room leg snapshot)) := by
  refine .obj fun field member => ?_
  rcases responseOf_field member with profile | ⟨text,written⟩
  · rw [profile]
    exact flat_floatFree flat
  · rw [written]
    exact .str

theorem responseOf_fits {py : Interpreter} (flat : Flat snapshot) :
    Fits py.recursionLimit (.obj (responseOf callId room leg snapshot)) := by
  obtain ⟨depth,deep⟩ : ∃ depth, py.recursionLimit = depth + 1 + 1 := by
    have enough := py.limit_ok
    exact ⟨py.recursionLimit - 2,by omega⟩
  rw [deep]
  refine .obj fun field member => ?_
  rcases responseOf_field member with profile | ⟨text,written⟩
  · rw [profile]
    exact flat_fits flat
  · rw [written]
    exact .str

def responseBody (py : Interpreter) (style : Style) (callId room : String) (leg : SipLeg) (call : CallConfiguration) :
    ByteArray :=
  (dumps py style (.obj (responseOf callId room leg (snapshotOf call)))).toUTF8

-- Whatever the style it is written in, the response to a sendable call conforms.
theorem responseBody_conforming (sendable : Sendable call)
    (same : call.callId = d.callId ∧ call.pbxInstanceId = d.pbxInstanceId ∧ call.context = d.context)
    (size : (responseBody py style d.callId room leg call).size ≤ maxResponseBytes)
    (profile : (dumps py style (.obj (snapshotOf call))).utf8ByteSize ≤ maxProfileBytes) :
    Conforming py (responseBody py style d.callId room leg call) d room leg
      (responseOf d.callId room leg (snapshotOf call)) (snapshotOf call) := by
  have rows := snapshotOf_contract sendable
  have flat := contract_fields rows (snapshotOf_distinct call)
  have fits := @responseOf_fits _ d.callId room leg py flat
  have strict := binds_strict (@responseOf_binds room leg (snapshotOf call) d)
    (show responseKeys.Nodup from by decide) (responseOf_get (by simp [responseOf]))
    (flat_strict flat (snapshotOf_distinct call))
  refine ⟨size,?_,strict_distinct strict,responseOf_binds,responseOf_get (by simp [responseOf]),⟨call,rows,same⟩,?_⟩
  · rw [responseBody,loadsBytes_dumps fits,reread_floatFree (responseOf_floatFree flat)]
  · refine ⟨_,_,decodeBytes_dumps _,?_,profile⟩
    rw [fieldText_written fits (by simp [responseOf])]
    simp [responseOf,List.lookup_cons]

-- The dispatch metadata that goes with it.
def metadataOf (d : DispatchConfiguration) : List (String × Json) :=
  [("callSessionId",.str d.callId),("bootstrapToken",.str d.bootstrapToken),("pbxInstanceId",.str d.pbxInstanceId),
   ("context",.str d.context)]

theorem metadataOf_flat : Flat (metadataOf d) := by
  intro f member
  simp only [metadataOf,List.mem_cons,List.not_mem_nil,or_false] at member
  rcases member with rfl | rfl | rfl | rfl <;> exact .inr ⟨_,rfl⟩

theorem metadataOf_parse {py : Interpreter} (callId : Uuid.Canonical d.callId)
    (token : credential (.str d.bootstrapToken) = .ok d.bootstrapToken)
    (pbx : pbxInstanceId (.str d.pbxInstanceId) = .ok d.pbxInstanceId)
    (context : extensionContext (.str d.context) = .ok d.context)
    (size : (dumps py style (.obj (metadataOf d))).utf8ByteSize ≤ maxMetadataBytes) :
    DispatchConfiguration.parse py (dumps py style (.obj (metadataOf d))) (roomOf d.callId) = .ok d := by
  have distinct : (keys (metadataOf d)).Nodup := by
    show ["callSessionId","bootstrapToken","pbxInstanceId","context"].Nodup
    decide
  have fits : Fits py.recursionLimit (.obj (metadataOf d)) := by
    obtain ⟨depth,deep⟩ : ∃ depth, py.recursionLimit = depth + 1 := by
      have enough := py.limit_ok
      exact ⟨py.recursionLimit - 1,by omega⟩
    rw [deep]
    exact flat_fits metadataOf_flat
  have loaded : strictJson py (.str (dumps py style (.obj (metadataOf d)))) maxMetadataBytes = .ok (metadataOf d) :=
    strictJson_exact.mpr ⟨size,(loads_dumps fits).trans (by rw [reread_floatFree (flat_floatFree metadataOf_flat)]),
      flat_strict metadataOf_flat distinct⟩
  have value : ∀ {key text}, (key,.str text) ∈ metadataOf d → item (metadataOf d) key = .str text :=
    fun member => item_str.mpr ((get_exact distinct).mpr member)
  simp only [DispatchConfiguration.parse,bind_ok,require_ok,sameKeys_exact,canonicalUuid_exact,beq_iff_eq,pure_ok]
  refine ⟨metadataOf d,loaded,(),fun _ => Iff.rfl,d.callId,⟨value (by simp [metadataOf]),callId⟩,(),rfl,
    d.bootstrapToken,?_,d.pbxInstanceId,?_,d.context,?_,rfl⟩
  · rw [@value _ d.bootstrapToken (by simp [metadataOf])]
    exact token
  · rw [@value _ d.pbxInstanceId (by simp [metadataOf])]
    exact pbx
  · rw [@value _ d.context (by simp [metadataOf])]
    exact context

def sampleDispatch : DispatchConfiguration :=
  ⟨"00000000-0000-4000-8000-000000000000","0123456789abcdefghijklmnopqrstuvwxyzABCDEFG","pbx-1","office"⟩

def sampleRoom : String := "aida-00000000-0000-4000-8000-000000000000"

def sampleLeg : SipLeg where
  identity := "sip_1"
  sid := "PA_1"
  routeToken := "GFEDCBAzyxwvutsrqponmlkjihgfedcba9876543210"
  identity_plain := by decide
  sid_plain := by decide
  token_checked := by decide

def sampleCall (prompt : String) : CallConfiguration where
  callId := sampleDispatch.callId
  pbxInstanceId := sampleDispatch.pbxInstanceId
  context := sampleDispatch.context
  businessName := "Office"
  prompt := prompt
  locale := "en-US"
  didE164 := "+12025550123"
  tenantId := "42"
  tone := ""
  objective := ""
  openingStatement := "Hello."
  transferStatement := "One moment."
  failedTransferStatement := "Still here."
  schemaVersion := 2

theorem sampleCall_sendable (row : TextRow 12000 true prompt) : Sendable (sampleCall prompt) := by
  have short : ∀ text ∈ ["","Hello.","One moment.","Still here."], TextRow 2048 false text ∧
      text.length ≤ 256 := by
    unfold TextRow
    decide
  have name : TextRow 256 true "Office" := ⟨by decide,by decide,fun _ => by decide⟩
  refine ⟨?_,?_,?_,.inr ⟨42,by decide,by decide,?_⟩,name,row,rfl,?_,?_,?_,?_,?_,?_,rfl⟩
  · have canonical : (Uuid.parse sampleDispatch.callId).map Uuid.print = some sampleDispatch.callId := by decide
    exact Uuid.canonical_exact.mp canonical
  · show pbxInstanceId (.str sampleDispatch.pbxInstanceId) = .ok sampleDispatch.pbxInstanceId
    decide
  · show extensionContext (.str sampleDispatch.context) = .ok sampleDispatch.context
    decide
  · show "42" = String.ofList (Nat.toDigits 10 42)
    decide
  · show isE164 "+12025550123" = true
    decide
  · exact ⟨(short "" (by decide)).2,(short "" (by decide)).1.2⟩
  · exact (short "" (by decide)).1
  · exact (short "Hello." (by decide)).1
  · exact (short "One moment." (by decide)).1
  · exact (short "Still here." (by decide)).1

theorem sample_dispatched : DispatchConfiguration.parse verbatim
    (dumps verbatim ⟨true,true⟩ (.obj (metadataOf sampleDispatch))) sampleRoom = .ok sampleDispatch := by
  refine metadataOf_parse (Uuid.canonical_exact.mp (by decide)) (by decide) (by decide) (by decide) ?_
  rw [flat_cost metadataOf_flat (by simp [metadataOf])]
  decide

-- The sizes of a sample response, whose texts other than the prompt are ASCII.
def promptSize (ascii : Bool) (prompt : String) : Nat :=
  weigh (fun c => weigh Char.utf8Size (escapeChar ascii c)) prompt.toList

theorem mark_sizes : ∀ c ∈ ['{','}',',',':',' '], Char.utf8Size c = 1 := by
  simp only [List.forall_mem_cons]
  exact ⟨rfl,rfl,rfl,rfl,rfl,by simp⟩

theorem sample_snapshot_size (ascii : Bool) (prompt : String) :
    weigh Char.utf8Size (write verbatim ⟨ascii,true⟩ (.obj (snapshotOf (sampleCall prompt)))) =
      365 + promptSize ascii prompt := by
  rw [weigh_write_obj (by simp [snapshotOf]) mark_sizes]
  have owned : ¬ (sampleCall prompt).tenantId = "" := by
    show ¬ "42" = ""
    decide
  have two : weigh Char.utf8Size (writeInt 2) = 1 := by decide
  simp only [snapshotOf,owned,if_false,List.cons_append,List.nil_append,List.map_cons,List.map_nil,
    List.sum_cons,List.sum_nil,write,weigh_writeString (show Char.utf8Size '"' = 1 by decide),two]
  simp (disch := decide) only [sampleCall,sampleDispatch,utf8_size_unescaped]
  simp only [← String.length_toList,String.reduceToList,List.length_cons,List.length_nil]
  unfold promptSize
  omega

theorem sample_body_size (ascii : Bool) (prompt : String) :
    (responseBody verbatim ⟨ascii,true⟩ sampleDispatch.callId sampleRoom sampleLeg (sampleCall prompt)).size =
      564 + promptSize ascii prompt := by
  have size : ∀ text : String, text.toUTF8.size = text.utf8ByteSize := fun _ => rfl
  rw [responseBody,size,dumps,utf8_size,weigh_write_obj (by simp [responseOf]) mark_sizes]
  have names : ∀ text, weigh Char.utf8Size (write verbatim ⟨ascii,true⟩ (.str text)) =
      2 + weigh (fun c => weigh Char.utf8Size (escapeChar ascii c)) text.toList := by
    intro text
    rw [write,weigh_writeString (by decide)]
  simp only [responseOf,List.map_cons,List.map_nil,List.sum_cons,List.sum_nil,names,sample_snapshot_size,
    weigh_writeString (show Char.utf8Size '"' = 1 by decide)]
  simp (disch := decide) only [sampleDispatch,sampleRoom,sampleLeg,utf8_size_unescaped]
  simp only [← String.length_toList,String.reduceToList,List.length_cons,List.length_nil]
  omega

theorem sample_conforming (ascii : Bool) (row : TextRow 12000 true prompt) (small : promptSize ascii prompt ≤ 60000) :
    Conforming verbatim (responseBody verbatim ⟨ascii,true⟩ sampleDispatch.callId sampleRoom sampleLeg (sampleCall prompt))
      sampleDispatch sampleRoom sampleLeg
      (responseOf sampleDispatch.callId sampleRoom sampleLeg (snapshotOf (sampleCall prompt)))
      (snapshotOf (sampleCall prompt)) := by
  apply responseBody_conforming (d := sampleDispatch) (sampleCall_sendable row) ⟨rfl,rfl,rfl⟩
  · have size := sample_body_size ascii prompt
    unfold maxResponseBytes maxProfileBytes
    omega
  · have size := sample_snapshot_size ascii prompt
    unfold maxProfileBytes
    rewrite [dumps,utf8_size]
    omega

def sampleBody (call : CallConfiguration) : ByteArray :=
  responseBody verbatim ⟨true,true⟩ sampleDispatch.callId sampleRoom sampleLeg call

theorem sample_authorized :
    authorizedProfile verbatim (sampleBody (sampleCall "Be kind.")) sampleDispatch sampleRoom sampleLeg =
      .ok (sampleCall "Be kind.") := by
  have row : TextRow 12000 true "Be kind." := ⟨by decide,by decide,fun _ => by decide⟩
  have conforms := sample_conforming true row (by decide)
  refine conforming_accepted conforms (snapshotOf_contract (sampleCall_sendable row)) ⟨rfl,rfl⟩ (by decide) ?_
  decide

-- Acceptance of a conforming response hangs on the size of its profile after
-- escaping, and on nothing else.
theorem conforming_acceptance (dispatched : DispatchConfiguration.parse py metadata room = .ok d)
    (conforms : Conforming py body d room leg fields snapshot) :
    (∃ call, authorizedProfile py body d room leg = .ok call) ↔ profileCost snapshot ≤ maxProfileBytes := by
  constructor
  · rintro ⟨call,accepted⟩
    exact accepted_small conforms accepted
  · intro small
    obtain ⟨call,rows,session,scope⟩ := conforms.rows
    exact ⟨call,conforming_accepted conforms rows scope (session ▸ (dispatch_parts dispatched).1) small⟩

theorem sample_acceptance : (∃ call, authorizedProfile verbatim
    (responseBody verbatim ⟨true,true⟩ sampleDispatch.callId sampleRoom sampleLeg (sampleCall "Be kind."))
      sampleDispatch sampleRoom sampleLeg = .ok call) ↔
    profileCost (snapshotOf (sampleCall "Be kind.")) ≤ maxProfileBytes :=
  conforming_acceptance sample_dispatched (sample_conforming true ⟨by decide,by decide,fun _ => by decide⟩ (by decide))

-- A prompt that repeats one character is lost when its escapes outgrow the
-- profile limit, although the response conforms.
theorem repeated_refused (chars : prompt.toList = List.replicate count c) (row : TextRow 12000 true prompt)
    (received : count * weigh Char.utf8Size (escapeChar false c) ≤ 60000)
    (escaped : maxProfileBytes < count * escapedSize c) :
    Conforming verbatim
      (responseBody verbatim ⟨false,true⟩ sampleDispatch.callId sampleRoom sampleLeg (sampleCall prompt))
      sampleDispatch sampleRoom sampleLeg
      (responseOf sampleDispatch.callId sampleRoom sampleLeg (snapshotOf (sampleCall prompt)))
      (snapshotOf (sampleCall prompt)) ∧
    ¬ ∃ call, authorizedProfile verbatim
      (responseBody verbatim ⟨false,true⟩ sampleDispatch.callId sampleRoom sampleLeg (sampleCall prompt))
      sampleDispatch sampleRoom sampleLeg = .ok call := by
  have size : promptSize false prompt = count * weigh Char.utf8Size (escapeChar false c) := by
    rw [promptSize,chars,weigh_replicate]
  have conforms := sample_conforming false row (by rw [size]; exact received)
  refine ⟨conforms,?_⟩
  rintro ⟨call,accepted⟩
  have fit := accepted_small conforms accepted
  have quoted : quotedSize prompt = 2 + count * escapedSize c := by
    rw [quotedSize,chars,weigh_replicate]
  simp only [profileCost,snapshotOf,List.cons_append,List.map_cons,List.sum_cons,fieldCost] at fit
  have same : (sampleCall prompt).prompt = prompt := rfl
  rw [same,quoted] at fit
  omega

-- 12,000 characters that take three bytes each as sent, and six once escaped.
def widePrompt : String := String.ofList (List.replicate 12000 '語')

theorem widePrompt_chars : widePrompt.toList = List.replicate 12000 '語' := String.toList_ofList

theorem widePrompt_row : TextRow 12000 true widePrompt := by
  refine ⟨?_,?_,fun _ => ?_⟩
  · rw [← String.length_toList,widePrompt_chars,List.length_replicate]
  · rw [widePrompt_chars]
    intro member
    exact absurd (List.eq_of_mem_replicate member) (by decide)
  · rw [isBlank,widePrompt_chars,List.replicate_succ]
    rfl

theorem wide_profile_refused :
    DispatchConfiguration.parse verbatim (dumps verbatim ⟨true,true⟩ (.obj (metadataOf sampleDispatch))) sampleRoom =
      .ok sampleDispatch ∧
    Conforming verbatim
      (responseBody verbatim ⟨false,true⟩ sampleDispatch.callId sampleRoom sampleLeg (sampleCall widePrompt))
      sampleDispatch sampleRoom sampleLeg
      (responseOf sampleDispatch.callId sampleRoom sampleLeg (snapshotOf (sampleCall widePrompt)))
      (snapshotOf (sampleCall widePrompt)) ∧
    ¬ ∃ call, authorizedProfile verbatim
      (responseBody verbatim ⟨false,true⟩ sampleDispatch.callId sampleRoom sampleLeg (sampleCall widePrompt))
      sampleDispatch sampleRoom sampleLeg = .ok call :=
  ⟨sample_dispatched,repeated_refused widePrompt_chars widePrompt_row (by decide) (by decide)⟩

end AidaAgent.Bootstrap
