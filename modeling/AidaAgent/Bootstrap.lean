import AidaAgent.ProfileContract
import AidaAgent.Library.JsonLimits

namespace AidaAgent.Bootstrap
open JsonText PythonText Config

def maxResponseBytes : Nat := maxProfileBytes + 4096

def responseKeys : List String :=
  ["callSessionId","roomName","sipParticipantIdentity","sipParticipantSid","profileSnapshot"]

def isPlainName (value : String) : Bool :=
  value ≠ "" && decide (value.length ≤ 256) && value.toList.all fun c => !(c.toNat < 32 || c.toNat = 127)

-- A leg that __post_init__ has accepted.
structure SipLeg where
  identity : String
  sid : String
  routeToken : String
  identity_plain : isPlainName identity = true
  sid_plain : isPlainName sid = true
  token_checked : credential (.str routeToken) = .ok routeToken

def SipLeg.make (identity sid routeToken : String) : Checked SipLeg :=
  if names : isPlainName identity = true ∧ isPlainName sid = true then
    match token : credential (.str routeToken) with
    | .error e => .error e
    | .ok checked => .ok ⟨identity,sid,routeToken,names.1,names.2,by
        rw [token,(Json.str.inj (matched_ok.mp token).1)]⟩
  else refuse "invalid SIP participant"

theorem make_exact : SipLeg.make identity sid routeToken = .ok leg →
    leg.identity = identity ∧ leg.sid = sid ∧ leg.routeToken = routeToken := by
  intro made
  unfold SipLeg.make at made
  split at made
  · split at made
    · cases made
    · cases made
      exact ⟨rfl,rfl,rfl⟩
  · simp at made

theorem make_own (leg : SipLeg) : SipLeg.make leg.identity leg.sid leg.routeToken = .ok leg := by
  unfold SipLeg.make
  rw [dif_pos ⟨leg.identity_plain,leg.sid_plain⟩]
  split
  · rename_i failed
    cases leg.token_checked.symm.trans failed
  · rfl

-- What client.post is called with.
structure Post where
  url : String
  body : List (String × String)
  headers : List (String × String)
  allowRedirects : Bool
  deriving DecidableEq, Repr

def bootstrapUrl (base callId : String) : String := base ++ "/v1/agent/calls/" ++ callId ++ "/bootstrap"

-- The one call of authorize() to the network.
def bootstrapPost (base : String) (dispatch : DispatchConfiguration) (roomName : String) (leg : SipLeg) : Post where
  url := bootstrapUrl base dispatch.callId
  body := [("roomName",roomName),("sipParticipantIdentity",leg.identity),("sipParticipantSid",leg.sid),
    ("routeToken",leg.routeToken)]
  headers := [("Authorization","Bearer " ++ dispatch.bootstrapToken),("Accept","application/json"),
    ("Accept-Encoding","identity")]
  allowRedirects := false

-- The profile is written again by json.dumps before it is parsed.
def authorizedProfile (py : Interpreter) (raw : ByteArray) (dispatch : DispatchConfiguration)
    (roomName : String) (leg : SipLeg) : Checked CallConfiguration := do
  let data ← strictJson py (.bytes raw) maxResponseBytes
  require (sameKeys data responseKeys) "invalid bootstrap response"
  require (isText (item data "callSessionId") dispatch.callId && isText (item data "roomName") roomName &&
    isText (item data "sipParticipantIdentity") leg.identity && isText (item data "sipParticipantSid") leg.sid)
    "bootstrap binding mismatch"
  let call ← CallConfiguration.parse py (dumps py ⟨true,true⟩ (item data "profileSnapshot")) roomName
  require (call.pbxInstanceId == dispatch.pbxInstanceId && call.context == dispatch.context)
    "bootstrap scope mismatch"
  return call

-- One POST, as the client sees it: no answer within the limits, a failure of
-- another kind, or an answer whose body arrives in chunks.
inductive Attempt where
  | unavailable
  | failed
  | answered (status : Nat) (contentType : String) (encoding : Option String) (chunks : List ByteArray)

def readBody (raw : ByteArray) : List ByteArray → Checked ByteArray
  | [] => .ok raw
  | chunk :: rest =>
    if (raw ++ chunk).size > maxResponseBytes then refuse "bootstrap response too large"
    else readBody (raw ++ chunk) rest

-- What authorize() makes of the answer to its POST. `none` is an exception that is not an
-- InvalidConfiguration.
def authorize (py : Interpreter) (dispatch : DispatchConfiguration) (roomName : String) (leg : SipLeg) :
    Attempt → Option (Checked CallConfiguration)
  | .unavailable => some (refuse "bootstrap service unavailable")
  | .failed => none
  | .answered status contentType encoding chunks => some do
    require (status == 200 && contentType == "application/json" && encoding.getD "identity" == "identity")
      "bootstrap authorization failed"
    let raw ← readBody ByteArray.empty chunks
    authorizedProfile py raw dispatch roomName leg

theorem readBody_exact (read : readBody raw chunks = .ok body) :
    body = chunks.foldl (· ++ ·) raw ∧ (raw.size ≤ maxResponseBytes → body.size ≤ maxResponseBytes) := by
  induction chunks generalizing raw with
  | nil => cases read; exact ⟨rfl,id⟩
  | cons chunk rest ih =>
    unfold readBody at read
    split at read
    · simp at read
    · rename_i fit
      obtain ⟨whole,bound⟩ := ih read
      exact ⟨whole,fun _ => bound (Nat.not_lt.mp fit)⟩

theorem authorize_parts (granted : authorize py dispatch room leg attempt = some (.ok call)) :
    ∃ body, body.size ≤ maxResponseBytes ∧ authorizedProfile py body dispatch room leg = .ok call := by
  cases attempt with
  | unavailable => simp [authorize] at granted
  | failed => cases granted
  | answered status contentType encoding chunks =>
    simp only [authorize,Option.some.injEq,bind_ok,require_ok] at granted
    obtain ⟨_,_,body,read,profile⟩ := granted
    exact ⟨body,(readBody_exact read).2 (by decide),profile⟩

-- Writing a snapshot and reading it again gives every row the same values.
theorem item_reread : item (fields.map fun f => (f.1,reread py f.2)) key = reread py (item fields key) := by
  unfold item
  rw [get_map]
  cases get fields key <;> simp [reread]

theorem itemOrEmpty_reread :
    itemOrEmpty (fields.map fun f => (f.1,reread py f.2)) key = reread py (itemOrEmpty fields key) := by
  unfold itemOrEmpty
  rw [get_map]
  cases get fields key <;> simp [reread]

theorem matched_reread : matched accepts message (reread py v) = .ok text ↔ matched accepts message v = .ok text := by
  rw [matched_ok,matched_ok,reread_str]

theorem contract_reread (rows : Contract (snapshot.map fun f => (f.1,reread py f.2)) call) :
    Contract snapshot call := by
  have texts : ∀ {key text}, itemOrEmpty (snapshot.map fun f => (f.1,reread py f.2)) key = .str text →
      itemOrEmpty snapshot key = .str text := by
    intro key text read
    rw [itemOrEmpty_reread] at read
    exact reread_str.mp read
  have strings : ∀ {key text}, get (snapshot.map fun f => (f.1,reread py f.2)) key = some (.str text) →
      get snapshot key = some (.str text) := by
    intro key text read
    rw [← item_str,item_reread,reread_str,item_str] at read
    exact read
  have named := @keys_reread py snapshot
  refine ⟨fun key member => named ▸ rows.complete key member,fun key member => rows.noExtra key (named.symm ▸ member),?_,
    ⟨strings rows.callSession.1,rows.callSession.2⟩,?_,?_,?_,⟨texts rows.businessName.1,rows.businessName.2⟩,
    ⟨texts rows.prompt.1,rows.prompt.2⟩,⟨texts rows.locale.1,rows.locale.2⟩,⟨texts rows.didE164.1,rows.didE164.2⟩,
    ⟨texts rows.tone.1,rows.tone.2⟩,⟨texts rows.objective.1,rows.objective.2⟩,⟨texts rows.opening.1,rows.opening.2⟩,
    ⟨texts rows.transfer.1,rows.transfer.2⟩,⟨texts rows.failedTransfer.1,rows.failedTransfer.2⟩,rows.schema⟩
  · have version := rows.version
    rw [← item_int,item_reread,reread_int,item_int] at version
    exact version
  · have read := rows.pbxInstance
    rw [item_reread] at read
    exact matched_reread.mp read
  · have read := rows.extension
    rw [item_reread] at read
    exact matched_reread.mp read
  · rcases rows.tenant with ⟨absent,empty⟩ | ⟨read,owner⟩
    · rw [get_map] at absent
      exact .inl ⟨Option.map_eq_none_iff.mp absent,empty⟩
    · exact .inr ⟨strings read,owner⟩

theorem dispatch_parts (dispatched : DispatchConfiguration.parse py metadata room = .ok d) :
    room = roomOf d.callId ∧ Uuid.Canonical d.callId ∧ pbxInstanceId (.str d.pbxInstanceId) = .ok d.pbxInstanceId ∧
      extensionContext (.str d.context) = .ok d.context := by
  simp only [DispatchConfiguration.parse,bind_ok,require_ok,canonicalUuid_exact,beq_iff_eq,pure_ok] at dispatched
  obtain ⟨data,_,_,_,callId,⟨_,canonical⟩,_,roomed,token,_,pbx,instanced,context,extended,rfl⟩ := dispatched
  refine ⟨roomed,canonical,?_,?_⟩
  · exact matched_ok.mpr ⟨rfl,(matched_ok.mp instanced).2⟩
  · exact matched_ok.mpr ⟨rfl,(matched_ok.mp extended).2⟩

-- What the body of an authorized response says, in the terms of the request.
structure Binds (fields : List (String × Json)) (d : DispatchConfiguration) (room : String) (leg : SipLeg) : Prop where
  exactKeys : ∀ key, key ∈ keys fields ↔ key ∈ responseKeys
  callSession : get fields "callSessionId" = some (.str d.callId)
  roomName : get fields "roomName" = some (.str room)
  identity : get fields "sipParticipantIdentity" = some (.str leg.identity)
  sid : get fields "sipParticipantSid" = some (.str leg.sid)

theorem item_obj : item fields key = .obj nested ↔ get fields key = some (.obj nested) := by
  unfold item
  cases get fields key <;> simp

end AidaAgent.Bootstrap
