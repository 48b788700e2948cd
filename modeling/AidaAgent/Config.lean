import AidaAgent.Library.JsonShape
import AidaAgent.Library.Uuid

namespace AidaAgent.Config
open JsonText PythonText

def maxMetadataBytes : Nat := 16384
def maxSafeInteger : Nat := 9007199254740991
def maxProfileBytes : Nat := 65536

def requiredKeys : List String :=
  ["schemaVersion","callSessionId","pbxInstanceId","context","businessName","prompt","locale","didE164"]
def optionalKeys : List String :=
  ["tenantId","tone","objective","openingStatement","transferStatement","failedTransferStatement"]

-- The message is all that an InvalidConfiguration carries.
structure InvalidConfiguration where
  message : String
  deriving DecidableEq, Repr

abbrev Checked := Except InvalidConfiguration

def refuse (message : String) : Checked α := .error ⟨message⟩
def require (holds : Bool) (message : String) : Checked Unit := if holds then .ok () else refuse message

@[simp] theorem refuse_ok : refuse message = Except.ok (α := α) value ↔ False := by simp [refuse]

@[simp] theorem require_ok {u : Unit} : require holds message = .ok u ↔ holds = true := by
  cases holds <;> simp [require]

@[simp] theorem bind_ok {x : Checked α} {f : α → Checked β} :
    (x >>= f) = .ok value ↔ ∃ a, x = .ok a ∧ f a = .ok value := by
  cases x <;> simp [bind,Except.bind]

@[simp] theorem pure_ok {a : α} : (pure a : Checked α) = .ok value ↔ a = value := by simp [pure,Except.pure]

-- str | bytes
inductive Raw where
  | str (text : String)
  | bytes (data : ByteArray)

def Raw.size : Raw → Nat
  | .str text => text.utf8ByteSize
  | .bytes data => data.size

def Raw.loads (py : Interpreter) : Raw → Option Json
  | .str text => JsonText.loads py text
  | .bytes data => loadsBytes py data

-- The hooks and the size check raise inside the try block, so every refusal
-- leaves with the one message of the handler.
def strictJson (py : Interpreter) (raw : Raw) (maxBytes : Nat) : Checked (List (String × Json)) :=
  if raw.size > maxBytes then refuse "invalid JSON object"
  else
    match raw.loads py with
    | some (.obj fields) =>
      if hooked (fun names => decide names.Nodup) (fun _ => false) (.obj fields) then .ok fields
      else refuse "invalid JSON object"
    | _ => refuse "invalid JSON object"

-- What the hooks leave of a parsed document.
def Strict (v : Json) : Prop := Everywhere List.Nodup (fun _ => False) v

theorem strict_distinct (strict : Strict v) : DistinctKeys v :=
  strict.weaken (fun _ distinct => distinct) fun _ impossible => impossible.elim

theorem hooked_strict : hooked (fun names => decide names.Nodup) (fun _ => false) v = true ↔ Strict v := by
  rw [hooked_exact]
  constructor
  · intro holds
    exact holds.weaken (fun _ distinct => of_decide_eq_true distinct) fun _ impossible => by cases impossible
  · intro holds
    exact holds.weaken (fun _ distinct => decide_eq_true distinct) fun _ impossible => impossible.elim

theorem strictJson_exact : strictJson py raw maxBytes = .ok fields ↔
    raw.size ≤ maxBytes ∧ raw.loads py = some (.obj fields) ∧ Strict (.obj fields) := by
  unfold strictJson
  constructor
  · intro accepted
    split at accepted
    · simp at accepted
    · rename_i fit
      split at accepted
      · rename_i found loaded
        split at accepted
        · rename_i checked
          cases accepted
          exact ⟨Nat.not_lt.mp fit,loaded,hooked_strict.mp checked⟩
        · simp at accepted
      · simp at accepted
  · rintro ⟨fit,loaded,strict⟩
    rw [if_neg (Nat.not_lt.mpr fit),loaded]
    simp only [hooked_strict.mpr strict,if_true]

theorem strictJson_message (refused : strictJson py raw maxBytes = .error e) :
    e = ⟨"invalid JSON object"⟩ := by
  unfold strictJson refuse at refused
  split at refused
  · cases refused; rfl
  · split at refused
    · split at refused <;> cases refused; rfl
    · cases refused; rfl

-- data[key], read where the key set has been checked, and data.get(key, "").
def item (data : List (String × Json)) (key : String) : Json := (get data key).getD .null
def itemOrEmpty (data : List (String × Json)) (key : String) : Json := (get data key).getD (.str "")

def sameKeys (data : List (String × Json)) (names : List String) : Bool :=
  (keys data).all (names.contains ·) && names.all ((keys data).contains ·)

def isText (value : Json) (text : String) : Bool :=
  match value with
  | .str found => found == text
  | _ => false

def isInt (value : Json) (number : Int) : Bool :=
  match value with
  | .int found => found == number
  | _ => false

@[simp] theorem isInt_exact : isInt value number = true ↔ value = .int number := by
  unfold isInt
  split <;> simp_all

@[simp] theorem isText_exact : isText value text = true ↔ value = .str text := by
  unfold isText
  split <;> simp_all

@[simp] theorem sameKeys_exact : sameKeys data names = true ↔ ∀ key, key ∈ keys data ↔ key ∈ names := by
  simp only [sameKeys,Bool.and_eq_true,List.all_eq_true,List.contains_iff_mem]
  exact ⟨fun both key => ⟨both.1 key,both.2 key⟩,fun same => ⟨fun key => (same key).mp,fun key => (same key).mpr⟩⟩

theorem item_str : item data key = .str text ↔ get data key = some (.str text) := by
  unfold item
  cases get data key <;> simp

theorem item_int : item data key = .int value ↔ get data key = some (.int value) := by
  unfold item
  cases get data key <;> simp

theorem itemOrEmpty_str : itemOrEmpty data key = .str text ↔
    get data key = some (.str text) ∨ get data key = none ∧ text = "" := by
  unfold itemOrEmpty
  cases get data key <;> simp [eq_comm]

-- A value of str type that passes a check, or the check's message.
def matched (accepts : String → Bool) (message : String) (value : Json) : Checked String :=
  match value with
  | .str text => if accepts text then .ok text else refuse message
  | _ => refuse message

@[simp] theorem matched_ok : matched accepts message value = .ok text ↔
    value = .str text ∧ accepts text = true := by
  unfold matched
  split
  · rename_i found
    split
    · rename_i yes
      constructor
      · intro same; cases same; exact ⟨rfl,yes⟩
      · rintro ⟨same,_⟩; cases same; rfl
    · rename_i no
      simp only [refuse_ok,false_iff,not_and]
      intro same; cases same; exact no
  · rename_i other
    simp only [refuse_ok,false_iff,not_and]
    intro same
    exact absurd same (other text)

def isAlphanumeric (c : Char) : Bool := c.isAlpha || c.isDigit

def canonicalUuid : Json → Checked String :=
  matched (fun text => (Uuid.parse text).map Uuid.print == some text) "canonical UUID required"

-- [1-9][0-9]{0,15}
def tenantDigits (text : String) : Bool :=
  match text.toList with
  | [] => false
  | c :: rest => c.isDigit && c ≠ '0' && decide (rest.length ≤ 15) && rest.all Char.isDigit

def tenantId (value : Json) : Checked String := do
  let text ← matched tenantDigits "positive canonical tenant ID required" value
  require (Nat.ofDigitChars 10 text.toList 0 ≤ maxSafeInteger) "tenant ID outside supported range"
  return text

def pbxInstanceId : Json → Checked String :=
  matched (fullMatch (fun c => isAlphanumeric c || c = '_' || c = '.' || c = '-') 1 80) "invalid PBX instance ID"

def extensionContext : Json → Checked String :=
  matched (fullMatch (fun c => isAlphanumeric c || c = '_' || c = '.' || c = '-') 1 40) "invalid extension context"

def credential : Json → Checked String :=
  matched (fullMatch (fun c => isAlphanumeric c || c = '_' || c = '-') 43 256) "invalid call credential"

structure DispatchConfiguration where
  callId : String
  bootstrapToken : String
  pbxInstanceId : String
  context : String
  deriving DecidableEq, Repr

def roomOf (callId : String) : String := "aida-" ++ callId

def DispatchConfiguration.parse (py : Interpreter) (raw roomName : String) : Checked DispatchConfiguration := do
  let data ← strictJson py (.str raw) maxMetadataBytes
  require (sameKeys data ["callSessionId","bootstrapToken","pbxInstanceId","context"]) "invalid dispatch fields"
  let callId ← canonicalUuid (item data "callSessionId")
  require (roomName == roomOf callId) "dispatch room does not match call"
  let bootstrapToken ← credential (item data "bootstrapToken")
  let pbxInstanceId ← Config.pbxInstanceId (item data "pbxInstanceId")
  let context ← extensionContext (item data "context")
  return ⟨callId,bootstrapToken,pbxInstanceId,context⟩

structure CallConfiguration where
  callId : String
  pbxInstanceId : String
  context : String
  businessName : String
  prompt : String
  locale : String
  didE164 : String
  tenantId : String
  tone : String
  objective : String
  openingStatement : String
  transferStatement : String
  failedTransferStatement : String
  schemaVersion : Int
  deriving DecidableEq, Repr

-- The local function `string` of CallConfiguration.parse.
def profileText (data : List (String × Json)) (key : String) (limit : Nat) (required : Bool) : Checked String := do
  let value ← matched (fun text => decide (text.length ≤ limit) && !text.toList.contains '\x00')
    "invalid profile text field" (itemOrEmpty data key)
  require (!(required && isBlank value)) "required profile text is empty"
  return value

-- tenant_id(data["tenantId"]) if "tenantId" in data else ""
def optionalTenant (data : List (String × Json)) : Checked String :=
  if (keys data).contains "tenantId" then tenantId (item data "tenantId") else .ok ""

-- \+[1-9][0-9]{1,14}
def isE164 (text : String) : Bool :=
  match text.toList with
  | '+' :: c :: rest =>
    c.isDigit && c ≠ '0' && decide (1 ≤ rest.length) && decide (rest.length ≤ 14) && rest.all Char.isDigit
  | _ => false

def CallConfiguration.parse (py : Interpreter) (raw roomName : String) : Checked CallConfiguration := do
  let data ← strictJson py (.str raw) maxProfileBytes
  require (requiredKeys.all ((keys data).contains ·) &&
    (keys data).all fun key => requiredKeys.contains key || optionalKeys.contains key)
    "profile fields do not match v2 allowlist"
  require (isInt (item data "schemaVersion") 2) "unsupported profile schema version"
  let callId ← canonicalUuid (item data "callSessionId")
  require (roomName == roomOf callId) "dispatch room does not match call"
  let locale ← profileText data "locale" 35 true
  require (locale == "en-US") "unsupported profile locale"
  let didE164 ← profileText data "didE164" 16 true
  require (isE164 didE164) "invalid E.164 number"
  let pbxInstanceId ← Config.pbxInstanceId (item data "pbxInstanceId")
  let context ← extensionContext (item data "context")
  let tenantId ← optionalTenant data
  let businessName ← profileText data "businessName" 256 true
  let prompt ← profileText data "prompt" 12000 true
  let tone ← profileText data "tone" 256 false
  let objective ← profileText data "objective" 2048 false
  let openingStatement ← profileText data "openingStatement" 2048 false
  let transferStatement ← profileText data "transferStatement" 2048 false
  let failedTransferStatement ← profileText data "failedTransferStatement" 2048 false
  return ⟨callId,pbxInstanceId,context,businessName,prompt,locale,didE164,tenantId,tone,objective,
    openingStatement,transferStatement,failedTransferStatement,2⟩

theorem canonicalUuid_exact : canonicalUuid value = .ok text ↔ value = .str text ∧ Uuid.Canonical text := by
  rw [canonicalUuid,matched_ok,beq_iff_eq,Uuid.canonical_exact]

-- The canonical decimal of an integer between 1 and 2^53 - 1.
def TenantId (text : String) : Prop := ∃ n, 0 < n ∧ n ≤ maxSafeInteger ∧ text = String.ofList (Nat.toDigits 10 n)

theorem tenantDigits_decimal (digits : tenantDigits text = true) :
    text = String.ofList (Nat.toDigits 10 (Nat.ofDigitChars 10 text.toList 0)) ∧
      0 < Nat.ofDigitChars 10 text.toList 0 := by
  unfold tenantDigits at digits
  split at digits
  · cases digits
  · rename_i c rest chars
    simp only [Bool.and_eq_true,decide_eq_true_eq,List.all_eq_true] at digits
    obtain ⟨⟨⟨numeral,nonzero⟩,_⟩,others⟩ := digits
    have every : ∀ d ∈ text.toList, d.isDigit = true := by
      rw [chars]
      exact List.forall_mem_cons.mpr ⟨numeral,others⟩
    obtain ⟨printed,positive⟩ := toDigits_ofDigitChars every ⟨c,rest,chars,nonzero⟩
    rw [printed,String.ofList_toList]
    exact ⟨rfl,positive⟩

theorem decimal_tenantDigits (positive : 0 < n) (bound : n ≤ maxSafeInteger) :
    tenantDigits (String.ofList (Nat.toDigits 10 n)) = true := by
  obtain ⟨c,rest,digits,nonzero⟩ := toDigits_head positive
  have numeral : ∀ d ∈ c :: rest, d.isDigit = true := by
    intro d member
    rw [← digits] at member
    exact Nat.isDigit_of_mem_toDigits (by decide) (by decide) member
  have short : (Nat.toDigits 10 n).length ≤ 16 :=
    (Nat.length_toDigits_le_iff (by decide) (by decide)).mpr (Nat.lt_of_le_of_lt bound (by decide))
  rw [digits,List.length_cons] at short
  unfold tenantDigits
  rw [String.toList_ofList,digits]
  simp only [numeral c List.mem_cons_self,Bool.true_and,Bool.and_eq_true,decide_eq_true_eq,List.all_eq_true]
  exact ⟨⟨nonzero,by omega⟩,fun d member => numeral d (List.mem_cons_of_mem _ member)⟩

theorem tenantId_exact : tenantId value = .ok text ↔ value = .str text ∧ TenantId text := by
  simp only [tenantId,bind_ok,matched_ok,require_ok,pure_ok,decide_eq_true_eq]
  constructor
  · rintro ⟨found,⟨same,digits⟩,_,bound,rfl⟩
    obtain ⟨printed,positive⟩ := tenantDigits_decimal digits
    exact ⟨same,_,positive,bound,printed⟩
  · rintro ⟨same,n,positive,bound,rfl⟩
    refine ⟨_,⟨same,decimal_tenantDigits positive bound⟩,(),?_,rfl⟩
    simpa using bound

-- A text row of the profile contract: at most `limit` characters, no NUL, and
-- not blank where the field is required.
def TextRow (limit : Nat) (required : Bool) (text : String) : Prop :=
  text.length ≤ limit ∧ '\x00' ∉ text.toList ∧ (required = true → isBlank text = false)

theorem profileText_exact : profileText data key limit required = .ok text ↔
    itemOrEmpty data key = .str text ∧ TextRow limit required text := by
  simp only [profileText,bind_ok,matched_ok,require_ok,pure_ok,Bool.and_eq_true,decide_eq_true_eq,
    Bool.not_eq_true',Bool.and_eq_false_iff,TextRow]
  constructor
  · rintro ⟨found,⟨same,short,clean⟩,_,filled,rfl⟩
    refine ⟨same,short,by simpa using clean,?_⟩
    intro needed
    rcases filled with optional | full
    · rw [needed] at optional; cases optional
    · exact full
  · rintro ⟨same,short,clean,filled⟩
    refine ⟨text,⟨same,short,by simpa using clean⟩,(),?_,rfl⟩
    cases required with
    | false => exact .inl rfl
    | true => exact .inr (filled rfl)

end AidaAgent.Config
