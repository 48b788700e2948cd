import AidaAgent.Config

namespace AidaAgent.Config
open JsonText PythonText

-- The contract table of profileSnapshot, row by row: `texts` are the values
-- that a conforming snapshot gives to the call configuration.
structure Contract (snapshot : List (String × Json)) (texts : CallConfiguration) : Prop where
  complete : ∀ key ∈ requiredKeys, key ∈ keys snapshot
  noExtra : ∀ key ∈ keys snapshot, key ∈ requiredKeys ∨ key ∈ optionalKeys
  version : get snapshot "schemaVersion" = some (.int 2)
  callSession : get snapshot "callSessionId" = some (.str texts.callId) ∧ Uuid.Canonical texts.callId
  pbxInstance : pbxInstanceId (item snapshot "pbxInstanceId") = .ok texts.pbxInstanceId
  extension : extensionContext (item snapshot "context") = .ok texts.context
  tenant : (get snapshot "tenantId" = none ∧ texts.tenantId = "") ∨
    (get snapshot "tenantId" = some (.str texts.tenantId) ∧ TenantId texts.tenantId)
  businessName : itemOrEmpty snapshot "businessName" = .str texts.businessName ∧ TextRow 256 true texts.businessName
  prompt : itemOrEmpty snapshot "prompt" = .str texts.prompt ∧ TextRow 12000 true texts.prompt
  locale : itemOrEmpty snapshot "locale" = .str texts.locale ∧ texts.locale = "en-US"
  didE164 : itemOrEmpty snapshot "didE164" = .str texts.didE164 ∧ isE164 texts.didE164 = true
  tone : itemOrEmpty snapshot "tone" = .str texts.tone ∧ TextRow 256 false texts.tone
  objective : itemOrEmpty snapshot "objective" = .str texts.objective ∧ TextRow 2048 false texts.objective
  opening : itemOrEmpty snapshot "openingStatement" = .str texts.openingStatement ∧
    TextRow 2048 false texts.openingStatement
  transfer : itemOrEmpty snapshot "transferStatement" = .str texts.transferStatement ∧
    TextRow 2048 false texts.transferStatement
  failedTransfer : itemOrEmpty snapshot "failedTransferStatement" = .str texts.failedTransferStatement ∧
    TextRow 2048 false texts.failedTransferStatement
  schema : texts.schemaVersion = 2

-- The two values with a fixed form pass the general text check as well.
theorem locale_row : TextRow 35 true "en-US" := by
  refine ⟨by decide,by decide,fun _ => by decide⟩

theorem e164_row (number : isE164 text = true) : TextRow 16 true text := by
  unfold isE164 at number
  split at number
  · rename_i c rest chars
    simp only [Bool.and_eq_true,decide_eq_true_eq,List.all_eq_true] at number
    obtain ⟨⟨⟨⟨digit,_⟩,_⟩,short⟩,digits⟩ := number
    refine ⟨?_,?_,fun _ => ?_⟩
    · rw [← String.length_toList,chars]
      simp only [List.length_cons]
      omega
    · rw [chars]
      have clean : ∀ d ∈ c :: rest, d.isDigit = true := List.forall_mem_cons.mpr ⟨digit,digits⟩
      intro member
      rcases List.mem_cons.mp member with plus | later
      · exact absurd plus (by decide)
      · exact absurd (clean _ later) (by decide)
    · rw [isBlank,chars]
      rfl
  · cases number

theorem allowlist_exact : (requiredKeys.all ((keys data).contains ·) &&
    (keys data).all fun key => requiredKeys.contains key || optionalKeys.contains key) = true ↔
    (∀ key ∈ requiredKeys, key ∈ keys data) ∧ ∀ key ∈ keys data, key ∈ requiredKeys ∨ key ∈ optionalKeys := by
  simp only [Bool.and_eq_true,List.all_eq_true,List.contains_iff_mem,Bool.or_eq_true]

theorem tenant_exact : optionalTenant data = .ok text ↔ (get data "tenantId" = none ∧ text = "") ∨
    (get data "tenantId" = some (.str text) ∧ TenantId text) := by
  unfold optionalTenant
  by_cases present : "tenantId" ∈ keys data
  · obtain ⟨value,found⟩ := get_some present
    rw [if_pos (List.contains_iff_mem.mpr present),tenantId_exact,item_str,found]
    simp
  · have absent := get_none.mpr present
    rw [if_neg (fun held => present (List.contains_iff_mem.mp held)),absent]
    simp [eq_comm]

-- CallConfiguration.parse accepts exactly the conforming snapshots of the room,
-- read from a strict document of limited size.
theorem parse_exact : CallConfiguration.parse py raw room = .ok call ↔
    ∃ snapshot, strictJson py (.str raw) maxProfileBytes = .ok snapshot ∧
      Contract snapshot call ∧ room = roomOf call.callId := by
  simp only [CallConfiguration.parse,bind_ok,require_ok,allowlist_exact,isInt_exact,item_int,canonicalUuid_exact,
    item_str,beq_iff_eq,profileText_exact,tenant_exact,pure_ok]
  constructor
  · rintro ⟨snapshot,loaded,_,⟨complete,noExtra⟩,_,version,callId,session,_,roomed,locale,⟨localeRead,_⟩,_,english,
      did,⟨didRead,_⟩,_,number,pbx,instanced,context,extended,tenant,owner,name,named,prompt,prompted,
      tone,toned,objective,aimed,opening,opened,transfer,transferred,failed,failing,rfl⟩
    exact ⟨snapshot,loaded,⟨complete,noExtra,version,session,instanced,extended,owner,named,prompted,
      ⟨localeRead,english⟩,⟨didRead,number⟩,toned,aimed,opened,transferred,failing,rfl⟩,roomed⟩
  · rintro ⟨snapshot,loaded,rows,roomed⟩
    obtain ⟨callId,pbx,context,name,prompt,locale,did,tenant,tone,objective,opening,transfer,failed,schema⟩ := call
    have english := rows.locale
    have number := rows.didE164
    have two := rows.schema
    dsimp only at english number roomed two
    exact ⟨snapshot,loaded,(),⟨rows.complete,rows.noExtra⟩,(),rows.version,callId,rows.callSession,(),roomed,
      locale,⟨english.1,by rw [english.2]; exact locale_row⟩,(),english.2,did,⟨number.1,e164_row number.2⟩,(),number.2,
      pbx,rows.pbxInstance,context,rows.extension,tenant,rows.tenant,name,rows.businessName,prompt,rows.prompt,
      tone,rows.tone,objective,rows.objective,opening,rows.opening,transfer,rows.transfer,failed,rows.failedTransfer,
      by rw [two]⟩

end AidaAgent.Config
