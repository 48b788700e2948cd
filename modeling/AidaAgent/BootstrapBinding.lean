import AidaAgent.BootstrapAcceptance

namespace AidaAgent.Bootstrap
open JsonText PythonText Config

theorem loadsBytes_fits (loaded : loadsBytes py body = some v) : Fits py.recursionLimit v := by
  obtain ⟨text,_,read⟩ := Option.bind_eq_some_iff.mp loaded
  exact loadsChars_fits read

theorem fits_field (fits : Fits depth (.obj fields)) (found : get fields key = some v) :
    ∃ below, depth = below + 1 ∧ Fits below v := by
  cases fits with
  | obj each => exact ⟨_,rfl,each _ (get_mem found)⟩

theorem fits_deeper (fits : Fits depth v) : Fits (depth + 1) v := by
  induction fits with
  | null => exact .null
  | bool => exact .bool
  | int short => exact .int short
  | float => exact .float
  | constant => exact .constant
  | str => exact .str
  | arr _ ih => exact .arr ih
  | obj _ ih => exact .obj ih

-- The second parse sees the snapshot as the first one read it.
theorem profile_parts (fits : Fits py.recursionLimit v)
    (parsed : CallConfiguration.parse py (dumps py ⟨true,true⟩ v) room = .ok call) :
    ∃ snapshot, v = .obj snapshot ∧ Contract snapshot call ∧ room = roomOf call.callId ∧
      (dumps py ⟨true,true⟩ v).utf8ByteSize ≤ maxProfileBytes := by
  obtain ⟨fields,strict,rows,roomed⟩ := parse_exact.mp parsed
  obtain ⟨fit,loaded,_⟩ := strictJson_exact.mp strict
  have read : loads py (dumps py ⟨true,true⟩ v) = some (.obj fields) := loaded
  rw [loads_dumps fits] at read
  obtain ⟨snapshot,rfl,rfl⟩ := reread_obj (Option.some.inj read)
  exact ⟨snapshot,rfl,contract_reread rows,roomed,fit⟩

theorem authorizedProfile_parts (authorized : authorizedProfile py body d room leg = .ok call) :
    ∃ fields snapshot, strictJson py (.bytes body) maxResponseBytes = .ok fields ∧ Binds fields d room leg ∧
      get fields "profileSnapshot" = some (.obj snapshot) ∧ Contract snapshot call ∧ room = roomOf call.callId ∧
      call.pbxInstanceId = d.pbxInstanceId ∧ call.context = d.context := by
  simp only [authorizedProfile,bind_ok,require_ok,Bool.and_eq_true,sameKeys_exact,isText_exact,item_str,
    beq_iff_eq,pure_ok] at authorized
  obtain ⟨fields,loaded,_,exactKeys,_,⟨⟨⟨session,named⟩,identity⟩,sid⟩,found,parsed,_,⟨scope,context⟩,rfl⟩ := authorized
  obtain ⟨_,read,_⟩ := strictJson_exact.mp loaded
  have present : "profileSnapshot" ∈ keys fields := (exactKeys _).mpr (by decide)
  obtain ⟨v,held⟩ := get_some present
  obtain ⟨below,deep,fits⟩ := fits_field (loadsBytes_fits read) held
  have whole : item fields "profileSnapshot" = v := by rw [item,held]; rfl
  rw [whole] at parsed
  obtain ⟨snapshot,rfl,rows,roomed,_⟩ := profile_parts (deep ▸ fits_deeper fits) parsed
  exact ⟨fields,snapshot,loaded,⟨exactKeys,session,named,identity,sid⟩,held,rows,roomed,scope,context⟩

-- An authorized profile belongs to its dispatch, room and leg, and to no others.
structure Bound (py : Interpreter) (body : ByteArray) (d : DispatchConfiguration) (room : String) (leg : SipLeg)
    (call : CallConfiguration) : Prop where
  session : call.callId = d.callId ∧ room = "aida-" ++ call.callId
  scope : call.pbxInstanceId = d.pbxInstanceId ∧ call.context = d.context
  document : ∃ fields snapshot, loadsBytes py body = some (.obj fields) ∧ body.size ≤ maxResponseBytes ∧
    DistinctKeys (.obj fields) ∧ Binds fields d room leg ∧
    get fields "profileSnapshot" = some (.obj snapshot) ∧ Contract snapshot call
  tenant : call.tenantId = "" ∨ TenantId call.tenantId

theorem bound_by_response (dispatched : DispatchConfiguration.parse py metadata room = .ok d)
    (authorized : authorizedProfile py body d room leg = .ok call) : Bound py body d room leg call := by
  obtain ⟨roomed,_⟩ := dispatch_parts dispatched
  obtain ⟨fields,snapshot,loaded,binds,held,rows,named,scope,context⟩ := authorizedProfile_parts authorized
  obtain ⟨size,read,strict⟩ := strictJson_exact.mp loaded
  have same : call.callId = d.callId := by
    rw [named] at roomed
    exact (String.append_right_inj _).mp roomed
  refine ⟨⟨same,named⟩,⟨scope,context⟩,⟨fields,snapshot,read,size,strict_distinct strict,binds,held,rows⟩,?_⟩
  rcases rows.tenant with ⟨_,empty⟩ | ⟨_,owner⟩
  · exact .inl empty
  · exact .inr owner

theorem binds_unique (first : Binds fields d room leg) (second : Binds fields d' room' leg') :
    d'.callId = d.callId ∧ room' = room ∧ leg'.identity = leg.identity ∧ leg'.sid = leg.sid := by
  have text : ∀ {key a b}, get fields key = some (.str a) → get fields key = some (.str b) → b = a := by
    intro key a b left right
    rw [left] at right
    exact (Json.str.inj (Option.some.inj right)).symm
  exact ⟨text first.callSession second.callSession,text first.roomName second.roomName,
    text first.identity second.identity,text first.sid second.sid⟩

theorem contract_scope (first : Contract snapshot call) (second : Contract snapshot call') :
    call'.pbxInstanceId = call.pbxInstanceId ∧ call'.context = call.context := by
  have text : ∀ {accepts message value a b}, matched accepts message value = .ok a →
      matched accepts message value = .ok b → b = a := by
    intro accepts message value a b left right
    rw [left] at right
    exact (Except.ok.inj right).symm
  exact ⟨text first.pbxInstance second.pbxInstance,text first.extension second.extension⟩

theorem authorization_binding (dispatched : DispatchConfiguration.parse py metadata room = .ok d)
    (authorized : authorizedProfile py body d room leg = .ok call) :
    Bound py body d room leg call ∧
      ∀ metadata' room' d' leg' call', DispatchConfiguration.parse py metadata' room' = .ok d' →
        authorizedProfile py body d' room' leg' = .ok call' →
        d'.callId = d.callId ∧ d'.pbxInstanceId = d.pbxInstanceId ∧ d'.context = d.context ∧ room' = room ∧
          leg'.identity = leg.identity ∧ leg'.sid = leg.sid := by
  refine ⟨bound_by_response dispatched authorized,?_⟩
  intro metadata' room' d' leg' call' _ authorized'
  obtain ⟨fields,snapshot,loaded,binds,held,rows,_,scope,context⟩ := authorizedProfile_parts authorized
  obtain ⟨fields',snapshot',loaded',binds',held',rows',_,scope',context'⟩ := authorizedProfile_parts authorized'
  rw [loaded] at loaded'
  cases Except.ok.inj loaded'
  rw [held] at held'
  cases Json.obj.inj (Option.some.inj held')
  obtain ⟨session,roomed,identity,sid⟩ := binds_unique binds binds'
  obtain ⟨pbx,extension⟩ := contract_scope rows rows'
  exact ⟨session,by rw [← scope',pbx,scope],by rw [← context',extension,context],roomed,identity,sid⟩

theorem sample_binding :
    Bound verbatim (sampleBody (sampleCall "Be kind.")) sampleDispatch sampleRoom sampleLeg (sampleCall "Be kind.") ∧
      ∀ metadata' room' d' leg' call', DispatchConfiguration.parse verbatim metadata' room' = .ok d' →
        authorizedProfile verbatim (sampleBody (sampleCall "Be kind.")) d' room' leg' = .ok call' →
        d'.callId = sampleDispatch.callId ∧ d'.pbxInstanceId = sampleDispatch.pbxInstanceId ∧
          d'.context = sampleDispatch.context ∧ room' = sampleRoom ∧ leg'.identity = sampleLeg.identity ∧
          leg'.sid = sampleLeg.sid :=
  authorization_binding sample_dispatched sample_authorized

end AidaAgent.Bootstrap
