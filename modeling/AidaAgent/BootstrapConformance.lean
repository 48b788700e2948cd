import AidaAgent.Bootstrap
import AidaAgent.Library.JsonSpan

namespace AidaAgent.Bootstrap
open JsonText PythonText Config

-- Every value of a conforming snapshot is a text, or the version.
theorem contract_flat (rows : Contract snapshot call) (found : get snapshot key = some v) :
    v = .int 2 ∨ ∃ text, v = .str text := by
  have present : key ∈ keys snapshot := by
    by_contra absent
    rw [get_none.mpr absent] at found
    cases found
  have plain : ∀ {text}, get snapshot key = some (.str text) → ∃ text, v = .str text := by
    intro text read
    rw [found] at read
    exact ⟨text,Option.some.inj read⟩
  have orEmpty : ∀ {text}, itemOrEmpty snapshot key = .str text → ∃ text, v = .str text := by
    intro text read
    rcases itemOrEmpty_str.mp read with given | ⟨absent,_⟩
    · exact plain given
    · rw [absent] at found; cases found
  have checked : ∀ {accepts message text}, matched accepts message (item snapshot key) = .ok text →
      ∃ text, v = .str text := fun read => plain (item_str.mp (matched_ok.mp read).1)
  have known := rows.noExtra key present
  simp only [requiredKeys,optionalKeys,List.mem_cons,List.not_mem_nil,or_false] at known
  rcases known with (rfl | rfl | rfl | rfl | rfl | rfl | rfl | rfl) | rfl | rfl | rfl | rfl | rfl | rfl
  · have version := rows.version
    rw [found] at version
    exact .inl (Option.some.inj version)
  · exact .inr (plain rows.callSession.1)
  · exact .inr (checked rows.pbxInstance)
  · exact .inr (checked rows.extension)
  · exact .inr (orEmpty rows.businessName.1)
  · exact .inr (orEmpty rows.prompt.1)
  · exact .inr (orEmpty rows.locale.1)
  · exact .inr (orEmpty rows.didE164.1)
  · rcases rows.tenant with ⟨absent,_⟩ | ⟨read,_⟩
    · rw [absent] at found; cases found
    · exact .inr (plain read)
  · exact .inr (orEmpty rows.tone.1)
  · exact .inr (orEmpty rows.objective.1)
  · exact .inr (orEmpty rows.opening.1)
  · exact .inr (orEmpty rows.transfer.1)
  · exact .inr (orEmpty rows.failedTransfer.1)

def Flat (fields : List (String × Json)) : Prop := ∀ f ∈ fields, f.2 = .int 2 ∨ ∃ text, f.2 = .str text

theorem contract_fields (rows : Contract snapshot call) (distinct : (keys snapshot).Nodup) : Flat snapshot :=
  fun f member => contract_flat rows ((get_exact distinct).mpr (show (f.1,f.2) ∈ snapshot from member))

theorem flat_floatFree (flat : Flat fields) : FloatFree (.obj fields) := by
  refine .obj fun f member => ?_
  rcases flat f member with version | ⟨text,string⟩
  · rw [version]; exact .int
  · rw [string]; exact .str

theorem flat_fits (flat : Flat fields) : Fits (depth + 1) (.obj fields) := by
  refine .obj fun f member => ?_
  rcases flat f member with version | ⟨text,string⟩
  · rw [version]; exact .int (by decide)
  · rw [string]; exact .str

theorem flat_strict (flat : Flat fields) (distinct : (keys fields).Nodup) : Strict (.obj fields) := by
  refine .obj distinct fun f member => ?_
  rcases flat f member with version | ⟨text,string⟩
  · rw [version]; exact .int
  · rw [string]; exact .str

-- The bytes a flat object takes once its texts are escaped to ASCII: two quotes
-- and 1, 2, 6 or 12 bytes a character for each text, one for the version, and
-- four for the punctuation of a field.
def fieldCost (f : String × Json) : Nat :=
  quotedSize f.1 + (match f.2 with | .str text => quotedSize text | _ => 1) + 4

def profileCost (fields : List (String × Json)) : Nat := (fields.map fieldCost).sum

theorem flat_cost (flat : Flat fields) (nonempty : fields ≠ []) :
    (dumps py ⟨true,true⟩ (.obj fields)).utf8ByteSize = profileCost fields := by
  have printable := @printable_write _ py ⟨true,true⟩ rfl (flat_floatFree flat)
  rw [dumps,utf8_size_printable printable,← weigh_length,weigh_write_obj nonempty fun _ _ => rfl,profileCost]
  congr 1
  apply List.map_congr_left
  intro f member
  obtain ⟨key,value⟩ := f
  rcases flat _ member with version | ⟨text,string⟩
  · cases version
    simp only [weigh_length,length_writeString,fieldCost]
    rfl
  · cases string
    simp only [write,weigh_length,length_writeString,fieldCost]

theorem contract_nonempty (rows : Contract snapshot call) : snapshot ≠ [] := by
  rintro rfl
  have listed := rows.complete "schemaVersion" (by decide)
  cases listed

theorem profile_accepted (rows : Contract snapshot call) (distinct : (keys snapshot).Nodup)
    (roomed : room = roomOf call.callId) (small : profileCost snapshot ≤ maxProfileBytes) :
    CallConfiguration.parse py (dumps py ⟨true,true⟩ (.obj snapshot)) room = .ok call := by
  have flat := contract_fields rows distinct
  have fits : Fits py.recursionLimit (.obj snapshot) := by
    obtain ⟨depth,deep⟩ : ∃ depth, py.recursionLimit = depth + 1 := ⟨py.recursionLimit - 1,by have := py.limit_ok; omega⟩
    rw [deep]
    exact flat_fits flat
  refine parse_exact.mpr ⟨snapshot,strictJson_exact.mpr ⟨?_,?_,flat_strict flat distinct⟩,rows,roomed⟩
  · exact (flat_cost flat (contract_nonempty rows)).trans_le small
  · exact (loads_dumps fits).trans (by rw [reread_floatFree (flat_floatFree flat)])

-- A response body that keeps the whole contract for this dispatch, room and leg.
-- Its profile is at most 65,536 UTF-8 bytes long as it stands in the body.
structure Conforming (py : Interpreter) (body : ByteArray) (d : DispatchConfiguration) (room : String) (leg : SipLeg)
    (fields snapshot : List (String × Json)) : Prop where
  size : body.size ≤ maxResponseBytes
  loaded : loadsBytes py body = some (.obj fields)
  distinct : DistinctKeys (.obj fields)
  binds : Binds fields d room leg
  profile : get fields "profileSnapshot" = some (.obj snapshot)
  rows : ∃ call, Contract snapshot call ∧ call.callId = d.callId ∧ call.pbxInstanceId = d.pbxInstanceId ∧
    call.context = d.context
  received : ∃ text span, decodeBytes body = some text ∧ fieldText py text "profileSnapshot" = some span ∧
    (String.ofList span).utf8ByteSize ≤ maxProfileBytes

theorem distinct_inner (distinct : DistinctKeys (.obj fields)) (found : get fields key = some v) : DistinctKeys v := by
  cases distinct with
  | obj _ each => exact each _ (get_mem found)

theorem distinct_keys (distinct : DistinctKeys (.obj fields)) : (keys fields).Nodup := by
  cases distinct with
  | obj nodup _ => exact nodup

-- Besides the profile, the fields of a bound response are texts.
theorem binds_strict (binds : Binds fields d room leg) (distinct : (keys fields).Nodup)
    (found : get fields "profileSnapshot" = some v) (inner : Strict v) : Strict (.obj fields) := by
  refine .obj distinct fun f member => ?_
  have read := (get_exact distinct).mpr (show (f.1,f.2) ∈ fields from member)
  have known := (binds.exactKeys f.1).mp (List.mem_map_of_mem member)
  simp only [responseKeys,List.mem_cons,List.not_mem_nil,or_false] at known
  have text : ∀ {t}, get fields f.1 = some (.str t) → Strict f.2 := by
    intro t same
    rw [read] at same
    rw [Option.some.inj same]
    exact .str
  rcases known with key | key | key | key | key
  · exact text (key ▸ binds.callSession)
  · exact text (key ▸ binds.roomName)
  · exact text (key ▸ binds.identity)
  · exact text (key ▸ binds.sid)
  · rw [key,found] at read
    exact Option.some.inj read ▸ inner

theorem conforming_accepted (conforms : Conforming py body d room leg fields snapshot)
    (rows : Contract snapshot call) (scope : call.pbxInstanceId = d.pbxInstanceId ∧ call.context = d.context)
    (roomed : room = roomOf call.callId) (small : profileCost snapshot ≤ maxProfileBytes) :
    authorizedProfile py body d room leg = .ok call := by
  have inner := distinct_keys (distinct_inner conforms.distinct conforms.profile)
  have strict := flat_strict (contract_fields rows inner) inner
  have loaded : strictJson py (.bytes body) maxResponseBytes = .ok fields :=
    strictJson_exact.mpr ⟨conforms.size,conforms.loaded,
      binds_strict conforms.binds (distinct_keys conforms.distinct) conforms.profile strict⟩
  have parsed := @profile_accepted _ _ _ py rows inner roomed small
  simp only [authorizedProfile,bind_ok,require_ok,Bool.and_eq_true,sameKeys_exact,isText_exact,item_str,
    beq_iff_eq,pure_ok]
  exact ⟨fields,loaded,(),conforms.binds.exactKeys,(),⟨⟨⟨conforms.binds.callSession,conforms.binds.roomName⟩,
    conforms.binds.identity⟩,conforms.binds.sid⟩,call,by rw [item_obj.mpr conforms.profile]; exact parsed,(),
    scope,rfl⟩

theorem accepted_small (conforms : Conforming py body d room leg fields snapshot)
    (accepted : authorizedProfile py body d room leg = .ok call) : profileCost snapshot ≤ maxProfileBytes := by
  obtain ⟨known,rows,_⟩ := conforms.rows
  have inner := distinct_keys (distinct_inner conforms.distinct conforms.profile)
  have flat := contract_fields rows inner
  simp only [authorizedProfile,bind_ok] at accepted
  obtain ⟨data,loaded,_,_,_,_,found,parsed,_⟩ := accepted
  obtain ⟨_,read,_⟩ := strictJson_exact.mp loaded
  have same : data = fields := by
    have both : loadsBytes py body = some (.obj data) := read
    rw [conforms.loaded] at both
    exact (Json.obj.inj (Option.some.inj both)).symm
  rw [same,item_obj.mpr conforms.profile] at parsed
  obtain ⟨_,strict,_⟩ := parse_exact.mp parsed
  rw [← @flat_cost _ py flat (contract_nonempty rows)]
  exact (strictJson_exact.mp strict).1

end AidaAgent.Bootstrap
