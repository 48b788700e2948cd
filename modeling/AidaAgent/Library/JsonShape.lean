import AidaAgent.Library.JsonLimits

namespace JsonText
open PythonText

-- Hooks of json.loads, applied to every object and every constant of a tree.
mutual
def hooked (objectOk : List String → Bool) (constantOk : Constant → Bool) : Json → Bool
  | .arr items => hookedItems objectOk constantOk items
  | .obj fields => objectOk (keys fields) && hookedFields objectOk constantOk fields
  | .constant value => constantOk value
  | .null | .bool _ | .int _ | .float _ | .str _ => true

def hookedItems (objectOk : List String → Bool) (constantOk : Constant → Bool) : List Json → Bool
  | [] => true
  | item :: rest => hooked objectOk constantOk item && hookedItems objectOk constantOk rest

def hookedFields (objectOk : List String → Bool) (constantOk : Constant → Bool) : List (String × Json) → Bool
  | [] => true
  | (_,value) :: rest => hooked objectOk constantOk value && hookedFields objectOk constantOk rest
end

-- What the hooks establish, at every depth.
inductive Everywhere (objectOk : List String → Prop) (constantOk : Constant → Prop) : Json → Prop where
  | null : Everywhere objectOk constantOk .null
  | bool : Everywhere objectOk constantOk (.bool value)
  | int : Everywhere objectOk constantOk (.int value)
  | float : Everywhere objectOk constantOk (.float literal)
  | constant : constantOk value → Everywhere objectOk constantOk (.constant value)
  | str : Everywhere objectOk constantOk (.str text)
  | arr : (∀ item ∈ items, Everywhere objectOk constantOk item) → Everywhere objectOk constantOk (.arr items)
  | obj : objectOk (keys fields) → (∀ field ∈ fields, Everywhere objectOk constantOk field.2) →
      Everywhere objectOk constantOk (.obj fields)

theorem hookedItems_exact : hookedItems objectOk constantOk items = true ↔
    ∀ item ∈ items, hooked objectOk constantOk item = true := by
  induction items with
  | nil => simp [hookedItems]
  | cons item rest ih => simp [hookedItems,ih]

theorem hookedFields_exact : hookedFields objectOk constantOk fields = true ↔
    ∀ field ∈ fields, hooked objectOk constantOk field.2 = true := by
  induction fields with
  | nil => simp [hookedFields]
  | cons field rest ih =>
    obtain ⟨key,value⟩ := field
    simp [hookedFields,ih]

theorem hooked_exact (v : Json) : hooked objectOk constantOk v = true ↔
    Everywhere (fun names => objectOk names = true) (fun value => constantOk value = true) v := by
  constructor
  · intro checked
    induction v using Json.induct with
    | null => exact .null
    | bool => exact .bool
    | int => exact .int
    | float => exact .float
    | constant value => exact .constant (by simpa [hooked] using checked)
    | str => exact .str
    | arr items ih =>
      have each := hookedItems_exact.mp (by simpa [hooked] using checked)
      exact .arr fun item member => ih item member (each item member)
    | obj fields ih =>
      have parts : objectOk (keys fields) = true ∧ hookedFields objectOk constantOk fields = true := by
        simpa [hooked] using checked
      exact .obj parts.1 fun field member => ih field member (hookedFields_exact.mp parts.2 field member)
  · intro holds
    induction holds with
    | null | bool | int | float | str => simp [hooked]
    | constant ok => simpa [hooked] using ok
    | arr _ ih => simpa [hooked] using hookedItems_exact.mpr ih
    | obj ok _ ih => simpa [hooked,ok] using hookedFields_exact.mpr ih

theorem Everywhere.weaken (holds : Everywhere objectOk constantOk v)
    (objects : ∀ names, objectOk names → objectOk' names)
    (constants : ∀ value, constantOk value → constantOk' value) : Everywhere objectOk' constantOk' v := by
  induction holds with
  | null => exact .null
  | bool => exact .bool
  | int => exact .int
  | float => exact .float
  | constant ok => exact .constant (constants _ ok)
  | str => exact .str
  | arr _ ih => exact .arr ih
  | obj ok _ ih => exact .obj (objects _ ok) ih

-- No object at any nesting depth repeats a key.
def DistinctKeys (v : Json) : Prop := Everywhere List.Nodup (fun _ => True) v

-- A dict read: with distinct keys, membership and lookup agree.
theorem lookup_mem (distinct : (keys fields).Nodup) :
    fields.lookup key = some value ↔ (key,value) ∈ fields := by
  induction fields with
  | nil => simp
  | cons field rest ih =>
    obtain ⟨first,found⟩ := field
    obtain ⟨fresh,tail⟩ := List.nodup_cons.mp distinct
    by_cases same : key = first
    · subst same
      have absent : (key,value) ∉ rest := fun member => fresh (List.mem_map.mpr ⟨_,member,rfl⟩)
      simp [absent,eq_comm]
    · have differs : (key == first) = false := by simpa using same
      simp [List.lookup_cons,differs,ih tail,same]

theorem get_exact (distinct : (keys fields).Nodup) : get fields key = some value ↔ (key,value) ∈ fields := by
  have reversed : (keys fields.reverse).Nodup := by
    rw [keys,List.map_reverse]
    exact List.pairwise_reverse.mpr (distinct.imp Ne.symm)
  rw [get,lookup_mem reversed,List.mem_reverse]

theorem get_none : get fields key = none ↔ key ∉ keys fields := by
  rw [get,List.lookup_eq_none_iff]
  constructor
  · intro absent listed
    obtain ⟨field,member,same⟩ := List.mem_map.mp listed
    simpa [same] using absent field (List.mem_reverse.mpr member)
  · intro absent field member
    by_contra same
    have equal : key = field.1 := by simpa using same
    exact absent (List.mem_map.mpr ⟨field,List.mem_reverse.mp member,equal.symm⟩)

theorem get_some (member : key ∈ keys fields) : ∃ value, get fields key = some value := by
  cases found : get fields key with
  | none => exact absurd member (get_none.mp found)
  | some value => exact ⟨value,rfl⟩

theorem get_mem (found : get fields key = some value) : (key,value) ∈ fields := by
  obtain ⟨before,after,whole,_⟩ := List.lookup_eq_some_iff.mp found
  have member : (key,value) ∈ fields.reverse := by rw [whole]; simp
  exact List.mem_reverse.mp member

theorem get_map (fields : List (String × Json)) (g : Json → Json) :
    get (fields.map fun f => (f.1,g f.2)) key = (get fields key).map g := by
  unfold get
  rw [← List.map_reverse]
  induction fields.reverse with
  | nil => rfl
  | cons field rest ih =>
    obtain ⟨first,value⟩ := field
    by_cases same : key = first
    · simp [same]
    · have differs : (key == first) = false := by simpa using same
      simp [List.lookup_cons,differs,ih]

-- Rereading keeps everything but the spelling of floats.
theorem reread_str : reread py v = .str text ↔ v = .str text := by
  cases v with
  | float => simp only [reread]; split_ifs <;> simp
  | _ => simp [reread]

theorem reread_int : reread py v = .int value ↔ v = .int value := by
  cases v with
  | float => simp only [reread]; split_ifs <;> simp
  | _ => simp [reread]

theorem reread_obj (same : reread py v = .obj fields) :
    ∃ written, v = .obj written ∧ fields = written.map fun f => (f.1,reread py f.2) := by
  cases v with
  | obj written =>
    simp only [reread,rereadFields_map] at same
    exact ⟨written,rfl,(Json.obj.inj same).symm⟩
  | float => simp only [reread] at same; split_ifs at same
  | _ => simp [reread] at same

theorem keys_reread (fields : List (String × Json)) :
    keys (fields.map fun f => (f.1,reread py f.2)) = keys fields := by
  simp [keys,Function.comp_def]

-- Values without floats come back unchanged.
inductive FloatFree : Json → Prop where
  | null : FloatFree .null
  | bool : FloatFree (.bool value)
  | int : FloatFree (.int value)
  | constant : FloatFree (.constant value)
  | str : FloatFree (.str text)
  | arr : (∀ item ∈ items, FloatFree item) → FloatFree (.arr items)
  | obj : (∀ field ∈ fields, FloatFree field.2) → FloatFree (.obj fields)

theorem reread_floatFree (free : FloatFree v) : reread py v = v := by
  induction free with
  | null | bool | int | constant | str => simp [reread]
  | @arr items _ ih =>
    rw [reread,rereadItems_map,List.map_congr_left ih,List.map_id']
  | @obj fields _ ih =>
    have each : ∀ f ∈ fields, (f.1,reread py f.2) = f := fun f member => by rw [ih f member]
    rw [reread,rereadFields_map,List.map_congr_left each,List.map_id']

-- Everything json.dumps writes with ensure_ascii is a printable ASCII character.
def Printable (c : Char) : Prop := 0x20 ≤ c.toNat ∧ c.toNat < 0x7f

theorem printable_digitChar : ∀ d, d < 16 → Printable (Nat.digitChar d) := by
  unfold Printable
  decide

theorem printable_escapeUnicode (n : Nat) : ∀ c ∈ escapeUnicode n, Printable c := by
  have hex : ∀ k, Printable (Nat.digitChar (k % 16)) := fun k => printable_digitChar _ (Nat.mod_lt _ (by decide))
  intro c member
  simp only [escapeUnicode,hex4,List.mem_cons,List.not_mem_nil,or_false] at member
  rcases member with rfl | rfl | rfl | rfl | rfl | rfl
  · exact ⟨by decide,by decide⟩
  · exact ⟨by decide,by decide⟩
  all_goals exact hex _

theorem printable_escapeChar (c : Char) : ∀ d ∈ escapeChar true c, Printable d := by
  intro d member
  unfold escapeChar at member
  split at member
  · rename_i short found
    have shorts : Printable short := by
      unfold escapeShort at found
      split_ifs at found <;> cases Option.some.inj found <;> exact ⟨by decide,by decide⟩
    simp only [List.mem_cons,List.not_mem_nil,or_false] at member
    rcases member with rfl | rfl
    · exact ⟨by decide,by decide⟩
    · exact shorts
  · split_ifs at member with control visible basic
    · exact printable_escapeUnicode _ d member
    · rw [List.mem_singleton.mp member]
      simp only [or_false] at visible
      exact ⟨by omega,visible⟩
    · exact printable_escapeUnicode _ d member
    · rcases List.mem_append.mp member with high | low
      · exact printable_escapeUnicode _ d high
      · exact printable_escapeUnicode _ d low

theorem printable_writeString (text : String) : ∀ c ∈ writeString true text, Printable c := by
  intro c member
  simp only [writeString,List.cons_append,List.mem_cons,List.mem_append,List.mem_flatMap,
    List.not_mem_nil,or_false] at member
  rcases member with rfl | ⟨d,_,inside⟩ | rfl
  · exact ⟨by decide,by decide⟩
  · exact printable_escapeChar d c inside
  · exact ⟨by decide,by decide⟩

theorem printable_writeInt (value : Int) : ∀ c ∈ writeInt value, Printable c := by
  have digit : ∀ n, ∀ c ∈ Nat.toDigits 10 n, Printable c := by
    intro n c member
    have numeral : c.isDigit = true := Nat.isDigit_of_mem_toDigits (by decide) (by decide) member
    simp only [Char.isDigit,ge_iff_le,Bool.and_eq_true,decide_eq_true_eq] at numeral
    have low : 48 ≤ c.toNat := numeral.1
    have high : c.toNat ≤ 57 := numeral.2
    exact ⟨by omega,by omega⟩
  cases value with
  | ofNat n => exact digit n
  | negSucc n =>
    intro c member
    rcases List.mem_cons.mp member with rfl | tail
    · exact ⟨by decide,by decide⟩
    · exact digit _ c tail

theorem printable_gap (style : Style) : ∀ c ∈ style.gap, Printable c := by
  intro c member
  unfold Style.gap at member
  split at member
  · rw [List.mem_singleton.mp member]
    exact ⟨by decide,by decide⟩
  · cases member

theorem printable_writeItems {style : Style} (each : ∀ v ∈ items, ∀ c ∈ write py style v, Printable c) :
    ∀ c ∈ writeItems py style items, Printable c := by
  induction items with
  | nil => simp [writeItems]
  | cons item rest ih =>
    have tail := ih fun v member => each v (List.mem_cons_of_mem _ member)
    intro c member
    simp only [writeItems,Style.item,List.cons_append,List.mem_cons,List.mem_append] at member
    rcases member with rfl | (gap | inside) | later
    · exact ⟨by decide,by decide⟩
    · exact printable_gap style c gap
    · exact each item List.mem_cons_self c inside
    · exact tail c later

theorem printable_writeFields {style : Style} (ascii : style.ascii = true)
    (each : ∀ f ∈ fields, ∀ c ∈ write py style f.2, Printable c) :
    ∀ c ∈ writeFields py style fields, Printable c := by
  induction fields with
  | nil => simp [writeFields]
  | cons field rest ih =>
    obtain ⟨key,value⟩ := field
    have tail := ih fun f member => each f (List.mem_cons_of_mem _ member)
    intro c member
    simp only [writeFields,Style.item,Style.key,ascii,List.cons_append,List.append_assoc,List.mem_cons,
      List.mem_append] at member
    rcases member with rfl | gap | name | rfl | gap | inside | later
    · exact ⟨by decide,by decide⟩
    · exact printable_gap style c gap
    · exact printable_writeString key c name
    · exact ⟨by decide,by decide⟩
    · exact printable_gap style c gap
    · exact each (key,value) List.mem_cons_self c inside
    · exact tail c later

theorem printable_write {style : Style} (ascii : style.ascii = true) (free : FloatFree v) :
    ∀ c ∈ write py style v, Printable c := by
  have symbol : ∀ c ∈ ['[',']','{','}'], Printable c := by
    intro c member
    simp only [List.mem_cons,List.not_mem_nil,or_false] at member
    unfold Printable
    rcases member with rfl | rfl | rfl | rfl <;> decide
  induction free with
  | null => unfold Printable; simp [write]
  | @bool value => unfold Printable; cases value <;> simp [write]
  | @int value => exact printable_writeInt value
  | @constant value => unfold Printable; cases value <;> simp [write,Constant.text]
  | @str text => simpa [write,ascii] using printable_writeString text
  | @arr items _ ih =>
    cases items with
    | nil =>
      intro c member
      simp only [write,List.mem_cons,List.not_mem_nil,or_false] at member
      rcases member with rfl | rfl <;> exact symbol _ (by simp)
    | cons item rest =>
      have tail := printable_writeItems fun v member => ih v (List.mem_cons_of_mem _ member)
      intro c member
      simp only [write,List.cons_append,List.append_assoc,List.mem_cons,List.mem_append,List.not_mem_nil,
        or_false] at member
      rcases member with rfl | inside | later | rfl
      · exact symbol _ (by simp)
      · exact ih item List.mem_cons_self c inside
      · exact tail c later
      · exact symbol _ (by simp)
  | @obj fields _ ih =>
    cases fields with
    | nil =>
      intro c member
      simp only [write,List.mem_cons,List.not_mem_nil,or_false] at member
      rcases member with rfl | rfl <;> exact symbol _ (by simp)
    | cons field rest =>
      obtain ⟨key,value⟩ := field
      have tail := printable_writeFields ascii fun f member => ih f (List.mem_cons_of_mem _ member)
      intro c member
      simp only [write,Style.key,ascii,List.cons_append,List.append_assoc,List.mem_cons,List.mem_append,
        List.not_mem_nil,or_false] at member
      rcases member with rfl | name | rfl | gap | inside | later | rfl
      · exact symbol _ (by simp)
      · exact printable_writeString key c name
      · exact ⟨by decide,by decide⟩
      · exact printable_gap style c gap
      · exact ih (key,value) List.mem_cons_self c inside
      · exact tail c later
      · exact symbol _ (by simp)

-- The size of a text, under any measure of its characters.
def weigh (w : Char → Nat) (cs : List Char) : Nat := (cs.map w).sum

@[simp] theorem weigh_nil (w : Char → Nat) : weigh w [] = 0 := rfl
@[simp] theorem weigh_cons (w : Char → Nat) (c : Char) (cs : List Char) :
    weigh w (c :: cs) = w c + weigh w cs := by simp [weigh]
@[simp] theorem weigh_append (w : Char → Nat) (cs ds : List Char) :
    weigh w (cs ++ ds) = weigh w cs + weigh w ds := by simp [weigh]

theorem weigh_length (cs : List Char) : weigh (fun _ => 1) cs = cs.length := by
  induction cs with
  | nil => rfl
  | cons c cs ih => simp [ih,Nat.add_comm]

theorem weigh_flatMap (w : Char → Nat) (f : Char → List Char) (cs : List Char) :
    weigh w (cs.flatMap f) = weigh (fun c => weigh w (f c)) cs := by
  induction cs with
  | nil => rfl
  | cons c cs ih => simp [ih]

theorem weigh_congr (same : ∀ c ∈ cs, w c = w' c) : weigh w cs = weigh w' cs := by
  rw [weigh,weigh,List.map_congr_left same]

theorem weigh_le (below : ∀ c ∈ cs, w c ≤ bound) : weigh w cs ≤ bound * cs.length := by
  induction cs with
  | nil => simp
  | cons c cs ih =>
    have head := below c List.mem_cons_self
    have tail := ih fun d member => below d (List.mem_cons_of_mem _ member)
    simp only [weigh_cons,List.length_cons,Nat.mul_succ]
    omega

theorem utf8_size (cs : List Char) : (String.ofList cs).utf8ByteSize = weigh Char.utf8Size cs := by
  have bytes : (String.ofList cs).utf8ByteSize = (cs.flatMap String.utf8EncodeChar).length := by
    rw [← utf8_bytes]
    rfl
  rw [bytes]
  clear bytes
  induction cs with
  | nil => rfl
  | cons c cs ih => simp [ih]

theorem utf8_size_printable (ascii : ∀ c ∈ cs, Printable c) : (String.ofList cs).utf8ByteSize = cs.length := by
  have one : ∀ c ∈ cs, c.utf8Size = 1 := by
    intro c member
    have below : c.val.toNat < 0x7f := (ascii c member).2
    have small : c.val ≤ 0x7f := UInt32.le_iff_toNat_le.mpr (Nat.le_of_lt below)
    simp [Char.utf8Size,small]
  rw [utf8_size,weigh_congr one,weigh_length]

-- Escaped length of one character under ensure_ascii, and of a quoted string.
def escapedSize (c : Char) : Nat :=
  if c = '"' ∨ c = '\\' ∨ c = '\x08' ∨ c = '\x0c' ∨ c = '\n' ∨ c = '\r' ∨ c = '\t' then 2
  else if 0x20 ≤ c.toNat ∧ c.toNat < 0x7f then 1
  else if c.toNat < 0x10000 then 6
  else 12

def quotedSize (text : String) : Nat := 2 + weigh escapedSize text.toList

theorem length_escapeChar (c : Char) : (escapeChar true c).length = escapedSize c := by
  unfold escapeChar escapedSize
  cases short : escapeShort c with
  | some e =>
    have listed : c = '"' ∨ c = '\\' ∨ c = '\x08' ∨ c = '\x0c' ∨ c = '\n' ∨ c = '\r' ∨ c = '\t' := by
      unfold escapeShort at short
      split_ifs at short <;> simp_all
    simp [listed]
  | none =>
    have unlisted : ¬ (c = '"' ∨ c = '\\' ∨ c = '\x08' ∨ c = '\x0c' ∨ c = '\n' ∨ c = '\r' ∨ c = '\t') := by
      rintro (rfl | rfl | rfl | rfl | rfl | rfl | rfl) <;> simp [escapeShort] at short
    simp only [unlisted,if_false,Bool.true_eq_false,or_false]
    by_cases control : c.toNat < 0x20
    · simp only [control,if_true,show ¬ (0x20 ≤ c.toNat ∧ c.toNat < 0x7f) by omega,if_false,
        show c.toNat < 0x10000 by omega]
      rfl
    · by_cases visible : c.toNat < 0x7f
      · simp only [control,visible,if_true,if_false,show 0x20 ≤ c.toNat by omega,true_and]
        rfl
      · simp only [control,visible,if_false,and_false]
        split_ifs <;> rfl

theorem length_writeString (text : String) : (writeString true text).length = quotedSize text := by
  have inner := weigh_flatMap (fun _ => 1) (escapeChar true) text.toList
  rw [weigh_length] at inner
  have escaped : (text.toList.flatMap (escapeChar true)).length = weigh escapedSize text.toList := by
    rw [inner]
    exact weigh_congr fun c _ => by rw [weigh_length,length_escapeChar]
  simp only [writeString,List.cons_append,List.length_cons,List.length_append,escaped,quotedSize,
    List.length_nil]
  omega

theorem weigh_writeString (quote : w '"' = 1) (ascii : Bool) (text : String) :
    weigh w (writeString ascii text) = 2 + weigh (fun c => weigh w (escapeChar ascii c)) text.toList := by
  simp only [writeString,List.cons_append,weigh_cons,weigh_append,weigh_flatMap,weigh_nil,quote]
  omega

-- A printable character that needs no escape stays one byte in either style.
def isUnescaped (c : Char) : Bool := decide (0x20 ≤ c.toNat ∧ c.toNat < 0x7f) && c ≠ '"' && c ≠ '\\'

theorem escapeChar_unescaped (ascii : Bool) (plain : isUnescaped c = true) : escapeChar ascii c = [c] := by
  simp only [isUnescaped,Bool.and_eq_true,decide_eq_true_eq] at plain
  obtain ⟨⟨⟨low,high⟩,quote⟩,slash⟩ := plain
  have control : ∀ d : Char, d.toNat < 0x20 → c ≠ d := by
    rintro d small rfl
    omega
  have short : escapeShort c = none := by
    simp [escapeShort,quote,slash,control '\x08' (by decide),control '\x0c' (by decide),
      control '\n' (by decide),control '\r' (by decide),control '\t' (by decide)]
  simp [escapeChar,short,high,Nat.not_lt.mpr low]

theorem utf8_size_unescaped {text : String} (ascii : Bool) (plain : text.toList.all isUnescaped = true) :
    weigh (fun c => weigh Char.utf8Size (escapeChar ascii c)) text.toList = text.length := by
  have one : ∀ c ∈ text.toList, weigh Char.utf8Size (escapeChar ascii c) = 1 := by
    intro c member
    have unescaped := List.all_eq_true.mp plain c member
    have printable : ∀ d ∈ [c], Printable d := by
      simp only [isUnescaped,Bool.and_eq_true,decide_eq_true_eq] at unescaped
      exact List.forall_mem_singleton.mpr unescaped.1.1
    rw [escapeChar_unescaped ascii unescaped,← utf8_size,utf8_size_printable printable]
    rfl
  rw [weigh_congr one,weigh_length,String.length_toList]

theorem weigh_replicate (w : Char → Nat) (count : Nat) (c : Char) : weigh w (List.replicate count c) = count * w c := by
  simp [weigh]

-- An object costs its keys, its values and four characters a field.
theorem weigh_write_obj (nonempty : fields ≠ []) (one : ∀ c ∈ ['{','}',',',':',' '], w c = 1) :
    weigh w (write py ⟨ascii,true⟩ (.obj fields)) =
      (fields.map fun f => weigh w (writeString ascii f.1) + weigh w (write py ⟨ascii,true⟩ f.2) + 4).sum := by
  have mark : w '{' = 1 ∧ w '}' = 1 ∧ w ',' = 1 ∧ w ':' = 1 ∧ w ' ' = 1 :=
    ⟨one _ (by simp),one _ (by simp),one _ (by simp),one _ (by simp),one _ (by simp)⟩
  have rest : ∀ more, weigh w (writeFields py ⟨ascii,true⟩ more) =
      (more.map fun f => weigh w (writeString ascii f.1) + weigh w (write py ⟨ascii,true⟩ f.2) + 4).sum := by
    intro more
    induction more with
    | nil => rfl
    | cons f more ih =>
      obtain ⟨key,value⟩ := f
      simp [writeFields,Style.item,Style.key,Style.gap,ih,mark]
      omega
  cases fields with
  | nil => exact absurd rfl nonempty
  | cons f more =>
    obtain ⟨key,value⟩ := f
    simp [write,Style.key,Style.gap,rest,mark]
    omega

end JsonText
