import AidaAgent.Library.JsonScan

namespace JsonText
open PythonText

-- Within the interpreter's limits: `depth` nested containers, and integers that
-- int() still reads.
inductive Fits : Nat → Json → Prop where
  | null : Fits depth .null
  | bool : Fits depth (.bool value)
  | int : (Nat.toDigits 10 value.natAbs).length ≤ maxStrDigits → Fits depth (.int value)
  | float : Fits depth (.float literal)
  | constant : Fits depth (.constant value)
  | str : Fits depth (.str text)
  | arr : (∀ item ∈ items, Fits depth item) → Fits (depth + 1) (.arr items)
  | obj : (∀ field ∈ fields, Fits depth field.2) → Fits (depth + 1) (.obj fields)

-- A value as it comes back from its own text: only floats are spelled anew.
mutual
def reread (py : Interpreter) : Json → Json
  | .float literal =>
    if py.floatRepr literal = Constant.infinity.text then .constant .infinity
    else if py.floatRepr literal = Constant.negInfinity.text then .constant .negInfinity
    else .float (py.floatRepr literal)
  | .arr items => .arr (rereadItems py items)
  | .obj fields => .obj (rereadFields py fields)
  | .null => .null
  | .bool value => .bool value
  | .int value => .int value
  | .constant value => .constant value
  | .str text => .str text

def rereadItems (py : Interpreter) : List Json → List Json
  | [] => []
  | item :: rest => reread py item :: rereadItems py rest

def rereadFields (py : Interpreter) : List (String × Json) → List (String × Json)
  | [] => []
  | (key,value) :: rest => (key,reread py value) :: rereadFields py rest
end

variable {py : Interpreter} {style : Style}

theorem rereadItems_map (items : List Json) : rereadItems py items = items.map (reread py) := by
  induction items with
  | nil => rfl
  | cons item rest ih => simp [rereadItems,ih]

theorem rereadFields_map (fields : List (String × Json)) :
    rereadFields py fields = fields.map fun field => (field.1,reread py field.2) := by
  induction fields with
  | nil => rfl
  | cons field rest ih => simp [rereadFields,ih]

theorem numberEnd_cons (c : Char) (rest : List Char) (mark : c = ',' ∨ c = ']' ∨ c = '}' ∨ c = ' ') :
    NumberEnd (c :: rest) := by
  intro d more same
  cases same
  rcases mark with rfl | rfl | rfl | rfl <;> decide

-- The first character of a written value
def Opens (cs : List Char) : Prop :=
  ∃ c more, cs = c :: more ∧ isWs c = false ∧ c ≠ ']' ∧ c ≠ '}' ∧ c ≠ '\ufeff'

theorem opens_number (read : scanNumber cs = some result) : Opens cs := by
  have digit : ∀ c : Char, c.isDigit = true → isWs c = false ∧ c ≠ ']' ∧ c ≠ '}' ∧ c ≠ '\ufeff' := by
    intro c numeral
    refine ⟨?_,?_,?_,?_⟩
    · by_contra ws
      have ws : isWs c = true := by simpa using ws
      simp only [isWs,Bool.or_eq_true,decide_eq_true_eq,or_assoc] at ws
      rcases ws with rfl | rfl | rfl | rfl <;> exact absurd numeral (by decide)
    all_goals rintro rfl; exact absurd numeral (by decide)
  obtain ⟨c,more,rfl,numeral⟩ | ⟨c,more,rfl,_⟩ := scanNumber_starts read
  · exact ⟨c,more,rfl,digit c numeral⟩
  · exact ⟨'-',c :: more,rfl,by decide⟩

theorem writeInt_opens (value : Int) : Opens (writeInt value) := by
  cases value with
  | negSucc n => exact ⟨'-',_,rfl,by decide⟩
  | ofNat n =>
    -- the length limit plays no part in how a number starts
    obtain ⟨c,more,front⟩ := List.exists_cons_of_ne_nil (Nat.toDigits_ne_nil (n := n) (b := 10))
    have numeral : c.isDigit = true :=
      Nat.isDigit_of_mem_toDigits (b := 10) (n := n) (by decide) (by decide) (by rw [front]; exact List.mem_cons_self)
    have one : scanNumber [c] = some (.int (intValue [] [c]),[]) := by
      have minus : c ≠ '-' := by rintro rfl; exact absurd numeral (by decide)
      by_cases zero : c = '0'
      · subst c; rfl
      · simp [scanNumber,scanMinus,minus,scanWhole,zero,numeral,digits,scanFraction,scanExponent,maxStrDigits]
    obtain ⟨d,tail,same,facts⟩ := opens_number one
    obtain ⟨rfl,rfl⟩ := List.cons.inj same
    exact ⟨c,more,front,facts⟩

theorem write_opens (v : Json) : Opens (write py style v) := by
  cases v with
  | null => exact ⟨_,_,rfl,by decide⟩
  | bool value => cases value <;> exact ⟨_,_,rfl,by decide⟩
  | int value => exact writeInt_opens value
  | float literal =>
    rcases py.written literal with infinite | infinite | read
    · exact ⟨'I',['n','f','i','n','i','t','y'],by rw [write,infinite]; rfl,by decide⟩
    · exact ⟨'-',['I','n','f','i','n','i','t','y'],by rw [write,infinite]; rfl,by decide⟩
    · exact opens_number read
  | constant value => cases value <;> exact ⟨_,_,rfl,by decide⟩
  | str text => exact ⟨_,_,rfl,by decide⟩
  | arr items =>
    cases items with
    | nil => exact ⟨_,_,by rw [write],by decide⟩
    | cons item rest => exact ⟨_,_,by rw [write,List.cons_append,List.cons_append],by decide⟩
  | obj fields =>
    cases fields with
    | nil => exact ⟨_,_,by rw [write],by decide⟩
    | cons field rest =>
      exact ⟨_,_,by rw [write,List.cons_append,List.cons_append,List.cons_append,List.cons_append],by decide⟩

theorem skipWs_opens (opens : Opens cs) : skipWs (cs ++ rest) = cs ++ rest := by
  obtain ⟨c,more,rfl,notWs,_⟩ := opens
  simp [skipWs,notWs]

theorem skipWs_gap (opens : Opens cs) : skipWs (style.gap ++ (cs ++ rest)) = cs ++ rest := by
  have tail := @skipWs_opens _ rest opens
  unfold Style.gap
  split
  · simpa [skipWs,isWs] using tail
  · simpa using tail

theorem skipWs_mark (notWs : isWs c = false) : skipWs (c :: rest) = c :: rest := by
  simp [skipWs,notWs]

theorem parseValue_number (read : scanNumber cs = some (v,[])) (ends : NumberEnd rest) :
    parseValue (fuel + 1) depth (cs ++ rest) = some (v,rest) := by
  have number := @scanNumber_append _ cs ends
  have keyword := @scanKeyword_number _ _ rest read
  rw [read,Option.map_some,List.nil_append] at number
  obtain ⟨c,more,rfl,digit⟩ | ⟨c,more,rfl,_⟩ := scanNumber_starts read
  · have apart : c ≠ '"' ∧ c ≠ '[' ∧ c ≠ '{' := by
      refine ⟨?_,?_,?_⟩ <;> rintro rfl <;> exact absurd digit (by decide)
    rw [List.cons_append] at number keyword ⊢
    simp [parseValue,apart,keyword,number]
  · simp only [List.cons_append] at number keyword ⊢
    simp [parseValue,keyword,number]

theorem parseValue_keyword (found : scanKeyword (c :: rest) = some result)
    (plain : c ≠ '"' ∧ c ≠ '[' ∧ c ≠ '{') : parseValue (fuel + 1) depth (c :: rest) = some result := by
  simp [parseValue,plain,found]

theorem parseValue_constant (value : Constant) :
    parseValue (fuel + 1) depth (value.text.toList ++ rest) = some (.constant value,rest) := by
  cases value
  all_goals
    simp only [Constant.text,String.reduceToList,List.cons_append,List.nil_append]
    exact parseValue_keyword (by simp [scanKeyword,keywords]) (by decide)

theorem parseValue_string (ascii : Bool) (text : String) :
    parseValue (fuel + 1) depth (writeString ascii text ++ rest) = some (.str text,rest) := by
  have read := @scanText_written rest ascii text
  simp [writeString,parseValue,read]

-- What the induction over a value provides for each of its parts.
def ReadsBack (py : Interpreter) (style : Style) (depth : Nat) (v : Json) : Prop :=
  ∀ fuel rest, NumberEnd rest → 2 * (write py style v).length ≤ fuel →
    parseValue fuel depth (write py style v ++ rest) = some (reread py v,rest)

theorem write_length (v : Json) : 0 < (write py style v).length := by
  obtain ⟨c,more,front,_⟩ := @write_opens py style v
  simp [front]

theorem parseItems_written (each : ∀ v ∈ item :: more, ReadsBack py style depth v)
    (enough : 2 * (write py style item ++ writeItems py style more).length + 1 ≤ fuel) :
    parseItems fuel depth (write py style item ++ (writeItems py style more ++ ']' :: rest)) =
      some ((item :: more).map (reread py),rest) := by
  induction more generalizing item fuel with
  | nil =>
    obtain ⟨fuel,rfl⟩ : ∃ f, fuel = f + 1 := ⟨fuel - 1,by omega⟩
    have head := each item (by simp) fuel (']' :: rest) (numberEnd_cons _ _ (by simp))
      (by simp [writeItems] at enough; omega)
    simp [parseItems,writeItems,head,skipWs_mark (show isWs ']' = false by decide)]
  | cons next more ih =>
    obtain ⟨fuel,rfl⟩ : ∃ f, fuel = f + 1 := ⟨fuel - 1,by omega⟩
    simp only [writeItems,Style.item,List.length_append,List.length_cons,List.cons_append] at enough
    have head := each item (by simp) fuel
      (',' :: (style.gap ++ (write py style next ++ (writeItems py style more ++ ']' :: rest))))
      (numberEnd_cons _ _ (by simp)) (by omega)
    have tail := @ih _ fuel (fun v member => each v (List.mem_cons_of_mem _ member))
      (by simp only [List.length_append]; omega)
    have skipped := @skipWs_gap style _ (writeItems py style more ++ ']' :: rest)
      (@write_opens py style next)
    simp only [writeItems,Style.item,List.cons_append,List.append_assoc,parseItems,head,Option.bind_some,
      skipWs_mark (show isWs ',' = false by decide),skipped,tail,Option.map_some,List.map_cons]

theorem parseFields_written (each : ∀ f ∈ (key,value) :: more, ReadsBack py style depth f.2)
    (enough : 2 * (write py style value ++ writeFields py style more).length + 1 ≤ fuel) :
    parseFields fuel depth (writeString style.ascii key ++ (style.key ++ (write py style value ++
      (writeFields py style more ++ '}' :: rest)))) =
      some (((key,value) :: more).map fun f => (f.1,reread py f.2),rest) := by
  have opened : ∀ k tail, writeString style.ascii k ++ tail =
      '"' :: (k.toList.flatMap (escapeChar style.ascii) ++ '"' :: tail) := by
    intro k tail
    simp [writeString]
  have keyOpens : ∀ k, Opens (writeString style.ascii k) := fun k => ⟨_,_,rfl,by decide⟩
  induction more generalizing key value fuel with
  | nil =>
    obtain ⟨fuel,rfl⟩ : ∃ f, fuel = f + 1 := ⟨fuel - 1,by omega⟩
    have head := each (key,value) (by simp) fuel ('}' :: rest) (numberEnd_cons _ _ (by simp))
      (by simp [writeFields] at enough ⊢; omega)
    have skipped := @skipWs_gap style _ ('}' :: rest) (@write_opens py style value)
    rw [opened]
    simp only [parseFields,writeFields,List.nil_append,scanText_written,Option.bind_some,Style.key,
      List.cons_append,skipWs_mark (show isWs ':' = false by decide),skipped,head,
      skipWs_mark (show isWs '}' = false by decide),List.map_cons,List.map_nil]
  | cons next more ih =>
    obtain ⟨nextKey,nextValue⟩ := next
    obtain ⟨fuel,rfl⟩ : ∃ f, fuel = f + 1 := ⟨fuel - 1,by omega⟩
    simp only [writeFields,Style.item,List.length_append,List.length_cons,List.cons_append] at enough
    have head := each (key,value) (by simp) fuel
      (',' :: (style.gap ++ (writeString style.ascii nextKey ++ (style.key ++
        (write py style nextValue ++ (writeFields py style more ++ '}' :: rest))))))
      (numberEnd_cons _ _ (by simp)) (by simp only; omega)
    have tail := @ih _ _ fuel (fun f member => each f (List.mem_cons_of_mem _ member))
      (by simp only [List.length_append]; omega)
    have skipped := @skipWs_gap style _ (',' :: (style.gap ++
        (writeString style.ascii nextKey ++ (style.key ++ (write py style nextValue ++
          (writeFields py style more ++ '}' :: rest)))))) (@write_opens py style value)
    have skippedKey := @skipWs_gap style _ (style.key ++ (write py style nextValue ++
        (writeFields py style more ++ '}' :: rest))) (keyOpens nextKey)
    rw [opened]
    simp only [parseFields,writeFields,scanText_written,Option.bind_some,Style.key,Style.item,
      List.cons_append,List.append_assoc,skipWs_mark (show isWs ':' = false by decide)] at *
    simp only [skipped,head,Option.bind_some,skipWs_mark (show isWs ',' = false by decide),skippedKey,tail,
      Option.map_some,List.map_cons]

theorem fits_readsBack (fits : Fits depth v) : ReadsBack py style depth v := by
  induction fits with
  | null =>
    intro fuel rest ends enough
    obtain ⟨fuel,rfl⟩ : ∃ f, fuel = f + 1 := ⟨fuel - 1,by simp [write] at enough; omega⟩
    exact parseValue_keyword (by simp [scanKeyword,keywords,reread]) (by decide)
  | @bool depth value =>
    intro fuel rest ends enough
    obtain ⟨fuel,rfl⟩ : ∃ f, fuel = f + 1 := ⟨fuel - 1,by cases value <;> simp [write] at enough <;> omega⟩
    cases value <;> exact parseValue_keyword (by simp [scanKeyword,keywords,reread]) (by decide)
  | @int depth value short =>
    intro fuel rest ends enough
    have positive := @write_length py style (.int value)
    obtain ⟨fuel,rfl⟩ : ∃ f, fuel = f + 1 := ⟨fuel - 1,by omega⟩
    exact parseValue_number (scanNumber_writeInt short) ends
  | @float depth literal =>
    intro fuel rest ends enough
    have positive := @write_length py style (.float literal)
    obtain ⟨fuel,rfl⟩ : ∃ f, fuel = f + 1 := ⟨fuel - 1,by omega⟩
    rcases py.written literal with infinite | infinite | read
    · simp only [write,reread,infinite,if_true]
      exact parseValue_constant .infinity
    · simp only [write,reread,infinite,if_true]
      exact parseValue_constant .negInfinity
    · have finite : py.floatRepr literal ≠ Constant.infinity.text ∧
          py.floatRepr literal ≠ Constant.negInfinity.text := by
        constructor
        all_goals
          intro same
          rw [same] at read
          simp [Constant.text,scanNumber,scanMinus,scanWhole,Char.isDigit] at read
      simp only [write,reread,finite,if_false]
      exact parseValue_number read ends
  | @constant depth value =>
    intro fuel rest ends enough
    have positive := @write_length py style (.constant value)
    obtain ⟨fuel,rfl⟩ : ∃ f, fuel = f + 1 := ⟨fuel - 1,by omega⟩
    exact parseValue_constant value
  | @str depth text =>
    intro fuel rest ends enough
    have positive := @write_length py style (.str text)
    obtain ⟨fuel,rfl⟩ : ∃ f, fuel = f + 1 := ⟨fuel - 1,by omega⟩
    exact parseValue_string style.ascii text
  | @arr items depth inside each =>
    intro fuel rest ends enough
    cases items with
    | nil =>
      obtain ⟨fuel,rfl⟩ : ∃ f, fuel = f + 1 := ⟨fuel - 1,by simp [write] at enough; omega⟩
      simp [write,parseValue,skipWs_mark (show isWs ']' = false by decide),reread,rereadItems]
    | cons item more =>
      have positive := @write_length py style item
      simp only [write,List.length_append,List.length_cons,List.length_nil,List.cons_append] at enough
      obtain ⟨fuel,rfl⟩ : ∃ f, fuel = f + 1 := ⟨fuel - 1,by omega⟩
      have read := @parseItems_written _ _ _ _ _ fuel rest each (by simp only [List.length_append]; omega)
      have skipped := @skipWs_opens _ (writeItems py style more ++ ']' :: rest)
        (@write_opens py style item)
      obtain ⟨c,tail,front,_,bracket,_⟩ := @write_opens py style item
      simp only [write,parseValue,List.cons_append,List.append_assoc,List.nil_append,
        reread,rereadItems_map]
      rw [skipped]
      rw [front,List.cons_append] at read ⊢
      simp [bracket,read]
  | @obj fields depth inside each =>
    intro fuel rest ends enough
    cases fields with
    | nil =>
      obtain ⟨fuel,rfl⟩ : ∃ f, fuel = f + 1 := ⟨fuel - 1,by simp [write] at enough; omega⟩
      simp [write,parseValue,skipWs_mark (show isWs '}' = false by decide),reread,rereadFields]
    | cons field more =>
      obtain ⟨key,value⟩ := field
      simp only [write,List.length_append,List.length_cons,List.length_nil,List.cons_append] at enough
      obtain ⟨fuel,rfl⟩ : ∃ f, fuel = f + 1 := ⟨fuel - 1,by omega⟩
      have read := @parseFields_written _ _ key value _ _ fuel rest each
        (by simp only [List.length_append]; omega)
      have skipped := @skipWs_opens (writeString style.ascii key) (style.key ++
        (write py style value ++ (writeFields py style more ++ '}' :: rest))) ⟨_,_,rfl,by decide⟩
      simp only [write,parseValue,List.cons_append,List.append_assoc,List.nil_append,
        reread,rereadFields_map]
      rw [skipped]
      simp only [writeString,List.cons_append,List.append_assoc,List.nil_append] at read ⊢
      simp [read]

theorem loadsChars_written (fits : Fits py.recursionLimit v) :
    loadsChars py (write py style v) = some (reread py v) := by
  have body : skipWs (write py style v) = write py style v := by
    simpa using @skipWs_opens _ ([]) (@write_opens py style v)
  have read := @fits_readsBack py style _ _ fits _ [] numberEnd_nil (Nat.le_refl _)
  rw [List.append_nil] at read
  have done : skipWs [] = [] := rfl
  simp only [loadsChars,body,read,Option.bind_some,done,if_true]

-- json.loads undoes json.dumps on a str ...
theorem loads_dumps (fits : Fits py.recursionLimit v) :
    loads py (dumps py style v) = some (reread py v) := by
  have read := @loadsChars_written _ style _ fits
  unfold loads
  rw [dumps,String.toList_ofList]
  split
  · rename_i bom
    obtain ⟨c,more,front,_,_,_,notBom⟩ := @write_opens py style v
    rw [front] at bom
    exact absurd (List.cons.inj bom).1 notBom
  · exact read

-- ... and on its UTF-8 bytes.
theorem decodeBytes_dumps (fields : List (String × Json)) :
    decodeBytes (dumps py style (.obj fields)).toUTF8 = some (dumps py style (.obj fields)) := by
  have second : ∃ d more, write py style (.obj fields) = '{' :: d :: more ∧ 0 < d.toNat := by
    cases fields with
    | nil => exact ⟨'}',[],by rw [write],by decide⟩
    | cons field rest =>
      obtain ⟨key,value⟩ := field
      exact ⟨'"',_,by rw [write,writeString]; rfl,by decide⟩
  obtain ⟨d,more,front,positive⟩ := second
  rw [dumps,front]
  apply decodeBytes_utf8 (by decide) (by decide)
  intro e tail same
  obtain ⟨rfl,_⟩ := List.cons.inj same
  exact positive

theorem loadsBytes_dumps (fits : Fits py.recursionLimit (.obj fields)) :
    loadsBytes py (dumps py style (.obj fields)).toUTF8 = some (reread py (.obj fields)) := by
  rw [loadsBytes,decodeBytes_dumps,Option.bind_some,dumps,String.toList_ofList]
  exact loadsChars_written fits

end JsonText
