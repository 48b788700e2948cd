import AidaAgent.Library.JsonShape

namespace JsonText
open PythonText

-- The texts of the fields of an object as they stand in the input: what the
-- parser consumes for each value.
def fieldTexts : Nat → Nat → List Char → List (String × List Char)
  | 0,_,_ => []
  | fuel+1,depth,cs =>
    match cs with
    | '"' :: rest =>
      match scanText rest with
      | some (key,tail) =>
        match skipWs tail with
        | ':' :: more =>
          match parseValue fuel depth (skipWs more) with
          | some (_,left) =>
            (key,(skipWs more).take ((skipWs more).length - left.length)) ::
              match skipWs left with
              | ',' :: next => fieldTexts fuel depth (skipWs next)
              | _ => []
          | none => []
        | _ => []
      | none => []
    | _ => []

def fieldText (py : Interpreter) (text : String) (key : String) : Option (List Char) :=
  match skipWs text.toList with
  | '{' :: rest => (fieldTexts (2 * rest.length) (py.recursionLimit - 1) (skipWs rest)).lookup key
  | _ => none

theorem take_front (front back : List Char) : (front ++ back).take ((front ++ back).length - back.length) = front := by
  rw [List.length_append,Nat.add_sub_cancel,List.take_left]

theorem fieldTexts_written (each : ∀ f ∈ (key,value) :: more, Fits depth f.2)
    (enough : 2 * (write py style value ++ writeFields py style more).length + 1 ≤ fuel) :
    fieldTexts fuel depth (writeString style.ascii key ++ (style.key ++ (write py style value ++
      (writeFields py style more ++ '}' :: rest)))) =
      ((key,value) :: more).map fun f => (f.1,write py style f.2) := by
  have opened : ∀ k tail, writeString style.ascii k ++ tail =
      '"' :: (k.toList.flatMap (escapeChar style.ascii) ++ '"' :: tail) := by
    intro k tail
    simp [writeString]
  induction more generalizing key value fuel with
  | nil =>
    obtain ⟨fuel,rfl⟩ : ∃ f, fuel = f + 1 := ⟨fuel - 1,by omega⟩
    have head := @fits_readsBack py style _ _ (each (key,value) (by simp)) fuel ('}' :: rest)
      (numberEnd_cons _ _ (by simp))
      (by simp only [writeFields,List.append_nil] at enough; dsimp only; omega)
    have skipped := @skipWs_gap style _ ('}' :: rest) (@write_opens py style value)
    rw [opened]
    simp only [fieldTexts,writeFields,List.nil_append,scanText_written,Style.key,List.cons_append,
      skipWs_mark (show isWs ':' = false by decide),skipped,head,
      skipWs_mark (show isWs '}' = false by decide),take_front]
    simp
  | cons next more ih =>
    obtain ⟨nextKey,nextValue⟩ := next
    obtain ⟨fuel,rfl⟩ : ∃ f, fuel = f + 1 := ⟨fuel - 1,by omega⟩
    simp only [writeFields,Style.item,List.length_append,List.length_cons,List.cons_append] at enough
    have head := @fits_readsBack py style _ _ (each (key,value) (by simp)) fuel
      (',' :: (style.gap ++ (writeString style.ascii nextKey ++ (style.key ++
        (write py style nextValue ++ (writeFields py style more ++ '}' :: rest))))))
      (numberEnd_cons _ _ (by simp)) (by dsimp only; omega)
    have tail := @ih _ _ fuel (fun f member => each f (List.mem_cons_of_mem _ member))
      (by simp only [List.length_append]; omega)
    have skipped := @skipWs_gap style _ (',' :: (style.gap ++
        (writeString style.ascii nextKey ++ (style.key ++ (write py style nextValue ++
          (writeFields py style more ++ '}' :: rest)))))) (@write_opens py style value)
    have skippedKey := @skipWs_gap style (writeString style.ascii nextKey)
      (style.key ++ (write py style nextValue ++ (writeFields py style more ++ '}' :: rest)))
      ⟨_,_,rfl,by decide⟩
    rw [opened]
    simp only [fieldTexts,writeFields,scanText_written,Style.key,Style.item,
      List.cons_append,List.append_assoc,skipWs_mark (show isWs ':' = false by decide)] at *
    simp only [skipped,head,skipWs_mark (show isWs ',' = false by decide),skippedKey,tail,take_front,
      List.map_cons]

theorem fieldText_written (fits : Fits py.recursionLimit (.obj fields)) (nonempty : fields ≠ []) :
    fieldText py (dumps py style (.obj fields)) key =
      (fields.map fun f => (f.1,write py style f.2)).lookup key := by
  cases fields with
  | nil => exact absurd rfl nonempty
  | cons field more =>
    obtain ⟨name,value⟩ := field
    obtain ⟨below,deep,each⟩ : ∃ below, py.recursionLimit = below + 1 ∧ ∀ f ∈ (name,value) :: more, Fits below f.2 := by
      generalize py.recursionLimit = depth at fits
      cases fits with
      | obj each => exact ⟨_,rfl,each⟩
    have body : skipWs (write py style (.obj ((name,value) :: more))) = write py style (.obj ((name,value) :: more)) := by
      simpa using @skipWs_opens _ ([]) (@write_opens py style (.obj ((name,value) :: more)))
    have start := @skipWs_opens (writeString style.ascii name)
      (style.key ++ (write py style value ++ (writeFields py style more ++ ['}']))) ⟨_,_,rfl,by decide⟩
    unfold fieldText dumps
    rw [String.toList_ofList,body]
    simp only [write,List.cons_append,List.append_assoc,start,deep,Nat.add_sub_cancel]
    rw [fieldTexts_written each (by simp only [List.length_append,List.length_cons,List.length_nil]; omega)]

end JsonText
