import AidaAgent.Library.JsonShape

namespace JsonText
open PythonText

-- Whether the scan opens a container past what is left of the recursion limit. It
-- goes through a text as parseValue does, and stops where that stops.
mutual
def deepValue : Nat → Nat → List Char → Bool
  | 0,_,_ => false
  | _+1,_,[] => false
  | fuel+1,depth,c :: rest =>
    if c = '[' then
      match depth with
      | 0 => true
      | depth+1 =>
        match skipWs rest with
        | ']' :: _ => false
        | body => deepItems fuel depth body
    else if c = '{' then
      match depth with
      | 0 => true
      | depth+1 =>
        match skipWs rest with
        | '}' :: _ => false
        | body => deepFields fuel depth body
    else false

def deepItems : Nat → Nat → List Char → Bool
  | 0,_,_ => false
  | fuel+1,depth,cs =>
    deepValue fuel depth cs ||
      match parseValue fuel depth cs with
      | none => false
      | some (_,tail) =>
        match skipWs tail with
        | ',' :: more => deepItems fuel depth (skipWs more)
        | _ => false

def deepFields : Nat → Nat → List Char → Bool
  | 0,_,_ => false
  | fuel+1,depth,cs =>
    match cs with
    | '"' :: rest =>
      match scanText rest with
      | none => false
      | some (_,tail) =>
        match skipWs tail with
        | ':' :: more =>
          deepValue fuel depth (skipWs more) ||
            match parseValue fuel depth (skipWs more) with
            | none => false
            | some (_,tail) =>
              match skipWs tail with
              | ',' :: more => deepFields fuel depth (skipWs more)
              | _ => false
        | _ => false
    | _ => false
end

def tooDeep (py : Interpreter) (text : String) : Bool :=
  match text.toList with
  | '\ufeff' :: _ => false
  | cs => deepValue (2 * (skipWs cs).length) py.recursionLimit (skipWs cs)

-- What json.loads of a str ends in.
inductive Decoded where
  | value (v : Json)
  | valueError
  | recursionError

def decode (py : Interpreter) (text : String) : Decoded :=
  match loads py text with
  | some v => .value v
  | none => if tooDeep py text then .recursionError else .valueError

-- A text that nests too deep has no value.
def Stops (fuel : Nat) : Prop :=
  (∀ depth cs, deepValue fuel depth cs = true → parseValue fuel depth cs = none) ∧
    (∀ depth cs, deepItems fuel depth cs = true → parseItems fuel depth cs = none) ∧
    ∀ depth cs, deepFields fuel depth cs = true → parseFields fuel depth cs = none

theorem deepValue_stops (below : Stops fuel) (deep : deepValue (fuel + 1) depth cs = true) :
    parseValue (fuel + 1) depth cs = none := by
  obtain ⟨_,items,fields⟩ := below
  cases cs with
  | nil => rfl
  | cons c rest =>
    unfold deepValue at deep
    unfold parseValue
    by_cases array : c = '['
    · subst array
      rw [if_pos rfl] at deep
      rw [if_neg (by decide),if_pos rfl]
      cases depth with
      | zero => rfl
      | succ depth =>
        dsimp only at deep ⊢
        split
        · rename_i closed
          simp [closed] at deep
        · rename_i unclosed
          have inside : deepItems fuel depth (skipWs rest) = true := by simpa [unclosed] using deep
          rw [items depth _ inside]
          rfl
    · rw [if_neg array] at deep
      by_cases object : c = '{'
      · subst object
        rw [if_pos rfl] at deep
        rw [if_neg (by decide),if_neg (by decide),if_pos rfl]
        cases depth with
        | zero => rfl
        | succ depth =>
          dsimp only at deep ⊢
          split
          · rename_i closed
            simp [closed] at deep
          · rename_i unclosed
            have inside : deepFields fuel depth (skipWs rest) = true := by simpa [unclosed] using deep
            rw [fields depth _ inside]
            rfl
      · rw [if_neg object] at deep
        cases deep

theorem deepItems_stops (below : Stops fuel) (deep : deepItems (fuel + 1) depth cs = true) :
    parseItems (fuel + 1) depth cs = none := by
  obtain ⟨values,items,_⟩ := below
  unfold deepItems at deep
  unfold parseItems
  rcases Bool.or_eq_true_iff.mp deep with first | later
  · rw [values depth cs first]
    rfl
  · split at later
    · cases later
    · rename_i item tail read
      rw [read,Option.bind_some]
      split at later
      · rename_i more comma
        simp only [comma]
        rw [items depth _ later]
        rfl
      · cases later

theorem deepFields_stops (below : Stops fuel) (deep : deepFields (fuel + 1) depth cs = true) :
    parseFields (fuel + 1) depth cs = none := by
  obtain ⟨values,_,fields⟩ := below
  by_cases quoted : ∃ rest, cs = '"' :: rest
  · obtain ⟨rest,rfl⟩ := quoted
    simp only [deepFields] at deep
    simp only [parseFields]
    split at deep
    · cases deep
    · rename_i key tail read
      rw [read,Option.bind_some]
      split at deep
      · rename_i more colon
        simp only [colon]
        rcases Bool.or_eq_true_iff.mp deep with first | later
        · rw [values depth _ first]
          rfl
        · split at later
          · cases later
          · rename_i value left found
            rw [found,Option.bind_some]
            split at later
            · rename_i others comma
              simp only [comma]
              rw [fields depth _ later]
              rfl
            · cases later
      · cases deep
  · unfold deepFields at deep
    split at deep
    · exact (quoted ⟨_,rfl⟩).elim
    · cases deep

theorem stops (fuel : Nat) : Stops fuel := by
  induction fuel with
  | zero => exact ⟨fun _ _ _ => rfl,fun _ _ _ => rfl,fun _ _ _ => rfl⟩
  | succ fuel ih =>
    exact ⟨fun _ _ => deepValue_stops ih,fun _ _ => deepItems_stops ih,fun _ _ => deepFields_stops ih⟩

theorem tooDeep_unread (deep : tooDeep py text = true) : loads py text = none := by
  have inside : deepValue (2 * (skipWs text.toList).length) py.recursionLimit (skipWs text.toList) = true := by
    unfold tooDeep at deep
    split at deep
    · cases deep
    · exact deep
  unfold loads
  split
  · rfl
  · unfold loadsChars
    dsimp only
    rw [(stops _).1 _ _ inside]
    rfl

theorem decode_deep : decode py text = .recursionError ↔ tooDeep py text = true := by
  unfold decode
  constructor
  · intro raised
    split at raised
    · cases raised
    · split at raised
      · assumption
      · cases raised
  · intro deep
    rw [tooDeep_unread deep]
    dsimp only
    rw [if_pos deep]

theorem decode_value : decode py text = .value v ↔ loads py text = some v := by
  unfold decode
  split
  · rename_i w read
    rw [read]
    exact ⟨fun same => congrArg some (Decoded.value.inj same),fun same => congrArg Decoded.value (Option.some.inj same)⟩
  · rename_i unread
    rw [unread]
    split <;> simp

-- One bracket more than the limit allows.
theorem deep_brackets (depth extra : Nat) (rest : List Char) :
    deepValue (2 * (depth + 1) + extra) depth (List.replicate (depth + 1) '[' ++ rest) = true := by
  induction depth generalizing extra rest with
  | zero =>
    rw [show 2 * (0 + 1) + extra = extra + 1 + 1 by omega]
    rfl
  | succ depth ih =>
    have shape : List.replicate (depth + 1 + 1) '[' ++ rest = '[' :: (List.replicate (depth + 1) '[' ++ rest) := rfl
    have bracket : ∃ more, List.replicate (depth + 1) '[' ++ rest = '[' :: more := ⟨_,rfl⟩
    have inner : skipWs (List.replicate (depth + 1) '[' ++ rest) = List.replicate (depth + 1) '[' ++ rest := by
      obtain ⟨more,open_⟩ := bracket
      rw [open_]
      rfl
    rw [shape,show 2 * (depth + 1 + 1) + extra = (2 * (depth + 1) + extra) + 1 + 1 by omega]
    unfold deepValue
    rw [if_pos rfl]
    dsimp only
    rw [inner]
    split
    · rename_i closed
      obtain ⟨more,open_⟩ := bracket
      rw [open_] at closed
      cases closed
    · unfold deepItems
      rw [ih extra rest]
      rfl

theorem deep_text (py : Interpreter) :
    decode py (String.ofList (List.replicate (py.recursionLimit + 1) '[')) = .recursionError := by
  rw [decode_deep]
  unfold tooDeep
  rw [String.toList_ofList]
  have plain : skipWs (List.replicate (py.recursionLimit + 1) '[') = List.replicate (py.recursionLimit + 1) '[' := rfl
  have deep := deep_brackets py.recursionLimit 0 []
  rw [List.append_nil,Nat.add_zero] at deep
  split
  · rename_i marked
    rw [List.replicate_succ] at marked
    cases marked
  · rw [plain,List.length_replicate]
    exact deep

end JsonText
