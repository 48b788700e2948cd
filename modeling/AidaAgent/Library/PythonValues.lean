import AidaAgent.Library.JsonShape
import AidaAgent.Library.PythonDict

namespace JsonText
open PythonText

def strip (text : String) : String := String.ofList (stripChars text.toList)

theorem strip_empty {text : String} : strip text = "" ↔ isBlank text = true := by
  rw [← String.toList_inj,strip,String.toList_ofList,stripChars,isBlank,List.all_eq_true]
  have ends : ("" : String).toList = [] := rfl
  rw [ends,List.reverse_eq_nil_iff,List.dropWhile_eq_nil_iff]
  simp only [List.mem_reverse]
  constructor
  · intro blank
    cases left : text.toList.dropWhile isSpace with
    | nil => exact List.dropWhile_eq_nil_iff.mp left
    | cons c rest =>
      have space := blank c (by simp [left])
      have first := @List.head_dropWhile_not _ isSpace text.toList (by simp [left])
      simp only [left,List.head_cons] at first
      cases space.symm.trans first
  · exact fun blank c member => blank c ((List.dropWhile_suffix _).subset member)

theorem strip_spaceless {text : String} (plain : ∀ c ∈ text.toList, isSpace c = false) : strip text = text := by
  rw [strip,stripChars_spaceless plain,String.ofList_toList]

-- text.rstrip("/")
def stripSlashes (text : String) : String := String.ofList (text.toList.reverse.dropWhile (· = '/')).reverse

-- text.partition(mark): what is before and after the first occurrence of a text.
def partitionChars (mark : List Char) : List Char → Option (List Char × List Char)
  | [] => if mark = [] then some ([],[]) else none
  | c :: cs =>
    if mark.isPrefixOf (c :: cs) then some ([],(c :: cs).drop mark.length)
    else (partitionChars mark cs).map fun (front,rest) => (c :: front,rest)

def partition (mark text : String) : Option (String × String) :=
  (partitionChars mark.toList text.toList).map fun (front,rest) => (String.ofList front,String.ofList rest)

-- A text before which a character of the mark does not occur comes before its first
-- occurrence.
theorem partitionChars_first (mark : List Char) (split_ : mark = head ++ c :: tail) (apart : c ∉ head)
    (absent : c ∉ front) (rest : List Char) : partitionChars mark (front ++ mark ++ rest) = some (front,rest) := by
  induction front with
  | nil =>
    rw [List.nil_append]
    have starts : mark.isPrefixOf (mark ++ rest) = true := List.isPrefixOf_iff_prefix.mpr (List.prefix_append _ _)
    cases mark with
    | nil => cases head <;> cases split_
    | cons m more =>
      rw [List.cons_append] at starts ⊢
      rw [partitionChars,if_pos starts,← List.cons_append,List.drop_left]
  | cons x front ih =>
    have unlike : mark.isPrefixOf (x :: (front ++ mark ++ rest)) ≠ true := by
      intro starts
      obtain ⟨more,same⟩ := List.isPrefixOf_iff_prefix.mp starts
      have shape : x :: (front ++ mark ++ rest) = (x :: front ++ head) ++ (c :: tail ++ rest) := by
        rw [split_]
        simp
      have own : (mark ++ more)[head.length]? = some c := by
        rw [split_]
        simp
      have early : head.length < (x :: front ++ head).length := by simp
      rw [same,shape,List.getElem?_append_left early] at own
      rcases List.mem_append.mp (List.mem_of_getElem? own) with before | inside
      · exact absent before
      · exact apart inside
    rw [List.cons_append,List.cons_append,partitionChars,if_neg unlike,
      ih fun member => absent (List.mem_cons_of_mem x member)]
    rfl

theorem partition_first {mark front : String} (split_ : mark.toList = head ++ c :: tail) (apart : c ∉ head)
    (absent : c ∉ front.toList) (rest : String) : partition mark (front ++ mark ++ rest) = some (front,rest) := by
  unfold partition
  rw [String.toList_append,String.toList_append,partitionChars_first mark.toList split_ apart absent]
  simp

-- What json.loads makes of a parsed text: of an object's fields of one name, the last
-- value stands at the place of the first.
mutual
def dictOf : Json → Json
  | .arr items => .arr (dictItems items)
  | .obj fields => .obj (PythonDict.putAll [] (dictFields fields))
  | .null => .null
  | .bool value => .bool value
  | .int value => .int value
  | .float literal => .float literal
  | .constant value => .constant value
  | .str text => .str text

def dictItems : List Json → List Json
  | [] => []
  | item :: rest => dictOf item :: dictItems rest

def dictFields : List (String × Json) → List (String × Json)
  | [] => []
  | (key,value) :: rest => (key,dictOf value) :: dictFields rest
end

theorem dictItems_map (items : List Json) : dictItems items = items.map dictOf := by
  induction items with
  | nil => rfl
  | cons item rest ih => simp [dictItems,ih]

theorem dictFields_map (fields : List (String × Json)) :
    dictFields fields = fields.map fun field => (field.1,dictOf field.2) := by
  induction fields with
  | nil => rfl
  | cons field rest ih => simp [dictFields,ih]

theorem dict_keys (fields : List (String × Json)) : (keys (PythonDict.putAll [] (dictFields fields))).Nodup :=
  PythonDict.keys_putAll (d := []) List.nodup_nil _

-- What holds of each value of the fields holds of each value of the dict.
theorem dict_each {P : Json → Prop} (each : ∀ field ∈ fields, P (dictOf field.2)) :
    ∀ field ∈ PythonDict.putAll [] (dictFields fields), P field.2 := by
  intro field member
  rcases PythonDict.mem_putAll member with none_ | listed
  · cases none_
  · rw [dictFields_map] at listed
    obtain ⟨old,inside,rfl⟩ := List.mem_map.mp listed
    exact each old inside

theorem dictOf_distinct (v : Json) : DistinctKeys (dictOf v) := by
  unfold DistinctKeys
  induction v using Json.induct with
  | null => exact .null
  | bool => exact .bool
  | int => exact .int
  | float => exact .float
  | constant => exact .constant trivial
  | str => exact .str
  | arr items ih =>
    rw [dictOf,dictItems_map]
    refine .arr fun item member => ?_
    obtain ⟨old,inside,rfl⟩ := List.mem_map.mp member
    exact ih old inside
  | obj fields ih =>
    rw [dictOf]
    exact .obj (dict_keys fields) (dict_each ih)

theorem dictOf_fits (fits : Fits depth v) : Fits depth (dictOf v) := by
  induction fits with
  | null => exact .null
  | bool => exact .bool
  | int small => exact .int small
  | float => exact .float
  | constant => exact .constant
  | str => exact .str
  | arr _ ih =>
    rw [dictOf,dictItems_map]
    refine .arr fun item member => ?_
    obtain ⟨old,inside,rfl⟩ := List.mem_map.mp member
    exact ih old inside
  | obj _ ih =>
    rw [dictOf]
    exact .obj (dict_each ih)

-- A field of the dict is the one that get() finds.
theorem get_dict (fields : List (String × Json)) (key : String) :
    get (PythonDict.putAll [] (dictFields fields)) key = (get fields key).map dictOf := by
  have distinct := dict_keys fields
  apply Option.ext
  intro value
  rw [get_exact distinct,← PythonDict.lookup_mem distinct,PythonDict.lookup_putAll,List.lookup_nil,Option.or_none,
    dictFields_map,← get,get_map]

-- What str() needs beyond json.dumps: repr() of a text.
structure Printer extends Interpreter where
  quote : String → String

def floatText (py : Interpreter) (literal : String) : String :=
  if py.floatRepr literal = Constant.infinity.text then "inf"
  else if py.floatRepr literal = Constant.negInfinity.text then "-inf"
  else py.floatRepr literal

def Constant.print : Constant → String
  | .nan => "nan"
  | .infinity => "inf"
  | .negInfinity => "-inf"

-- repr() of what json.load returns
mutual
def reprOf (py : Printer) : Json → String
  | .null => "None"
  | .bool true => "True"
  | .bool false => "False"
  | .int value => String.ofList (writeInt value)
  | .float literal => floatText py.toInterpreter literal
  | .constant value => value.print
  | .str text => py.quote text
  | .arr items => "[" ++ ", ".intercalate (reprItems py items) ++ "]"
  | .obj fields =>
    let entries := (reprFields py fields).foldl (fun d e => PythonDict.put d e.1 e.2) []
    "\x7b" ++ ", ".intercalate (entries.map fun e => py.quote e.1 ++ ": " ++ e.2) ++ "\x7d"

def reprItems (py : Printer) : List Json → List String
  | [] => []
  | item :: rest => reprOf py item :: reprItems py rest

def reprFields (py : Printer) : List (String × Json) → List (String × String)
  | [] => []
  | (key,value) :: rest => (key,reprOf py value) :: reprFields py rest
end

-- str()
def strOf (py : Printer) : Json → String
  | .str text => text
  | value => reprOf py value

-- bool()
def truthy (py : Interpreter) : Json → Bool
  | .null => false
  | .bool value => value
  | .int value => value ≠ 0
  | .float literal => floatText py literal ≠ "0.0" && floatText py literal ≠ "-0.0"
  | .constant _ => true
  | .str text => text ≠ ""
  | .arr items => !items.isEmpty
  | .obj fields => !fields.isEmpty

end JsonText
