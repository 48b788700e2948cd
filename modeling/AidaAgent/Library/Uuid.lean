import AidaAgent.Library.JsonScan

namespace Uuid
open JsonText

def removeWord (word : List Char) : Nat → List Char → List Char
  | 0,cs => cs
  | _+1,[] => []
  | fuel+1,c :: cs =>
    if word.isPrefixOf (c :: cs) then removeWord word fuel ((c :: cs).drop word.length)
    else c :: removeWord word fuel cs

def isBrace (c : Char) : Bool := c = '{' || c = '}'
def stripBraces (cs : List Char) : List Char := ((cs.dropWhile isBrace).reverse.dropWhile isBrace).reverse

def hexNumber (cs : List Char) : Option Nat :=
  (cs.mapM hexValue).map fun ds => ds.foldl (fun n d => 16 * n + d) 0

-- uuid.UUID(text). The int(hex,16) inside it also takes blanks, a sign, "0x",
-- underscores and the digits of other scripts in the 32 places. str() prints
-- none of them, so whoever compares with `print` refuses them in either case.
def parse (text : String) : Option Nat :=
  let bare := removeWord ['u','r','n',':'] text.length text.toList
  let hex := (stripBraces (removeWord ['u','u','i','d',':'] bare.length bare)).filter (· ≠ '-')
  if hex.length = 32 then hexNumber hex else none

def hexDigits : Nat → Nat → List Char
  | 0,_ => []
  | count+1,n => hexDigits count (n / 16) ++ [Nat.digitChar (n % 16)]

-- str() of a UUID
def print (n : Nat) : String :=
  let ds := hexDigits 32 n
  String.ofList (ds.take 8 ++ '-' :: (ds.drop 8).take 4 ++ '-' :: (ds.drop 12).take 4 ++
    '-' :: (ds.drop 16).take 4 ++ '-' :: ds.drop 20)

def Canonical (text : String) : Prop := ∃ n, n < 16 ^ 32 ∧ print n = text

theorem hexDigits_length (count n : Nat) : (hexDigits count n).length = count := by
  induction count generalizing n with
  | zero => rfl
  | succ count ih => simp [hexDigits,ih]

theorem hexDigits_mem (member : c ∈ hexDigits count n) : ∃ d, d < 16 ∧ c = Nat.digitChar d := by
  induction count generalizing n with
  | zero => cases member
  | succ count ih =>
    rcases List.mem_append.mp member with front | last
    · exact ih front
    · exact ⟨n % 16,Nat.mod_lt _ (by decide),List.mem_singleton.mp last⟩

theorem digitChar_plain : ∀ d, d < 16 → Nat.digitChar d ≠ '-' ∧ Nat.digitChar d ≠ 'u' ∧
    isBrace (Nat.digitChar d) = false ∧ 0x20 ≤ (Nat.digitChar d).toNat ∧ (Nat.digitChar d).toNat < 0x7f ∧
    Nat.digitChar d ≠ '"' ∧ Nat.digitChar d ≠ '\\' := by
  decide

theorem hexNumber_append (front : hexNumber cs = some n) (last : hexValue c = some d) :
    hexNumber (cs ++ [c]) = some (16 * n + d) := by
  obtain ⟨ds,read,rfl⟩ := Option.map_eq_some_iff.mp front
  simp [hexNumber,List.mapM_append,read,last]

theorem hexNumber_hexDigits (count n : Nat) : hexNumber (hexDigits count n) = some (n % 16 ^ count) := by
  induction count generalizing n with
  | zero => simp [hexDigits,hexNumber,Nat.mod_one]
  | succ count ih =>
    have last := hexValue_digitChar (n % 16) (Nat.mod_lt _ (by decide))
    rw [hexDigits,hexNumber_append (ih (n / 16)) last,Nat.pow_succ',Nat.mod_mul]
    rw [Nat.add_comm]

theorem hexNumber_bound (read : hexNumber cs = some n) : n < 16 ^ cs.length := by
  have digit : ∀ c d, hexValue c = some d → d < 16 := by
    intro c d value
    unfold hexValue at value
    have zero : '0'.toNat = 48 := rfl
    simp only [Char.le_def,UInt32.le_iff_toNat_le] at value
    split_ifs at value with dec low high
    · have top : c.toNat ≤ 57 := dec.2
      cases value; omega
    · have top : c.toNat ≤ 102 := low.2
      cases value; omega
    · have top : c.toNat ≤ 70 := high.2
      cases value; omega
  induction cs using List.reverseRecOn generalizing n with
  | nil => cases read; exact Nat.one_pos
  | append_singleton cs c ih =>
    obtain ⟨ds,parsed,rfl⟩ := Option.map_eq_some_iff.mp read
    rw [List.mapM_append] at parsed
    obtain ⟨front,frontRead,rest⟩ := Option.bind_eq_some_iff.mp parsed
    obtain ⟨last,lastRead,joined⟩ := Option.bind_eq_some_iff.mp rest
    obtain ⟨d,value,single⟩ : ∃ d, hexValue c = some d ∧ last = [d] := by
      rw [List.mapM_cons] at lastRead
      obtain ⟨d,value,ends⟩ := Option.bind_eq_some_iff.mp lastRead
      exact ⟨d,value,(Option.some.inj ends).symm⟩
    cases joined
    have below := ih (n := front.foldl (fun n d => 16 * n + d) 0) (by simp [hexNumber,frontRead])
    have small := digit c d value
    simp only [single,List.foldl_append,List.foldl_cons,List.foldl_nil,List.length_append,
      List.length_singleton,Nat.pow_succ]
    omega

theorem removeWord_absent (absent : head ∉ cs) : removeWord (head :: word) fuel cs = cs := by
  induction fuel generalizing cs with
  | zero => rfl
  | succ fuel ih =>
    cases cs with
    | nil => rfl
    | cons c cs =>
      have differs : head ≠ c := fun same => absent (by simp [same])
      have unlike : (head :: word).isPrefixOf (c :: cs) = false := by simp [List.isPrefixOf,differs]
      simp [removeWord,unlike,ih (fun member => absent (List.mem_cons_of_mem _ member))]

theorem stripBraces_none (plain : ∀ c ∈ cs, isBrace c = false) : stripBraces cs = cs := by
  have kept : ∀ ds : List Char, (∀ c ∈ ds, isBrace c = false) → ds.dropWhile isBrace = ds := by
    intro ds none
    cases ds with
    | nil => rfl
    | cons d ds => simp [List.dropWhile,none d (by simp)]
  rw [stripBraces,kept cs plain,kept _ (by simpa using plain),List.reverse_reverse]

theorem print_mem (member : c ∈ (print n).toList) : c = '-' ∨ ∃ d, d < 16 ∧ c = Nat.digitChar d := by
  have known : ∀ x ∈ hexDigits 32 n, ∃ d, d < 16 ∧ x = Nat.digitChar d := fun x => hexDigits_mem
  have taken : ∀ i j, c ∈ ((hexDigits 32 n).drop i).take j → ∃ d, d < 16 ∧ c = Nat.digitChar d :=
    fun i j inside => known c (List.mem_of_mem_drop (List.mem_of_mem_take inside))
  simp only [print,String.toList_ofList,List.mem_append,List.mem_cons] at member
  rcases member with (((front | rfl | b) | rfl | b) | rfl | b) | rfl | b
  · exact .inr (known c (List.mem_of_mem_take front))
  · exact .inl rfl
  · exact .inr (taken _ _ b)
  · exact .inl rfl
  · exact .inr (taken _ _ b)
  · exact .inl rfl
  · exact .inr (taken _ _ b)
  · exact .inl rfl
  · exact .inr (known c (List.mem_of_mem_drop b))

theorem print_length (n : Nat) : (print n).toList.length = 36 := by
  simp [print,hexDigits_length]

theorem groups_join (ds : List Char) :
    ds.take 8 ++ (ds.drop 8).take 4 ++ (ds.drop 12).take 4 ++ (ds.drop 16).take 4 ++ ds.drop 20 = ds := by
  have join : ∀ i j, (ds.drop i).take j ++ ds.drop (i + j) = ds.drop i := by
    intro i j
    rw [← List.drop_drop,List.take_append_drop]
  simp only [List.append_assoc]
  rw [join 16 4,join 12 4,join 8 4,List.take_append_drop]

theorem print_digits (n : Nat) : (print n).toList.filter (· ≠ '-') = hexDigits 32 n := by
  have whole : ∀ i j, (((hexDigits 32 n).drop i).take j).filter (· ≠ '-') = ((hexDigits 32 n).drop i).take j := by
    intro i j
    apply List.filter_eq_self.mpr
    intro c member
    obtain ⟨d,small,rfl⟩ := hexDigits_mem (List.mem_of_mem_drop (List.mem_of_mem_take member))
    simp [(digitChar_plain d small).1]
  have first := whole 0 8
  have final : ((hexDigits 32 n).drop 20).filter (· ≠ '-') = (hexDigits 32 n).drop 20 := by
    have all := whole 20 12
    rwa [List.take_of_length_le (by simp [hexDigits_length])] at all
  rw [List.drop_zero] at first
  have dash : ∀ cs : List Char, ('-' :: cs).filter (· ≠ '-') = cs.filter (· ≠ '-') := by intro cs; simp
  simp only [print,String.toList_ofList,List.filter_append,dash,whole,first,final]
  exact groups_join (hexDigits 32 n)

theorem parse_print (n : Nat) (small : n < 16 ^ 32) : parse (print n) = some n := by
  have plain : ∀ c ∈ (print n).toList, c ≠ 'u' ∧ isBrace c = false := by
    intro c member
    rcases print_mem member with rfl | ⟨d,below,rfl⟩
    · decide
    · exact ⟨(digitChar_plain d below).2.1,(digitChar_plain d below).2.2.1⟩
  have absent : 'u' ∉ (print n).toList := fun member => (plain _ member).1 rfl
  unfold parse
  simp only [removeWord_absent absent,stripBraces_none fun c member => (plain c member).2,print_digits,
    hexDigits_length,if_true,hexNumber_hexDigits,Nat.mod_eq_of_lt small]

theorem parse_bound (read : parse text = some n) : n < 16 ^ 32 := by
  unfold parse at read
  dsimp only at read
  split_ifs at read with size
  simpa only [size] using hexNumber_bound read

theorem canonical_exact : (parse text).map print = some text ↔ Canonical text := by
  constructor
  · intro same
    obtain ⟨n,read,printed⟩ := Option.map_eq_some_iff.mp same
    exact ⟨n,parse_bound read,printed⟩
  · rintro ⟨n,small,rfl⟩
    rw [parse_print n small,Option.map_some]

-- The texts a UUID is printed as: 8-4-4-4-12 lower-case hexadecimal digits.
def lowerHex : List Char := ['0','1','2','3','4','5','6','7','8','9','a','b','c','d','e','f']

def Hyphenated (text : String) : Prop := ∃ a b c d e : List Char,
  a.length = 8 ∧ b.length = 4 ∧ c.length = 4 ∧ d.length = 4 ∧ e.length = 12 ∧
    (∀ x ∈ a ++ b ++ c ++ d ++ e, x ∈ lowerHex) ∧ text.toList = a ++ '-' :: b ++ '-' :: c ++ '-' :: d ++ '-' :: e

theorem digitChar_lowerHex : ∀ d, d < 16 → Nat.digitChar d ∈ lowerHex := by decide

theorem lowerHex_digitChar (hex : c ∈ lowerHex) : ∃ d, d < 16 ∧ Nat.digitChar d = c := by
  have listed : lowerHex = (List.range 16).map Nat.digitChar := by decide
  rw [listed] at hex
  obtain ⟨d,small,digit⟩ := List.mem_map.mp hex
  exact ⟨d,List.mem_range.mp small,digit⟩

-- Any lower-case hexadecimal digits are those of a number.
theorem hexDigits_surjective (hex : ∀ c ∈ cs, c ∈ lowerHex) : ∃ n, n < 16 ^ cs.length ∧ hexDigits cs.length n = cs := by
  induction cs using List.reverseRecOn with
  | nil => exact ⟨0,Nat.one_pos,rfl⟩
  | append_singleton cs c ih =>
    obtain ⟨n,small,front⟩ := ih fun x member => hex x (List.mem_append_left _ member)
    obtain ⟨d,digit,last⟩ := lowerHex_digitChar (hex c (by simp))
    refine ⟨16 * n + d,?_,?_⟩
    · rw [List.length_append,List.length_singleton,Nat.pow_succ]
      omega
    · have high : (16 * n + d) / 16 = n := by omega
      have low : (16 * n + d) % 16 = d := by omega
      rw [List.length_append,List.length_singleton,hexDigits,high,low,front,last]

theorem print_groups (sizeA : a.length = 8) (sizeB : b.length = 4) (sizeC : c.length = 4) (sizeD : d.length = 4)
    (digits : hexDigits 32 n = a ++ b ++ c ++ d ++ e) :
    (print n).toList = a ++ '-' :: b ++ '-' :: c ++ '-' :: d ++ '-' :: e := by
  rw [print,digits,String.toList_ofList]
  simp [List.drop_append,sizeA,sizeB,sizeC,sizeD,List.drop_eq_nil_of_le]

theorem canonical_hyphenated : Canonical text ↔ Hyphenated text := by
  constructor
  · rintro ⟨n,_,rfl⟩
    have size := hexDigits_length 32 n
    have whole := groups_join (hexDigits 32 n)
    have sizeA : ((hexDigits 32 n).take 8).length = 8 := by rw [List.length_take,size]; rfl
    have group : ∀ i, i + 4 ≤ 32 → (((hexDigits 32 n).drop i).take 4).length = 4 := by
      intro i within
      rw [List.length_take,List.length_drop,size]
      omega
    have sizeE : ((hexDigits 32 n).drop 20).length = 12 := by rw [List.length_drop,size]
    refine ⟨_,_,_,_,_,sizeA,group 8 (by decide),group 12 (by decide),group 16 (by decide),sizeE,?_,
      print_groups sizeA (group 8 (by decide)) (group 12 (by decide)) (group 16 (by decide)) whole.symm⟩
    rw [whole]
    intro x member
    obtain ⟨d,small,rfl⟩ := hexDigits_mem member
    exact digitChar_lowerHex d small
  · rintro ⟨a,b,c,d,e,sizeA,sizeB,sizeC,sizeD,sizeE,hex,spelled⟩
    have size : (a ++ b ++ c ++ d ++ e).length = 32 := by
      simp only [List.length_append,sizeA,sizeB,sizeC,sizeD,sizeE]
    obtain ⟨n,small,digits⟩ := hexDigits_surjective hex
    rw [size] at small digits
    refine ⟨n,small,?_⟩
    rw [← String.toList_inj,spelled]
    exact print_groups sizeA sizeB sizeC sizeD digits

end Uuid
