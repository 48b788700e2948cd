import AidaAgent.Library.JsonText

namespace JsonText
open PythonText

-- What may follow a number without changing how it is read.
def NumberEnd (rest : List Char) : Prop :=
  ∀ c more, rest = c :: more → c.isDigit = false ∧ c ≠ '.' ∧ c ≠ 'e' ∧ c ≠ 'E' ∧ c ≠ '+' ∧ c ≠ '-'

theorem numberEnd_nil : NumberEnd [] := by
  intro c more same
  cases same

theorem digits_append (ends : NumberEnd rest) :
    digits (cs ++ rest) = ((digits cs).1,(digits cs).2 ++ rest) := by
  induction cs with
  | nil =>
    cases rest with
    | nil => rfl
    | cons c more => simp [digits,(ends c more rfl).1]
  | cons c cs ih =>
    cases isDigit : c.isDigit with
    | true => simpa [digits,isDigit] using ih
    | false => simp [digits,isDigit]

theorem scanWhole_append (ends : NumberEnd rest) :
    scanWhole (cs ++ rest) = (scanWhole cs).map fun p => (p.1,p.2 ++ rest) := by
  cases cs with
  | nil =>
    cases rest with
    | nil => rfl
    | cons c more =>
      have notDigit := (ends c more rfl).1
      have notZero : c ≠ '0' := by rintro rfl; exact absurd notDigit (by decide)
      simp [scanWhole,notDigit,notZero]
  | cons c cs =>
    have split := @digits_append _ (c :: cs) ends
    simp only [List.cons_append] at split
    simp only [List.cons_append,scanWhole,split]
    split_ifs <;> rfl

theorem scanFraction_append (ends : NumberEnd rest) :
    scanFraction (cs ++ rest) = ((scanFraction cs).1,(scanFraction cs).2 ++ rest) := by
  cases cs with
  | nil =>
    cases rest with
    | nil => rfl
    | cons c more => simp [scanFraction,(ends c more rfl).2.1]
  | cons c cs =>
    simp only [List.cons_append,scanFraction,digits_append ends]
    split_ifs <;> rfl

theorem scanSign_append (ends : NumberEnd rest) :
    scanSign (cs ++ rest) = ((scanSign cs).1,(scanSign cs).2 ++ rest) := by
  cases cs with
  | nil =>
    cases rest with
    | nil => rfl
    | cons c more =>
      obtain ⟨_,_,_,_,plus,minus⟩ := ends c more rfl
      simp [scanSign,plus,minus]
  | cons c cs =>
    simp only [List.cons_append,scanSign]
    split_ifs <;> rfl

theorem scanExponent_append (ends : NumberEnd rest) :
    scanExponent (cs ++ rest) = ((scanExponent cs).1,(scanExponent cs).2 ++ rest) := by
  cases cs with
  | nil =>
    cases rest with
    | nil => rfl
    | cons c more =>
      obtain ⟨_,_,lower,upper,_⟩ := ends c more rfl
      simp [scanExponent,lower,upper]
  | cons c cs =>
    simp only [List.cons_append,scanExponent,scanSign_append ends,digits_append ends]
    split_ifs <;> rfl

theorem scanMinus_append (ends : NumberEnd rest) :
    scanMinus (cs ++ rest) = ((scanMinus cs).1,(scanMinus cs).2 ++ rest) := by
  cases cs with
  | nil =>
    cases rest with
    | nil => rfl
    | cons c more => simp [scanMinus,(ends c more rfl).2.2.2.2.2]
  | cons c cs =>
    simp only [List.cons_append,scanMinus]
    split_ifs <;> rfl

theorem scanNumber_append (ends : NumberEnd rest) :
    scanNumber (cs ++ rest) = (scanNumber cs).map fun p => (p.1,p.2 ++ rest) := by
  simp only [scanNumber,scanMinus_append ends,scanWhole_append ends]
  cases scanWhole (scanMinus cs).2 with
  | none => rfl
  | some whole =>
    simp only [Option.map_some,Option.bind_some,scanFraction_append ends,scanExponent_append ends]
    split_ifs <;> rfl

-- Decimal digits of a natural number
theorem toDigits_head (positive : 0 < n) :
    ∃ c more, Nat.toDigits 10 n = c :: more ∧ c ≠ '0' := by
  induction n using Nat.strongRecOn with
  | ind n ih =>
    by_cases small : n < 10
    · refine ⟨n.digitChar,[],Nat.toDigits_of_lt_base small,?_⟩
      intro zero
      have value := Nat.toNat_digitChar_of_lt_ten small
      rw [zero] at value
      have : ('0' : Char).toNat = 48 := rfl
      omega
    · obtain ⟨c,more,front,nonzero⟩ := ih (n / 10) (by omega) (by omega)
      refine ⟨c,more ++ [(n % 10).digitChar],?_,nonzero⟩
      rw [Nat.toDigits_of_base_le (by decide) (by omega),front]
      rfl

theorem digits_all (numeral : ∀ c ∈ cs, c.isDigit = true) : digits cs = (cs,[]) := by
  have taken : cs.takeWhile Char.isDigit = cs := List.takeWhile_eq_self_iff.mpr numeral
  have dropped : cs.dropWhile Char.isDigit = [] := List.dropWhile_eq_nil_iff.mpr numeral
  simp [digits,taken,dropped]

theorem scanWhole_toDigits (n : Nat) : scanWhole (Nat.toDigits 10 n) = some (Nat.toDigits 10 n,[]) := by
  by_cases zero : n = 0
  · subst n
    rfl
  · obtain ⟨c,more,front,nonzero⟩ := toDigits_head (Nat.pos_of_ne_zero zero)
    have numeral : ∀ c ∈ Nat.toDigits 10 n, c.isDigit = true :=
      fun c member => Nat.isDigit_of_mem_toDigits (by decide) (by decide) member
    have split := digits_all numeral
    rw [front] at numeral split ⊢
    simp [scanWhole,nonzero,numeral c (by simp),split]

theorem scanMinus_toDigits (n : Nat) : scanMinus (Nat.toDigits 10 n) = ([],Nat.toDigits 10 n) := by
  cases front : Nat.toDigits 10 n with
  | nil => rfl
  | cons c more =>
    have numeral : c.isDigit = true :=
      Nat.isDigit_of_mem_toDigits (b := 10) (n := n) (by decide) (by decide) (by rw [front]; exact List.mem_cons_self)
    have notMinus : c ≠ '-' := by rintro rfl; exact absurd numeral (by decide)
    simp [scanMinus,notMinus]

theorem scanNumber_writeInt (short : (Nat.toDigits 10 i.natAbs).length ≤ maxStrDigits) :
    scanNumber (writeInt i) = some (.int i,[]) := by
  cases i with
  | ofNat n =>
    have bound : (Nat.toDigits 10 n).length ≤ maxStrDigits := short
    simp [writeInt,scanNumber,scanMinus_toDigits,scanWhole_toDigits,scanFraction,scanExponent,bound,
      intValue]
  | negSucc n =>
    have bound : (Nat.toDigits 10 (n + 1)).length ≤ maxStrDigits := short
    simp [writeInt,scanNumber,scanMinus,scanWhole_toDigits,scanFraction,scanExponent,bound,intValue]
    omega

-- A number starts with a digit, or with a minus sign before one.
theorem scanNumber_starts (read : scanNumber cs = some result) :
    (∃ c more, cs = c :: more ∧ c.isDigit = true) ∨
      ∃ c more, cs = '-' :: c :: more ∧ c.isDigit = true := by
  have whole : (scanWhole (scanMinus cs).2).isSome := by
    cases found : scanWhole (scanMinus cs).2 with
    | none => simp [scanNumber,found] at read
    | some _ => rfl
  have first : ∀ tail, (scanWhole tail).isSome → ∃ c more, tail = c :: more ∧ c.isDigit = true := by
    intro tail some
    cases tail with
    | nil => simp [scanWhole] at some
    | cons c more =>
      refine ⟨c,more,rfl,?_⟩
      by_cases zero : c = '0'
      · subst c; rfl
      · by_cases digit : c.isDigit = true
        · exact digit
        · simp [scanWhole,zero,digit] at some
  cases cs with
  | nil => simp [scanMinus,scanWhole] at whole
  | cons c more =>
    by_cases minus : c = '-'
    · subst c
      simp only [scanMinus,if_true] at whole
      obtain ⟨d,tail,rfl,digit⟩ := first _ whole
      exact .inr ⟨d,tail,rfl,digit⟩
    · simp only [scanMinus,minus,if_false] at whole
      exact .inl (first _ whole)

theorem scanKeyword_number (read : scanNumber cs = some result) : scanKeyword (cs ++ rest) = none := by
  have apart : ∀ c : Char, c.isDigit = true → 'n' ≠ c ∧ 't' ≠ c ∧ 'f' ≠ c ∧ 'N' ≠ c ∧ 'I' ≠ c ∧ '-' ≠ c := by
    intro c digit
    refine ⟨?_,?_,?_,?_,?_,?_⟩ <;> rintro rfl <;> exact absurd digit (by decide)
  obtain ⟨c,more,rfl,digit⟩ | ⟨c,more,rfl,digit⟩ := scanNumber_starts read
  · obtain ⟨n,t,f,bigN,bigI,minus⟩ := apart c digit
    simp [scanKeyword,keywords,n,t,f,bigN,bigI,minus]
  · obtain ⟨_,_,_,_,bigI,_⟩ := apart c digit
    simp [scanKeyword,keywords,bigI]

-- Strings
theorem hexValue_digitChar : ∀ d, d < 16 → hexValue (Nat.digitChar d) = some d := by decide

theorem readHex4_hex4 (small : n < 65536) : readHex4 (hex4 n ++ rest) = some (n,rest) := by
  have value : ((n / 4096 % 16 * 16 + n / 256 % 16) * 16 + n / 16 % 16) * 16 + n % 16 = n := by omega
  simp [hex4,readHex4,hexValue_digitChar _ (Nat.mod_lt _ (by decide : 0 < 16)),value]

theorem scalar_toNat (c : Char) : scalar c.toNat = some c := by
  have valid : c.toNat.isValidChar := c.valid
  simp only [scalar,valid,dif_pos]
  rfl

theorem toNat_ranges (c : Char) : c.toNat < 0xd800 ∨ (0xdfff < c.toNat ∧ c.toNat < 0x110000) := c.valid

theorem scanUnicode_basic (c : Char) (small : c.toNat < 0x10000) :
    scanUnicode (hex4 c.toNat ++ rest) = some (c,rest) := by
  have ranges := toNat_ranges c
  have notHigh : isHighSurrogate c.toNat = false := by
    simp only [isHighSurrogate,Bool.and_eq_false_iff,decide_eq_false_iff_not]
    omega
  simp [scanUnicode,readHex4_hex4 small,notHigh,scalar_toNat]

theorem fromSurrogates_split (v : Nat) : fromSurrogates (0xd800 + v / 0x400) (0xdc00 + v % 0x400) = 0x10000 + v := by
  unfold fromSurrogates
  rw [Nat.add_sub_cancel_left,Nat.add_sub_cancel_left,Nat.add_assoc,Nat.div_add_mod']

theorem scanUnicode_pair (c : Char) (large : 0x10000 ≤ c.toNat) :
    scanUnicode (hex4 (0xd800 + (c.toNat - 0x10000) / 0x400) ++
      (escapeUnicode (0xdc00 + (c.toNat - 0x10000) % 0x400) ++ rest)) = some (c,rest) := by
  have ranges := toNat_ranges c
  obtain ⟨v,value⟩ : ∃ v, c.toNat = 0x10000 + v := ⟨c.toNat - 0x10000,by omega⟩
  have offset : c.toNat - 0x10000 = v := by omega
  have high : isHighSurrogate (0xd800 + v / 0x400) = true := by
    simp only [isHighSurrogate,Bool.and_eq_true,decide_eq_true_eq]
    omega
  have low : isLowSurrogate (0xdc00 + v % 0x400) = true := by
    simp only [isLowSurrogate,Bool.and_eq_true,decide_eq_true_eq]
    omega
  have joined : scalar (fromSurrogates (0xd800 + v / 0x400) (0xdc00 + v % 0x400)) = some c := by
    rw [fromSurrogates_split,← value,scalar_toNat]
  rw [offset]
  unfold scanUnicode
  rw [readHex4_hex4 (by omega)]
  simp only [Option.bind_some,high,if_true,escapeUnicode,List.cons_append]
  rw [readHex4_hex4 (by omega)]
  simp only [Option.bind_some,low,if_true,joined,Option.map_some]

theorem escapeShort_unescape (short : escapeShort c = some e) : unescape e = some c := by
  unfold escapeShort at short
  split_ifs at short <;> cases Option.some.inj short <;> subst_vars <;> rfl

theorem unescape_u : unescape 'u' = none := rfl

theorem escapeShort_none (plain : escapeShort c = none) : c ≠ '"' ∧ c ≠ '\\' := by
  constructor <;> rintro rfl <;> simp [escapeShort] at plain

theorem scanString_escapeChar (ascii : Bool) (c : Char) :
    scanString (fuel + 1) (escapeChar ascii c ++ rest) =
      (scanString fuel rest).map fun (text,left) => (c :: text,left) := by
  unfold escapeChar
  cases short : escapeShort c with
  | some e => simp [scanString,scanEscape,escapeShort_unescape short]
  | none =>
    obtain ⟨notQuote,notSlash⟩ := escapeShort_none short
    simp only
    split
    · have read := @scanUnicode_basic rest c (by omega)
      simp [escapeUnicode,scanString,scanEscape,unescape_u,read]
    · rename_i printed
      split
      · simp [scanString,notQuote,notSlash,printed]
      · split
        · have read := @scanUnicode_basic rest c (by assumption)
          simp [escapeUnicode,scanString,scanEscape,unescape_u,read]
        · have read := @scanUnicode_pair rest c (by omega)
          have opened : escapeUnicode (0xd800 + (c.toNat - 0x10000) / 0x400) =
              '\\' :: 'u' :: hex4 (0xd800 + (c.toNat - 0x10000) / 0x400) := rfl
          rw [List.append_assoc,opened]
          simp [scanString,scanEscape,unescape_u,read]

theorem scanString_written (ascii : Bool) (text : List Char) (enough : text.length < fuel) :
    scanString fuel (text.flatMap (escapeChar ascii) ++ '"' :: rest) = some (text,rest) := by
  induction text generalizing fuel with
  | nil =>
    obtain ⟨left,rfl⟩ := Nat.exists_eq_succ_of_ne_zero (Nat.ne_of_gt enough)
    simp [scanString]
  | cons c text ih =>
    obtain ⟨left,rfl⟩ := Nat.exists_eq_succ_of_ne_zero (Nat.ne_of_gt (Nat.lt_of_le_of_lt (Nat.zero_le _) enough))
    have tail := @ih left (by simpa using enough)
    simp only [List.flatMap_cons,List.append_assoc]
    rw [scanString_escapeChar,tail]
    rfl

theorem escapeChar_length (ascii : Bool) (c : Char) : 0 < (escapeChar ascii c).length := by
  unfold escapeChar
  split
  · simp
  · split_ifs <;> simp [escapeUnicode]

theorem flatMap_escape_length (ascii : Bool) (text : List Char) :
    text.length ≤ (text.flatMap (escapeChar ascii)).length := by
  induction text with
  | nil => simp
  | cons c text ih =>
    have one := escapeChar_length ascii c
    simp only [List.flatMap_cons,List.length_append,List.length_cons]
    omega

theorem scanText_written (ascii : Bool) (text : String) :
    scanText (text.toList.flatMap (escapeChar ascii) ++ '"' :: rest) = some (text,rest) := by
  have enough := flatMap_escape_length ascii text.toList
  unfold scanText
  rw [scanString_written ascii text.toList (by simp only [List.length_append,List.length_cons]; omega)]
  simp

end JsonText
