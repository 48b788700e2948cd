import AidaAgent.Library.JsonRoundTrip

namespace JsonText
open PythonText

-- Every scanner leaves a proper suffix, measured by its length.
theorem skipWs_length (cs : List Char) : (skipWs cs).length ≤ cs.length :=
  (List.dropWhile_sublist _).length_le

theorem digits_length (cs : List Char) : (digits cs).1.length + (digits cs).2.length = cs.length := by
  rw [← List.length_append]
  exact congrArg List.length List.takeWhile_append_dropWhile

theorem scanWhole_length (read : scanWhole cs = some (whole,tail)) : tail.length < cs.length := by
  cases cs with
  | nil => simp [scanWhole] at read
  | cons c rest =>
    simp only [scanWhole] at read
    split_ifs at read with zero digit
    · cases read; simp
    · have lengths := digits_length (c :: rest)
      have taken : 0 < (digits (c :: rest)).1.length := by simp [digits,digit]
      rw [Option.some.inj read] at lengths taken
      simp only at lengths taken
      omega

theorem scanFraction_length (cs : List Char) : (scanFraction cs).2.length ≤ cs.length := by
  cases cs with
  | nil => simp [scanFraction]
  | cons c rest =>
    have lengths := digits_length rest
    simp only [scanFraction]
    split_ifs
    · simp only [List.length_cons]; omega
    · exact Nat.le_refl _

theorem scanSign_length (cs : List Char) : (scanSign cs).2.length ≤ cs.length := by
  cases cs with
  | nil => simp [scanSign]
  | cons c rest =>
    simp only [scanSign]
    split_ifs <;> simp

theorem scanExponent_length (cs : List Char) : (scanExponent cs).2.length ≤ cs.length := by
  cases cs with
  | nil => simp [scanExponent]
  | cons c rest =>
    have lengths := digits_length (scanSign rest).2
    have sign := scanSign_length rest
    simp only [scanExponent]
    split_ifs
    · simp only [List.length_cons]; omega
    · exact Nat.le_refl _

theorem scanMinus_length (cs : List Char) : (scanMinus cs).2.length ≤ cs.length := by
  cases cs with
  | nil => simp [scanMinus]
  | cons c rest =>
    simp only [scanMinus]
    split_ifs <;> simp

-- A digit string that int() accepts gives a number with no more digits.
theorem ofDigitChars_lt (numeral : ∀ c ∈ cs, c.isDigit = true) : Nat.ofDigitChars 10 cs 0 < 10 ^ cs.length := by
  induction cs with
  | nil => simp
  | cons c rest ih =>
    have tail := ih fun d member => numeral d (List.mem_cons_of_mem _ member)
    have digit : c.toNat - '0'.toNat ≤ 9 := by
      have numeralC := numeral c List.mem_cons_self
      simp only [Char.isDigit,ge_iff_le,Bool.and_eq_true,decide_eq_true_eq] at numeralC
      have upper : c.toNat ≤ 57 := numeralC.2
      have zero : ('0' : Char).toNat = 48 := rfl
      omega
    rw [Nat.ofDigitChars_cons,Nat.ofDigitChars_eq_ofDigitChars_zero,List.length_cons,Nat.pow_succ]
    have scaled := Nat.mul_le_mul_left (10 ^ rest.length) digit
    simp only [Nat.mul_zero,Nat.zero_add]
    omega

theorem scanWhole_numeral (read : scanWhole cs = some (whole,tail)) :
    whole ≠ [] ∧ ∀ c ∈ whole, c.isDigit = true := by
  cases cs with
  | nil => simp [scanWhole] at read
  | cons c rest =>
    simp only [scanWhole] at read
    split_ifs at read with zero digit
    · cases read
      exact ⟨by simp,by simp⟩
    · have split := Option.some.inj read
      have shape : whole = (c :: rest).takeWhile Char.isDigit := by
        have first := congrArg Prod.fst split
        simpa [digits] using first.symm
      subst whole
      exact ⟨by simp [digit],fun d member => List.all_eq_true.mp List.all_takeWhile d member⟩

theorem intValue_digits (read : scanWhole cs = some (whole,tail)) (short : whole.length ≤ maxStrDigits) :
    (Nat.toDigits 10 (intValue minus whole).natAbs).length ≤ maxStrDigits := by
  obtain ⟨nonempty,numeral⟩ := scanWhole_numeral read
  have bound := ofDigitChars_lt numeral
  have same : (intValue minus whole).natAbs = Nat.ofDigitChars 10 whole 0 := by
    unfold intValue
    split_ifs <;> simp
  rw [same]
  exact Nat.le_trans ((Nat.length_toDigits_le_iff (by decide) (List.length_pos_iff.mpr nonempty)).mpr bound) short

theorem scanNumber_fits (read : scanNumber cs = some (v,left)) : Fits depth v ∧ left.length < cs.length := by
  unfold scanNumber at read
  dsimp only at read
  obtain ⟨⟨whole,tail⟩,found,read⟩ := Option.bind_eq_some_iff.mp read
  have minusLength := scanMinus_length cs
  have wholeLength := scanWhole_length found
  have fractionLength := scanFraction_length tail
  have exponentLength := scanExponent_length (scanFraction tail).2
  dsimp only at read
  split_ifs at read with integral short
  · cases read
    exact ⟨.int (intValue_digits found short),by omega⟩
  · cases read
    exact ⟨.float,by omega⟩

theorem readHex4_length (read : readHex4 cs = some (unit,left)) : left.length < cs.length := by
  unfold readHex4 at read
  split at read
  · split at read
    · cases read; simp only [List.length_cons]; omega
    · cases read
  · cases read

theorem scanUnicode_length (read : scanUnicode cs = some (c,left)) : left.length < cs.length := by
  obtain ⟨⟨unit,tail⟩,first,read⟩ := Option.bind_eq_some_iff.mp read
  have firstLength := readHex4_length first
  dsimp only at read
  split_ifs at read with high
  · split at read
    · obtain ⟨⟨low,rest⟩,second,read⟩ := Option.bind_eq_some_iff.mp read
      have secondLength := readHex4_length second
      dsimp only at read
      split_ifs at read
      obtain ⟨_,_,same⟩ := Option.map_eq_some_iff.mp read
      cases same
      simp only [List.length_cons] at firstLength
      omega
    · cases read
  · obtain ⟨_,_,same⟩ := Option.map_eq_some_iff.mp read
    cases same
    exact firstLength

theorem scanEscape_length (read : scanEscape cs = some (c,left)) : left.length < cs.length := by
  unfold scanEscape at read
  split at read
  · cases read
  · split at read
    · cases read; simp
    · split_ifs at read
      have inner := scanUnicode_length read
      simp only [List.length_cons]
      omega

theorem scanString_length (read : scanString fuel cs = some (text,left)) : left.length < cs.length := by
  induction fuel generalizing cs text with
  | zero => simp [scanString] at read
  | succ fuel ih =>
    cases cs with
    | nil => simp [scanString] at read
    | cons c rest =>
      unfold scanString at read
      split_ifs at read
      · cases read; simp
      · obtain ⟨⟨plain,tail⟩,escape,read⟩ := Option.bind_eq_some_iff.mp read
        obtain ⟨⟨more,last⟩,inner,same⟩ := Option.map_eq_some_iff.mp read
        cases same
        have one := scanEscape_length escape
        have two := ih inner
        simp only [List.length_cons]
        omega
      · obtain ⟨⟨more,last⟩,inner,same⟩ := Option.map_eq_some_iff.mp read
        cases same
        have two := ih inner
        simp only [List.length_cons]
        omega

theorem scanText_length (read : scanText cs = some (text,left)) : left.length < cs.length := by
  obtain ⟨⟨chars,last⟩,inner,same⟩ := Option.map_eq_some_iff.mp read
  cases same
  exact scanString_length inner

theorem scanKeyword_fits (read : scanKeyword cs = some (v,left)) : Fits depth v ∧ left.length < cs.length := by
  obtain ⟨⟨word,value⟩,member,found⟩ := List.exists_of_findSome?_eq_some read
  dsimp only at found
  split_ifs at found with front
  cases found
  have shorter := (List.isPrefixOf_iff_prefix.mp front).length_le
  have facts : Fits depth v ∧ 0 < word.length := by
    simp only [keywords,List.mem_cons,List.not_mem_nil,or_false,Prod.mk.injEq] at member
    rcases member with ⟨rfl,rfl⟩ | ⟨rfl,rfl⟩ | ⟨rfl,rfl⟩ | ⟨rfl,rfl⟩ | ⟨rfl,rfl⟩ | ⟨rfl,rfl⟩
    · exact ⟨.null,by decide⟩
    · exact ⟨.bool,by decide⟩
    · exact ⟨.bool,by decide⟩
    all_goals exact ⟨.constant,by decide⟩
  exact ⟨facts.1,by rw [List.length_drop]; omega⟩

-- One fact for the three mutual parsers: what they return is within the limits
-- and they consume at least one character.
structure Sound (fuel : Nat) : Prop where
  value : ∀ depth cs v left, parseValue fuel depth cs = some (v,left) →
    Fits depth v ∧ left.length < cs.length
  items : ∀ depth cs vs left, parseItems fuel depth cs = some (vs,left) →
    (∀ v ∈ vs, Fits depth v) ∧ left.length < cs.length
  fields : ∀ depth cs fs left, parseFields fuel depth cs = some (fs,left) →
    (∀ f ∈ fs, Fits depth f.2) ∧ left.length < cs.length

theorem parseValue_sound (below : Sound fuel) (read : parseValue (fuel + 1) depth cs = some (v,left)) :
    Fits depth v ∧ left.length < cs.length := by
  cases cs with
  | nil => simp [parseValue] at read
  | cons c rest =>
    have ws := skipWs_length rest
    unfold parseValue at read
    split_ifs at read
    · obtain ⟨⟨text,last⟩,inner,same⟩ := Option.map_eq_some_iff.mp read
      cases same
      exact ⟨.str,Nat.lt_succ_of_lt (scanText_length inner)⟩
    · cases depth with
      | zero => cases read
      | succ depth =>
        dsimp only at read
        split at read
        · rename_i tail body
          cases read
          rw [body] at ws
          simp only [List.length_cons] at ws ⊢
          exact ⟨.arr (by simp),by omega⟩
        · obtain ⟨⟨vs,last⟩,inner,same⟩ := Option.map_eq_some_iff.mp read
          cases same
          obtain ⟨each,shorter⟩ := below.items _ _ _ _ inner
          exact ⟨.arr each,by simp only [List.length_cons]; omega⟩
    · cases depth with
      | zero => cases read
      | succ depth =>
        dsimp only at read
        split at read
        · rename_i tail body
          cases read
          rw [body] at ws
          simp only [List.length_cons] at ws ⊢
          exact ⟨.obj (by simp),by omega⟩
        · obtain ⟨⟨fs,last⟩,inner,same⟩ := Option.map_eq_some_iff.mp read
          cases same
          obtain ⟨each,shorter⟩ := below.fields _ _ _ _ inner
          exact ⟨.obj each,by simp only [List.length_cons]; omega⟩
    · rcases Option.or_eq_some_iff.mp read with word | ⟨_,number⟩
      · exact scanKeyword_fits word
      · exact scanNumber_fits number

theorem parseItems_sound (below : Sound fuel) (read : parseItems (fuel + 1) depth cs = some (vs,left)) :
    (∀ v ∈ vs, Fits depth v) ∧ left.length < cs.length := by
  unfold parseItems at read
  obtain ⟨⟨item,tail⟩,first,read⟩ := Option.bind_eq_some_iff.mp read
  obtain ⟨fits,shorter⟩ := below.value _ _ _ _ first
  have ws := skipWs_length tail
  dsimp only at read
  split at read
  · rename_i more body
    obtain ⟨⟨rest,last⟩,inner,same⟩ := Option.map_eq_some_iff.mp read
    cases same
    obtain ⟨each,less⟩ := below.items _ _ _ _ inner
    have gap := skipWs_length more
    rw [body,List.length_cons] at ws
    exact ⟨by simpa using ⟨fits,each⟩,by simp only; omega⟩
  · rename_i body
    cases read
    rw [body,List.length_cons] at ws
    exact ⟨by simpa using fits,by omega⟩
  · cases read

theorem parseFields_sound (below : Sound fuel) (read : parseFields (fuel + 1) depth cs = some (fs,left)) :
    (∀ f ∈ fs, Fits depth f.2) ∧ left.length < cs.length := by
  unfold parseFields at read
  split at read
  · rename_i rest
    obtain ⟨⟨key,tail⟩,name,read⟩ := Option.bind_eq_some_iff.mp read
    have nameLength := scanText_length name
    have ws := skipWs_length tail
    dsimp only at read
    split at read
    · rename_i more body
      obtain ⟨⟨value,after⟩,first,read⟩ := Option.bind_eq_some_iff.mp read
      obtain ⟨fits,shorter⟩ := below.value _ _ _ _ first
      have gap := skipWs_length more
      have wsAfter := skipWs_length after
      rw [body,List.length_cons] at ws
      dsimp only at read
      split at read
      · rename_i next comma
        obtain ⟨⟨others,last⟩,inner,same⟩ := Option.map_eq_some_iff.mp read
        cases same
        obtain ⟨each,less⟩ := below.fields _ _ _ _ inner
        have gapNext := skipWs_length next
        rw [comma,List.length_cons] at wsAfter
        refine ⟨?_,by simp only [List.length_cons]; omega⟩
        intro f member
        rcases List.mem_cons.mp member with rfl | later
        · exact fits
        · exact each f later
      · rename_i close
        cases read
        rw [close,List.length_cons] at wsAfter
        refine ⟨?_,by simp only [List.length_cons]; omega⟩
        intro f member
        rw [List.mem_singleton.mp member]
        exact fits
      · cases read
    · cases read
  · cases read

theorem sound (fuel : Nat) : Sound fuel := by
  induction fuel with
  | zero =>
    refine ⟨?_,?_,?_⟩
    all_goals
      intro depth cs out left read
      simp [parseValue,parseItems,parseFields] at read
  | succ fuel ih =>
    exact ⟨fun _ _ _ _ => parseValue_sound ih,fun _ _ _ _ => parseItems_sound ih,
      fun _ _ _ _ => parseFields_sound ih⟩

theorem loadsChars_fits (read : loadsChars py cs = some v) : Fits py.recursionLimit v := by
  unfold loadsChars at read
  obtain ⟨⟨value,left⟩,parsed,read⟩ := Option.bind_eq_some_iff.mp read
  dsimp only at read
  split_ifs at read
  cases read
  exact ((sound _).value _ _ _ _ parsed).1

theorem loads_fits (read : loads py text = some v) : Fits py.recursionLimit v := by
  unfold loads at read
  split at read
  · cases read
  · exact loadsChars_fits read

-- Fuel beyond twice the length of the text changes nothing.
structure Enough (fuel : Nat) : Prop where
  value : ∀ depth cs, 2 * cs.length ≤ fuel → parseValue (fuel + 1) depth cs = parseValue fuel depth cs
  items : ∀ depth cs, 2 * cs.length < fuel → parseItems (fuel + 1) depth cs = parseItems fuel depth cs
  fields : ∀ depth cs, 2 * cs.length < fuel → parseFields (fuel + 1) depth cs = parseFields fuel depth cs

theorem parseValue_enough (below : Enough fuel) (bound : 2 * cs.length ≤ fuel + 1) :
    parseValue (fuel + 2) depth cs = parseValue (fuel + 1) depth cs := by
  cases cs with
  | nil => simp [parseValue]
  | cons c rest =>
    have ws := skipWs_length rest
    rw [List.length_cons] at bound
    cases depth with
    | zero => simp only [parseValue]
    | succ depth =>
      have items := below.items depth (skipWs rest) (by omega)
      have fields := below.fields depth (skipWs rest) (by omega)
      simp only [parseValue]
      generalize skipWs rest = body at items fields
      split_ifs
      · rfl
      · split
        · rfl
        · rw [items]
      · split
        · rfl
        · rw [fields]
      · rfl

theorem parseItems_enough (below : Enough fuel) (bound : 2 * cs.length < fuel + 1) :
    parseItems (fuel + 2) depth cs = parseItems (fuel + 1) depth cs := by
  rw [parseItems.eq_2,parseItems.eq_2,below.value depth cs (by omega)]
  apply Option.bind_congr
  rintro ⟨item,tail⟩ first
  have shorter := ((sound _).value _ _ _ _ first).2
  have ws := skipWs_length tail
  dsimp only
  split
  · rename_i more body
    have gap := skipWs_length more
    rw [body,List.length_cons] at ws
    rw [below.items depth (skipWs more) (by omega)]
  · rfl
  · rfl

theorem parseFields_enough (below : Enough fuel) (bound : 2 * cs.length < fuel + 1) :
    parseFields (fuel + 2) depth cs = parseFields (fuel + 1) depth cs := by
  unfold parseFields
  split
  · rename_i rest
    rw [List.length_cons] at bound
    apply Option.bind_congr
    rintro ⟨key,tail⟩ name
    have nameLength := scanText_length name
    have ws := skipWs_length tail
    dsimp only
    split
    · rename_i more body
      have gap := skipWs_length more
      rw [body,List.length_cons] at ws
      rw [below.value depth (skipWs more) (by omega)]
      apply Option.bind_congr
      rintro ⟨value,after⟩ first
      have shorter := ((sound _).value _ _ _ _ first).2
      have wsAfter := skipWs_length after
      dsimp only
      split
      · rename_i next comma
        have gapNext := skipWs_length next
        rw [comma,List.length_cons] at wsAfter
        rw [below.fields depth (skipWs next) (by omega)]
      · rfl
      · rfl
    · rfl
  · rfl

theorem enough (fuel : Nat) : Enough fuel := by
  induction fuel with
  | zero =>
    refine ⟨?_,by simp,by simp⟩
    intro depth cs bound
    have empty : cs = [] := List.eq_nil_of_length_eq_zero (by omega)
    subst cs
    simp [parseValue]
  | succ fuel ih =>
    exact ⟨fun _ _ => parseValue_enough ih,fun _ _ => parseItems_enough ih,
      fun _ _ => parseFields_enough ih⟩

theorem parseValue_fuel (depth : Nat) (cs : List Char) (extra : Nat) :
    parseValue (2 * cs.length + extra) depth cs = parseValue (2 * cs.length) depth cs := by
  induction extra with
  | zero => rfl
  | succ extra ih => rw [← Nat.add_assoc,(enough _).value depth cs (by omega),ih]

end JsonText
