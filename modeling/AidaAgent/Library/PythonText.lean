import Mathlib

namespace PythonText

-- str.isspace, which is what str.strip() removes.
def isSpace (c : Char) : Bool :=
  (9 ≤ c.toNat && c.toNat ≤ 13) || (28 ≤ c.toNat && c.toNat ≤ 32) || c.toNat = 0x85 ||
    c.toNat = 0xa0 || c.toNat = 0x1680 || (0x2000 ≤ c.toNat && c.toNat ≤ 0x200a) ||
    c.toNat = 0x2028 || c.toNat = 0x2029 || c.toNat = 0x202f || c.toNat = 0x205f || c.toNat = 0x3000

-- `not text.strip()`
def isBlank (text : String) : Bool := text.toList.all isSpace

-- str.strip()
def stripChars (text : List Char) : List Char := ((text.dropWhile isSpace).reverse.dropWhile isSpace).reverse

theorem stripChars_spaceless (plain : ∀ c ∈ text, isSpace c = false) : stripChars text = text := by
  have kept (cs : List Char) (known : ∀ c ∈ cs, isSpace c = false) : cs.dropWhile isSpace = cs := by
    cases cs with
    | nil => rfl
    | cons c rest => exact List.dropWhile_cons_of_neg (by simp [known c List.mem_cons_self])
  rw [stripChars,kept _ plain,kept _ (fun c member => plain c (List.mem_reverse.mp member)),List.reverse_reverse]

-- re.fullmatch of one character class repeated between `least` and `most` times.
def fullMatch (cls : Char → Bool) (least most : Nat) (text : String) : Bool :=
  decide (least ≤ text.length) && decide (text.length ≤ most) && text.toList.all cls

theorem fullMatch_exact : fullMatch cls least most text = true ↔
    least ≤ text.length ∧ text.length ≤ most ∧ ∀ c ∈ text.toList, cls c = true := by
  simp [fullMatch,and_assoc]

-- int() refuses longer digit strings with a ValueError.
def maxStrDigits : Nat := 4300

-- str() undoes int() on digits without a leading zero.
theorem toDigits_ofDigitChars (numeral : ∀ c ∈ cs, c.isDigit = true)
    (leading : ∃ c rest, cs = c :: rest ∧ c ≠ '0') : Nat.toDigits 10 (Nat.ofDigitChars 10 cs 0) = cs ∧
      0 < Nat.ofDigitChars 10 cs 0 := by
  have digit : ∀ c : Char, c.isDigit = true → c.toNat - '0'.toNat < 10 ∧
      Nat.digitChar (c.toNat - '0'.toNat) = c ∧ (c ≠ '0' → 0 < c.toNat - '0'.toNat) := by
    intro c numeralC
    simp only [Char.isDigit,ge_iff_le,Bool.and_eq_true,decide_eq_true_eq] at numeralC
    have low : 48 ≤ c.toNat := numeralC.1
    have high : c.toNat ≤ 57 := numeralC.2
    have zero : '0'.toNat = 48 := rfl
    obtain ⟨d,small,same⟩ : ∃ d, d < 10 ∧ c.toNat = 48 + d := ⟨c.toNat - 48,by omega,by omega⟩
    have printed : ∀ e, e < 10 → (Nat.digitChar e).toNat = 48 + e := by decide
    have char : Nat.digitChar d = c := Char.toNat_inj.mp ((printed d small).trans same.symm)
    refine ⟨by omega,?_,?_⟩
    · rw [zero,same,Nat.add_sub_cancel_left]
      exact char
    · intro nonzero
      by_contra none
      exact nonzero (Char.toNat_inj.mp (by omega))
  induction cs using List.reverseRecOn with
  | nil => obtain ⟨c,rest,empty,_⟩ := leading; cases empty
  | append_singleton front last ih =>
    obtain ⟨small,printed,positive⟩ := digit last (numeral last (by simp))
    have value : Nat.ofDigitChars 10 (front ++ [last]) 0 =
        10 * Nat.ofDigitChars 10 front 0 + (last.toNat - '0'.toNat) := by
      rw [Nat.ofDigitChars_append,Nat.ofDigitChars_cons,Nat.ofDigitChars_nil]
    have single := Nat.toDigits_of_lt_base small
    rw [printed] at single
    obtain ⟨c,rest,whole,nonzero⟩ := leading
    cases front with
    | nil =>
      obtain ⟨rfl,rfl⟩ := List.cons.inj whole
      rw [value,Nat.ofDigitChars_nil,Nat.mul_zero,Nat.zero_add]
      exact ⟨single,positive nonzero⟩
    | cons first more =>
      obtain ⟨rfl,_⟩ := List.cons.inj whole
      obtain ⟨text,large⟩ := ih (fun c member => numeral c (List.mem_append_left _ member)) ⟨_,_,rfl,nonzero⟩
      rw [value,← Nat.toDigits_append_toDigits (by decide) large small,text,single]
      exact ⟨rfl,by omega⟩

-- bytes.decode for the encodings json.loads tells apart. A text here is a
-- sequence of Unicode scalar values, so an unpaired surrogate does not decode.
inductive Encoding where
  | utf8 | utf8Sig | utf16Big | utf16Little | utf32Big | utf32Little
  deriving DecidableEq, Repr

def detectEncoding (bytes : List UInt8) : Encoding × List UInt8 :=
  if bytes.take 4 = [0,0,0xfe,0xff] then (.utf32Big,bytes.drop 4)
  else if bytes.take 4 = [0xff,0xfe,0,0] then (.utf32Little,bytes.drop 4)
  else if bytes.take 2 = [0xfe,0xff] then (.utf16Big,bytes.drop 2)
  else if bytes.take 2 = [0xff,0xfe] then (.utf16Little,bytes.drop 2)
  else if bytes.take 3 = [0xef,0xbb,0xbf] then (.utf8Sig,bytes.drop 3)
  else match bytes with
  | a :: b :: c :: d :: _ =>
    if a = 0 then (if b ≠ 0 then .utf16Big else .utf32Big,bytes)
    else if b = 0 then (if c ≠ 0 ∨ d ≠ 0 then .utf16Little else .utf32Little,bytes)
    else (.utf8,bytes)
  | [a,b] => if a = 0 then (.utf16Big,bytes) else if b = 0 then (.utf16Little,bytes) else (.utf8,bytes)
  | _ => (.utf8,bytes)

def isHighSurrogate (n : Nat) : Bool := 0xd800 ≤ n && n < 0xdc00
def isLowSurrogate (n : Nat) : Bool := 0xdc00 ≤ n && n < 0xe000
def fromSurrogates (high low : Nat) : Nat := 0x10000 + (high - 0xd800) * 0x400 + (low - 0xdc00)

def scalar (n : Nat) : Option Char := if h : n.isValidChar then some (Char.ofNatAux n h) else none

def decodeUtf16 (big : Bool) : List UInt8 → Option (List Char)
  | [] => some []
  | a :: b :: rest =>
    let unit := if big then a.toNat * 256 + b.toNat else b.toNat * 256 + a.toNat
    if isHighSurrogate unit then
      match rest with
      | c :: d :: rest =>
        let next := if big then c.toNat * 256 + d.toNat else d.toNat * 256 + c.toNat
        if isLowSurrogate next then
          (scalar (fromSurrogates unit next)).bind fun c => (decodeUtf16 big rest).map (c :: ·)
        else none
      | _ => none
    else (scalar unit).bind fun c => (decodeUtf16 big rest).map (c :: ·)
  | _ => none

def decodeUtf32 (big : Bool) : List UInt8 → Option (List Char)
  | [] => some []
  | a :: b :: c :: d :: rest =>
    let number := fun (w x y z : UInt8) => ((w.toNat * 256 + x.toNat) * 256 + y.toNat) * 256 + z.toNat
    (scalar (if big then number a b c d else number d c b a)).bind fun c =>
      (decodeUtf32 big rest).map (c :: ·)
  | _ => none

def decodeUtf8 (bytes : List UInt8) : Option (List Char) :=
  bytes.toByteArray.utf8Decode?.map Array.toList

def decodeBytes (bytes : ByteArray) : Option String :=
  let (encoding,rest) := detectEncoding bytes.data.toList
  (match encoding with
    | .utf8 | .utf8Sig => decodeUtf8 rest
    | .utf16Big => decodeUtf16 true rest
    | .utf16Little => decodeUtf16 false rest
    | .utf32Big => decodeUtf32 true rest
    | .utf32Little => decodeUtf32 false rest).map String.ofList

theorem utf8_bytes (chars : List Char) :
    (String.ofList chars).toUTF8.data.toList = chars.flatMap String.utf8EncodeChar := by
  simp [List.utf8Encode]

theorem decodeUtf8_encoded (chars : List Char) :
    decodeUtf8 (chars.flatMap String.utf8EncodeChar) = some chars := by
  have encoded : (chars.flatMap String.utf8EncodeChar).toByteArray = chars.utf8Encode := rfl
  simp [decodeUtf8,encoded]

theorem encodeChar_ascii (small : c.toNat < 128) : String.utf8EncodeChar c = [UInt8.ofNat c.toNat] := by
  have bound : c.toNat ≤ 127 := Nat.le_of_lt_succ small
  simp [String.utf8EncodeChar,bound]

-- No character but NUL has a zero first byte.
theorem encodeChar_head (printed : 0 < c.toNat) :
    ∃ head tail, String.utf8EncodeChar c = head :: tail ∧ head ≠ 0 := by
  have positive : 0 < c.val.toNat := printed
  have nonzero : ∀ n, 0 < n → n < 256 → UInt8.ofNat n ≠ 0 := by
    intro n low high same
    have value := congrArg UInt8.toNat same
    rw [UInt8.toNat_ofNat_of_lt' high] at value
    simp at value
    omega
  unfold String.utf8EncodeChar
  dsimp only
  split
  · exact ⟨_,_,rfl,nonzero _ positive (by omega)⟩
  · split
    · exact ⟨_,_,rfl,nonzero _ (by omega) (by omega)⟩
    · split
      · exact ⟨_,_,rfl,nonzero _ (by omega) (by omega)⟩
      · exact ⟨_,_,rfl,nonzero _ (by omega) (by omega)⟩

theorem ascii_byte {a : UInt8} (ascii : a < 0x80) : a ≠ 0xff ∧ a ≠ 0xfe ∧ a ≠ 0xef := by
  have bound : a.toNat < 128 := ascii
  refine ⟨?_,?_,?_⟩ <;> rintro rfl <;> simp at bound

theorem detectEncoding_utf8 (ascii : a < 0x80) (first : a ≠ 0) (second : ∀ b more, rest = b :: more → b ≠ 0) :
    detectEncoding (a :: rest) = (.utf8,a :: rest) := by
  obtain ⟨noFf,noFe,noEf⟩ := ascii_byte ascii
  have noMark : ∀ n : Nat, ∀ mark : List UInt8, (∀ b ∈ mark.head?, a ≠ b) → mark ≠ [] →
      (a :: rest).take (n + 1) ≠ mark := by
    intro n mark differs nonempty same
    cases mark with
    | nil => exact nonempty rfl
    | cons b more => exact differs b rfl (List.cons.inj same).1
  unfold detectEncoding
  rw [if_neg (noMark 3 _ (by simpa using first) (by simp)),
    if_neg (noMark 3 _ (by simpa using noFf) (by simp)),
    if_neg (noMark 1 _ (by simpa using noFe) (by simp)),
    if_neg (noMark 1 _ (by simpa using noFf) (by simp)),
    if_neg (noMark 2 _ (by simpa using noEf) (by simp))]
  match rest,second with
  | [],_ => rfl
  | [b],second => simp only [if_neg first,if_neg (second b [] rfl)]
  | [_,_],_ => rfl
  | b :: c :: d :: more,second => simp only [if_neg first,if_neg (second b _ rfl)]

-- Text that starts with an ASCII character and has no NUL in second place is
-- read back from its UTF-8 bytes.
theorem decodeBytes_utf8 (ascii : c.toNat < 128) (first : 0 < c.toNat)
    (second : ∀ d more, rest = d :: more → 0 < d.toNat) :
    decodeBytes (String.ofList (c :: rest)).toUTF8 = some (String.ofList (c :: rest)) := by
  have bytes : (c :: rest).flatMap String.utf8EncodeChar =
      UInt8.ofNat c.toNat :: rest.flatMap String.utf8EncodeChar := by
    simp [encodeChar_ascii ascii]
  have small : (UInt8.ofNat c.toNat).toNat = c.toNat := UInt8.toNat_ofNat_of_lt' (Nat.lt_trans ascii (by decide))
  have detected : detectEncoding ((c :: rest).flatMap String.utf8EncodeChar) =
      (.utf8,(c :: rest).flatMap String.utf8EncodeChar) := by
    rw [bytes]
    apply detectEncoding_utf8
    · rw [UInt8.lt_iff_toNat_lt,small]; simpa using ascii
    · intro zero
      rw [zero] at small
      simp at small
      omega
    · intro b more split
      cases rest with
      | nil => simp at split
      | cons d tail =>
        obtain ⟨head,left,encoded,nonzero⟩ := encodeChar_head (second d tail rfl)
        rw [List.flatMap_cons,encoded] at split
        cases split
        exact nonzero
  unfold decodeBytes
  rw [utf8_bytes,detected]
  simp only [decodeUtf8_encoded,Option.map_some]

end PythonText
