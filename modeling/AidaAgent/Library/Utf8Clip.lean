import AidaAgent.Library.JsonShape

namespace PythonText
open JsonText

-- bytes.decode("utf-8",errors="ignore"). What does not start a character is left
-- out byte by byte: the rest of a broken sequence cannot start one either.
def decodeIgnoring : Nat → List UInt8 → List Char
  | _,[] => []
  | skip+1,_ :: rest => decodeIgnoring skip rest
  | 0,b :: rest =>
    match (b :: rest).toByteArray.utf8DecodeChar? 0 with
    | some c => c :: decodeIgnoring (c.utf8Size - 1) rest
    | none => decodeIgnoring 0 rest

-- text.encode()[:limit].decode("utf-8",errors="ignore")
def clipBytes (limit : Nat) (text : String) : String :=
  String.ofList (decodeIgnoring 0 (text.toUTF8.data.toList.take limit))

-- The characters of a text that fit in a number of bytes.
def fit : Nat → List Char → List Char
  | _,[] => []
  | limit,c :: rest => if c.utf8Size ≤ limit then c :: fit (limit - c.utf8Size) rest else []

theorem decodeIgnoring_skip (front back : List UInt8) :
    decodeIgnoring front.length (front ++ back) = decodeIgnoring 0 back := by
  induction front with
  | nil => rfl
  | cons b rest ih => exact ih

theorem decodeIgnoring_char (c : Char) (back : List UInt8) :
    decodeIgnoring 0 (String.utf8EncodeChar c ++ back) = c :: decodeIgnoring 0 back := by
  have size := String.length_utf8EncodeChar c
  have read : (String.utf8EncodeChar c ++ back).toByteArray.utf8DecodeChar? 0 = some c := by
    rw [List.toByteArray_append]
    exact ByteArray.utf8DecodeChar?_utf8EncodeChar_append
  cases encoded : String.utf8EncodeChar c with
  | nil =>
    rw [encoded,List.length_nil] at size
    exact absurd size.symm (Nat.ne_of_gt c.utf8Size_pos)
  | cons b rest =>
    rw [encoded] at size read
    rw [List.cons_append] at read ⊢
    rw [decodeIgnoring,read]
    dsimp only
    rw [← size,List.length_cons,Nat.add_sub_cancel,decodeIgnoring_skip]

theorem decodeIgnoring_broken (broken : ∀ front b back, bytes = front ++ b :: back →
    (b :: back).toByteArray.utf8DecodeChar? 0 = none) : decodeIgnoring 0 bytes = [] := by
  induction bytes with
  | nil => rfl
  | cons b rest ih =>
    rw [decodeIgnoring,broken [] b rest rfl]
    dsimp only
    apply ih
    intro front c back same
    exact broken (b :: front) c back (by rw [same,List.cons_append])

-- No proper part of a sequence, from wherever it is read, is a character.
theorem decodeIgnoring_partial (c : Char) (short : limit < c.utf8Size) :
    decodeIgnoring 0 ((String.utf8EncodeChar c).take limit) = [] := by
  have size := String.length_utf8EncodeChar c
  apply decodeIgnoring_broken
  intro front b back same
  have whole : String.utf8EncodeChar c = front ++ (b :: (back ++ (String.utf8EncodeChar c).drop limit)) := by
    rw [← List.cons_append,← List.append_assoc,← same,List.take_append_drop]
  cases read : (b :: back).toByteArray.utf8DecodeChar? 0 with
  | none => rfl
  | some d =>
    have first : b.IsUTF8FirstByte := by
      have starts := ByteArray.isUTF8FirstByte_of_isSome_utf8DecodeChar? (Option.isSome_of_eq_some read)
      simpa using starts
    cases front with
    | cons a more =>
      have inside : (a :: more).length < (String.utf8EncodeChar c).length := by
        rw [whole]
        simp
      have here : (String.utf8EncodeChar c)[(a :: more).length] = b := by
        rw [List.getElem_of_eq whole inside]
        simp
      rw [← here] at first
      have start := UInt8.isUTF8FirstByte_getElem_utf8EncodeChar.mp first
      simp at start
    | nil =>
      have longer := ByteArray.utf8DecodeChar?_append_eq_some read ((String.utf8EncodeChar c).drop limit).toByteArray
      rw [← List.toByteArray_append,List.cons_append,← List.nil_append (b :: _),← whole] at longer
      have own := ByteArray.utf8DecodeChar?_utf8EncodeChar_append (b := ByteArray.empty) (c := c)
      rw [ByteArray.append_empty,longer] at own
      cases own
      have room := ByteArray.le_size_of_utf8DecodeChar?_eq_some read
      have taken := congrArg List.length same
      simp only [List.length_take,List.nil_append] at taken
      simp only [List.size_toByteArray,Nat.zero_add] at room
      omega

theorem decodeIgnoring_take (cs : List Char) (limit : Nat) :
    decodeIgnoring 0 ((cs.flatMap String.utf8EncodeChar).take limit) = fit limit cs := by
  induction cs generalizing limit with
  | nil => simp [fit,decodeIgnoring]
  | cons c rest ih =>
    have size := String.length_utf8EncodeChar c
    rw [List.flatMap_cons,fit]
    split
    · rename_i room
      rw [List.take_append,List.take_of_length_le (by omega),decodeIgnoring_char,ih,size]
    · rename_i short
      rw [List.take_append_of_le_length (by omega)]
      exact decodeIgnoring_partial c (by omega)

theorem clipBytes_fit (limit : Nat) (text : String) : (clipBytes limit text).toList = fit limit text.toList := by
  have bytes := utf8_bytes text.toList
  rw [String.ofList_toList] at bytes
  rw [clipBytes,String.toList_ofList,bytes,decodeIgnoring_take]

theorem fit_front (limit : Nat) (cs : List Char) : fit limit cs <+: cs := by
  induction cs generalizing limit with
  | nil => exact List.prefix_rfl
  | cons c rest ih =>
    rw [fit]
    split
    · exact (List.prefix_cons_inj c).mpr (ih _)
    · exact List.nil_prefix

theorem fit_size (limit : Nat) (cs : List Char) : weigh Char.utf8Size (fit limit cs) ≤ limit := by
  induction cs generalizing limit with
  | nil => simp [fit]
  | cons c rest ih =>
    rw [fit]
    split
    · have below := ih (limit - c.utf8Size)
      rw [weigh_cons]
      omega
    · simp

theorem fit_longest (inside : front <+: cs) (small : weigh Char.utf8Size front ≤ limit) : front <+: fit limit cs := by
  induction cs generalizing limit front with
  | nil => exact inside
  | cons c rest ih =>
    cases front with
    | nil => exact List.nil_prefix
    | cons d more =>
      obtain ⟨rfl,tail⟩ := List.cons_prefix_cons.mp inside
      rw [weigh_cons] at small
      rw [fit,if_pos (by omega)]
      apply (List.prefix_cons_inj d).mpr
      apply ih tail
      omega

-- A character is kept where it ends within the limit.
theorem fit_mem : c ∈ fit limit cs ↔
    ∃ front back, cs = front ++ c :: back ∧ weigh Char.utf8Size front + c.utf8Size ≤ limit := by
  constructor
  · intro member
    obtain ⟨front,rest,split⟩ := List.append_of_mem member
    obtain ⟨back,whole⟩ := fit_front limit cs
    have small := fit_size limit cs
    rw [split,weigh_append,weigh_cons] at small
    refine ⟨front,rest ++ back,?_,by omega⟩
    rw [← whole,split,List.append_assoc,List.cons_append]
  · rintro ⟨front,back,rfl,small⟩
    have inside : front ++ [c] <+: fit limit (front ++ c :: back) := by
      apply fit_longest
      · exact ⟨back,by simp⟩
      · simpa using small
    exact inside.subset (by simp)

-- A longer text keeps what fitted of the shorter one, and adds nothing to a part
-- that already was cut off.
theorem fit_grows (inside : shorter <+: longer) : fit limit shorter <+: fit limit longer ∧
    (fit limit shorter ≠ shorter → fit limit longer = fit limit shorter) := by
  induction shorter generalizing limit longer with
  | nil => exact ⟨List.nil_prefix,fun cut => absurd rfl cut⟩
  | cons c rest ih =>
    obtain ⟨back,rfl⟩ := inside
    rw [List.cons_append,fit,fit]
    split
    · have tail : fit (limit - c.utf8Size) rest <+: fit (limit - c.utf8Size) (rest ++ back) ∧
          (fit (limit - c.utf8Size) rest ≠ rest →
            fit (limit - c.utf8Size) (rest ++ back) = fit (limit - c.utf8Size) rest) := ih (List.prefix_append rest back)
      obtain ⟨grown,same⟩ := tail
      refine ⟨(List.prefix_cons_inj c).mpr grown,fun cut => ?_⟩
      rw [same fun whole => cut (by rw [whole])]
    · exact ⟨List.prefix_rfl,fun _ => rfl⟩

end PythonText
