import AidaAgent.Library.PythonText

namespace UrlSplit
open PythonText

-- What urllib.parse asks of other modules: whether a netloc with brackets holds an
-- address, whether a netloc beyond ASCII stays a netloc under NFKC, and str.lower().
structure Unicode where
  bracketed : List Char → Bool
  normalized : List Char → Bool
  lower : List Char → List Char

-- text.partition(mark) of one character: what is before its first occurrence and what is
-- after, where there is one.
def splitAt (mark : Char) : List Char → List Char × Option (List Char)
  | [] => ([],none)
  | c :: rest =>
    if c = mark then ([],some rest)
    else (c :: (splitAt mark rest).1,(splitAt mark rest).2)

-- text.rpartition(mark)
def splitLast (mark : Char) (text : List Char) : Option (List Char) × List Char :=
  match splitAt mark text.reverse with
  | (_,none) => (none,text)
  | (back,some front) => (some front.reverse,back.reverse)

structure Parts where
  scheme : List Char
  netloc : List Char
  path : List Char
  query : List Char
  fragment : List Char
  deriving DecidableEq, Repr

def isC0OrSpace (c : Char) : Bool := c.toNat ≤ 32
def isUnsafe (c : Char) : Bool := c = '\t' || c = '\r' || c = '\n'
def isSchemeChar (c : Char) : Bool := c.isAlphanum || c = '+' || c = '-' || c = '.'
def isDelimiter (c : Char) : Bool := c = '/' || c = '?' || c = '#'

def splitScheme (url : List Char) : List Char × List Char :=
  match splitAt ':' url with
  | (first :: more,some rest) =>
    if first.isAlpha && (first :: more).all isSchemeChar then ((first :: more).map Char.toLower,rest) else ([],url)
  | _ => ([],url)

-- `none` is a ValueError.
def splitNetloc (unicode : Unicode) : List Char → Option (List Char × List Char)
  | '/' :: '/' :: rest =>
    let netloc := rest.takeWhile fun c => !isDelimiter c
    if netloc.contains '[' = netloc.contains ']' ∧ (netloc.contains '[' = true → unicode.bracketed netloc = true) then
      some (netloc,rest.dropWhile fun c => !isDelimiter c)
    else none
  | url => some ([],url)

def isAscii (text : List Char) : Bool := text.all fun c => decide (c.toNat < 128)

def urlsplit (unicode : Unicode) (text : List Char) : Option Parts :=
  let url := (text.dropWhile isC0OrSpace).filter fun c => !isUnsafe c
  let (scheme,url) := splitScheme url
  (splitNetloc unicode url).bind fun (netloc,url) =>
    let (url,fragment) := splitAt '#' url
    let (path,query) := splitAt '?' url
    if isAscii netloc || unicode.normalized netloc then some ⟨scheme,netloc,path,query.getD [],fragment.getD []⟩ else none

-- The user name and the password, where there are any.
def Parts.userinfo (p : Parts) : Option (List Char) × Option (List Char) :=
  match splitLast '@' p.netloc with
  | (none,_) => (none,none)
  | (some info,_) => (some (splitAt ':' info).1,(splitAt ':' info).2)

def present (text : Option (List Char)) : Option (List Char) :=
  match text with
  | some (c :: rest) => some (c :: rest)
  | _ => none

def Parts.hostinfo (p : Parts) : List Char × Option (List Char) :=
  let host := (splitLast '@' p.netloc).2
  match splitAt '[' host with
  | (_,some bracketed) =>
    ((splitAt ']' bracketed).1,present (splitAt ':' ((splitAt ']' bracketed).2.getD [])).2)
  | (_,none) => ((splitAt ':' host).1,present (splitAt ':' host).2)

-- A zone is not lowered.
def Parts.hostname (unicode : Unicode) (p : Parts) : Option (List Char) :=
  let name := p.hostinfo.1
  if name = [] then none
  else some (unicode.lower (splitAt '%' name).1 ++ (splitAt '%' name).2.elim [] ('%' :: ·))

-- `none` is a ValueError.
def Parts.port (p : Parts) : Option (Option Nat) :=
  match p.hostinfo.2 with
  | none => some none
  | some digits =>
    let number := Nat.ofDigitChars 10 digits 0
    if digits.all Char.isDigit && decide (digits.length ≤ maxStrDigits) && decide (number ≤ 65535) then some (some number)
    else none

-- urllib.parse.unwrap(url)
def unwrap (url : List Char) : List Char :=
  let url := stripChars url
  let url := if url.head? = some '<' ∧ url.getLast? = some '>' then stripChars url.tail.dropLast else url
  if url.take 4 = ['U','R','L',':'] then stripChars (url.drop 4) else url

-- A type stands before the first colon, and no slash before that.
def typed (url : List Char) : Bool :=
  match splitAt ':' url with
  | (kind,some _) => kind ≠ [] && !kind.contains '/'
  | _ => false

-- urllib.request.Request(url) raises no ValueError: there is a type, and urlparse() takes
-- the address.
def requestable (unicode : Unicode) (text : List Char) : Bool :=
  let url := unwrap text
  match splitLast '#' url with
  | (some bare,fragment) => typed bare && (urlsplit unicode (if fragment = [] then bare else url)).isSome
  | (none,_) => typed url && (urlsplit unicode url).isSome

theorem splitAt_absent (absent : mark ∉ text) : splitAt mark text = (text,none) := by
  induction text with
  | nil => rfl
  | cons c rest ih =>
    have other : c ≠ mark := fun same => absent (same ▸ List.mem_cons_self)
    rw [splitAt,if_neg other,ih fun member => absent (List.mem_cons_of_mem c member)]

theorem splitAt_first (absent : mark ∉ front) (rest : List Char) : splitAt mark (front ++ mark :: rest) = (front,some rest) := by
  induction front with
  | nil => rw [List.nil_append,splitAt,if_pos rfl]
  | cons c front ih =>
    have other : c ≠ mark := fun same => absent (same ▸ List.mem_cons_self)
    rw [List.cons_append,splitAt,if_neg other,ih fun member => absent (List.mem_cons_of_mem c member)]

-- What is split is put together again.
theorem splitAt_some (split_ : splitAt mark text = (front,some rest)) : text = front ++ mark :: rest ∧ mark ∉ front := by
  induction text generalizing front with
  | nil => cases split_
  | cons c text ih =>
    rw [splitAt] at split_
    split at split_
    · rename_i same
      cases split_
      exact ⟨by rw [same]; rfl,by simp⟩
    · rename_i other
      obtain ⟨rfl,found⟩ := Prod.mk.inj split_
      obtain ⟨whole,absent⟩ := ih (Prod.ext rfl found)
      refine ⟨congrArg (c :: ·) whole,?_⟩
      intro member
      rcases List.mem_cons.mp member with same | later
      · exact other same.symm
      · exact absent later

theorem splitAt_none (split_ : splitAt mark text = (front,none)) : front = text ∧ mark ∉ text := by
  by_cases member : mark ∈ text
  · obtain ⟨before,after,rfl,absent⟩ := List.eq_append_cons_of_mem member
    rw [splitAt_first absent] at split_
    cases split_
  · rw [splitAt_absent member] at split_
    cases split_
    exact ⟨rfl,member⟩

theorem splitLast_none : (splitLast mark text).1 = none ↔ mark ∉ text := by
  unfold splitLast
  split
  · rename_i back absent
    have nowhere := (splitAt_none absent).2
    exact ⟨fun _ member => nowhere (List.mem_reverse.mpr member),fun _ => rfl⟩
  · rename_i back front found
    have whole := (splitAt_some found).1
    constructor
    · intro none
      cases none
    · intro absent
      refine absurd (List.mem_reverse.mp ?_) absent
      rw [whole]
      exact List.mem_append_right _ List.mem_cons_self

-- A scheme as it is written.
structure Scheme (written : List Char) : Prop where
  letter : ∃ first more, written = first :: more ∧ first.isAlpha = true
  chars : ∀ c ∈ written, isSchemeChar c = true

-- A netloc that is not refused.
structure Netloc (unicode : Unicode) (netloc : List Char) : Prop where
  undelimited : ∀ c ∈ netloc, isDelimiter c = false
  brackets : netloc.contains '[' = netloc.contains ']' ∧ (netloc.contains '[' = true → unicode.bracketed netloc = true)
  normal : isAscii netloc = true ∨ unicode.normalized netloc = true

def separator : List Char := [':','/','/']

theorem scheme_colonless (scheme : Scheme written) : ':' ∉ written := by
  intro member
  have colon := scheme.chars ':' member
  revert colon
  decide

theorem splitScheme_written (scheme : Scheme written) (rest : List Char) :
    splitScheme (written ++ ':' :: rest) = (written.map Char.toLower,rest) := by
  obtain ⟨first,more,rfl,letter⟩ := scheme.letter
  have all : (first :: more).all isSchemeChar = true := List.all_eq_true.mpr scheme.chars
  rw [splitScheme,splitAt_first (scheme_colonless scheme)]
  simp only [letter,all,Bool.and_self,if_true]

-- Where splitScheme finds a scheme, it stands there.
theorem splitScheme_found (found : splitScheme url = (scheme,rest)) (some_ : scheme ≠ []) :
    ∃ written, Scheme written ∧ url = written ++ ':' :: rest ∧ scheme = written.map Char.toLower := by
  unfold splitScheme at found
  split at found
  · rename_i first more rest' split_
    split at found
    · rename_i accepted
      simp only [Bool.and_eq_true,List.all_eq_true] at accepted
      obtain ⟨rfl,rfl⟩ := Prod.mk.inj found
      exact ⟨first :: more,⟨⟨first,more,rfl,accepted.1⟩,accepted.2⟩,(splitAt_some split_).1,rfl⟩
    · cases found
      exact absurd rfl some_
  · cases found
    exact absurd rfl some_

theorem takeWhile_undelimited (undelimited : ∀ c ∈ netloc, isDelimiter c = false) (ends : path = [] ∨ ∃ rest, path = '/' :: rest) :
    (netloc ++ path).takeWhile (fun c => !isDelimiter c) = netloc ∧
      (netloc ++ path).dropWhile (fun c => !isDelimiter c) = path := by
  have every : ∀ c ∈ netloc, (!isDelimiter c) = true := fun c member => by rw [undelimited c member]; rfl
  rw [List.takeWhile_append_of_pos every,List.dropWhile_append_of_pos every]
  rcases ends with rfl | ⟨rest,rfl⟩
  · exact ⟨List.append_nil _,rfl⟩
  · have slash : isDelimiter '/' = true := by decide
    simp [slash]

theorem splitNetloc_built (valid : Netloc unicode netloc) (ends : path = [] ∨ ∃ rest, path = '/' :: rest) :
    splitNetloc unicode ('/' :: '/' :: (netloc ++ path)) = some (netloc,path) := by
  obtain ⟨taken,dropped⟩ := takeWhile_undelimited valid.undelimited ends
  rw [splitNetloc,taken,dropped]
  exact if_pos valid.brackets

theorem splitNetloc_found (found : splitNetloc unicode url = some (netloc,path)) (some_ : netloc ≠ []) :
    url = '/' :: '/' :: (netloc ++ path) ∧ (∀ c ∈ netloc, isDelimiter c = false) ∧
      netloc.contains '[' = netloc.contains ']' ∧ (netloc.contains '[' = true → unicode.bracketed netloc = true) := by
  unfold splitNetloc at found
  split at found
  · rename_i rest
    dsimp only at found
    split at found
    · rename_i brackets
      obtain ⟨rfl,rfl⟩ := Prod.mk.inj (Option.some.inj found)
      refine ⟨by rw [List.takeWhile_append_dropWhile],fun c member => ?_,brackets⟩
      have kept := List.mem_takeWhile_imp member
      simpa using kept
    · cases found
  · cases found
    exact absurd rfl some_

theorem plain_kept {text : List Char} (plain : ∀ c ∈ text, 32 < c.toNat) :
    (text.dropWhile isC0OrSpace).filter (fun c => !isUnsafe c) = text := by
  have kept : text.dropWhile isC0OrSpace = text := by
    cases text with
    | nil => rfl
    | cons c rest =>
      have large := plain c List.mem_cons_self
      exact List.dropWhile_cons_of_neg (by simp [isC0OrSpace,large])
  rw [kept,List.filter_eq_self]
  intro c member
  have large := plain c member
  have tab : c ≠ '\t' := by rintro rfl; revert large; decide
  have carriage : c ≠ '\r' := by rintro rfl; revert large; decide
  have line : c ≠ '\n' := by rintro rfl; revert large; decide
  simp [isUnsafe,tab,carriage,line]

-- An address with a scheme, a netloc and a path is split where it was put together.
theorem urlsplit_built (scheme : Scheme written) (valid : Netloc unicode netloc)
    (ends : path = [] ∨ ∃ rest, path = '/' :: rest) (unmarked : '#' ∉ path ∧ '?' ∉ path)
    (plain : ∀ c ∈ written ++ separator ++ netloc ++ path, 32 < c.toNat) :
    urlsplit unicode (written ++ separator ++ netloc ++ path) = some ⟨written.map Char.toLower,netloc,path,[],[]⟩ := by
  have shape : written ++ separator ++ netloc ++ path = written ++ ':' :: ('/' :: '/' :: (netloc ++ path)) := by
    simp [separator]
  have normal : (isAscii netloc || unicode.normalized netloc) = true := by
    rw [Bool.or_eq_true]
    exact valid.normal
  rw [urlsplit,plain_kept plain,shape,splitScheme_written scheme]
  dsimp only
  rw [splitNetloc_built valid ends,Option.bind_some]
  simp only [splitAt_absent unmarked.1,splitAt_absent unmarked.2,normal,if_true,Option.getD_none]

-- An address with a scheme, a netloc, a path and perhaps a query can be requested.
theorem requestable_built (scheme : Scheme written) (valid : Netloc unicode netloc) (ends : path = [] ∨ ∃ rest, path = '/' :: rest)
    (plain : ∀ c ∈ written ++ separator ++ netloc ++ path, 32 < c.toNat ∧ isSpace c = false ∧ c ≠ '#')
    (unmarked : (written ++ separator ++ netloc ++ path).take 4 ≠ ['U','R','L',':']) :
    requestable unicode (written ++ separator ++ netloc ++ path) = true := by
  have shape : written ++ separator ++ netloc ++ path = written ++ ':' :: ('/' :: '/' :: (netloc ++ path)) := by
    simp [separator]
  have unfragmented : '#' ∉ written ++ separator ++ netloc ++ path := fun member => (plain '#' member).2.2 rfl
  have same : unwrap (written ++ separator ++ netloc ++ path) = written ++ separator ++ netloc ++ path := by
    obtain ⟨first,more,rfl,letter⟩ := scheme.letter
    have tagless : first ≠ '<' := by rintro rfl; revert letter; decide
    rw [unwrap,stripChars_spaceless fun c member => (plain c member).2.1]
    simp only [List.cons_append,List.head?_cons,Option.some.injEq,tagless,false_and,if_false]
    exact if_neg unmarked
  have kind : typed (written ++ separator ++ netloc ++ path) = true := by
    have slashless : '/' ∉ written := by
      intro member
      have slash := scheme.chars '/' member
      revert slash
      decide
    obtain ⟨first,more,rfl,_⟩ := scheme.letter
    rw [typed,shape,splitAt_first (scheme_colonless scheme)]
    simp only [ne_eq,reduceCtorEq,not_false_eq_true,decide_true,Bool.true_and,Bool.not_eq_true',List.contains_eq_mem,slashless,
      decide_false]
  have taken : (urlsplit unicode (written ++ separator ++ netloc ++ path)).isSome = true := by
    have normal : (isAscii netloc || unicode.normalized netloc) = true := by
      rw [Bool.or_eq_true]
      exact valid.normal
    rw [urlsplit,plain_kept fun c member => (plain c member).1,shape,splitScheme_written scheme]
    dsimp only
    rw [splitNetloc_built valid ends,Option.bind_some]
    simp only [normal,if_true,Option.isSome_some]
  have whole := splitLast_none.mpr unfragmented
  unfold requestable
  rw [same]
  dsimp only
  split
  · rename_i found
    rw [found] at whole
    cases whole
  · rw [kind,taken]
    rfl

-- An address that splits into a scheme, a netloc and no path, and has no query and no
-- fragment, is these two.
theorem urlsplit_origin {text : List Char} (plain : ∀ c ∈ text, 32 < c.toNat) (unmarked : '#' ∉ text ∧ '?' ∉ text)
    (found : urlsplit unicode text = some p) (scheme : p.scheme ≠ []) (netloc : p.netloc ≠ []) (path : p.path = []) :
    ∃ written, Scheme written ∧ Netloc unicode p.netloc ∧ text = written ++ separator ++ p.netloc ∧
      p.scheme = written.map Char.toLower := by
  rw [urlsplit,plain_kept plain] at found
  dsimp only at found
  obtain ⟨⟨named,rest⟩,located,found⟩ := Option.bind_eq_some_iff.mp found
  dsimp only at found
  split at found
  · rename_i normal
    cases found
    obtain ⟨written,valid,whole,lowered⟩ := splitScheme_found (show splitScheme text = ((splitScheme text).1,(splitScheme text).2) from rfl) scheme
    obtain ⟨front,undelimited,brackets⟩ := splitNetloc_found located netloc
    have unsharp : '#' ∉ rest := by
      intro member
      apply unmarked.1
      rw [whole,front]
      exact List.mem_append_right _ (List.mem_cons_of_mem _ (List.mem_cons_of_mem _ (List.mem_cons_of_mem _
        (List.mem_append_right _ member))))
    have unasked : '?' ∉ rest := by
      intro member
      apply unmarked.2
      rw [whole,front]
      exact List.mem_append_right _ (List.mem_cons_of_mem _ (List.mem_cons_of_mem _ (List.mem_cons_of_mem _
        (List.mem_append_right _ member))))
    have nothing : rest = [] := by
      simp only [splitAt_absent unsharp,splitAt_absent unasked] at path
      exact path
    refine ⟨written,valid,⟨undelimited,brackets,?_⟩,?_,lowered⟩
    · rwa [Bool.or_eq_true] at normal
    · rw [whole,front,nothing,List.append_nil]
      simp [separator]
  · cases found

end UrlSplit
