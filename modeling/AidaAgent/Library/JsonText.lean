import AidaAgent.Library.PythonText

namespace JsonText
open PythonText

inductive Constant where
  | nan | infinity | negInfinity
  deriving DecidableEq, Repr

def Constant.text : Constant → String
  | .nan => "NaN"
  | .infinity => "Infinity"
  | .negInfinity => "-Infinity"

-- The tree json.loads builds before any hook has run: an object is its list of
-- pairs in text order, and a float is named by the literal it was read from.
inductive Json where
  | null
  | bool (value : Bool)
  | int (value : Int)
  | float (literal : String)
  | constant (value : Constant)
  | str (text : String)
  | arr (items : List Json)
  | obj (fields : List (String × Json))
  deriving Repr

theorem Json.induct {P : Json → Prop} (null : P .null) (bool : ∀ b, P (.bool b)) (int : ∀ i, P (.int i))
    (float : ∀ t, P (.float t)) (constant : ∀ c, P (.constant c)) (str : ∀ t, P (.str t))
    (arr : ∀ items, (∀ item ∈ items, P item) → P (.arr items))
    (obj : ∀ fields, (∀ field ∈ fields, P field.2) → P (.obj fields)) (v : Json) : P v := by
  apply @Json.rec P (fun items => ∀ item ∈ items, P item) (fun fields => ∀ field ∈ fields, P field.2)
    (fun field => P field.2)
  all_goals grind

def isWs (c : Char) : Bool := c = ' ' || c = '\t' || c = '\n' || c = '\r'
def skipWs (cs : List Char) : List Char := cs.dropWhile isWs

-- Numbers. The scanner takes the longest prefix that is a number.
def digits (cs : List Char) : List Char × List Char := (cs.takeWhile Char.isDigit,cs.dropWhile Char.isDigit)

def scanWhole : List Char → Option (List Char × List Char)
  | [] => none
  | c :: rest =>
    if c = '0' then some (['0'],rest)
    else if c.isDigit then some (digits (c :: rest))
    else none

def scanFraction : List Char → List Char × List Char
  | [] => ([],[])
  | c :: rest =>
    if c = '.' ∧ (digits rest).1 ≠ [] then (c :: (digits rest).1,(digits rest).2) else ([],c :: rest)

def scanSign : List Char → List Char × List Char
  | [] => ([],[])
  | c :: rest => if c = '+' ∨ c = '-' then ([c],rest) else ([],c :: rest)

def scanExponent : List Char → List Char × List Char
  | [] => ([],[])
  | c :: rest =>
    let (sign,after) := scanSign rest
    if (c = 'e' ∨ c = 'E') ∧ (digits after).1 ≠ [] then
      (c :: sign ++ (digits after).1,(digits after).2)
    else ([],c :: rest)

def scanMinus : List Char → List Char × List Char
  | [] => ([],[])
  | c :: rest => if c = '-' then ([c],rest) else ([],c :: rest)

def intValue (minus whole : List Char) : Int :=
  if minus = [] then Int.ofNat (Nat.ofDigitChars 10 whole 0) else - Int.ofNat (Nat.ofDigitChars 10 whole 0)

def scanNumber (cs : List Char) : Option (Json × List Char) :=
  let (minus,body) := scanMinus cs
  (scanWhole body).bind fun (whole,tail) =>
    let (fraction,tail) := scanFraction tail
    let (exponent,tail) := scanExponent tail
    if fraction = [] ∧ exponent = [] then
      if whole.length ≤ maxStrDigits then some (.int (intValue minus whole),tail) else none
    else some (.float (String.ofList (minus ++ whole ++ fraction ++ exponent)),tail)

-- What the interpreter adds to the text format. json.dumps writes a float as
-- float.__repr__ does, or as Infinity where the literal overflowed.
structure Interpreter where
  recursionLimit : Nat
  floatRepr : String → String
  limit_ok : 2 ≤ recursionLimit
  written : ∀ literal, floatRepr literal = Constant.infinity.text ∨
    floatRepr literal = Constant.negInfinity.text ∨
    scanNumber (floatRepr literal).toList = some (.float (floatRepr literal),[])

-- An interpreter that prints a float as it was read.
def readsFloat (literal : String) : Bool :=
  match scanNumber literal.toList with
  | some (.float found,[]) => found == literal
  | _ => false

def verbatim : Interpreter where
  recursionLimit := 1000
  floatRepr literal := if readsFloat literal then literal else Constant.infinity.text
  limit_ok := by decide
  written literal := by
    unfold readsFloat
    split
    · rename_i found read
      by_cases same : found = literal
      · subst same
        exact .inr (.inr (by simpa using read))
      · exact .inl (by simp [same])
    · exact .inl rfl

-- Strings
def unescape (c : Char) : Option Char :=
  if c = '"' then some '"' else if c = '\\' then some '\\' else if c = '/' then some '/'
  else if c = 'b' then some '\x08' else if c = 'f' then some '\x0c' else if c = 'n' then some '\n'
  else if c = 'r' then some '\r' else if c = 't' then some '\t' else none

def hexValue (c : Char) : Option Nat :=
  if '0' ≤ c ∧ c ≤ '9' then some (c.toNat - 48)
  else if 'a' ≤ c ∧ c ≤ 'f' then some (c.toNat - 87)
  else if 'A' ≤ c ∧ c ≤ 'F' then some (c.toNat - 55)
  else none

def readHex4 : List Char → Option (Nat × List Char)
  | a :: b :: c :: d :: rest =>
    match hexValue a,hexValue b,hexValue c,hexValue d with
    | some w,some x,some y,some z => some (((w * 16 + x) * 16 + y) * 16 + z,rest)
    | _,_,_,_ => none
  | _ => none

-- An unpaired surrogate has no scalar value, so the text is refused.
def scanUnicode (cs : List Char) : Option (Char × List Char) :=
  (readHex4 cs).bind fun (unit,tail) =>
    if isHighSurrogate unit then
      match tail with
      | '\\' :: 'u' :: more =>
        (readHex4 more).bind fun (low,left) =>
          if isLowSurrogate low then (scalar (fromSurrogates unit low)).map fun c => (c,left) else none
      | _ => none
    else (scalar unit).map fun c => (c,tail)

def scanEscape : List Char → Option (Char × List Char)
  | [] => none
  | c :: rest =>
    match unescape c with
    | some plain => some (plain,rest)
    | none => if c = 'u' then scanUnicode rest else none

-- After the opening quote. Each character of the string uses one unit of fuel.
def scanString : Nat → List Char → Option (List Char × List Char)
  | 0,_ => none
  | _+1,[] => none
  | fuel+1,c :: rest =>
    if c = '"' then some ([],rest)
    else if c = '\\' then
      (scanEscape rest).bind fun (plain,tail) =>
        (scanString fuel tail).map fun (text,left) => (plain :: text,left)
    else if c.toNat < 0x20 then none
    else (scanString fuel rest).map fun (text,left) => (c :: text,left)

def scanText (cs : List Char) : Option (String × List Char) :=
  (scanString (cs.length + 1) cs).map fun (text,left) => (String.ofList text,left)

def keywords : List (List Char × Json) :=
  [(['n','u','l','l'],.null),(['t','r','u','e'],.bool true),(['f','a','l','s','e'],.bool false),
   (['N','a','N'],.constant .nan),(['I','n','f','i','n','i','t','y'],.constant .infinity),
   (['-','I','n','f','i','n','i','t','y'],.constant .negInfinity)]

def scanKeyword (cs : List Char) : Option (Json × List Char) :=
  keywords.findSome? fun (word,value) =>
    if word.isPrefixOf cs then some (value,cs.drop word.length) else none

-- `depth` is what is left of the recursion limit. The fuel only makes the
-- recursion structural: see `parseValue_fuel`.
mutual
def parseValue : Nat → Nat → List Char → Option (Json × List Char)
  | 0,_,_ => none
  | _+1,_,[] => none
  | fuel+1,depth,c :: rest =>
    if c = '"' then (scanText rest).map fun (text,left) => (.str text,left)
    else if c = '[' then
      match depth with
      | 0 => none
      | depth+1 =>
        match skipWs rest with
        | ']' :: left => some (.arr [],left)
        | body => (parseItems fuel depth body).map fun (items,left) => (.arr items,left)
    else if c = '{' then
      match depth with
      | 0 => none
      | depth+1 =>
        match skipWs rest with
        | '}' :: left => some (.obj [],left)
        | body => (parseFields fuel depth body).map fun (fields,left) => (.obj fields,left)
    else (scanKeyword (c :: rest)).or (scanNumber (c :: rest))

def parseItems : Nat → Nat → List Char → Option (List Json × List Char)
  | 0,_,_ => none
  | fuel+1,depth,cs =>
    (parseValue fuel depth cs).bind fun (item,tail) =>
      match skipWs tail with
      | ',' :: more => (parseItems fuel depth (skipWs more)).map fun (items,left) => (item :: items,left)
      | ']' :: left => some ([item],left)
      | _ => none

def parseFields : Nat → Nat → List Char → Option (List (String × Json) × List Char)
  | 0,_,_ => none
  | fuel+1,depth,cs =>
    match cs with
    | '"' :: rest =>
      (scanText rest).bind fun (key,tail) =>
        match skipWs tail with
        | ':' :: more =>
          (parseValue fuel depth (skipWs more)).bind fun (value,tail) =>
            match skipWs tail with
            | ',' :: more =>
              (parseFields fuel depth (skipWs more)).map fun (fields,left) => ((key,value) :: fields,left)
            | '}' :: left => some ([(key,value)],left)
            | _ => none
        | _ => none
    | _ => none
end

-- json.loads of a str, and of bytes after decoding them.
def loadsChars (py : Interpreter) (cs : List Char) : Option Json :=
  let body := skipWs cs
  (parseValue (2 * body.length) py.recursionLimit body).bind fun (value,left) =>
    if skipWs left = [] then some value else none

def loads (py : Interpreter) (text : String) : Option Json :=
  match text.toList with
  | '\ufeff' :: _ => none
  | cs => loadsChars py cs

def loadsBytes (py : Interpreter) (bytes : ByteArray) : Option Json :=
  (decodeBytes bytes).bind fun text => loadsChars py text.toList

-- json.dumps
structure Style where
  ascii : Bool
  spaced : Bool

def Style.gap (style : Style) : List Char := if style.spaced then [' '] else []
def Style.item (style : Style) : List Char := ',' :: style.gap
def Style.key (style : Style) : List Char := ':' :: style.gap

def escapeShort (c : Char) : Option Char :=
  if c = '"' then some '"' else if c = '\\' then some '\\' else if c = '\x08' then some 'b'
  else if c = '\x0c' then some 'f' else if c = '\n' then some 'n' else if c = '\r' then some 'r'
  else if c = '\t' then some 't' else none

def hex4 (n : Nat) : List Char :=
  [Nat.digitChar (n / 4096 % 16),Nat.digitChar (n / 256 % 16),Nat.digitChar (n / 16 % 16),Nat.digitChar (n % 16)]

def escapeUnicode (n : Nat) : List Char := '\\' :: 'u' :: hex4 n

def escapeChar (ascii : Bool) (c : Char) : List Char :=
  match escapeShort c with
  | some short => ['\\',short]
  | none =>
    if c.toNat < 0x20 then escapeUnicode c.toNat
    else if c.toNat < 0x7f ∨ ascii = false then [c]
    else if c.toNat < 0x10000 then escapeUnicode c.toNat
    else escapeUnicode (0xd800 + (c.toNat - 0x10000) / 0x400) ++
      escapeUnicode (0xdc00 + (c.toNat - 0x10000) % 0x400)

def writeString (ascii : Bool) (text : String) : List Char :=
  '"' :: text.toList.flatMap (escapeChar ascii) ++ ['"']

def writeInt : Int → List Char
  | .ofNat n => Nat.toDigits 10 n
  | .negSucc n => '-' :: Nat.toDigits 10 (n + 1)

mutual
def write (py : Interpreter) (style : Style) : Json → List Char
  | .null => ['n','u','l','l']
  | .bool true => ['t','r','u','e']
  | .bool false => ['f','a','l','s','e']
  | .int value => writeInt value
  | .float literal => (py.floatRepr literal).toList
  | .constant value => value.text.toList
  | .str text => writeString style.ascii text
  | .arr [] => ['[',']']
  | .arr (item :: rest) => '[' :: write py style item ++ writeItems py style rest ++ [']']
  | .obj [] => ['{','}']
  | .obj ((key,value) :: rest) =>
    '{' :: writeString style.ascii key ++ style.key ++ write py style value ++ writeFields py style rest ++ ['}']

def writeItems (py : Interpreter) (style : Style) : List Json → List Char
  | [] => []
  | item :: rest => style.item ++ write py style item ++ writeItems py style rest

def writeFields (py : Interpreter) (style : Style) : List (String × Json) → List Char
  | [] => []
  | (key,value) :: rest =>
    style.item ++ writeString style.ascii key ++ style.key ++ write py style value ++ writeFields py style rest
end

def dumps (py : Interpreter) (style : Style) (value : Json) : String := String.ofList (write py style value)

-- Reading an object as a dict: the last pair of a key wins.
def get (fields : List (String × Json)) (key : String) : Option Json := fields.reverse.lookup key
def keys (fields : List (String × Json)) : List String := fields.map Prod.fst

end JsonText
