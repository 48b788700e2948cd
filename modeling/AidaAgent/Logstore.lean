import AidaAgent.Library.JsonDepth
import AidaAgent.PlatformConfig

namespace AidaAgent.Logstore
open JsonText PythonText Config PlatformConfig

structure OSError where
  errno : Nat
  deriving DecidableEq, Repr

-- What leaves configure() as an exception.
inductive Raised where
  | osError (e : OSError)
  | recursionError
  deriving DecidableEq, Repr

-- What the outcome of each step is on this host: whether the library can be imported,
-- the path mkstemp makes or its failure, and the failures of writing a text to a path
-- (os.fdopen, json.dump and the end of its `with`) and of chmod.
structure Host where
  py : Interpreter
  library : Bool
  mkstemp : Except OSError String
  write : String → String → Option Raised
  chmod : String → Option OSError

structure World where
  environ : Environ
  warnings : List String
  files : List (String × String)

def World.set (w : World) (key : String) (value : Option String) : World :=
  {w with environ := Function.update w.environ key value}

def World.warn (w : World) (text : String) : World := {w with warnings := w.warnings ++ [text]}

-- environ.pop("LOGSTORE_KEY_JSON","").strip()
def keyText (environ : Environ) : String := strip ((environ "LOGSTORE_KEY_JSON").getD "")

def switchedOn (environ : Environ) : Bool := strip ((environ "LOGSTORE_ENABLED").getD "") == "1"

-- isinstance(key, dict) and key.get("type") == "service_account"
def isServiceAccount : Json → Bool
  | .obj fields => isText ((get fields "type").getD .null) "service_account"
  | _ => false

-- json.dump(key, file)
def keyFile (py : Interpreter) (key : Json) : String := dumps py ⟨true,true⟩ (dictOf key)

-- The private file, and what is set once it is there.
def save (host : Host) (w : World) (key : Json) : World × Except Raised Bool :=
  match host.mkstemp with
  | .error e => (w,.error (.osError e))
  | .ok path =>
    match host.write path (keyFile host.py key) with
    | some raised => (w,.error raised)
    | none =>
      let w := {w with files := PythonDict.put w.files path (keyFile host.py key)}
      match host.chmod path with
      | some e => (w,.error (.osError e))
      | none => ((w.set "LOGSTORE_KEY_FILE" (some path)).set "LOGSTORE_ENABLED" (some "1"),.ok true)

def configure (host : Host) (w : World) : World × Except Raised Bool :=
  let keyJson := keyText w.environ
  let on := switchedOn w.environ
  let w := ((w.set "LOGSTORE_KEY_JSON" none).set "LOGSTORE_KEY_FILE" none).set "LOGSTORE_ENABLED" (some "0")
  if !on then (w,.ok false)
  else if !host.library then
    (w.warn "LiveKitLogstore off: the library is not installed in this image",.ok false)
  else if keyJson = "" then
    (w.warn "LiveKitLogstore off: LOGSTORE_KEY_JSON is blank (PlatformConfig app=aida-agent)",.ok false)
  else
    match decode host.py keyJson with
    | .valueError => (w.warn "LiveKitLogstore off: LOGSTORE_KEY_JSON is not valid JSON",.ok false)
    | .recursionError => (w,.error .recursionError)
    | .value key =>
      if isServiceAccount key then save host w key
      else (w.warn "LiveKitLogstore off: LOGSTORE_KEY_JSON is not a service-account key",.ok false)

def enabled (environ : Environ) : Bool := environ "LOGSTORE_ENABLED" == some "1"

def names : List String := ["LOGSTORE_KEY_JSON","LOGSTORE_KEY_FILE","LOGSTORE_ENABLED"]

-- The three variables after a decision: all on, or all off.
def Decided (decision : Bool) (environ : Environ) : Prop :=
  if decision then environ "LOGSTORE_ENABLED" = some "1" ∧ (environ "LOGSTORE_KEY_FILE").isSome = true
  else environ "LOGSTORE_ENABLED" = some "0" ∧ environ "LOGSTORE_KEY_FILE" = none

structure Left (decision : Bool) (before after : Environ) : Prop where
  secret : after "LOGSTORE_KEY_JSON" = none
  decided : Decided decision after
  others : ∀ key, key ∉ names → after key = before key

-- The hooks of the worker follow the decision.
theorem left_enabled (left : Left decision before after) : enabled after = decision := by
  have decided := left.decided
  cases decision with
  | true => exact beq_iff_eq.mpr decided.1
  | false =>
    rw [enabled,decided.1]
    decide

-- What configure() leaves with no more done than its first steps.
def cleared (environ : Environ) : Environ :=
  Function.update (Function.update (Function.update environ "LOGSTORE_KEY_JSON" none) "LOGSTORE_KEY_FILE" none)
    "LOGSTORE_ENABLED" (some "0")

theorem cleared_left (environ : Environ) : Left false environ (cleared environ) := by
  refine ⟨?_,⟨?_,?_⟩,?_⟩
  · simp [cleared]
  · simp [cleared]
  · simp [cleared]
  · intro key other
    simp only [names,List.mem_cons,List.not_mem_nil,or_false,not_or] at other
    obtain ⟨json,file,switch⟩ := other
    simp [cleared,json,file,switch]

theorem saved_left (environ : Environ) (path : String) :
    Left true environ (Function.update (Function.update (cleared environ) "LOGSTORE_KEY_FILE" (some path))
      "LOGSTORE_ENABLED" (some "1")) := by
  refine ⟨?_,⟨?_,?_⟩,?_⟩
  · simp [cleared]
  · simp
  · simp
  · intro key other
    have kept := (cleared_left environ).others key other
    simp only [names,List.mem_cons,List.not_mem_nil,or_false,not_or] at other
    obtain ⟨_,file,switch⟩ := other
    simp [file,switch,kept]

-- The steps on the private file all succeed.
def Saves (host : Host) (key : Json) : Prop := ∃ path, host.mkstemp = .ok path ∧
  host.write path (keyFile host.py key) = none ∧ host.chmod path = none

-- Nothing that is reached fails in a way nothing catches.
def Unhindered (host : Host) (environ : Environ) : Prop :=
  switchedOn environ = true → host.library = true → keyText environ ≠ "" →
    decode host.py (keyText environ) ≠ .recursionError ∧
      ∀ key, decode host.py (keyText environ) = .value key → isServiceAccount key = true → Saves host key

-- How a call ends: with a decision, or with an exception that leaves all off.
def Returns (before : Environ) (after : World × Except Raised Bool) : Prop :=
  ∃ decision, after.2 = .ok decision ∧ Left decision before after.1.environ

def Raises (before : Environ) (after : World × Except Raised Bool) : Prop :=
  ∃ e, after.2 = .error e ∧ Left false before after.1.environ

theorem returns_not_raises (returns : Returns before after) : ¬ Raises before after := by
  rintro ⟨e,raised,_⟩
  obtain ⟨decision,returned,_⟩ := returns
  rw [returned] at raised
  cases raised

-- The exits of save().
theorem save_outcome {w : World} (same : w.environ = cleared before) :
    Saves host key ∧ Returns before (save host w key) ∨ ¬ Saves host key ∧ Raises before (save host w key) := by
  have off : Left false before w.environ := same ▸ cleared_left before
  unfold save
  split
  · rename_i e failed
    refine .inr ⟨?_,_,rfl,off⟩
    rintro ⟨path,made,_⟩
    rw [failed] at made
    cases made
  · rename_i path made
    split
    · rename_i raised failed
      refine .inr ⟨?_,_,rfl,off⟩
      rintro ⟨other,again,written,_⟩
      rw [made] at again
      cases again
      rw [failed] at written
      cases written
    · rename_i written
      dsimp only
      split
      · rename_i e failed
        refine .inr ⟨?_,_,rfl,off⟩
        rintro ⟨other,again,_,closed⟩
        rw [made] at again
        cases again
        rw [failed] at closed
        cases closed
      · rename_i closed
        refine .inl ⟨⟨path,made,written,closed⟩,true,rfl,?_⟩
        unfold World.set
        dsimp only
        rw [same]
        exact saved_left before path

-- Every exit of configure().
theorem configure_outcome (host : Host) (w : World) :
    Unhindered host w.environ ∧ Returns w.environ (configure host w) ∨
      ¬ Unhindered host w.environ ∧ Raises w.environ (configure host w) := by
  have off := cleared_left w.environ
  unfold configure
  dsimp only
  split
  · rename_i unset
    refine .inl ⟨fun on => ?_,false,rfl,off⟩
    rw [on] at unset
    cases unset
  · rename_i on
    split
    · rename_i missing
      refine .inl ⟨fun _ present => ?_,false,rfl,off⟩
      rw [present] at missing
      cases missing
    · rename_i present
      split
      · rename_i blank
        exact .inl ⟨fun _ _ given => absurd blank given,false,rfl,off⟩
      · rename_i given
        have reached : switchedOn w.environ = true ∧ host.library = true := by
          simpa using And.intro on present
        split
        · rename_i malformed
          refine .inl ⟨fun _ _ _ => ⟨?_,?_⟩,false,rfl,off⟩
          · rw [malformed]
            exact fun deep => by cases deep
          · intro key read
            rw [malformed] at read
            cases read
        · rename_i deep
          exact .inr ⟨fun unhindered => (unhindered reached.1 reached.2 given).1 deep,_,rfl,off⟩
        · rename_i key read
          have decoded : decode host.py (keyText w.environ) ≠ .recursionError := by
            rw [read]
            exact fun deep => by cases deep
          split
          · rename_i account
            have exact_ : Unhindered host w.environ ↔ Saves host key := by
              constructor
              · exact fun unhindered => (unhindered reached.1 reached.2 given).2 key read account
              · intro saves _ _ _
                refine ⟨decoded,fun other again _ => ?_⟩
                rw [read] at again
                cases again
                exact saves
            rw [exact_]
            exact save_outcome rfl
          · rename_i other
            refine .inl ⟨fun _ _ _ => ⟨decoded,fun found again account => ?_⟩,false,rfl,off⟩
            rw [read] at again
            cases again
            exact absurd account other

-- configure() keeps its promise on exactly these hosts; where it raises, at least all
-- is left off.
theorem configure_exact (host : Host) (w : World) :
    (Returns w.environ (configure host w) ↔ Unhindered host w.environ) ∧
      (¬ Unhindered host w.environ → Raises w.environ (configure host w)) := by
  rcases configure_outcome host w with ⟨unhindered,returns⟩ | ⟨hindered,raises⟩
  · exact ⟨⟨fun _ => unhindered,fun _ => returns⟩,fun hindered => absurd unhindered hindered⟩
  · exact ⟨⟨fun returns => absurd raises (returns_not_raises returns),fun unhindered => absurd unhindered hindered⟩,
      fun _ => raises⟩

-- What is written is the key as it was read, each field of an object once, and the
-- library reads a service-account key from it.
theorem account_dict (account : isServiceAccount key = true) : isServiceAccount (reread py (dictOf key)) = true := by
  cases key with
  | obj fields =>
    rw [isServiceAccount,isText_exact] at account
    cases found : get fields "type" with
    | none =>
      rw [found] at account
      cases account
    | some value =>
      rw [found] at account
      obtain rfl : value = .str "service_account" := account
      rw [dictOf,reread,rereadFields_map,isServiceAccount,isText_exact,get_map,get_dict,found]
      rfl
  | _ => cases account

theorem keyFile_reads (read : loads py text = some key) (account : isServiceAccount key = true) :
    (loads py (keyFile py key)).any isServiceAccount = true := by
  have fits : Fits py.recursionLimit (dictOf key) := dictOf_fits (loads_fits read)
  rw [keyFile,loads_dumps fits]
  exact account_dict account

def Handed (py : Interpreter) (w : World) : Prop :=
  ∃ path key, w.environ "LOGSTORE_KEY_FILE" = some path ∧ w.files.lookup path = some (keyFile py key) ∧
    DistinctKeys (dictOf key) ∧ (loads py (keyFile py key)).any isServiceAccount = true

theorem save_hands {w : World} (saved : (save host w key).2 = .ok true) :
    ∃ path, (save host w key).1.environ "LOGSTORE_KEY_FILE" = some path ∧
      (save host w key).1.files.lookup path = some (keyFile host.py key) := by
  unfold save at saved ⊢
  split at saved
  · cases saved
  · rename_i path made
    split at saved
    · cases saved
    · dsimp only at saved ⊢
      split at saved
      · cases saved
      · refine ⟨path,by simp [World.set],?_⟩
        simp [World.set,PythonDict.lookup_put]

-- Where the decision is to log, the file that is named holds such a key.
theorem configure_hands (on : (configure host w).2 = .ok true) : Handed host.py (configure host w).1 := by
  unfold configure at on ⊢
  dsimp only at on ⊢
  split_ifs at on ⊢
  · cases on
  · cases on
  · cases on
  · cases read : decode host.py (keyText w.environ) with
    | valueError =>
      rw [read] at on
      cases on
    | recursionError =>
      rw [read] at on
      cases on
    | value key =>
      rw [read] at on
      dsimp only at on ⊢
      split_ifs at on ⊢ with account
      · obtain ⟨path,named,held⟩ := save_hands on
        exact ⟨path,key,named,held,dictOf_distinct key,keyFile_reads (decode_value.mp read) account⟩
      · cases on

-- A key that is switched on and only nests too deep, and a good one on a host where
-- no temporary file can be made.
def keyed (key : String) : World :=
  ⟨fun name => if name = "LOGSTORE_ENABLED" then some "1" else if name = "LOGSTORE_KEY_JSON" then some key else none,[],[]⟩

def sampleHost (mkstemp : Except OSError String) : Host := ⟨verbatim,true,mkstemp,fun _ _ => none,fun _ => none⟩

def nestedKey : String := String.ofList (List.replicate (verbatim.recursionLimit + 1) '[')
def accountKey : Json := .obj [("type",.str "service_account")]

theorem keyed_raises (plain : strip key = key) (given : key ≠ "") (library : host.library = true)
    (fails : decode host.py key = .recursionError ∨
      ∃ v, decode host.py key = .value v ∧ isServiceAccount v = true ∧ ¬ Saves host v) :
    ¬ Returns (keyed key).environ (configure host (keyed key)) := by
  have hindered : ¬ Unhindered host (keyed key).environ := by
    intro unhindered
    have one : strip "1" = "1" := by decide
    have on : switchedOn (keyed key).environ = true := beq_iff_eq.mpr one
    have text : keyText (keyed key).environ = key := plain
    have reached := unhindered on library (by rw [text]; exact given)
    rw [text] at reached
    rcases fails with deep | ⟨v,read,account,failing⟩
    · exact reached.1 deep
    · exact failing (reached.2 v read account)
  rcases configure_outcome host (keyed key) with ⟨unhindered,_⟩ | ⟨_,raises⟩
  · exact absurd unhindered hindered
  · exact fun returns => returns_not_raises returns raises

theorem configure_raises : ¬ Returns (keyed nestedKey).environ (configure (sampleHost (.ok "/tmp/key")) (keyed nestedKey)) ∧
    ¬ Returns (keyed (dumps verbatim ⟨true,true⟩ accountKey)).environ
      (configure (sampleHost (.error ⟨28⟩)) (keyed (dumps verbatim ⟨true,true⟩ accountKey))) := by
  constructor
  · have plain : strip nestedKey = nestedKey := by
      refine strip_spaceless fun c member => ?_
      rw [nestedKey,String.toList_ofList] at member
      rw [List.eq_of_mem_replicate member]
      decide
    have given : nestedKey ≠ "" := by
      intro empty
      have size := congrArg String.length empty
      rw [nestedKey,String.length_ofList,List.length_replicate] at size
      cases size
    exact keyed_raises plain given rfl (.inl (deep_text verbatim))
  · have read : decode verbatim (dumps verbatim ⟨true,true⟩ accountKey) = .value accountKey := by
      have fits : Fits verbatim.recursionLimit accountKey := by
        refine .obj fun field member => ?_
        rw [List.mem_singleton.mp member]
        exact .str
      rw [decode_value,loads_dumps fits]
      rfl
    refine keyed_raises (by decide) (by decide) rfl (.inr ⟨accountKey,read,by decide,?_⟩)
    rintro ⟨path,made,_⟩
    cases made

end AidaAgent.Logstore
