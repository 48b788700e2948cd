import AidaAgent.Library.PythonValues
import AidaAgent.Library.UrlSplit
import AidaAgent.Config

namespace AidaAgent.PlatformConfig
open JsonText PythonText UrlSplit Config

def baseName : String := "PlatformConfig"
def tableName : String := "cfg_tbl_Setting"
def scopes : List String := ["*","aida","aida-agent"]

def settingKeys : List String :=
  ["LIVEKIT_URL","LIVEKIT_API_KEY","LIVEKIT_API_SECRET","LIVEKIT_AGENT_NAME",
   "LIVEKIT_INFERENCE_API_KEY","LIVEKIT_INFERENCE_API_SECRET",
   "OFFICEPULSE_API_BASE_URL","AIDA_ROUTE_TOKEN_ATTRIBUTE","AIDA_BOOTSTRAP_TIMEOUT_SECONDS",
   "AIDA_STT_MODEL","AIDA_LLM_MODEL","AIDA_TTS_MODEL","AIDA_TTS_VOICE",
   "LOGSTORE_ENABLED","LOGSTORE_KEY_JSON","LIVEKIT_TELEMETRY_ALLOW_PII"]

def pageSize : Nat := 200

-- SettingsUnavailable, or another exception: of Python itself on a malformed answer, of
-- Request() or an environment that refuse a text, or of urlopen() and json.load() where
-- _api does not catch it.
inductive Failure where
  | unavailable (message : String)
  | attributeError
  | keyError
  | valueError
  | httpException
  | recursionError
  deriving DecidableEq, Repr

abbrev Row := List (String × Json)
abbrev Values := List (String × String)

-- What one GET comes to: an HTTP error status, no answer that can be read, the document
-- that json.load returns, or an exception that is none of those _api expects: InvalidURL,
-- IncompleteRead and their like, or a document that is nested too deeply.
inductive Reply where
  | status (code : Nat)
  | unreachable
  | document (payload : Json)
  | httpException
  | recursionError

-- What answers a request, by URL and API token, and what urllib goes by.
structure Server where
  unicode : Unicode
  answer : String → String → Reply

-- The document and its record list. Request() stands before the try block.
def api (server : Server) (base token path : String) : Except Failure (Row × List Json) :=
  if requestable server.unicode (base ++ path).toList then
    match server.answer (base ++ path) token with
    | .status code => .error (.unavailable ("NocoDB request failed (" ++ code.repr ++ ")"))
    | .unreachable => .error (.unavailable "NocoDB could not be reached")
    | .httpException => .error .httpException
    | .recursionError => .error .recursionError
    | .document (.obj payload) =>
      match get payload "list" with
      | some (.arr items) => .ok (payload,items)
      | _ => .error (.unavailable "NocoDB returned an invalid record list")
    | .document _ => .error (.unavailable "NocoDB returned an invalid record list")
  else .error .valueError

-- [b for b in items if b.get("title") == name]
def titled (name : String) : List Json → Except Failure (List Row)
  | [] => .ok []
  | .obj fields :: rest => do
    let found ← titled name rest
    return if isText ((get fields "title").getD .null) name then fields :: found else found
  | _ :: _ => .error .attributeError

def basesPath : String := "/api/v2/meta/bases"
def tablesPath (base : String) : String := "/api/v2/meta/bases/" ++ base ++ "/tables"
def recordsPath (table : String) (offset : Nat) : String :=
  "/api/v2/tables/" ++ table ++ "/records?limit=" ++ pageSize.repr ++ "&offset=" ++ offset.repr

def idOf (py : Printer) (fields : Row) : Except Failure String :=
  match get fields "id" with
  | some id => .ok (strOf py id)
  | none => .error .keyError

def tableId (py : Printer) (server : Server) (base token : String) : Except Failure String := do
  let (_,items) ← api server base token basesPath
  match ← titled baseName items with
  | [found] =>
    let (_,items) ← api server base token (tablesPath (← idOf py found))
    match ← titled tableName items with
    | [table] => idOf py table
    | tables => .error (.unavailable
        ("Expected one " ++ tableName ++ " table in " ++ baseName ++ ", found " ++ tables.length.repr))
  | bases => .error (.unavailable ("Expected one NocoDB base named " ++ baseName ++ ", found " ++ bases.length.repr))

-- The pair that a row claims for itself, where its scope is read at all.
def scopedKey (row : Row) : Option (String × String) :=
  match get row "app",get row "settingKey" with
  | some (.str app),some (.str key) => if app ∈ scopes ∧ isBlank key = false then some (app,key) else none
  | _,_ => none

def checkRows : List (String × String) → List Json → Except Failure Unit
  | _,[] => .ok ()
  | seen,.obj row :: rest =>
    match scopedKey row with
    | none => checkRows seen rest
    | some (app,key) =>
      if (app,key) ∈ seen then .error (.unavailable ("duplicate PlatformConfig setting " ++ app ++ "/" ++ key))
      else checkRows ((app,key) :: seen) rest
  | _,_ :: _ => .error .attributeError

-- The setting a row gives to one scope, and its value where that is not blank.
def settingValue (py : Printer) (row : Row) : Option String :=
  match get row "settingValue" with
  | none | some .null => none
  | some raw => if isBlank (strOf py raw) then none else some (strip (strOf py raw))

def setting (py : Printer) (scope : String) (row : Row) : Option (String × String) :=
  match get row "app",get row "settingKey" with
  | some (.str app),some (.str key) =>
    if app = scope ∧ key ∈ settingKeys then (settingValue py row).map fun value => (key,value) else none
  | _,_ => none

def settle (py : Printer) (scope : String) (values : Values) : Json → Values
  | .obj row =>
    match setting py scope row with
    | some (key,value) => PythonDict.put values key value
    | none => values
  | _ => values

def resolve (py : Printer) (rows : List Json) : Except Failure Values := do
  checkRows [] rows
  return scopes.foldl (fun values scope => rows.foldl (settle py scope) values) []

-- (page.get("pageInfo") or {}).get("isLastPage") is True
def isLastPage (py : Printer) (page : Row) : Except Failure Bool :=
  match get page "pageInfo" with
  | none => .ok false
  | some info =>
    if truthy py.toInterpreter info then
      match info with
      | .obj fields =>
        match get fields "isLastPage" with
        | some (.bool true) => .ok true
        | _ => .ok false
      | _ => .error .attributeError
    else .ok false

-- The loop of fetch(). The fuel bounds the number of requests.
def readRows (py : Printer) (server : Server) (base token table : String) :
    Nat → Nat → List Json → Option (Except Failure (List Json))
  | 0,_,_ => none
  | fuel+1,offset,rows =>
    match api server base token (recordsPath table offset) with
    | .error e => some (.error e)
    | .ok (page,items) =>
      if items.length < pageSize then some (.ok (rows ++ items))
      else
        match isLastPage py page with
        | .error e => some (.error e)
        | .ok true => some (.ok (rows ++ items))
        | .ok false => readRows py server base token table fuel (offset + pageSize) (rows ++ items)

abbrev Environ := String → Option String

def origin (env : Environ) : String := stripSlashes (strip ((env "NOCODB_BASE_URL").getD ""))
def apiToken (env : Environ) : String := strip ((env "NOCODB_API_TOKEN").getD "")

def fetch (py : Printer) (server : Server) (env : Environ) (fuel : Nat) : Option (Except Failure Values) :=
  if origin env = "" ∨ apiToken env = "" then
    some (.error (.unavailable "NOCODB_BASE_URL and NOCODB_API_TOKEN are required"))
  else
    match tableId py server (origin env) (apiToken env) with
    | .error e => some (.error e)
    | .ok table => (readRows py server (origin env) (apiToken env) table fuel 0 []).map (· >>= resolve py)

-- environ.pop of every setting
def popSettings (env : Environ) : Environ := fun key => if key ∈ settingKeys then none else env key

-- environ.update, and whether it comes to its end. An environment may refuse a value with a
-- ValueError, as os.environ does one with a NUL.
def update (holds : String → Bool) (env : Environ) : Values → Bool × Environ
  | [] => (true,env)
  | (key,value) :: rest =>
    if holds value then update holds (Function.update env key (some value)) rest else (false,env)

def osHolds (value : String) : Bool := value.toList.all fun c => c.toNat ≠ 0

def applyTo (holds : String → Bool) (env : Environ) : Except Failure Values → Except Failure (List String) × Environ
  | .error e => (.error e,env)
  | .ok values =>
    match update holds (popSettings env) values with
    | (false,env) => (.error .valueError,env)
    | (true,env) => (.ok ((PythonDict.keys values).mergeSort (· ≤ ·)),env)

def apply (py : Printer) (server : Server) (holds : String → Bool) (env : Environ) (fuel : Nat) :
    Option (Except Failure (List String) × Environ) := (fetch py server env fuel).map (applyTo holds env)

end AidaAgent.PlatformConfig
