import AidaAgent.Library.UrlSplit
import AidaAgent.PlatformConfig
import AidaAgent.WorkerCredential

namespace AidaAgent.Deployment
open JsonText PythonText Config PlatformConfig UrlSplit

-- float()
inductive Number where
  | finite (value : ℚ)
  | infinity | negInfinity | nan
  deriving DecidableEq

-- What the settings are read with. `float` is none where it raises.
structure Python where
  unicode : Unicode
  float : String → Option Number

-- env.get(name,default)
def read (env : Environ) (name default : String) : String := (env name).getD default

structure BootstrapConfiguration where
  baseUrl : String
  routeTokenAttribute : String
  timeoutSeconds : ℚ
  deriving DecidableEq

def https : List Char := "https".toList

-- The conditions of the try block. A ValueError is false.
def isOrigin (py : Python) (base : String) : Bool :=
  match urlsplit py.unicode base.toList with
  | none => false
  | some url =>
    url.scheme == https && (url.hostname py.unicode).any (· ≠ []) && url.port.any (· ≠ some 0) &&
      url.userinfo == (none,none) && !base.toList.contains '?' && !base.toList.contains '#' && url.path == []

-- not (c.isspace() or ord(c) < 32 or ord(c) == 127)
def isPlain (c : Char) : Bool := !isSpace c && decide (32 ≤ c.toNat) && c.toNat ≠ 127

def reserved : List (List Char) := ["example".toList,"example.com".toList,"example.net".toList,"example.org".toList]

def endsReserved (host : List Char) : Bool := reserved.any fun name => host == name || ('.' :: name).isSuffixOf host

-- re.search of (^|\.)example(\.(com|net|org))?$, whose end is also before a last newline.
def isPlaceholder (host : List Char) : Bool :=
  endsReserved host || (host.getLast? == some '\n' && endsReserved host.dropLast)

def stripDots (text : List Char) : List Char := (text.reverse.dropWhile (· = '.')).reverse

-- url.hostname.lower().rstrip(".")
def hostOf (py : Python) (url : Parts) : List Char := stripDots (py.unicode.lower ((url.hostname py.unicode).getD []))

def isAttributeChar (c : Char) : Bool := isAlphanumeric c || c = '_' || c = '.' || c = '-'

def bootstrapTimeout (py : Python) (env : Environ) : Checked ℚ :=
  match py.float (read env "AIDA_BOOTSTRAP_TIMEOUT_SECONDS" "30") with
  | some (.finite seconds) => if 1 ≤ seconds ∧ seconds ≤ 60 then .ok seconds else refuse "invalid bootstrap timeout"
  | _ => refuse "invalid bootstrap timeout"

def BootstrapConfiguration.fromEnv (py : Python) (env : Environ) : Checked BootstrapConfiguration := do
  let base := stripSlashes (read env "OFFICEPULSE_API_BASE_URL" "")
  require (isOrigin py base && base.toList.all isPlain) "OFFICEPULSE_API_BASE_URL must be an HTTPS origin"
  require (!(urlsplit py.unicode base.toList).any fun url => isPlaceholder (hostOf py url))
    "OFFICEPULSE_API_BASE_URL is a placeholder"
  let routeToken := read env "AIDA_ROUTE_TOKEN_ATTRIBUTE" ""
  require (fullMatch isAttributeChar 1 128 routeToken) "AIDA_ROUTE_TOKEN_ATTRIBUTE is required"
  let timeout ← bootstrapTimeout py env
  return ⟨base,routeToken,timeout⟩

structure DeploymentConfiguration where
  sttModel : String
  llmModel : String
  ttsModel : String
  ttsVoice : String
  deriving DecidableEq, Repr

-- The local function `setting` of DeploymentConfiguration.from_env.
def deploymentSetting (env : Environ) (name : String) : Checked String := do
  let value := strip (read env name "")
  require (value ≠ "" && decide (value.length ≤ 256) && !value.toList.any isSpace)
    ("deployment setting " ++ name ++ " is required")
  return value

def DeploymentConfiguration.fromEnv (env : Environ) : Checked DeploymentConfiguration := do
  let sttModel ← deploymentSetting env "AIDA_STT_MODEL"
  let llmModel ← deploymentSetting env "AIDA_LLM_MODEL"
  let ttsModel ← deploymentSetting env "AIDA_TTS_MODEL"
  let ttsVoice ← deploymentSetting env "AIDA_TTS_VOICE"
  return ⟨sttModel,llmModel,ttsModel,ttsVoice⟩

def partsOf (authority : List Char) : Parts := ⟨https,authority,[],[],[]⟩

-- What the base address is, in the terms of a URL: https, an authority that names a host
-- and maybe a port, and nothing else.
structure Origin (py : Python) (base : String) (authority : List Char) : Prop where
  written : ∃ scheme, Scheme scheme ∧ scheme.map Char.toLower = https ∧ base.toList = scheme ++ separator ++ authority
  netloc : Netloc py.unicode authority
  plain : ∀ c ∈ base.toList, isPlain c = true
  anonymous : '@' ∉ authority
  host : ∃ host, (partsOf authority).hostname py.unicode = some host ∧ host ≠ []
  genuine : isPlaceholder (hostOf py (partsOf authority)) = false
  port : (partsOf authority).port = some none ∨ ∃ number, (partsOf authority).port = some (some number) ∧ 0 < number

theorem plain_large (plain : isPlain c = true) : 32 < c.toNat := by
  simp only [isPlain,Bool.and_eq_true,decide_eq_true_eq,Bool.not_eq_true'] at plain
  obtain ⟨⟨visible,large⟩,_⟩ := plain
  rcases Nat.lt_or_eq_of_le large with more | same
  · exact more
  · have space : isSpace c = true := by
      simp [isSpace,← same]
    cases space.symm.trans visible

theorem userinfo_none {p : Parts} : p.userinfo = (none,none) ↔ '@' ∉ p.netloc := by
  rw [← splitLast_none]
  unfold Parts.userinfo
  split
  · rename_i absent
    rw [absent]
    simp
  · rename_i found
    rw [found]
    simp

-- Where an origin is written, urlsplit finds it.
theorem Origin.splits (origin : Origin py base authority) : urlsplit py.unicode base.toList = some (partsOf authority) := by
  obtain ⟨scheme,valid,lowered,whole⟩ := origin.written
  have plain : ∀ c ∈ scheme ++ separator ++ authority ++ [], 32 < c.toNat := by
    intro c member
    rw [List.append_nil,← whole] at member
    exact plain_large (origin.plain c member)
  have built := urlsplit_built valid origin.netloc (.inl rfl) ⟨List.not_mem_nil,List.not_mem_nil⟩ plain
  rw [List.append_nil,← whole,lowered] at built
  exact built

theorem separator_unmarked : '#' ∉ separator ∧ '?' ∉ separator := by decide

theorem scheme_unmarked {written : List Char} (scheme : Scheme written) : '#' ∉ written ∧ '?' ∉ written := by
  constructor
  · intro member
    have sharp := scheme.chars '#' member
    revert sharp
    decide
  · intro member
    have mark := scheme.chars '?' member
    revert mark
    decide

theorem netloc_unmarked (valid : Netloc unicode netloc) : '#' ∉ netloc ∧ '?' ∉ netloc ∧ '/' ∉ netloc := by
  refine ⟨?_,?_,?_⟩ <;>
  · intro member
    have marked := valid.undelimited _ member
    revert marked
    decide

theorem Origin.unmarked (origin : Origin py base authority) : '#' ∉ base.toList ∧ '?' ∉ base.toList := by
  obtain ⟨scheme,valid,_,whole⟩ := origin.written
  have first := scheme_unmarked valid
  have last := netloc_unmarked origin.netloc
  have middle := separator_unmarked
  rw [whole]
  simp only [List.mem_append,not_or]
  exact ⟨⟨⟨first.1,middle.1⟩,last.1⟩,⟨first.2,middle.2⟩,last.2.1⟩

theorem port_positive {p : Parts} : p.port.any (· ≠ some 0) = true ↔
    p.port = some none ∨ ∃ number, p.port = some (some number) ∧ 0 < number := by
  cases p.port with
  | none => simp
  | some port =>
    cases port with
    | none => simp
    | some number => simp [Nat.pos_iff_ne_zero]

-- What passes the checks of from_env is an origin, and every origin passes.
theorem origin_exact : (isOrigin py base && base.toList.all isPlain) = true ∧
    (urlsplit py.unicode base.toList).any (fun url => isPlaceholder (hostOf py url)) = false ↔
      ∃ authority, Origin py base authority := by
  constructor
  · rintro ⟨checked,genuine⟩
    rw [Bool.and_eq_true,List.all_eq_true] at checked
    obtain ⟨accepted,plain⟩ := checked
    unfold isOrigin at accepted
    split at accepted
    · cases accepted
    · rename_i url split_
      simp only [Bool.and_eq_true,beq_iff_eq,Bool.not_eq_true',List.contains_eq_mem,decide_eq_false_iff_not] at accepted
      obtain ⟨⟨⟨⟨⟨⟨scheme,host⟩,port⟩,user⟩,unasked⟩,unsharp⟩,path⟩ := accepted
      have named : ∃ host, url.hostname py.unicode = some host ∧ host ≠ [] := by
        cases known : url.hostname py.unicode with
        | none => simp [known] at host
        | some host' => exact ⟨host',rfl,by simpa [known] using host⟩
      have located : url.netloc ≠ [] := by
        intro nowhere
        obtain ⟨host',known,_⟩ := named
        rw [Parts.hostname,Parts.hostinfo,nowhere] at known
        cases known
      obtain ⟨written,valid,netloc,whole,lowered⟩ := urlsplit_origin (fun c member => plain_large (plain c member))
        ⟨unsharp,unasked⟩ split_ (by rw [scheme]; decide) located path
      have same : url.hostname py.unicode = (partsOf url.netloc).hostname py.unicode ∧
          url.port = (partsOf url.netloc).port ∧ hostOf py url = hostOf py (partsOf url.netloc) := ⟨rfl,rfl,rfl⟩
      refine ⟨url.netloc,⟨written,valid,lowered.symm.trans scheme,whole⟩,netloc,plain,userinfo_none.mp user,?_,?_,?_⟩
      · rw [← same.1]
        exact named
      · rw [← same.2.2]
        simpa [split_] using genuine
      · rw [← same.2.1]
        exact port_positive.mp port
  · rintro ⟨authority,origin⟩
    have split_ := origin.splits
    obtain ⟨unsharp,unasked⟩ := origin.unmarked
    obtain ⟨host,known,some_⟩ := origin.host
    refine ⟨?_,?_⟩
    · rw [Bool.and_eq_true,List.all_eq_true]
      refine ⟨?_,origin.plain⟩
      unfold isOrigin
      rw [split_]
      have port := port_positive.mpr origin.port
      have user : (partsOf authority).userinfo = (none,none) := userinfo_none.mpr origin.anonymous
      have named : ((partsOf authority).hostname py.unicode).any (· ≠ []) = true := by simp [known,some_]
      simp only [Bool.and_eq_true,beq_iff_eq,Bool.not_eq_true',List.contains_eq_mem,decide_eq_false_iff_not]
      exact ⟨⟨⟨⟨⟨⟨rfl,named⟩,port⟩,user⟩,unasked⟩,unsharp⟩,rfl⟩
    · rw [split_]
      exact origin.genuine

end AidaAgent.Deployment
