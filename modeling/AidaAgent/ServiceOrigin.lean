import AidaAgent.Deployment

namespace AidaAgent.Deployment
open JsonText PythonText Config PlatformConfig UrlSplit

-- What from_env returns: an origin, the name of an attribute, and a timeout between one
-- second and a minute.
structure Configured (py : Python) (env : Environ) (config : BootstrapConfiguration) : Prop where
  base : config.baseUrl = stripSlashes (read env "OFFICEPULSE_API_BASE_URL" "")
  origin : ∃ authority, Origin py config.baseUrl authority
  routeToken : config.routeTokenAttribute = read env "AIDA_ROUTE_TOKEN_ATTRIBUTE" ""
  named : fullMatch isAttributeChar 1 128 config.routeTokenAttribute = true
  timeout : py.float (read env "AIDA_BOOTSTRAP_TIMEOUT_SECONDS" "30") = some (.finite config.timeoutSeconds)
  bounded : 1 ≤ config.timeoutSeconds ∧ config.timeoutSeconds ≤ 60

theorem timeout_exact : bootstrapTimeout py env = .ok seconds ↔
    py.float (read env "AIDA_BOOTSTRAP_TIMEOUT_SECONDS" "30") = some (.finite seconds) ∧ 1 ≤ seconds ∧ seconds ≤ 60 := by
  unfold bootstrapTimeout
  split
  · rename_i found known
    split
    · rename_i bounded
      constructor
      · intro same
        cases same
        exact ⟨known,bounded⟩
      · intro accepted
        cases Option.some.inj (known.symm.trans accepted.1)
        rfl
    · rename_i outside
      constructor
      · intro refused
        simp at refused
      · intro accepted
        cases Option.some.inj (known.symm.trans accepted.1)
        exact absurd accepted.2 outside
  · rename_i other
    constructor
    · intro refused
      simp at refused
    · intro accepted
      exact absurd accepted.1 (other seconds)

theorem fromEnv_exact : BootstrapConfiguration.fromEnv py env = .ok config ↔ Configured py env config := by
  simp only [BootstrapConfiguration.fromEnv,bind_ok,require_ok,pure_ok,timeout_exact,Bool.not_eq_true']
  constructor
  · intro made
    obtain ⟨_,checked,_,genuine,_,named,seconds,⟨known,bounded⟩,rfl⟩ := made
    exact ⟨rfl,origin_exact.mp ⟨checked,genuine⟩,rfl,named,known,bounded⟩
  · intro configured
    obtain ⟨base,origin,routeToken,named,known,bounded⟩ := configured
    rw [base] at origin
    obtain ⟨checked,genuine⟩ := origin_exact.mpr origin
    rw [routeToken] at named
    refine ⟨(),checked,(),genuine,(),named,config.timeoutSeconds,⟨known,bounded⟩,?_⟩
    rw [← base,← routeToken]

def callsPath : List Char := ['/','v','1','/','a','g','e','n','t','/','c','a','l','l','s','/']
def bootstrapPath : List Char := ['/','b','o','o','t','s','t','r','a','p']
def callPath (callId : String) : List Char := callsPath ++ callId.toList ++ bootstrapPath

theorem bootstrapUrl_chars (base callId : String) :
    (Bootstrap.bootstrapUrl base callId).toList = base.toList ++ callPath callId := by
  have front : "/v1/agent/calls/".toList = callsPath := rfl
  have back : "/bootstrap".toList = bootstrapPath := rfl
  simp only [Bootstrap.bootstrapUrl,callPath,String.toList_append,List.append_assoc,front,back]

-- A visible character that marks no query and no fragment.
def isPathChar (c : Char) : Bool := decide (32 < c.toNat) && c ≠ '#' && c ≠ '?'

theorem callPath_plain (canonical : Uuid.Canonical callId) : ∀ c ∈ callPath callId, isPathChar c = true := by
  obtain ⟨n,_,printed⟩ := canonical
  have digits : ∀ d, d < 16 → isPathChar (Nat.digitChar d) = true := by decide
  have front : callsPath.all isPathChar = true := by decide
  have back : bootstrapPath.all isPathChar = true := by decide
  intro c member
  rcases List.mem_append.mp member with early | late
  · rcases List.mem_append.mp early with first | own
    · exact List.all_eq_true.mp front c first
    · rw [← printed] at own
      rcases Uuid.print_mem own with rfl | ⟨d,small,rfl⟩
      · decide
      · exact digits d small
  · exact List.all_eq_true.mp back c late

-- The address of a call's POST is the origin with the path of the call, and nothing else.
theorem Origin.reaches (origin : Origin py base authority) (canonical : Uuid.Canonical callId) :
    urlsplit py.unicode (Bootstrap.bootstrapUrl base callId).toList = some ⟨https,authority,callPath callId,[],[]⟩ := by
  obtain ⟨scheme,valid,lowered,whole⟩ := origin.written
  have path := callPath_plain canonical
  have plain : ∀ c ∈ scheme ++ separator ++ authority ++ callPath callId, 32 < c.toNat := by
    intro c member
    rcases List.mem_append.mp member with front | own
    · rw [← whole] at front
      exact plain_large (origin.plain c front)
    · have visible := path c own
      simp only [isPathChar,Bool.and_eq_true,decide_eq_true_eq] at visible
      exact visible.1.1
  have slash : ∃ rest, callPath callId = '/' :: rest := ⟨_,rfl⟩
  have built := urlsplit_built valid origin.netloc (.inr slash)
    ⟨fun member => (by cases path _ member),fun member => (by cases path _ member)⟩ plain
  rw [bootstrapUrl_chars,whole,built,lowered]

-- from_env accepts exactly the configurations that name an origin, and whatever call is
-- dispatched then, its credential is posted to that origin, at the path of the call.
theorem service_origin (py : Python) (env : Environ) : ∀ config,
    (BootstrapConfiguration.fromEnv py env = .ok config ↔ Configured py env config) ∧
      (BootstrapConfiguration.fromEnv py env = .ok config → ∃ authority, Origin py config.baseUrl authority ∧
        ∀ interpreter metadata room d leg, DispatchConfiguration.parse interpreter metadata room = .ok d →
          urlsplit py.unicode (Bootstrap.bootstrapPost config.baseUrl d room leg).url.toList =
            some ⟨https,authority,callPath d.callId,[],[]⟩) := by
  intro config
  refine ⟨fromEnv_exact,fun made => ?_⟩
  obtain ⟨authority,origin⟩ := (fromEnv_exact.mp made).origin
  refine ⟨authority,origin,fun interpreter metadata room d leg dispatched => ?_⟩
  exact origin.reaches (Bootstrap.dispatch_parts dispatched).2.1

-- An interpreter for settings of ASCII, and a store of them with a final slash.
def asciiPython : Python := ⟨⟨fun _ => false,fun _ => false,(·.map Char.toLower)⟩,fun text => if text = "30" then some (.finite 30) else none⟩

def sampleSettings : Environ := fun key =>
  if key = "OFFICEPULSE_API_BASE_URL" then some "https://Pulse.test:8443/"
  else if key = "AIDA_ROUTE_TOKEN_ATTRIBUTE" then some "sip.routeToken"
  else none

theorem sample_configured : BootstrapConfiguration.fromEnv asciiPython sampleSettings =
    .ok ⟨"https://Pulse.test:8443","sip.routeToken",30⟩ := by
  apply fromEnv_exact.mpr
  exact ⟨by decide,origin_exact.mp ⟨by decide,by decide⟩,by decide,by decide,rfl,by norm_num,by norm_num⟩

theorem sample_service : ∃ authority, Origin asciiPython "https://Pulse.test:8443" authority := by
  obtain ⟨authority,origin,_⟩ := (service_origin asciiPython sampleSettings _).2 sample_configured
  exact ⟨authority,origin⟩

end AidaAgent.Deployment
