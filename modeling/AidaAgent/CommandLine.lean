import AidaAgent.Deployment
import AidaAgent.Logstore

namespace AidaAgent.CommandLine
open JsonText PythonText Config PlatformConfig Logstore Deployment

-- What a start of the program meets: the store, the host of the private key file, int()
-- where it returns, json.dumps(BUILD_INFO), the version of the SDK, and sys.argv[0].
structure Machine where
  printer : Printer
  python : Python
  store : Server
  host : Host
  int : String → Option Int
  buildInfo : String
  sdk : String
  program : String

-- `lines` are those of print(), to either stream.
structure Process where
  world : World
  lines : List String

def Process.print (p : Process) (line : String) : Process := {p with lines := p.lines ++ [line]}
def Process.set (p : Process) (environ : Environ) : Process := {p with world := {p.world with environ}}

-- The exceptions that end a start. The first is SystemExit.
inductive Ending where
  | exits (message : String)
  | invalid (e : InvalidConfiguration)
  | failed (e : Failure)
  | logstore (e : Raised)
  | runtimeError (message : String)

-- What cli.run_app is given, and whether the log store watches it.
structure AgentServer where
  agentName : String
  statusHost : String
  statusPort : Int
  watched : Bool
  deriving DecidableEq, Repr

inductive Outcome where
  | done
  | previews (arguments : List String)
  | runs (server : AgentServer)

def applyPlatformConfig (m : Machine) (arguments : List String) (fuel : Nat) (p : Process) :
    Option (Process × Except Ending Unit) :=
  if "--help" ∈ arguments ∨ "-h" ∈ arguments then some (p,.ok ())
  else
    (PlatformConfig.apply m.printer m.store osHolds p.world.environ fuel).map fun applied =>
      match applied with
      | (.ok names,environ) =>
        ((p.set environ).print ("[settings] PlatformConfig applied: " ++
          if names = [] then "no rows" else ", ".intercalate names),.ok ())
      | (.error (.unavailable message),_) =>
        if arguments.head? = some "preview" then
          (p.print ("[settings] PlatformConfig unavailable, reporting the environment as is: " ++ message),.ok ())
        else (p,.error (.exits ("[settings] Cannot start: " ++ message)))
      | (.error e,environ) => (p.set environ,.error (.failed e))

def requiredSettings : List String := ["LIVEKIT_URL","LIVEKIT_API_KEY","LIVEKIT_API_SECRET"]

def isNameChar (c : Char) : Bool := isAlphanumeric c || c = '_' || c = '-'

def statusPort (m : Machine) (env : Environ) : Option Int :=
  (m.int (read env "AIDA_STATUS_PORT" "8082")).filter fun port => decide (1 ≤ port ∧ port ≤ 65535 ∧ port ≠ 8081)

def makeServer (m : Machine) (env : Environ) : Except Ending AgentServer :=
  let agentName := read env "LIVEKIT_AGENT_NAME" "aida-prime"
  if fullMatch isNameChar 1 64 agentName then
    match statusPort m env with
    | none => .error (.invalid ⟨"AIDA_STATUS_PORT must be 1-65535 and differ from SDK port 8081"⟩)
    | some statusPort =>
      if m.sdk ≠ "1.8.0" then
        .error (.runtimeError "Review the worker status adapter before upgrading livekit-agents")
      else .ok ⟨agentName,read env "AIDA_STATUS_HOST" "0.0.0.0",statusPort,enabled env⟩
  else .error (.invalid ⟨"invalid LIVEKIT_AGENT_NAME"⟩)

-- The checks of main() before the log store is configured.
def checkSettings (m : Machine) (env : Environ) : Except Ending Unit :=
  match DeploymentConfiguration.fromEnv env with
  | .error e => .error (.exits e.message)
  | .ok _ =>
    match BootstrapConfiguration.fromEnv m.python env with
    | .error e => .error (.exits e.message)
    | .ok _ =>
      match requiredSettings.find? fun key => isBlank (read env key "") with
      | some key => .error (.exits ("deployment setting " ++ key ++ " is required (PlatformConfig app=aida)"))
      | none => .ok ()

def registers (m : Machine) (arguments : List String) : Bool :=
  (arguments.any fun arg => arg = "start" || arg = "dev") && !(m.program :: arguments).contains "--help"

-- worker.main()
def workerMain (m : Machine) (arguments : List String) (p : Process) : Process × Except Ending AgentServer :=
  if registers m arguments then
    match checkSettings m p.world.environ with
    | .error e => (p,.error e)
    | .ok _ =>
      match configure m.host p.world with
      | (world,.error e) => ({p with world},.error (.logstore e))
      | (world,.ok _) => ({p with world},makeServer m world.environ)
  else (p,makeServer m p.world.environ)

def zoned (env : Environ) : Environ :=
  if read env "TZ" "" = "" then Function.update env "TZ" (some "America/Los_Angeles") else env

-- cli.main(), after the time zone.
def start (m : Machine) (arguments : List String) (fuel : Nat) (p : Process) : Option (Process × Except Ending Outcome) :=
  if arguments = ["version"] ∨ arguments = ["--version"] then some (p.print m.buildInfo,.ok .done)
  else
    (applyPlatformConfig m arguments fuel p).map fun applied =>
      match applied with
      | (p,.error e) => (p,.error e)
      | (p,.ok _) =>
        if arguments.head? = some "preview" then (p,.ok (.previews arguments.tail))
        else ((workerMain m arguments p).1,(workerMain m arguments p).2.map .runs)

def main (m : Machine) (arguments : List String) (fuel : Nat) (env : Environ) : Option (Process × Except Ending Outcome) :=
  start m arguments fuel ⟨⟨zoned env,[],[]⟩,[]⟩

end AidaAgent.CommandLine
