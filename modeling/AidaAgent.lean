import AidaAgent.Library.Transitions
import AidaAgent.Library.JsonShape
import AidaAgent.Library.Uuid
import AidaAgent.Library.JsonSpan
import AidaAgent.Library.RecentKeys
import AidaAgent.Config
import AidaAgent.ProfileContract
import AidaAgent.Bootstrap
import AidaAgent.BootstrapBinding
import AidaAgent.Control
import AidaAgent.ControlSteps
import AidaAgent.ControlFrames
import AidaAgent.ControlTasks
import AidaAgent.ControlCommands
import AidaAgent.ControlAudio
import AidaAgent.ControlTakeover
import AidaAgent.ControlFailures
import AidaAgent.ControlSilence
import AidaAgent.BootstrapConformance
import AidaAgent.BootstrapAcceptance
import AidaAgent.Admission
import AidaAgent.Worker
import AidaAgent.WorkerSteps
import AidaAgent.WorkerGate
import AidaAgent.WorkerStartup
import AidaAgent.WorkerSilence
import AidaAgent.PlatformConfig
import AidaAgent.SettingsResolve
import AidaAgent.SettingsFetch
import AidaAgent.SettingsApply
import AidaAgent.Transcripts
import AidaAgent.TranscriptSegments
import AidaAgent.TranscriptBlanks
import AidaAgent.TranscriptPublisher
import AidaAgent.SipAdmission
import AidaAgent.SipAdmissionSteps
import AidaAgent.AdmissionAudio
import AidaAgent.AdmissionLeg
import AidaAgent.AdmissionWaking
import AidaAgent.Library.Revisions
import AidaAgent.Library.JsonDepth
import AidaAgent.TranscriptHistory
import AidaAgent.HistoryMerge
import AidaAgent.HistoryPages
import AidaAgent.Logstore
import AidaAgent.CallInstructions
import AidaAgent.DispatchGrammar
import AidaAgent.Library.Tally
import AidaAgent.WorkerStatus
import AidaAgent.SessionCounters
import AidaAgent.ServerReadiness
import AidaAgent.HistoryPrivacy
import AidaAgent.ControlClock
import AidaAgent.ControlDeadlines
import AidaAgent.WorkerTeardown
import AidaAgent.TeardownRule
import AidaAgent.LiveTranscript
import AidaAgent.LiveDelivery
import AidaAgent.LiveCatchUp
import AidaAgent.WorkerEndings
import AidaAgent.WorkerRequest
import AidaAgent.Entrypoint
import AidaAgent.EntrypointParts
import AidaAgent.EntrypointGate
import AidaAgent.EntrypointHandset
import AidaAgent.TranscriptShape
import AidaAgent.EntrypointLog
import AidaAgent.EntrypointTally
import AidaAgent.TranscriptWire
import AidaAgent.WorkerClosing
import AidaAgent.EntrypointClosing
import AidaAgent.WorkerCredential
import AidaAgent.Deployment
import AidaAgent.ServiceOrigin
import AidaAgent.CommandLine
import AidaAgent.CommandLineStart
import AidaAgent.CommandLineAmbient
import AidaAgent.CommandLineJobs
import AidaAgent.CallLifecycle
import AidaAgent.WorkerLifecycle
