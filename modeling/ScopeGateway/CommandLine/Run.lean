import ScopeGateway.CommandLine.Arguments
import ScopeGateway.Gateway.Event
import ScopeGateway.Gateway.Listening
import ScopeGateway.Gateway.LogFilter

/-!
A run of the program: which settings the arguments lead to, what is logged, and how it ends.
-/
namespace ScopeGateway.CommandLine

open Net
open Text.Utf8 (Bytes)

/-- What a run finds around it: the files, the addresses in use, and the form of an address once
it is bound. -/
structure Surroundings where
  file : String → Option Bytes
  inUse : SocketAddress → Bool
  bound : SocketAddress → String

/-- The arguments go before what the settings say. -/
def Arguments.override (a : Arguments) (s : Settings) : Settings :=
  { s with
    bindAddress := a.bind.getD s.bindAddress
    backendUrl := a.backend.getD s.backendUrl }

/-- The file's settings, or the stock ones if no file is named, under the arguments. -/
def Arguments.settings (a : Arguments) (file : String → Option Bytes) :
    Except SettingsError Settings := do
  let s ← a.config.elim (.ok {}) fun path => Settings.load (file path)
  return a.override s

/-- What a run has logged, filter apart, and the error that ended it, if one did. -/
structure Run where
  events : List Event
  error : Option StartError := none

/-- Serves until a signal comes. -/
def serveUntilSignal (s : Settings) (around : Surroundings) (early : List Event) : Run :=
  match s.startMetrics around.inUse with
  | .error e => ⟨early, some e⟩
  | .ok metrics =>
    let early := early ++ (metrics.map fun a => Event.metricsListening a.render).toList
    match s.startServing (inUseBeside metrics around.inUse) with
    | .error e => ⟨early, some e⟩
    | .ok (address, _) =>
      ⟨early ++ [.serving (around.bound address) s, .signalReceived, .draining, .stopped, .finished],
        none⟩

/-- Faulty settings end the run before anything is started; a mere check ends it if they are
sound. -/
def runWith (s : Settings) (check : Bool) (around : Surroundings) : Run :=
  match s.check with
  | .error e => ⟨[.starting], some (.settings e)⟩
  | .ok _ =>
    if check then ⟨[.starting, .settingsValid], none⟩
    else serveUntilSignal s around [.starting]

/-- The variable in the environment that filters the log goes before the settings' level, unless
it is no filter. -/
def logFilter (s : Settings) (logVariable : Option String) : LogFilter :=
  (logVariable.bind LogFilter.parse?).getD (LogFilter.ofText s.log.level)

def versionLine : String := programName ++ " " ++ programVersion

/-- How the program ends. -/
inductive Outcome where
  | aside (a : Aside)
  | unreadable (e : SettingsError)
  | ran (run : Run) (format : LogFormat) (filter : LogFilter)

def outcome (args : List String) (configVariable logVariable : Option String)
    (around : Surroundings) : Outcome :=
  match parseArguments args configVariable with
  | .error a => .aside a
  | .ok a =>
    match a.settings around.file with
    | .error e => .unreadable e
    | .ok s => .ran (runWith s a.check around) s.log.format (logFilter s logVariable)

/-- The code that the program exits with. Breaking off has one of its own. -/
def exitCodeOf : StartError → Nat
  | .unroutable _ => 101
  | .notAnAddress _ | .settings _ | .metricsBusy | .busy _ => 1

namespace Outcome

def exitCode : Outcome → Nat
  | aside .usage => 2
  | aside _ => 0
  | unreadable e => exitCodeOf (.settings e)
  | ran run _ _ => run.error.elim 0 exitCodeOf

/-- The events that the filter lets through. -/
def log : Outcome → List Event
  | ran run _ filter => run.events.filter filter.lets
  | _ => []

end Outcome

end ScopeGateway.CommandLine
