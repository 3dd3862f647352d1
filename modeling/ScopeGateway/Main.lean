import ScopeGateway.CommandLine.Run
import ScopeGateway.Gateway.LogLine
import ScopeGateway.Server.Accept
import ScopeGateway.Server.Metrics

/-!
The program: settings from a file and the arguments, and a gateway that serves until it is asked to
stop.
-/
namespace ScopeGateway.CommandLine

open Std.Async
open Server
open Text.Utf8 (Bytes)

def usageText : String :=
  "Usage: " ++ programName ++ " [OPTIONS]\n\n" ++
  "  -c, --config <CONFIG>      settings in TOML (all have stock values)\n" ++
  "      --bind <BIND>          the address to listen on\n" ++
  "      --upstream <UPSTREAM>  the URL of the server behind the gateway\n" ++
  "      --check                check the settings and exit\n" ++
  "  -h, --help                 print this text\n" ++
  "  -V, --version              print the version"

def errorText : StartError → String
  | .notAnAddress text => "invalid address '" ++ text ++ "'"
  | .settings .unreadable => "the settings cannot be read"
  | .settings .malformed => "the settings are malformed"
  | .settings (.faulty faults) => faultyMessage faults
  | .metricsBusy => "failed to start metrics exporter"
  | .unroutable path => "panicked at the route '" ++ path ++ "'"
  | .busy address => "failed to bind " ++ address.render

def printAside : Aside → IO UInt32
  | .help => do
    IO.println usageText
    return 0
  | .version => do
    IO.println versionLine
    return 0
  | .usage => do
    IO.eprintln usageText
    return 2

def failWith (e : StartError) : IO UInt32 := do
  IO.eprintln ("Error: " ++ errorText e)
  return UInt32.ofNat (exitCodeOf e)

def readFile? (path : String) : IO (Option Bytes) := do
  try
    return some (← IO.FS.readBinFile path).toList
  catch _ => return none

/-- What may fail to start. -/
abbrev Starting := ExceptT StartError IO

/-- Listens on an address, or fails with the error that stands for one in use. -/
def listenOr (e : StartError) (address : Net.SocketAddress) : Starting TCP.Socket.Server := do
  let .ok server ← (listen address).toBaseIO | throw e
  return server

def renderBound (server : TCP.Socket.Server) : IO String := do
  return (addressOfSystem (← server.getSockName)).render

/-- Shows the tally on the address of the metrics. -/
def showMetrics (log : Event → IO Unit) (tally : IO.Ref Tally) (address : Net.SocketAddress) :
    Starting Unit := do
  let server ← listenOr .metricsBusy address
  (background (showTally server tally) : Async Unit).block
  log (.metricsListening address.render)

/-- Starts as settings do, except that the system finds out which addresses are in use. -/
def serve (s : Settings) (log : Event → IO Unit) : Starting Unit := do
  let tally ← IO.mkRef ([] : Tally)
  let metrics ← s.startMetrics fun _ => false
  metrics.forM (showMetrics log tally)
  let (address, gateway) ← s.startServing (inUseBeside metrics fun _ => false)
  let server ← listenOr (.busy address) address
  let stop ← stopSignals.block
  log (.serving (← renderBound server) s)
  let desk : Desk := ⟨gateway, log, fun c => tally.modify (Tally.add · c)⟩
  (serveAll desk server stop).block
  log .finished

/-- Runs with settings that have been read. -/
def runSettings (s : Settings) (check : Bool) (filter : LogFilter) : IO UInt32 := do
  let log (e : Event) : IO Unit := do
    if filter.lets e then
      IO.println (e.logLine s.log.format)
      (← IO.getStdout).flush
  log .starting
  match s.check with
  | .error e => failWith (.settings e)
  | .ok _ =>
    if check then
      log .settingsValid
      return 0
    else
      match ← (serve s log).run with
      | .error e => failWith e
      | .ok _ => return 0

end ScopeGateway.CommandLine

open ScopeGateway ScopeGateway.CommandLine in
def main (args : List String) : IO UInt32 := do
  match parseArguments args (← IO.getEnv "SCOPE_PROXY_CONFIG") with
  | .error aside => printAside aside
  | .ok a =>
    let content ← a.config.elim (pure none) readFile?
    match a.settings fun _ => content with
    | .error e => failWith (.settings e)
    | .ok s => runSettings s a.check (logFilter s (← IO.getEnv "RUST_LOG"))
