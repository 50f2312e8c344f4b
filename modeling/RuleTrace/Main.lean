import RuleTrace.CpuList
import RuleTrace.Metrics.Endpoint
import RuleTrace.Program
import RuleTrace.Text.Civil
import Std.Async.Signal
import Std.Async.TCP
import Std.Time.DateTime.Timestamp

/-!
# `RuleTrace.Main`: the program itself

The outer layer: it reads files and clocks, listens for clients and
signals, and writes lines. What to do is decided elsewhere; here an
agent is kept in a reference and its clock is moved
(`RuleTrace.Main.turn`), as time passes.
-/

set_option autoImplicit false

namespace RuleTrace.Main

open Std.Async (Async AsyncTask Signal)
open Std.Async.TCP (Socket.Server Socket.Client)

/-- The contents of a file, if it can be read. -/
def readFile? (path : String) : IO (Option (List UInt8)) := do
  try return some (← IO.FS.readBinFile path).toList
  catch _ => return none

/-- The number of cores that are online, at least one and at most as
many as there can be slots. `none` if counting them is an accident. -/
def detectCores : IO (Option Nat) := do
  let text ← readFile? "/sys/devices/system/cpu/online"
  match (text.bind Text.Utf8.decode?).map fun s => CpuList.count (Text.trim s) with
  | some (.counted n) => return some (slotCount n)
  | some .overflow => return none
  | _ => return some 1

/-- Nanoseconds since the start of 1970. -/
def wallNanos : IO Nat := do
  return (← Std.Time.Timestamp.now).toNanosecondsSinceUnixEpoch.val.toNat

/-- The text of the wall-clock time at which a steady clock showed a
time. -/
def stampNow : IO (UInt64 → String) := do
  let wall ← wallNanos
  let steady ← IO.monoNanosNow
  return fun time => String.ofList (Text.Civil.stamp (wall - (steady - time.toNat)))

/-- The processor on which this thread runs, zero if that is not
told. -/
def processorNow : IO Nat := do
  let text ← readFile? "/proc/thread-self/stat"
  let line := ((text.bind Text.Utf8.decode?).getD []).reverse.takeWhile (· != ')')
  -- The state of the thread comes after its name, and the processor 36 fields later.
  let field := (Text.splitOn ' ' line.reverse)[37]?
  return (field.bind fun digits => (String.ofList digits).toNat?).getD 0

/-- An agent that is alive, and where its lines go. -/
structure Session where
  agent : IO.Ref (Agent Float)
  sink : IO.FS.Stream

/-- Writes the lines of the agent that were not written yet. -/
def writeLines (s : Session) : IO Unit := do
  let g ← s.agent.get
  match g.parts with
  | none => return ()
  | some p =>
    for line in p.printer.sink.lines do
      s.sink.putStrLn (String.ofList line)
    s.agent.set (g.withParts fun p => { p with printer := { p.printer with sink := .empty } })

/-- Begins to read the recording. -/
def begin (s : Session) : IO Unit := do
  let stamp ← stampNow
  let processor ← processorNow
  s.agent.modify (Agent.proceed .binary64 stamp fun _ => processor)
  writeLines s

/-- Does what is due. -/
def turn (s : Session) : IO Unit := do
  let stamp ← stampNow
  let processor ← processorNow
  let time ← IO.monoNanosNow
  s.agent.modify (Agent.elapse .binary64 stamp (fun _ => processor) time)
  writeLines s

/-- Goes on until the recording is at its end. -/
partial def deliver (s : Session) : IO Unit := do
  let g ← s.agent.get
  if g.isReading then
    IO.sleep (.ofNat ((g.nextTime?.getD 0 - (← IO.monoNanosNow)) / Span.millisecond + 1))
    turn s
    deliver s

/-- Signals that were asked for. -/
structure Watch where
  hangup : Signal.Waiter
  ends : List (AsyncTask Int)

/-- Asks for the signals that matter. -/
def watch : IO Watch := do
  let once (signal : Signal) : IO (AsyncTask Int) := do
    (← Signal.Waiter.mk signal false).wait
  return ⟨← Signal.Waiter.mk .sighup true, [← once .sigint, ← once .sigterm]⟩

/-- Takes over the settings of the configuration file. -/
def reload (s : Session) (path : Option String) : IO Unit := do
  match path with
  | none => return ()
  | some path =>
    match Config.load (← readFile? path) with
    | .error e => IO.eprintln ("config reload failed: " ++ e.message path)
    | .ok c =>
      match (← s.agent.get).reload .binary64 c with
      | (.error e, _) => IO.eprintln ("config reload failed: " ++ reloadMessage e)
      | (.ok (), g) => s.agent.set g

/-- Goes on until a signal ends it. -/
partial def idle (s : Session) (path : Option String) (w : Watch) (hangup : AsyncTask Int) :
    IO Unit := do
  turn s
  if ← w.ends.anyM fun t => IO.hasFinished t then return ()
  else if ← IO.hasFinished hangup then
    reload s path
    idle s path w (← w.hangup.wait)
  else
    IO.sleep 10
    idle s path w hangup

/-- The first line of what a client sends, as a request. -/
def requestOf (bytes : ByteArray) : Endpoint.Request :=
  let line := ((String.fromUTF8? bytes).getD "").toList.takeWhile (· != '\r')
  match Text.splitOn ' ' line with
  | method :: target :: _ => ⟨String.ofList method, String.ofList target⟩
  | _ => ⟨"", ""⟩

/-- A response as it is sent. -/
def responseText (r : Endpoint.Response) : String :=
  "HTTP/1.1 " ++ toString r.status
    ++ "\r\ncontent-type: text/plain; charset=utf-8"
    ++ "\r\ncontent-length: " ++ toString r.body.utf8ByteSize
    ++ "\r\nconnection: close\r\n\r\n" ++ r.body

/-- Serves clients one after another. -/
partial def serve (server : Socket.Server) (agent : IO.Ref (Agent Float)) : Async Unit := do
  let client ← server.accept
  try
    match ← client.recv? 8192 with
    | none => pure ()
    | some bytes =>
      let m := (← agent.get).metrics
      client.send (responseText (Endpoint.respond m (requestOf bytes))).toUTF8
      client.shutdown
  catch _ => pure ()
  serve server agent

/-- The address that a text names. -/
def socketAddress? (address : String) : Option Std.Net.SocketAddress := do
  let (host, port) ← Endpoint.target? address
  let text := String.ofList host.text
  match host with
  | .v4 _ => return .v4 ⟨← Std.Net.IPv4Addr.ofString text, port⟩
  | .v6 _ => return .v6 ⟨← Std.Net.IPv6Addr.ofString text, port⟩

/-- A server that listens at an address, if it can. -/
def listen? (address : String) : IO (Option Socket.Server) := do
  match socketAddress? address with
  | none => return none
  | some a =>
    try
      let server ← Socket.Server.mk
      server.bind a
      server.listen 128
      return some server
    catch _ => return none

/-- The stream that lines go to, if it can be had. -/
def openOutput? (path : Option String) : IO (Option IO.FS.Stream) := do
  match path with
  | none => return some (← IO.getStdout)
  | some path =>
    try return some (IO.FS.Stream.ofHandle (← IO.FS.Handle.mk path .write))
    catch _ => return none

/-- Tells a failure. -/
def fail (f : Program.Failure) : IO UInt32 := do
  match f.message? with
  | some message => IO.eprintln ("Error: " ++ message)
  | none => pure ()
  return .ofNat f.status

/-- Keeps a started agent alive for its job and stops it. -/
def attend (o : Options) (job : Job) (server : Option Socket.Server) (sink : IO.FS.Stream)
    (g : Agent Float) : IO UInt32 := do
  let s : Session := ⟨← IO.mkRef g, sink⟩
  match server with
  | some server => discard (serve server s.agent).toIO
  | none => pure ()
  let signals ← watch
  let hangup ← signals.hangup.wait
  begin s
  match job with
  | .replay _ => deliver s
  | _ => idle s o.config signals hangup
  let stamp ← stampNow
  s.agent.modify (Agent.stop .binary64 stamp)
  writeLines s
  sink.flush
  return 0

/-- Starts an agent for a job. -/
def runAgent (o : Options) (job : Job) (c : Config) : IO UInt32 := do
  let serving := c.healthAddress != ""
  let server ← if serving then listen? c.healthAddress else pure none
  let listening := !serving || server.isSome
  -- The cores are only looked for by an agent that can be reached.
  let detected ← if c.cpus.isSome || !listening then pure c.cpus else detectCores
  let stream ← if listening then openOutput? c.outputPath else pure none
  let file ← match c.replayPath with
    | some path => if stream.isSome then readFile? path else pure none
    | none => pure none
  let w : Surroundings :=
    { time := ← IO.monoNanosNow
      cores := detected.getD 1
      canListen := fun _ => listening
      canWrite := fun _ => stream.isSome
      file? := fun _ => file }
  if listening && detected.isNone then fail .accident
  else
    match (Agent.new .binary64 c).start .binary64 w, stream with
    | (.error e, _), _ => fail (.start e)
    | (.ok (), _), none => fail (.start .output)
    | (.ok (), g), some sink => attend o job server sink g

/-- Does a job. -/
def runJob (o : Options) (job : Job) : IO UInt32 := do
  match job with
  | .version =>
    IO.println versionLine
    return 0
  | _ =>
    let file ← match o.config with
      | some path => readFile? path
      | none => pure none
    match Program.configure o job fun _ => file with
    | .error f => fail f
    | .ok c => runAgent o job c

end RuleTrace.Main

/-- The program. -/
def main (words : List String) : IO UInt32 := do
  match RuleTrace.CommandLine.parse? words with
  | none =>
    IO.eprintln "error: wrong command line (use --help for usage)"
    return 2
  | some (.help topic) =>
    for line in topic.lines do
      IO.println line
    return 0
  | some (.job o job) => RuleTrace.Main.runJob o job
