import ChannelBridge.Protocol.Output
import ChannelBridge.Protocol.Session
import ChannelBridge.Telemetry.Filter

/-! # Process requests

A `process` request runs steps in a fresh process with a given environment, where logging can be
installed once. What it shows is the answers of the steps, the log lines written, and the warnings
written while building log filters.

* Installing logging needs a format, and builds the filter first: from `RUST_LOG` when it is set
  and every directive in it reads, otherwise from the requested level, skipping (and warning
  about) the directives that do not read. Then it installs the subscriber, unless one is installed
  already, and logs that it did. A directive whose reading cuts a character stops the process:
  its request then answers that it gave no answer, with what it wrote before.
* Logging is installed at most once: a later request succeeds without changing anything. A
  subscriber installed by someone else makes every request fail, and leaves logging uninstalled.
* An event is written when a subscriber of ours is installed and its filter lets the event
  through, as a JSON object or as a text line depending on the format. How the written lines are
  read back is the subject of `Output`.
* A process cannot be started with a NUL in a name or value of its environment.
* Environment variables are read as the C library reads them: the first `key=value` entry, in
  key order, that starts with the name and `=`. A key holding `=` lends the rest of its entry to
  the name before that `=`.
-/

namespace ChannelBridge

/-- Who receives the log events of a process. -/
inductive Subscriber where
  /-- Nobody: events are dropped. -/
  | absent
  /-- A subscriber someone else installed; nothing it writes is seen. -/
  | foreign
  /-- Our subscriber, writing in a format what a filter lets through. -/
  | installed (format : LogFormat) (filter : LogFilter)

/-- The state of a process. -/
structure Process where
  env : List (String × String)
  subscriber : Subscriber
  logs : Array Json
  stderr : Array String

namespace Process

/-- The value of an environment variable: the rest of the first entry `key=value` that starts
with the name and `=`. -/
def lookup (p : Process) (name : String) : Option String :=
  let key := (name ++ "=").toList
  p.env.findSome? fun (k, v) =>
    let entry := (k ++ "=" ++ v).toList
    if key.isPrefixOf entry then some (String.ofList (entry.drop key.length)) else none

/-- The format logging was installed with, if it was. -/
def installedFormat (p : Process) : Option LogFormat :=
  match p.subscriber with
  | .installed f _ => some f
  | _ => none

/-- A log event as the entries of a format. -/
def render (format : LogFormat) (e : LogEvent) : List Json :=
  match format with
  | .json => [e.toJson]
  | .pretty => Output.textEntries e.toText

/-- Hands a log event to the subscriber. -/
def emit (p : Process) (e : LogEvent) : Process :=
  match p.subscriber with
  | .installed format filter =>
    if filter.enables e then { p with logs := p.logs ++ (render format e).toArray } else p
  | _ => p

/-- The filter for a level: `RUST_LOG` when it reads, otherwise the level read leniently, with
the warnings that reading wrote. No filter when a directive's reading cut a character, which
stops the process. -/
def buildFilter (p : Process) (level : String) : List String × Option LogFilter :=
  match p.lookup "RUST_LOG" with
  | some spec =>
    match LogFilter.strict spec with
    | .ok f => ([], some f)
    | .error .brokenText => ([], none)
    | .error _ => LogFilter.lossy level
  | none => LogFilter.lossy level

/-- Writes warnings to the error stream. -/
def warn (p : Process) (warnings : List String) : Process :=
  { p with stderr := p.stderr ++ (warnings.flatMap Output.errorEntries).toArray }

/-- Why logging could not be installed. -/
inductive InstallError where
  /-- Another subscriber is installed. -/
  | alreadySet

/-- Installs logging at a level and in a format, once. An error holds the process as it stopped,
when building the filter stopped it. -/
def initLogging (p : Process) (config : LoggingConfig) : Except Process (Except InstallError Unit × Process) :=
  match p.subscriber with
  | .installed _ _ => .ok (.ok (), p)
  | other =>
    let (warnings, filter) := p.buildFilter config.level
    let p := p.warn warnings
    match filter, other with
    | none, _ => .error p
    | some filter, .absent =>
      let p := { p with subscriber := .installed config.format filter }
      .ok (.ok (), p.emit (.loggingInitialised config.level config.format.variantName))
    | some _, _ => .ok (.error .alreadySet, p)

/-- Installs a subscriber of someone else's. -/
def installForeign (p : Process) : Except InstallError Unit × Process :=
  match p.subscriber with
  | .absent => (.ok (), { p with subscriber := .foreign })
  | _ => (.error .alreadySet, p)

end Process

namespace Protocol

/-- The words of a refused subscriber installation. -/
def alreadySetMessage : String := "a global default trace dispatcher has already been set"

/-- A failed logging installation as an answer. -/
def subscriberInstallAnswer : Json :=
  Answer.error "SubscriberInstall" "failed to install tracing subscriber"
    [("source", .str alreadySetMessage)]

/-- The answer of a step that succeeded without a value. -/
def okAnswer : Json := Json.object [("ok", .bool true)]

/-- A configuration read from the environment, or its error. -/
def configAnswer (r : Except ConfigError BridgeConfig) : Json :=
  match r with
  | .ok c => Answer.config c
  | .error e => Answer.configError e

/-- Runs `init_logging`; an error holds the process as it stopped. The format must be given. -/
def initLoggingStep (p : Process) (step : Json) : Except Process (Json × Process) :=
  let level := ((step.get? "level").bind Json.str?).getD defaultLogLevel
  match (step.get? "format").bind Json.str? |>.bind LogFormat.parse with
  | none => .ok (Answer.badInput "format must be json or pretty", p)
  | some format =>
    (p.initLogging ⟨level, format⟩).map fun
      | (.ok (), p) => (okAnswer, p)
      | (.error _, p) => (subscriberInstallAnswer, p)

/-- Runs `bootstrap`: reads the configuration, installs logging and logs the configuration; an
error holds the process as it stopped. -/
def bootstrapStep (p : Process) : Except Process (Json × Process) :=
  match BridgeConfig.ofLookup p.lookup with
  | .error e =>
    .ok (Answer.error "Config" "configuration operation failed"
      [("channel", .null), ("operation", .str "config.from_env"), ("source", Answer.configError e)], p)
  | .ok c =>
    (p.initLogging c.logging).map fun
      | (.error _, p) =>
        (Answer.error "Telemetry" "telemetry operation failed"
          [("channel", .null), ("operation", .str "telemetry.init_logging"),
            ("source", subscriberInstallAnswer)], p)
      | (.ok (), p) =>
        (Answer.config c, p.emit (.bridgeConfigured c.dispatcherCapacity c.logLevel))

/-- Runs one step of a process; an error holds the process as it stopped. -/
def processStep (p : Process) (step : Json) : Except Process (Json × Process) :=
  let op := ((step.get? "op").bind Json.str?).getD ""
  if op = "installed_format" then
    .ok (Json.object [("format", match p.installedFormat with
      | some f => .str f.name
      | none => .null)], p)
  else if op = "init_logging" then initLoggingStep p step
  else if op = "foreign_subscriber" then
    match p.installForeign with
    | (.ok (), p) => .ok (okAnswer, p)
    | (.error _, p) => .ok (Answer.error "TryInitError" alreadySetMessage [], p)
  else if op = "from_env" then .ok (configAnswer (BridgeConfig.ofLookup p.lookup), p)
  else if op = "bootstrap" then bootstrapStep p
  else if op = "session" then
    match session step with
    | (answer, some w) => .ok (answer, w.events.foldl Process.emit p)
    | (answer, none) => .ok (answer, p)
  else .ok (Answer.error "UnknownOp" op [], p)

/-- The string members of an object. -/
def environmentOf (env : Json) : List (String × String) :=
  match env with
  | .obj members => members.filterMap fun (k, v) => (fun s => (k, s)) <$> v.str?
  | _ => []

/-- Whether an environment can be handed to a new process: no name or value holds a NUL. -/
def spawnable (env : List (String × String)) : Bool :=
  env.all fun (k, v) => !k.contains '\x00' && !v.contains '\x00'

/-- What a process wrote, as members of its answer. -/
def written (p : Process) : List (String × Json) :=
  [("logs", .arr p.logs.toList), ("stderr", .arr (p.stderr.toList.map Json.str))]

/-- Answers a process request. A process that stopped answers only with what it wrote before. -/
def process (req : Json) : Json :=
  let env := environmentOf (req.field "env")
  if !spawnable env then Answer.error "Spawn" "nul byte found in provided data" []
  else
    let start : Process := ⟨env, .absent, #[], #[]⟩
    let run : Except Process (Array Json × Process) :=
      ((req.field "steps").arr?.getD []).foldlM (fun (acc, p) step =>
        (processStep p step).map fun (a, p) => (acc.push a, p)) (#[], start)
    match run with
    | .ok (answers, p) => Json.object (("steps", .arr answers.toList) :: written p)
    | .error p => Answer.error "Panic" "child gave no answer" (written p)

end Protocol

end ChannelBridge
