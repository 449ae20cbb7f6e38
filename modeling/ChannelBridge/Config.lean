import ChannelBridge.Text.Blank

/-! # Bridge configuration

The bridge is configured by three variables: the dispatcher capacity, the log level and the log
format. A value is trimmed of blanks, and an empty value counts as unset. The capacity is a positive
integer below `2^64`, written as ASCII digits with an optional leading `+`; the level is taken as
written; the format is `json` or `pretty` in any ASCII case. The capacity is checked before the
format, so with both wrong the capacity is reported.
-/

namespace ChannelBridge

/-- How log lines are written. -/
inductive LogFormat where
  | json
  | pretty
  deriving DecidableEq, Repr, Inhabited

namespace LogFormat

/-- Reads a format name: trimmed, ASCII case ignored. -/
def parse (s : String) : Option LogFormat :=
  let name := (Text.trimBlank s).toLower
  if name = "json" then some .json else if name = "pretty" then some .pretty else none

/-- The format a build uses by default: JSON. -/
def default : LogFormat := .json

/-- The lower-case name. -/
def name : LogFormat → String
  | .json => "json"
  | .pretty => "pretty"

/-- The name as the format describes itself in a log field. -/
def variantName : LogFormat → String
  | .json => "Json"
  | .pretty => "Pretty"

end LogFormat

/-- The log level used when none is configured. -/
def defaultLogLevel : String := "info"

/-- What logging is set up with: a filter text and a format. -/
structure LoggingConfig where
  level : String
  format : LogFormat
  deriving DecidableEq, Repr

/-- The logging configuration used when nothing is configured. -/
def LoggingConfig.default : LoggingConfig := ⟨defaultLogLevel, LogFormat.default⟩

/-- The configured values of the bridge. -/
structure BridgeConfig where
  dispatcherCapacity : Nat
  logLevel : String
  logFormat : LogFormat
  deriving DecidableEq, Repr

/-- The variables that configure the bridge. -/
inductive ConfigVar where
  | dispatcherCapacity
  | logLevel
  | logFormat
  deriving DecidableEq, Repr

/-- The name of a variable. -/
def ConfigVar.name : ConfigVar → String
  | .dispatcherCapacity => "TETHER_DISPATCHER_CAPACITY"
  | .logLevel => "TETHER_LOG_LEVEL"
  | .logFormat => "TETHER_LOG_FORMAT"

/-- Why a configured value is refused. -/
inductive ConfigReason where
  | notPositiveInteger
  | notLogFormat
  deriving DecidableEq, Repr

/-- The words for a reason. -/
def ConfigReason.text : ConfigReason → String
  | .notPositiveInteger => "must be a positive integer"
  | .notLogFormat => "must be 'json' or 'pretty'"

/-- A refused configuration value: the variable, its trimmed value and the reason. -/
structure ConfigError where
  var : ConfigVar
  value : String
  reason : ConfigReason
  deriving DecidableEq, Repr

/-- The words for a refused value. -/
def ConfigError.message (e : ConfigError) : String :=
  "invalid value for '" ++ e.var.name ++ "': " ++ e.reason.text

namespace BridgeConfig

/-- The configuration used when nothing is set. -/
def default : BridgeConfig := ⟨256, defaultLogLevel, LogFormat.default⟩

/-- The logging part of a configuration. -/
def logging (c : BridgeConfig) : LoggingConfig := ⟨c.logLevel, c.logFormat⟩

/-- The value of a string of ASCII digits. -/
def digitValue (ds : List Char) : Nat :=
  ds.foldl (fun acc d => acc * 10 + (d.toNat - '0'.toNat)) 0

/-- Reads an unsigned 64-bit integer: an optional `+`, then one or more ASCII digits. -/
def parseUnsigned (s : String) : Option Nat :=
  let ds := match s.toList with
    | '+' :: r => r
    | r => r
  if ds.isEmpty || !ds.all Char.isDigit then none
  else
    let v := digitValue ds
    if v < 2 ^ 64 then some v else none

/-- Reads a dispatcher capacity: an unsigned integer above zero. -/
def parseCapacity (raw : String) : Except ConfigError Nat :=
  match parseUnsigned raw with
  | some n => if 0 < n then .ok n else .error ⟨.dispatcherCapacity, raw, .notPositiveInteger⟩
  | none => .error ⟨.dispatcherCapacity, raw, .notPositiveInteger⟩

/-- A variable's trimmed value, if it is set and not empty after trimming. -/
def read (lookup : String → Option String) (v : ConfigVar) : Option String :=
  match lookup v.name with
  | some raw =>
    let t := Text.trimBlank raw
    if t.isEmpty then none else some t
  | none => none

/-- Reads the configuration from a lookup of variables. -/
def ofLookup (lookup : String → Option String) : Except ConfigError BridgeConfig := do
  let capacity ← match read lookup .dispatcherCapacity with
    | some raw => parseCapacity raw
    | none => pure default.dispatcherCapacity
  let level := (read lookup .logLevel).getD default.logLevel
  let format ← match read lookup .logFormat with
    | some raw =>
      match LogFormat.parse raw with
      | some f => pure f
      | none => .error ⟨.logFormat, raw, .notLogFormat⟩
    | none => pure default.logFormat
  pure ⟨capacity, level, format⟩

end BridgeConfig

end ChannelBridge
