import ChannelBridge.Decode.Basic

/-! # Dictation payloads

Two channels carry dictation: the download status of a speech model, and the events of a dictation
session. A session event is tagged by its `type` member; read from an array, the tag comes first and
the variant's members follow.
-/

namespace ChannelBridge

/-- Where the download of a model stands. -/
inductive ModelState where
  | missing
  | downloading
  | ready
  | error
  deriving DecidableEq, Repr, Inhabited

namespace ModelState

/-- The wire names. -/
def names : List (String × ModelState) :=
  [("missing", .missing), ("downloading", .downloading), ("ready", .ready), ("error", .error)]

/-- The wire name. -/
def name : ModelState → String
  | .missing => "missing"
  | .downloading => "downloading"
  | .ready => "ready"
  | .error => "error"

end ModelState

/-- How far a download has come; the total may be unknown. -/
structure DownloadProgress where
  totalBytes : Option Nat
  downloadedBytes : Nat
  deriving DecidableEq, Repr, Inhabited

namespace DownloadProgress

/-- The members: the total may be absent. -/
def schema : List Decode.Member :=
  [.of "totalBytes" true (Decode.optional Decode.u64), .of "downloadedBytes" false Decode.u64]

/-- Reads download progress. -/
def decode (j : Json) : Except DecodeError DownloadProgress := do
  let found ← Decode.record "struct DictationDownloadProgress" schema j
  let total ← Decode.withDefault found "totalBytes" (Decode.optional Decode.u64) none
  let done ← Decode.required found "downloadedBytes" Decode.u64
  pure ⟨total, done⟩

/-- Writes download progress; an unknown total is left out. -/
def encode (p : DownloadProgress) : Json :=
  Json.object ((match p.totalBytes with | some t => [("totalBytes", Json.ofNat t)] | none => []) ++
    [("downloadedBytes", Json.ofNat p.downloadedBytes)])

end DownloadProgress

/-- The status of a speech model. -/
structure ModelStatus where
  state : ModelState
  modelId : String
  progress : Option DownloadProgress
  error : Option String
  deriving DecidableEq, Repr, Inhabited

namespace ModelStatus

/-- The members: progress and error may be absent. -/
def schema : List Decode.Member :=
  [.of "state" false (Decode.unitVariant ModelState.names), .of "modelId" false Decode.string,
    .of "progress" true (Decode.optional DownloadProgress.decode),
    .of "error" true (Decode.optional Decode.string)]

/-- Reads a model status. -/
def decode (j : Json) : Except DecodeError ModelStatus := do
  let found ← Decode.record "struct DictationModelStatus" schema j
  let state ← Decode.required found "state" (Decode.unitVariant ModelState.names)
  let modelId ← Decode.required found "modelId" Decode.string
  let progress ← Decode.withDefault found "progress" (Decode.optional DownloadProgress.decode) none
  let error ← Decode.withDefault found "error" (Decode.optional Decode.string) none
  pure ⟨state, modelId, progress, error⟩

/-- Writes a model status; absent progress and error are left out. -/
def encode (s : ModelStatus) : Json :=
  Json.object ([("state", Json.str s.state.name), ("modelId", Json.str s.modelId)] ++
    (match s.progress with | some p => [("progress", p.encode)] | none => []) ++
    (match s.error with | some e => [("error", Json.str e)] | none => []))

/-- The share downloaded, in percent: unknown without progress or without a positive total. It is
the quotient of the two byte counts as doubles, times 100, and may exceed 100. -/
def percentComplete (s : ModelStatus) : Option Float :=
  match s.progress with
  | none => none
  | some p =>
    match p.totalBytes with
    | none => none
    | some 0 => none
    | some total => some (Float.ofNat p.downloadedBytes / Float.ofNat total * 100.0)

end ModelStatus

/-- What a dictation session is doing. -/
inductive SessionState where
  | idle
  | listening
  | processing
  deriving DecidableEq, Repr, Inhabited

namespace SessionState

/-- The wire names. -/
def names : List (String × SessionState) :=
  [("idle", .idle), ("listening", .listening), ("processing", .processing)]

/-- The wire name. -/
def name : SessionState → String
  | .idle => "idle"
  | .listening => "listening"
  | .processing => "processing"

end SessionState

/-- The kinds of dictation events, as tagged on the wire. -/
inductive DictationKind where
  | state
  | level
  | transcript
  | error
  | canceled
  deriving DecidableEq, Repr, Inhabited

namespace DictationKind

/-- The tags, in declaration order. -/
def names : List (String × DictationKind) :=
  [("state", .state), ("level", .level), ("transcript", .transcript), ("error", .error),
    ("canceled", .canceled)]

/-- The tag. -/
def name : DictationKind → String
  | .state => "state"
  | .level => "level"
  | .transcript => "transcript"
  | .error => "error"
  | .canceled => "canceled"

/-- How the variant describes itself in errors. -/
def description : DictationKind → String
  | .state => "struct variant DictationEvent::State"
  | .level => "struct variant DictationEvent::Level"
  | .transcript => "struct variant DictationEvent::Transcript"
  | .error => "struct variant DictationEvent::Error"
  | .canceled => "struct variant DictationEvent::Canceled"

/-- The one member of each variant and how it is checked. -/
def schema : DictationKind → List Decode.Member
  | .state => [.of "state" false (Decode.unitVariant SessionState.names)]
  | .level => [.of "value" false Decode.single]
  | .transcript => [.of "text" false Decode.string]
  | .error => [.of "message" false Decode.string]
  | .canceled => [.of "message" false Decode.string]

end DictationKind

/-- An event of a dictation session. -/
inductive DictationEvent where
  | state (state : SessionState)
  | level (value : Binary32)
  | transcript (text : String)
  | error (message : String)
  | canceled (message : String)
  deriving DecidableEq, Repr, Inhabited

namespace DictationEvent

/-- The kind of an event. -/
def kind : DictationEvent → DictationKind
  | .state _ => .state
  | .level _ => .level
  | .transcript _ => .transcript
  | .error _ => .error
  | .canceled _ => .canceled

/-- Reads the tag. -/
def tag : Json → Except DecodeError DictationKind
  | .str s => Decode.variantNamed DictationKind.names s
  | j => .error (.wrongType j "variant identifier")

/-- Builds an event of a kind from the members found for it. -/
def build (k : DictationKind) (found : List (String × Json)) : Except DecodeError DictationEvent :=
  match k with
  | .state => .state <$> Decode.required found "state" (Decode.unitVariant SessionState.names)
  | .level => .level <$> Decode.required found "value" Decode.single
  | .transcript => .transcript <$> Decode.required found "text" Decode.string
  | .error => .error <$> Decode.required found "message" Decode.string
  | .canceled => .canceled <$> Decode.required found "message" Decode.string

/-- The expectation for items left over after a variant read from a sequence. -/
def inSequence (taken : Nat) : String :=
  if taken = 1 then "1 element in sequence" else toString taken ++ " elements in sequence"

/-- Reads an event: an object with a `type` member, or an array whose first item is the tag. -/
def decode (j : Json) : Except DecodeError DictationEvent :=
  match j with
  | .obj members =>
    match members.lookup "type" with
    | none => .error (.missingField "type")
    | some t => do
      let k ← tag t
      let rest := members.filter fun (key, _) => key != "type"
      let found ← Decode.recordOfObject k.schema rest
      build k found
  | .arr [] => .error (.missingField "type")
  | .arr (t :: items) => do
    let k ← tag t
    let found ← Decode.recordOfItems (Decode.withElements k.description k.schema.length)
      (fun total taken => .invalidLength total (inSequence taken)) k.schema items 0
    build k found
  | other => .error (.wrongType other "internally tagged enum DictationEvent")

/-- Writes an event with its tag; a level that is not finite is written as `null`. -/
def encode (e : DictationEvent) : Json :=
  let tagged (members : List (String × Json)) := Json.object (("type", Json.str e.kind.name) :: members)
  match e with
  | .state s => tagged [("state", Json.str s.name)]
  | .level v => tagged [("value", Json.ofFloat v.toFloat)]
  | .transcript t => tagged [("text", Json.str t)]
  | .error m => tagged [("message", Json.str m)]
  | .canceled m => tagged [("message", Json.str m)]

end DictationEvent

end ChannelBridge
