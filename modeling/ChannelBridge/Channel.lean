import ChannelBridge.Text.Case

/-! # Channels

A host publishes events on five named channels. Each channel has one wire name, used on the wire,
in logs and in configuration, and one variant name, used when a subscription describes itself.
Parsing a wire name is exact: no trimming and no case folding. The serializer derives its own name
for a channel from the variant name, in kebab case.
-/

namespace ChannelBridge

/-- The five event channels. -/
inductive Channel where
  | appServerEvent
  | dictationDownload
  | dictationEvent
  | terminalOutput
  | updaterCheck
  deriving DecidableEq, Repr, Inhabited

namespace Channel

/-- Every channel, in the order the wire lists them. -/
def all : List Channel :=
  [.appServerEvent, .dictationDownload, .dictationEvent, .terminalOutput, .updaterCheck]

/-- The wire name. -/
def name : Channel → String
  | .appServerEvent => "app-server-event"
  | .dictationDownload => "dictation-download"
  | .dictationEvent => "dictation-event"
  | .terminalOutput => "terminal-output"
  | .updaterCheck => "updater-check"

/-- The variant name a subscription uses when it describes itself. -/
def variantName : Channel → String
  | .appServerEvent => "AppServerEvent"
  | .dictationDownload => "DictationDownload"
  | .dictationEvent => "DictationEvent"
  | .terminalOutput => "TerminalOutput"
  | .updaterCheck => "UpdaterCheck"

/-- The name the derived serializer gives a channel: its variant name in kebab case. -/
def serialName (c : Channel) : String := Text.kebabCase c.variantName

/-- A channel is displayed as its wire name. -/
instance : ToString Channel := ⟨Channel.name⟩

/-- The channel with exactly this wire name. -/
def ofName? (s : String) : Option Channel :=
  all.find? (fun c => c.name == s)

/-- Every channel is listed. -/
theorem mem_all (c : Channel) : c ∈ all := by
  cases c <;> simp [all]

/-- No channel is listed twice. -/
theorem nodup_all : all.Nodup := by
  decide

/-- Wire names tell channels apart. -/
theorem name_injective {a b : Channel} (h : a.name = b.name) : a = b := by
  cases a <;> cases b <;> simp_all [name]

end Channel

/-- A name that is not the wire name of any channel. -/
structure UnknownChannel where
  name : String
  deriving DecidableEq, Repr

/-- The message of an unknown channel name. -/
def UnknownChannel.message (_ : UnknownChannel) : String := "unknown channel name"

/-- Parses a wire name. -/
def Channel.parse (s : String) : Except UnknownChannel Channel :=
  match Channel.ofName? s with
  | some c => .ok c
  | none => .error ⟨s⟩

end ChannelBridge
