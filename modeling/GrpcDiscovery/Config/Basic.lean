import GrpcDiscovery.ReflectionError
import GrpcDiscovery.Schema.Resolver
import GrpcDiscovery.Text.Utf8
import GrpcDiscovery.Toml.Reader

namespace GrpcDiscovery

/-!
# Configuration

A configuration says how long a call may take, how deep schemas are followed and
by what name the client goes. It is the table `reflection` of a TOML document;
what the table does not give has its default. A name that is no string counts as
not given, while a number of the wrong kind or sign is refused.
-/

/-- How a client goes about discovery. -/
structure ReflectionConfig where
  /-- The time limit of a call in milliseconds. -/
  timeout : Nat := 30000
  /-- How many levels of messages a schema has at most. -/
  maxDepth : Nat := defaultMaxDepth
  userAgent : String := "quicpulse-reflect/0.0.4"
deriving DecidableEq, Repr

/-- What is at the place where a configuration is looked for. -/
inductive ConfigSource where
  | missing
  | directory
  | file (content : Bytes)
deriving DecidableEq, Repr

namespace ReflectionConfig

/-- An integer from a bound upwards, or the fault of a value that is none. -/
def atLeast
    (bound : Int)
    (fault : ConfigFault)
    (value : Toml) :
    Except ConfigFault Nat :=
  match value.integer? with
  | some number =>
      if bound ≤ number then .ok number.toNat else .error fault
  | none =>
      .error fault

/-- A number of a table, or the one that stands for it. -/
def number
    (table : Toml)
    (key : String)
    (bound : Int)
    (fault : ConfigFault)
    (default : Nat) :
    Except ConfigFault Nat :=
  match table.get? key with
  | some value =>
      atLeast bound fault value
  | none =>
      .ok default

/-- The configuration that a table gives. -/
def ofTable (table : Toml) : Except ConfigFault ReflectionConfig := do
  let defaults : ReflectionConfig := {}
  let timeout ← number table "timeout_ms" 1 .timeoutNotPositive defaults.timeout
  let maxDepth ← number table "max_depth" 0 .depthNegative defaults.maxDepth
  let userAgent := ((table.get? "user_agent").bind Toml.string?).getD defaults.userAgent
  return ⟨timeout, maxDepth, userAgent⟩

/-- The configuration that the text of a document gives. -/
def ofText (text : String) : Except ConfigFault ReflectionConfig :=
  match Toml.parse? text with
  | none =>
      .error .invalidToml
  | some document =>
      match document.get? "reflection" with
      | some table =>
          ofTable table
      | none =>
          .ok {}

/-- The configuration that a place holds; where there is nothing it is the default. -/
def load : ConfigSource → Except ConfigFault ReflectionConfig
  | .missing =>
      .ok {}
  | .directory =>
      .error (.unreadable "Is a directory (os error 21)")
  | .file content =>
      match Utf8.decode content with
      | .ok text =>
          ofText text
      | .error _ =>
          .error (.unreadable "stream did not contain valid UTF-8")

end ReflectionConfig

end GrpcDiscovery
