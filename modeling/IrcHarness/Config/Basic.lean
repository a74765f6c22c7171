import IrcHarness.Config.Duration
import IrcHarness.Text.Ascii

/-!
# Configuration

What a run needs to know: where the software under test listens, how long to
wait for it, and what it claims to support. The claims are for tests to look
up and are never acted upon here.

A read timeout is set in whole milliseconds. A span that is given instead is
cut down to milliseconds, and to the largest number of them that fits.

## Main definitions

* `Target`, `TransportSettings`, `Capabilities`, `Config`: The settings.
* `Target.display`: A target as an address.
* `TransportSettings.withReadTimeout`: Set the timeout by a span of time.
* `Config.validate`: What is wrong with the settings.
-/

namespace IrcHarness

/-- Where the software under test listens. -/
structure Target where
  /-- A host name or an address. -/
  hostname : String
  /-- The port. -/
  port : UInt16
deriving DecidableEq, Repr

/-- A target as an address. A host name with a colon stands in brackets. -/
def Target.display (t : Target) : String :=
  let host := t.hostname.toList
  let shown := if ':' ∈ host then '[' :: (host ++ [']']) else host
  String.ofList (shown ++ ':' :: Digit.decimal t.port.toNat)

/-- How to talk to the software under test. -/
structure TransportSettings where
  /-- How long one attempt to read waits, in milliseconds. -/
  readTimeoutMs : UInt64
  /-- Whether traffic is logged for everyone to see. -/
  showIo : Bool
deriving DecidableEq, Repr

namespace TransportSettings

/-- The timeout of a second. -/
def defaultReadTimeoutMs : UInt64 := 1000

/-- The settings when nothing is said. -/
def initial : TransportSettings := ⟨defaultReadTimeoutMs, false⟩

/-- The timeout as a span of time. -/
def readTimeout (s : TransportSettings) : Duration :=
  Duration.ofMillis s.readTimeoutMs

/-- The most milliseconds that a timeout can have. -/
def maxReadTimeoutMs : Nat := 18446744073709551615

/-- Set the timeout by a span of time. -/
def withReadTimeout (s : TransportSettings) (d : Duration) : TransportSettings :=
  { s with readTimeoutMs := UInt64.ofNat (min d.millis maxReadTimeoutMs) }

end TransportSettings

/-- What the software under test claims to support. -/
structure Capabilities where
  /-- Mechanisms of authentication. -/
  saslMechanisms : List String
  /-- Capabilities that clients can ask for. -/
  capabilities : List String
deriving DecidableEq, Repr

namespace Capabilities

/-- No claims. -/
def none : Capabilities := ⟨[], []⟩

/-- Whether a mechanism is claimed, in any letter case. -/
def supportsSasl (c : Capabilities) (mechanism : String) : Bool :=
  c.saslMechanisms.any fun m => Ascii.eqIgnoreCase m mechanism

/-- Whether a capability is claimed. -/
def supports (c : Capabilities) (capability : String) : Bool :=
  c.capabilities.contains capability

end Capabilities

/-- The settings of a run. -/
structure Config where
  /-- Where the software under test listens. -/
  target : Target
  /-- How to talk to it. -/
  transport : TransportSettings
  /-- What it claims to support. -/
  capabilities : Capabilities
deriving DecidableEq, Repr

/-- What is wrong with settings. -/
inductive ValidationError where
  /-- The host name is empty. -/
  | missingHostname
  /-- The port is zero. -/
  | invalidPort
  /-- The timeout is zero, with which reading would never wait. -/
  | zeroReadTimeout
deriving DecidableEq, Repr

/-- The wording of a validation error. -/
def ValidationError.message : ValidationError → String
  | .missingHostname => "target.hostname is required"
  | .invalidPort => "target.port must be non-zero"
  | .zeroReadTimeout => "transport.read_timeout_ms must be non-zero"

namespace Config

/-- Settings for a target, with everything else as if nothing were said. -/
def ofTarget (target : Target) : Config :=
  ⟨target, .initial, .none⟩

/-- All that is wrong with settings. -/
def validate (c : Config) : List ValidationError :=
  (if c.target.hostname = "" then [.missingHostname] else []) ++
    (if c.target.port = 0 then [.invalidPort] else []) ++
    (if c.transport.readTimeoutMs = 0 then [.zeroReadTimeout] else [])

end Config

end IrcHarness
