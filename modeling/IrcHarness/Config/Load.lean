import IrcHarness.Config.Basic
import IrcHarness.Text.Utf8
import IrcHarness.Toml.Reader

/-!
# Loading a Configuration

Settings from a TOML text. Keys that mean nothing are passed over, and what
has a default may be left out. A group of settings is a table, or an array of
its settings in their order, of which the last ones may be left out and
further ones are passed over. A point in time counts as a table without any
known key.

A configuration that can be read still has to be sensible, and everything
that is wrong with it is reported at once.

## Main definitions

* `ConfigError`: Why there is no configuration.
* `Config.ofEntries?`: The settings in a table.
* `Config.parse`: The settings in a text.
* `Config.load`: The settings in the bytes of a file.
-/

namespace IrcHarness

/-- Why a file cannot be read. -/
inductive FileError where
  /-- There is no such file. -/
  | notFound
  /-- The bytes are not UTF-8. -/
  | invalidUtf8
deriving DecidableEq, Repr

/-- Why there is no configuration. -/
inductive ConfigError where
  /-- The file cannot be read. -/
  | file (cause : FileError)
  /-- The text is malformed, or says something else than settings. -/
  | malformed
  /-- The settings are not sensible. -/
  | invalid (errors : List ValidationError)
deriving DecidableEq, Repr

/-- The wording of a file error. -/
def FileError.message : FileError → String
  | .notFound => "No such file or directory (os error 2)"
  | .invalidUtf8 => "stream did not contain valid UTF-8"

/-- The wording of a configuration error, as far as it is fixed: how a malformed
    text is reported is left open. -/
def ConfigError.message? : ConfigError → Option String
  | .file cause => some ("failed to read config file: " ++ cause.message)
  | .malformed => none
  | .invalid errors =>
    some ("invalid config: " ++ "; ".intercalate (errors.map ValidationError.message))

namespace Config

/-- A group of settings, as found: each of them with its name, or in order. -/
inductive Group where
  /-- Settings by name. -/
  | named (entries : Toml.Entries)
  /-- Settings in order. -/
  | ordered (items : List Toml.Value)

/-- The group of settings that a value is. -/
def group? (v : Toml.Value) : Option Group :=
  match v.entries?, v.items?, v with
  | some entries, _, _ => some (.named entries)
  | _, some items, _ => some (.ordered items)
  | _, _, .datetime _ => some (.named [])
  | _, _, _ => none

/-- A setting of a group, by its name and its position. -/
def Group.get? (g : Group) (name : String) (position : Nat) : Option Toml.Value :=
  match g with
  | .named entries => Toml.Entries.find? name entries
  | .ordered items => items[position]?

/-- A text. -/
def text? : Toml.Value → Option String
  | .string s => some s
  | _ => none

/-- A truth value. -/
def bool? : Toml.Value → Option Bool
  | .bool b => some b
  | _ => none

/-- An integer from zero up to a limit. -/
def natural? (limit : Nat) : Toml.Value → Option Nat
  | .integer n => if 0 ≤ n ∧ n ≤ limit then some n.toNat else none
  | _ => none

/-- A list of texts. -/
def texts? (v : Toml.Value) : Option (List String) :=
  v.items?.bind fun items => items.mapM text?

/-- A setting that may be left out. -/
def optional {α : Type} (default : α) (read : Toml.Value → Option α) :
    Option Toml.Value → Option α
  | none => some default
  | some v => read v

/-- The target that a value is. -/
def target? (v : Toml.Value) : Option Target := do
  let g ← group? v
  let hostname ← (← g.get? "hostname" 0) |> text?
  let port ← (← g.get? "port" 1) |> natural? 65535
  some ⟨hostname, UInt16.ofNat port⟩

/-- The transport settings that a value is. -/
def transport? (v : Toml.Value) : Option TransportSettings := do
  let g ← group? v
  let ms ← optional TransportSettings.defaultReadTimeoutMs.toNat
    (natural? TransportSettings.maxReadTimeoutMs) (g.get? "read_timeout_ms" 0)
  let showIo ← optional false bool? (g.get? "show_io" 1)
  some ⟨UInt64.ofNat ms, showIo⟩

/-- The claims that a value is. -/
def capabilities? (v : Toml.Value) : Option Capabilities := do
  let g ← group? v
  let saslMechanisms ← optional [] texts? (g.get? "sasl_mechanisms" 0)
  let capabilities ← optional [] texts? (g.get? "capabilities" 1)
  some ⟨saslMechanisms, capabilities⟩

/-- The settings in a table. -/
def ofEntries? (entries : Toml.Entries) : Option Config := do
  let target ← (← Toml.Entries.find? "target" entries) |> target?
  let transport ← optional .initial transport? (Toml.Entries.find? "transport" entries)
  let capabilities ← optional .none capabilities? (Toml.Entries.find? "capabilities" entries)
  some ⟨target, transport, capabilities⟩

/-- The settings in a text. -/
def parse (text : String) : Except ConfigError Config :=
  match (Toml.parse? text).bind ofEntries? with
  | none => .error .malformed
  | some c => if c.validate = [] then .ok c else .error (.invalid c.validate)

/-- The settings in the bytes of a file, if there is one. -/
def load : Option (List UInt8) → Except ConfigError Config
  | none => .error (.file .notFound)
  | some bytes =>
    match Utf8.decode bytes with
    | .error _ => .error (.file .invalidUtf8)
    | .ok cs => parse (String.ofList cs)

end Config

end IrcHarness
