import DvbReceiver.Config
import DvbReceiver.Text.Json
import DvbReceiver.Toml.Document

/-!
# Written forms of settings

Settings are read from a TOML document whose keys have the names of the settings with their
units (`Config.ofToml?`), and shown as a JSON object with the same keys (`Config.json`). A key
that is missing leaves the default; keys of other names are passed over. A value of the wrong
type, or a number out of range, makes the whole document invalid.
-/

namespace DvbReceiver

open Toml

namespace Toml.Value

/-- A natural number below `limit`. -/
def nat? (limit : Nat) : Value → Option Nat
  | .scalar (.integer (.ofNat number)) => if number < limit then some number else none
  | _ => none

def text? : Value → Option String
  | .text chars => some chars
  | _ => none

/-- There is nothing in a value that could hold other values. -/
def IsEmpty : Value → Bool
  | .array items => items.isEmpty
  | .inlineTable fields | .table _ fields => fields.isEmpty
  | _ => false

end Toml.Value

/-- The standard that a value names: as a text, or as the only key of a table whose value is
empty. -/
def Standard.ofValue? : Value → Option Standard
  | .text name => ofName? name
  | .inlineTable [(name, value)] | .table _ [(name, value)] =>
    if value.IsEmpty then ofName? name else none
  | _ => none

/-- The setting under a key, or its default if the key is missing. -/
def Toml.Fields.setting? {α : Type} (fields : Fields) (key : String) (read : Value → Option α)
    (default : α) : Option α :=
  match fields.lookup key with
  | none => some default
  | some value => read value

namespace Config

/-- The settings that a table holds. -/
def ofFields? (fields : Fields) : Option Config := do
  let word := Value.nat? (Nat.pow 2 32)
  let long := Value.nat? (Nat.pow 2 64)
  let start : Config := {}
  return {
    frequencyHz := ← fields.setting? "frequency_hz" word start.frequencyHz
    bandwidthMhz := ← fields.setting? "bandwidth_mhz" word start.bandwidthMhz
    standard := ← fields.setting? "standard" Standard.ofValue? start.standard
    initialChannel := ← fields.setting? "initial_channel" long start.initialChannel
    tunerLockTimeout := ← fields.setting? "tuner_lock_timeout_ms" long start.tunerLockTimeout
    tableTimeout := ← fields.setting? "table_timeout_ms" long start.tableTimeout
    timeTableTimeout :=
      ← fields.setting? "time_table_timeout_ms" long start.timeTableTimeout
    countryCode :=
      ← fields.setting? "country_code" (fun value => value.text?.map some) start.countryCode }

/-- The settings that a TOML document describes. -/
def ofToml? (text : String) : Option Config := do
  ofFields? (← Document.parse? text)

/-- The settings as a JSON object. -/
def json (config : Config) : Json :=
  .object [
    ("frequency_hz", .nat config.frequencyHz),
    ("bandwidth_mhz", .nat config.bandwidthMhz),
    ("standard", .text config.standard.name),
    ("initial_channel", .nat config.initialChannel),
    ("tuner_lock_timeout_ms", .nat config.tunerLockTimeout),
    ("table_timeout_ms", .nat config.tableTimeout),
    ("time_table_timeout_ms", .nat config.timeTableTimeout),
    ("country_code", config.countryCode.elim .null .text)]

end Config

end DvbReceiver
