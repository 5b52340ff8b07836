import DvbReceiver.Registry
import DvbReceiver.Text.Json
import DvbReceiver.Text.Utf8

/-!
# Reports

What a table says, as a JSON document for people and other programs to read. The keys of every
object are in alphabetical order, and a key whose value is missing is left out unless the rule
below says otherwise.
-/

namespace DvbReceiver.Report

open Json

/-- A field that is there only with a value. -/
def ifSome (key : String) : Option Nat → List (String × Json)
  | some value => [(key, nat value)]
  | none => []

def date (date : Date) : Json :=
  object [("day", nat date.day), ("month", nat date.month), ("year", number date.year)]

def service (index : Nat) (service : Pat.Service) : Json :=
  object [
    ("index", nat index),
    ("pmt_pid", nat service.pid),
    ("program_number", nat service.programNumber),
    ("reserved", bool (index = Pat.reservedIndex))]

def pat (pat : Pat) : Json :=
  object [
    ("services", array (pat.services.items.zipIdx.map fun (item, index) => service index item)),
    ("table", text TableKind.pat.name),
    ("transport_stream_id", nat pat.transportStreamId),
    ("version", nat pat.header.versionNumber)]

/-- A stream shows its codec if the player has it. -/
def stream (stream : Pmt.Stream) : Json :=
  let codec := match stream.codec? with
    | some codec => [("codec", text codec.name)]
    | none => []
  object (codec ++ [
    ("es_info_length", nat stream.infoLength),
    ("pid", nat stream.pid),
    ("stream_type", nat stream.streamType)])

/-- A PMT shows the PIDs of the streams that are selected from it. -/
def pmt (pmt : Pmt) : Json :=
  object (
    ifSome "audio_pid" (pmt.firstAudio?.map (·.pid))
    ++ [
      ("pcr_pid", nat pmt.header.pcrPid),
      ("program_number", nat pmt.programNumber),
      ("streams", array (pmt.streams.items.map stream)),
      ("table", text TableKind.pmt.name),
      ("version", nat pmt.header.versionNumber)]
    ++ ifSome "video_pid" (pmt.firstVideo?.map (·.pid)))

/-- A time of day, each part with two digits at least. -/
def timeOfDay (hours minutes seconds : Nat) : String :=
  Text.decimal 2 hours ++ ":" ++ Text.decimal 2 minutes ++ ":" ++ Text.decimal 2 seconds

/-- A UTC date-time in one word. -/
def timestamp (time : DateTime) : String :=
  Text.signedDecimal 4 time.date.year ++ "-" ++ Text.decimal 2 time.date.month ++ "-"
    ++ Text.decimal 2 time.date.day ++ "T"
    ++ timeOfDay time.hour time.minute time.second ++ "Z"

/-- A TDT shows its UTC time as null when its fields form none. -/
def tdt (tdt : Tdt) : Json :=
  object [
    ("date", date (ModifiedJulian.date tdt.mjd)),
    ("mjd", nat tdt.mjd),
    ("table", text TableKind.tdt.name),
    ("utc", match tdt.utc? with
      | some utc => text (timestamp utc)
      | none => null)]

/-- An offset as hours and minutes, `+` ahead of UTC and `-` behind. -/
def signedOffset (polarity : Polarity) (hours minutes : Nat) : String :=
  let sign := match polarity with
    | .ahead => "+"
    | .behind => "-"
  sign ++ Text.decimal 2 hours ++ ":" ++ Text.decimal 2 minutes

def localTimeOffset (offset : LocalTimeOffset) : Json :=
  object [
    ("country", text (Text.Utf8.lossy offset.countryCode)),
    ("next_offset", text (signedOffset offset.polarity offset.nextHours offset.nextMinutes)),
    ("offset", text (signedOffset offset.polarity offset.hours offset.minutes)),
    ("region", nat offset.region),
    ("time_of_change_mjd", nat offset.changeMjd)]

def tot (tot : Tot) : Json :=
  object [
    ("date", date (ModifiedJulian.date tot.mjd)),
    ("mjd", nat tot.mjd),
    ("offsets", array (tot.offsets.map localTimeOffset)),
    ("table", text TableKind.tot.name),
    ("utc", text (timeOfDay (packedDecimal tot.hours) (packedDecimal tot.minutes)
      (packedDecimal tot.seconds)))]

/-- The report of a table. -/
def table : Table → Json
  | .pat table => pat table
  | .pmt table => pmt table
  | .tdt table => tdt table
  | .tot table => tot table

/-- The reports of the tables that a registry holds. -/
def registry (registry : Registry) : Json :=
  array (registry.tables.map table)

/-- The reports of the sections of a recording that can be decoded, in order. -/
def recording (data : Bytes) : List Json :=
  (Table.ofRecording data).filterMap fun
    | some (.ok decoded) => some (table decoded)
    | _ => none

end DvbReceiver.Report
