import DvbReceiver.Session.State
import DvbReceiver.Proofs.LocalTime.Supported
import DvbReceiver.Proofs.Machine.Decoding
import DvbReceiver.Proofs.Registry.Stores

/-!
# Receiving on a machine

What a receiver does with a section on a machine that delivers it: the table id chooses the decoder,
and an accepted table is stored under the next number of a counter of 64 bits. No bytes that are
broadcast are a fault there, and neither is the local time that is made of an accepted TDT and an
accepted TOT (`Machine.receiving_safe`). Only a counter that has come to its end is one.
-/

namespace DvbReceiver

theorem Table.kind_of_decode {kind : TableKind} {buffer : Bytes} {table : Table}
    (h : decode kind buffer = .ok table) : table.kind = kind := by
  cases kind <;> obtain ⟨decoded, -, rfl⟩ := map_eq_ok.1 h <;> rfl

theorem Session.registry_post {σ : Type} (s : Session σ) (signal : Signal) :
    (s.post signal).registry = s.registry := by
  unfold post
  split <;> rfl

theorem Session.sequence_receive_le {σ : Type} (s : Session σ) (bytes : Bytes) :
    (s.receive bytes).registry.sequence ≤ s.registry.sequence + 1 := by
  unfold receive
  split
  · rw [registry_post]
    exact (Registry.sequence_store s.registry _).le
  · exact Nat.le_succ _

namespace Machine

open Checked

variable {σ : Type} (machine : Machine)

/-- Stores an accepted table of the given kind under the next number, and announces it. -/
def store (s : Session σ) (kind : TableKind) : Except ParseError Table → Except Fault (Session σ)
  | .error _ => .ok s
  | .ok table => do
    check 64 (s.registry.sequence + 1)
    return ({ s with registry := s.registry.store table }.record (.stored table)).post
      (.tableArrived kind)

/-- Takes in a section. -/
def receive (s : Session σ) (bytes : Bytes) : Except Fault (Session σ) :=
  match Table.announced? bytes with
  | none => .ok s
  | some kind => (machine.table bytes kind).run >>= store s kind

/-- A time that lies in a supported year. -/
def supported (time : DateTime) : Except Fault DateTime :=
  if time.date.InRange then .ok time else .error .unsupportedDate

/-- The local time of a country at a UTC time. Durations are numbers of milliseconds with 63 bits
and a sign. -/
def localTime (utc : DateTime) (tot : Tot) (country : Option String) : Except Fault DateTime :=
  match tot.offsetFor? country with
  | none => .ok utc
  | some offset => do
    check 63 (1000 * (3600 * offset.hours))
    check 63 (1000 * (60 * offset.minutes))
    check 63 (1000 * (3600 * offset.hours + 60 * offset.minutes))
    supported (utc.addSeconds offset.inSeconds)

variable {machine}

theorem receive_eq {s : Session σ} (h : s.registry.sequence + 1 < 2 ^ 64) (bytes : Bytes) :
    machine.receive s bytes = .ok (s.receive bytes) := by
  unfold receive Session.receive Table.ofSection?
  cases Table.announced? bytes with
  | none => rfl
  | some kind =>
    change (machine.table bytes kind).run >>= store s kind = _
    rw [Option.map_some, table_eq]
    cases hdecode : Table.decode kind bytes with
    | error error => rfl
    | ok table =>
      obtain rfl : table.kind = kind := Table.kind_of_decode hdecode
      change (check 64 (s.registry.sequence + 1) >>= fun _ => _) = _
      rw [check_of_lt h]
      rfl

/-- A run over sections, as long as there are numbers for their tables. -/
theorem foldlM_receive {s : Session σ} {sections : List Bytes}
    (h : s.registry.sequence + sections.length < 2 ^ 64) :
    sections.foldlM machine.receive s = .ok (sections.foldl Session.receive s) := by
  induction sections generalizing s with
  | nil => rfl
  | cons bytes sections ih =>
    have hnext := s.sequence_receive_le bytes
    rw [List.length_cons] at h
    rw [List.foldlM_cons, receive_eq (by omega), ok_bind, ih (by omega), List.foldl_cons]

theorem supported_of_inRange {time : DateTime} (h : time.date.InRange) :
    supported time = .ok time :=
  if_pos h

theorem localTime_eq {tdtSection totSection : Bytes} {tdt : Tdt} {tot : Tot} {utc : DateTime}
    (htdt : Tdt.decode tdtSection = .ok tdt) (hutc : tdt.utc? = some utc)
    (htot : Tot.decode totSection = .ok tot) (country : Option String) :
    localTime utc tot country = .ok (LocalTime.resolve utc (some tot) country) := by
  have hreal := LocalTime.isReal_resolve htdt hutc htot country
  rw [LocalTime.resolve, Option.bind_some] at *
  unfold localTime
  cases hfound : tot.offsetFor? country with
  | none => rfl
  | some offset =>
    obtain ⟨bytes, hdecode⟩ := Tot.decoded_of_offsetFor? htot hfound
    obtain ⟨hhours, hminutes⟩ := LocalTimeOffset.fields_le_of_decode hdecode
    have hinRange : (utc.addSeconds offset.inSeconds).date.InRange := by
      rw [hfound] at hreal
      exact hreal.1
    simp only [check_of_lt (show 1000 * (3600 * offset.hours) < 2 ^ 63 by omega),
      check_of_lt (show 1000 * (60 * offset.minutes) < 2 ^ 63 by omega),
      check_of_lt (show 1000 * (3600 * offset.hours + 60 * offset.minutes) < 2 ^ 63 by omega),
      ok_bind, supported_of_inRange hinRange]
    rfl

/-- **Nothing that is broadcast is a fault.** On every machine a decoder accepts or rejects a
section, whatever its bytes are, and sections can be received as long as the counter of stores has a
number for each of them. And the local time can be made of every accepted TDT that has a UTC time
and every accepted TOT, for every country. -/
theorem receiving_safe (machine : Machine) (s : Session σ) (sections : List Bytes)
    (hcount : s.registry.sequence + sections.length < 2 ^ 64) :
    (∀ kind bytes, machine.table bytes kind = safely (Table.decode kind bytes)) ∧
      sections.foldlM machine.receive s = .ok (sections.foldl Session.receive s) ∧
      ∀ {tdtSection totSection : Bytes} {tdt : Tdt} {tot : Tot} {utc : DateTime},
        Tdt.decode tdtSection = .ok tdt → tdt.utc? = some utc → Tot.decode totSection = .ok tot →
        ∀ country, localTime utc tot country = .ok (LocalTime.resolve utc (some tot) country) :=
  ⟨fun kind _ => table_eq kind, foldlM_receive hcount,
    fun htdt hutc htot country => localTime_eq htdt hutc htot country⟩

/-! ## A sample -/

namespace Sample

/-- A machine with addresses of 64 bits. -/
def wideMachine : Machine where
  addressBits := 64
  readBits? bytes skipped width :=
    if skipped + width ≤ 8 * bytes.length then some (Bits.field bytes skipped width) else none
  wide := by decide
  reads _ _ _ _ _ h := if_pos h

/-- A TDT section with the first of all days. -/
def tdtSection : Bytes := [0x70, 0x70, 0x05, 0x00, 0x00, 0x23, 0x59, 0x59]

/-- What `tdtSection` decodes to. -/
def firstTdt : Tdt where
  header := { tableId := 0x70, sectionSyntaxIndicator := false, sectionLength := 5 }
  mjd := 0
  hours := 23
  minutes := 59
  seconds := 59

/-- A TOT section with the greatest of all offsets, behind UTC. -/
def totSection : Bytes :=
  [0x73, 0x70, 0x1A, 0x00, 0x00, 0x23, 0x59, 0x59, 0xF0, 0x0F, 0x58, 0x0D,
    0x47, 0x42, 0x52, 0x03, 0xFF, 0xFF, 0x00, 0x00, 0x00, 0x00, 0x00, 0x00, 0x00,
    0x00, 0x00, 0x00, 0x00]

/-- A session that has not received anything. -/
def session : Session Unit := .start {} ()

/-- The sections, one that is cut off, and one of no known kind. -/
def sections : List Bytes := [tdtSection, totSection, [0x02, 0xB0], [0x42, 0x00, 0x00]]

end Sample

open Sample in
theorem receiving_safe_extreme :
    session.registry.sequence + sections.length < 2 ^ 64 ∧
      (∀ kind bytes, wideMachine.table bytes kind = safely (Table.decode kind bytes)) ∧
      sections.foldlM wideMachine.receive session = .ok (sections.foldl Session.receive session) ∧
      ∃ utc tot, Tdt.decode tdtSection = .ok firstTdt ∧ firstTdt.utc? = some utc ∧
        Tot.decode totSection = .ok tot ∧
        localTime utc tot (some "GBR") = .ok (LocalTime.resolve utc (some tot) (some "GBR")) := by
  have hcount : session.registry.sequence + sections.length < 2 ^ 64 := by decide
  have htdt : Tdt.decode tdtSection = .ok firstTdt := by decide +kernel
  have hok : (Tot.decode totSection).isOk := by decide +kernel
  obtain ⟨hdecoded, hreceived, htime⟩ := receiving_safe wideMachine session sections hcount
  rcases htot : Tot.decode totSection with error | tot
  · rw [htot] at hok
    cases hok
  · exact ⟨hcount, hdecoded, hreceived, ⟨⟨1858, 11, 18⟩, 86399, 0⟩, tot, htdt, rfl, rfl,
      htime htdt rfl htot (some "GBR")⟩

end Machine

end DvbReceiver
