import DvbReceiver.CommandLine
import DvbReceiver.Proofs.Section.Split
import DvbReceiver.Proofs.Text.Hex

/-!
# Decoding recordings

The command that decodes a recording prints a document for each section that announces a kind of
table and is accepted by the decoder of that kind (`Report.Reported`). A section that does not is
passed over. It neither ends the command nor changes what is printed for the others.

So recordings may be put one behind the other (`CommandLine.decode_append`): if sections fill the
first of them to the end, the command prints the documents of both in their order. It succeeds
exactly if there is a document to print.

A recording may also be given as hexadecimal text. The command then comes to the same as for the
octets that the text spells, and fails for any other text (`CommandLine.hexadecimal_alike`).
-/

namespace DvbReceiver

open Section

namespace Report

/-- The documents for a row of sections: one for each section that a decoder accepts, in order. -/
inductive Reported : List Bytes → List Json → Prop
  | nil : Reported [] []
  | accepted {bytes : Bytes} {sections : List Bytes} {docs : List Json} {kind : TableKind}
    {decoded : Table} (hkind : Table.announced? bytes = some kind)
    (hdecode : Table.decode kind bytes = .ok decoded) (h : Reported sections docs) :
    Reported (bytes :: sections) (table decoded :: docs)
  | passed {bytes : Bytes} {sections : List Bytes} {docs : List Json}
    (hnot : ∀ kind decoded, Table.announced? bytes = some kind →
      Table.decode kind bytes ≠ .ok decoded) (h : Reported sections docs) :
    Reported (bytes :: sections) docs

/-- The document for a single section. -/
def document? (bytes : Bytes) : Option Json :=
  match Table.ofSection? bytes with
  | some (.ok decoded) => some (table decoded)
  | _ => none

theorem recording_eq_filterMap (data : Bytes) :
    recording data = (split data).filterMap document? := by
  rw [recording, Table.ofRecording, List.filterMap_map]
  rfl

theorem document?_eq_some_iff {bytes : Bytes} {doc : Json} :
    document? bytes = some doc ↔ ∃ kind decoded, Table.announced? bytes = some kind ∧
      Table.decode kind bytes = .ok decoded ∧ table decoded = doc := by
  unfold document? Table.ofSection?
  cases hkind : Table.announced? bytes with
  | none => simp
  | some kind => cases hdecode : Table.decode kind bytes <;> simp [hdecode]

theorem reported_filterMap (sections : List Bytes) :
    Reported sections (sections.filterMap document?) := by
  induction sections with
  | nil => exact .nil
  | cons bytes sections ih =>
    cases hdoc : document? bytes with
    | none =>
      rw [List.filterMap_cons_none hdoc]
      refine .passed (fun kind decoded hkind hdecode => ?_) ih
      cases hdoc.symm.trans (document?_eq_some_iff.2 ⟨kind, decoded, hkind, hdecode, rfl⟩)
    | some doc =>
      obtain ⟨kind, decoded, hkind, hdecode, rfl⟩ := document?_eq_some_iff.1 hdoc
      rw [List.filterMap_cons_some hdoc]
      exact .accepted hkind hdecode ih

/-- There are no other documents for the sections. -/
theorem Reported.eq_filterMap {sections : List Bytes} {docs : List Json}
    (h : Reported sections docs) : docs = sections.filterMap document? := by
  induction h with
  | nil => rfl
  | accepted hkind hdecode _ ih =>
    rw [List.filterMap_cons_some (document?_eq_some_iff.2 ⟨_, _, hkind, hdecode, rfl⟩), ih]
  | @passed bytes _ _ hnot _ ih =>
    have hdoc : document? bytes = none := by
      rw [Option.eq_none_iff_forall_ne_some]
      intro doc hdoc
      obtain ⟨kind, decoded, hkind, hdecode, -⟩ := document?_eq_some_iff.1 hdoc
      exact hnot kind decoded hkind hdecode
    rw [List.filterMap_cons_none hdoc, ih]

theorem reported_split_iff {data : Bytes} {docs : List Json} :
    Reported (split data) docs ↔ recording data = docs := by
  rw [recording_eq_filterMap]
  constructor
  · intro h
    exact h.eq_filterMap.symm
  · rintro rfl
    exact reported_filterMap _

theorem recording_append {front : Bytes} (h : (split front).flatten = front) (back : Bytes) :
    recording (front ++ back) = recording front ++ recording back := by
  simp only [recording_eq_filterMap, split_append h, List.filterMap_append]

end Report

namespace CommandLine

open Text.Hex (Spells Malformed ReadsPairs)

/-- What the command that decodes a recording comes to for a file with the given contents. -/
def decoded (program : Program) (file : String) (data : Bytes) : Outcome :=
  (Request.run (.decode file false)).outcome program fun _ => .ok data

/-- The command prints exactly the given documents, one after another and each with a line break
behind it. They are those for the sections of the recording, and the exit code tells whether there
are any. -/
structure Prints (program : Program) (file : String) (data : Bytes) (docs : List Json) : Prop where
  output_eq : (decoded program file data).output = String.join (docs.map (·.pretty ++ "\n"))
  code_eq_zero_iff : (decoded program file data).code = 0 ↔ docs ≠ []
  reported : Report.Reported (split data) docs

variable (program : Program) (file : String)

theorem decoded_eq (data : Bytes) :
    decoded program file data =
      if Report.recording data = [] then
        .failed { message := s!"no PAT/PMT/TDT/TOT section found in {file}" }
      else .printed (documents (Report.recording data)) := by
  have houtput : (Command.decode file false).output (fun _ => .ok data) = reports file data := rfl
  rw [decoded, Request.outcome, houtput, reports]
  cases Report.recording data <;> simp

theorem prints_recording (data : Bytes) : Prints program file data (Report.recording data) := by
  have hdecoded := decoded_eq program file data
  by_cases hdocs : Report.recording data = []
  · rw [if_pos hdocs] at hdecoded
    constructor
    · rw [hdecoded, hdocs]
      rfl
    · simp [hdecoded, hdocs, Outcome.code]
    · exact Report.reported_split_iff.2 rfl
  · rw [if_neg hdocs] at hdecoded
    constructor
    · rw [hdecoded]
      rfl
    · simp [hdecoded, hdocs, Outcome.code]
    · exact Report.reported_split_iff.2 rfl

/-- **Recordings may be put one behind the other.** If sections fill the first recording to the end,
the documents of both are printed in their order, whatever the second recording is. -/
theorem decode_append {front : Bytes} (h : (split front).flatten = front) (back : Bytes) :
    ∃ first second, Prints program file front first ∧ Prints program file back second ∧
      Prints program file (front ++ back) (first ++ second) ∧
      (decoded program file (front ++ back)).output =
        (decoded program file front).output ++ (decoded program file back).output := by
  have hfront := prints_recording program file front
  have hback := prints_recording program file back
  have hboth := prints_recording program file (front ++ back)
  rw [Report.recording_append h] at hboth
  refine ⟨_, _, hfront, hback, hboth, ?_⟩
  rw [hboth.output_eq, hfront.output_eq, hback.output_eq, List.map_append, String.join_append]

/-- A TDT, a section of no known kind, a PAT without a header, and a PAT with one service. -/
def mixed : Bytes :=
  [0x70, 0x70, 0x05, 0xC0, 0x79, 0x12, 0x45, 0x00] ++ [0x42, 0x00, 0x01, 0xAA] ++
    [0x00, 0xB0, 0x00] ++
    [0x00, 0xB0, 0x0D, 0x12, 0x34, 0xCB, 0x00, 0x00, 0x00, 0x01, 0xE1, 0x00, 0xDE, 0xAD, 0xBE, 0xEF]

/-- What is printed for `mixed`. -/
def mixedText : String :=
  "\x7b\n  \"date\": \x7b\n    \"day\": 13,\n    \"month\": 10,\n    \"year\": 1993\n  \x7d,\n" ++
    "  \"mjd\": 49273,\n  \"table\": \"TDT\",\n  \"utc\": \"1993-10-13T12:45:00Z\"\n\x7d\n" ++
    "\x7b\n  \"services\": [\n    \x7b\n      \"index\": 0,\n      \"pmt_pid\": 256,\n" ++
    "      \"program_number\": 1,\n      \"reserved\": true\n    \x7d\n  ],\n" ++
    "  \"table\": \"PAT\",\n  \"transport_stream_id\": 4660,\n  \"version\": 5\n\x7d\n"

/-- A program by its names. -/
def receiver : Program := ⟨"receiver", "receiver", "1", "LOG"⟩

/-- The second recording goes on after its last section with an octet that begins none. -/
theorem decode_append_mixed :
    (split mixed).flatten = mixed ∧ (split mixed).length = 4 ∧
      (decoded receiver "mixed" mixed).code = 0 ∧
      (decoded receiver "mixed" mixed).output = mixedText ∧
      (decoded receiver "mixed" (mixed ++ [0xFF])).output = mixedText ∧
      (decoded receiver "mixed" (mixed ++ (mixed ++ [0xFF]))).output = mixedText ++ mixedText ∧
      ∃ first second, Prints receiver "mixed" mixed first ∧
        Prints receiver "mixed" (mixed ++ [0xFF]) second ∧
        Prints receiver "mixed" (mixed ++ (mixed ++ [0xFF])) (first ++ second) := by
  have hfills : (split mixed).flatten = mixed := by decide +kernel
  have hfront : (decoded receiver "mixed" mixed).output = mixedText := by decide +kernel
  have hback : (decoded receiver "mixed" (mixed ++ [0xFF])).output = mixedText := by
    decide +kernel
  obtain ⟨first, second, hfirst, hsecond, hboth, houtput⟩ :=
    decode_append receiver "mixed" hfills (mixed ++ [0xFF])
  rw [hfront, hback] at houtput
  exact ⟨hfills, by decide +kernel, by decide +kernel, hfront, hback, houtput, first, second,
    hfirst, hsecond, hboth⟩

/-! ## Hexadecimal recordings -/

/-- What the command comes to that decodes a recording given as hexadecimal text. -/
def decodedHex (text : Bytes) : Outcome :=
  (Request.run (.decode file true)).outcome program fun _ => .ok text

/-- What the same command comes to if digits without blanks are read in the given way. -/
def decodedBy {ε : Type} (read : Bytes → Except ε Bytes) (message : ε → String) (text : Bytes) :
    Outcome :=
  match orFail "invalid hex input" message (read (Text.Hex.unspaced text)) >>= reports file with
  | .ok printed => .printed printed
  | .error failure => .failed failure

/-- The outcome is that of a recording given as this text: what the text spells is decoded, and a
malformed text leads to no document. -/
structure Alike (text : Bytes) (outcome : Outcome) : Prop where
  spelled (bytes : Bytes) (h : Spells text bytes) : outcome = decoded program file bytes
  malformed (h : Malformed text) : outcome.output = documents [] ∧ outcome.code = 1

theorem decodedHex_eq (text : Bytes) :
    decodedHex program file text =
      decodedBy file Text.Hex.strict Text.Hex.DecodeError.message text := rfl

theorem alike_decodedBy {ε : Type} {read : Bytes → Except ε Bytes} (hread : ReadsPairs read)
    (message : ε → String) (text : Bytes) :
    Alike program file text (decodedBy file read message text) where
  spelled bytes h := by
    rw [decodedBy, hread.eq_ok_iff.2 h]
    rfl
  malformed h := by
    obtain ⟨error, herror⟩ := hread.exists_eq_error h
    rw [decodedBy, herror]
    exact ⟨rfl, rfl⟩

/-- **Recordings may be given as hexadecimal text.** The command comes to the same as for the octets
that the text spells: it prints the same documents, or fails in the same way, and ends with the same
code. It prints nothing and fails for every text that spells no octets, and these are the malformed
ones. None of this depends on how the digits are read, as long as pairs of them are and everything
else is refused. -/
theorem hexadecimal_alike (text : Bytes) :
    Alike program file text (decodedHex program file text) ∧
      (∀ (ε : Type) (read : Bytes → Except ε Bytes) (message : ε → String), ReadsPairs read →
        Alike program file text (decodedBy file read message text)) ∧
      ((∃ bytes, Spells text bytes) ∨ Malformed text) := by
  refine ⟨?_, fun _ read message hread => ?_, ?_⟩
  · rw [decodedHex_eq]
    exact alike_decodedBy program file Text.Hex.readsPairs_strict _ text
  · exact alike_decodedBy program file hread message text
  · rw [Text.Hex.malformed_iff, ← not_exists]
    exact Classical.em _

/-- A TDT in small and capital digits, with a blank inside an octet and a line break at the end. -/
def hexTdt : Bytes := Bytes.ofString "70 70 05\nd7 3 9\t23 50 00\r\n"

theorem hexadecimal_alike_blanks :
    Spells hexTdt [0x70, 0x70, 0x05, 0xD7, 0x39, 0x23, 0x50, 0x00] ∧
      decodedHex receiver "input" hexTdt =
        decoded receiver "input" [0x70, 0x70, 0x05, 0xD7, 0x39, 0x23, 0x50, 0x00] ∧
      Malformed (hexTdt ++ [0x37]) ∧
      (decodedHex receiver "input" (hexTdt ++ [0x37])).output = documents [] ∧
      (decodedHex receiver "input" (hexTdt ++ [0x37])).code = 1 ∧
      ReadsPairs Text.Hex.strict ∧
      decodedBy "input" Text.Hex.strict Text.Hex.DecodeError.message hexTdt =
        decoded receiver "input" [0x70, 0x70, 0x05, 0xD7, 0x39, 0x23, 0x50, 0x00] := by
  have hspells : Spells hexTdt [0x70, 0x70, 0x05, 0xD7, 0x39, 0x23, 0x50, 0x00] :=
    Text.Hex.decode_eq_ok_iff.1 (by decide +kernel)
  have hmalformed : Malformed (hexTdt ++ [0x37]) := .inl (by decide +kernel)
  have hread : ReadsPairs Text.Hex.strict := Text.Hex.readsPairs_strict
  obtain ⟨halike, hevery, -⟩ := hexadecimal_alike receiver "input" hexTdt
  obtain ⟨hfails, -, -⟩ := hexadecimal_alike receiver "input" (hexTdt ++ [0x37])
  obtain ⟨houtput, hcode⟩ := hfails.malformed hmalformed
  exact ⟨hspells, halike.spelled _ hspells, hmalformed, houtput, hcode, hread,
    (hevery _ _ _ hread).spelled _ hspells⟩

end CommandLine

end DvbReceiver
