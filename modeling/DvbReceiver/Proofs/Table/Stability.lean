import DvbReceiver.Proofs.Table.Pat
import DvbReceiver.Proofs.Table.Pmt
import DvbReceiver.Proofs.Table.Tot

/-!
# Decoding under more data

A decoder reads a buffer from its front and notices the end only when it misses bytes. So what it
makes of a buffer stays when more bytes come behind it, with one exception: an error about missing
bytes goes on counting those that are there, until as many have come as it says are missing.
`StableAt` states this for a reader and a buffer, and `Table.decoders_stable` for the decoders of
all four tables.

Readers that are composed of stable readers are stable (`StableAt.bind`). A reader that starts
further on in the buffer may start past its end, where bytes that come are not yet its own; that
does no harm to one that asks for a single byte first (`StableAt.drop`).
-/

namespace DvbReceiver

variable {α β : Type} {buffer : Bytes}

/-- What a reader makes of a buffer stays when more bytes come behind it. Only an error about
missing bytes gives way, and not before as many have come as it says are missing. -/
structure StableAt (read : Bytes → Except ParseError α) (buffer : Bytes) : Prop where
  settled : (∀ needed available, read buffer ≠ .error (.truncated needed available)) →
    ∀ more, read (buffer ++ more) = read buffer
  lacking : ∀ needed available, read buffer = .error (.truncated needed available) →
    available < needed ∧ ∀ more : Bytes, more.length < needed - available →
      read (buffer ++ more) = .error (.truncated needed (available + more.length))

namespace StableAt

variable {read : Bytes → Except ParseError α} {next : α → Bytes → Except ParseError β}

theorem of_settled {result : Except ParseError α}
    (hresult : ∀ needed available, result ≠ .error (.truncated needed available))
    (h : ∀ more, read (buffer ++ more) = result) : StableAt read buffer := by
  have hread : read buffer = result := by simpa using h []
  constructor
  · intro _ more
    rw [h, hread]
  · intro needed available hlacks
    exact absurd (hread.symm.trans hlacks) (hresult needed available)

theorem of_lacking {needed available : Nat} (hlt : available < needed)
    (h : ∀ more : Bytes, more.length < needed - available →
      read (buffer ++ more) = .error (.truncated needed (available + more.length))) :
    StableAt read buffer := by
  have hread : read buffer = .error (.truncated needed available) := by
    simpa using h [] (by simpa using hlt)
  constructor
  · intro hsettled
    exact absurd hread (hsettled needed available)
  · intro needed' available' hlacks
    obtain ⟨rfl, rfl⟩ : needed = needed' ∧ available = available' := by
      simpa using hread.symm.trans hlacks
    exact ⟨hlt, h⟩

theorem of_ok {a : α} (h : ∀ more, read (buffer ++ more) = .ok a) : StableAt read buffer :=
  of_settled (fun _ _ => by simp) h

theorem ret (a : α) : StableAt (fun _ => pure a) buffer := of_ok fun _ => rfl

/-- A stable reader goes on to a stable reader. -/
theorem bind (h : StableAt read buffer)
    (hnext : ∀ a, read buffer = .ok a → StableAt (next a) buffer) :
    StableAt (fun buffer => read buffer >>= fun a => next a buffer) buffer := by
  rcases hread : read buffer with error | a
  · by_cases herror : ∃ needed available, error = .truncated needed available
    · obtain ⟨needed, available, rfl⟩ := herror
      obtain ⟨hlt, hmore⟩ := h.lacking needed available hread
      refine of_lacking hlt fun more hlength => ?_
      rw [hmore more hlength, error_bind]
    · have hne : ∀ needed available, read buffer ≠ .error (.truncated needed available) := by
        intro needed available hlacks
        exact herror ⟨needed, available, Except.error.inj (hread.symm.trans hlacks)⟩
      have hother : ∀ needed available,
          (.error error : Except ParseError β) ≠ .error (.truncated needed available) := by
        intro needed available heq
        exact herror ⟨needed, available, Except.error.inj heq⟩
      refine of_settled hother fun more => ?_
      rw [h.settled hne, hread, error_bind]
  · have hmore : ∀ more, read (buffer ++ more) = .ok a := by
      intro more
      rw [h.settled (by simp [hread]), hread]
    constructor
    · intro hsettled more
      simp only [hread, ok_bind, hmore] at hsettled ⊢
      exact (hnext a hread).settled hsettled more
    · intro needed available hlacks
      simp only [hread, ok_bind, hmore] at hlacks ⊢
      exact (hnext a hread).lacking needed available hlacks

/-- A reader may start further on, in the buffer or at its end. -/
theorem drop_of_le {start : Nat} (h : StableAt read (buffer.drop start))
    (hstart : start ≤ buffer.length) :
    StableAt (fun buffer => read (buffer.drop start)) buffer := by
  have hdrop (more : Bytes) : (buffer ++ more).drop start = buffer.drop start ++ more :=
    List.drop_append_of_le_length hstart
  constructor
  · intro hsettled more
    simp only [hdrop]
    exact h.settled hsettled more
  · intro needed available hlacks
    obtain ⟨hlt, hmore⟩ := h.lacking needed available hlacks
    refine ⟨hlt, fun more hlength => ?_⟩
    simp only [hdrop]
    exact hmore more hlength

/-- Past the end of the buffer nothing can come before the byte that is asked for first. -/
theorem drop {start : Nat} (h : StableAt read (buffer.drop start))
    (hfirst : read [] = .error (.truncated 1 0)) :
    StableAt (fun buffer => read (buffer.drop start)) buffer := by
  rcases Nat.le_total start buffer.length with hle | hge
  · exact h.drop_of_le hle
  · refine of_lacking Nat.one_pos fun more hlength => ?_
    obtain rfl : more = [] := List.eq_nil_of_length_eq_zero (by omega)
    simpa [List.drop_of_length_le hge] using hfirst

end StableAt

/-! ## Fields and headers -/

namespace Bits

theorem stableAt_require (needed : Nat) : StableAt (require · needed) buffer := by
  rcases Nat.lt_or_ge buffer.length needed with hlt | hge
  · refine .of_lacking hlt fun more hlength => ?_
    rw [require_of_lt (by rw [List.length_append]; omega), List.length_append]
  · refine .of_ok fun more => require_of_le ?_
    rw [List.length_append]
    omega

theorem stableAt_extract {offset width : Nat} (hpos : 0 < width) (hwidth : width ≤ 32) :
    StableAt (extract · offset width) buffer := by
  rcases Nat.lt_or_ge (8 * buffer.length) (offset + width) with hlt | hge
  · have hneeded : 8 * bytesFor (offset + width) < offset + width + 8 := by
      unfold bytesFor
      omega
    have hlack : buffer.length < bytesFor (offset + width) :=
      Nat.lt_of_not_le fun h => Nat.not_le.2 hlt (bytesFor_le_iff.1 h)
    refine .of_lacking hlack fun more hlength => ?_
    have hshort : 8 * (buffer ++ more).length < offset + width := by
      rw [List.length_append]
      omega
    rw [extract_of_lt hpos hwidth hshort, List.length_append]
  · refine .of_ok (a := field buffer offset width) fun more => ?_
    rw [extract_of_le hpos hwidth (by rw [List.length_append]; omega), field_append_left _ _ hge]

theorem stableAt_u8At (offset : Nat) : StableAt (u8At · offset) buffer :=
  stableAt_extract (by decide) (by decide)

theorem stableAt_u16At (offset : Nat) : StableAt (u16At · offset) buffer :=
  stableAt_extract (by decide) (by decide)

theorem stableAt_lowBits {offset width : Nat} (hpos : 0 < width) (hwidth : width ≤ 16) :
    StableAt (lowBits · offset width) buffer :=
  stableAt_extract hpos (by omega)

theorem stableAt_flag (offset : Nat) : StableAt (flag · offset) buffer :=
  (stableAt_extract (by decide) (by decide)).bind fun bit _ => .ret (bit == 1)

end Bits

open Bits

theorem ShortHeader.stableAt_decode : StableAt ShortHeader.decode buffer :=
  (stableAt_u8At 0).bind fun _ _ => (stableAt_flag 8).bind fun _ _ =>
    (stableAt_lowBits (by decide) (by decide)).bind fun _ _ => .ret _

theorem LongHeader.stableAt_decode (expected : Nat) :
    StableAt (LongHeader.decode expected) buffer := by
  refine (stableAt_u8At 0).bind fun found _ => ?_
  by_cases hfound : found ≠ expected
  · simp only [if_pos hfound]
    exact .of_settled (fun _ _ => by simp) fun _ => rfl
  · simp only [if_neg hfound]
    exact (stableAt_require 8).bind fun _ _ => ShortHeader.stableAt_decode.bind fun _ _ =>
      (stableAt_u16At 3).bind fun _ _ => (stableAt_extract (by decide) (by decide)).bind fun _ _ =>
      (stableAt_flag 47).bind fun _ _ => (stableAt_u8At 6).bind fun _ _ =>
      (stableAt_u8At 7).bind fun _ _ => .ret _

theorem LongHeader.length_of_decode {expected : Nat} {header : LongHeader}
    (h : LongHeader.decode expected buffer = .ok header) : 8 ≤ buffer.length := by
  rw [LongHeader.decode_eq] at h
  split_ifs at h with _ _ hlength
  exact Nat.not_lt.1 hlength

/-! ## Loops -/

theorem BoundedList.stableAt_push {capacity : Nat} (list : BoundedList α capacity)
    (table : TableKind) (item : α) : StableAt (fun _ => list.push table item) buffer := by
  refine .of_settled (fun needed available => ?_) fun _ => rfl
  unfold push
  split <;> simp

namespace RecordLoop

variable {loop : RecordLoop α} {capacity : Nat}

theorem stableAt_run_drop {start declared : Nat} {read : BoundedList α capacity}
    (h : StableAt (loop.run · declared read) (buffer.drop start))
    (hstart : loop.decode [] = .error (.truncated 1 0) ∨ start ≤ buffer.length) :
    StableAt (fun buffer => loop.run (buffer.drop start) declared read) buffer := by
  by_cases hdeclared : declared = 0
  · subst hdeclared
    exact .of_ok fun more => run_zero _ read
  · rcases hstart with hfirst | hle
    · exact h.drop (run_of_error hdeclared hfirst)
    · exact h.drop_of_le hle

/-- A loop over stable records is stable, if each record that is decoded lies in the buffer up to
the place of the next, or if a record is asked for byte by byte from its first on. -/
theorem stableAt_run (hdecode : ∀ buffer, StableAt loop.decode buffer)
    (hstride : loop.decode [] = .error (.truncated 1 0) ∨
      ∀ buffer record, loop.decode buffer = .ok record → loop.stride record ≤ buffer.length)
    (buffer : Bytes) (declared : Nat) (read : BoundedList α capacity) :
    StableAt (loop.run · declared read) buffer := by
  induction buffer, declared, read using run.induct loop with
  | case1 buffer read => exact .of_ok fun more => run_zero _ read
  | case2 buffer declared read hdeclared ih =>
    have hrun : (loop.run · declared read) = fun buffer => loop.decode buffer >>= fun record =>
        read.push loop.table record >>= fun read =>
          loop.run (buffer.drop (loop.stride record)) (declared - loop.cost record) read := by
      funext buffer
      rw [run, if_neg hdeclared]
    rw [hrun]
    refine (hdecode buffer).bind fun record hrecord => ?_
    refine (read.stableAt_push loop.table record).bind fun pushed _ => ?_
    exact stableAt_run_drop (ih record pushed) (hstride.imp_right fun h => h buffer record hrecord)

end RecordLoop

/-! ## The tables -/

namespace Pat

theorem Service.stableAt_decode : StableAt Service.decode buffer :=
  (stableAt_u16At 0).bind fun _ _ => (stableAt_lowBits (by decide) (by decide)).bind fun _ _ =>
    .ret _

theorem Service.length_of_decode {service : Service} (h : Service.decode buffer = .ok service) :
    serviceSize ≤ buffer.length := by
  by_contra hlt
  obtain ⟨needed, herror⟩ := Service.decode_of_lt (Nat.lt_of_not_le hlt)
  cases herror.symm.trans h

theorem stableAt_decode : StableAt Pat.decode buffer := by
  refine (LongHeader.stableAt_decode _).bind fun header hheader => ?_
  rw [readServices_eq_run]
  refine StableAt.bind (RecordLoop.stableAt_run_drop ?_ ?_) fun _ _ => .ret _
  · exact RecordLoop.stableAt_run (fun _ => Service.stableAt_decode)
      (.inr fun _ _ => Service.length_of_decode) _ _ _
  · exact .inr (LongHeader.length_of_decode hheader)

end Pat

namespace Pmt

theorem Header.stableAt_decode : StableAt Header.decode buffer :=
  (LongHeader.stableAt_decode _).bind fun _ _ =>
    (stableAt_lowBits (by decide) (by decide)).bind fun _ _ =>
      (stableAt_lowBits (by decide) (by decide)).bind fun _ _ => .ret _

theorem Stream.stableAt_decode : StableAt Stream.decode buffer :=
  (stableAt_u8At 0).bind fun _ _ => (stableAt_lowBits (by decide) (by decide)).bind fun _ _ =>
    (stableAt_lowBits (by decide) (by decide)).bind fun _ _ => .ret _

/-- The skipped descriptors may lead past the end of the buffer. -/
theorem stableAt_decode : StableAt Pmt.decode buffer := by
  have hfirst : streamLoop.decode [] = .error (.truncated 1 0) := rfl
  refine Header.stableAt_decode.bind fun header _ => ?_
  rw [readStreams_eq_run]
  refine StableAt.bind (RecordLoop.stableAt_run_drop ?_ (.inl hfirst)) fun _ _ => .ret _
  exact RecordLoop.stableAt_run (fun _ => Stream.stableAt_decode) (.inl hfirst) _ _ _

end Pmt

theorem Tdt.stableAt_decode : StableAt Tdt.decode buffer :=
  (stableAt_require _).bind fun _ _ => ShortHeader.stableAt_decode.bind fun _ _ =>
    (stableAt_u16At 3).bind fun _ _ => (stableAt_u8At 5).bind fun _ _ =>
    (stableAt_u8At 6).bind fun _ _ => (stableAt_u8At 7).bind fun _ _ => .ret _

namespace Tot

/-- A body that is all there is cut off at its length, whatever comes behind it. -/
theorem stableAt_readEntries {length : Nat} (hlength : length < 256) (h : length ≤ buffer.length) :
    StableAt (fun buffer => readEntries (buffer.take length) .empty) buffer := by
  have htake : (buffer.take length).length = length := List.length_take_of_le h
  obtain ⟨entries, hentries, -⟩ := LocalTimeOffset.readEntries_eq_ok (htake.trans_lt hlength)
  refine .of_ok (a := entries) fun more => ?_
  rw [List.take_append_of_le_length h, hentries]

theorem Descriptor.stableAt_decode : StableAt Descriptor.decode buffer := by
  refine (stableAt_u8At 0).bind fun tag _ => (stableAt_u8At 1).bind fun length hlength => ?_
  have hbefore : descriptorPrefix ≤ buffer.length := length_of_extract hlength
  by_cases htag : tag = offsetTag
  · simp only [if_pos htag]
    refine ((stableAt_require length).drop_of_le hbefore).bind fun _ hbody => ?_
    have hfits : length ≤ (buffer.drop descriptorPrefix).length := le_of_require hbody
    exact ((stableAt_readEntries (Bits.lt_of_extract hlength) hfits).drop_of_le hbefore).bind
      fun _ _ => .ret _
  · simp only [if_neg htag]
    exact .ret _

/-- A descriptor that is not an offset descriptor may lead past the end of the buffer. -/
theorem stableAt_decode : StableAt Tot.decode buffer := by
  have hfirst : descriptorLoop.decode [] = .error (.truncated 1 0) := rfl
  refine (stableAt_require _).bind fun _ _ =>
    (stableAt_lowBits (by decide) (by decide)).bind fun loopLength _ => ?_
  rw [readDescriptors_eq_run]
  refine StableAt.bind (RecordLoop.stableAt_run_drop ?_ (.inl hfirst)) fun _ _ => ?_
  · exact RecordLoop.stableAt_run (fun _ => Descriptor.stableAt_decode) (.inl hfirst) _ _ _
  · exact ShortHeader.stableAt_decode.bind fun _ _ => (stableAt_u16At 3).bind fun _ _ =>
      (stableAt_u8At 5).bind fun _ _ => (stableAt_u8At 6).bind fun _ _ =>
      (stableAt_u8At 7).bind fun _ _ => .ret _

end Tot

/-- **Decoding is stable under more data**, for each of the four tables: a table that has been
accepted does not see what comes behind it, and missing bytes are never understated. -/
theorem Table.decoders_stable (buffer : Bytes) :
    StableAt Pat.decode buffer ∧ StableAt Pmt.decode buffer ∧ StableAt Tdt.decode buffer ∧
      StableAt Tot.decode buffer :=
  ⟨Pat.stableAt_decode, Pmt.stableAt_decode, Tdt.stableAt_decode, Tot.stableAt_decode⟩

end DvbReceiver
