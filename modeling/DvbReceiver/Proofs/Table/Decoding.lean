import DvbReceiver.Table.Pmt
import DvbReceiver.Table.Tdt
import DvbReceiver.Table.Tot

/-!
# What decoding yields

Every field that is decoded is as small as its bits allow (`Bits.lt_of_extract`), and every offset
of a decoded TOT was decoded from an entry of one of its descriptors (`Tot.decoded_of_mem_offsets`).

The decoders are `do` blocks in `Except`; `bind_eq_ok` takes such a block apart, `ok_bind` and
`error_bind` go through it step by step.
-/

namespace DvbReceiver

theorem bind_eq_ok {ε α β : Type} {x : Except ε α} {f : α → Except ε β} {b : β} :
    (x >>= f) = .ok b ↔ ∃ a, x = .ok a ∧ f a = .ok b := by
  cases x <;> simp [bind, Except.bind]

theorem pure_eq_ok {ε α : Type} {a b : α} : (pure a : Except ε α) = .ok b ↔ a = b := by
  simp [pure, Except.pure]

theorem map_eq_ok {ε α β : Type} {f : α → β} {x : Except ε α} {b : β} :
    x.map f = .ok b ↔ ∃ a, x = .ok a ∧ f a = b := by
  cases x <;> simp [Except.map]

theorem ok_bind {ε α β : Type} (a : α) (f : α → Except ε β) :
    ((Except.ok a : Except ε α) >>= f) = f a := rfl

theorem error_bind {ε α β : Type} (error : ε) (f : α → Except ε β) :
    ((Except.error error : Except ε α) >>= f) = .error error := rfl

namespace Bits

theorem lt_of_extract {buffer : Bytes} {offset width field : Nat}
    (h : extract buffer offset width = .ok field) : field < Nat.pow 2 width := by
  unfold extract at h
  split at h
  · cases h
  · obtain ⟨-, -, h⟩ := bind_eq_ok.1 h
    cases h
    exact Nat.mod_lt _ (Nat.two_pow_pos width)

end Bits

namespace LongHeader

theorem sectionLength_lt_of_decode {expected : Nat} {buffer : Bytes} {header : LongHeader}
    (h : decode expected buffer = .ok header) : header.sectionLength < 4096 := by
  obtain ⟨found, -, h⟩ := bind_eq_ok.1 h
  split at h
  · cases h
  · unfold ShortHeader.decode at h
    simp only [bind_eq_ok, pure_eq_ok] at h
    obtain ⟨-, -, short, ⟨tableId, -, syntaxIndicator, -, length, hlength, rfl⟩, h⟩ := h
    obtain ⟨extension, -, version, -, current, -, number, -, last, -, rfl⟩ := h
    exact Bits.lt_of_extract hlength

end LongHeader

namespace Pmt

theorem Header.lengths_lt_of_decode {buffer : Bytes} {header : Header}
    (h : decode buffer = .ok header) :
    header.sectionLength < 4096 ∧ header.programInfoLength < 4096 := by
  unfold decode at h
  simp only [bind_eq_ok, pure_eq_ok] at h
  obtain ⟨long, hlong, pcrPid, -, info, hinfo, rfl⟩ := h
  exact ⟨LongHeader.sectionLength_lt_of_decode hlong, Bits.lt_of_extract hinfo⟩

theorem Stream.infoLength_lt_of_decode {buffer : Bytes} {stream : Stream}
    (h : decode buffer = .ok stream) : stream.infoLength < 4096 := by
  unfold decode at h
  simp only [bind_eq_ok, pure_eq_ok] at h
  obtain ⟨streamType, -, pid, -, info, hinfo, rfl⟩ := h
  exact Bits.lt_of_extract hinfo

end Pmt

theorem packedDecimal_le {octet : Nat} (h : octet < 256) : packedDecimal octet ≤ 165 := by
  unfold packedDecimal
  omega

namespace Tdt

theorem mjd_lt_of_decode {buffer : Bytes} {tdt : Tdt} (h : decode buffer = .ok tdt) :
    tdt.mjd < 65536 := by
  unfold decode at h
  simp only [bind_eq_ok, pure_eq_ok] at h
  obtain ⟨-, -, header, -, mjd, hmjd, hours, -, minutes, -, seconds, -, rfl⟩ := h
  exact Bits.lt_of_extract hmjd

end Tdt

namespace LocalTimeOffset

/-- Two nibbles are at most 15 tens and 15. -/
theorem fields_le_of_decode {buffer : Bytes} {offset : LocalTimeOffset}
    (h : decode buffer = .ok offset) : offset.hours ≤ 165 ∧ offset.minutes ≤ 165 := by
  unfold decode at h
  simp only [bind_eq_ok, pure_eq_ok] at h
  obtain ⟨-, -, region, -, behind, -, hours, hhours, minutes, hminutes, h⟩ := h
  obtain ⟨changeMjd, -, changeTime, -, nextHours, -, nextMinutes, -, rfl⟩ := h
  exact ⟨packedDecimal_le (Bits.lt_of_extract hhours),
    packedDecimal_le (Bits.lt_of_extract hminutes)⟩

end LocalTimeOffset

theorem BoundedList.items_of_push {α : Type} {capacity : Nat} {list pushed : BoundedList α capacity}
    {table : TableKind} {item : α} (h : list.push table item = .ok pushed) :
    pushed.items = list.items ++ [item] := by
  unfold push at h
  split at h
  · cases h
    rfl
  · cases h

namespace Tot

theorem decoded_of_readEntries {body : Bytes} {read list : BoundedList LocalTimeOffset 20}
    (h : readEntries body read = .ok list)
    (hread : ∀ entry ∈ read.items, ∃ bytes, LocalTimeOffset.decode bytes = .ok entry) :
    ∀ entry ∈ list.items, ∃ bytes, LocalTimeOffset.decode bytes = .ok entry := by
  induction body, read using readEntries.induct with
  | case1 body read hshort =>
    rw [readEntries, if_pos hshort] at h
    cases h
    exact hread
  | case2 body read hshort ih =>
    rw [readEntries, if_neg hshort] at h
    obtain ⟨entry, hentry, h⟩ := bind_eq_ok.1 h
    obtain ⟨pushed, hpush, h⟩ := bind_eq_ok.1 h
    refine ih pushed h ?_
    rw [BoundedList.items_of_push hpush, List.forall_mem_append, List.forall_mem_singleton]
    exact ⟨hread, _, hentry⟩

theorem Descriptor.length_lt_of_decode {buffer : Bytes} {descriptor : Descriptor}
    (h : Descriptor.decode buffer = .ok descriptor) : descriptor.length < 256 := by
  unfold Descriptor.decode at h
  obtain ⟨tag, -, h⟩ := bind_eq_ok.1 h
  obtain ⟨length, hlength, h⟩ := bind_eq_ok.1 h
  split at h
  · obtain ⟨-, -, h⟩ := bind_eq_ok.1 h
    obtain ⟨entries, -, h⟩ := bind_eq_ok.1 h
    cases h
    exact Bits.lt_of_extract hlength
  · cases h
    exact Bits.lt_of_extract hlength

theorem decoded_of_descriptor {buffer : Bytes} {descriptor : Descriptor}
    (h : Descriptor.decode buffer = .ok descriptor) :
    ∀ entry ∈ descriptor.entries.items, ∃ bytes, LocalTimeOffset.decode bytes = .ok entry := by
  unfold Descriptor.decode at h
  obtain ⟨tag, -, h⟩ := bind_eq_ok.1 h
  obtain ⟨length, -, h⟩ := bind_eq_ok.1 h
  split at h
  · obtain ⟨-, -, h⟩ := bind_eq_ok.1 h
    obtain ⟨entries, hentries, h⟩ := bind_eq_ok.1 h
    cases h
    exact decoded_of_readEntries hentries (List.forall_mem_nil _)
  · cases h
    exact List.forall_mem_nil _

theorem decoded_of_readDescriptors {buffer : Bytes} {declared : Nat}
    {read list : BoundedList Descriptor 20} (h : readDescriptors buffer declared read = .ok list)
    (hread : ∀ descriptor ∈ read.items, ∃ bytes, Descriptor.decode bytes = .ok descriptor) :
    ∀ descriptor ∈ list.items, ∃ bytes, Descriptor.decode bytes = .ok descriptor := by
  induction buffer, declared, read using readDescriptors.induct with
  | case1 buffer read =>
    rw [readDescriptors, if_pos rfl] at h
    cases h
    exact hread
  | case2 buffer declared read hdeclared ih =>
    rw [readDescriptors, if_neg hdeclared] at h
    obtain ⟨descriptor, hdescriptor, h⟩ := bind_eq_ok.1 h
    obtain ⟨pushed, hpush, h⟩ := bind_eq_ok.1 h
    refine ih descriptor pushed h ?_
    rw [BoundedList.items_of_push hpush, List.forall_mem_append, List.forall_mem_singleton]
    exact ⟨hread, _, hdescriptor⟩

/-- Every offset of a decoded TOT was decoded from an entry. -/
theorem decoded_of_mem_offsets {buffer : Bytes} {tot : Tot} (h : decode buffer = .ok tot)
    {offset : LocalTimeOffset} (hmem : offset ∈ tot.offsets) :
    ∃ bytes, LocalTimeOffset.decode bytes = .ok offset := by
  unfold decode at h
  simp only [bind_eq_ok, pure_eq_ok] at h
  obtain ⟨-, -, loopLength, -, descriptors, hdescriptors, h⟩ := h
  obtain ⟨header, -, mjd, -, hours, -, minutes, -, seconds, -, rfl⟩ := h
  obtain ⟨descriptor, hdescriptor, hmem⟩ := List.mem_flatMap.1 hmem
  obtain ⟨bytes, hbytes⟩ := decoded_of_readDescriptors hdescriptors (List.forall_mem_nil _)
    descriptor hdescriptor
  exact decoded_of_descriptor hbytes offset hmem

end Tot

end DvbReceiver

