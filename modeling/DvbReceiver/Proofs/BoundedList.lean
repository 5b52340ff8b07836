import DvbReceiver.Proofs.Table.Pat
import DvbReceiver.Proofs.Table.Pmt
import DvbReceiver.Proofs.Table.Tot

/-!
# Bounded lists drop nothing silently

A bounded list takes in items until it is full and refuses every item after that.
`BoundedList.after` is the list behind a row of pushes, refused ones among them: it has the items
that were pushed first, as many as there is room for, in their order (`BoundedList.items_after`).

So if a loop pushes what it reads, ends with the first error, and succeeds, then every record is on
its list. This is said of any row of reads (`BoundedList.exists_map_of_pushReads`), of the loop over
records (`RecordLoop.exists_reads_of_run`), and of the tables, which are decoded by such loops
(`Table.Unabridged`).
-/

namespace DvbReceiver

namespace BoundedList

variable {α : Type} {capacity : Nat}

/-! ## Pushes one after another -/

/-- The list behind a push. A refused item leaves it as it is. -/
def attempt (list : BoundedList α capacity) (push : TableKind × α) : BoundedList α capacity :=
  match list.push push.1 push.2 with
  | .ok pushed => pushed
  | .error _ => list

variable (capacity) in
/-- The list behind pushes onto an empty list, one after another. -/
def after (pushes : List (TableKind × α)) : BoundedList α capacity :=
  pushes.foldl attempt .empty

theorem attempt_of_ok {list pushed : BoundedList α capacity} {table : TableKind} {item : α}
    (h : list.push table item = .ok pushed) : list.attempt (table, item) = pushed := by
  rw [attempt, h]

theorem attempt_of_error {list : BoundedList α capacity} {table : TableKind} {item : α}
    {error : ParseError} (h : list.push table item = .error error) :
    list.attempt (table, item) = list := by
  rw [attempt, h]

theorem items_attempt (list : BoundedList α capacity) (push : TableKind × α) :
    (list.attempt push).items = (list.items ++ [push.2]).take capacity := by
  rcases Nat.lt_or_ge list.items.length capacity with hlt | hge
  · have hroom : (list.items ++ [push.2]).length ≤ capacity := by
      rw [List.length_append, List.length_singleton]
      omega
    rw [attempt_of_ok (push_of_lt push.1 push.2 hroom), List.take_of_length_le hroom]
  · have hlength : list.items.length = capacity := Nat.le_antisymm list.length_le hge
    rw [attempt_of_error (push_of_le push.1 push.2 hge), List.take_left' hlength]

theorem after_concat (pushes : List (TableKind × α)) (push : TableKind × α) :
    after capacity (pushes ++ [push]) = (after capacity pushes).attempt push := by
  rw [after, List.foldl_concat]
  rfl

/-- **What a row of pushes leaves**: the items that were pushed first, as many as there is room
for. -/
theorem items_after (pushes : List (TableKind × α)) :
    (after capacity pushes).items = (pushes.map Prod.snd).take capacity := by
  induction pushes using List.reverseRecOn with
  | nil => exact List.take_nil.symm
  | append_singleton pushes push ih =>
    have hroom : capacity - ((pushes.map Prod.snd).take capacity).length =
        capacity - (pushes.map Prod.snd).length := by
      rw [List.length_take]
      omega
    rw [after_concat, items_attempt, ih, List.map_append, List.map_singleton, List.take_append,
      List.take_append, List.take_take, Nat.min_self, hroom]

theorem after_take_succ {pushes : List (TableKind × α)} {i : Nat} {push : TableKind × α}
    (h : pushes[i]? = some push) :
    after capacity (pushes.take (i + 1)) = (after capacity (pushes.take i)).attempt push := by
  rw [List.take_add_one, h, Option.toList_some, after_concat]

/-- The pushes before number `i` have filled so many places. -/
theorem length_items_after_take {pushes : List (TableKind × α)} {i : Nat} {push : TableKind × α}
    (h : pushes[i]? = some push) :
    (after capacity (pushes.take i)).items.length = min capacity i := by
  have hi : i < pushes.length := (List.getElem?_eq_some_iff.1 h).1
  rw [items_after, List.length_take, List.length_map, List.length_take_of_le hi.le]

theorem push_after_of_lt {pushes : List (TableKind × α)} {i : Nat} {table : TableKind} {item : α}
    (h : pushes[i]? = some (table, item)) (hroom : i < capacity) :
    (after capacity (pushes.take i)).push table item =
      .ok (after capacity (pushes.take (i + 1))) := by
  have hlength : (after capacity (pushes.take i)).items.length = min capacity i :=
    length_items_after_take h
  have hfits : ((after capacity (pushes.take i)).items ++ [item]).length ≤ capacity := by
    rw [List.length_append, List.length_singleton]
    omega
  have hpush := push_of_lt table item hfits
  rw [after_take_succ h, attempt_of_ok hpush, hpush]

theorem push_after_of_le {pushes : List (TableKind × α)} {i : Nat} {table : TableKind} {item : α}
    (h : pushes[i]? = some (table, item)) (hfull : capacity ≤ i) :
    (after capacity (pushes.take i)).push table item =
      .error (.capacityExceeded table capacity) := by
  have hlength : (after capacity (pushes.take i)).items.length = min capacity i :=
    length_items_after_take h
  exact push_of_le table item (by omega)

/-! ## Loops that end with the first error -/

/-- Puts what is read on the list, one record after another, up to the first error. -/
def pushReads (table : TableKind) (reads : List (Except ParseError α))
    (list : BoundedList α capacity) : Except ParseError (BoundedList α capacity) :=
  reads.foldlM (fun list read => do list.push table (← read)) list

/-- **If there is no error, every record is on the list**, in the order of the reads. -/
theorem exists_map_of_pushReads {table : TableKind} {reads : List (Except ParseError α)}
    {read list : BoundedList α capacity} (h : pushReads table reads read = .ok list) :
    ∃ records, reads = records.map .ok ∧ list.items = read.items ++ records := by
  induction reads generalizing read with
  | nil =>
    cases h
    exact ⟨[], rfl, (List.append_nil _).symm⟩
  | cons next reads ih =>
    rw [pushReads, List.foldlM_cons] at h
    obtain ⟨pushed, hnext, hreads⟩ := bind_eq_ok.1 h
    obtain ⟨record, rfl, hpush⟩ := bind_eq_ok.1 hnext
    obtain ⟨records, rfl, hitems⟩ := ih hreads
    refine ⟨record :: records, rfl, ?_⟩
    rw [hitems, items_of_push hpush, List.append_assoc, List.singleton_append]

end BoundedList

/-- What a buffer decodes to holds every record that the decoder has read, up to the last one that
is declared. -/
structure Table.Unabridged (buffer : Bytes) : Prop where
  services (pat : Pat) (h : Pat.decode buffer = .ok pat) :
    ∃ rest, Pat.serviceLoop.Reads (buffer.drop Pat.headerSize)
      (pat.header.sectionLength - Pat.overhead) pat.services.items rest 0
  streams (pmt : Pmt) (h : Pmt.decode buffer = .ok pmt) :
    ∃ rest, Pmt.streamLoop.Reads (buffer.drop (Pmt.headerSize + pmt.header.programInfoLength))
      (pmt.header.sectionLength - (Pmt.overhead + pmt.header.programInfoLength))
      pmt.streams.items rest 0
  descriptors (tot : Tot) (h : Tot.decode buffer = .ok tot) :
    ∃ rest, Tot.descriptorLoop.Reads (buffer.drop Tot.headerSize) tot.loopLength
      tot.descriptors.items rest 0
  entries (list : BoundedList LocalTimeOffset 20) (h : Tot.readEntries buffer .empty = .ok list) :
    ∃ rest, LocalTimeOffset.entryLoop.Reads buffer
      (LocalTimeOffset.size * (buffer.length / LocalTimeOffset.size)) list.items rest 0

theorem Table.unabridged (buffer : Bytes) : Unabridged buffer where
  services pat h := by
    obtain ⟨header, -, h⟩ := bind_eq_ok.1 h
    obtain ⟨services, hservices, h⟩ := bind_eq_ok.1 h
    cases h
    rw [Pat.readServices_eq_run] at hservices
    exact RecordLoop.exists_reads_of_run hservices
  streams pmt h := by
    obtain ⟨header, -, h⟩ := bind_eq_ok.1 h
    obtain ⟨streams, hstreams, h⟩ := bind_eq_ok.1 h
    cases h
    rw [Pmt.readStreams_eq_run] at hstreams
    exact RecordLoop.exists_reads_of_run hstreams
  descriptors tot h := by
    unfold Tot.decode at h
    simp only [bind_eq_ok, pure_eq_ok] at h
    obtain ⟨-, -, loopLength, -, descriptors, hdescriptors, h⟩ := h
    obtain ⟨header, -, mjd, -, hours, -, minutes, -, seconds, -, rfl⟩ := h
    rw [Tot.readDescriptors_eq_run] at hdescriptors
    exact RecordLoop.exists_reads_of_run hdescriptors
  entries list h := by
    rw [LocalTimeOffset.readEntries_eq_run] at h
    exact RecordLoop.exists_reads_of_run h

namespace BoundedList

/-- What holds of every list of so many items at most, one that has no room at all included. -/
structure Lossless (α : Type) (capacity : Nat) : Prop where
  /-- Push number `i` succeeds as long as `i` is below the capacity. -/
  accepts (pushes : List (TableKind × α)) (i : Nat) (table : TableKind) (item : α)
    (h : pushes[i]? = some (table, item)) (hroom : i < capacity) :
    (after capacity (pushes.take i)).push table item = .ok (after capacity (pushes.take (i + 1)))
  /-- Every other push is refused in the name of its table, and changes nothing. -/
  refuses (pushes : List (TableKind × α)) (i : Nat) (table : TableKind) (item : α)
    (h : pushes[i]? = some (table, item)) (hfull : capacity ≤ i) :
    (after capacity (pushes.take i)).push table item =
        .error (.capacityExceeded table capacity) ∧
      (after capacity (pushes.take (i + 1))).items = (after capacity (pushes.take i)).items
  /-- The items are those that were pushed first, in their order. -/
  keeps (pushes : List (TableKind × α)) :
    (after capacity pushes).items = (pushes.map Prod.snd).take (min capacity pushes.length)
  /-- Reads that are pushed up to the first error are all on the list if there is none. -/
  reads (table : TableKind) (reads : List (Except ParseError α)) (list : BoundedList α capacity)
    (h : pushReads table reads .empty = .ok list) : reads = list.items.map .ok
  /-- So are the records of a loop that looks for each behind the one before it. -/
  loops (loop : RecordLoop α) (buffer : Bytes) (declared : Nat) (list : BoundedList α capacity)
    (h : loop.run buffer declared .empty = .ok list) :
    ∃ rest, loop.Reads buffer declared list.items rest 0

/-- **Bounded lists drop nothing silently**, and neither do the decoders of tables. -/
theorem lossless (α : Type) (capacity : Nat) :
    Lossless α capacity ∧ ∀ buffer, Table.Unabridged buffer := by
  refine ⟨⟨?_, ?_, ?_, ?_, ?_⟩, Table.unabridged⟩
  · intro pushes i table item h hroom
    exact push_after_of_lt h hroom
  · intro pushes i table item h hfull
    have hpush := push_after_of_le h hfull
    refine ⟨hpush, ?_⟩
    rw [after_take_succ h, attempt_of_error hpush]
  · intro pushes
    rw [items_after, ← List.length_map Prod.snd, List.take_eq_take_min]
  · intro table reads list h
    obtain ⟨records, rfl, hitems⟩ := exists_map_of_pushReads h
    exact congrArg _ hitems.symm
  · intro loop buffer declared list h
    exact RecordLoop.exists_reads_of_run h

/-- Three pushes, each for another table. -/
def threePushes : List (TableKind × Nat) := [(.pat, 7), (.pmt, 5), (.tot, 3)]

/-- A PAT with one service. -/
def oneService : Bytes :=
  [0x00, 0xB0, 0x0D, 0x12, 0x34, 0xCB, 0x00, 0x00, 0x00, 0x01, 0xE1, 0x00, 0xDE, 0xAD, 0xBE, 0xEF]

/-- Of three pushes onto a list of two items the last is refused. -/
theorem lossless_of_threePushes :
    threePushes[1]? = some (.pmt, 5) ∧ 1 < 2 ∧
      (after 2 (threePushes.take 1)).push .pmt 5 = .ok (after 2 (threePushes.take 2)) ∧
      threePushes[2]? = some (.tot, 3) ∧ 2 ≤ 2 ∧
      (after 2 (threePushes.take 2)).push .tot 3 = .error (.capacityExceeded .tot 2) ∧
      (after 2 threePushes).items = [7, 5] ∧
      ∃ pat rest, Pat.decode oneService = .ok pat ∧
        Pat.serviceLoop.Reads (oneService.drop 8) (pat.header.sectionLength - 9)
          pat.services.items rest 0 := by
  obtain ⟨hlossless, hunabridged⟩ := lossless Nat 2
  have hok : (Pat.decode oneService).isOk := by decide +kernel
  refine ⟨rfl, by decide, hlossless.accepts threePushes 1 .pmt 5 rfl (by decide), rfl, by decide,
    (hlossless.refuses threePushes 2 .tot 3 rfl (by decide)).1, hlossless.keeps threePushes, ?_⟩
  rcases hpat : Pat.decode oneService with error | pat
  · rw [hpat] at hok
    cases hok
  · obtain ⟨rest, hreads⟩ := (hunabridged oneService).services pat hpat
    exact ⟨pat, rest, rfl, hreads⟩

end BoundedList

end DvbReceiver
