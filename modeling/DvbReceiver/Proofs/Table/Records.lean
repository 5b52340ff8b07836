import DvbReceiver.Bytes
import DvbReceiver.Proofs.Table.Decoding
import Mathlib.Data.List.Basic

/-!
# Loops over records

The decoders of tables read records one behind the other until a declared amount is used up, and put
them on a list of bounded length. `RecordLoop.run` is that loop, with the decoder of a record, the
bytes to the next record and the part of the declared amount that a record uses up as parameters.

`RecordLoop.Reads` says which records lie at the front of a buffer. The loop ends in one of three
ways (`RecordLoop.ends_run`): it has read all records, it has read one record too many, or the next
record cannot be decoded. The last does not happen in a buffer that goes on far enough behind what
is declared (`RecordLoop.ok_or_full_of_reserve`).
-/

namespace DvbReceiver

namespace BoundedList

variable {α : Type} {capacity : Nat}

theorem push_of_lt {list : BoundedList α capacity} (table : TableKind) (item : α)
    (h : (list.items ++ [item]).length ≤ capacity) :
    list.push table item = .ok ⟨list.items ++ [item], h⟩ := by
  rw [List.length_append, List.length_singleton] at h
  exact dif_pos h

theorem push_of_le {list : BoundedList α capacity} (table : TableKind) (item : α)
    (h : capacity ≤ list.items.length) :
    list.push table item = .error (.capacityExceeded table capacity) :=
  dif_neg (Nat.not_lt.2 h)

theorem eq_of_items {list other : BoundedList α capacity} (h : list.items = other.items) :
    list = other := by
  cases list
  cases other
  cases h
  rfl

end BoundedList

/-- A loop over records. -/
structure RecordLoop (α : Type) where
  /-- The table whose list the records go to. -/
  table : TableKind
  decode : Bytes → Except ParseError α
  /-- The bytes from the record to the place where the next is looked for. -/
  stride : α → Nat
  /-- What the record takes from the declared amount. -/
  cost : α → Nat
  cost_pos : ∀ record, 0 < cost record

namespace RecordLoop

variable {α : Type} {capacity : Nat} (loop : RecordLoop α)

/-- Reads records from `buffer` on until they use up `declared`, behind those of `read`. -/
def run (buffer : Bytes) (declared : Nat) (read : BoundedList α capacity) :
    Except ParseError (BoundedList α capacity) :=
  if declared = 0 then .ok read else do
    let record ← loop.decode buffer
    let read ← read.push loop.table record
    run (buffer.drop (loop.stride record)) (declared - loop.cost record) read
termination_by declared
decreasing_by
  have := loop.cost_pos record
  omega

/-- There is no other function with the recursion of the loop. -/
theorem eq_run (readFrom : Bytes → Nat → BoundedList α capacity →
      Except ParseError (BoundedList α capacity))
    (h : ∀ buffer declared read, readFrom buffer declared read =
      if declared = 0 then .ok read else do
        let record ← loop.decode buffer
        let read ← read.push loop.table record
        readFrom (buffer.drop (loop.stride record)) (declared - loop.cost record) read) :
    readFrom = loop.run := by
  funext buffer declared read
  induction buffer, declared, read using run.induct loop with
  | case1 buffer read => rw [h, run, if_pos rfl, if_pos rfl]
  | case2 buffer declared read hdeclared ih =>
    rw [h, run, if_neg hdeclared, if_neg hdeclared]
    simp only [ih]

/-- From `buffer` with `declared` to use up the loop comes to `rest` with `left` to use up, by the
given records. -/
inductive Reads : Bytes → Nat → List α → Bytes → Nat → Prop
  | nil (buffer : Bytes) (declared : Nat) : Reads buffer declared [] buffer declared
  | cons {buffer rest : Bytes} {declared left : Nat} {record : α} {records : List α}
    (hdeclared : declared ≠ 0) (hdecode : loop.decode buffer = .ok record)
    (h : Reads (buffer.drop (loop.stride record)) (declared - loop.cost record) records rest left) :
    Reads buffer declared (record :: records) rest left

variable {loop} {buffer rest : Bytes} {declared left : Nat} {records : List α}
  {read : BoundedList α capacity}

theorem run_zero (buffer : Bytes) (read : BoundedList α capacity) :
    loop.run buffer 0 read = .ok read := by
  rw [run, if_pos rfl]

theorem run_of_error (hdeclared : declared ≠ 0) {error : ParseError}
    (h : loop.decode buffer = .error error) : loop.run buffer declared read = .error error := by
  rw [run, if_neg hdeclared, h]
  rfl

theorem run_of_room (hdeclared : declared ≠ 0) {record : α}
    (hdecode : loop.decode buffer = .ok record)
    (hroom : (read.items ++ [record]).length ≤ capacity) :
    loop.run buffer declared read =
      loop.run (buffer.drop (loop.stride record)) (declared - loop.cost record)
        ⟨read.items ++ [record], hroom⟩ := by
  rw [run, if_neg hdeclared, hdecode, ok_bind, BoundedList.push_of_lt loop.table record hroom,
    ok_bind]

theorem run_of_full (hdeclared : declared ≠ 0) {record : α}
    (hdecode : loop.decode buffer = .ok record) (hfull : capacity ≤ read.items.length) :
    loop.run buffer declared read = .error (.capacityExceeded loop.table capacity) := by
  rw [run, if_neg hdeclared, hdecode, ok_bind, BoundedList.push_of_le loop.table record hfull,
    error_bind]

namespace Reads

theorem single {record : α} (hdeclared : declared ≠ 0) (hdecode : loop.decode buffer = .ok record) :
    loop.Reads buffer declared [record] (buffer.drop (loop.stride record))
      (declared - loop.cost record) :=
  .cons hdeclared hdecode (.nil _ _)

theorem append {middle : Bytes} {between : Nat} {more : List α}
    (h : loop.Reads buffer declared records middle between)
    (hmore : loop.Reads middle between more rest left) :
    loop.Reads buffer declared (records ++ more) rest left := by
  induction h with
  | nil => exact hmore
  | cons hdeclared hdecode _ ih => exact .cons hdeclared hdecode (ih hmore)

/-- Records for which there is room are put on the list. -/
theorem run_eq (h : loop.Reads buffer declared records rest left)
    (hroom : (read.items ++ records).length ≤ capacity) :
    loop.run buffer declared read = loop.run rest left ⟨read.items ++ records, hroom⟩ := by
  induction h generalizing read with
  | nil => congr; simp
  | @cons _ _ _ _ record records hdeclared hdecode _ ih =>
    have happend : read.items ++ record :: records = (read.items ++ [record]) ++ records := by simp
    have hroom' : (read.items ++ [record]).length ≤ capacity := by
      rw [happend, List.length_append] at hroom
      omega
    have hrooms : ((⟨read.items ++ [record], hroom'⟩ : BoundedList α capacity).items ++
        records).length ≤ capacity := happend ▸ hroom
    rw [run_of_room hdeclared hdecode hroom', ih hrooms]
    congr 1
    exact BoundedList.eq_of_items happend.symm

/-- **A loop that uses up what is declared** yields every record that it read. -/
theorem run_eq_ok (h : loop.Reads buffer declared records rest 0)
    (hroom : (read.items ++ records).length ≤ capacity) :
    loop.run buffer declared read = .ok ⟨read.items ++ records, hroom⟩ := by
  rw [h.run_eq hroom, run_zero]

theorem run_empty_eq_ok (h : loop.Reads buffer declared records rest 0)
    (hroom : records.length ≤ capacity) :
    loop.run buffer declared .empty = .ok (⟨records, hroom⟩ : BoundedList α capacity) :=
  h.run_eq_ok hroom

/-- **One record too many** is reported, whatever comes behind it. -/
theorem run_eq_full (h : loop.Reads buffer declared records rest left)
    (hlength : capacity < (read.items ++ records).length) :
    loop.run buffer declared read = .error (.capacityExceeded loop.table capacity) := by
  induction h generalizing read with
  | nil =>
    rw [List.append_nil] at hlength
    exact absurd read.length_le (Nat.not_le.2 hlength)
  | @cons _ _ _ _ record records hdeclared hdecode _ ih =>
    rcases Nat.lt_or_ge read.items.length capacity with hlt | hge
    · have hroom : (read.items ++ [record]).length ≤ capacity := by
        rw [List.length_append, List.length_singleton]
        omega
      rw [run_of_room hdeclared hdecode hroom]
      exact ih (by simpa using hlength)
    · exact run_of_full hdeclared hdecode hge

end Reads

/-- Records that are written one behind the other, each as long as its stride and its cost, are
read, whatever is declared behind them. -/
theorem reads_of_written (loop : RecordLoop α) {ρ : Type} (write : ρ → Bytes) (record : ρ → α)
    (written : List ρ) (rest : Bytes) (left : Nat)
    (hdecode : ∀ w ∈ written, ∀ rest, loop.decode (write w ++ rest) = .ok (record w))
    (hcost : ∀ w ∈ written, loop.cost (record w) = (write w).length)
    (hstride : ∀ w ∈ written, loop.stride (record w) = (write w).length) :
    loop.Reads (written.flatMap write ++ rest) ((written.flatMap write).length + left)
      (written.map record) rest left := by
  induction written with
  | nil =>
    rw [List.flatMap_nil, List.nil_append, List.length_nil, Nat.zero_add]
    exact .nil _ _
  | cons w written ih =>
    rw [List.forall_mem_cons] at hdecode hcost hstride
    have hpos : 0 < (write w).length := hcost.1 ▸ loop.cost_pos (record w)
    rw [List.flatMap_cons, List.append_assoc, List.length_append, List.map_cons, Nat.add_assoc]
    refine .cons (by omega) (hdecode.1 _) ?_
    rw [hcost.1, hstride.1, List.drop_left, Nat.add_sub_cancel_left]
    exact ih hdecode.2 hcost.2 hstride.2

/-- The last record need not be as long as its stride, for behind it nothing is left to use up,
wherever the loop looks next. -/
theorem exists_reads_of_written (loop : RecordLoop α) {ρ : Type} (write : ρ → Bytes)
    (record : ρ → α) (written : List ρ) (rest : Bytes)
    (hdecode : ∀ w ∈ written, ∀ rest, loop.decode (write w ++ rest) = .ok (record w))
    (hcost : ∀ w ∈ written, loop.cost (record w) = (write w).length)
    (hstride : ∀ w ∈ written.dropLast, loop.stride (record w) = (write w).length) :
    ∃ behind, loop.Reads (written.flatMap write ++ rest) (written.flatMap write).length
      (written.map record) behind 0 := by
  rcases List.eq_nil_or_concat' written with rfl | ⟨front, last, rfl⟩
  · exact ⟨_, .nil _ _⟩
  · rw [List.forall_mem_append, List.forall_mem_singleton] at hdecode hcost
    rw [List.dropLast_concat] at hstride
    have hpos : 0 < (write last).length := hcost.2 ▸ loop.cost_pos (record last)
    have hfront := reads_of_written loop write record front (write last ++ rest)
      (write last).length hdecode.1 hcost.1 hstride
    have hlast := Reads.single (Nat.ne_of_gt hpos) (hdecode.2 rest)
    rw [hcost.2, Nat.sub_self] at hlast
    rw [List.flatMap_append, List.flatMap_singleton, List.append_assoc, List.length_append,
      List.map_append, List.map_singleton]
    exact ⟨_, hfront.append hlast⟩

/-- The three ends of a loop. -/
inductive Ends (loop : RecordLoop α) (buffer : Bytes) (declared : Nat)
    (read : BoundedList α capacity) : Except ParseError (BoundedList α capacity) → Prop
  /-- Every record has been read. -/
  | complete (records : List α) (rest : Bytes) (list : BoundedList α capacity)
    (h : loop.Reads buffer declared records rest 0)
    (hitems : list.items = read.items ++ records) : Ends loop buffer declared read (.ok list)
  /-- A record has been read for which there is no room. -/
  | full (records : List α) (rest : Bytes) (left : Nat)
    (h : loop.Reads buffer declared records rest left)
    (hlength : (read.items ++ records).length = capacity + 1) :
    Ends loop buffer declared read (.error (.capacityExceeded loop.table capacity))
  /-- A record cannot be decoded. -/
  | failed (records : List α) (rest : Bytes) (left : Nat) (error : ParseError)
    (h : loop.Reads buffer declared records rest left)
    (hroom : (read.items ++ records).length ≤ capacity) (hleft : left ≠ 0)
    (hdecode : loop.decode rest = .error error) : Ends loop buffer declared read (.error error)

/-- **Every loop ends** in one of the three ways. -/
theorem ends_run (loop : RecordLoop α) (buffer : Bytes) (declared : Nat)
    (read : BoundedList α capacity) :
    loop.Ends buffer declared read (loop.run buffer declared read) := by
  induction buffer, declared, read using run.induct loop with
  | case1 buffer read =>
    rw [run_zero]
    exact .complete [] buffer read (.nil _ _) (List.append_nil _).symm
  | case2 buffer declared read hdeclared ih =>
    rcases hdecode : loop.decode buffer with error | record
    · rw [run_of_error hdeclared hdecode]
      have hroom : (read.items ++ []).length ≤ capacity := by simpa using read.length_le
      exact .failed [] buffer declared error (.nil _ _) hroom hdeclared hdecode
    · rcases Nat.lt_or_ge read.items.length capacity with hlt | hge
      · have hroom : (read.items ++ [record]).length ≤ capacity := by
          rw [List.length_append, List.length_singleton]
          omega
        rw [run_of_room hdeclared hdecode hroom]
        have hends := ih record ⟨read.items ++ [record], hroom⟩
        generalize loop.run _ _ (⟨read.items ++ [record], hroom⟩ : BoundedList α capacity) = result
          at hends ⊢
        cases hends with
        | complete records rest list h hitems =>
          exact .complete (record :: records) rest list (.cons hdeclared hdecode h)
            (by simpa using hitems)
        | full records rest left h hlength =>
          exact .full (record :: records) rest left (.cons hdeclared hdecode h)
            (by simpa using hlength)
        | failed records rest left error h hroom hleft hfails =>
          exact .failed (record :: records) rest left error (.cons hdeclared hdecode h)
            (by simpa using hroom) hleft hfails
      · rw [run_of_full hdeclared hdecode hge]
        have hlength : (read.items ++ [record]).length = capacity + 1 := by
          have := read.length_le
          rw [List.length_append, List.length_singleton]
          omega
        exact .full [record] _ _ (.cons hdeclared hdecode (.nil _ _)) hlength

/-- A loop that succeeds has put every record that it read on the list. -/
theorem exists_reads_of_run {list : BoundedList α capacity}
    (h : loop.run buffer declared .empty = .ok list) :
    ∃ rest, loop.Reads buffer declared list.items rest 0 := by
  have hends := loop.ends_run buffer declared (.empty : BoundedList α capacity)
  rw [h] at hends
  cases hends with
  | complete records rest _ hreads hitems =>
    obtain rfl : list.items = records := hitems
    exact ⟨rest, hreads⟩

/-! ## Records with a reserve behind them -/

/-- A record takes from the buffer what it takes from the declared amount, so the reserve behind
what is declared stays. -/
theorem Reads.reserve_le {reserve : Nat} (h : loop.Reads buffer declared records rest left)
    (hstride : ∀ record, loop.stride record = loop.cost record)
    (hlength : declared ≠ 0 → declared + reserve ≤ buffer.length) (hleft : left ≠ 0) :
    left + reserve ≤ rest.length := by
  induction h with
  | nil => exact hlength hleft
  | @cons buffer _ declared _ record _ hdeclared _ _ ih =>
    refine ih (fun _ => ?_) hleft
    have := hlength hdeclared
    rw [List.length_drop, hstride]
    omega

/-- **No record is cut off** if each can be decoded that begins before the reserve, wherever the
records end: only a record too many is refused. -/
theorem ok_or_full_of_reserve {reserve : Nat}
    (hdecode : ∀ buffer, reserve < buffer.length → ∃ record, loop.decode buffer = .ok record)
    (hstride : ∀ record, loop.stride record = loop.cost record)
    (hlength : declared ≠ 0 → declared + reserve ≤ buffer.length) :
    (∃ list, loop.run buffer declared read = .ok list) ∨
      loop.run buffer declared read = .error (.capacityExceeded loop.table capacity) := by
  have hends := loop.ends_run buffer declared read
  generalize loop.run buffer declared read = result at hends ⊢
  cases hends with
  | complete _ _ list => exact .inl ⟨list, rfl⟩
  | full => exact .inr rfl
  | failed _ rest left _ h _ hleft hfails =>
    have hrest := h.reserve_le hstride hlength hleft
    obtain ⟨record, hrecord⟩ := hdecode rest (by omega)
    cases hfails.symm.trans hrecord

/-! ## Records at a fixed stride -/

/-- Records that the loop looks for at a fixed stride: the one at place `i` is `record i` if it is
all there, and `left i` is not yet used up before it. -/
structure Grid (loop : RecordLoop α) (buffer : Bytes) (stride : Nat) (record : Nat → α)
    (Present : Nat → Prop) (left : Nat → Nat) : Prop where
  stride_eq : ∀ i, loop.stride (record i) = stride
  left_succ : ∀ i, left (i + 1) = left i - loop.cost (record i)
  decode_of_present : ∀ i, Present i → loop.decode (buffer.drop (stride * i)) = .ok (record i)
  decode_of_not_present : ∀ i, ¬Present i → ∃ needed available,
    loop.decode (buffer.drop (stride * i)) = .error (.truncated needed available)

namespace Grid

variable {stride : Nat} {record : Nat → α} {Present : Nat → Prop} {left : Nat → Nat}

theorem drop_drop_stride (buffer : Bytes) (stride i : Nat) :
    (buffer.drop stride).drop (stride * i) = buffer.drop (stride * (i + 1)) := by
  rw [List.drop_drop, Nat.mul_succ, Nat.add_comm]

theorem tail (grid : loop.Grid buffer stride record Present left) :
    loop.Grid (buffer.drop stride) stride (fun i => record (i + 1)) (fun i => Present (i + 1))
      (fun i => left (i + 1)) where
  stride_eq i := grid.stride_eq (i + 1)
  left_succ i := grid.left_succ (i + 1)
  decode_of_present i h := drop_drop_stride buffer stride i ▸ grid.decode_of_present (i + 1) h
  decode_of_not_present i h :=
    drop_drop_stride buffer stride i ▸ grid.decode_of_not_present (i + 1) h

theorem left_le (grid : loop.Grid buffer stride record Present left) {i j : Nat} (h : i ≤ j) :
    left j ≤ left i := by
  induction h with
  | refl => exact Nat.le_refl _
  | step _ ih => exact Nat.le_trans (by rw [grid.left_succ]; exact Nat.sub_le _ _) ih

theorem lt_of_due (grid : loop.Grid buffer stride record Present left) {i j : Nat}
    (hdue : left i ≠ 0) (hleft : left j = 0) : i < j :=
  Nat.lt_of_not_le fun h => hdue (Nat.eq_zero_of_le_zero (hleft ▸ grid.left_le h))

/-- What can be decoded at a place is all there, and is the record of that place. -/
theorem of_decode_eq_ok (grid : loop.Grid buffer stride record Present left) {i : Nat} {found : α}
    (h : loop.decode (buffer.drop (stride * i)) = .ok found) : Present i ∧ found = record i := by
  by_cases hpresent : Present i
  · exact ⟨hpresent, Except.ok.inj (h.symm.trans (grid.decode_of_present i hpresent))⟩
  · obtain ⟨needed, available, herror⟩ := grid.decode_of_not_present i hpresent
    cases herror.symm.trans h

theorem of_decode_eq_error (grid : loop.Grid buffer stride record Present left) {i : Nat}
    {error : ParseError} (h : loop.decode (buffer.drop (stride * i)) = .error error) :
    ¬Present i ∧ ∃ needed available, error = .truncated needed available := by
  by_cases hpresent : Present i
  · cases (grid.decode_of_present i hpresent).symm.trans h
  · obtain ⟨needed, available, herror⟩ := grid.decode_of_not_present i hpresent
    exact ⟨hpresent, needed, available, Except.error.inj (h.symm.trans herror)⟩

/-- What the loop reads are the records at their places. -/
theorem of_reads {remaining : Nat} (h : loop.Reads buffer declared records rest remaining)
    (grid : loop.Grid buffer stride record Present left) (hdeclared : declared = left 0) :
    records = (List.range records.length).map record ∧
      rest = buffer.drop (stride * records.length) ∧ remaining = left records.length ∧
      ∀ i < records.length, left i ≠ 0 ∧ Present i := by
  induction h generalizing record Present left with
  | nil => exact ⟨rfl, rfl, hdeclared, fun i hi => absurd hi (Nat.not_lt_zero i)⟩
  | @cons buffer _ declared _ found records hne hdecode _ ih =>
    obtain ⟨hpresent, rfl⟩ : Present 0 ∧ found = record 0 := grid.of_decode_eq_ok hdecode
    rw [grid.stride_eq] at ih
    have hleft : declared - loop.cost (record 0) = left 1 := by rw [grid.left_succ, hdeclared]
    obtain ⟨hrecords, hrest, hremaining, hall⟩ := ih grid.tail hleft
    refine ⟨?_, ?_, hremaining, fun i hi => ?_⟩
    · rw [List.length_cons, List.range_succ_eq_map, List.map_cons, List.map_map]
      exact congrArg (record 0 :: ·) hrecords
    · rw [hrest, drop_drop_stride, List.length_cons]
    · rcases i with _ | i
      · exact ⟨hdeclared ▸ hne, hpresent⟩
      · exact hall i (Nat.lt_of_succ_lt_succ hi)

variable (capacity) in
/-- How the loop ends on a grid. -/
theorem cases_run (grid : loop.Grid buffer stride record Present left) :
    (∃ list : BoundedList α capacity, loop.run buffer (left 0) .empty = .ok list ∧
      list.items = (List.range list.items.length).map record ∧ left list.items.length = 0 ∧
      ∀ i < list.items.length, left i ≠ 0 ∧ Present i) ∨
    (loop.run buffer (left 0) (.empty : BoundedList α capacity) =
        .error (.capacityExceeded loop.table capacity) ∧
      ∀ i ≤ capacity, left i ≠ 0 ∧ Present i) ∨
    ∃ i ≤ capacity, left i ≠ 0 ∧ ¬Present i ∧ ∃ needed available,
      loop.run buffer (left 0) (.empty : BoundedList α capacity) =
        .error (.truncated needed available) := by
  have hends := loop.ends_run buffer (left 0) (.empty : BoundedList α capacity)
  generalize loop.run buffer (left 0) (.empty : BoundedList α capacity) = result at hends ⊢
  cases hends with
  | complete records rest list h hitems =>
    obtain rfl : list.items = records := hitems
    obtain ⟨hrecords, -, hremaining, hall⟩ := of_reads h grid rfl
    exact .inl ⟨list, rfl, hrecords, hremaining.symm, hall⟩
  | full records rest remaining h hlength =>
    have hlength : records.length = capacity + 1 := hlength
    obtain ⟨-, -, -, hall⟩ := of_reads h grid rfl
    exact .inr (.inl ⟨rfl, fun i hi => hall i (by omega)⟩)
  | failed records rest remaining error h hroom hleft hdecode =>
    obtain ⟨-, hrest, hremaining, -⟩ := of_reads h grid rfl
    subst hrest hremaining
    obtain ⟨hpresent, needed, available, rfl⟩ := grid.of_decode_eq_error hdecode
    exact .inr (.inr ⟨records.length, hroom, hleft, hpresent, needed, available, rfl⟩)

/-- **The loop succeeds** exactly if the list has room for every record that is due, and each of
them is all there. -/
theorem exists_run_eq_ok_iff (grid : loop.Grid buffer stride record Present left) :
    (∃ list : BoundedList α capacity, loop.run buffer (left 0) .empty = .ok list) ↔
      ∀ i, left i ≠ 0 → i < capacity ∧ Present i := by
  rcases grid.cases_run capacity with ⟨list, hrun, -, hleft, hall⟩ | ⟨hrun, hall⟩ |
    ⟨i, hi, hdue, hpresent, needed, available, hrun⟩ <;> rw [hrun]
  · refine iff_of_true ⟨list, rfl⟩ fun i hdue => ?_
    have hi := grid.lt_of_due hdue hleft
    exact ⟨Nat.lt_of_lt_of_le hi list.length_le, (hall i hi).2⟩
  · refine iff_of_false (by simp) fun hdone => ?_
    exact Nat.lt_irrefl capacity (hdone capacity (hall capacity (Nat.le_refl _)).1).1
  · exact iff_of_false (by simp) fun hdone => hpresent (hdone i hdue).2

/-- A loop that succeeds has read the records that are due. -/
theorem of_run_eq_ok (grid : loop.Grid buffer stride record Present left)
    {list : BoundedList α capacity} (h : loop.run buffer (left 0) .empty = .ok list) :
    (∀ i, i < list.items.length ↔ left i ≠ 0) ∧
      list.items = (List.range list.items.length).map record := by
  rcases grid.cases_run capacity with ⟨list', hrun, hitems, hleft, hall⟩ | ⟨hrun, -⟩ |
    ⟨i, -, -, -, needed, available, hrun⟩ <;> rw [h] at hrun <;> cases hrun
  exact ⟨fun i => ⟨fun hi => (hall i hi).1, fun hdue => grid.lt_of_due hdue hleft⟩, hitems⟩

/-- **The list is full** exactly if one record more than it holds is due, and each record up to that
one is all there. -/
theorem run_eq_full_iff (grid : loop.Grid buffer stride record Present left) :
    loop.run buffer (left 0) (.empty : BoundedList α capacity) =
        .error (.capacityExceeded loop.table capacity) ↔
      left capacity ≠ 0 ∧ ∀ i ≤ capacity, Present i := by
  rcases grid.cases_run capacity with ⟨list, hrun, -, hleft, hall⟩ | ⟨hrun, hall⟩ |
    ⟨i, hi, hdue, hpresent, needed, available, hrun⟩ <;> rw [hrun]
  · refine iff_of_false (by simp) fun hdone => ?_
    exact Nat.not_lt.2 list.length_le (grid.lt_of_due hdone.1 hleft)
  · exact iff_of_true rfl
      ⟨(hall capacity (Nat.le_refl _)).1, fun i hi => (hall i hi).2⟩
  · exact iff_of_false (by simp) fun hdone => hpresent (hdone.2 i hi)

/-- Any other error is that of a record that is not all there. -/
theorem eq_full_or_truncated (grid : loop.Grid buffer stride record Present left)
    {error : ParseError}
    (h : loop.run buffer (left 0) (.empty : BoundedList α capacity) = .error error) :
    error = .capacityExceeded loop.table capacity ∨
      ∃ needed available, error = .truncated needed available := by
  rcases grid.cases_run capacity with ⟨list, hrun, -, -, -⟩ | ⟨hrun, -⟩ |
    ⟨i, -, -, -, needed, available, hrun⟩ <;> rw [h] at hrun <;> cases hrun
  · exact .inl rfl
  · exact .inr ⟨needed, available, rfl⟩

end Grid

end RecordLoop

end DvbReceiver
