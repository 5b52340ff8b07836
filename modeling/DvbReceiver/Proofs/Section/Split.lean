import DvbReceiver.Section.Split
import DvbReceiver.Proofs.Bits

/-!
# Cutting up recordings

A section declares its own length in its first three bytes (`Section.declared`), and a recording is
cut there if as many bytes are there and they are no stuffing (`Section.firstSize?_eq_some_iff`).
So the cut does not look past the section, and a recording that its sections fill to the end is cut
the same way whatever is put behind it (`Section.split_append`).

`Section.Cuts` follows the cut from section to section up to the place where it stops. What it
yields is a row of sections that are whole (`Section.Whole`), and what it leaves does not begin with
one (`Section.Ended`). A recording has only one such division, and it is the cut
(`Section.split_exact`).
-/

namespace DvbReceiver.Section

variable {data front : Bytes} {n : Nat}

/-- The length that the section at the front of the data declares. -/
def declared (data : Bytes) : Nat := uncounted + Bits.field data 12 12

theorem uncounted_le_declared (data : Bytes) : uncounted ≤ declared data := Nat.le_add_right _ _

theorem size_of_le (h : uncounted ≤ data.length) : size data = .ok (declared data) := by
  unfold uncounted at h
  rw [size, Bits.u16At, Bits.extract_of_le (by decide) (by decide) (by omega), ok_bind]
  have hlow : Bits.field data (8 * 1) 16 % Nat.pow 2 12 = Bits.field data 12 12 :=
    Bits.field_mod data 8 4 12
  rw [hlow]
  rfl

theorem size_of_lt (h : data.length < uncounted) :
    size data = .error (.truncated uncounted data.length) := by
  unfold uncounted at h
  rw [size, Bits.u16At, Bits.extract_of_lt (by decide) (by decide) (by omega)]
  rfl

/-- **Where a recording is cut**: behind a section that is no stuffing and is all there. -/
theorem firstSize?_eq_some_iff :
    firstSize? data = some n ↔
      data.head? ≠ some stuffing ∧ declared data = n ∧ n ≤ data.length := by
  unfold firstSize?
  by_cases hhead : data.head? = some stuffing
  · simp [hhead]
  · rw [if_neg hhead]
    rcases Nat.lt_or_ge data.length uncounted with hlt | hge
    · have hshort : data.length < declared data :=
        Nat.lt_of_lt_of_le hlt (uncounted_le_declared data)
      rw [size_of_lt hlt]
      refine iff_of_false (by simp) ?_
      rintro ⟨-, rfl, hle⟩
      exact Nat.not_le.2 hshort hle
    · rw [size_of_le hge]
      by_cases hle : declared data ≤ data.length
      · simp only [if_pos hle, Option.some.injEq]
        refine ⟨fun h => ⟨hhead, h, h ▸ hle⟩, fun h => h.2.1⟩
      · simp only [if_neg hle, reduceCtorEq, false_iff]
        rintro ⟨-, rfl, h⟩
        exact hle h

theorem split_of_none (h : firstSize? data = none) : split data = [] := by
  rw [split.eq_def]
  split <;> simp_all

theorem split_of_some (h : firstSize? data = some n) :
    split data = data.take n :: split (data.drop n) := by
  rw [split.eq_def]
  split <;> simp_all

/-- The cut does not see what stands behind the section. -/
theorem firstSize?_append (h : firstSize? front = some n) (back : Bytes) :
    firstSize? (front ++ back) = some n := by
  obtain ⟨hhead, hdeclared, hle⟩ := firstSize?_eq_some_iff.1 h
  have huncounted : 3 ≤ n := hdeclared ▸ uncounted_le_declared front
  refine firstSize?_eq_some_iff.2 ⟨?_, ?_, ?_⟩
  · cases front with
    | nil =>
      simp only [List.length_nil] at hle
      omega
    | cons octet front => exact hhead
  · rw [← hdeclared, declared, declared, Bits.field_append_left _ _ (by omega)]
  · rw [List.length_append]
    omega

/-- **What is put behind a recording is cut up by itself**, if sections fill the recording to the
end. -/
theorem split_append (h : (split front).flatten = front) (back : Bytes) :
    split (front ++ back) = split front ++ split back := by
  induction front using split.induct with
  | case1 front hnone =>
    rw [split_of_none hnone] at h ⊢
    rw [← h]
    rfl
  | case2 front n hsome ih =>
    obtain ⟨-, -, hle⟩ := firstSize?_eq_some_iff.1 hsome
    have hrest : (split (front.drop n)).flatten = front.drop n := by
      apply (List.append_right_inj (front.take n)).1
      rw [List.take_append_drop, ← List.flatten_cons, ← split_of_some hsome, h]
    rw [split_of_some (firstSize?_append hsome back), split_of_some hsome,
      List.take_append_of_le_length hle, List.drop_append_of_le_length hle, ih hrest,
      List.cons_append]

/-! ## From section to section -/

/-- A section that is all there: it is no stuffing, and it is as long as its first bytes declare. -/
structure Whole (bytes : Bytes) : Prop where
  head?_ne : bytes.head? ≠ some stuffing
  uncounted_le : uncounted ≤ bytes.length
  length_eq : bytes.length = declared bytes

instance (bytes : Bytes) : Decidable (Whole bytes) :=
  decidable_of_iff (bytes.head? ≠ some stuffing ∧ uncounted ≤ bytes.length ∧
      bytes.length = declared bytes)
    ⟨fun h => ⟨h.1, h.2.1, h.2.2⟩, fun h => ⟨h.head?_ne, h.uncounted_le, h.length_eq⟩⟩

/-- The data does not begin with a section that is all there. -/
inductive Ended : Bytes → Prop
  | nil : Ended []
  /-- Stuffing fills the packet behind the last section. -/
  | stuffed {data : Bytes} (h : data.head? = some stuffing) : Ended data
  /-- The length of the next section is not there. -/
  | short {data : Bytes} (h : data.length < uncounted) : Ended data
  /-- The next section goes on behind the end of the data. -/
  | overlong {data : Bytes} (huncounted : uncounted ≤ data.length)
    (h : data.length < declared data) : Ended data

/-- The cut goes from `data` through the given sections, one by one, and stops at `rest`. -/
inductive Cuts : Bytes → List Bytes → Bytes → Prop
  | stop {rest : Bytes} (h : firstSize? rest = none) : Cuts rest [] rest
  | next {data rest : Bytes} {n : Nat} {sections : List Bytes} (h : firstSize? data = some n)
    (hcuts : Cuts (data.drop n) sections rest) : Cuts data (data.take n :: sections) rest

theorem firstSize?_eq_none_iff : firstSize? data = none ↔ Ended data := by
  have hsome (n : Nat) : firstSize? data = some n ↔ _ := firstSize?_eq_some_iff
  constructor
  · intro hnone
    by_cases hhead : data.head? = some stuffing
    · exact .stuffed hhead
    · rcases Nat.lt_or_ge data.length uncounted with hlt | hge
      · exact .short hlt
      · refine .overlong hge (Nat.lt_of_not_le fun hle => ?_)
        cases hnone.symm.trans ((hsome _).2 ⟨hhead, rfl, hle⟩)
  · intro hended
    refine Option.eq_none_iff_forall_ne_some.2 fun n hn => ?_
    obtain ⟨hhead, rfl, hle⟩ := (hsome n).1 hn
    have huncounted := uncounted_le_declared data
    cases hended with
    | nil => exact Nat.not_le.2 (by decide) (huncounted.trans hle)
    | stuffed h => exact hhead h
    | short h => exact Nat.not_le.2 h (huncounted.trans hle)
    | overlong _ h => exact Nat.not_le.2 h hle

theorem Whole.firstSize? (h : Whole front) (back : Bytes) :
    firstSize? (front ++ back) = some front.length :=
  firstSize?_append (firstSize?_eq_some_iff.2 ⟨h.head?_ne, h.length_eq.symm, Nat.le_refl _⟩) back

theorem whole_take (h : firstSize? data = some n) : Whole (data.take n) := by
  obtain ⟨hhead, hdeclared, hle⟩ := firstSize?_eq_some_iff.1 h
  have hlength : (data.take n).length = n := List.length_take_of_le hle
  have huncounted : 3 ≤ n := hdeclared ▸ uncounted_le_declared data
  refine ⟨?_, hlength.symm ▸ huncounted, ?_⟩
  · rwa [List.head?_take, if_neg (by omega)]
  · rw [hlength, declared, Bits.field_take _ _ (by omega) hle]
    exact hdeclared.symm

/-- Sections that are whole are cut off one by one, whatever is inside them. -/
theorem split_flatten_append {sections : List Bytes} {tail : Bytes}
    (hsections : ∀ bytes ∈ sections, Whole bytes) (htail : Ended tail) :
    split (sections.flatten ++ tail) = sections := by
  induction sections with
  | nil => exact split_of_none (firstSize?_eq_none_iff.2 htail)
  | cons bytes sections ih =>
    obtain ⟨hbytes, hothers⟩ := List.forall_mem_cons.1 hsections
    rw [List.flatten_cons, List.append_assoc, split_of_some (hbytes.firstSize? _), List.take_left,
      List.drop_left, ih hothers]

namespace Cuts

variable {sections : List Bytes} {rest : Bytes}

theorem flatten_append (h : Cuts data sections rest) : sections.flatten ++ rest = data := by
  induction h with
  | stop => rfl
  | @next data rest n sections _ _ ih =>
    rw [List.flatten_cons, List.append_assoc, ih, List.take_append_drop]

theorem whole (h : Cuts data sections rest) : ∀ bytes ∈ sections, Whole bytes := by
  induction h with
  | stop => exact List.forall_mem_nil _
  | next h _ ih => exact List.forall_mem_cons.2 ⟨whole_take h, ih⟩

theorem ended (h : Cuts data sections rest) : Ended rest := by
  induction h with
  | stop h => exact firstSize?_eq_none_iff.1 h
  | next _ _ ih => exact ih

end Cuts

/-- **The cut comes to its end** on every data. -/
theorem exists_cuts (data : Bytes) : ∃ rest, Cuts data (split data) rest := by
  induction data using split.induct with
  | case1 data hnone =>
    rw [split_of_none hnone]
    exact ⟨data, .stop hnone⟩
  | case2 data n hsome ih =>
    obtain ⟨rest, hcuts⟩ := ih
    rw [split_of_some hsome]
    exact ⟨rest, .next hsome hcuts⟩

/-- A section is found at its place among the others. -/
theorem exists_drop_eq_append {bytes : Bytes} {before behind : List Bytes}
    (h : split data = before ++ bytes :: behind) :
    Whole bytes ∧ ∃ more, data.drop before.flatten.length = bytes ++ more := by
  obtain ⟨rest, hcuts⟩ := exists_cuts data
  rw [h] at hcuts
  refine ⟨hcuts.whole bytes (by simp), behind.flatten ++ rest, ?_⟩
  rw [← hcuts.flatten_append, List.flatten_append, List.flatten_cons, List.append_assoc,
    List.append_assoc, List.drop_left]

/-- **Cutting is exact.** Sections that are whole are found again, in front of every tail that does
not begin with one. And the data is always the sections that are found, which are whole, and such a
tail; the sections alone are cut the same way. -/
theorem split_exact :
    (∀ (sections : List Bytes) (tail : Bytes), (∀ bytes ∈ sections, Whole bytes) → Ended tail →
      split (sections.flatten ++ tail) = sections) ∧
    ∀ data, ∃ tail, Cuts data (split data) tail ∧ (∀ bytes ∈ split data, Whole bytes) ∧
      data = (split data).flatten ++ tail ∧ Ended tail ∧
      split (split data).flatten = split data := by
  refine ⟨fun sections tail => split_flatten_append, fun data => ?_⟩
  obtain ⟨tail, hcuts⟩ := exists_cuts data
  have hagain := split_flatten_append hcuts.whole .nil
  rw [List.append_nil] at hagain
  exact ⟨tail, hcuts, hcuts.whole, hcuts.flatten_append.symm, hcuts.ended, hagain⟩

/-- A TDT, a section with octets that look like stuffing and like a PAT, and one without a body. -/
def row : List Bytes :=
  [[0x70, 0x70, 0x05, 0xC0, 0x79, 0x12, 0x45, 0x00], [0x42, 0xF0, 0x04, 0xFF, 0x00, 0xB0, 0x00],
    [0x02, 0x00, 0x00]]

/-- The row is found in front of a section that is not all there. -/
theorem split_exact_row :
    (∀ bytes ∈ row, Whole bytes) ∧ Ended [0x00, 0xB0, 0x01] ∧
      split (row.flatten ++ [0x00, 0xB0, 0x01]) = row :=
  have hrow : ∀ bytes ∈ row, Whole bytes := by decide +kernel
  have htail : Ended [0x00, 0xB0, 0x01] := .overlong (by decide) (by decide +kernel)
  ⟨hrow, htail, split_exact.1 row _ hrow htail⟩

end DvbReceiver.Section
