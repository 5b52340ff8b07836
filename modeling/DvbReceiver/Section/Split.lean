import DvbReceiver.Bits

/-!
# Sections back to back

A recording is a row of sections, each as long as it says of itself. `Section.split` cuts it up.
It stops at the end, at stuffing (a first octet of `0xFF`) and at a section that is not all
there.
-/

namespace DvbReceiver.Section

/-- The octet that fills a packet behind its last section. -/
def stuffing : UInt8 := 0xFF

/-- The bytes that the section length does not count. -/
def uncounted : Nat := 3

/-- The length of the section that the buffer starts with, as the section declares it. -/
def size (buffer : Bytes) : Except ParseError Nat := do
  let field ← Bits.u16At buffer 1
  return uncounted + field % Nat.pow 2 12

/-- The length of the section that the data starts with, if it starts with a complete one. -/
def firstSize? (data : Bytes) : Option Nat :=
  if data.head? = some stuffing then none else
    match size data with
    | .ok size => if size ≤ data.length then some size else none
    | .error _ => none

theorem firstSize?_pos {data : Bytes} {n : Nat} (h : firstSize? data = some n) :
    0 < n ∧ n ≤ data.length := by
  unfold firstSize? at h
  split at h
  · cases h
  · split at h
    · next size hsize =>
      split at h
      · cases h
        refine ⟨?_, by assumption⟩
        unfold Section.size at hsize
        cases hf : Bits.u16At data 1 with
        | error e => simp [hf, bind, Except.bind] at hsize
        | ok field =>
          simp only [hf, bind, Except.bind, pure, Except.pure, Except.ok.injEq] at hsize
          simp only [uncounted] at hsize
          omega
      · cases h
    · cases h

/-- The complete sections that the data starts with, in order. -/
def split (data : Bytes) : List Bytes :=
  match _h : firstSize? data with
  | none => []
  | some size => data.take size :: split (data.drop size)
termination_by data.length
decreasing_by
  have := firstSize?_pos _h
  simp only [List.length_drop]
  omega

end DvbReceiver.Section
