import DvbReceiver.Proofs.Bits.Words

/-!
# Bit fields as slices of a row of bits

`Bits.ofBytes` are the bits of a byte string one behind the other, most significant first, and
`Bits.spelled` is the number that bits spell. A field is what a reader finds that skips the bits in
front of it and then takes one bit after the other (`Bits.field_eq_spelled`).

A field is made of its parts, and so are the numbers and the errors that its readers come to
(`Bits.extract_add`, `Bits.lowBits_eq`).
-/

namespace DvbReceiver

namespace Bits

/-! ## Rows of bits -/

/-- A single bit. -/
def Word.ofBool (bit : Bool) : Word := ⟨1, BitVec.ofBool bit⟩

/-- The number that bits spell, the first of them as the most significant. -/
def spelled (bits : List Bool) : Nat := number (bits.map Word.ofBool)

/-- The bits of an octet, the most significant first. -/
def ofOctet (octet : UInt8) : List Bool :=
  (List.range 8).map fun i => octet.toNat.testBit (7 - i)

/-- The bits of a byte string, one behind the other. -/
def ofBytes (bytes : Bytes) : List Bool := bytes.flatMap ofOctet

@[simp] theorem length_ofOctet (octet : UInt8) : (ofOctet octet).length = 8 := rfl

theorem length_ofBytes (bytes : Bytes) : (ofBytes bytes).length = 8 * bytes.length := by
  induction bytes with
  | nil => rfl
  | cons octet bytes ih =>
    rw [ofBytes, List.flatMap_cons, List.length_append, length_ofOctet, List.length_cons,
      Nat.mul_succ, Nat.add_comm]
    exact congrArg (· + 8) ih

theorem totalWidth_map_ofBool (bits : List Bool) :
    totalWidth (bits.map Word.ofBool) = bits.length := by
  induction bits with
  | nil => rfl
  | cons bit bits ih =>
    rw [List.map_cons, totalWidth, ih, List.length_cons, Nat.add_comm]
    rfl

theorem spelled_append (front back : List Bool) :
    spelled (front ++ back) = spelled front * 2 ^ back.length + spelled back := by
  rw [spelled, List.map_append, number_append, totalWidth_map_ofBool]
  rfl

theorem spelled_lt (bits : List Bool) : spelled bits < 2 ^ bits.length := by
  have hlt := number_lt (bits.map Word.ofBool)
  rwa [totalWidth_map_ofBool] at hlt

theorem spelled_singleton (bit : Bool) : spelled [bit] = bit.toNat := by
  simp [spelled, number, Word.ofBool]

/-- The high bits of an octet spell what is left of it without the others. -/
theorem spelled_highBits (octet : UInt8) {count : Nat} (h : count ≤ 8) :
    spelled ((List.range count).map fun i => octet.toNat.testBit (7 - i)) =
      octet.toNat / 2 ^ (8 - count) := by
  induction count with
  | zero => exact (Nat.div_eq_of_lt octet.toNat_lt).symm
  | succ count ih =>
    have hpow : 8 - count = 7 - count + 1 := by omega
    rw [List.range_succ, List.map_append, List.map_singleton, spelled_append, ih (by omega),
      spelled_singleton, Nat.toNat_testBit, hpow, pow_succ, ← Nat.div_div_eq_div_mul,
      List.length_singleton, pow_one, Nat.div_add_mod', Nat.add_sub_add_right 7 1 count]

theorem spelled_ofOctet (octet : UInt8) : spelled (ofOctet octet) = octet.toNat :=
  (spelled_highBits octet (Nat.le_refl 8)).trans (Nat.div_one _)

/-- A byte string and its bits spell the same number. -/
theorem spelled_ofBytes (bytes : Bytes) : spelled (ofBytes bytes) = bytes.value := by
  induction bytes with
  | nil => rfl
  | cons octet bytes ih =>
    have hoctet : Bytes.value [octet] = octet.toNat := by simp [Bytes.value]
    have hcons : octet :: bytes = [octet] ++ bytes := rfl
    rw [hcons, Bytes.value_append, hoctet, ← two_pow_eight_mul, ← length_ofBytes, ← ih,
      ← spelled_ofOctet octet, ← spelled_append]
    rfl

/-- **A field is read bit by bit**: what is skipped, the field and what lies behind it make up the
buffer. -/
theorem field_eq_spelled {buffer : Bytes} {offset width : Nat}
    (h : offset + width ≤ 8 * buffer.length) :
    field buffer offset width = spelled (((ofBytes buffer).drop offset).take width) := by
  have hlength := length_ofBytes buffer
  have hfield : (((ofBytes buffer).drop offset).take width).length = width := by
    rw [List.length_take_of_le]
    rw [List.length_drop]
    omega
  have hbehind : (((ofBytes buffer).drop offset).drop width).length =
      8 * buffer.length - (offset + width) := by
    rw [List.length_drop, List.length_drop]
    omega
  have hvalue : buffer.value =
      (spelled ((ofBytes buffer).take offset) * 2 ^ width +
          spelled (((ofBytes buffer).drop offset).take width)) *
        2 ^ (8 * buffer.length - (offset + width)) +
          spelled (((ofBytes buffer).drop offset).drop width) := by
    rw [← spelled_ofBytes, ← hbehind]
    conv_lhs => rw [← List.take_append_drop offset (ofBytes buffer),
      ← List.take_append_drop width ((ofBytes buffer).drop offset)]
    rw [spelled_append, spelled_append, List.length_append, hfield, hbehind]
    ring
  have hlt := spelled_lt (((ofBytes buffer).drop offset).drop width)
  have hmod := spelled_lt (((ofBytes buffer).drop offset).take width)
  rw [hbehind] at hlt
  rw [hfield] at hmod
  rw [field, hvalue, Nat.add_comm, Nat.add_mul_div_right _ _ (Nat.two_pow_pos _),
    Nat.div_eq_of_lt hlt, Nat.zero_add, Nat.mul_add_mod_self_right, Nat.mod_eq_of_lt hmod]

/-! ## Parts of a field -/

/-- A field is made of its high and its low bits. -/
theorem field_add (buffer : Bytes) (offset high low : Nat)
    (h : offset + (high + low) ≤ 8 * buffer.length) :
    field buffer offset (high + low) =
      field buffer offset high * 2 ^ low + field buffer (offset + high) low := by
  rw [← field_div buffer offset high low h, ← field_mod, Nat.mul_comm, Nat.div_add_mod]

/-- A field can be read in two parts. The part that ends last is read first, for if bytes are
missing, it is the one that says how many. -/
theorem extract_add (buffer : Bytes) (offset high low : Nat) (hhigh : 0 < high) (hlow : 0 < low)
    (hwidth : high + low ≤ 32) :
    extract buffer offset (high + low) = do
      let last ← extract buffer (offset + high) low
      let first ← extract buffer offset high
      return first * 2 ^ low + last := by
  have hend : offset + (high + low) = offset + high + low := (Nat.add_assoc _ _ _).symm
  rcases Nat.lt_or_ge (8 * buffer.length) (offset + high + low) with hlt | hfits
  · rw [extract_of_lt (by omega) hwidth (by omega), extract_of_lt hlow (by omega) hlt, error_bind,
      hend]
  · rw [extract_of_le (by omega) hwidth (by omega), extract_of_le hlow (by omega) hfits, ok_bind,
      extract_of_le hhigh (by omega) (by omega), ok_bind, field_add _ _ _ _ (by omega)]
    rfl

theorem lowBits_eq (buffer : Bytes) (offset : Nat) {width : Nat} (hpos : 0 < width)
    (hwidth : width ≤ 16) :
    lowBits buffer offset width = do return (← u16At buffer offset) % 2 ^ width := by
  have hend : 8 * offset + (16 - width) + width = 8 * offset + 16 := by omega
  unfold lowBits u16At
  rcases Nat.lt_or_ge (8 * buffer.length) (8 * offset + 16) with hlt | hfits
  · rw [extract_of_lt hpos (by omega) (by omega), extract_of_lt (by decide) (by decide) hlt,
      error_bind, hend]
  · have hlow := field_mod buffer (8 * offset) (16 - width) width
    rw [Nat.sub_add_cancel hwidth] at hlow
    rw [extract_of_le hpos (by omega) (by omega), extract_of_le (by decide) (by decide) hfits,
      ok_bind, hlow]
    rfl

end Bits

end DvbReceiver
