import DvbReceiver.Bits
import DvbReceiver.Proofs.Table.Decoding
import Mathlib.Data.List.Induction
import Mathlib.Tactic.Ring

/-!
# Bit fields as slices of one number

`Bits.field` is a bit field cut out of the whole buffer read as one big-endian number, and the bit
reader returns it whenever it is all there (`Bits.extract_eq`), though it only looks at the octets
that the field touches.

A field does not change when bytes are put in front of it or behind it (`Bits.field_append_right`,
`Bits.field_append_left`).
-/

namespace DvbReceiver

namespace Bytes

theorem foldl_value (bytes : Bytes) (number : Nat) :
    bytes.foldl (fun number octet => 256 * number + octet.toNat) number =
      number * 256 ^ bytes.length + value bytes := by
  unfold value
  induction bytes generalizing number with
  | nil => simp
  | cons octet bytes ih =>
    rw [List.foldl_cons, List.foldl_cons, ih, ih (256 * 0 + octet.toNat), List.length_cons]
    ring

theorem value_append (front back : Bytes) :
    value (front ++ back) = value front * 256 ^ back.length + value back := by
  rw [value, List.foldl_append, foldl_value]
  rfl

theorem value_lt (bytes : Bytes) : value bytes < 256 ^ bytes.length := by
  induction bytes using List.reverseRecOn with
  | nil => simp [value]
  | append_singleton bytes octet ih =>
    have hoctet := octet.toNat_lt
    rw [value_append, List.length_append, List.length_singleton, Nat.pow_succ]
    have hsingle : value [octet] = octet.toNat := by simp [value]
    omega

end Bytes

namespace Bits

/-- The field of `width` bits at bit `offset`, cut out of the buffer read as one number. -/
def field (buffer : Bytes) (offset width : Nat) : Nat :=
  Bytes.value buffer / 2 ^ (8 * buffer.length - (offset + width)) % 2 ^ width

theorem field_lt (buffer : Bytes) (offset width : Nat) : field buffer offset width < 2 ^ width :=
  Nat.mod_lt _ (Nat.two_pow_pos width)

/-- The low bits of a field are the field that ends with it. -/
theorem field_mod (buffer : Bytes) (offset high low : Nat) :
    field buffer offset (high + low) % 2 ^ low = field buffer (offset + high) low := by
  rw [field, field, Nat.mod_mod_of_dvd _ (Nat.pow_dvd_pow 2 (Nat.le_add_left low high)),
    Nat.add_assoc offset high low]

theorem two_pow_eight_mul (count : Nat) : 2 ^ (8 * count) = 256 ^ count := by
  rw [pow_mul]
  norm_num

/-- Bits above a slice do not matter. -/
theorem add_mul_div_mod_two_pow (high low : Nat) {bits shift width : Nat}
    (h : shift + width ≤ bits) :
    (high * 2 ^ bits + low) / 2 ^ shift % 2 ^ width = low / 2 ^ shift % 2 ^ width := by
  obtain ⟨more, rfl⟩ := Nat.exists_eq_add_of_le h
  have hsplit : high * 2 ^ (shift + width + more) = high * 2 ^ more * 2 ^ width * 2 ^ shift := by
    ring
  rw [hsplit, Nat.add_comm, Nat.add_mul_div_right _ _ (Nat.two_pow_pos shift),
    Nat.add_mul_mod_self_right]

/-- The high bits of a field are the field in front of the others. -/
theorem field_div (buffer : Bytes) (offset high low : Nat)
    (h : offset + (high + low) ≤ 8 * buffer.length) :
    field buffer offset (high + low) / 2 ^ low = field buffer offset high := by
  have hshift : 8 * buffer.length - (offset + high) =
      8 * buffer.length - (offset + (high + low)) + low := by
    omega
  rw [field, field, hshift, pow_add, pow_add, Nat.mod_mul_left_div_self, Nat.div_div_eq_div_mul]

theorem field_append_right (front back : Bytes) {offset width : Nat}
    (h : offset + width ≤ 8 * back.length) :
    field (front ++ back) (8 * front.length + offset) width = field back offset width := by
  have hshift : 8 * (front ++ back).length - (8 * front.length + offset + width) =
      8 * back.length - (offset + width) := by
    rw [List.length_append]
    omega
  rw [field, field, hshift, Bytes.value_append, ← two_pow_eight_mul,
    add_mul_div_mod_two_pow _ _ (by omega)]

theorem field_append_left (front back : Bytes) {offset width : Nat}
    (h : offset + width ≤ 8 * front.length) :
    field (front ++ back) offset width = field front offset width := by
  have hshift : 8 * (front ++ back).length - (offset + width) =
      8 * back.length + (8 * front.length - (offset + width)) := by
    rw [List.length_append]
    omega
  rw [field, field, hshift, Bytes.value_append, pow_add, two_pow_eight_mul,
    ← Nat.div_div_eq_div_mul, Nat.add_comm (_ * _),
    Nat.add_mul_div_right _ _ (Nat.pow_pos (by norm_num)),
    Nat.div_eq_of_lt (Bytes.value_lt back), Nat.zero_add]

theorem field_drop (buffer : Bytes) (start : Nat) {offset width : Nat}
    (h : 8 * start + offset + width ≤ 8 * buffer.length) :
    field (buffer.drop start) offset width = field buffer (8 * start + offset) width := by
  have hlength : (buffer.take start).length = start := List.length_take_of_le (by omega)
  have hfit : offset + width ≤ 8 * (buffer.drop start).length := by
    rw [List.length_drop]
    omega
  have happend := field_append_right (buffer.take start) (buffer.drop start) hfit
  rw [List.take_append_drop, hlength] at happend
  exact happend.symm

theorem field_take (buffer : Bytes) (count : Nat) {offset width : Nat}
    (hfit : offset + width ≤ 8 * count) (hcount : count ≤ buffer.length) :
    field (buffer.take count) offset width = field buffer offset width := by
  have hlength : (buffer.take count).length = count := List.length_take_of_le hcount
  have happend := field_append_left (buffer.take count) (buffer.drop count)
    (hfit.trans_eq (by rw [hlength]))
  rw [List.take_append_drop] at happend
  exact happend.symm

/-- The first octet as a field. -/
theorem field_cons (octet : UInt8) (bytes : Bytes) : field (octet :: bytes) 0 8 = octet.toNat := by
  have happend : field ([octet] ++ bytes) 0 8 = field [octet] 0 8 := field_append_left _ _ (by simp)
  rw [List.singleton_append] at happend
  rw [happend]
  simp [field, Bytes.value]

/-! ## The reader -/

theorem require_of_le {buffer : Bytes} {needed : Nat} (h : needed ≤ buffer.length) :
    require buffer needed = .ok () :=
  if_neg (Nat.not_lt.2 h)

theorem require_of_lt {buffer : Bytes} {needed : Nat} (h : buffer.length < needed) :
    require buffer needed = .error (.truncated needed buffer.length) :=
  if_pos h

theorem le_of_require {buffer : Bytes} {needed : Nat} {done : Unit}
    (h : require buffer needed = .ok done) : needed ≤ buffer.length := by
  by_contra hlt
  cases (require_of_lt (Nat.lt_of_not_le hlt)).symm.trans h

theorem bytesFor_le_iff {bits count : Nat} : bytesFor bits ≤ count ↔ bits ≤ 8 * count := by
  unfold bytesFor
  omega

/-- The octets before a field and behind it do not matter. -/
theorem field_touched {buffer : Bytes} {offset width : Nat}
    (h : offset + width ≤ 8 * buffer.length) :
    field ((buffer.take (bytesFor (offset + width))).drop (offset / 8)) (offset % 8) width =
      field buffer offset width := by
  have hle : bytesFor (offset + width) ≤ buffer.length := bytesFor_le_iff.2 h
  have hlast := bytesFor_le_iff.1 (Nat.le_refl (bytesFor (offset + width)))
  have htake : (buffer.take (bytesFor (offset + width))).length = bytesFor (offset + width) :=
    List.length_take_of_le hle
  rw [field_drop _ _ (by omega), Nat.div_add_mod, field_take _ _ hlast hle]

/-- **A bit field is read as a slice of the whole buffer**, once its width and the length of the
buffer allow it. -/
theorem extract_eq (buffer : Bytes) (offset width : Nat) :
    extract buffer offset width =
      if width = 0 ∨ 32 < width then .error (.invalidWidth width)
      else if buffer.length < bytesFor (offset + width) then
        .error (.truncated (bytesFor (offset + width)) buffer.length)
      else .ok (field buffer offset width) := by
  unfold extract
  split
  · rfl
  · dsimp only
    split
    · next hlength => rw [require_of_lt hlength]; rfl
    · next hlength =>
      have hle : bytesFor (offset + width) ≤ buffer.length := Nat.not_lt.1 hlength
      have htake : (buffer.take (bytesFor (offset + width))).length = bytesFor (offset + width) :=
        List.length_take_of_le hle
      have hlast := bytesFor_le_iff.1 (Nat.le_refl (bytesFor (offset + width)))
      have hshift : 8 * bytesFor (offset + width) - (offset + width) =
          8 * ((buffer.take (bytesFor (offset + width))).drop (offset / 8)).length -
            (offset % 8 + width) := by
        rw [List.length_drop, htake]
        omega
      rw [require_of_le hle, ← field_touched (hlast.trans (Nat.mul_le_mul_left 8 hle)), field,
        ← hshift]
      rfl

theorem extract_of_le {buffer : Bytes} {offset width : Nat} (hpos : 0 < width) (hwidth : width ≤ 32)
    (h : offset + width ≤ 8 * buffer.length) :
    extract buffer offset width = .ok (field buffer offset width) := by
  rw [extract_eq, if_neg (by omega), if_neg (Nat.not_lt.2 (bytesFor_le_iff.2 h))]

theorem extract_of_lt {buffer : Bytes} {offset width : Nat} (hpos : 0 < width) (hwidth : width ≤ 32)
    (h : 8 * buffer.length < offset + width) :
    extract buffer offset width =
      .error (.truncated (bytesFor (offset + width)) buffer.length) := by
  rw [extract_eq, if_neg (by omega), if_pos (Nat.lt_of_not_le (mt bytesFor_le_iff.1 (by omega)))]

theorem length_of_extract {buffer : Bytes} {offset width field : Nat}
    (h : extract buffer offset width = .ok field) : bytesFor (offset + width) ≤ buffer.length := by
  rw [extract_eq] at h
  split_ifs at h with _ hlength
  exact Nat.not_lt.1 hlength

end Bits

end DvbReceiver
