import DvbReceiver.Proofs.Bits

/-!
# Bit fields as they are broadcast

A broadcaster writes bit fields one behind the other, most significant bit first. `Bits.write` does
so for a list of words, each with its width, and each word is found again as the field at its place
(`Bits.field_write`).
-/

namespace DvbReceiver

namespace Bytes

/-- The last `count` octets of a number, most significant first. -/
def ofNumber : (count : Nat) → (number : Nat) → Bytes
  | 0, _ => []
  | count + 1, number => ofNumber count (number / 256) ++ [UInt8.ofNat number]

@[simp] theorem length_ofNumber (count number : Nat) : (ofNumber count number).length = count := by
  induction count generalizing number with
  | zero => rfl
  | succ count ih => rw [ofNumber, List.length_append, ih, List.length_singleton]

theorem value_ofNumber (count number : Nat) :
    value (ofNumber count number) = number % 256 ^ count := by
  induction count generalizing number with
  | zero => simp [ofNumber, value, Nat.mod_one]
  | succ count ih =>
    have hoctet : value [UInt8.ofNat number] = number % 256 := by simp [value]
    rw [ofNumber, value_append, ih, hoctet, List.length_singleton, pow_one, pow_succ',
      Nat.mod_mul]
    ring

theorem length_flatMap_of_length_eq {ρ : Type} {write : ρ → Bytes} {size : Nat}
    (h : ∀ w, (write w).length = size) (written : List ρ) :
    (written.flatMap write).length = size * written.length := by
  induction written with
  | nil => rfl
  | cons w written ih =>
    rw [List.flatMap_cons, List.length_append, ih, h, List.length_cons, Nat.mul_succ, Nat.add_comm]

end Bytes

namespace Bits

/-- Bits that are written together. -/
structure Word where
  width : Nat
  value : BitVec width

/-- How many bits the words have. -/
def totalWidth : List Word → Nat
  | [] => 0
  | word :: words => word.width + totalWidth words

/-- The words read as one number, the first as the most significant. -/
def number (words : List Word) : Nat :=
  words.foldl (fun number word => number * 2 ^ word.width + word.value.toNat) 0

/-- The octets of words that fill whole octets. -/
def write (words : List Word) : Bytes := Bytes.ofNumber (totalWidth words / 8) (number words)

theorem totalWidth_append (front back : List Word) :
    totalWidth (front ++ back) = totalWidth front + totalWidth back := by
  induction front with
  | nil => simp [totalWidth]
  | cons word front ih => rw [List.cons_append, totalWidth, totalWidth, ih, Nat.add_assoc]

theorem foldl_number (words : List Word) (start : Nat) :
    words.foldl (fun number word => number * 2 ^ word.width + word.value.toNat) start =
      start * 2 ^ totalWidth words + number words := by
  unfold number
  induction words generalizing start with
  | nil => simp [totalWidth]
  | cons word words ih =>
    rw [List.foldl_cons, List.foldl_cons, ih, ih (0 * 2 ^ word.width + word.value.toNat),
      totalWidth]
    ring

theorem number_append (front back : List Word) :
    number (front ++ back) = number front * 2 ^ totalWidth back + number back := by
  rw [number, List.foldl_append, foldl_number]
  rfl

theorem number_lt (words : List Word) : number words < 2 ^ totalWidth words := by
  induction words using List.reverseRecOn with
  | nil => simp [number, totalWidth]
  | append_singleton words word ih =>
    have hword : number [word] = word.value.toNat := by simp [number]
    have hlt := word.value.isLt
    have hwidth : totalWidth [word] = word.width := by simp [totalWidth]
    rw [number_append, totalWidth_append, hword, hwidth, pow_add]
    calc number words * 2 ^ word.width + word.value.toNat
        < (number words + 1) * 2 ^ word.width := by rw [Nat.succ_mul]; omega
      _ ≤ 2 ^ totalWidth words * 2 ^ word.width := Nat.mul_le_mul_right _ ih

theorem length_write (words : List Word) : (write words).length = totalWidth words / 8 :=
  Bytes.length_ofNumber _ _

/-- Words that fill whole octets are the number that their octets spell. -/
theorem value_write {words : List Word} (h : totalWidth words % 8 = 0) :
    Bytes.value (write words) = number words := by
  have hwidth : 8 * (totalWidth words / 8) = totalWidth words := by omega
  rw [write, Bytes.value_ofNumber, ← two_pow_eight_mul, hwidth, Nat.mod_eq_of_lt (number_lt words)]

theorem totalWidth_eq_of_getElem? {words : List Word} {i : Nat} {word : Word}
    (hword : words[i]? = some word) :
    totalWidth words =
      totalWidth (words.take i) + word.width + totalWidth (words.drop (i + 1)) := by
  obtain ⟨hi, rfl⟩ := List.getElem?_eq_some_iff.1 hword
  have hsplit : words = words.take i ++ words[i] :: words.drop (i + 1) := by simp
  conv_lhs => rw [hsplit]
  rw [totalWidth_append, totalWidth, Nat.add_assoc]

theorem number_eq_of_getElem? {words : List Word} {i : Nat} {word : Word}
    (hword : words[i]? = some word) :
    number words = (number (words.take i) * 2 ^ word.width + word.value.toNat) *
      2 ^ totalWidth (words.drop (i + 1)) + number (words.drop (i + 1)) := by
  obtain ⟨hi, rfl⟩ := List.getElem?_eq_some_iff.1 hword
  have hsplit : words = words.take i ++ words[i] :: words.drop (i + 1) := by simp
  have hsingle : number [words[i]] = words[i].value.toNat := by simp [number]
  have hwidth : totalWidth [words[i]] = words[i].width := by simp [totalWidth]
  conv_lhs => rw [hsplit]
  rw [List.append_cons, number_append, number_append, hsingle, hwidth]

/-- **Each word is found at its place**, whatever comes behind the words. -/
theorem field_write (words : List Word) (h : totalWidth words % 8 = 0) (rest : Bytes) (i : Nat)
    (word : Word) (hword : words[i]? = some word) :
    field (write words ++ rest) (totalWidth (words.take i)) word.width = word.value.toNat := by
  have htotal := totalWidth_eq_of_getElem? hword
  have hlength : 8 * (write words).length = totalWidth words := by
    rw [length_write]
    omega
  have hshift : 8 * (write words).length - (totalWidth (words.take i) + word.width) =
      totalWidth (words.drop (i + 1)) := by
    omega
  rw [field_append_left _ _ (by omega), field, hshift, value_write h,
    number_eq_of_getElem? hword, Nat.add_comm, Nat.add_mul_div_right _ _ (Nat.two_pow_pos _),
    Nat.div_eq_of_lt (number_lt _), Nat.zero_add, Nat.mul_add_mod_of_lt word.value.isLt]

/-- Words behind other bytes are found that much further on. -/
theorem field_append_write (front : Bytes) (words : List Word) (h : totalWidth words % 8 = 0)
    (rest : Bytes) (i : Nat) (word : Word) (hword : words[i]? = some word) :
    field (front ++ (write words ++ rest)) (8 * front.length + totalWidth (words.take i))
      word.width = word.value.toNat := by
  have htotal := totalWidth_eq_of_getElem? hword
  have hfits : totalWidth (words.take i) + word.width ≤ 8 * (write words ++ rest).length := by
    rw [List.length_append, length_write]
    omega
  rw [field_append_right _ _ hfits, field_write words h rest i word hword]

end Bits

end DvbReceiver
