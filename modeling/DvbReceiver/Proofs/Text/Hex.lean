import DvbReceiver.Text.Hex
import DvbReceiver.Proofs.Table.Decoding
import Mathlib.Data.List.Basic
import Mathlib.Tactic.SplitIfs

/-!
# What hexadecimal texts spell

`Text.Hex.Spells` relates a text to the byte string that it spells: two digits for each octet, in
either case, with blanks before, between and behind them. All that the blanks do is to part the
digits (`Text.Hex.spells_iff_paired`). A text spells nothing exactly if it has an odd number of
octets that are not blank, or one of these is no digit (`Text.Hex.malformed_iff`).

Decoding finds what a text spells, and accepts nothing else (`Text.Hex.decode_eq_ok_iff`). So does
every way to read digits that takes pairs and refuses everything else (`Text.Hex.ReadsPairs`).
-/

namespace DvbReceiver.Text.Hex

variable {octet high low : UInt8} {value first second position : Nat} {text bytes digits : Bytes}

/-! ## Digits -/

/-- The octet is the digit with the given value, a capital or a small letter from ten on. -/
def IsDigit (octet : UInt8) (value : Nat) : Prop :=
  (value < 10 ∧ octet.toNat = 0x30 + value) ∨
    (10 ≤ value ∧ value < 16 ∧
      (octet.toNat + 10 = 0x41 + value ∨ octet.toNat + 10 = 0x61 + value))

theorem IsDigit.lt (h : IsDigit octet value) : value < 16 := by
  unfold IsDigit at h
  omega

theorem toNat_ofNat_octet (octet : UInt8) : (Char.ofNat octet.toNat).toNat = octet.toNat := by
  have hlt := octet.toNat_lt
  have hvalid : octet.toNat.isValidChar := .inl (by omega)
  rw [Char.ofNat, dif_pos hvalid]
  rfl

theorem char_le_iff {c d : Char} : c ≤ d ↔ c.toNat ≤ d.toNat := by
  rw [Char.le_def, UInt32.le_iff_toNat_le]
  rfl

theorem digit?_eq_some_iff :
    digit? 16 (Char.ofNat octet.toNat) = some value ↔ IsDigit octet value := by
  have h0 : '0'.toNat = 48 := rfl
  have h9 : '9'.toNat = 57 := rfl
  have hA : 'A'.toNat = 65 := rfl
  have hF : 'F'.toNat = 70 := rfl
  have ha : 'a'.toNat = 97 := rfl
  have hf : 'f'.toNat = 102 := rfl
  unfold digit? IsDigit
  simp only [char_le_iff, toNat_ofNat_octet, h0, h9, hA, hF, ha, hf]
  split_ifs <;> simp <;> omega

theorem digit_eq_ok_iff : digit position octet = .ok value ↔ IsDigit octet value := by
  rw [← digit?_eq_some_iff, digit]
  cases digit? 16 (Char.ofNat octet.toNat) <;> simp

theorem isBlank_iff : IsBlank octet ↔
    octet.toNat = 0x20 ∨ octet.toNat = 0x09 ∨ octet.toNat = 0x0A ∨ octet.toNat = 0x0C ∨
      octet.toNat = 0x0D := by
  simp [IsBlank, ← UInt8.toNat_inj]

theorem IsDigit.not_isBlank (h : IsDigit octet value) : ¬IsBlank octet := by
  rw [isBlank_iff]
  unfold IsDigit at h
  omega

/-! ## Pairs of digits -/

/-- The digits are those of the octets, two for each and nothing between them. -/
inductive Paired : Bytes → Bytes → Prop
  | nil : Paired [] []
  | octet {octet high low : UInt8} {digits bytes : Bytes} (hhigh : IsDigit high (octet.toNat / 16))
    (hlow : IsDigit low (octet.toNat % 16)) (h : Paired digits bytes) :
    Paired (high :: low :: digits) (octet :: bytes)

namespace Paired

/-- Any two digits make an octet. -/
theorem cons (hhigh : IsDigit high first) (hlow : IsDigit low second) (h : Paired digits bytes) :
    Paired (high :: low :: digits) (UInt8.ofNat (16 * first + second) :: bytes) := by
  have hfirst : first < 16 := hhigh.lt
  have hsecond : second < 16 := hlow.lt
  have hoctet : (UInt8.ofNat (16 * first + second)).toNat = 16 * first + second :=
    UInt8.toNat_ofNat_of_lt' (by rw [UInt8.size]; omega)
  have hdiv : (16 * first + second) / 16 = first := by omega
  have hmod : (16 * first + second) % 16 = second := by omega
  refine .octet ?_ ?_ h
  · rwa [hoctet, hdiv]
  · rwa [hoctet, hmod]

theorem length_eq (h : Paired digits bytes) : digits.length = 2 * bytes.length := by
  induction h with
  | nil => rfl
  | octet _ _ _ ih =>
    rw [List.length_cons, List.length_cons, ih, List.length_cons]
    rfl

theorem exists_isDigit (h : Paired digits bytes) :
    ∀ octet ∈ digits, ∃ value, IsDigit octet value := by
  induction h with
  | nil => exact List.forall_mem_nil _
  | octet hhigh hlow _ ih =>
    exact List.forall_mem_cons.2 ⟨⟨_, hhigh⟩, List.forall_mem_cons.2 ⟨⟨_, hlow⟩, ih⟩⟩

end Paired

/-- Digits in an even number are those of some octets. -/
theorem exists_paired : ∀ {digits : Bytes}, digits.length % 2 = 0 →
    (∀ octet ∈ digits, ∃ value, IsDigit octet value) → ∃ bytes, Paired digits bytes
  | [], _, _ => ⟨[], .nil⟩
  | [_], heven, _ => by cases heven
  | high :: low :: digits, heven, hdigits => by
    rw [List.forall_mem_cons, List.forall_mem_cons] at hdigits
    rw [List.length_cons, List.length_cons] at heven
    obtain ⟨⟨first, hhigh⟩, ⟨second, hlow⟩, hdigits⟩ := hdigits
    obtain ⟨bytes, hbytes⟩ := exists_paired (by omega) hdigits
    exact ⟨_, hbytes.cons hhigh hlow⟩

/-! ## Spelling -/

/-- The text spells the byte string. -/
inductive Spells : Bytes → Bytes → Prop
  | nil : Spells [] []
  | blank {octet : UInt8} {text bytes : Bytes} (hblank : IsBlank octet) (h : Spells text bytes) :
    Spells (octet :: text) bytes
  | octet {octet high low : UInt8} {gap text bytes : Bytes}
    (hhigh : IsDigit high (octet.toNat / 16)) (hgap : ∀ blank ∈ gap, IsBlank blank)
    (hlow : IsDigit low (octet.toNat % 16)) (h : Spells text bytes) :
    Spells (high :: (gap ++ low :: text)) (octet :: bytes)

/-- What is left of a text without its blanks. -/
def unspaced (text : Bytes) : Bytes := text.filter fun octet => ¬IsBlank octet

/-- The text has half an octet too many, or something in it is neither blank nor a digit. -/
def Malformed (text : Bytes) : Prop :=
  (unspaced text).length % 2 = 1 ∨
    ∃ octet ∈ text, ¬IsBlank octet ∧ ∀ value, ¬IsDigit octet value

theorem mem_unspaced_iff : octet ∈ unspaced text ↔ octet ∈ text ∧ ¬IsBlank octet := by
  simp [unspaced, List.mem_filter]

theorem unspaced_append (front back : Bytes) :
    unspaced (front ++ back) = unspaced front ++ unspaced back :=
  List.filter_append front back

theorem unspaced_eq_nil_iff : unspaced text = [] ↔ ∀ octet ∈ text, IsBlank octet := by
  simp [unspaced, List.filter_eq_nil_iff]

theorem unspaced_cons_of_isBlank (h : IsBlank octet) : unspaced (octet :: text) = unspaced text :=
  List.filter_cons_of_neg (by simpa using h)

theorem unspaced_cons_of_isDigit (h : IsDigit octet value) :
    unspaced (octet :: text) = octet :: unspaced text :=
  List.filter_cons_of_pos (by simpa using h.not_isBlank)

theorem exists_of_unspaced_eq_cons (h : unspaced text = octet :: digits) :
    ∃ gap rest, text = gap ++ octet :: rest ∧ (∀ blank ∈ gap, IsBlank blank) ∧
      unspaced rest = digits := by
  obtain ⟨gap, rest, htext, hgap, -, hrest⟩ := List.filter_eq_cons_iff.1 h
  exact ⟨gap, rest, htext, by simpa using hgap, hrest⟩

theorem Spells.blanks {gap : Bytes} (hgap : ∀ blank ∈ gap, IsBlank blank) (h : Spells text bytes) :
    Spells (gap ++ text) bytes := by
  induction gap with
  | nil => exact h
  | cons octet gap ih =>
    rw [List.forall_mem_cons] at hgap
    exact .blank hgap.1 (ih hgap.2)

theorem Spells.paired (h : Spells text bytes) : Paired (unspaced text) bytes := by
  induction h with
  | nil => exact .nil
  | blank hblank _ ih => rwa [unspaced_cons_of_isBlank hblank]
  | octet hhigh hgap hlow _ ih =>
    rw [unspaced_cons_of_isDigit hhigh, unspaced_append, unspaced_eq_nil_iff.2 hgap,
      List.nil_append, unspaced_cons_of_isDigit hlow]
    exact .octet hhigh hlow ih

theorem Paired.spells (h : Paired digits bytes) (htext : unspaced text = digits) :
    Spells text bytes := by
  induction h generalizing text with
  | nil =>
    have hblanks := Spells.nil.blanks (unspaced_eq_nil_iff.1 htext)
    rwa [List.append_nil] at hblanks
  | octet hhigh hlow _ ih =>
    -- The blanks of the text lie in front of the first digit, between the two, and behind them.
    obtain ⟨before, behind, rfl, hbefore, hbehind⟩ := exists_of_unspaced_eq_cons htext
    obtain ⟨gap, rest, rfl, hgap, hrest⟩ := exists_of_unspaced_eq_cons hbehind
    exact (Spells.octet hhigh hgap hlow (ih hrest)).blanks hbefore

/-- **A text spells the octets of its digits**, wherever there are blanks. -/
theorem spells_iff_paired : Spells text bytes ↔ Paired (unspaced text) bytes :=
  ⟨Spells.paired, fun h => h.spells rfl⟩

/-- **Malformed texts are those that spell nothing.** -/
theorem malformed_iff : Malformed text ↔ ∀ bytes, ¬Spells text bytes := by
  simp only [spells_iff_paired]
  constructor
  · rintro (hodd | ⟨octet, hmem, hsolid, hdigit⟩) bytes h
    · rw [h.length_eq] at hodd
      omega
    · obtain ⟨value, hvalue⟩ := h.exists_isDigit octet (mem_unspaced_iff.2 ⟨hmem, hsolid⟩)
      exact hdigit value hvalue
  · intro h
    rcases Nat.mod_two_eq_zero_or_one (unspaced text).length with heven | hodd
    · right
      by_contra hdigits
      push Not at hdigits
      obtain ⟨bytes, hbytes⟩ := exists_paired heven fun octet hmem =>
        hdigits octet (mem_unspaced_iff.1 hmem).1 (mem_unspaced_iff.1 hmem).2
      exact h bytes hbytes
    · exact .inl hodd

/-! ## Decoding -/

/-- Reads digits without blanks the way that decoding does. -/
def strict (digits : Bytes) : Except DecodeError Bytes :=
  if digits.length % 2 = 0 then pairs 0 digits else .error .oddCount

theorem decode_eq_strict (text : Bytes) : decode text = strict (unspaced text) := rfl

theorem Paired.pairs_eq (h : Paired digits bytes) (position : Nat) :
    pairs position digits = .ok bytes := by
  induction h generalizing position with
  | nil => rfl
  | octet hhigh hlow _ ih =>
    rw [pairs, digit_eq_ok_iff.2 hhigh, ok_bind, digit_eq_ok_iff.2 hlow, ok_bind, ih, ok_bind,
      Nat.div_add_mod, UInt8.ofNat_toNat]
    rfl

/-- What is read pair by pair are the octets of the digits, if no digit is left over. -/
theorem paired_of_pairs (h : pairs position digits = .ok bytes) (heven : digits.length % 2 = 0) :
    Paired digits bytes := by
  induction position, digits using pairs.induct generalizing bytes with
  | case1 position high low digits ih =>
    rw [pairs] at h
    obtain ⟨first, hfirst, h⟩ := bind_eq_ok.1 h
    obtain ⟨second, hsecond, h⟩ := bind_eq_ok.1 h
    obtain ⟨rest, hrest, h⟩ := bind_eq_ok.1 h
    cases h
    rw [List.length_cons, List.length_cons] at heven
    exact (ih hrest (by omega)).cons (digit_eq_ok_iff.1 hfirst) (digit_eq_ok_iff.1 hsecond)
  | case2 digits position hshort =>
    rcases digits with _ | ⟨high, _ | ⟨low, digits⟩⟩
    · cases h
      exact .nil
    · cases heven
    · cases hshort high low digits rfl

/-- The function reads digits without blanks: it takes two for each octet, in either case, and
refuses everything else. -/
structure ReadsPairs {ε : Type} (read : Bytes → Except ε Bytes) : Prop where
  reads {digits bytes : Bytes} (h : Paired digits bytes) : read digits = .ok bytes
  refuses {digits : Bytes} (h : ∀ bytes, ¬Paired digits bytes) : ∃ error, read digits = .error error

theorem readsPairs_strict : ReadsPairs strict where
  reads {digits bytes} h := by
    have heven : digits.length % 2 = 0 := by
      rw [h.length_eq]
      omega
    rw [strict, if_pos heven, h.pairs_eq]
  refuses {digits} h := by
    rcases hstrict : strict digits with error | bytes
    · exact ⟨error, rfl⟩
    · unfold strict at hstrict
      split at hstrict
      · next heven => exact absurd (paired_of_pairs hstrict heven) (h bytes)
      · cases hstrict

namespace ReadsPairs

variable {ε : Type} {read : Bytes → Except ε Bytes}

theorem eq_ok_iff (hread : ReadsPairs read) :
    read (unspaced text) = .ok bytes ↔ Spells text bytes := by
  rw [spells_iff_paired]
  constructor
  · intro h
    by_cases hpaired : ∃ bytes, Paired (unspaced text) bytes
    · obtain ⟨octets, hoctets⟩ := hpaired
      cases h.symm.trans (hread.reads hoctets)
      exact hoctets
    · obtain ⟨error, herror⟩ := hread.refuses (not_exists.1 hpaired)
      cases h.symm.trans herror
  · exact hread.reads

theorem exists_eq_error (hread : ReadsPairs read) (h : Malformed text) :
    ∃ error, read (unspaced text) = .error error :=
  hread.refuses fun bytes hpaired => malformed_iff.1 h bytes (spells_iff_paired.2 hpaired)

end ReadsPairs

/-- **A text decodes to what it spells**, and to nothing else. -/
theorem decode_eq_ok_iff : decode text = .ok bytes ↔ Spells text bytes := by
  rw [decode_eq_strict]
  exact readsPairs_strict.eq_ok_iff

end DvbReceiver.Text.Hex
