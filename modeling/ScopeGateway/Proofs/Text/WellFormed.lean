import ScopeGateway.Proofs.Text.Utf8

/-!
Bytes without a malformed piece are the form of a text, and of one text only. So reading with
replacement characters keeps the bytes exactly where they are well formed.
-/
namespace ScopeGateway.Text.Utf8

theorem toNat_charOfNat {n : Nat} (h : n < 0xD800 ∨ 0xDFFF < n ∧ n < 0x110000) :
    (Char.ofNat n).toNat = n := by
  rw [Char.ofNat, dif_pos h]
  rfl

theorem ofNat_eq_of_toNat {b : UInt8} {n : Nat} (h : n = b.toNat) : UInt8.ofNat n = b := by
  rw [h, UInt8.ofNat_toNat]

section
variable {b : Nat} {l : Lead}

theorem two_of_lead? (h : lead? b = some l) (ht : l.tails = 1) :
    0xC2 ≤ b ∧ b ≤ 0xDF ∧ l = ⟨1, 0x80, 0xBF, b - 0xC0⟩ := by
  unfold lead? at h
  split_ifs at h <;> cases h <;> simp_all

theorem three_of_lead? (h : lead? b = some l) (ht : l.tails = 2) :
    0xE0 ≤ b ∧ b ≤ 0xEF ∧ l.bits = b - 0xE0 ∧ 0x80 ≤ l.low ∧ l.high ≤ 0xBF ∧
      (b = 0xE0 → l.low = 0xA0) ∧ (b = 0xED → l.high = 0x9F) := by
  unfold lead? at h
  split_ifs at h <;> cases h <;> simp_all
  omega

theorem four_of_lead? (h : lead? b = some l) (ht : l.tails ≠ 1) (ht' : l.tails ≠ 2) :
    0xF0 ≤ b ∧ b ≤ 0xF4 ∧ l.bits = b - 0xF0 ∧ 0x80 ≤ l.low ∧ l.high ≤ 0xBF ∧
      (b = 0xF0 → l.low = 0x90) ∧ (b = 0xF4 → l.high = 0x8F) := by
  unfold lead? at h
  split_ifs at h <;> cases h <;> simp_all
  omega

end

section
variable {b b₁ b₂ b₃ : UInt8} {l : Lead}

theorem bounds_of_isTail (h : isTail b = true) : 0x80 ≤ b.toNat ∧ b.toNat ≤ 0xBF := by
  simpa [isTail] using h

theorem encodeChar_one (h : b.toNat < 0x80) : encodeChar (Char.ofNat b.toNat) = [b] := by
  rw [encodeChar_ascii (by rw [toNat_asciiChar h]; exact h), toNat_asciiChar h,
    UInt8.ofNat_toNat]

theorem encodeChar_two (hl : lead? b.toNat = some l) (ht : l.tails = 1)
    (h₁ : l.low ≤ b₁.toNat ∧ b₁.toNat ≤ l.high) :
    encodeChar (Char.ofNat (l.bits * 0x40 + (b₁.toNat - 0x80))) = [b, b₁] := by
  obtain ⟨hlow, hhigh, rfl⟩ := two_of_lead? hl ht
  simp only at h₁ ⊢
  generalize hn : (b.toNat - 0xC0) * 0x40 + (b₁.toNat - 0x80) = n
  have hc : (Char.ofNat n).toNat = n := toNat_charOfNat (by omega)
  simp only [encodeChar, hc, if_neg (show ¬n < 0x80 by omega), if_pos (show n < 0x800 by omega)]
  rw [ofNat_eq_of_toNat (b := b) (by omega), ofNat_eq_of_toNat (b := b₁) (by omega)]

theorem encodeChar_three (hl : lead? b.toNat = some l) (ht : l.tails = 2)
    (h₁ : l.low ≤ b₁.toNat ∧ b₁.toNat ≤ l.high) (h₂ : isTail b₂ = true) :
    encodeChar (Char.ofNat ((l.bits * 0x40 + (b₁.toNat - 0x80)) * 0x40 + (b₂.toNat - 0x80))) =
      [b, b₁, b₂] := by
  obtain ⟨hlow, hhigh, hbits, hleast, hmost, hshort, hsurrogate⟩ := three_of_lead? hl ht
  have h₂ := bounds_of_isTail h₂
  rw [hbits]
  generalize hn : ((b.toNat - 0xE0) * 0x40 + (b₁.toNat - 0x80)) * 0x40 + (b₂.toNat - 0x80) = n
  -- the second byte is bounded more closely where a shorter form or a surrogate would begin
  have hc : (Char.ofNat n).toNat = n := toNat_charOfNat (by omega)
  simp only [encodeChar, hc, if_neg (show ¬n < 0x80 by omega), if_neg (show ¬n < 0x800 by omega),
    if_pos (show n < 0x10000 by omega)]
  rw [ofNat_eq_of_toNat (b := b) (by omega), ofNat_eq_of_toNat (b := b₁) (by omega),
    ofNat_eq_of_toNat (b := b₂) (by omega)]

theorem encodeChar_four (hl : lead? b.toNat = some l) (ht : l.tails ≠ 1) (ht' : l.tails ≠ 2)
    (h₁ : l.low ≤ b₁.toNat ∧ b₁.toNat ≤ l.high) (h₂ : isTail b₂ = true) (h₃ : isTail b₃ = true) :
    encodeChar (Char.ofNat (((l.bits * 0x40 + (b₁.toNat - 0x80)) * 0x40 +
      (b₂.toNat - 0x80)) * 0x40 + (b₃.toNat - 0x80))) = [b, b₁, b₂, b₃] := by
  obtain ⟨hlow, hhigh, hbits, hleast, hmost, hshort, hlast⟩ := four_of_lead? hl ht ht'
  have h₂ := bounds_of_isTail h₂
  have h₃ := bounds_of_isTail h₃
  rw [hbits]
  generalize hn : (((b.toNat - 0xF0) * 0x40 + (b₁.toNat - 0x80)) * 0x40 +
    (b₂.toNat - 0x80)) * 0x40 + (b₃.toNat - 0x80) = n
  have hc : (Char.ofNat n).toNat = n := toNat_charOfNat (by omega)
  simp only [encodeChar, hc, if_neg (show ¬n < 0x80 by omega), if_neg (show ¬n < 0x800 by omega),
    if_neg (show ¬n < 0x10000 by omega)]
  rw [ofNat_eq_of_toNat (b := b) (by omega), ofNat_eq_of_toNat (b := b₁) (by omega),
    ofNat_eq_of_toNat (b := b₂) (by omega), ofNat_eq_of_toNat (b := b₃) (by omega)]

end

variable {bytes : Bytes}

theorem encode_decodeLossy (h : isValid bytes = true) : encode (decodeLossy bytes) = bytes := by
  unfold isValid at h
  unfold decodeLossy
  fun_induction pieces bytes with
  | case1 => rfl
  | case2 b r hb ih =>
    rw [List.map_cons, encode_cons, ih h, Option.getD_some, encodeChar_one hb]
    rfl
  | case5 b hb l hl b₁ r₁ h₁ n₁ ht ih =>
    rw [List.map_cons, encode_cons, ih h, Option.getD_some, encodeChar_two hl ht h₁]
    rfl
  | case7 b hb l hl b₁ h₁ n₁ ht b₂ r₂ h₂ n₂ ht₂ ih =>
    rw [List.map_cons, encode_cons, ih h, Option.getD_some, encodeChar_three hl ht₂ h₁ h₂]
    rfl
  | case9 b hb l hl b₁ h₁ n₁ ht b₂ h₂ n₂ ht₂ b₃ r₃ h₃ ih =>
    rw [List.map_cons, encode_cons, ih h, Option.getD_some, encodeChar_four hl ht ht₂ h₁ h₂ h₃]
    rfl
  | _ => cases h

/-- Well-formed bytes are those that some text has. -/
theorem isValid_iff : isValid bytes = true ↔ ∃ text, encode text = bytes := by
  constructor
  · exact fun h => ⟨_, encode_decodeLossy h⟩
  · rintro ⟨text, rfl⟩
    exact isValid_encode text

theorem encode_decodeLossy_iff : encode (decodeLossy bytes) = bytes ↔ isValid bytes = true :=
  ⟨fun h => isValid_iff.mpr ⟨_, h⟩, encode_decodeLossy⟩

end ScopeGateway.Text.Utf8
