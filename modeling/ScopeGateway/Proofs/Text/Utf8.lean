import Mathlib.Tactic.IntervalCases
import ScopeGateway.Text.Utf8

/-!
Reading back what `encode` writes, and what reading does not look at: which of the ASCII bytes a
byte is.
-/
namespace ScopeGateway.Text.Utf8

theorem size_cons (c : Char) (text : List Char) : size (c :: text) = charSize c + size text := rfl

theorem size_append (a b : List Char) : size (a ++ b) = size a + size b := by
  rw [← length_encode, ← length_encode, ← length_encode, encode, List.flatMap_append,
    List.length_append]
  rfl

theorem size_mono {a b : List Char} (h : a <+: b) : size a ≤ size b := by
  obtain ⟨rest, rfl⟩ := h
  rw [size_append]
  exact Nat.le_add_right _ _

theorem size_replicate (n : Nat) (c : Char) : size (List.replicate n c) = n * charSize c := by
  induction n with
  | zero => exact (Nat.zero_mul _).symm
  | succ n ih => rw [List.replicate_succ, size_cons, ih, Nat.succ_mul, Nat.add_comm]

theorem encode_append (a b : List Char) : encode (a ++ b) = encode a ++ encode b :=
  List.flatMap_append

theorem encode_cons (c : Char) (text : List Char) :
    encode (c :: text) = encodeChar c ++ encode text := rfl

theorem encode_intercalate (sep : List Char) (texts : List (List Char)) :
    encode (sep.intercalate texts) = (encode sep).intercalate (texts.map encode) := by
  induction texts with
  | nil => rfl
  | cons text rest ih =>
    cases rest with
    | nil => simp
    | cons next rest =>
      rw [List.intercalate_cons_cons, encode_append, encode_append, ih]
      simp only [List.map_cons, List.intercalate_cons_cons, List.append_assoc]

theorem encodeChar_ne_nil (c : Char) : encodeChar c ≠ [] := by
  unfold encodeChar
  simp only
  split_ifs <;> simp

theorem encode_eq_nil_iff {text : List Char} : encode text = [] ↔ text = [] := by
  cases text with
  | nil => simp [encode]
  | cons c rest => simp [encode_cons, encodeChar_ne_nil]

theorem toNat_scalar (c : Char) : c.toNat < 0xD800 ∨ 0xDFFF < c.toNat ∧ c.toNat < 0x110000 :=
  c.valid

theorem toNat_asciiChar {n : Nat} (h : n < 0x80) : (Char.ofNat n).toNat = n := by
  rw [Char.ofNat, dif_pos (.inl (by omega))]
  rfl

theorem toNat_ofNat {n : Nat} (h : n < 0x100) : (UInt8.ofNat n).toNat = n :=
  UInt8.toNat_ofNat_of_lt' h

theorem bounds_of_lead? {n : Nat} {l : Lead} (h : lead? n = some l) : 0xC2 ≤ n ∧ 0x80 ≤ l.low := by
  unfold lead? at h
  split_ifs at h <;> cases h <;> exact ⟨by omega, by simp⟩

theorem lead?_two {k : Nat} (h : 2 ≤ k) (h' : k < 0x20) :
    lead? (0xC0 + k) = some ⟨1, 0x80, 0xBF, k⟩ := by
  rw [lead?, if_pos (by omega), Nat.add_sub_cancel_left]

theorem lead?_three {k : Nat} (h : k < 0x10) :
    lead? (0xE0 + k) =
      some ⟨2, if k = 0 then 0xA0 else 0x80, if k = 0xD then 0x9F else 0xBF, k⟩ := by
  interval_cases k <;> rfl

theorem lead?_four {k : Nat} (h : k < 5) :
    lead? (0xF0 + k) =
      some ⟨3, if k = 0 then 0x90 else 0x80, if k = 4 then 0x8F else 0xBF, k⟩ := by
  interval_cases k <;> rfl

section
variable {b b₁ b₂ b₃ : UInt8} {l : Lead}

theorem pieces_ascii (h : b.toNat < 0x80) (r : Bytes) :
    pieces (b :: r) = some (Char.ofNat b.toNat) :: pieces r := by
  rw [pieces, if_pos h]

theorem pieces_two (hl : lead? b.toNat = some l) (ht : l.tails = 1)
    (h₁ : l.low ≤ b₁.toNat ∧ b₁.toNat ≤ l.high) (r : Bytes) :
    pieces (b :: b₁ :: r) =
      some (Char.ofNat (l.bits * 0x40 + (b₁.toNat - 0x80))) :: pieces r := by
  have hb := (bounds_of_lead? hl).1
  rw [pieces, if_neg (by omega)]
  simp only [hl, h₁, ht, and_self, if_true]

theorem pieces_three (hl : lead? b.toNat = some l) (ht : l.tails = 2)
    (h₁ : l.low ≤ b₁.toNat ∧ b₁.toNat ≤ l.high) (h₂ : isTail b₂) (r : Bytes) :
    pieces (b :: b₁ :: b₂ :: r) =
      some (Char.ofNat ((l.bits * 0x40 + (b₁.toNat - 0x80)) * 0x40 + (b₂.toNat - 0x80))) ::
        pieces r := by
  have hb := (bounds_of_lead? hl).1
  rw [pieces, if_neg (by omega)]
  simp [hl, h₁, ht, h₂]

theorem pieces_four (hl : lead? b.toNat = some l) (ht : l.tails = 3)
    (h₁ : l.low ≤ b₁.toNat ∧ b₁.toNat ≤ l.high) (h₂ : isTail b₂) (h₃ : isTail b₃) (r : Bytes) :
    pieces (b :: b₁ :: b₂ :: b₃ :: r) =
      some (Char.ofNat (((l.bits * 0x40 + (b₁.toNat - 0x80)) * 0x40 + (b₂.toNat - 0x80)) * 0x40 +
        (b₃.toNat - 0x80))) :: pieces r := by
  have hb := (bounds_of_lead? hl).1
  rw [pieces, if_neg (by omega)]
  simp [hl, h₁, ht, h₂, h₃]

end

theorem isTail_ofNat {k : Nat} (h : k < 0x40) : isTail (UInt8.ofNat (0x80 + k)) = true := by
  rw [isTail, toNat_ofNat (by omega)]
  simp; omega

section
variable {n : Nat}

theorem pieces_form_one (h : n < 0x80) (r : Bytes) :
    pieces (UInt8.ofNat n :: r) = some (Char.ofNat n) :: pieces r := by
  have hb : (UInt8.ofNat n).toNat = n := toNat_ofNat (by omega)
  rw [pieces_ascii (by omega), hb]

theorem pieces_form_two (h : 0x80 ≤ n) (h' : n < 0x800) (r : Bytes) :
    pieces (UInt8.ofNat (0xC0 + n / 0x40) :: UInt8.ofNat (0x80 + n % 0x40) :: r) =
      some (Char.ofNat n) :: pieces r := by
  have hb : (UInt8.ofNat (0xC0 + n / 0x40)).toNat = 0xC0 + n / 0x40 := toNat_ofNat (by omega)
  have hb₁ : (UInt8.ofNat (0x80 + n % 0x40)).toNat = 0x80 + n % 0x40 := toNat_ofNat (by omega)
  have hl := lead?_two (k := n / 0x40) (by omega) (by omega)
  rw [← hb] at hl
  rw [pieces_two hl rfl (by simp only [hb₁]; omega), hb₁]
  simp only
  rw [show n / 0x40 * 0x40 + (0x80 + n % 0x40 - 0x80) = n by omega]

theorem pieces_form_three (hn : n < 0xD800 ∨ 0xDFFF < n) (h : 0x800 ≤ n) (h' : n < 0x10000)
    (r : Bytes) :
    pieces (UInt8.ofNat (0xE0 + n / 0x1000) :: UInt8.ofNat (0x80 + n / 0x40 % 0x40) ::
      UInt8.ofNat (0x80 + n % 0x40) :: r) = some (Char.ofNat n) :: pieces r := by
  have hb : (UInt8.ofNat (0xE0 + n / 0x1000)).toNat = 0xE0 + n / 0x1000 := toNat_ofNat (by omega)
  have hb₁ : (UInt8.ofNat (0x80 + n / 0x40 % 0x40)).toNat = 0x80 + n / 0x40 % 0x40 :=
    toNat_ofNat (by omega)
  have hb₂ : (UInt8.ofNat (0x80 + n % 0x40)).toNat = 0x80 + n % 0x40 := toNat_ofNat (by omega)
  have hl := lead?_three (k := n / 0x1000) (by omega)
  rw [← hb] at hl
  -- the surrogates between the two bounds are why the second byte is bounded more closely here
  rw [pieces_three hl rfl (by simp only [hb₁]; split_ifs <;> omega)
    (isTail_ofNat (Nat.mod_lt _ (by decide))), hb₁, hb₂]
  simp only
  rw [show (n / 0x1000 * 0x40 + (0x80 + n / 0x40 % 0x40 - 0x80)) * 0x40 +
    (0x80 + n % 0x40 - 0x80) = n by omega]

theorem pieces_form_four (h : 0x10000 ≤ n) (h' : n < 0x110000) (r : Bytes) :
    pieces (UInt8.ofNat (0xF0 + n / 0x40000) :: UInt8.ofNat (0x80 + n / 0x1000 % 0x40) ::
      UInt8.ofNat (0x80 + n / 0x40 % 0x40) :: UInt8.ofNat (0x80 + n % 0x40) :: r) =
      some (Char.ofNat n) :: pieces r := by
  have hb : (UInt8.ofNat (0xF0 + n / 0x40000)).toNat = 0xF0 + n / 0x40000 :=
    toNat_ofNat (by omega)
  have hb₁ : (UInt8.ofNat (0x80 + n / 0x1000 % 0x40)).toNat = 0x80 + n / 0x1000 % 0x40 :=
    toNat_ofNat (by omega)
  have hb₂ : (UInt8.ofNat (0x80 + n / 0x40 % 0x40)).toNat = 0x80 + n / 0x40 % 0x40 :=
    toNat_ofNat (by omega)
  have hb₃ : (UInt8.ofNat (0x80 + n % 0x40)).toNat = 0x80 + n % 0x40 := toNat_ofNat (by omega)
  have hl := lead?_four (k := n / 0x40000) (by omega)
  rw [← hb] at hl
  rw [pieces_four hl rfl (by simp only [hb₁]; split_ifs <;> omega)
    (isTail_ofNat (Nat.mod_lt _ (by decide))) (isTail_ofNat (Nat.mod_lt _ (by decide))),
    hb₁, hb₂, hb₃]
  simp only
  rw [show ((n / 0x40000 * 0x40 + (0x80 + n / 0x1000 % 0x40 - 0x80)) * 0x40 +
    (0x80 + n / 0x40 % 0x40 - 0x80)) * 0x40 + (0x80 + n % 0x40 - 0x80) = n by omega]

end

/-- One character is read back whatever follows it. -/
theorem pieces_encodeChar (c : Char) (rest : Bytes) :
    pieces (encodeChar c ++ rest) = some c :: pieces rest := by
  have hc := toNat_scalar c
  have hn : Char.ofNat c.toNat = c := Char.ofNat_toNat c
  unfold encodeChar
  simp only
  split_ifs with h₁ h₂ h₃ <;> simp only [List.cons_append, List.nil_append]
  · rw [pieces_form_one h₁, hn]
  · rw [pieces_form_two (by omega) h₂, hn]
  · rw [pieces_form_three (by omega) (by omega) h₃, hn]
  · rw [pieces_form_four (by omega) (by omega), hn]

theorem pieces_encode (text : List Char) : pieces (encode text) = text.map some := by
  induction text with
  | nil => rfl
  | cons c rest ih => rw [encode_cons, pieces_encodeChar, ih, List.map_cons]

@[simp] theorem isValid_encode (text : List Char) : isValid (encode text) = true := by
  simp [isValid, pieces_encode]

@[simp] theorem decodeLossy_encode (text : List Char) : decodeLossy (encode text) = text := by
  simp [decodeLossy, pieces_encode]

theorem encodeChar_ascii {c : Char} (h : c.toNat < 0x80) :
    encodeChar c = [UInt8.ofNat c.toNat] := by
  simp [encodeChar, h]

theorem encode_ascii {text : List Char} (h : ∀ c ∈ text, c.toNat < 0x80) :
    encode text = text.map fun c => UInt8.ofNat c.toNat := by
  induction text with
  | nil => rfl
  | cons c rest ih =>
    rw [encode_cons, encodeChar_ascii (h c List.mem_cons_self),
      ih fun d hd => h d (List.mem_cons_of_mem _ hd)]
    rfl

/-- The form of a character that is not ASCII has no ASCII byte. -/
theorem le_of_mem_encodeChar {c : Char} (h : 0x80 ≤ c.toNat) {b : UInt8}
    (hb : b ∈ encodeChar c) : 0x80 ≤ b.toNat := by
  have hc := toNat_scalar c
  revert hb hc
  unfold encodeChar
  generalize c.toNat = n at h
  simp only [if_neg (show ¬n < 0x80 by omega)]
  intro hb hc
  split_ifs at hb
  all_goals
    simp only [List.mem_cons, List.not_mem_nil, or_false] at hb
    rcases hb with rfl | rfl | rfl | rfl <;> rw [toNat_ofNat (by omega)] <;> omega

/-- An ASCII byte stands in the form of a text where its character stands in the text. -/
theorem mem_encode_iff {c : Char} (h : c.toNat < 0x80) {text : List Char} :
    UInt8.ofNat c.toNat ∈ encode text ↔ c ∈ text := by
  have hn : (UInt8.ofNat c.toNat).toNat = c.toNat := toNat_ofNat (by omega)
  constructor
  · intro hb
    obtain ⟨d, hd, hbd⟩ := List.mem_flatMap.mp hb
    by_cases hs : d.toNat < 0x80
    · rw [encodeChar_ascii hs, List.mem_singleton] at hbd
      have he := congrArg UInt8.toNat hbd
      rw [hn, toNat_ofNat (by omega)] at he
      rwa [Char.toNat_inj.mp he]
    · have := le_of_mem_encodeChar (by omega) hbd
      omega
  · intro hc
    exact List.mem_flatMap.mpr ⟨c, hc, by simp [encodeChar_ascii h]⟩

/-- ASCII bytes become ASCII bytes, and all others stay as they are. -/
structure ExchangesAscii (f : UInt8 → UInt8) : Prop where
  eq_of_le : ∀ b, 0x80 ≤ b.toNat → f b = b
  lt_of_lt : ∀ b, b.toNat < 0x80 → (f b).toNat < 0x80

namespace ExchangesAscii

variable {f : UInt8 → UInt8}

/-- A range above ASCII holds the same bytes before and after. -/
theorem within_iff (hf : ExchangesAscii f) {low : Nat} (hlow : 0x80 ≤ low) (high : Nat)
    (b : UInt8) :
    (low ≤ (f b).toNat ∧ (f b).toNat ≤ high) ↔ (low ≤ b.toNat ∧ b.toNat ≤ high) := by
  by_cases hb : b.toNat < 0x80
  · have := hf.lt_of_lt b hb
    omega
  · rw [hf.eq_of_le b (by omega)]

theorem isTail_eq (hf : ExchangesAscii f) (b : UInt8) : isTail (f b) = isTail b := by
  rw [Bool.eq_iff_iff]
  simpa [isTail] using hf.within_iff (Nat.le_refl 0x80) 0xBF b

/-- Well-formed bytes stay well-formed, and malformed ones malformed. -/
theorem isValid_map (hf : ExchangesAscii f) (bytes : Bytes) :
    isValid (bytes.map f) = isValid bytes := by
  have hsecond (n : Nat) (l : Lead) (hl : lead? n = some l) (b : UInt8) :
      (l.low ≤ (f b).toNat ∧ (f b).toNat ≤ l.high) ↔ (l.low ≤ b.toNat ∧ b.toNat ≤ l.high) :=
    hf.within_iff (bounds_of_lead? hl).2 l.high b
  have hlead (b : UInt8) (r : Bytes) (h : ¬b.toNat < 0x80) :
      pieces ((b :: r).map f) = pieces (b :: r.map f) := by
    rw [List.map_cons, hf.eq_of_le b (by omega)]
  unfold isValid
  -- every test of a byte comes out alike before and after the exchange, so the cases are the same
  fun_induction pieces bytes with
  | case1 => rfl
  | case2 b r h ih => simp [pieces, hf.lt_of_lt b h, ih]
  | case3 b r h hl ih | case4 b h l hl =>
    rw [hlead b _ h, pieces, if_neg h]
    simp [hl]
  | case5 b h l hl b₁ r₁ h₁ n₁ ht ih =>
    rw [hlead b _ h, pieces, if_neg h]
    simp [hl, hsecond _ l hl, h₁, ht, ih]
  | case6 b h l hl b₁ h₁ ht =>
    rw [hlead b _ h, pieces, if_neg h]
    simp [hl, hsecond _ l hl, h₁, ht]
  | case7 b h l hl b₁ h₁ n₁ ht b₂ r₂ h₂ n₂ ht₂ ih =>
    rw [hlead b _ h, pieces, if_neg h]
    simp [hl, hsecond _ l hl, h₁, hf.isTail_eq, h₂, ht₂, ih]
  | case8 b h l hl b₁ h₁ ht b₂ h₂ ht₂ =>
    rw [hlead b _ h, pieces, if_neg h]
    simp [hl, hsecond _ l hl, h₁, ht, hf.isTail_eq, h₂, ht₂]
  | case9 b h l hl b₁ h₁ n₁ ht b₂ h₂ n₂ ht₂ b₃ r₃ h₃ ih =>
    rw [hlead b _ h, pieces, if_neg h]
    simp [hl, hsecond _ l hl, h₁, ht, hf.isTail_eq, h₂, ht₂, h₃, ih]
  | case10 b h l hl b₁ h₁ ht b₂ h₂ ht₂ b₃ r₃ h₃ =>
    rw [hlead b _ h, pieces, if_neg h]
    simp [hl, hsecond _ l hl, h₁, ht, hf.isTail_eq, h₂, ht₂, h₃]
  | case11 b h l hl b₁ h₁ ht b₂ r₂ h₂ =>
    rw [hlead b _ h, pieces, if_neg h]
    simp [hl, hsecond _ l hl, h₁, ht, hf.isTail_eq, h₂]
  | case12 b h l hl b₁ r₁ h₁ =>
    rw [hlead b _ h, pieces, if_neg h]
    simp [hl, hsecond _ l hl, h₁]

end ExchangesAscii

end ScopeGateway.Text.Utf8
