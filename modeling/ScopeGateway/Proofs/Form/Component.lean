import ScopeGateway.Form.Component
import ScopeGateway.Proofs.Text.Utf8

/-!
The form encoding of a component: it is read back byte by byte, its alphabet is small, and whether
it spells text does not depend on its plus signs.
-/
namespace ScopeGateway.Form

open Text
open Text.Utf8 (Bytes)

theorem percentDecode_cons {b : UInt8} (hb : b ≠ 0x25) (r : Bytes) :
    percentDecode (b :: r) = b :: percentDecode r := by
  rw [percentDecode.eq_def]
  simp [hb]

theorem percentDecode_escape {h l : UInt8} {x y : Nat} (hx : hexDigit? h = some x)
    (hy : hexDigit? l = some y) (r : Bytes) :
    percentDecode (0x25 :: h :: l :: r) = UInt8.ofNat (x * 16 + y) :: percentDecode r := by
  rw [percentDecode]
  simp [hx, hy]

/-- A plus sign as the blank that it stands for. -/
def plainBlank (b : UInt8) : UInt8 := if b = 0x2B then 0x20 else b

theorem decode_eq (bytes : Bytes) : decode bytes = percentDecode (bytes.map plainBlank) := rfl

theorem decode_cons {b : UInt8} (hpercent : b ≠ 0x25) (hplus : b ≠ 0x2B) (r : Bytes) :
    decode (b :: r) = b :: decode r := by
  rw [decode_eq, List.map_cons, plainBlank, if_neg hplus, percentDecode_cons hpercent, decode_eq]

/-- The characters of an escape. -/
def escapeChars : List Char :=
  ['%', '0', '1', '2', '3', '4', '5', '6', '7', '8', '9', 'A', 'B', 'C', 'D', 'E', 'F']

theorem hexUpper_mem {n : Nat} (h : n < 16) : hexUpper n ∈ escapeChars := by
  interval_cases n <;> decide

theorem mem_escapeChars {b : UInt8} {c : Char} (h : c ∈ escape b) : c ∈ escapeChars := by
  have hb := b.toNat_lt
  simp only [escape, List.mem_cons, List.not_mem_nil, or_false] at h
  rcases h with rfl | rfl | rfl
  · exact List.mem_cons_self
  · exact hexUpper_mem (by omega)
  · exact hexUpper_mem (by omega)

theorem toNat_lt_of_mem_escapeChars {c : Char} (h : c ∈ escapeChars) : c.toNat < 0x80 := by
  have hall : escapeChars.all (·.toNat < 0x80) = true := by decide
  simpa using List.all_eq_true.mp hall c h

/-- The byte of a hexadecimal digit. -/
def hexByte (n : Nat) : UInt8 := UInt8.ofNat (hexUpper n).toNat

theorem hexDigit?_hexByte {n : Nat} (h : n < 16) : hexDigit? (hexByte n) = some n := by
  interval_cases n <;> decide

theorem plainBlank_hexByte {n : Nat} (h : n < 16) : plainBlank (hexByte n) = hexByte n := by
  interval_cases n <;> decide

theorem encode_escape (b : UInt8) :
    Utf8.encode (escape b) = [0x25, hexByte (b.toNat / 16), hexByte (b.toNat % 16)] := by
  have hb := b.toNat_lt
  have hdigit (n : Nat) (hn : n < 16) := toNat_lt_of_mem_escapeChars (hexUpper_mem hn)
  have hhigh := Utf8.encodeChar_ascii (hdigit (b.toNat / 16) (by omega))
  have hlow := Utf8.encodeChar_ascii (hdigit (b.toNat % 16) (by omega))
  simp only [escape, Utf8.encode_cons, hhigh, hlow]
  rfl

theorem bounds_of_isLiteral {b : UInt8} (h : isLiteral b = true) :
    b.toNat < 0x80 ∧ b ≠ 0x25 ∧ b ≠ 0x2B := by
  refine ⟨?_, ?_, ?_⟩
  · simp only [isLiteral, Bool.or_eq_true, Bool.and_eq_true, decide_eq_true_eq, beq_iff_eq] at h
    omega
  all_goals
    rintro rfl
    revert h
    decide

theorem encode_literal {b : UInt8} (h : isLiteral b = true) :
    Utf8.encode [Char.ofNat b.toNat] = [b] := by
  have hb := (bounds_of_isLiteral h).1
  have hc := Utf8.toNat_asciiChar hb
  rw [Utf8.encode_cons, Utf8.encodeChar_ascii (by omega), hc]
  simp [Utf8.encode]

/-- One byte is read back whatever follows it. -/
theorem decode_encodeByte (b : UInt8) (rest : Bytes) :
    decode (Utf8.encode (encodeByte b) ++ rest) = b :: decode rest := by
  have hb := b.toNat_lt
  unfold encodeByte
  split_ifs with hblank hlit
  · rw [hblank]
    exact percentDecode_cons (by decide) _
  · obtain ⟨-, hpercent, hplus⟩ := bounds_of_isLiteral hlit
    rw [encode_literal hlit, List.singleton_append, decode_cons hpercent hplus]
  · rw [encode_escape, decode_eq]
    simp only [List.cons_append, List.nil_append, List.map_cons]
    rw [plainBlank_hexByte (by omega), plainBlank_hexByte (by omega)]
    rw [show plainBlank 0x25 = 0x25 from rfl, percentDecode_escape (hexDigit?_hexByte (by omega))
      (hexDigit?_hexByte (by omega)), decode_eq]
    rw [show b.toNat / 16 * 16 + b.toNat % 16 = b.toNat by omega, UInt8.ofNat_toNat]

theorem decode_encode (bytes : Bytes) : decode (Utf8.encode (encode bytes)) = bytes := by
  induction bytes with
  | nil => rfl
  | cons b rest ih =>
    rw [encode, List.flatMap_cons, Utf8.encode_append, decode_encodeByte]
    exact congrArg (b :: ·) ih

/-- The characters of an encoded component. -/
def isFormChar (c : Char) : Bool := isLiteral (UInt8.ofNat c.toNat) || c == '+' || c == '%'

theorem isFormChar_of_mem_encodeByte {b : UInt8} {c : Char} (h : c ∈ encodeByte b) :
    isFormChar c = true ∧ c.toNat < 0x80 := by
  unfold encodeByte at h
  split_ifs at h with hblank hlit
  · rw [List.mem_singleton.mp h]
    decide
  · have hn := (bounds_of_isLiteral hlit).1
    rw [List.mem_singleton.mp h, isFormChar, Utf8.toNat_asciiChar hn]
    simp [hlit, hn]
  · have hall : escapeChars.all isFormChar = true := by decide
    have hc := mem_escapeChars h
    exact ⟨List.all_eq_true.mp hall c hc, toNat_lt_of_mem_escapeChars hc⟩

theorem isFormChar_of_mem_encode {bytes : Bytes} {c : Char} (h : c ∈ encode bytes) :
    isFormChar c = true ∧ c.toNat < 0x80 := by
  obtain ⟨b, -, hc⟩ := List.mem_flatMap.mp h
  exact isFormChar_of_mem_encodeByte hc

theorem hexDigit?_plainBlank (b : UInt8) : hexDigit? (plainBlank b) = hexDigit? b := by
  unfold plainBlank
  split_ifs with h
  · rw [h]
    rfl
  · rfl

/-- Plus signs read as blanks before or after the escapes: the difference is in blanks alone. -/
theorem map_plainBlank_percentDecode (bytes : Bytes) :
    (percentDecode (bytes.map plainBlank)).map plainBlank =
      (percentDecode bytes).map plainBlank := by
  have hpercent : plainBlank 0x25 = 0x25 := rfl
  have hidem (b : UInt8) : plainBlank (plainBlank b) = plainBlank b := by
    unfold plainBlank
    split_ifs <;> simp_all
  -- a plus sign is no digit, so as a blank it neither completes an escape nor breaks one
  fun_induction percentDecode bytes with
  | case1 => rfl
  | case2 h l r x y hy hx ih =>
    simp only [List.map_cons, hpercent]
    rw [percentDecode_escape (by rw [hexDigit?_plainBlank, hx])
      (by rw [hexDigit?_plainBlank, hy]), List.map_cons, ih]
  | case3 h l r hno ih =>
    have hnone (r : Bytes) : percentDecode (0x25 :: plainBlank h :: plainBlank l :: r) =
        0x25 :: percentDecode (plainBlank h :: plainBlank l :: r) := by
      rw [percentDecode]
      split
      · simp_all [hexDigit?_plainBlank]
      · rfl
    simp only [List.map_cons, hpercent] at ih ⊢
    rw [hnone, List.map_cons, ih, hpercent]
  | case4 l => simp [hpercent, percentDecode, hidem]
  | case5 => rfl
  | case6 b r hb ih =>
    have hb' : plainBlank b ≠ 0x25 := by
      unfold plainBlank
      split_ifs
      · decide
      · exact hb
    rw [List.map_cons, percentDecode_cons hb', List.map_cons, List.map_cons, ih, hidem]

/-- Two hexadecimal digits are first, so a percent sign before them starts an escape. -/
def opensEscape : Bytes → Bool
  | h :: l :: _ => (hexDigit? h).isSome && (hexDigit? l).isSome
  | _ => false

/-- A percent sign that starts no escape stands for itself. -/
theorem percentDecode_percent {r : Bytes} (h : opensEscape r = false) :
    percentDecode (0x25 :: r) = 0x25 :: percentDecode r := by
  match r with
  | [] => rfl
  | [l] => by_cases hl : l = 0x25 <;> simp [percentDecode, hl]
  | h' :: l :: r =>
    rw [percentDecode]
    cases hh : hexDigit? h' <;> cases hl : hexDigit? l <;> simp_all [opensEscape]

/-- No escape reaches across a byte that is no digit. -/
theorem percentDecode_append_cons (a : Bytes) {x : UInt8} (hx : hexDigit? x = none) (r : Bytes) :
    percentDecode (a ++ x :: r) = percentDecode a ++ percentDecode (x :: r) := by
  have hpercent : percentDecode (0x25 :: x :: r) = 0x25 :: percentDecode (x :: r) :=
    percentDecode_percent (by cases r <;> simp [opensEscape, hx])
  fun_induction percentDecode a with
  | case1 => rfl
  | case2 h l s y z hl hh ih =>
    exact (percentDecode_escape hh hl (s ++ x :: r)).trans (congrArg _ ih)
  | case3 h l s hno ih =>
    have hopens : opensEscape (h :: l :: (s ++ x :: r)) = false := by
      rw [opensEscape]
      cases hh : hexDigit? h <;> cases hl : hexDigit? l <;> simp_all
    exact (percentDecode_percent hopens).trans (congrArg _ ih)
  | case4 l =>
    have hopens : opensEscape (l :: x :: r) = false := by simp [opensEscape, hx]
    refine (percentDecode_percent hopens).trans (congrArg _ ?_)
    by_cases hl : l = 0x25
    · rw [hl]
      exact hpercent
    · exact percentDecode_cons hl _
  | case5 => exact hpercent
  | case6 b s hb ih => exact (percentDecode_cons hb _).trans (congrArg _ ih)

theorem opensEscape_map_plainBlank (r : Bytes) :
    opensEscape (r.map plainBlank) = opensEscape r := by
  match r with
  | [] | [_] => rfl
  | h :: l :: r => simp only [List.map_cons, opensEscape, hexDigit?_plainBlank]

theorem opensEscape_of_isPrefix {r s : Bytes} (hr : r <+: s) (h : opensEscape s = false) :
    opensEscape r = false := by
  match r with
  | [] | [_] => rfl
  | _ :: _ :: _ =>
    obtain ⟨rest, rfl⟩ := hr
    exact h

theorem decode_append_cons (a : Bytes) {x : UInt8} (hx : hexDigit? x = none) (r : Bytes) :
    decode (a ++ x :: r) = decode a ++ decode (x :: r) := by
  rw [decode_eq, List.map_append, List.map_cons,
    percentDecode_append_cons _ (by rw [hexDigit?_plainBlank, hx])]
  rfl

/-- A percent sign that starts no escape reads like the escape of a percent sign. -/
theorem decode_percent (before : Bytes) {after : Bytes} (h : opensEscape after = false) :
    decode (before ++ 0x25 :: after) = decode (before ++ 0x25 :: 0x32 :: 0x35 :: after) := by
  have hdigit : hexDigit? 0x25 = none := rfl
  have hescape : decode (0x25 :: 0x32 :: 0x35 :: after) = 0x25 :: decode after :=
    decode_encodeByte 0x25 after
  have hpercent : decode (0x25 :: after) = 0x25 :: decode after := by
    rw [← opensEscape_map_plainBlank] at h
    exact percentDecode_percent h
  rw [decode_append_cons _ hdigit, decode_append_cons _ hdigit, hpercent, hescape]

/-- The escapes of U+FFFD read like the character itself. -/
theorem decode_replacement (before after : Bytes) :
    decode (before ++ 0x25 :: 0x45 :: 0x46 :: 0x25 :: 0x42 :: 0x46 :: 0x25 :: 0x42 :: 0x44 ::
      after) = decode (before ++ 0xEF :: 0xBF :: 0xBD :: after) := by
  have hpercent : hexDigit? 0x25 = none := rfl
  have hlead : hexDigit? 0xEF = none := rfl
  have hescapes : decode (0x25 :: 0x45 :: 0x46 :: 0x25 :: 0x42 :: 0x46 :: 0x25 :: 0x42 :: 0x44 ::
      after) = 0xEF :: 0xBF :: 0xBD :: decode after := by
    have hlast := decode_encodeByte 0xBD after
    have hmiddle := decode_encodeByte 0xBF (Utf8.encode (encodeByte 0xBD) ++ after)
    have hfirst := decode_encodeByte 0xEF
      (Utf8.encode (encodeByte 0xBF) ++ (Utf8.encode (encodeByte 0xBD) ++ after))
    rw [hmiddle, hlast] at hfirst
    exact hfirst
  rw [decode_append_cons _ hpercent, decode_append_cons _ hlead, hescapes,
    decode_cons (by decide) (by decide), decode_cons (by decide) (by decide),
    decode_cons (by decide) (by decide)]

theorem exchangesAscii_plainBlank : Utf8.ExchangesAscii plainBlank where
  eq_of_le b hb := by
    rw [plainBlank, if_neg]
    rintro rfl
    revert hb
    decide
  lt_of_lt b hb := by
    unfold plainBlank
    split_ifs
    · decide
    · exact hb

/-- Whether a component spells text does not depend on how plus signs are read. -/
theorem isValid_decode (bytes : Bytes) :
    Utf8.isValid (decode bytes) = Utf8.isValid (percentDecode bytes) := by
  rw [decode_eq, ← exchangesAscii_plainBlank.isValid_map, map_plainBlank_percentDecode,
    exchangesAscii_plainBlank.isValid_map]

end ScopeGateway.Form
