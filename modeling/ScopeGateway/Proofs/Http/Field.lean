import ScopeGateway.Http.Field
import ScopeGateway.Proofs.Text.Utf8

/-!
Names and values of fields as texts: plain text is a value as it stands, and a word names a field
in any case.
-/
namespace ScopeGateway.Http

open Text Text.Utf8

/-- The printable characters of ASCII, the blank among them. -/
def IsPlain (text : List Char) : Prop := ∀ c ∈ text, 0x20 ≤ c.toNat ∧ c.toNat < 0x7F

instance (text : List Char) : Decidable (IsPlain text) :=
  decidable_of_iff ((text.all fun c => decide (0x20 ≤ c.toNat ∧ c.toNat < 0x7F)) = true)
    (by simp only [List.all_eq_true, decide_eq_true_eq, IsPlain])

theorem isValueByte_of_plain {c : Char} (h : 0x20 ≤ c.toNat ∧ c.toNat < 0x7F) :
    isValueByte (UInt8.ofNat c.toNat) = true := by
  have hbyte : ∀ n < 0x7F, 0x20 ≤ n → isValueByte (UInt8.ofNat n) = true := by decide
  exact hbyte c.toNat h.2 h.1

theorem all_isValueByte_encode {text : List Char} (h : IsPlain text) :
    (encode text).all isValueByte = true := by
  rw [encode_ascii fun c hc => (h c hc).2.trans (by decide), List.all_map, List.all_eq_true]
  exact fun c hc => isValueByte_of_plain (h c hc)

namespace FieldValue

theorem ofBytes?_eq_some {bytes : Bytes} (h : bytes.all isValueByte = true) :
    ofBytes? bytes = some ⟨bytes, h⟩ :=
  dif_pos h

theorem exists_ofText? {text : String} (h : IsPlain text.toList) :
    ∃ v, ofText? text = some v ∧ v.bytes = encode text.toList :=
  ⟨_, ofBytes?_eq_some (all_isValueByte_encode h), rfl⟩

theorem toNat_lt_of_mem_text? {v : FieldValue} {text : List Char} (h : v.text? = some text)
    {c : Char} (hc : c ∈ text) : c.toNat < 0x7F := by
  unfold text? at h
  split_ifs at h with hplain
  obtain rfl := Option.some.inj h
  obtain ⟨b, hb, rfl⟩ := List.mem_map.mp hc
  have hlt := List.all_eq_true.mp hplain b hb
  rw [decide_eq_true_eq, UInt8.lt_iff_toNat_lt] at hlt
  rw [toNat_asciiChar (hlt.trans (by decide))]
  exact hlt

end FieldValue

namespace FieldName

theorem ofBytes?_eq_some_iff {bytes : Bytes} {n : FieldName} :
    ofBytes? bytes = some n ↔
      (bytes.map fun b => (Char.ofNat b.toNat).toLower) = n.text.toList := by
  unfold ofBytes?
  simp only
  constructor
  · intro h
    split at h
    · obtain rfl := Option.some.inj h
      exact String.toList_ofList.symm
    · cases h
  · intro h
    have hname : isFieldName (bytes.map fun b => (Char.ofNat b.toNat).toLower) = true := by
      rw [h]
      exact n.valid
    rw [dif_pos hname, Option.some.injEq]
    cases n
    simp only [h, String.ofList_toList]

/-- A word of ASCII names the field that is written so in lower case. -/
theorem ofBytes?_encode {word : List Char} {n : FieldName} (h : ∀ c ∈ word, c.toNat < 0x80) :
    ofBytes? (encode word) = some n ↔ word.map Char.toLower = n.text.toList := by
  have hword : ((encode word).map fun b => (Char.ofNat b.toNat).toLower) =
      word.map Char.toLower := by
    rw [encode_ascii h, List.map_map]
    refine List.map_congr_left fun c hc => ?_
    have hc := h c hc
    rw [Function.comp_apply, toNat_ofNat (by omega), Char.ofNat_toNat]
  rw [ofBytes?_eq_some_iff, hword]

end FieldName

end ScopeGateway.Http
