import ScopeGateway.Form.Params
import ScopeGateway.Proofs.Form.Component
import ScopeGateway.Proofs.Text.Split

/-!
Writing parameters and reading them back: nothing is lost, and nothing is malformed.
-/
namespace ScopeGateway.Form

open Text
open Text.Utf8 (Bytes)

/-- What a piece between ampersands has to be to decode without loss. -/
def isLosslessPiece (piece : Bytes) : Bool :=
  Utf8.isValid (percentDecode (cut (· == 0x3D) piece).1) &&
    Utf8.isValid (percentDecode ((cut (· == 0x3D) piece).2.getD []))

theorem isLossless_eq (query : String) :
    isLossless query = (splitOn (· == 0x26) (rawBytes query)).all isLosslessPiece := rfl

/-- The pieces that name a parameter each. -/
def namingPieces (query : String) : List Bytes :=
  (splitOn (· == 0x26) (rawBytes query)).filter (!·.isEmpty)

theorem parse_eq (query : String) : parse query = (namingPieces query).map Param.ofPiece := rfl

section
variable {pieces : List (List Char)}

/-- A query of pieces without ampersands is split into their forms. -/
theorem splitOn_rawBytes_join (h : ∀ t ∈ pieces, '&' ∉ t) (hne : pieces ≠ []) :
    splitOn (· == 0x26) (rawBytes (String.ofList (['&'].intercalate pieces))) =
      pieces.map Utf8.encode := by
  rw [rawBytes, String.toList_ofList, Utf8.encode_intercalate]
  apply splitOn_intercalate _ (by simpa using hne)
  intro l hl hmem
  obtain ⟨t, ht, rfl⟩ := List.mem_map.mp hl
  exact h t ht ((Utf8.mem_encode_iff (c := '&') (by decide)).mp hmem)

theorem namingPieces_join (h : ∀ t ∈ pieces, '&' ∉ t) (hne : ∀ t ∈ pieces, t ≠ []) :
    namingPieces (String.ofList (['&'].intercalate pieces)) = pieces.map Utf8.encode := by
  cases pieces with
  | nil => rfl
  | cons first rest =>
    rw [namingPieces, splitOn_rawBytes_join h (List.cons_ne_nil _ _), List.filter_eq_self.mpr]
    intro l hl
    obtain ⟨t, ht, rfl⟩ := List.mem_map.mp hl
    simpa [Utf8.encode_eq_nil_iff] using hne t ht

theorem isLossless_join (h : ∀ t ∈ pieces, '&' ∉ t) :
    isLossless (String.ofList (['&'].intercalate pieces)) =
      pieces.all fun t => isLosslessPiece (Utf8.encode t) := by
  cases pieces with
  | nil => rfl
  | cons first rest =>
    rw [isLossless_eq, splitOn_rawBytes_join h (List.cons_ne_nil _ _), List.all_map]
    rfl

end

theorem not_mem_encode {bytes : Bytes} {c : Char} (hc : isFormChar c = false) :
    c ∉ encode bytes := by
  intro h
  rw [(isFormChar_of_mem_encode h).1] at hc
  exact absurd hc (by decide)

theorem ampersand_not_mem_form (p : Param) : '&' ∉ p.form := by
  unfold Param.form
  rw [List.mem_append, List.mem_cons]
  rintro (h | h | h)
  · exact not_mem_encode rfl h
  · exact absurd h (by decide)
  · exact not_mem_encode rfl h

/-- The equals sign between name and value is the first one. -/
theorem cut_form (p : Param) :
    cut (· == 0x3D) (Utf8.encode p.form) =
      (Utf8.encode (encode (rawBytes p.name)), some (Utf8.encode (encode (rawBytes p.value)))) := by
  rw [Param.form, Utf8.encode_append, Utf8.encode_cons]
  apply cut_append_cons _ rfl
  intro b hb
  rw [beq_eq_false_iff_ne]
  rintro rfl
  exact not_mem_encode rfl ((Utf8.mem_encode_iff (c := '=') (by decide)).mp hb)

theorem componentText_encode (text : String) :
    componentText (Utf8.encode (encode (rawBytes text))) = text := by
  rw [componentText, decode_encode, rawBytes, Utf8.decodeLossy_encode, String.ofList_toList]

theorem isValid_percentDecode_encode (text : String) :
    Utf8.isValid (percentDecode (Utf8.encode (encode (rawBytes text)))) = true := by
  rw [← isValid_decode, decode_encode]
  exact Utf8.isValid_encode _

theorem ofPiece_form (p : Param) : Param.ofPiece (Utf8.encode p.form) = p := by
  rw [Param.ofPiece, cut_form]
  simp only [Option.getD_some, componentText_encode]

theorem isLosslessPiece_form (p : Param) : isLosslessPiece (Utf8.encode p.form) = true := by
  rw [isLosslessPiece, cut_form, isValid_percentDecode_encode, Option.getD_some,
    isValid_percentDecode_encode]
  rfl

theorem namingPieces_render (params : List Param) :
    namingPieces (render params) = params.map fun p => Utf8.encode p.form := by
  rw [render, namingPieces_join]
  · exact List.map_map
  · intro t ht
    obtain ⟨p, -, rfl⟩ := List.mem_map.mp ht
    exact ampersand_not_mem_form p
  · intro t ht
    obtain ⟨p, -, rfl⟩ := List.mem_map.mp ht
    simp [Param.form]

/-- Parameters are read back as they were written, whatever characters they hold. -/
theorem parse_render (params : List Param) : parse (render params) = params := by
  rw [parse_eq, namingPieces_render, List.map_map]
  exact (List.map_congr_left fun p _ => ofPiece_form p).trans (List.map_id' params)

theorem isLossless_render (params : List Param) : isLossless (render params) = true := by
  rw [render, isLossless_join]
  · simp [isLosslessPiece_form]
  · intro t ht
    obtain ⟨p, -, rfl⟩ := List.mem_map.mp ht
    exact ampersand_not_mem_form p

/-- A written query is of the small alphabet throughout. -/
theorem mem_render {params : List Param} {c : Char} (h : c ∈ (render params).toList) :
    (isFormChar c = true ∨ c = '=' ∨ c = '&') ∧ c.toNat < 0x80 := by
  rw [render, String.toList_ofList] at h
  obtain rfl | ⟨t, ht, hc⟩ := mem_intercalate h
  · decide
  obtain ⟨p, -, rfl⟩ := List.mem_map.mp ht
  obtain hc | hc := List.mem_append.mp hc
  · exact ⟨.inl (isFormChar_of_mem_encode hc).1, (isFormChar_of_mem_encode hc).2⟩
  obtain rfl | hc := List.mem_cons.mp hc
  · decide
  · exact ⟨.inl (isFormChar_of_mem_encode hc).1, (isFormChar_of_mem_encode hc).2⟩

end ScopeGateway.Form
