import ScopeGateway.Proofs.Form.Params
import ScopeGateway.Proofs.Text.WellFormed

/-!
What a query says before it is read as text: the bytes of every name and value. Reading keeps them
exactly where the query decodes without loss.
-/
namespace ScopeGateway.Form

open Text
open Text.Utf8 (Bytes)

/-- A parameter as the bytes that its two parts decode to. -/
structure ByteParam where
  name : Bytes
  value : Bytes
deriving DecidableEq, Repr

namespace ByteParam

def ofPiece (piece : Bytes) : ByteParam :=
  let (name, value) := cut (· == 0x3D) piece
  ⟨decode name, decode (value.getD [])⟩

/-- Both parts are the UTF-8 form of some text. -/
def IsText (p : ByteParam) : Prop :=
  (∃ name, Utf8.encode name = p.name) ∧ ∃ value, Utf8.encode value = p.value

/-- Both parts as text, with U+FFFD for what is none. -/
def read (p : ByteParam) : Param :=
  ⟨String.ofList (Utf8.decodeLossy p.name), String.ofList (Utf8.decodeLossy p.value)⟩

end ByteParam

def Param.bytes (p : Param) : ByteParam := ⟨rawBytes p.name, rawBytes p.value⟩

/-- Every name and value of a query as bytes, in the query's order. -/
def byteParams (query : String) : List ByteParam := (namingPieces query).map ByteParam.ofPiece

theorem parse_eq_map_read (query : String) :
    parse query = (byteParams query).map ByteParam.read := by
  rw [parse_eq, byteParams, List.map_map]
  rfl

theorem bytes_read_iff {p : ByteParam} : p.read.bytes = p ↔ p.IsText := by
  obtain ⟨name, value⟩ := p
  simp only [ByteParam.read, Param.bytes, rawBytes, String.toList_ofList, ByteParam.mk.injEq,
    Utf8.encode_decodeLossy_iff, Utf8.isValid_iff, ByteParam.IsText]

theorem isLosslessPiece_iff {piece : Bytes} :
    isLosslessPiece piece = true ↔ (ByteParam.ofPiece piece).IsText := by
  rw [isLosslessPiece, Bool.and_eq_true, ← isValid_decode, ← isValid_decode, Utf8.isValid_iff,
    Utf8.isValid_iff]
  rfl

/-- A query decodes without loss where every name and every value is text. -/
theorem isLossless_iff {query : String} :
    isLossless query = true ↔ ∀ p ∈ byteParams query, p.IsText := by
  rw [isLossless_eq, List.all_eq_true]
  simp only [byteParams, namingPieces, List.forall_mem_map, List.mem_filter, isLosslessPiece_iff]
  constructor
  · rintro h piece ⟨hpiece, -⟩
    exact h piece hpiece
  · intro h piece hpiece
    -- an empty piece is looked at as well, but its parts are empty texts
    cases piece with
    | nil => exact ⟨⟨[], rfl⟩, [], rfl⟩
    | cons b r => exact h _ ⟨hpiece, rfl⟩

/-- The parameters of a query hold the query's own bytes where it decodes without loss. -/
theorem isLossless_iff_map_bytes {query : String} :
    isLossless query = true ↔ (parse query).map Param.bytes = byteParams query := by
  rw [isLossless_iff, parse_eq_map_read, List.map_map]
  conv_rhs => rhs; rw [← List.map_id (byteParams query)]
  rw [List.map_inj_left]
  exact forall₂_congr fun p _ => bytes_read_iff.symm

theorem ofPiece_encode_form (p : Param) : ByteParam.ofPiece (Utf8.encode p.form) = p.bytes := by
  rw [ByteParam.ofPiece, cut_form]
  simp only [Option.getD_some, decode_encode]
  rfl

/-- A written query says the bytes of the parameters that it is written from. -/
theorem byteParams_render (params : List Param) :
    byteParams (render params) = params.map Param.bytes := by
  rw [byteParams, namingPieces_render, List.map_map]
  exact List.map_congr_left fun p _ => ofPiece_encode_form p

/-- Bytes that neither end a piece nor a name. -/
def IsSign (bytes : Bytes) : Prop := bytes ≠ [] ∧ ∀ b ∈ bytes, b ≠ 0x26 ∧ b ≠ 0x3D

instance (bytes : Bytes) : Decidable (IsSign bytes) :=
  inferInstanceAs (Decidable (bytes ≠ [] ∧ ∀ b ∈ bytes, b ≠ 0x26 ∧ b ≠ 0x3D))

theorem rawBytes_append (a b : String) : rawBytes (a ++ b) = rawBytes a ++ rawBytes b := by
  rw [rawBytes, String.toList_append, Utf8.encode_append]
  rfl

section
variable {old new : Bytes}

theorem IsSign.beq_eq_false (h : IsSign old) {b : UInt8} (hb : b ∈ old) :
    (b == 0x26) = false ∧ (b == 0x3D) = false := by
  simpa using h.2 b hb

theorem ofPiece_exchange (hold : IsSign old) (hnew : IsSign new) {after : Bytes}
    (h : ∀ start rest, rest <+: after →
      decode (start ++ (old ++ rest)) = decode (start ++ (new ++ rest))) (before : Bytes) :
    ByteParam.ofPiece (before ++ (old ++ after)) =
      ByteParam.ofPiece (before ++ (new ++ after)) := by
  obtain ⟨name, value, hcut⟩ | hno := exists_cut_append (· == 0x3D) before
  · simp only [ByteParam.ofPiece, hcut, Option.getD_some]
    rw [h value after List.prefix_rfl]
  · simp only [ByteParam.ofPiece, cut_append_of_not hno,
      cut_append_of_not fun b hb => (hold.beq_eq_false hb).2,
      cut_append_of_not fun b hb => (hnew.beq_eq_false hb).2]
    rw [h before _ (prefix_cut _ after)]

/-- Signs that decode alike, whatever stands before them, may be exchanged in a query. -/
theorem byteParams_exchange {before old new after : String} (hold : IsSign (rawBytes old))
    (hnew : IsSign (rawBytes new)) (h : ∀ start rest, rest <+: rawBytes after →
      decode (start ++ (rawBytes old ++ rest)) = decode (start ++ (rawBytes new ++ rest))) :
    byteParams (before ++ old ++ after) = byteParams (before ++ new ++ after) := by
  obtain ⟨pieces, last, hsplit⟩ := exists_splitOn_append (· == 0x26) (rawBytes before)
  obtain ⟨v, vs, hafter⟩ :=
    List.exists_cons_of_ne_nil (splitOn_ne_nil (· == 0x26) (rawBytes after))
  -- both are split alike, and the piece with the sign ends where the next separator is
  have hpieces (sign : Bytes) (hsign : IsSign sign) :
      splitOn (· == 0x26) (rawBytes before ++ (sign ++ rawBytes after)) =
        pieces ++ (last ++ (sign ++ v)) :: vs := by
    rw [hsplit, splitOn_append_of_not fun b hb => (hsign.beq_eq_false hb).1, hafter]
    rfl
  have hv := prefix_of_splitOn_eq_cons hafter
  have hpiece := ofPiece_exchange hold hnew (fun start rest hr => h start rest (hr.trans hv)) last
  simp only [byteParams, namingPieces, rawBytes_append, List.append_assoc, hpieces _ hold,
    hpieces _ hnew]
  simp [hold.1, hnew.1, hpiece]

end

/-- A percent sign that starts no escape stands for itself: the query says what it would with the
escape of a percent sign in that place. -/
theorem byteParams_percent (before : String) {after : String}
    (h : opensEscape (rawBytes after) = false) :
    byteParams (before ++ "%" ++ after) = byteParams (before ++ "%25" ++ after) :=
  byteParams_exchange (by decide +kernel) (by decide +kernel) fun start _ hr =>
    decode_percent start (opensEscape_of_isPrefix hr h)

/-- The replacement character may stand as it is or as its escapes. -/
theorem byteParams_replacement (before after : String) :
    byteParams (before ++ "%EF%BF%BD" ++ after) = byteParams (before ++ "\uFFFD" ++ after) :=
  byteParams_exchange (by decide +kernel) (by decide +kernel) fun start rest _ =>
    decode_replacement start rest

section
variable {query query' : String}

theorem parse_congr (h : byteParams query = byteParams query') : parse query = parse query' := by
  rw [parse_eq_map_read, parse_eq_map_read, h]

theorem isLossless_congr (h : byteParams query = byteParams query') :
    isLossless query = isLossless query' := by
  rw [Bool.eq_iff_iff, isLossless_iff, isLossless_iff, h]

end

example : isLossless "scope=%EF%BF%BD" = true ∧ isLossless "scope=%FF" = false := by
  decide +kernel

end ScopeGateway.Form
