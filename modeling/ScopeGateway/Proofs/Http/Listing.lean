import ScopeGateway.Proofs.Http.HopByHop

/-!
The names that `Connection` lists, read off the bytes of its values. Those of a value in plain ASCII
are taken out at a hop, and those of any other value are not.
-/
namespace ScopeGateway.Http

open Text Text.Utf8

/-- A blank or a tab. -/
def isPadding (b : UInt8) : Bool := b == 0x20 || b == 0x09

/-- Without the padding at both ends. -/
def unpadded (bytes : Bytes) : Bytes :=
  ((bytes.dropWhile isPadding).reverse.dropWhile isPadding).reverse

/-- The character with the number of a byte. -/
def charOf (b : UInt8) : Char := Char.ofNat b.toNat

/-- What is to be shown of every byte is shown of their numbers. -/
theorem forall_byte {P : UInt8 → Prop} (h : ∀ n < 0x100, P (UInt8.ofNat n)) (b : UInt8) : P b := by
  have hb := h b.toNat b.toNat_lt
  rwa [UInt8.ofNat_toNat] at hb

theorem charOf_beq_comma (b : UInt8) : (charOf b == ',') = (b == 0x2C) :=
  forall_byte (P := fun b => (charOf b == ',') = (b == 0x2C)) (by decide +kernel) b

/-- A value has no other blanks in ASCII than the two that are padding. -/
theorem isBlank_charOf {b : UInt8} (hvalid : isValueByte b = true) (hascii : b < 0x80) :
    isBlank (charOf b) = isPadding b :=
  forall_byte (P := fun b => isValueByte b = true → b < 0x80 → isBlank (charOf b) = isPadding b)
    (by decide +kernel) b hvalid hascii

theorem trim_map_charOf {bytes : Bytes} (h : ∀ b ∈ bytes, isBlank (charOf b) = isPadding b) :
    trim (bytes.map charOf) = (unpadded bytes).map charOf := by
  have hrest : ∀ b ∈ (bytes.dropWhile isPadding).reverse, isBlank (charOf b) = isPadding b :=
    fun b hb => h b ((List.dropWhile_suffix _).subset (List.mem_reverse.mp hb))
  rw [trim, trimStart, trimEnd, dropWhile_map_eq _ h, ← List.map_reverse,
    dropWhile_map_eq _ hrest, ← List.map_reverse, unpadded]

namespace FieldValue

variable {v : FieldValue} {n : FieldName}

/-- The value has the name between two commas, in any case and with padding around it. -/
def Names (v : FieldValue) (n : FieldName) : Prop :=
  ∃ word ∈ splitOn (· == 0x2C) v.bytes,
    (unpadded word).map (fun b => (charOf b).toLower) = n.text.toList

/-- No byte of the value is above ASCII. -/
def IsAscii (v : FieldValue) : Prop := ∀ b ∈ v.bytes, b < 0x80

theorem isValueByte_of_mem {b : UInt8} (h : b ∈ v.bytes) : isValueByte b = true :=
  List.all_eq_true.mp v.valid b h

/-- The byte that ends ASCII stands in no value. -/
theorem lt_iff_of_isValueByte {b : UInt8} (h : isValueByte b = true) : b < 0x7F ↔ b < 0x80 :=
  forall_byte (P := fun b => isValueByte b = true → (b < 0x7F ↔ b < 0x80)) (by decide +kernel) b h

theorem text?_eq_some_iff {text : List Char} :
    v.text? = some text ↔ v.IsAscii ∧ v.bytes.map charOf = text := by
  have hall : v.bytes.all (· < 0x7F) = true ↔ v.IsAscii := by
    rw [List.all_eq_true]
    refine forall₂_congr fun b hb => ?_
    rw [decide_eq_true_eq, lt_iff_of_isValueByte (isValueByte_of_mem hb)]
  unfold text?
  rw [← hall]
  split_ifs with hread
  · rw [Option.some.injEq]
    exact ⟨fun heq => ⟨hread, heq⟩, And.right⟩
  · exact iff_of_false nofun fun hboth => hread hboth.1

theorem names_iff {text : List Char} (h : v.text? = some text) :
    v.Names n ↔ ∃ word ∈ splitOn (· == ',') text, (trim word).map Char.toLower = n.text.toList := by
  obtain ⟨hascii, rfl⟩ := text?_eq_some_iff.mp h
  rw [splitOn_map charOf fun b _ => charOf_beq_comma b]
  simp only [List.mem_map, exists_exists_and_eq_and]
  refine exists_congr fun word => and_congr_right fun hword => ?_
  have hpadding : ∀ b ∈ word, isBlank (charOf b) = isPadding b := fun b hb =>
    have hmem := (infix_of_mem_splitOn hword).subset hb
    isBlank_charOf (isValueByte_of_mem hmem) (hascii b hmem)
  rw [trim_map_charOf hpadding, List.map_map]
  rfl

end FieldValue

namespace Headers

variable {h : Headers} {n : FieldName}

theorem lists_iff : h.Lists n ↔ ∃ v ∈ h.values .connection, v.IsAscii ∧ v.Names n := by
  refine exists_congr fun v => and_congr_right fun _ => ?_
  constructor
  · rintro ⟨text, htext, hword⟩
    exact ⟨(FieldValue.text?_eq_some_iff.mp htext).1, (FieldValue.names_iff htext).mpr hword⟩
  · rintro ⟨hascii, hnames⟩
    have htext := FieldValue.text?_eq_some_iff.mpr ⟨hascii, rfl⟩
    exact ⟨_, htext, (FieldValue.names_iff htext).mp hnames⟩

theorem listedNames_endToEnd (h : Headers) : h.endToEnd.listedNames = [] := by
  have hnone : h.endToEnd.values .connection = [] := by
    rw [values_endToEnd, if_pos (.inr (by decide))]
  rw [listedNames, connectionOptions, hnone]
  rfl

/-- What has passed a hop passes the next one as it is. -/
theorem endToEnd_endToEnd (h : Headers) : h.endToEnd.endToEnd = h.endToEnd := by
  rw [endToEnd, listedNames_endToEnd, List.nil_append, removeAll]
  refine congrArg Headers.mk (List.filter_eq_self.mpr fun f hf => ?_)
  rw [endToEnd, removeAll, List.mem_filter] at hf
  simp only [Bool.not_eq_true', ← Bool.not_eq_true, List.contains_iff_mem, List.mem_append,
    not_or] at hf ⊢
  exact hf.2.2

/-- A hop takes out the fields that always concern one connection only and those that a `Connection`
value in plain ASCII lists, byte by byte. All other fields keep their values, and a second hop takes
out nothing more. -/
theorem endToEnd_unlisted (h : Headers) :
    (∀ n, (n ∈ hopNames ∨ (∃ v ∈ h.values .connection, v.IsAscii ∧ v.Names n) →
        h.endToEnd.values n = []) ∧
      (¬(n ∈ hopNames ∨ ∃ v ∈ h.values .connection, v.IsAscii ∧ v.Names n) →
        h.endToEnd.values n = h.values n)) ∧
    h.endToEnd.endToEnd = h.endToEnd := by
  refine ⟨fun n => ?_, h.endToEnd_endToEnd⟩
  rw [← lists_iff, or_comm, values_endToEnd]
  exact ⟨fun hlisted => if_pos hlisted, fun hlisted => if_neg hlisted⟩

def nearField : FieldName := ⟨"x-near", by decide +kernel⟩

def endField : FieldName := ⟨"x-end", by decide +kernel⟩

def asciiListing : FieldValue := ⟨encode "close, X-Near\t".toList, by decide +kernel⟩

/-- A byte above ASCII behind the last comma. -/
def brokenListing : FieldValue := ⟨encode "x-end, ".toList ++ [0xFF], by decide +kernel⟩

/-- Two fields, each listed by one of two `Connection` values. -/
def listedFields : Headers :=
  ⟨[⟨.connection, asciiListing⟩, ⟨.connection, brokenListing⟩,
    ⟨nearField, FieldValue.mk (encode "this hop".toList)⟩,
    ⟨endField, FieldValue.mk (encode "the end".toList)⟩]⟩

/-- One of the two has reached its end. -/
theorem endToEnd_listedFields :
    listedFields.endToEnd.values nearField = [] ∧
      (listedFields.endToEnd.values endField).map FieldValue.bytes = [encode "the end".toList] := by
  obtain ⟨hvalues, -⟩ := endToEnd_unlisted listedFields
  have hhop : ∃ v ∈ listedFields.values .connection, v.IsAscii ∧ v.Names nearField :=
    lists_iff.mp (by decide +kernel)
  have hend : ¬∃ v ∈ listedFields.values .connection, v.IsAscii ∧ v.Names endField :=
    lists_iff.not.mp (by decide +kernel)
  refine ⟨(hvalues nearField).1 (.inr hhop), ?_⟩
  rw [(hvalues endField).2 (not_or.mpr ⟨by decide, hend⟩)]
  decide +kernel

/-- A name is listed in vain beside a byte above ASCII. -/
theorem not_all_listed_taken_out :
    ¬∀ (h : Headers) (n : FieldName) (v : FieldValue),
      v ∈ h.values .connection → v.Names n → h.endToEnd.values n = [] := by
  intro htaken
  have hnames : brokenListing.Names endField :=
    ⟨encode "x-end".toList, by decide +kernel, by decide +kernel⟩
  have hgone := htaken listedFields endField brokenListing (by decide +kernel) hnames
  exact absurd hgone (by decide +kernel)

end Headers

end ScopeGateway.Http
