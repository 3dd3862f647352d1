import ScopeGateway.Http.HopByHop
import ScopeGateway.Proofs.Http.Field
import ScopeGateway.Proofs.Net.Address

/-!
What a hop leaves of each field: the fields that go from end to end as they are, one chain of
forwarders with the peer at its end, and one wish to switch at most.
-/
namespace ScopeGateway.Http.Headers

open Text Text.Utf8

variable {h : Headers} {n : FieldName}

/-- A `Connection` value of plain ASCII has the name between two commas, in any case and with
blanks around it. -/
def Lists (h : Headers) (n : FieldName) : Prop :=
  ∃ v ∈ h.values .connection, ∃ text, v.text? = some text ∧
    ∃ word ∈ splitOn (· == ',') text, (trim word).map Char.toLower = n.text.toList

theorem contains_iff : h.contains n = true ↔ h.values n ≠ [] := by
  simp only [contains, values, ne_eq, List.map_eq_nil_iff, List.filter_eq_nil_iff, List.any_eq_true,
    not_forall, not_not, exists_prop]

theorem trim_subset (text : List Char) : trim text ⊆ text := by
  intro c hc
  rw [trim, trimEnd, List.mem_reverse] at hc
  have hc := (List.dropWhile_suffix isBlank).subset hc
  rw [List.mem_reverse] at hc
  exact (List.dropWhile_suffix isBlank).subset hc

theorem mem_connectionOptions {word : List Char} : word ∈ h.connectionOptions ↔
    word ≠ [] ∧ ∃ v ∈ h.values .connection, ∃ text, v.text? = some text ∧
      ∃ piece ∈ splitOn (· == ',') text, trim piece = word := by
  simp only [connectionOptions, List.mem_filter, List.mem_map, List.mem_flatMap,
    List.mem_filterMap, Bool.not_eq_true', List.isEmpty_eq_false_iff]
  constructor
  · rintro ⟨⟨piece, ⟨text, ⟨v, hv, htext⟩, hpiece⟩, rfl⟩, hne⟩
    exact ⟨hne, v, hv, text, htext, piece, hpiece, rfl⟩
  · rintro ⟨hne, v, hv, text, htext, piece, hpiece, rfl⟩
    exact ⟨⟨piece, ⟨text, ⟨v, hv, htext⟩, hpiece⟩, rfl⟩, hne⟩

/-- The names that are listed are the options of the connection, in any case. -/
theorem lists_iff_mem_connectionOptions :
    h.Lists n ↔ ∃ word ∈ h.connectionOptions, word.map Char.toLower = n.text.toList := by
  simp only [mem_connectionOptions]
  constructor
  · rintro ⟨v, hv, text, htext, piece, hpiece, hname⟩
    refine ⟨trim piece, ⟨?_, v, hv, text, htext, piece, hpiece, rfl⟩, hname⟩
    -- no name is empty
    intro hempty
    have hvalid := n.valid
    rw [← hname, hempty] at hvalid
    exact absurd hvalid (by decide)
  · rintro ⟨_, ⟨-, v, hv, text, htext, piece, hpiece, rfl⟩, hname⟩
    exact ⟨v, hv, text, htext, piece, hpiece, hname⟩

theorem toNat_lt_of_mem_connectionOptions {word : List Char} (h : word ∈ h.connectionOptions) :
    ∀ c ∈ word, c.toNat < 0x80 := by
  obtain ⟨-, v, -, text, htext, piece, hpiece, rfl⟩ := mem_connectionOptions.mp h
  intro c hc
  have hmem := (infix_of_mem_splitOn hpiece).subset (trim_subset piece hc)
  exact (FieldValue.toNat_lt_of_mem_text? htext hmem).trans (by decide)

/-- What `Connection` lists is plain ASCII, so a name is compared letter by letter. -/
theorem mem_listedNames : n ∈ h.listedNames ↔ h.Lists n := by
  rw [lists_iff_mem_connectionOptions, listedNames, List.mem_filterMap]
  refine exists_congr fun word => and_congr_right fun hword => ?_
  exact FieldName.ofBytes?_encode (toNat_lt_of_mem_connectionOptions hword)

instance : Decidable (h.Lists n) := decidable_of_iff _ mem_listedNames

theorem lists_congr {h' : Headers} (hvalues : h.values .connection = h'.values .connection) :
    h.Lists n ↔ h'.Lists n := by
  unfold Lists
  rw [hvalues]

@[simp] theorem values_endToEnd :
    h.endToEnd.values n = if h.Lists n ∨ n ∈ hopNames then [] else h.values n := by
  simp only [endToEnd, values_removeAll, List.mem_append, mem_listedNames]

theorem isPlain_render (peer : Net.IpAddress) : IsPlain peer.render.toList := by
  intro c hc
  have h := Net.isAddressChar_of_mem_render hc
  simp only [Net.isAddressChar, Char.isDigit, Bool.or_eq_true, Bool.and_eq_true, decide_eq_true_eq,
    beq_iff_eq, ge_iff_le, UInt32.le_iff_toNat_le, Char.le_def] at h
  obtain ((h | h) | rfl) | rfl := h
  · change 48 ≤ c.toNat ∧ c.toNat ≤ 57 at h
    omega
  · change 97 ≤ c.toNat ∧ c.toNat ≤ 102 at h
    omega
  · decide
  · decide

/-- The chain is always a value: commas and blanks may stand in one, and so may an address. -/
theorem all_isValueByte_forwarders (h : Headers) (peer : Net.IpAddress) :
    (h.forwarders peer).all isValueByte = true := by
  rw [forwarders, List.all_append, Bool.and_eq_true]
  refine ⟨?_, all_isValueByte_encode (isPlain_render peer)⟩
  rw [List.all_flatMap, List.all_eq_true]
  intro v _
  rw [List.all_append, v.valid]
  decide

/-- The forwarders with the peer, as one value. -/
def chain (h : Headers) (peer : Net.IpAddress) : FieldValue :=
  ⟨h.forwarders peer, all_isValueByte_forwarders h peer⟩

theorem ofBytes?_forwarders (h : Headers) (peer : Net.IpAddress) :
    FieldValue.ofBytes? (h.forwarders peer) = some (h.chain peer) :=
  FieldValue.ofBytes?_eq_some _

theorem addForwarder_eq (h : Headers) (peer : Net.IpAddress) :
    h.addForwarder peer = h.set ⟨.forwardedFor, h.chain peer⟩ := by
  rw [addForwarder, ofBytes?_forwarders]

/-- What one hop makes of headers: those that go from end to end, with the peer among the forwarders
and with the wish to switch, if there is one. -/
def passedOn (h : Headers) (peer : Net.IpAddress) (protocol : Option FieldValue) : Headers :=
  protocol.elim (h.endToEnd.addForwarder peer) (h.endToEnd.addForwarder peer).wanting

/-- What the hop writes itself does not depend on what the connection lists. -/
theorem values_passedOn (h : Headers) (peer : Net.IpAddress) (protocol : Option FieldValue)
    (n : FieldName) :
    (h.passedOn peer protocol).values n =
      if n = .upgrade then protocol.toList
      else if n = .connection then (protocol.map fun _ => upgradeValue).toList
      else if n = .forwardedFor then [h.endToEnd.chain peer]
      else if h.Lists n ∨ n ∈ hopNames then []
      else h.values n := by
  have hpassed : (h.endToEnd.addForwarder peer).values n =
      if n = .forwardedFor then [h.endToEnd.chain peer]
      else if h.Lists n ∨ n ∈ hopNames then [] else h.values n := by
    rw [addForwarder_eq, values_set, values_endToEnd]
    simp only [eq_comm]
  unfold passedOn
  cases protocol with
  | none =>
    -- nothing is written again, and both names are names of the hop
    rw [Option.elim_none, hpassed]
    by_cases hup : n = .upgrade
    · subst hup
      rw [if_neg (by decide), if_pos (.inr (by decide)), if_pos rfl]
      rfl
    · by_cases hconn : n = .connection
      · subst hconn
        rw [if_neg (by decide), if_pos (.inr (by decide)), if_neg hup, if_pos rfl]
        rfl
      · rw [if_neg hup, if_neg hconn]
  | some protocol =>
    rw [Option.elim_some, wanting, values_set, values_set, hpassed]
    simp only [eq_comm, Option.toList_some, Option.map_some]

theorem forwarders_eq_intercalate (h : Headers) (peer : Net.IpAddress) :
    h.forwarders peer = [0x2C, 0x20].intercalate
      ((h.values .forwardedFor).map FieldValue.bytes ++ [encode peer.render.toList]) := by
  unfold forwarders
  induction h.values .forwardedFor with
  | nil => simp
  | cons v rest ih =>
    rw [List.flatMap_cons, List.append_assoc, ih, List.map_cons, List.cons_append]
    cases rest with
    | nil => simp
    | cons v' rest => simp [List.intercalate_cons_cons]

/-- Behind the last comma of the chain there is nothing but the peer. -/
theorem exists_forwarders_eq (h : Headers) (peer : Net.IpAddress) :
    ∃ before, h.forwarders peer = before ++ encode peer.render.toList ∧
      (before = [] ∨ [0x2C, 0x20] <:+ before) ∧ 0x2C ∉ encode peer.render.toList := by
  refine ⟨_, rfl, ?_, ?_⟩
  · cases hvalues : (h.values .forwardedFor).getLast? with
    | none =>
      rw [List.getLast?_eq_none_iff] at hvalues
      exact .inl (by rw [hvalues]; rfl)
    | some v =>
      obtain ⟨front, hfront⟩ := List.getLast?_eq_some_iff.mp hvalues
      right
      rw [hfront, List.flatMap_append, List.flatMap_singleton, ← List.append_assoc]
      exact List.suffix_append _ _
  · intro hcomma
    have hmem : ',' ∈ peer.render.toList := (mem_encode_iff (by decide)).mp hcomma
    exact absurd (Net.isAddressChar_of_mem_render hmem) (by decide)

end ScopeGateway.Http.Headers
