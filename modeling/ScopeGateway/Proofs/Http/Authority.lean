import ScopeGateway.Http.Uri
import ScopeGateway.Proofs.Except
import ScopeGateway.Proofs.Http.Field

/-!
An authority that has been read is plain text, so it may stand in a field.
-/
namespace ScopeGateway.Http.Uri

open Text

theorem isPlain_of_isAlphanum {c : Char} (h : c.isAlphanum = true) :
    0x20 ≤ c.toNat ∧ c.toNat < 0x7F := by
  change (decide (65 ≤ c.val ∧ c.val ≤ 90) || (decide (97 ≤ c.val) && decide (c.val ≤ 122)) ||
    (decide (48 ≤ c.val) && decide (c.val ≤ 57))) = true at h
  simp only [Bool.or_eq_true, Bool.and_eq_true, decide_eq_true_eq, UInt32.le_iff_toNat_le] at h
  change ((65 ≤ c.toNat ∧ c.toNat ≤ 90) ∨ 97 ≤ c.toNat ∧ c.toNat ≤ 122) ∨
    48 ≤ c.toNat ∧ c.toNat ≤ 57 at h
  omega

theorem isPlain_of_isAuthorityChar {c : Char} (h : isAuthorityChar c = true) :
    0x20 ≤ c.toNat ∧ c.toNat < 0x7F := by
  rw [isAuthorityChar, Bool.or_eq_true] at h
  obtain h | h := h
  · exact isPlain_of_isAlphanum h
  · rw [List.contains_iff_mem] at h
    have hmarks : IsPlain "!$&'()*+,-.;=_~".toList := by decide
    exact hmarks c h

theorem isPlain_of_step {s s' : AuthorityScan} {c : Char} (h : s.step c = .ok s') :
    0x20 ≤ c.toNat ∧ c.toNat < 0x7F := by
  have hmarks : IsPlain ":[]@%".toList := by decide
  by_cases hmark : c ∈ ":[]@%".toList
  · exact hmarks c hmark
  · have hne : c ≠ ':' ∧ c ≠ '[' ∧ c ≠ ']' ∧ c ≠ '@' ∧ c ≠ '%' := by simpa using hmark
    obtain ⟨h₁, h₂, h₃, h₄, h₅⟩ := hne
    rw [AuthorityScan.step, if_neg h₁, if_neg h₂, if_neg h₃, if_neg h₄, if_neg h₅] at h
    split_ifs at h with hchar
    exact isPlain_of_isAuthorityChar hchar

theorem isPlain_of_foldlM {text : List Char} {s s' : AuthorityScan}
    (h : text.foldlM AuthorityScan.step s = .ok s') : IsPlain text := by
  induction text generalizing s with
  | nil => exact fun c hc => absurd hc List.not_mem_nil
  | cons c rest ih =>
    rw [List.foldlM_cons] at h
    obtain ⟨next, hstep, hrest⟩ := bind_eq_ok_iff.mp h
    intro d hd
    obtain rfl | hd := List.mem_cons.mp hd
    · exact isPlain_of_step hstep
    · exact ih hrest d hd

theorem isPlain_of_checkAuthority {text : List Char} (h : checkAuthority text = .ok ()) :
    IsPlain text := by
  obtain ⟨s, hs, -⟩ := bind_eq_ok_iff.mp h
  exact isPlain_of_foldlM hs

theorem isPlain_of_isAuthority {text : List Char} (h : isAuthority text = true) :
    IsPlain text := by
  rw [isAuthority, Bool.and_eq_true] at h
  apply isPlain_of_checkAuthority
  cases hcheck : checkAuthority text with
  | ok => rfl
  | error e => simp [hcheck, Except.toBool] at h

theorem isPlain_of_parseAbsolute {cs : List Char} {u : Uri} (h : parseAbsolute cs = .ok u) :
    ∀ a ∈ u.authority, IsPlain a.toList := by
  unfold parseAbsolute at h
  obtain ⟨⟨scheme, rest⟩, -, h⟩ := bind_eq_ok_iff.mp h
  obtain ⟨⟨⟩, hcheck, h⟩ := bind_eq_ok_iff.mp h
  have hplain := isPlain_of_checkAuthority hcheck
  intro a ha
  cases scheme with
  | none =>
    simp only at h
    split_ifs at h
    obtain rfl := Except.ok.inj h
    obtain rfl := Option.some.inj ha
    rwa [String.toList_ofList]
  | some scheme =>
    simp only at h
    split_ifs at h
    · cases h
    · obtain ⟨r, -, h⟩ := bind_eq_ok_iff.mp h
      obtain rfl := Except.ok.inj h
      obtain rfl := Option.some.inj ha
      rwa [String.toList_ofList]

theorem isPlain_of_parse {text : String} {u : Uri} (h : Uri.parse text = .ok u) :
    ∀ a ∈ u.authority, IsPlain a.toList := by
  unfold Uri.parse at h
  simp only at h
  split at h
  · cases h
  split at h
  · cases h
  · obtain rfl := Except.ok.inj h
    simp
  · obtain ⟨r, -, h⟩ := bind_eq_ok_iff.mp h
    obtain rfl := Except.ok.inj h
    simp
  · split_ifs at h with hauthority
    obtain rfl := Except.ok.inj h
    intro a ha
    obtain rfl := Option.some.inj ha
    exact isPlain_of_isAuthority hauthority
  · exact isPlain_of_parseAbsolute h

end ScopeGateway.Http.Uri
