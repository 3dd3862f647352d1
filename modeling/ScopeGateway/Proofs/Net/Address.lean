import ScopeGateway.Net.Address
import ScopeGateway.Proofs.Text.Split

/-!
The characters in which addresses are written.
-/
namespace ScopeGateway.Net

/-- Digits in lower case, and what stands between the parts of an address. -/
def isAddressChar (c : Char) : Bool :=
  c.isDigit || ('a' ≤ c && c ≤ 'f') || c == '.' || c == ':'

theorem isAddressChar_of_mem_toDigits {radix n : Nat} {c : Char} (hlow : 1 < radix)
    (hhigh : radix ≤ 16) (h : c ∈ Nat.toDigits radix n) : isAddressChar c = true := by
  have hdigit : ∀ d < 16, isAddressChar (Nat.digitChar d) = true := by decide
  induction n using Nat.strongRecOn with
  | ind n ih =>
    rw [Nat.toDigits_eq_if hlow] at h
    split at h
    · rename_i hn
      rw [List.mem_singleton.mp h]
      exact hdigit n (Nat.lt_of_lt_of_le hn hhigh)
    · rw [List.mem_append, List.mem_singleton] at h
      obtain h | rfl := h
      · exact ih (n / radix) (Nat.div_lt_self (by omega) hlow) h
      · exact hdigit _ (Nat.lt_of_lt_of_le (Nat.mod_lt _ (by omega)) hhigh)

/-- Parts that are written so, with such a character between them. -/
theorem isAddressChar_of_mem_intercalate {α : Type} {sep : String} {s : Char} {f : α → String}
    {parts : List α} {c : Char} (hsep : sep.toList = [s]) (hs : isAddressChar s = true)
    (hf : ∀ a, ∀ c ∈ (f a).toList, isAddressChar c = true)
    (h : c ∈ (sep.intercalate (parts.map f)).toList) : isAddressChar c = true := by
  rw [String.toList_intercalate, hsep] at h
  obtain rfl | ⟨part, hpart, hc⟩ := Text.mem_intercalate h
  · exact hs
  · obtain ⟨text, htext, rfl⟩ := List.mem_map.mp hpart
    obtain ⟨a, -, rfl⟩ := List.mem_map.mp htext
    exact hf a c hc

theorem isAddressChar_of_mem_dotted {octets : List UInt8} {c : Char}
    (h : c ∈ (dotted octets).toList) : isAddressChar c = true := by
  refine isAddressChar_of_mem_intercalate rfl (by decide) (fun o c hc => ?_) h
  rw [Nat.toString_eq_ofList_toDigits, String.toList_ofList] at hc
  exact isAddressChar_of_mem_toDigits (by decide) (by decide) hc

theorem isAddressChar_of_mem_joinGroups {groups : List UInt16} {c : Char}
    (h : c ∈ (joinGroups groups).toList) : isAddressChar c = true := by
  refine isAddressChar_of_mem_intercalate rfl (by decide) (fun g c hc => ?_) h
  rw [hex, String.toList_ofList] at hc
  exact isAddressChar_of_mem_toDigits (by decide) (by decide) hc

theorem isAddressChar_of_mem_compressed {groups : List UInt16} {c : Char}
    (h : c ∈ (compressed groups).toList) : isAddressChar c = true := by
  have hcolons : ∀ c ∈ "::".toList, isAddressChar c = true :=
    List.all_eq_true.mp (by decide)
  unfold compressed at h
  split at h
  · rw [String.toList_append, String.toList_append, List.mem_append, List.mem_append] at h
    obtain (h | h) | h := h
    · exact isAddressChar_of_mem_joinGroups h
    · exact hcolons c h
    · exact isAddressChar_of_mem_joinGroups h
  · exact isAddressChar_of_mem_joinGroups h

theorem isAddressChar_of_mem_render {ip : IpAddress} {c : Char} (h : c ∈ ip.render.toList) :
    isAddressChar c = true := by
  have hfront : ∀ c ∈ "::ffff:".toList, isAddressChar c = true :=
    List.all_eq_true.mp (by decide)
  cases ip with
  | v4 octets => exact isAddressChar_of_mem_dotted h
  | v6 groups =>
    simp only [IpAddress.render] at h
    split at h
    · rw [String.toList_append, List.mem_append] at h
      obtain h | h := h
      · exact hfront c h
      · exact isAddressChar_of_mem_dotted h
    · exact isAddressChar_of_mem_compressed h

end ScopeGateway.Net
