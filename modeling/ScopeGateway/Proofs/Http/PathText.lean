import ScopeGateway.Proofs.Http.UriForms
import ScopeGateway.Proofs.Text.Utf8

/-!
Which texts are the path of some URI, and which ones start the path of some URI.
-/
namespace ScopeGateway.Http.Uri

open Text

/-- Only characters that may stand in a path, and not too many of them. -/
def IsPathText (path : String) : Prop :=
  (∀ c ∈ path.toList, isPathChar c = true) ∧ Utf8.size path.toList ≤ maxSize

instance (path : String) : Decidable (IsPathText path) :=
  decidable_of_iff (path.toList.all isPathChar = true ∧ Utf8.size path.toList ≤ maxSize)
    (by rw [List.all_eq_true, IsPathText])

variable {text path start : String} {u : Uri}

theorem Resource.size_path_of_parse {text : List Char} {r : Resource}
    (h : Resource.parse text = .ok r) : Utf8.size r.path ≤ maxSize := by
  obtain ⟨hsize, -, -, rfl⟩ := Resource.parse_eq_ok_iff.mp h
  have hprefix : (Resource.ofText text).path <+: text :=
    (prefix_cut (· == '?') (cut (· == '#') text).1).trans (prefix_cut _ text)
  exact (Utf8.size_mono hprefix).trans hsize

theorem size_path_of_parseAbsolute {cs : List Char} (h : parseAbsolute cs = .ok u) :
    Utf8.size u.path.toList ≤ maxSize := by
  unfold parseAbsolute at h
  obtain ⟨⟨scheme, rest⟩, -, h⟩ := bind_eq_ok_iff.mp h
  obtain ⟨-, -, h⟩ := bind_eq_ok_iff.mp h
  cases scheme with
  | none =>
    simp only at h
    split_ifs at h
    obtain rfl := Except.ok.inj h
    exact Nat.zero_le _
  | some scheme =>
    simp only at h
    split_ifs at h
    · cases h
    · obtain ⟨r, hr, h⟩ := bind_eq_ok_iff.mp h
      obtain rfl := Except.ok.inj h
      simp only
      split_ifs
      · decide
      · rw [String.toList_ofList]
        exact Resource.size_path_of_parse hr

theorem size_path_of_parse (h : Uri.parse text = .ok u) : Utf8.size u.path.toList ≤ maxSize := by
  unfold Uri.parse at h
  simp only at h
  split at h
  · cases h
  split at h
  · cases h
  · obtain rfl := Except.ok.inj h
    decide
  · obtain ⟨r, hr, h⟩ := bind_eq_ok_iff.mp h
    obtain rfl := Except.ok.inj h
    rw [String.toList_ofList]
    exact Resource.size_path_of_parse hr
  · split_ifs at h
    obtain rfl := Except.ok.inj h
    exact Nat.zero_le _
  · exact size_path_of_parseAbsolute h

theorem isPathText_of_parse (h : Uri.parse text = .ok u) : IsPathText u.path :=
  ⟨(isWritten_of_parse h).1, size_path_of_parse h⟩

theorem IsPathText.of_start (h : IsPathText path) (hstart : start.toList <+: path.toList) :
    IsPathText start :=
  ⟨fun c hc => h.1 c (hstart.subset hc), (Utf8.size_mono hstart).trans h.2⟩

/-- A path asks for itself. -/
theorem parse_of_isPathText (h : IsPathText path) (hslash : path.toList.head? = some '/') :
    Uri.parse path = .ok ⟨none, none, path, none⟩ := by
  have hrender : Resource.render ⟨path.toList, none⟩ = path.toList := List.append_nil _
  have hparse := parse_of_toList (r := ⟨path.toList, none⟩) hrender.symm
    ⟨h.1, by simp⟩ hslash (by rw [hrender]; exact h.2)
  rwa [String.ofList_toList] at hparse

theorem exists_path_eq_iff (hslash : path.toList.head? = some '/') :
    (∃ text u, Uri.parse text = .ok u ∧ u.path = path) ↔ IsPathText path := by
  constructor
  · rintro ⟨text, u, hparse, rfl⟩
    exact isPathText_of_parse hparse
  · intro h
    exact ⟨path, _, parse_of_isPathText h hslash, rfl⟩

theorem isPathText_of_startsWith (h : Uri.parse text = .ok u) (hstart : u.startsWith start = true) :
    IsPathText start :=
  (isPathText_of_parse h).of_start (List.isPrefixOf_iff_prefix.mp hstart)

theorem exists_startsWith_iff (hslash : start.toList.head? = some '/') :
    (∃ text u, Uri.parse text = .ok u ∧ u.startsWith start = true) ↔ IsPathText start := by
  constructor
  · rintro ⟨text, u, hparse, hstart⟩
    exact isPathText_of_startsWith hparse hstart
  · intro h
    refine ⟨start, _, parse_of_isPathText h hslash, ?_⟩
    exact List.isPrefixOf_iff_prefix.mpr List.prefix_rfl

end ScopeGateway.Http.Uri
