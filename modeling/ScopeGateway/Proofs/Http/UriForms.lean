import ScopeGateway.Proofs.Http.Uri

/-!
The forms of a request's target: a path, an absolute address, an asterisk, or an authority alone.
Only the first two have a path that starts with a slash.
-/
namespace ScopeGateway.Http.Uri

open Text

variable {text : String} {u : Uri}

/-- The path begins as the text does, unless the query or the fragment does so. -/
theorem Resource.head?_path_of_parse {text : List Char} {r : Resource}
    (h : Resource.parse text = .ok r) :
    r.path.head? = text.head?.filter fun c => c != '#' && c != '?' := by
  obtain ⟨-, -, -, rfl⟩ := Resource.parse_eq_ok_iff.mp h
  rw [Resource.ofText, head?_cut, head?_cut, Option.filter_filter]
  rfl

/-- What follows an authority is a path, or stands for a single slash. -/
theorem head?_pathOrSlash_of_parse {rest : List Char} {r : Resource}
    (h : Resource.parse (rest.dropWhile (!endsAuthority ·)) = .ok r) :
    (if r.path.isEmpty then "/" else String.ofList r.path).toList.head? = some '/' := by
  have hhead := Resource.head?_path_of_parse h
  split
  · decide
  · rename_i hne
    rw [String.toList_ofList]
    cases hpath : r.path with
    | nil => exact absurd (List.isEmpty_iff.mpr hpath) hne
    | cons c path =>
      rw [hpath, List.head?_cons] at hhead
      obtain ⟨hfirst, hc⟩ := Option.filter_eq_some_iff.mp hhead.symm
      have hends := List.head?_dropWhile_not (!endsAuthority ·) rest
      rw [hfirst] at hends
      simp only [Bool.not_eq_false', endsAuthority, Bool.or_eq_true, beq_iff_eq] at hends
      simp only [Bool.and_eq_true, bne_iff_ne] at hc
      obtain (rfl | rfl) | rfl := hends
      · rfl
      · exact absurd rfl hc.2
      · exact absurd rfl hc.1

theorem splitScheme_eq_none {cs rest : List Char} (h : splitScheme cs = .ok (none, rest)) :
    rest = cs := by
  unfold splitScheme at h
  simp only at h
  split at h
  · cases h
  · split at h
    · cases h
    · split at h
      · split at h <;> cases h
      · exact (Prod.mk.inj (Except.ok.inj h)).2.symm

/-- An absolute address has a path, if only a slash, and an authority alone has none. -/
theorem path_of_parseAbsolute {cs : List Char} (h : parseAbsolute cs = .ok u) :
    (u.path.toList.head? = some '/' ∧ u.scheme.isSome) ∨
      u = ⟨none, some (String.ofList cs), "", none⟩ := by
  unfold parseAbsolute at h
  obtain ⟨⟨scheme, rest⟩, hscheme, h⟩ := bind_eq_ok_iff.mp h
  obtain ⟨-, -, h⟩ := bind_eq_ok_iff.mp h
  cases scheme with
  | none =>
    right
    simp only at h
    split_ifs at h with hafter
    obtain rfl := Except.ok.inj h
    have hall : rest.takeWhile (!endsAuthority ·) = rest := by
      have hparts := List.takeWhile_append_dropWhile (p := (!endsAuthority ·)) (l := rest)
      rwa [List.isEmpty_iff.mp hafter, List.append_nil] at hparts
    rw [hall, splitScheme_eq_none hscheme]
  | some scheme =>
    left
    simp only at h
    split_ifs at h
    · cases h
    · obtain ⟨r, hr, h⟩ := bind_eq_ok_iff.mp h
      obtain rfl := Except.ok.inj h
      exact ⟨head?_pathOrSlash_of_parse hr, rfl⟩

theorem forms_of_parse (h : Uri.parse text = .ok u) :
    (u.path.toList.head? = some '/' ∧ (text.toList.head? = some '/' ∨ u.scheme.isSome)) ∨
      (text = "*" ∧ u = ⟨none, none, "*", none⟩) ∨
      (text.toList.head? ≠ some '/' ∧ u = ⟨none, some text, "", none⟩) := by
  unfold Uri.parse at h
  simp only at h
  split at h
  · cases h
  split at h
  · cases h
  · rename_i htext
    refine .inr (.inl ⟨?_, (Except.ok.inj h).symm⟩)
    rw [← String.toList_inj, htext]
    rfl
  · rename_i rest htext
    obtain ⟨r, hr, h⟩ := bind_eq_ok_iff.mp h
    obtain rfl := Except.ok.inj h
    have hhead := Resource.head?_path_of_parse hr
    rw [htext, List.head?_cons] at hhead
    left
    rw [String.toList_ofList, hhead, htext]
    exact ⟨rfl, .inl rfl⟩
  · rename_i c _ hslash htext
    split_ifs at h
    obtain rfl := Except.ok.inj h
    refine .inr (.inr ⟨?_, rfl⟩)
    rw [htext, List.head?_cons, Ne, Option.some.injEq]
    exact hslash
  · rename_i hnil hstar hslash hsingle
    obtain ⟨hpath, hscheme⟩ | rfl := path_of_parseAbsolute h
    · exact .inl ⟨hpath, .inr hscheme⟩
    · refine .inr (.inr ⟨?_, by rw [String.ofList_toList]⟩)
      intro hhead
      obtain ⟨rest, htext⟩ := List.head?_eq_some_iff.mp hhead
      exact hslash rest htext

end ScopeGateway.Http.Uri
