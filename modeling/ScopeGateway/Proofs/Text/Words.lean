import Mathlib.Data.List.DropRight
import ScopeGateway.Proofs.Text.Split
import ScopeGateway.Text.Blank

/-!
Words and trimmed text: a blank between two texts keeps their words apart, and blanks at an end
make no word.
-/
namespace ScopeGateway.Text

/-- There is nothing in the text but blanks. -/
def IsBlankText (text : List Char) : Prop := ∀ c ∈ text, isBlank c = true

instance (text : List Char) : Decidable (IsBlankText text) :=
  decidable_of_iff (text.all isBlank = true) List.all_eq_true

theorem trimEnd_eq_rdropWhile (text : List Char) : trimEnd text = text.rdropWhile isBlank := rfl

theorem trim_isEmpty_iff (text : List Char) : (trim text).isEmpty = true ↔ IsBlankText text := by
  rw [List.isEmpty_iff, trim, trimEnd_eq_rdropWhile, List.rdropWhile_eq_nil_iff, trimStart]
  constructor
  · intro h c hc
    rw [← List.takeWhile_append_dropWhile (p := isBlank) (l := text)] at hc
    obtain hc | hc := List.mem_append.mp hc
    · exact List.mem_takeWhile_imp hc
    · exact h c hc
  · intro h c hc
    exact h c ((List.dropWhile_suffix isBlank).subset hc)

/-- The text is its trimmed part with blanks behind it. -/
theorem exists_trimEnd_append (text : List Char) :
    ∃ blanks, IsBlankText blanks ∧ text = trimEnd text ++ blanks := by
  refine ⟨text.rtakeWhile isBlank, fun c hc => List.mem_rtakeWhile_imp hc, ?_⟩
  exact (List.rdropWhile_append_rtakeWhile (p := isBlank) (l := text)).symm

theorem words_append_cons (before after : List Char) {c : Char} (hc : isBlank c = true) :
    words (before ++ c :: after) = words before ++ words after := by
  simp only [words, splitOn_append_cons before after hc, List.filter_append]

theorem words_append_blanks (text : List Char) {blanks : List Char} (h : IsBlankText blanks) :
    words (text ++ blanks) = words text := by
  induction blanks generalizing text with
  | nil => simp
  | cons c rest ih =>
    have hrest : words rest = [] := by
      simpa [words, splitOn] using ih [] fun b hb => h b (List.mem_cons_of_mem _ hb)
    rw [words_append_cons text rest (h c List.mem_cons_self), hrest, List.append_nil]

theorem words_trimEnd (text : List Char) : words (trimEnd text) = words text := by
  obtain ⟨blanks, hb, ht⟩ := exists_trimEnd_append text
  exact (words_append_blanks _ hb).symm.trans (congrArg words ht.symm)

/-- A stretch without blanks does not reach into the blanks at the end. -/
theorem infix_trimEnd {part text : List Char} (h : part <:+: text)
    (hpart : ∀ c ∈ part, isBlank c = false) : part <:+: trimEnd text := by
  obtain ⟨blanks, hblanks, htext⟩ := exists_trimEnd_append text
  have hnil {rest : List Char} (hrest : rest ⊆ blanks) (hsub : rest ⊆ part) : rest = [] := by
    rw [List.eq_nil_iff_forall_not_mem]
    intro c hc
    exact absurd ((hpart c (hsub hc)).symm.trans (hblanks c (hrest hc))) (by decide)
  rw [htext, List.infix_append_iff] at h
  obtain h | h | ⟨before, rest, rfl, hbefore, hrest⟩ := h
  · exact h
  · rw [hnil h.subset (List.Subset.refl _)]
    exact List.nil_infix
  · rw [hnil hrest.subset (List.subset_append_right _ _), List.append_nil]
    exact hbefore.isInfix

theorem trimEnd_append_of_not_isBlank (text : List Char) {word : List Char} (hne : word ≠ [])
    (h : ∀ c ∈ word, isBlank c = false) : trimEnd (text ++ word) = text ++ word := by
  rw [trimEnd_eq_rdropWhile, List.rdropWhile_eq_self_iff]
  intro hlast
  rw [List.getLast_append_of_ne_nil hlast hne, h _ (List.getLast_mem hne)]
  decide

theorem words_eq_singleton {word : List Char} (hne : word ≠ [])
    (h : ∀ c ∈ word, isBlank c = false) : words word = [word] := by
  simp [words, splitOn_eq_singleton h, hne]

theorem ne_nil_of_mem_words {word text : List Char} (h : word ∈ words text) : word ≠ [] := by
  simpa using (List.mem_filter.mp h).2

theorem not_isBlank_of_mem_words {word text : List Char} (h : word ∈ words text) :
    ∀ c ∈ word, isBlank c = false :=
  not_of_mem_splitOn (List.mem_filter.mp h).1

theorem infix_of_mem_words {word text : List Char} (h : word ∈ words text) : word <:+: text :=
  infix_of_mem_splitOn (List.mem_filter.mp h).1

end ScopeGateway.Text
