import ScopeGateway.Proofs.Scope.Amendment

/-!
Two grants of one token side by side. The one that sees the token in more values injects less, and
where it injects, both do the same.
-/
namespace ScopeGateway.Grant

open Text

/-- Both grants add the same token, and `g` sees it in every value where `g'` does. -/
structure Refines (g g' : Grant) : Prop where
  token_eq : g.token = g'.token
  carries : ∀ scope, g'.Carries scope → g.Carries scope

variable {g g' : Grant} {query amended scope : String}

/-- Whether a query is clean does not depend on the grant. -/
theorem amend_eq_unparseable_congr (g g' : Grant) :
    g.amend query = .unparseable ↔ g'.amend query = .unparseable := by
  rw [amend_eq_unparseable_iff, amend_eq_unparseable_iff]

namespace Refines

theorem extended_eq (h : g.Refines g') (scope : String) : g.extended scope = g'.extended scope := by
  rw [extended, extended, h.token_eq]

theorem lacks (h : g.Refines g') (hlacks : g.Lacks scope) : g'.Lacks scope :=
  ⟨hlacks.1, fun hcarries => hlacks.2 (h.carries scope hcarries)⟩

/-- A value that only one of the two grants extends is one in which only the other sees the
token. -/
theorem lacks_and_not_lacks_iff (h : g.Refines g') :
    g'.Lacks scope ∧ ¬g.Lacks scope ↔
      ¬IsBlankText scope.toList ∧ g.Carries scope ∧ ¬g'.Carries scope := by
  have hcarries := h.carries scope
  unfold Lacks
  tauto

theorem amend_eq_injected (h : g.Refines g') (hamend : g.amend query = .injected amended) :
    g'.amend query = .injected amended := by
  obtain ⟨hclean, scope, hscope, hlacks, rfl⟩ := amend_eq_injected_iff.mp hamend
  rw [h.extended_eq]
  exact amend_eq_injected_iff.mpr ⟨hclean, scope, hscope, h.lacks hlacks, rfl⟩

/-- The two grants agree on a query, or one of them leaves it as it is and the other injects. -/
theorem amend_cases (h : g.Refines g') (query : String) :
    g.amend query = g'.amend query ∨
      g.amend query = .unchanged ∧ ∃ amended, g'.amend query = .injected amended := by
  cases hg : g.amend query with
  | unparseable => exact .inl ((amend_eq_unparseable_congr g g').mp hg).symm
  | injected amended => exact .inl (h.amend_eq_injected hg).symm
  | unchanged =>
    cases hg' : g'.amend query with
    | unparseable => cases hg.symm.trans ((amend_eq_unparseable_congr g g').mpr hg')
    | injected amended => exact .inr ⟨rfl, amended, rfl⟩
    | unchanged => exact .inl rfl

theorem amend_ne_iff (h : g.Refines g') :
    g.amend query ≠ g'.amend query ↔
      g.amend query = .unchanged ∧ ∃ amended, g'.amend query = .injected amended := by
  constructor
  · exact (h.amend_cases query).resolve_left
  · rintro ⟨hg, amended, hg'⟩ heq
    cases hg.symm.trans (heq.trans hg')

/-- One grant leaves a query as it is and the other injects where they differ about its first scope
value. -/
theorem unchanged_and_injected_iff (h : g.Refines g') :
    (g.amend query = .unchanged ∧ ∃ amended, g'.amend query = .injected amended) ↔
      Form.isLossless query = true ∧ ∃ scope, scopeOf? (Form.parse query) = some scope ∧
        ¬IsBlankText scope.toList ∧ g.Carries scope ∧ ¬g'.Carries scope := by
  simp only [← h.lacks_and_not_lacks_iff, exists_amend_eq_injected_iff, amend_eq_unchanged_iff,
    Amends]
  constructor
  · rintro ⟨⟨-, hkept⟩, hclean, scope, hscope, hlacks⟩
    exact ⟨hclean, scope, hscope, hlacks, hkept scope hscope⟩
  · rintro ⟨hclean, scope, hscope, hlacks, hkept⟩
    refine ⟨⟨hclean, fun scope' hscope' => ?_⟩, hclean, scope, hscope, hlacks⟩
    obtain rfl := Option.some.inj (hscope.symm.trans hscope')
    exact hkept

end Refines

/-- A token that is a word of a value stands somewhere in it. -/
theorem refines_of_modes (token : String) :
    (⟨token, .substring⟩ : Grant).Refines ⟨token, .token⟩ where
  token_eq := rfl
  carries _ := infix_of_mem_words

/-- Searching for the token anywhere in a value is weaker than searching for it among the words, for
every token, also for none and for one with blanks in it. The same queries are unparseable; what
the weaker search injects is what the stronger one injects; and they differ where the first scope
value has the token in it but not as a word. There the stronger search injects, and the weaker one
leaves the query as it is. -/
theorem substring_mode_refines_token_mode (token query : String) :
    ((⟨token, .substring⟩ : Grant).amend query = .unparseable ↔
      (⟨token, .token⟩ : Grant).amend query = .unparseable) ∧
    (∀ amended, (⟨token, .substring⟩ : Grant).amend query = .injected amended →
      (⟨token, .token⟩ : Grant).amend query = .injected amended) ∧
    ((⟨token, .substring⟩ : Grant).amend query ≠ (⟨token, .token⟩ : Grant).amend query ↔
      (⟨token, .token⟩ : Grant).amend query ≠ .unparseable ∧
      ∃ scope, scopeOf? (Form.parse query) = some scope ∧ ¬IsBlankText scope.toList ∧
        token.toList <:+: scope.toList ∧ token.toList ∉ words scope.toList) ∧
    ((⟨token, .substring⟩ : Grant).amend query ≠ (⟨token, .token⟩ : Grant).amend query →
      (⟨token, .substring⟩ : Grant).amend query = .unchanged ∧
      ∃ amended, (⟨token, .token⟩ : Grant).amend query = .injected amended) := by
  have hrefines := refines_of_modes token
  refine ⟨amend_eq_unparseable_congr _ _, fun amended => hrefines.amend_eq_injected, ?_,
    hrefines.amend_ne_iff.mp⟩
  rw [hrefines.amend_ne_iff, hrefines.unchanged_and_injected_iff, Ne, amend_eq_unparseable_iff,
    Bool.not_eq_false]
  rfl

/-- A longer word and a second scope: only the search among the words injects. -/
theorem modes_differ_on_longer_word :
    (⟨"groups", .substring⟩ : Grant).amend "scope=openid+mygroups&scope=groups" ≠
      (⟨"groups", .token⟩ : Grant).amend "scope=openid+mygroups&scope=groups" ∧
    (⟨"groups", .substring⟩ : Grant).amend "scope=openid+mygroups&scope=groups" = .unchanged ∧
    (⟨"groups", .token⟩ : Grant).amend "scope=openid+mygroups&scope=groups" =
      .injected "scope=openid+mygroups+groups" := by
  obtain ⟨-, -, hdiffer, hthere⟩ :=
    substring_mode_refines_token_mode "groups" "scope=openid+mygroups&scope=groups"
  have hne := hdiffer.mpr ⟨by decide +kernel, "openid mygroups", by decide +kernel,
    by decide +kernel, by decide +kernel, by decide +kernel⟩
  exact ⟨hne, (hthere hne).1, by decide +kernel⟩

end ScopeGateway.Grant
