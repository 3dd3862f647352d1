import ScopeGateway.Proofs.Scope.Amendment
import ScopeGateway.Proofs.Settings.Faults

/-!
Amending twice: a token without blanks is added once, any other token again and again.
-/
namespace ScopeGateway.Grant

open Text

variable {g : Grant} {query amended scope : String}

theorem words_extended (g : Grant) (scope : String) :
    words (g.extended scope).toList = words scope.toList ++ words g.token.toList := by
  rw [extended, String.toList_ofList, words_append_cons _ _ (by decide), words_trimEnd]

theorem words_token (h : isToken g.token = true) : words g.token.toList = [g.token.toList] := by
  obtain ⟨hne, hblank⟩ := isToken_iff.mp h
  exact words_eq_singleton hne hblank

theorem carries_extended (h : isToken g.token = true) (scope : String) :
    g.Carries (g.extended scope) := by
  unfold Carries
  cases g.mode with
  | token =>
    show g.token.toList ∈ words (g.extended scope).toList
    rw [words_extended, words_token h]
    exact List.mem_append_right _ List.mem_cons_self
  | substring =>
    show g.token.toList <:+: (g.extended scope).toList
    rw [extended, String.toList_ofList]
    exact ⟨trimEnd scope.toList ++ [' '], [], by simp⟩

/-- A value that lacks the token does not have it among its words, in either mode. -/
theorem not_mem_words_of_lacks (h : g.Lacks scope) : g.token.toList ∉ words scope.toList := by
  intro hmem
  apply h.2
  unfold Carries
  cases g.mode with
  | token => exact hmem
  | substring => exact infix_of_mem_words hmem

theorem not_mem_words_of_not_isToken (h : isToken g.token = false) (text : List Char) :
    g.token.toList ∉ words text := by
  intro hmem
  rw [isToken_iff.mpr ⟨ne_nil_of_mem_words hmem, not_isBlank_of_mem_words hmem⟩] at h
  cases h

theorem scopeOf?_parse_amended (h : g.amend query = .injected amended) :
    ∃ scope, scopeOf? (Form.parse query) = some scope ∧ g.Lacks scope ∧
      scopeOf? (Form.parse amended) = some (g.extended scope) := by
  obtain ⟨-, scope, hscope, hlacks, rfl⟩ := amend_eq_injected_iff.mp h
  refine ⟨scope, hscope, hlacks, ?_⟩
  rw [Form.parse_render]
  exact scopeOf?_withScope hscope

theorem isLossless_amended (h : g.amend query = .injected amended) :
    Form.isLossless amended = true := by
  obtain ⟨-, scope, -, -, rfl⟩ := amend_eq_injected_iff.mp h
  exact Form.isLossless_render _

theorem amend_amended (h : g.amend query = .injected amended) (htoken : isToken g.token = true) :
    g.amend amended = .unchanged := by
  obtain ⟨scope, -, -, hscope⟩ := scopeOf?_parse_amended h
  rw [amend_eq_unchanged_iff]
  refine ⟨isLossless_amended h, fun scope' hscope' hlacks => ?_⟩
  obtain rfl := Option.some.inj (hscope.symm.trans hscope')
  exact hlacks.2 (carries_extended htoken scope)

theorem amended_ne (h : g.amend query = .injected amended) (htoken : isToken g.token = true) :
    amended ≠ query := by
  rintro rfl
  rw [amend_amended h htoken] at h
  cases h

/-- A token that no value can have among its words is added to a value that has it already. -/
theorem exists_amended_again (htoken : isToken g.token = false) (hmode : g.mode = .token) :
    ∃ query amended again, g.amend query = .injected amended ∧
      g.amend amended = .injected again := by
  have hcarries (scope : String) : ¬g.Carries scope := by
    rw [Carries, hmode]
    exact not_mem_words_of_not_isToken htoken _
  -- so one value will do, whatever the token is: it lacks the token before and after
  have hlacks : g.Lacks "a" := ⟨by decide, hcarries _⟩
  have hagain : g.Lacks (g.extended "a") := by
    refine ⟨fun hblank => ?_, hcarries _⟩
    have ha : 'a' ∈ (g.extended "a").toList := by
      rw [extended, String.toList_ofList]
      exact List.mem_append_left _ (by decide)
    exact absurd (hblank 'a' ha) (by decide)
  have hparse : scopeOf? (Form.parse (Form.render [⟨scopeName, "a"⟩])) = some "a" := by
    rw [Form.parse_render]
    rfl
  have h := amend_eq_injected_iff.mpr ⟨Form.isLossless_render _, "a", hparse, hlacks, rfl⟩
  obtain ⟨scope, hscope, -, hextended⟩ := scopeOf?_parse_amended h
  obtain rfl := Option.some.inj (hparse.symm.trans hscope)
  exact ⟨_, _, _, h, amend_eq_injected_iff.mpr ⟨isLossless_amended h, _, hextended, hagain, rfl⟩⟩

theorem words_amended (h : g.amend query = .injected amended) (htoken : isToken g.token = true) :
    ∃ scope scope', scopeOf? (Form.parse query) = some scope ∧
      scopeOf? (Form.parse amended) = some scope' ∧
      words scope'.toList = words scope.toList ++ [g.token.toList] ∧
      (words scope'.toList).count g.token.toList = 1 := by
  obtain ⟨scope, hscope, hlacks, hscope'⟩ := scopeOf?_parse_amended h
  have hwords := words_extended g scope
  rw [words_token htoken] at hwords
  refine ⟨scope, _, hscope, hscope', hwords, ?_⟩
  rw [hwords, List.count_append, List.count_eq_zero.mpr (not_mem_words_of_lacks hlacks)]
  simp

/-- The tokens that pass validation, those with something in them and no blank, are the ones for
which amending an amended query changes nothing: the amended query is another one, and its first
scope value has the words that were there and the token once, behind them. A token that does not
pass is added again to some query. -/
theorem amend_settles_iff_valid (s : Settings) :
    (.notAToken s.rule.grant.token ∉ s.faults ↔ s.rule.grant.token.toList ≠ [] ∧
      ∀ c ∈ s.rule.grant.token.toList, isBlank c = false) ∧
    (.notAToken s.rule.grant.token ∉ s.faults → ∀ (mode : MatchMode) (query amended : String),
      (⟨s.rule.grant.token, mode⟩ : Grant).amend query = .injected amended →
        amended ≠ query ∧
        (⟨s.rule.grant.token, mode⟩ : Grant).amend amended = .unchanged ∧
        ∃ scope scope', scopeOf? (Form.parse query) = some scope ∧
          scopeOf? (Form.parse amended) = some scope' ∧
          words scope'.toList = words scope.toList ++ [s.rule.grant.token.toList] ∧
          (words scope'.toList).count s.rule.grant.token.toList = 1) ∧
    (.notAToken s.rule.grant.token ∈ s.faults → ∃ query amended again,
      (⟨s.rule.grant.token, .token⟩ : Grant).amend query = .injected amended ∧
      (⟨s.rule.grant.token, .token⟩ : Grant).amend amended = .injected again) := by
  rw [Settings.notAToken_mem_faults_iff, Bool.not_eq_false]
  refine ⟨isToken_iff, fun htoken mode query amended h => ?_,
    fun htoken => exists_amended_again htoken rfl⟩
  have hwords := words_amended h htoken
  exact ⟨amended_ne h htoken, amend_amended h htoken, hwords⟩

/-- With blanks around the words, of which one holds the token as a part. -/
theorem amend_settles_between_blanks :
    .notAToken ({} : Settings).rule.grant.token ∉ ({} : Settings).faults ∧
      ∃ amended, (⟨"groups", .token⟩ : Grant).amend "scope=+a%20mygroups+" = .injected amended ∧
        (⟨"groups", .token⟩ : Grant).amend amended = .unchanged ∧
        ∃ scope, scopeOf? (Form.parse amended) = some scope ∧
          words scope.toList = ["a".toList, "mygroups".toList, "groups".toList] := by
  have hvalid : .notAToken ({} : Settings).rule.grant.token ∉ ({} : Settings).faults := by
    rw [Settings.notAToken_mem_faults_iff]
    decide +kernel
  have hinjected : (⟨"groups", .token⟩ : Grant).amend "scope=+a%20mygroups+" =
      .injected "scope=+a+mygroups+groups" := by
    decide +kernel
  obtain ⟨-, hagain, scope, scope', hscope, hscope', hwords, -⟩ :=
    (amend_settles_iff_valid {}).2.1 hvalid .token _ _ hinjected
  have hraw : scopeOf? (Form.parse "scope=+a%20mygroups+") = some " a mygroups " := by
    decide +kernel
  obtain rfl := Option.some.inj (hscope.symm.trans hraw)
  refine ⟨hvalid, _, hinjected, hagain, scope', hscope', hwords.trans ?_⟩
  decide +kernel

end ScopeGateway.Grant
