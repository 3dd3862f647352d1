import Mathlib.Data.List.Nodup
import ScopeGateway.Proofs.Scope.Idempotence

/-!
One grant after another: a scope value gets each token that it lacks once, in the order of the
grants, and to go over the grants again changes nothing.
-/
namespace ScopeGateway

open Text

/-- A query has been written anew. -/
def Amendment.IsInjected (a : Amendment) : Prop := ∃ amended, a = .injected amended

namespace Grant

variable {g : Grant} {grants : List Grant} {query amended scope : String}

theorem isInjected_amend_iff : (g.amend query).IsInjected ↔ g.Amends query :=
  exists_amend_eq_injected_iff

theorem apply_amend (h : ¬g.Amends query) : (g.amend query).apply query = query := by
  rw [← isInjected_amend_iff] at h
  cases ha : g.amend query with
  | unchanged => rfl
  | unparseable => rfl
  | injected amended => exact absurd ⟨amended, ha⟩ h

/-- What a value carries it carries with another token behind it as well. -/
theorem Carries.extended (h : g.Carries scope) (htoken : isToken g.token = true) (other : Grant) :
    g.Carries (other.extended scope) := by
  unfold Carries at h ⊢
  cases hmode : g.mode with
  | token =>
    simp only [hmode] at h ⊢
    rw [words_extended]
    exact List.mem_append_left _ h
  | substring =>
    simp only [hmode] at h ⊢
    rw [Grant.extended, String.toList_ofList]
    have hinfix := infix_trimEnd h (isToken_iff.mp htoken).2
    exact hinfix.trans (List.prefix_append _ _).isInfix

theorem not_amends_apply (h : ¬g.Amends query) (htoken : isToken g.token = true) (other : Grant) :
    ¬g.Amends ((other.amend query).apply query) := by
  cases hother : other.amend query with
  | unchanged => exact h
  | unparseable => exact h
  | injected amended =>
    obtain ⟨scope, hscope, hlacks, hscope'⟩ := scopeOf?_parse_amended hother
    have hcarries : g.Carries scope := by
      by_contra hno
      exact h ⟨(amend_eq_injected_iff.mp hother).1, scope, hscope, hlacks.1, hno⟩
    rintro ⟨-, scope', hfound, hlacks'⟩
    obtain rfl := Option.some.inj (hscope'.symm.trans hfound)
    exact hlacks'.2 (hcarries.extended htoken other)

theorem not_amends_apply_amend (g : Grant) (htoken : isToken g.token = true) (query : String) :
    ¬g.Amends ((g.amend query).apply query) := by
  by_cases h : g.Amends query
  · obtain ⟨amended, hamend⟩ := isInjected_amend_iff.mpr h
    rw [hamend, Amendment.apply, ← isInjected_amend_iff, amend_amended hamend htoken]
    rintro ⟨again, hagain⟩
    cases hagain
  · rw [apply_amend h]
    exact h

theorem not_amends_amendAll (h : ¬g.Amends query) (htoken : isToken g.token = true) :
    ¬g.Amends (amendAll query grants).2 := by
  induction grants generalizing query with
  | nil => exact h
  | cons other rest ih => exact ih (not_amends_apply h htoken other)

/-- Once all grants have had their turn, none of them has anything to add. -/
theorem not_amends_of_mem (htokens : ∀ g ∈ grants, isToken g.token = true) (hg : g ∈ grants) :
    ¬g.Amends (amendAll query grants).2 := by
  induction grants generalizing query with
  | nil => cases hg
  | cons first rest ih =>
    obtain rfl | hg := List.mem_cons.mp hg
    · have htoken := htokens g List.mem_cons_self
      have hsettled := not_amends_apply_amend g htoken query
      change ¬g.Amends (amendAll ((g.amend query).apply query) rest).2
      exact not_amends_amendAll hsettled htoken
    · exact ih (fun g hg => htokens g (List.mem_cons_of_mem _ hg)) hg

theorem amendAll_of_not_amends (h : ∀ g ∈ grants, ¬g.Amends query) :
    amendAll query grants = (grants.map (·.amend query), query) := by
  induction grants with
  | nil => rfl
  | cons g rest ih =>
    rw [amendAll, apply_amend (h g List.mem_cons_self),
      ih fun g hg => h g (List.mem_cons_of_mem _ hg)]
    rfl

theorem exists_isInjected_iff :
    (∃ a ∈ (amendAll query grants).1, a.IsInjected) ↔ ∃ g ∈ grants, g.Amends query := by
  constructor
  · rintro ⟨a, ha, hinjected⟩
    by_contra hno
    rw [amendAll_of_not_amends fun g hg hamends => hno ⟨g, hg, hamends⟩] at ha
    obtain ⟨g, hg, rfl⟩ := List.mem_map.mp ha
    exact hno ⟨g, hg, isInjected_amend_iff.mp hinjected⟩
  · rintro ⟨g, hg, hamends⟩
    induction grants with
    | nil => cases hg
    | cons first rest ih =>
      by_cases hfirst : first.Amends query
      · exact ⟨_, List.mem_cons_self, isInjected_amend_iff.mpr hfirst⟩
      · -- the query is as it was, and the grant that amends it is still to come
        obtain rfl | hg := List.mem_cons.mp hg
        · exact absurd hamends hfirst
        · obtain ⟨a, ha, hinjected⟩ := ih hg
          rw [amendAll, apply_amend hfirst]
          exact ⟨a, List.mem_cons_of_mem _ ha, hinjected⟩

theorem amendAll_of_not_isLossless (h : Form.isLossless query = false) :
    amendAll query grants = (grants.map fun _ => .unparseable, query) := by
  have hamends (g : Grant) (_ : g ∈ grants) : ¬g.Amends query := fun hg => by
    rw [hg.1] at h
    cases h
  have houtcome (g : Grant) (_ : g ∈ grants) : g.amend query = .unparseable :=
    amend_eq_unparseable_iff.mpr h
  rw [amendAll_of_not_amends hamends, List.map_congr_left houtcome]

theorem nodup_eraseDups (texts : List String) : texts.eraseDups.Nodup := by
  induction texts using List.reverseRecOn with
  | nil => exact List.nodup_nil
  | append_singleton texts t ih =>
    rw [List.eraseDups_append]
    by_cases ht : t ∈ texts
    · simpa [List.removeAll, ht] using ih
    · have hlast : ([t].removeAll texts).eraseDups = [t] := by
        simp [List.removeAll, ht, List.eraseDups_cons]
      rw [hlast, List.nodup_append_comm, List.singleton_append, List.nodup_cons,
        List.mem_eraseDups]
      exact ⟨ht, ih⟩

/-- The tokens that a value does not have among its words, each once, in the order of the grants. -/
def missing (grants : List Grant) (scope : String) : List String :=
  ((grants.map token).filter fun t => t.toList ∉ words scope.toList).eraseDups

/-- The value without the blanks at its end, then the tokens, each behind one blank. -/
def extendedBy (tokens : List String) (scope : String) : String :=
  String.ofList (trimEnd scope.toList ++ tokens.flatMap fun t => ' ' :: t.toList)

/-- The query in which the first scope value has the tokens behind it, and there is no other scope.
Without any token the query is left as it is. -/
def withTokens (tokens : List String) (scope query : String) : String :=
  if tokens = [] then query
  else Form.render (withScope (extendedBy tokens scope) (Form.parse query))

theorem mem_missing {t : String} :
    t ∈ missing grants scope ↔ t ∈ grants.map token ∧ t.toList ∉ words scope.toList := by
  simp [missing]

theorem isToken_of_mem_missing (htokens : ∀ g ∈ grants, isToken g.token = true) {t : String}
    (h : t ∈ missing grants scope) : isToken t = true := by
  obtain ⟨g, hg, rfl⟩ := List.mem_map.mp (mem_missing.mp h).1
  exact htokens g hg

theorem missing_cons_of_mem (h : g.token.toList ∈ words scope.toList) :
    missing (g :: grants) scope = missing grants scope := by
  simp [missing, h]

theorem missing_cons (htoken : isToken g.token = true)
    (h : g.token.toList ∉ words scope.toList) :
    missing (g :: grants) scope = g.token :: missing grants (g.extended scope) := by
  have hlater (t : String) : (!t == g.token && decide (t.toList ∉ words scope.toList)) =
      decide (t.toList ∉ words (g.extended scope).toList) := by
    rw [words_extended, words_token htoken]
    simp [beq_eq_decide, String.toList_inj, and_comm]
  simp only [missing, List.map_cons, List.filter_cons, h, not_false_eq_true, decide_true, if_true,
    List.eraseDups_cons, List.filter_filter, hlater]

theorem perm_missing {others : List Grant} (h : others.Perm grants) :
    (missing others scope).Perm (missing grants scope) := by
  apply (List.perm_ext_iff_of_nodup (nodup_eraseDups _) (nodup_eraseDups _)).mpr
  intro t
  rw [← missing, ← missing, mem_missing, mem_missing, (h.map token).mem_iff]

theorem withScope_withScope (value earlier : String) (params : List Form.Param) :
    withScope value (withScope earlier params) = withScope value params := by
  induction params with
  | nil => rfl
  | cons p rest ih =>
    cases hp : isScope p with
    | false => simp only [withScope, hp, Bool.false_eq_true, if_false, ih]
    | true =>
      have hname : isScope ⟨p.name, earlier⟩ = true := hp
      simp [withScope, hp, hname]

theorem extendedBy_singleton (g : Grant) (scope : String) :
    extendedBy [g.token] scope = g.extended scope := by
  simp [extendedBy, extended]

theorem extendedBy_extended (tokens : List String) (scope : String)
    (htoken : isToken g.token = true) :
    extendedBy tokens (g.extended scope) = extendedBy (g.token :: tokens) scope := by
  obtain ⟨hne, hblank⟩ := isToken_iff.mp htoken
  have htrim : trimEnd (g.extended scope).toList = (g.extended scope).toList := by
    have hend := trimEnd_append_of_not_isBlank (trimEnd scope.toList ++ [' ']) hne hblank
    simpa [extended] using hend
  rw [extendedBy, extendedBy, htrim]
  simp [extended]

/-- Adding a token and then others is adding all of them at once. -/
theorem withTokens_amended (h : g.amend query = .injected amended)
    (hscope : scopeOf? (Form.parse query) = some scope) (htoken : isToken g.token = true)
    (tokens : List String) :
    withTokens tokens (g.extended scope) amended = withTokens (g.token :: tokens) scope query := by
  obtain ⟨-, scope', hscope', -, rfl⟩ := amend_eq_injected_iff.mp h
  obtain rfl := Option.some.inj (hscope.symm.trans hscope')
  cases tokens with
  | nil => simp [withTokens, extendedBy_singleton]
  | cons t rest =>
    simp only [withTokens, List.cons_ne_nil, if_false, Form.parse_render, withScope_withScope,
      extendedBy_extended _ _ htoken]

theorem words_extendedBy {tokens : List String} (htokens : ∀ t ∈ tokens, isToken t = true)
    (scope : String) :
    words (extendedBy tokens scope).toList = words scope.toList ++ tokens.map String.toList := by
  have hwords (text : List Char) : words (text ++ tokens.flatMap fun t => ' ' :: t.toList) =
      words text ++ tokens.map String.toList := by
    induction tokens generalizing text with
    | nil => simp
    | cons t rest ih =>
      obtain ⟨hne, hblank⟩ := isToken_iff.mp (htokens t List.mem_cons_self)
      rw [List.flatMap_cons, List.cons_append, words_append_cons _ _ (by decide),
        ih (fun t ht => htokens t (List.mem_cons_of_mem _ ht)), words_eq_singleton hne hblank]
      rfl
  rw [extendedBy, String.toList_ofList, hwords, words_trimEnd]

theorem amends_iff_of_token (hmode : g.mode = .token) (hl : Form.isLossless query = true)
    (hscope : scopeOf? (Form.parse query) = some scope) (hblank : ¬IsBlankText scope.toList) :
    g.Amends query ↔ g.token.toList ∉ words scope.toList := by
  simp only [Amends, hl, hscope, Option.some.injEq, exists_eq_left', true_and, Lacks, hblank,
    not_false_eq_true, Carries, hmode]

theorem not_isBlankText_extended (h : ¬IsBlankText scope.toList) :
    ¬IsBlankText (g.extended scope).toList := by
  intro hblank
  apply h
  obtain ⟨blanks, hblanks, htext⟩ := exists_trimEnd_append scope.toList
  intro c hc
  rw [htext, List.mem_append] at hc
  obtain hc | hc := hc
  · apply hblank
    rw [extended, String.toList_ofList]
    exact List.mem_append_left _ hc
  · exact hblanks c hc

/-- Where all grants go by words, they come to one amendment with all tokens that are missing. -/
theorem amendAll_eq_withTokens (htokens : ∀ g ∈ grants, isToken g.token = true)
    (hmodes : ∀ g ∈ grants, g.mode = .token) (hl : Form.isLossless query = true)
    (hscope : scopeOf? (Form.parse query) = some scope) (hblank : ¬IsBlankText scope.toList) :
    (amendAll query grants).2 = withTokens (missing grants scope) scope query := by
  -- the induction is on the grants, for every query that still has a first scope with words
  induction grants generalizing query scope with
  | nil => rfl
  | cons g rest ih =>
    have htoken := htokens g List.mem_cons_self
    have htokens' : ∀ g ∈ rest, isToken g.token = true := fun g hg =>
      htokens g (List.mem_cons_of_mem _ hg)
    have hmodes' : ∀ g ∈ rest, g.mode = .token := fun g hg => hmodes g (List.mem_cons_of_mem _ hg)
    have hamends := amends_iff_of_token (hmodes g List.mem_cons_self) hl hscope hblank
    by_cases hmem : g.token.toList ∈ words scope.toList
    · have hquery : (g.amend query).apply query = query :=
        apply_amend fun h => hamends.mp h hmem
      rw [amendAll, missing_cons_of_mem hmem, hquery]
      exact ih htokens' hmodes' hl hscope hblank
    · obtain ⟨amended, hinjected⟩ := isInjected_amend_iff.mpr (hamends.mpr hmem)
      obtain ⟨scope', hscope', -, hlater⟩ := scopeOf?_parse_amended hinjected
      obtain rfl := Option.some.inj (hscope.symm.trans hscope')
      rw [amendAll, missing_cons htoken hmem, ← withTokens_amended hinjected hscope htoken,
        hinjected]
      exact ih htokens' hmodes' (isLossless_amended hinjected) hlater
        (not_isBlankText_extended hblank)

theorem exists_isInjected_iff_missing (hmodes : ∀ g ∈ grants, g.mode = .token)
    (hl : Form.isLossless query = true) (hscope : scopeOf? (Form.parse query) = some scope)
    (hblank : ¬IsBlankText scope.toList) :
    (∃ a ∈ (amendAll query grants).1, a.IsInjected) ↔ missing grants scope ≠ [] := by
  rw [exists_isInjected_iff, Ne, List.eq_nil_iff_forall_not_mem, not_forall]
  simp only [not_not, mem_missing, List.mem_map]
  constructor
  · rintro ⟨g, hg, hamends⟩
    exact ⟨g.token, ⟨g, hg, rfl⟩,
      (amends_iff_of_token (hmodes g hg) hl hscope hblank).mp hamends⟩
  · rintro ⟨t, ⟨g, hg, rfl⟩, hmem⟩
    exact ⟨g, hg, (amends_iff_of_token (hmodes g hg) hl hscope hblank).mpr hmem⟩

theorem exists_scope_withTokens {tokens : List String} (htokens : ∀ t ∈ tokens, isToken t = true)
    (hscope : scopeOf? (Form.parse query) = some scope) :
    ∃ last, scopeOf? (Form.parse (withTokens tokens scope query)) = some last ∧
      words last.toList = words scope.toList ++ tokens.map String.toList := by
  by_cases hnil : tokens = []
  · rw [withTokens, if_pos hnil, hnil]
    exact ⟨scope, hscope, (List.append_nil _).symm⟩
  · rw [withTokens, if_neg hnil, Form.parse_render]
    exact ⟨_, scopeOf?_withScope hscope, words_extendedBy htokens scope⟩

/-- Whatever the modes are, going over valid grants again changes nothing, and neither does a first
time in which nothing is injected. Where all grants go by words, the first scope value gets the
tokens that it lacks, each once and in the order of the grants, by one single amendment of the
query, so that another order of the grants is another order of these tokens and nothing else. A
query that does not decode without loss is left alone by every grant. -/
theorem amendAll_closed_form (grants : List Grant) (query : String)
    (h : ∀ g ∈ grants, ∃ s : Settings, s.check = .ok () ∧ s.rule.grant.token = g.token) :
    (amendAll (amendAll query grants).2 grants).2 = (amendAll query grants).2 ∧
    (∀ a ∈ (amendAll (amendAll query grants).2 grants).1, ¬a.IsInjected) ∧
    ((∀ a ∈ (amendAll query grants).1, ¬a.IsInjected) → (amendAll query grants).2 = query) ∧
    (∀ scope, (∀ g ∈ grants, g.mode = .token) → Form.isLossless query = true →
      scopeOf? (Form.parse query) = some scope → ¬IsBlankText scope.toList →
      (∃ last, scopeOf? (Form.parse (amendAll query grants).2) = some last ∧
        words last.toList = words scope.toList ++ (missing grants scope).map String.toList) ∧
      ((∃ a ∈ (amendAll query grants).1, a.IsInjected) ↔ missing grants scope ≠ []) ∧
      (amendAll query grants).2 = withTokens (missing grants scope) scope query ∧
      ∀ others, others.Perm grants → ∃ tokens, tokens.Perm (missing grants scope) ∧
        (amendAll query others).2 = withTokens tokens scope query) ∧
    (Form.isLossless query = false →
      amendAll query grants = (grants.map fun _ => .unparseable, query)) := by
  have htokens : ∀ g ∈ grants, isToken g.token = true := fun g hg =>
    Settings.exists_check_iff.mp (h g hg)
  have hsettled : ∀ g ∈ grants, ¬g.Amends (amendAll query grants).2 := fun g hg =>
    not_amends_of_mem htokens hg
  have hagain := amendAll_of_not_amends hsettled
  refine ⟨by rw [hagain], fun a ha hinjected => ?_, fun hnone => ?_, ?_,
    amendAll_of_not_isLossless⟩
  · obtain ⟨g, hg, hamends⟩ := exists_isInjected_iff.mp ⟨a, ha, hinjected⟩
    exact hsettled g hg hamends
  · rw [amendAll_of_not_amends]
    intro g hg hamends
    obtain ⟨a, ha, hinjected⟩ := exists_isInjected_iff.mpr ⟨g, hg, hamends⟩
    exact hnone a ha hinjected
  · intro scope hmodes hl hscope hblank
    have hlast := amendAll_eq_withTokens htokens hmodes hl hscope hblank
    have hsome := exists_isInjected_iff_missing hmodes hl hscope hblank
    refine ⟨?_, hsome, hlast, fun others hperm => ⟨missing others scope, perm_missing hperm, ?_⟩⟩
    · rw [hlast]
      exact exists_scope_withTokens (fun t ht => isToken_of_mem_missing htokens ht) hscope
    · refine amendAll_eq_withTokens ?_ ?_ hl hscope hblank
      · exact fun g hg => htokens g (hperm.subset hg)
      · exact fun g hg => hmodes g (hperm.subset hg)

/-- Two tokens of four are missing, where one is there already and one comes twice. -/
theorem amendAll_two_of_four :
    ∃ grants : List Grant, grants.map token = ["b", "a", "c", "b"] ∧
      (∀ g ∈ grants, ∃ s : Settings, s.check = .ok () ∧ s.rule.grant.token = g.token) ∧
      (amendAll "x=%2f&scope=a+z+&scope=y" grants).2 = "x=%2F&scope=a+z+b+c" ∧
      (amendAll "x=%2F&scope=a+z+b+c" grants).2 = "x=%2F&scope=a+z+b+c" ∧
      ∃ tokens, tokens.Perm ["b", "c"] ∧ (amendAll "x=%2f&scope=a+z+&scope=y" grants.reverse).2 =
        withTokens tokens "a z " "x=%2f&scope=a+z+&scope=y" := by
  let grants : List Grant := [⟨"b", .token⟩, ⟨"a", .token⟩, ⟨"c", .token⟩, ⟨"b", .token⟩]
  have hvalid : ∀ g ∈ grants, ∃ s : Settings, s.check = .ok () ∧ s.rule.grant.token = g.token := by
    have htokens : ∀ g ∈ grants, isToken g.token = true := by decide
    exact fun g hg => Settings.exists_check_iff.mpr (htokens g hg)
  have hmissing : missing grants "a z " = ["b", "c"] := by decide
  obtain ⟨hagain, -, -, hwords, -⟩ := amendAll_closed_form grants "x=%2f&scope=a+z+&scope=y" hvalid
  obtain ⟨-, -, hlast, hothers⟩ := hwords "a z " (by decide) (by decide +kernel) (by decide +kernel)
    (by decide)
  have hquery :
      withTokens ["b", "c"] "a z " "x=%2f&scope=a+z+&scope=y" = "x=%2F&scope=a+z+b+c" := by
    decide +kernel
  rw [hmissing, hquery] at hlast
  rw [hlast] at hagain
  obtain ⟨tokens, hperm, hreverse⟩ := hothers grants.reverse (List.reverse_perm grants)
  rw [hmissing] at hperm
  exact ⟨grants, rfl, hvalid, hlast, hagain, tokens, hperm, hreverse⟩

end Grant

end ScopeGateway
