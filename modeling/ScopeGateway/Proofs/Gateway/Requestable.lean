import ScopeGateway.Proofs.Gateway.Routing
import ScopeGateway.Proofs.Http.PathText
import ScopeGateway.Proofs.Settings.Conditions

/-!
Which of the paths in the settings can be asked for. A health path with characters that no path
has is accepted, and so is the start of the authorization paths, but no request ever has such a
path.
-/
namespace ScopeGateway

open Http Text

namespace Grant

variable {g : Grant}

/-- A scope value of one letter that is not the token. -/
def otherWord (g : Grant) : String := if g.token = "a" then "b" else "a"

theorem otherWord_cases (g : Grant) :
    g.otherWord = "a" ∧ g.token ≠ "a" ∨ g.otherWord = "b" ∧ g.token = "a" := by
  unfold otherWord
  split_ifs with h
  · exact .inr ⟨rfl, h⟩
  · exact .inl ⟨rfl, h⟩

theorem otherWord_ne (g : Grant) : g.token ≠ g.otherWord := by
  obtain ⟨hword, htoken⟩ | ⟨hword, htoken⟩ := g.otherWord_cases
  · rwa [hword]
  · rw [hword, htoken]
    decide

theorem lacks_otherWord (h : isToken g.token = true) : g.Lacks g.otherWord := by
  obtain ⟨c, hc, hblank⟩ : ∃ c, g.otherWord.toList = [c] ∧ isBlank c = false := by
    obtain ⟨hword, -⟩ | ⟨hword, -⟩ := g.otherWord_cases <;> rw [hword]
    · exact ⟨'a', rfl, rfl⟩
    · exact ⟨'b', rfl, rfl⟩
  have hne : g.token.toList ≠ [c] := by
    rw [← hc, Ne, String.toList_inj]
    exact g.otherWord_ne
  have hword : ∀ d ∈ [c], isBlank d = false := by
    simpa using hblank
  refine ⟨fun hblanks => ?_, fun hcarries => hne ?_⟩
  · exact absurd (hblank.symm.trans (hblanks c (by rw [hc]; exact List.mem_cons_self))) (by decide)
  · unfold Carries at hcarries
    rw [hc] at hcarries
    cases hmode : g.mode with
    | token =>
      rw [hmode, words_eq_singleton (List.cons_ne_nil c []) hword] at hcarries
      exact List.mem_singleton.mp hcarries
    | substring =>
      -- a stretch of one letter is that letter, for a token is not empty
      rw [hmode] at hcarries
      have hlength := List.length_pos_iff.mpr (isToken_iff.mp h).1
      exact hcarries.eq_of_length_le hlength

/-- A short query that the grant amends. -/
def shortQuery (g : Grant) : String := Form.render [⟨scopeName, g.otherWord⟩]

theorem amends_shortQuery (h : isToken g.token = true) : g.Amends g.shortQuery := by
  refine ⟨Form.isLossless_render _, g.otherWord, ?_, lacks_otherWord h⟩
  rw [shortQuery, Form.parse_render]
  rfl

theorem size_shortQuery (g : Grant) : Utf8.size g.shortQuery.toList = 7 := by
  unfold shortQuery
  obtain ⟨hword, -⟩ | ⟨hword, -⟩ := g.otherWord_cases <;> rw [hword] <;> decide +kernel

end Grant

namespace Rule

variable {r : Rule}

/-- Where a path that the rule is for leaves room for a query, there is one that is amended. -/
theorem exists_amended (htoken : isToken r.grant.token = true)
    (hslash : r.pathStart.toList.head? = some '/') (hpath : Uri.IsPathText r.pathStart)
    (hroom : Utf8.size r.pathStart.toList + 8 ≤ Uri.maxSize) :
    ∃ text u amended, Uri.parse text = .ok u ∧ r.amend u = .injected amended := by
  have hparse : Uri.parse (Uri.mk none none r.pathStart (some r.grant.shortQuery)).render =
      .ok ⟨none, none, r.pathStart, some r.grant.shortQuery⟩ := by
    refine Uri.parse_render ⟨hpath.1, fun q hq c hc => ?_⟩ hslash ?_
    · obtain rfl := Option.some.inj hq
      exact isQueryChar_of_mem_render hc
    · have hmark : Utf8.charSize '?' = 1 := by decide
      rw [Option.map_some, Uri.Resource.render, Utf8.size_append, Option.elim_some,
        Utf8.size_cons, hmark, Grant.size_shortQuery]
      exact hroom
  obtain ⟨amended, hamended⟩ :=
    Grant.exists_amend_eq_injected_iff.mpr (Grant.amends_shortQuery htoken)
  exact ⟨_, _, amended, hparse,
    amend_eq_injected_iff.mpr ⟨List.prefix_rfl, _, rfl, hamended⟩⟩

theorem amend_eq_unchanged_of_not_isPathText (h : ¬Uri.IsPathText r.pathStart) {text : String}
    {u : Uri} (hparse : Uri.parse text = .ok u) : r.amend u = .unchanged := by
  have hstart : ¬u.startsWith r.pathStart = true := fun hstart =>
    h (Uri.isPathText_of_startsWith hparse hstart)
  rw [amend, if_neg hstart]

end Rule

namespace Gateway

variable {g : Gateway}

theorem route_eq_health_iff {u : Uri} : g.route u = .health ↔ u.path = g.healthPath := by
  unfold route
  split_ifs with hhealth hslash <;> simp [hhealth]

/-- With a health path that no request has, a target of that very text goes to the backend. -/
theorem handle_of_not_isPathText (h : ¬Uri.IsPathText g.healthPath)
    (hslash : g.healthPath.toList.head? = some '/') {e : Exchange}
    (hparse : Uri.parse g.healthPath = .ok e.request.uri) : g.handle e = g.forward e := by
  have hhealth : e.request.uri.path ≠ g.healthPath := fun heq =>
    h (heq ▸ Uri.isPathText_of_parse hparse)
  obtain ⟨hpath, -⟩ | ⟨htext, -⟩ | ⟨hno, -⟩ := Uri.forms_of_parse hparse
  · exact handle_of_path hhealth hpath
  · rw [htext] at hslash
    exact absurd hslash (by decide)
  · exact absurd hslash hno

/-- Some request has the health path of accepted settings where that is a text of characters that
a path may have, and not too long. Requests for it are then answered by the gateway itself.
Otherwise no request is, and one whose target is that text goes to the backend. In the same way
some request has a path with the start that the rule names, and with room for a query there is one
that is amended; otherwise no query ever is. -/
theorem requestable_iff_path_text (s : Settings) (h : s.check = .ok ()) :
    ∃ g, Gateway.ofSettings s = .ok g ∧
      ((∃ text u, Uri.parse text = .ok u ∧ u.path = s.healthPath) ↔
        Uri.IsPathText s.healthPath) ∧
      (Uri.IsPathText s.healthPath →
        Uri.parse s.healthPath = .ok ⟨none, none, s.healthPath, none⟩ ∧
        ∀ e : Exchange, e.request.uri.path = s.healthPath →
          g.handle e = { answer := .ofResponse e.request.method (.plain 200 "OK") }) ∧
      (¬Uri.IsPathText s.healthPath →
        (∀ text u, Uri.parse text = .ok u → g.route u ≠ .health) ∧
        ∀ e : Exchange, Uri.parse s.healthPath = .ok e.request.uri →
          g.handle e = g.forward e) ∧
      ((∃ text u, Uri.parse text = .ok u ∧ u.startsWith s.rule.pathStart = true) ↔
        Uri.IsPathText s.rule.pathStart) ∧
      (Uri.IsPathText s.rule.pathStart → Utf8.size s.rule.pathStart.toList + 8 ≤ Uri.maxSize →
        ∃ text u amended, Uri.parse text = .ok u ∧ s.rule.amend u = .injected amended) ∧
      (¬Uri.IsPathText s.rule.pathStart →
        ∀ text u, Uri.parse text = .ok u → s.rule.amend u = .unchanged) := by
  obtain ⟨b, -, hg⟩ := exists_ofSettings h
  have hsound := Settings.isSound_iff_faults.mpr (Settings.check_eq_ok_iff.mp h)
  have htoken : isToken s.rule.grant.token = true :=
    isToken_iff.mpr ⟨mt String.toList_eq_nil_iff.mp hsound.token.1, hsound.token.2⟩
  refine ⟨_, hg, Uri.exists_path_eq_iff hsound.healthPath, fun hpath => ⟨?_, ?_⟩,
    fun hpath => ⟨?_, ?_⟩, Uri.exists_startsWith_iff hsound.pathStart, ?_, ?_⟩
  · exact Uri.parse_of_isPathText hpath hsound.healthPath
  · exact fun e he => handle_of_health he
  · intro text u hparse hroute
    have hhealth : u.path = s.healthPath := route_eq_health_iff.mp hroute
    exact hpath (hhealth ▸ Uri.isPathText_of_parse hparse)
  · exact fun e he => handle_of_not_isPathText hpath hsound.healthPath he
  · exact Rule.exists_amended htoken hsound.pathStart
  · exact fun hpath text u hparse => Rule.amend_eq_unchanged_of_not_isPathText hpath hparse

/-- Settings with a query in the health path. -/
def queriedSettings : Settings :=
  { backendUrl := "http://[::1]:9091", healthPath := "/live?x" }

theorem check_queried : queriedSettings.check = .ok () :=
  Settings.check_eq_ok_iff.mpr (by decide +kernel)

theorem not_isPathText_queried : ¬Uri.IsPathText queriedSettings.healthPath := by
  decide +kernel

/-- Whoever asks for what is named as the health path is sent on to the backend, while there are
queries that are amended. -/
theorem requests_of_queriedSettings :
    ∃ g, Gateway.ofSettings queriedSettings = .ok g ∧
      (∀ (peer : Net.IpAddress) (contact : Contact),
        g.handle ⟨{ bareRequest with uri := ⟨none, none, "/live", some "x"⟩ }, peer, contact, [],
            false⟩ =
          g.forward ⟨{ bareRequest with uri := ⟨none, none, "/live", some "x"⟩ }, peer, contact, [],
            false⟩) ∧
      ∃ text u amended, Uri.parse text = .ok u ∧
        queriedSettings.rule.amend u = .injected amended := by
  obtain ⟨g, hg, -, -, hlive, -, hamends, -⟩ := requestable_iff_path_text _ check_queried
  have hparse : Uri.parse queriedSettings.healthPath = .ok ⟨none, none, "/live", some "x"⟩ := by
    decide +kernel
  exact ⟨g, hg, fun peer contact => (hlive not_isPathText_queried).2 _ hparse,
    hamends (by decide +kernel) (by decide +kernel)⟩

/-- Settings are accepted although no request can have their health path, and although none can
have a path that the rule is for. -/
theorem not_always_requestable :
    (¬∀ s : Settings, s.check = .ok () →
      ∃ text u, Uri.parse text = .ok u ∧ u.path = s.healthPath) ∧
    ¬∀ s : Settings, s.check = .ok () →
      ∃ text u, Uri.parse text = .ok u ∧ u.startsWith s.rule.pathStart = true := by
  constructor
  · intro hrequestable
    obtain ⟨text, u, hparse, hpath⟩ := hrequestable _ check_queried
    exact not_isPathText_queried (hpath ▸ Uri.isPathText_of_parse hparse)
  · intro hrequestable
    let s : Settings :=
      { backendUrl := "http://[::1]:9091", rule := ⟨"/api#", ⟨"groups", .token⟩⟩ }
    have hs : s.check = .ok () := Settings.check_eq_ok_iff.mpr (by decide +kernel)
    obtain ⟨text, u, hparse, hstart⟩ := hrequestable s hs
    exact absurd (Uri.isPathText_of_startsWith hparse hstart) (by decide +kernel)

end Gateway

end ScopeGateway
