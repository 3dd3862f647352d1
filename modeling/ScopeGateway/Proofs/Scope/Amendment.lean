import ScopeGateway.Proofs.Form.Params
import ScopeGateway.Proofs.Text.Words
import ScopeGateway.Scope.Grant

/-!
What an amendment does to the parameters of a query: the first scope value gets the token, later
scope parameters go, and nothing else changes.
-/
namespace ScopeGateway.Grant

open Text

/-- The value of the first scope parameter. -/
def scopeOf? (params : List Form.Param) : Option String :=
  (params.find? isScope).map Form.Param.value

/-- The value holds the token: as one of its words, or anywhere in it. -/
def Carries (g : Grant) (scope : String) : Prop :=
  match g.mode with
  | .token => g.token.toList ∈ words scope.toList
  | .substring => g.token.toList <:+: scope.toList

/-- There is something in the value, and the token is not. -/
def Lacks (g : Grant) (scope : String) : Prop :=
  ¬IsBlankText scope.toList ∧ ¬g.Carries scope

/-- The value without the blanks at its end, then one blank and the token. -/
def extended (g : Grant) (scope : String) : String :=
  String.ofList (trimEnd scope.toList ++ ' ' :: g.token.toList)

/-- The query decodes without loss, and its first scope value lacks the token. -/
def Amends (g : Grant) (query : String) : Prop :=
  Form.isLossless query = true ∧ ∃ scope, scopeOf? (Form.parse query) = some scope ∧ g.Lacks scope

variable {g : Grant} {query amended scope : String}

theorem isScope_eq (p : Form.Param) : isScope p = decide (p.name = scopeName) :=
  beq_eq_decide p.name scopeName

theorem carriedBy_iff : g.carriedBy scope = true ↔ g.Carries scope := by
  unfold carriedBy Carries
  cases g.mode with
  | token => exact List.contains_iff_mem
  | substring => exact hasInfix_iff

theorem extend?_eq_some (h : g.Lacks scope) : g.extend? scope = some (g.extended scope) := by
  obtain ⟨hblank, hcarries⟩ := h
  rw [← trim_isEmpty_iff] at hblank
  rw [← carriedBy_iff] at hcarries
  simp [extend?, hblank, hcarries, extended]

theorem extend?_eq_none (h : ¬g.Lacks scope) : g.extend? scope = none := by
  rw [Lacks, ← trim_isEmpty_iff, ← carriedBy_iff] at h
  simp only [extend?, ite_eq_left_iff, Bool.or_eq_true]
  tauto

/-- The three outcomes of an amendment, each with all that leads to it. -/
theorem amend_cases (g : Grant) (query : String) :
    Form.isLossless query = false ∧ g.amend query = .unparseable ∨
    Form.isLossless query = true ∧ g.amend query = .unchanged ∧
      (∀ scope, scopeOf? (Form.parse query) = some scope → ¬g.Lacks scope) ∨
    Form.isLossless query = true ∧ ∃ scope, scopeOf? (Form.parse query) = some scope ∧
      g.Lacks scope ∧
      g.amend query = .injected (Form.render (withScope (g.extended scope) (Form.parse query))) := by
  cases hl : Form.isLossless query with
  | false => exact .inl ⟨rfl, by simp [amend, hl]⟩
  | true =>
    cases hp : (Form.parse query).find? isScope with
    | none => exact .inr (.inl ⟨rfl, by simp [amend, hl, hp], by simp [scopeOf?, hp]⟩)
    | some p =>
      by_cases hlacks : g.Lacks p.value
      · refine .inr (.inr ⟨rfl, p.value, by simp [scopeOf?, hp], hlacks, ?_⟩)
        simp [amend, hl, hp, extend?_eq_some hlacks]
      · refine .inr (.inl ⟨rfl, by simp [amend, hl, hp, extend?_eq_none hlacks], ?_⟩)
        simpa [scopeOf?, hp] using hlacks

theorem amend_eq_unparseable_iff :
    g.amend query = .unparseable ↔ Form.isLossless query = false := by
  obtain ⟨hl, h⟩ | ⟨hl, h, -⟩ | ⟨hl, _, -, -, h⟩ := amend_cases g query <;> simp [hl, h]

theorem amend_eq_unchanged_iff : g.amend query = .unchanged ↔
    Form.isLossless query = true ∧
      ∀ scope, scopeOf? (Form.parse query) = some scope → ¬g.Lacks scope := by
  obtain ⟨hl, h⟩ | ⟨hl, h, hno⟩ | ⟨hl, scope, hscope, hlacks, h⟩ := amend_cases g query
  · simp [hl, h]
  · simpa [hl, h] using hno
  · simp [hl, h, hscope, hlacks]

theorem amend_eq_injected_iff : g.amend query = .injected amended ↔
    Form.isLossless query = true ∧ ∃ scope, scopeOf? (Form.parse query) = some scope ∧
      g.Lacks scope ∧ amended = Form.render (withScope (g.extended scope) (Form.parse query)) := by
  obtain ⟨hl, h⟩ | ⟨hl, h, hno⟩ | ⟨hl, scope, hscope, hlacks, h⟩ := amend_cases g query
  · simp [hl, h]
  · simp only [h, reduceCtorEq, hl, true_and, false_iff, not_exists, not_and]
    exact fun scope hscope hlacks => absurd hlacks (hno scope hscope)
  · simp [hl, h, hscope, hlacks, eq_comm]

theorem exists_amend_eq_injected_iff :
    (∃ amended, g.amend query = .injected amended) ↔ g.Amends query := by
  simp only [amend_eq_injected_iff, Amends]
  constructor
  · rintro ⟨amended, hl, scope, hscope, hlacks, -⟩
    exact ⟨hl, scope, hscope, hlacks⟩
  · rintro ⟨hl, scope, hscope, hlacks⟩
    exact ⟨_, hl, scope, hscope, hlacks, rfl⟩

section
variable {before after params : List Form.Param} {value : String}

theorem withScope_append (h : ∀ p ∈ before, p.name ≠ scopeName) :
    withScope value (before ++ ⟨scopeName, scope⟩ :: after) =
      before ++ ⟨scopeName, value⟩ :: after.filter (·.name ≠ scopeName) := by
  -- what stands before the first scope parameter is passed one by one
  induction before with
  | nil => simp [withScope, isScope_eq]
  | cons p rest ih =>
    have hp : isScope p = false := by simpa [isScope_eq] using h p List.mem_cons_self
    simp only [List.cons_append, withScope, hp, Bool.false_eq_true, if_false]
    rw [ih fun q hq => h q (List.mem_cons_of_mem _ hq)]

theorem scopeOf?_eq_none_iff :
    scopeOf? params = none ↔ ∀ p ∈ params, p.name ≠ scopeName := by
  simp [scopeOf?, isScope_eq]

theorem scopeOf?_eq_some_iff : scopeOf? params = some scope ↔
    ∃ before after, params = before ++ ⟨scopeName, scope⟩ :: after ∧
      ∀ p ∈ before, p.name ≠ scopeName := by
  constructor
  · intro h
    obtain ⟨p, hp, rfl⟩ := Option.map_eq_some_iff.mp h
    obtain ⟨hname, before, after, rfl, hbefore⟩ := List.find?_eq_some_iff_append.mp hp
    rw [isScope_eq, decide_eq_true_eq] at hname
    exact ⟨before, after, by rw [← hname], by simpa [isScope_eq] using hbefore⟩
  · rintro ⟨before, after, rfl, hbefore⟩
    have hnone : before.find? isScope = none := by simpa [isScope_eq] using hbefore
    rw [scopeOf?, List.find?_append, hnone]
    simp [isScope_eq]

theorem scopeOf?_withScope (h : scopeOf? params = some scope) :
    scopeOf? (withScope value params) = some value := by
  obtain ⟨before, after, rfl, hbefore⟩ := scopeOf?_eq_some_iff.mp h
  rw [withScope_append hbefore]
  exact scopeOf?_eq_some_iff.mpr ⟨before, _, rfl, hbefore⟩

end

/-- A query that decodes without loss stays as it is where no parameter is named `scope`, or the
first such value is blank or carries the token already; otherwise it is written anew with the
same parameters but for that value, which gets the token, and the later scope parameters, which
go. -/
theorem amend_changes_scope_only (g : Grant) {query : String} (h : g.amend query ≠ .unparseable) :
    (g.amend query = .unchanged ↔
      (∀ p ∈ Form.parse query, p.name ≠ scopeName) ∨
        ∃ scope, scopeOf? (Form.parse query) = some scope ∧
          (IsBlankText scope.toList ∨ g.Carries scope)) ∧
    (g.amend query ≠ .unchanged →
      ∃ before scope after amended,
        Form.parse query = before ++ ⟨scopeName, scope⟩ :: after ∧
        (∀ p ∈ before, p.name ≠ scopeName) ∧
        g.amend query = .injected amended ∧
        Form.parse amended =
          before ++ ⟨scopeName, g.extended scope⟩ :: after.filter (·.name ≠ scopeName)) := by
  rw [Ne, amend_eq_unparseable_iff, Bool.not_eq_false] at h
  constructor
  · rw [amend_eq_unchanged_iff, ← scopeOf?_eq_none_iff]
    cases hs : scopeOf? (Form.parse query) with
    | none => simp [h]
    | some scope =>
      simp only [h, Lacks, Option.some.injEq, forall_eq', exists_eq_left', true_and, reduceCtorEq,
        false_or]
      tauto
  · intro hchanged
    obtain ⟨hl, -⟩ | ⟨-, hu, -⟩ | ⟨-, scope, hscope, -, hinjected⟩ := amend_cases g query
    · exact absurd (h.symm.trans hl) (by decide)
    · exact absurd hu hchanged
    · obtain ⟨before, after, hparse, hbefore⟩ := scopeOf?_eq_some_iff.mp hscope
      refine ⟨before, scope, after, _, hparse, hbefore, hinjected, ?_⟩
      rw [Form.parse_render, hparse, withScope_append hbefore]

/-- With an escaped name, a malformed escape, an empty piece and a second scope. -/
theorem amend_escaped_scope_only :
    (⟨"groups", .token⟩ : Grant).amend "%73cope=a%20&b=%zz&&scope=c" ≠ .unparseable ∧
      ∃ amended,
        (⟨"groups", .token⟩ : Grant).amend "%73cope=a%20&b=%zz&&scope=c" = .injected amended ∧
        Form.parse amended = [⟨"scope", "a groups"⟩, ⟨"b", "%zz"⟩] := by
  have h : (⟨"groups", .token⟩ : Grant).amend "%73cope=a%20&b=%zz&&scope=c" ≠ .unparseable := by
    decide +kernel
  have hquery : Form.parse "%73cope=a%20&b=%zz&&scope=c" =
      [⟨"scope", "a "⟩, ⟨"b", "%zz"⟩, ⟨"scope", "c"⟩] := by
    decide +kernel
  obtain ⟨before, scope, after, amended, hparse, hbefore, hinjected, hamended⟩ :=
    (amend_changes_scope_only _ h).2 (by decide +kernel)
  refine ⟨h, amended, hinjected, ?_⟩
  rw [hquery] at hparse
  cases before with
  | nil =>
    obtain ⟨hscope, rfl⟩ := List.cons.inj hparse
    obtain rfl := (Form.Param.mk.inj hscope).2
    rw [hamended]
    decide +kernel
  | cons p rest =>
    obtain ⟨rfl, -⟩ := List.cons.inj hparse
    exact absurd rfl (hbefore _ List.mem_cons_self)

end ScopeGateway.Grant
