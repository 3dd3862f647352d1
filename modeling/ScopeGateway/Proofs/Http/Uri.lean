import Mathlib.Data.List.TakeWhile
import Mathlib.Tactic.SplitIfs
import ScopeGateway.Http.Uri
import ScopeGateway.Proofs.Except
import ScopeGateway.Proofs.Text.Split

/-!
The characters of a URI that has been read, what a text is taken for, and reading a path and a
query that were put together.
-/
namespace ScopeGateway.Http.Uri

open Text

theorem ne_of_isPathChar {c : Char} (h : isPathChar c = true) : c ≠ '?' ∧ c ≠ '#' := by
  constructor <;> rintro rfl <;> exact absurd h (by decide)

theorem ne_of_isQueryChar {c : Char} (h : isQueryChar c = true) : c ≠ '#' := by
  rintro rfl
  exact absurd h (by decide)

/-- The characters that end a path. -/
def endsPath (c : Char) : Bool := c == '?' || c == '#'

namespace Resource

/-- The path, and the query behind a question mark. -/
def render (r : Resource) : List Char := r.path ++ r.query.elim [] ('?' :: ·)

/-- Only characters that may stand there stand in the path and in the query. -/
def IsWritten (r : Resource) : Prop :=
  (∀ c ∈ r.path, isPathChar c = true) ∧ ∀ q ∈ r.query, ∀ c ∈ q, isQueryChar c = true

/-- No part of the text would be taken for another part. -/
def IsSeparate (r : Resource) : Prop :=
  (∀ c ∈ r.path, c ≠ '?' ∧ c ≠ '#') ∧ ∀ q ∈ r.query, '#' ∉ q

variable {r : Resource} {text : List Char}

theorem IsWritten.isSeparate (h : r.IsWritten) : r.IsSeparate :=
  ⟨fun c hc => ne_of_isPathChar (h.1 c hc),
    fun q hq hmem => ne_of_isQueryChar (h.2 q hq _ hmem) rfl⟩

theorem isWritten_iff : (r.path.all isPathChar && (r.query.getD []).all isQueryChar) = true ↔
    r.IsWritten := by
  cases hq : r.query <;> simp [IsWritten, hq]

theorem cut_render (h : r.IsSeparate) :
    cut (· == '?') (cut (· == '#') r.render).1 = (r.path, r.query) := by
  obtain ⟨hpath, hquery⟩ := h
  have hhash : cut (· == '#') r.render = (r.render, none) := by
    apply cut_eq_none
    intro c hc
    rw [beq_eq_false_iff_ne]
    obtain hc | hc := List.mem_append.mp hc
    · exact (hpath c hc).2
    · cases hq : r.query with
      | none => simp [hq] at hc
      | some q =>
        simp only [hq, Option.elim_some, List.mem_cons] at hc
        obtain rfl | hc := hc
        · decide
        · rintro rfl
          exact hquery q hq hc
  have hmark (c : Char) (hc : c ∈ r.path) : (c == '?') = false :=
    beq_eq_false_iff_ne.mpr (hpath c hc).1
  rw [hhash]
  cases hq : r.query with
  | none => simp [render, hq, cut_eq_none hmark]
  | some q => simp [render, hq, cut_append_cons hmark]

/-- A path and a query that are put together come out again, unless the text is too long, has no
slash in front or holds a character that may not stand there. -/
theorem parse_render (h : r.IsSeparate) (hstart : startsAsPath r.render = true) :
    Resource.parse r.render =
      if maxSize < Utf8.size r.render then .error .tooLong
      else if r.path.all isPathChar && (r.query.getD []).all isQueryChar then .ok r
      else .error .invalidCharacter := by
  rw [Resource.parse, cut_render h, hstart]
  rfl

/-- What a text is taken for: a path up to its first question mark, and then a query. A hash sign
ends both. -/
def ofText (text : List Char) : Resource :=
  let parts := cut (· == '?') (cut (· == '#') text).1
  ⟨parts.1, parts.2⟩

theorem parse_eq_ok_iff : Resource.parse text = .ok r ↔
    Utf8.size text ≤ maxSize ∧ startsAsPath text = true ∧ (ofText text).IsWritten ∧
      r = ofText text := by
  have hparse : Resource.parse text =
      if maxSize < Utf8.size text then .error .tooLong
      else if !startsAsPath text then .error .relativePath
      else if (ofText text).path.all isPathChar && ((ofText text).query.getD []).all isQueryChar
        then .ok (ofText text)
      else .error .invalidCharacter := rfl
  rw [hparse, ← isWritten_iff, ← Nat.not_lt]
  split_ifs with hsize hstart hchars
  · exact iff_of_false (by simp) fun h => h.1 hsize
  · exact iff_of_false (by simp) fun h => by simp [h.2.1] at hstart
  · rw [Bool.not_eq_true, Bool.not_eq_false'] at hstart
    rw [Except.ok.injEq, eq_comm]
    exact ⟨fun h => ⟨hsize, hstart, hchars, h⟩, fun h => h.2.2.2⟩
  · exact iff_of_false (by simp) fun h => hchars h.2.2.1

theorem isWritten_of_parse (h : Resource.parse text = .ok r) : r.IsWritten := by
  obtain ⟨-, -, hwritten, rfl⟩ := parse_eq_ok_iff.mp h
  exact hwritten

theorem ofText_render (h : r.IsSeparate) : ofText r.render = r := by
  rw [ofText, cut_render h]

/-- The hash sign and what follows it are not read. -/
theorem prefix_render_ofText (text : List Char) : (ofText text).render <+: text := by
  have hrender : (ofText text).render = (cut (· == '#') text).1 :=
    fst_cut_append_snd_cut '?' (cut (· == '#') text).1
  rw [hrender]
  exact prefix_cut _ text

theorem path_ofText (text : List Char) : (ofText text).path = text.takeWhile (!endsPath ·) := by
  have hends : (!endsPath ·) =
      fun c => decide ((!(c == '?')) = true ∧ (!(c == '#')) = true) := by
    funext c
    simp only [endsPath, Bool.not_or, Bool.decide_and, Bool.decide_eq_true]
  rw [hends, ← List.takeWhile_takeWhile, ← fst_cut_eq_takeWhile, ← fst_cut_eq_takeWhile]
  rfl

/-- A path and a query as they are given, whatever stands in them. -/
def given (path : String) (query : Option String) : Resource :=
  ⟨path.toList, query.map String.toList⟩

/-- What they are taken for once they stand in one text. -/
def reread (path : String) (query : Option String) : Resource := ofText (given path query).render

theorem reread_eq_given {path : String} {query : Option String}
    (h : (given path query).IsWritten) : reread path query = given path query :=
  ofText_render h.isSeparate

theorem path_reread (path : String) (query : Option String) :
    (reread path query).path = path.toList.takeWhile (!endsPath ·) := by
  rw [reread, path_ofText, render]
  refine takeWhile_append_of_head? fun c hc => ?_
  cases query with
  | none => cases hc
  | some q =>
    obtain rfl := Option.some.inj hc
    rfl

end Resource

/-- Only characters that may stand there stand in the path and in the query. -/
def IsWritten (u : Uri) : Prop :=
  (∀ c ∈ u.path.toList, isPathChar c = true) ∧
    ∀ q ∈ u.query, ∀ c ∈ q.toList, isQueryChar c = true

variable {text : String} {u : Uri}

theorem isWritten_mk {r : Resource} (h : r.IsWritten) (scheme authority : Option String)
    {path : String} (hpath : ∀ c ∈ path.toList, isPathChar c = true) :
    IsWritten ⟨scheme, authority, path, r.query.map String.ofList⟩ := by
  refine ⟨hpath, fun q hq c hc => ?_⟩
  obtain ⟨q', hq', rfl⟩ := Option.map_eq_some_iff.mp hq
  rw [String.toList_ofList] at hc
  exact h.2 q' hq' c hc

theorem isWritten_of_parseAbsolute {cs : List Char} (h : parseAbsolute cs = .ok u) :
    u.IsWritten := by
  unfold parseAbsolute at h
  obtain ⟨⟨scheme, rest⟩, -, h⟩ := bind_eq_ok_iff.mp h
  obtain ⟨-, -, h⟩ := bind_eq_ok_iff.mp h
  cases scheme with
  | none =>
    -- an authority alone has no path and no query
    simp only at h
    split_ifs at h
    obtain rfl := Except.ok.inj h
    exact ⟨by simp, by simp⟩
  | some scheme =>
    simp only at h
    split_ifs at h
    · cases h
    · obtain ⟨r, hr, h⟩ := bind_eq_ok_iff.mp h
      have hr := Resource.isWritten_of_parse hr
      obtain rfl := Except.ok.inj h
      apply isWritten_mk hr
      split_ifs
      · exact List.all_eq_true.mp (by decide)
      · simpa using hr.1

theorem isWritten_of_parse (h : Uri.parse text = .ok u) : u.IsWritten := by
  unfold Uri.parse at h
  simp only at h
  split at h
  · cases h
  split at h
  · cases h
  · obtain rfl := Except.ok.inj h
    exact ⟨List.all_eq_true.mp (by decide), by simp⟩
  · obtain ⟨r, hr, h⟩ := bind_eq_ok_iff.mp h
    obtain rfl := Except.ok.inj h
    have hr := Resource.isWritten_of_parse hr
    exact isWritten_mk hr none none (by simpa using hr.1)
  · split_ifs at h
    obtain rfl := Except.ok.inj h
    exact ⟨by simp, by simp⟩
  · exact isWritten_of_parseAbsolute h

theorem parse_of_toList {r : Resource} (htext : text.toList = r.render) (h : r.IsWritten)
    (hstart : r.path.head? = some '/') (hsize : Utf8.size r.render ≤ maxSize) :
    Uri.parse text = .ok ⟨none, none, String.ofList r.path, r.query.map String.ofList⟩ := by
  obtain ⟨rest, hpath⟩ := List.head?_eq_some_iff.mp hstart
  have hrender : r.render = '/' :: (rest ++ r.query.elim [] ('?' :: ·)) := by
    rw [Resource.render, hpath]
    rfl
  have hread := Resource.parse_render h.isSeparate (by rw [hrender]; rfl)
  rw [if_neg (Nat.not_lt.mpr hsize), if_pos (Resource.isWritten_iff.mpr h)] at hread
  unfold Uri.parse
  simp only [htext, if_neg (Nat.not_lt.mpr hsize), hread]
  rw [hrender]
  rfl

/-- A path that starts with a slash and a query are read from the text that they make. -/
theorem parse_render {path : String} {query : Option String}
    (h : (Uri.mk none none path query).IsWritten) (hstart : path.toList.head? = some '/')
    (hsize : Utf8.size (Resource.render ⟨path.toList, query.map String.toList⟩) ≤ maxSize) :
    Uri.parse (Uri.mk none none path query).render = .ok ⟨none, none, path, query⟩ := by
  have htext : (Uri.mk none none path query).render.toList =
      Resource.render ⟨path.toList, query.map String.toList⟩ := by
    cases query <;> simp [Uri.render, Resource.render]
  have hwritten : Resource.IsWritten ⟨path.toList, query.map String.toList⟩ := by
    refine ⟨h.1, fun q hq => ?_⟩
    obtain ⟨q, hmem, rfl⟩ := Option.map_eq_some_iff.mp hq
    exact h.2 q hmem
  rw [parse_of_toList htext hwritten hstart hsize]
  simp

end ScopeGateway.Http.Uri
