import ScopeGateway.Proofs.Gateway.Target

/-!
Texts joined at a slash: the seams of three texts can be made in any order, and what is read behind
a seam is what would be read of the text there alone.
-/
namespace ScopeGateway

open Http Text

section
variable {a b base text tail : List Char}

@[simp]
theorem withoutFirstSlash_cons_slash (text : List Char) : withoutFirstSlash ('/' :: text) = text :=
  rfl

theorem withoutFirstSlash_append (ha : a ≠ []) (b : List Char) :
    withoutFirstSlash (a ++ b) = withoutFirstSlash a ++ b := by
  cases a with
  | nil => exact absurd rfl ha
  | cons c a =>
    unfold withoutFirstSlash
    rw [List.cons_append, List.head?_cons, List.head?_cons]
    split_ifs <;> rfl

theorem withoutLastSlash_cons {c : Char} (h : c ≠ '/' ∨ text ≠ []) :
    withoutLastSlash (c :: text) = c :: withoutLastSlash text := by
  cases text with
  | nil => simpa [withoutLastSlash] using h
  | cons d text =>
    unfold withoutLastSlash
    rw [List.getLast?_cons_cons, List.dropLast_cons_cons]
    split_ifs <;> rfl

theorem withoutLastSlash_append (a : List Char) (hb : b ≠ []) :
    withoutLastSlash (a ++ b) = a ++ withoutLastSlash b := by
  induction a with
  | nil => rfl
  | cons c a ih =>
    have hne : a ++ b ≠ [] := List.append_ne_nil_of_right_ne_nil a hb
    rw [List.cons_append, withoutLastSlash_cons (.inr hne), ih, List.cons_append]

/-- A text gets a single slash at either end in any order. A slash alone is given up for both. -/
theorem slashes_comm (text : List Char) :
    withoutLastSlash ('/' :: withoutFirstSlash text) ++ ['/'] =
      '/' :: withoutFirstSlash (withoutLastSlash text ++ ['/']) := by
  cases text with
  | nil => rfl
  | cons c text =>
    by_cases hc : c = '/'
    · subst hc
      cases text with
      | nil => rfl
      | cons d text =>
        rw [withoutFirstSlash_cons_slash, withoutLastSlash_cons (.inr (List.cons_ne_nil d text))]
        rfl
    · have hfirst (rest : List Char) : withoutFirstSlash (c :: rest) = c :: rest :=
        if_neg (by simpa using hc)
      rw [hfirst, withoutLastSlash_cons (.inr (List.cons_ne_nil c text)),
        withoutLastSlash_cons (.inl hc), List.cons_append, List.cons_append, hfirst]

theorem joinAtSlash_eq_append (base path : List Char) :
    joinAtSlash base path = (withoutLastSlash base ++ ['/']) ++ withoutFirstSlash path := by
  rw [joinAtSlash_eq, List.append_assoc, List.singleton_append]

/-- The text in the middle gives up the same slashes whichever seam is made first. -/
theorem joinAtSlash_assoc (a b c : List Char) :
    joinAtSlash (joinAtSlash a b) c = joinAtSlash a (joinAtSlash b c) := by
  have hleft : withoutLastSlash (joinAtSlash a b) ++ ['/'] =
      withoutLastSlash a ++ (withoutLastSlash ('/' :: withoutFirstSlash b) ++ ['/']) := by
    rw [joinAtSlash_eq, withoutLastSlash_append _ (List.cons_ne_nil _ _), List.append_assoc]
  have hright : '/' :: withoutFirstSlash (joinAtSlash b c) =
      '/' :: withoutFirstSlash (withoutLastSlash b ++ ['/']) ++ withoutFirstSlash c := by
    rw [joinAtSlash_eq_append, withoutFirstSlash_append (by simp), List.cons_append]
  calc joinAtSlash (joinAtSlash a b) c
      = (withoutLastSlash (joinAtSlash a b) ++ ['/']) ++ withoutFirstSlash c :=
        joinAtSlash_eq_append _ _
    _ = withoutLastSlash a ++ ('/' :: withoutFirstSlash (withoutLastSlash b ++ ['/'])) ++
          withoutFirstSlash c := by rw [hleft, slashes_comm]
    _ = withoutLastSlash a ++ '/' :: withoutFirstSlash (joinAtSlash b c) := by
        rw [hright, List.append_assoc]
    _ = joinAtSlash a (joinAtSlash b c) := (joinAtSlash_eq _ _).symm

/-- What comes behind a text comes behind it in the joined text, unless it brings a slash for a
seam with nothing else. -/
theorem joinAtSlash_append (base text : List Char) (h : tail.head? ≠ some '/') :
    joinAtSlash base (text ++ tail) = joinAtSlash base text ++ tail := by
  have hfirst : withoutFirstSlash (text ++ tail) = withoutFirstSlash text ++ tail := by
    cases text with
    | nil => exact if_neg h
    | cons c text => exact withoutFirstSlash_append (List.cons_ne_nil c text) tail
  rw [joinAtSlash_eq_append, joinAtSlash_eq_append, hfirst, ← List.append_assoc]

theorem joinAtSlash_mono (base : List Char) (h : a <+: b) :
    joinAtSlash base a <+: joinAtSlash base b := by
  obtain ⟨rest, rfl⟩ := h
  rw [joinAtSlash_eq_append, joinAtSlash_eq_append, List.prefix_append_right_inj]
  cases a with
  | nil => exact List.nil_prefix
  | cons c a =>
    rw [withoutFirstSlash_append (List.cons_ne_nil c a)]
    exact List.prefix_append _ _

theorem suffix_joinAtSlash (base text : List Char) : text <:+ joinAtSlash base text := by
  have hfirst : text <:+ '/' :: withoutFirstSlash text := by
    unfold withoutFirstSlash
    split_ifs with h
    · obtain ⟨rest, rfl⟩ := List.head?_eq_some_iff.mp h
      exact List.suffix_rfl
    · exact List.suffix_cons '/' text
  rw [joinAtSlash_eq]
  exact hfirst.trans (List.suffix_append _ _)

theorem size_le_joinAtSlash (base text : List Char) :
    Utf8.size text ≤ Utf8.size (joinAtSlash base text) := by
  obtain ⟨front, hfront⟩ := suffix_joinAtSlash base text
  rw [← hfront, Utf8.size_append]
  exact Nat.le_add_left _ _

theorem cut_withoutFirstSlash {p : Char → Bool} (hp : p '/' = false) (text : List Char) :
    cut p (withoutFirstSlash text) = (withoutFirstSlash (cut p text).1, (cut p text).2) := by
  by_cases h : text.head? = some '/'
  · obtain ⟨rest, rfl⟩ := List.head?_eq_some_iff.mp h
    simp [cut, hp]
  · have hcut : (cut p text).1.head? ≠ some '/' := by
      simp [head?_cut, Option.filter_eq_some_iff, h]
    rw [withoutFirstSlash, withoutFirstSlash, if_neg h, if_neg hcut]

/-- Where the base has nothing to cut at, the cut is the one of the text behind it. -/
theorem cut_joinAtSlash {p : Char → Bool} (hp : p '/' = false) (hbase : ∀ c ∈ base, p c = false)
    (text : List Char) :
    cut p (joinAtSlash base text) = (joinAtSlash base (cut p text).1, (cut p text).2) := by
  have hfront : ∀ c ∈ withoutLastSlash base ++ ['/'], p c = false := by
    simp only [List.mem_append, List.mem_singleton]
    rintro c (hc | rfl)
    · unfold withoutLastSlash at hc
      split_ifs at hc
      · exact hbase c ((List.dropLast_sublist base).subset hc)
      · exact hbase c hc
    · exact hp
  rw [joinAtSlash_eq_append, cut_append_of_not hfront, cut_withoutFirstSlash hp,
    joinAtSlash_eq_append]

end

namespace Http.Uri.Resource

/-- The query is written behind the joined path. -/
theorem render_joinAtSlash (base : List Char) (r : Resource) :
    render ⟨joinAtSlash base r.path, r.query⟩ = joinAtSlash base r.render := by
  have htail : (r.query.elim [] ('?' :: ·)).head? ≠ some '/' := by
    cases r.query <;> simp
  rw [render, render, joinAtSlash_append _ _ htail]

theorem ofText_joinAtSlash {base : List Char} (h : Url.IsResolved base) (text : List Char) :
    ofText (joinAtSlash base text) = ⟨joinAtSlash base (ofText text).path, (ofText text).query⟩ := by
  have hbase (c : Char) (hc : c ∈ base) := ne_of_isPathChar (h.isPathChar c hc)
  unfold ofText
  rw [cut_joinAtSlash (by decide) fun c hc => beq_eq_false_iff_ne.mpr (hbase c hc).2,
    cut_joinAtSlash (by decide) fun c hc => beq_eq_false_iff_ne.mpr (hbase c hc).1]

theorem isWritten_joinAtSlash {base : List Char} (h : Url.IsResolved base) {r : Resource} :
    IsWritten ⟨joinAtSlash base r.path, r.query⟩ ↔ r.IsWritten := by
  constructor
  · rintro ⟨hpath, hquery⟩
    exact ⟨fun c hc => hpath c ((suffix_joinAtSlash base r.path).subset hc), hquery⟩
  · rintro ⟨hpath, hquery⟩
    refine ⟨fun c hc => ?_, hquery⟩
    obtain rfl | hc | hc := mem_joinAtSlash hc
    · decide
    · exact h.isPathChar c hc
    · exact hpath c hc

end Http.Uri.Resource

namespace Url

theorem withoutLastSlash_of_isPlain {segment : List Char} (h : IsPlain segment) :
    withoutLastSlash segment = segment := by
  refine if_neg fun hlast => ?_
  have hslash := (h.chars _ (List.mem_of_getLast? hlast)).1
  exact absurd hslash (by decide)

/-- A slash at the end of a resolved path stands for an empty segment. -/
theorem IsResolved.exists_withoutLastSlash {path : List Char} (h : IsResolved path) :
    ∃ segments : List (List Char), (∀ segment ∈ segments, IsPlain segment) ∧
      withoutLastSlash path = segments.flatMap ('/' :: ·) := by
  obtain ⟨segments, hne, hplain, rfl⟩ := h
  obtain ⟨front, last, rfl⟩ : ∃ front last, segments = front ++ [last] :=
    ⟨_, _, (List.dropLast_concat_getLast hne).symm⟩
  obtain ⟨hfront, hlast⟩ := List.forall_mem_append.mp hplain
  have hlast := hlast last (List.mem_singleton.mpr rfl)
  rw [List.flatMap_append, List.flatMap_singleton,
    withoutLastSlash_append _ (List.cons_ne_nil '/' last)]
  by_cases hempty : last = []
  · subst hempty
    exact ⟨front, hfront, List.append_nil _⟩
  · refine ⟨front ++ [last], hplain, ?_⟩
    rw [withoutLastSlash_cons (.inr hempty), withoutLastSlash_of_isPlain hlast,
      List.flatMap_append, List.flatMap_singleton]

/-- Resolved paths that are joined need no resolving. -/
theorem IsResolved.joinAtSlash {base path : List Char} (hbase : IsResolved base)
    (hpath : IsResolved path) : IsResolved (joinAtSlash base path) := by
  have hslash : '/' :: withoutFirstSlash path = path := by
    obtain ⟨rest, rfl⟩ := hpath.exists_eq_cons
    rfl
  rw [joinAtSlash_eq, hslash]
  obtain ⟨front, hfront, hbase⟩ := hbase.exists_withoutLastSlash
  obtain ⟨segments, hne, hplain, rfl⟩ := hpath
  refine ⟨front ++ segments, List.append_ne_nil_of_right_ne_nil _ hne,
    List.forall_mem_append.mpr ⟨hfront, hplain⟩, ?_⟩
  rw [hbase, List.flatMap_append]

end Url

end ScopeGateway
