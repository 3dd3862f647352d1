import ScopeGateway.Proofs.Form.Component
import ScopeGateway.Proofs.Http.Uri
import ScopeGateway.Url.Parse

/-!
Paths that have been resolved: segments behind slashes, with nothing in them to escape or to resolve
once more. The path of a URL that has been read is one, and each of them is the path of some URL.
-/
namespace ScopeGateway.Url

open Text

theorem mem_escapeIf {p : Char → Bool} {text : List Char} {c : Char} (h : c ∈ escapeIf p text) :
    (c ∈ text ∧ p c = false) ∨ c ∈ Form.escapeChars := by
  obtain ⟨d, hd, hc⟩ := List.mem_flatMap.mp h
  split_ifs at hc with hp
  · obtain ⟨b, -, hc⟩ := List.mem_flatMap.mp hc
    exact .inr (Form.mem_escapeChars hc)
  · obtain rfl := List.mem_singleton.mp hc
    exact .inl ⟨hd, Bool.not_eq_true _ ▸ hp⟩

theorem escapeIf_eq_self {p : Char → Bool} {text : List Char} (h : ∀ c ∈ text, p c = false) :
    escapeIf p text = text := by
  induction text with
  | nil => rfl
  | cons c text ih =>
    obtain ⟨hc, htext⟩ := List.forall_mem_cons.mp h
    rw [escapeIf, List.flatMap_cons, if_neg (by simp [hc])]
    exact congrArg (c :: ·) (ih htext)

/-- The segment stands in a path as it is, without escapes and without being resolved. -/
structure IsPlain (segment : List Char) : Prop where
  chars : ∀ c ∈ segment, isSlash c = false ∧ escapedInPath c = false
  singleDot : isSingleDot segment = false
  doubleDot : isDoubleDot segment = false

/-- The path consists of segments that stand in it as they are, each behind a slash. -/
def IsResolved (path : List Char) : Prop :=
  ∃ segments, segments ≠ [] ∧ (∀ segment ∈ segments, IsPlain segment) ∧
    path = segments.flatMap ('/' :: ·)

theorem isPlain_nil : IsPlain [] := ⟨by simp, rfl, rfl⟩

theorem mem_of_mem_parent {segments : List (List Char)} {segment : List Char}
    (h : segment ∈ parent segments) : segment ∈ segments := by
  unfold parent at h
  split_ifs at h
  · exact h
  · exact (List.dropLast_sublist segments).subset h

/-- The segments of a resolved path come from the text, apart from an empty one at the end, and
none of them is resolved away. -/
theorem mem_resolve {around segments : List (List Char)} {segment : List Char}
    (h : segment ∈ resolve around segments) :
    segment ∈ around ∨
      (segment ∈ segments ∧ isSingleDot segment = false ∧ isDoubleDot segment = false) ∨
      segment = [] := by
  -- what has been kept so far only loses segments or gets the one in turn
  fun_induction resolve around segments with
  | case1 => exact .inl h
  | case2 around last hdots =>
    obtain h | h := List.mem_append.mp h
    · exact .inl (mem_of_mem_parent h)
    · exact .inr (.inr (List.mem_singleton.mp h))
  | case3 around last hdots hdot =>
    obtain h | h := List.mem_append.mp h
    · exact .inl h
    · exact .inr (.inr (List.mem_singleton.mp h))
  | case4 around last hdots hdot =>
    obtain h | h := List.mem_append.mp h
    · exact .inl h
    · obtain rfl := List.mem_singleton.mp h
      exact .inr (.inl ⟨h, by simpa using hdot, by simpa using hdots⟩)
  | case5 around first rest hne hdots ih =>
    obtain h | ⟨h, hplain⟩ | h := ih h
    · exact .inl (mem_of_mem_parent h)
    · exact .inr (.inl ⟨List.mem_cons_of_mem _ h, hplain⟩)
    · exact .inr (.inr h)
  | case6 around first rest hne hdots hdot ih =>
    obtain h | ⟨h, hplain⟩ | h := ih h
    · exact .inl h
    · exact .inr (.inl ⟨List.mem_cons_of_mem _ h, hplain⟩)
    · exact .inr (.inr h)
  | case7 around first rest hne hdots hdot ih =>
    obtain h | ⟨h, hplain⟩ | h := ih h
    · obtain h | h := List.mem_append.mp h
      · exact .inl h
      · obtain rfl := List.mem_singleton.mp h
        exact .inr (.inl ⟨List.mem_cons_self, by simpa using hdot, by simpa using hdots⟩)
    · exact .inr (.inl ⟨List.mem_cons_of_mem _ h, hplain⟩)
    · exact .inr (.inr h)

theorem resolve_ne_nil {around segments : List (List Char)} (h : segments ≠ []) :
    resolve around segments ≠ [] := by
  fun_induction resolve around segments with
  | case1 => exact absurd rfl h
  | case2 | case3 | case4 => simp
  | case5 around first rest hrest hdots ih => exact ih hrest
  | case6 around first rest hrest hdots hdot ih => exact ih hrest
  | case7 around first rest hrest hdots hdot ih => exact ih hrest

theorem resolve_of_isPlain {around segments : List (List Char)}
    (h : ∀ segment ∈ segments, IsPlain segment) : resolve around segments = around ++ segments := by
  fun_induction resolve around segments with
  | case1 => exact (List.append_nil _).symm
  | case2 around last hdots => simp [(h last List.mem_cons_self).doubleDot] at hdots
  | case3 around last hdots hdot => simp [(h last List.mem_cons_self).singleDot] at hdot
  | case4 => rfl
  | case5 around first rest hne hdots => simp [(h first List.mem_cons_self).doubleDot] at hdots
  | case6 around first rest hne hdots hdot =>
    simp [(h first List.mem_cons_self).singleDot] at hdot
  | case7 around first rest hne hdots hdot ih =>
    rw [ih fun segment hs => h segment (List.mem_cons_of_mem _ hs), List.append_assoc]
    rfl

theorem slash_cons_intercalate {segments : List (List Char)} (h : segments ≠ []) :
    '/' :: ['/'].intercalate segments = segments.flatMap ('/' :: ·) := by
  induction segments with
  | nil => exact absurd rfl h
  | cons first rest ih =>
    cases rest with
    | nil => simp
    | cons second rest =>
      rw [List.intercalate_cons_cons, List.flatMap_cons, ← ih (List.cons_ne_nil _ _)]
      simp

theorem isResolved_resolvedPath (text : List Char) : IsResolved (resolvedPath text) := by
  have hne : (splitOn isSlash (if text.head?.any isSlash then text.tail else text)).map
      (escapeIf escapedInPath) ≠ [] := by
    simpa using splitOn_ne_nil _ _
  refine ⟨resolve [] _, resolve_ne_nil hne, fun segment hs => ?_,
    slash_cons_intercalate (resolve_ne_nil hne)⟩
  obtain hs | ⟨hs, hdot, hdots⟩ | rfl := mem_resolve hs
  · cases hs
  · obtain ⟨piece, hpiece, rfl⟩ := List.mem_map.mp hs
    refine ⟨fun c hc => ?_, hdot, hdots⟩
    obtain ⟨hc, hescaped⟩ | hc := mem_escapeIf hc
    · exact ⟨not_of_mem_splitOn hpiece c hc, hescaped⟩
    · have hall : Form.escapeChars.all fun c => !isSlash c && !escapedInPath c := by decide
      simpa using List.all_eq_true.mp hall c hc
  · exact isPlain_nil

theorem splitOn_isSlash {first : List Char} {rest : List (List Char)}
    (hfirst : IsPlain first) (hrest : ∀ segment ∈ rest, IsPlain segment) :
    splitOn isSlash (first ++ rest.flatMap ('/' :: ·)) = first :: rest := by
  induction rest generalizing first with
  | nil =>
    rw [List.flatMap_nil, List.append_nil]
    exact splitOn_eq_singleton fun c hc => (hfirst.chars c hc).1
  | cons second rest ih =>
    obtain ⟨hsecond, hrest⟩ := List.forall_mem_cons.mp hrest
    rw [List.flatMap_cons, List.cons_append, splitOn_append_cons _ _ rfl, ih hsecond hrest,
      splitOn_eq_singleton fun c hc => (hfirst.chars c hc).1]
    rfl

/-- A path that has been resolved stands for itself. -/
theorem IsResolved.resolvedPath_eq {path : List Char} (h : IsResolved path) :
    resolvedPath path = path := by
  obtain ⟨segments, hne, hplain, rfl⟩ := h
  obtain ⟨first, rest, rfl⟩ := List.exists_cons_of_ne_nil hne
  obtain ⟨hfirst, hrest⟩ := List.forall_mem_cons.mp hplain
  have hescape : (first :: rest).map (escapeIf escapedInPath) = first :: rest := by
    rw [List.map_congr_left fun segment hs =>
      escapeIf_eq_self fun c hc => ((hplain segment hs).chars c hc).2, List.map_id']
  have hslash : isSlash '/' = true := rfl
  rw [resolvedPath]
  simp only [List.flatMap_cons, List.cons_append, List.head?_cons, Option.any_some, hslash, if_true,
    List.tail_cons, splitOn_isSlash hfirst hrest]
  rw [hescape, resolve_of_isPlain hplain, List.nil_append, slash_cons_intercalate hne]
  rfl

theorem isPathChar_of_escapedInPath {c : Char} (h : escapedInPath c = false) :
    Http.Uri.isPathChar c = true := by
  have hsmall : c.toNat < 0x7F := by
    simp only [escapedInPath, isControl, Bool.or_eq_false_iff, decide_eq_false_iff_not] at h
    omega
  have hall : ∀ n < 0x7F, escapedInPath (Char.ofNat n) = false →
      Http.Uri.isPathChar (Char.ofNat n) = true := by decide
  have hc := hall c.toNat hsmall
  rw [Char.ofNat_toNat] at hc
  exact hc h

namespace IsResolved

variable {path : List Char}

theorem exists_eq_cons (h : IsResolved path) : ∃ rest, path = '/' :: rest := by
  obtain ⟨segments, hne, -, rfl⟩ := h
  obtain ⟨first, rest, rfl⟩ := List.exists_cons_of_ne_nil hne
  exact ⟨_, rfl⟩

theorem head? (h : IsResolved path) : path.head? = some '/' := by
  obtain ⟨rest, rfl⟩ := h.exists_eq_cons
  rfl

theorem not_escapedInPath (h : IsResolved path) : ∀ c ∈ path, escapedInPath c = false := by
  obtain ⟨segments, -, hplain, rfl⟩ := h
  intro c hc
  obtain ⟨segment, hs, hc⟩ := List.mem_flatMap.mp hc
  obtain rfl | hc := List.mem_cons.mp hc
  · rfl
  · exact ((hplain segment hs).chars c hc).2

theorem isPathChar (h : IsResolved path) : ∀ c ∈ path, Http.Uri.isPathChar c = true :=
  fun c hc => isPathChar_of_escapedInPath (h.not_escapedInPath c hc)

/-- No mark in it ends the path. -/
theorem not_endsPath (h : IsResolved path) : ∀ c ∈ path, Http.Uri.endsPath c = false := by
  intro c hc
  obtain ⟨hquery, hfragment⟩ := Http.Uri.ne_of_isPathChar (h.isPathChar c hc)
  simp [Http.Uri.endsPath, hquery, hfragment]

end IsResolved

theorem isResolved_of_parseNetwork {usual : Nat} {rest : List Char} {url : HttpUrl}
    (h : parseNetwork usual rest = .ok url) : IsResolved url.path := by
  unfold parseNetwork at h
  obtain ⟨⟨user, authority⟩, -, h⟩ := bind_eq_ok_iff.mp h
  simp only at h
  split_ifs at h
  · cases h
  · obtain ⟨host, -, h⟩ := bind_eq_ok_iff.mp h
    obtain ⟨service, -, h⟩ := bind_eq_ok_iff.mp h
    obtain rfl := Except.ok.inj h
    exact isResolved_resolvedPath _

theorem isResolved_of_parse {text : String} {url : HttpUrl}
    (h : Url.parse text = .ok (.http url)) : IsResolved url.path := by
  unfold Url.parse at h
  split at h
  · cases h
  · simp only at h
    split at h
    · obtain ⟨url', hurl, h⟩ := bind_eq_ok_iff.mp h
      have h := Except.ok.inj h
      split_ifs at h
      · obtain rfl := Url.http.inj h
        exact isResolved_of_parseNetwork hurl
    · obtain ⟨-, -, h⟩ := bind_eq_ok_iff.mp h
      cases h
    · obtain ⟨-, -, h⟩ := bind_eq_ok_iff.mp h
      cases h

theorem lt_toNat_of_not_escapedInPath {c : Char} (h : escapedInPath c = false) :
    0x20 < c.toNat := by
  have hcontrol : ¬c.toNat < 0x20 := by
    intro hsmall
    simp [escapedInPath, isControl, hsmall] at h
  have hblank : c.toNat ≠ 0x20 := by
    intro hblank
    obtain rfl : c = ' ' := Char.toNat_inj.mp hblank
    exact absurd h (by decide)
  omega

/-- Nothing is cleaned away from a text without blanks and controls. -/
theorem clean_eq_self {text : List Char} (h : ∀ c ∈ text, 0x20 < c.toNat) : clean text = text := by
  have hedge {text : List Char} (h : ∀ c ∈ text, 0x20 < c.toNat) :
      text.dropWhile (fun c => decide (c.toNat ≤ 0x20)) = text := by
    cases text with
    | nil => rfl
    | cons c text =>
      have hc := h c List.mem_cons_self
      exact List.dropWhile_cons_of_neg (by simpa using hc)
  have hfilter : text.filter (fun c => !(c == '\t' || c == '\n' || c == '\r')) = text := by
    refine List.filter_eq_self.mpr fun c hc => ?_
    have hc := h c hc
    simp only [Bool.not_eq_true', Bool.or_eq_false_iff, beq_eq_false_iff_ne]
    refine ⟨⟨?_, ?_⟩, ?_⟩ <;> rintro rfl <;> exact absurd hc (by decide)
  rw [clean, hedge h, hedge (by simpa using h), List.reverse_reverse, hfilter]

/-- The start of a URL up to its authority. -/
def urlStart : List Char := ['h', 't', 't', 'p', ':', '/', '/']

/-- An authority that is no more than an address. -/
def plainAuthority : List Char := ['[', ':', ':', '1', ']']

def plainHost : Host := .address (.v6 ((Vector.replicate 7 0).push 1))

/-- The text of a URL with that authority. -/
def textOfPath (path : List Char) : String := String.ofList (urlStart ++ plainAuthority ++ path)

def HttpUrl.ofPath (path : List Char) : HttpUrl := ⟨[], plainHost, none, path, false⟩

theorem parseNetwork_of_isResolved {path : List Char} (h : IsResolved path) :
    parseNetwork 80 (plainAuthority ++ path) = .ok (.ofPath path) := by
  have htake : (plainAuthority ++ path).takeWhile (!endsAuthority true ·) = plainAuthority := by
    obtain ⟨rest, rfl⟩ := h.exists_eq_cons
    rfl
  have hdrop : (plainAuthority ++ path).drop plainAuthority.length = path := rfl
  have huser : parseUser plainAuthority (!path.isEmpty) = .ok ([], plainAuthority) := rfl
  have hsplit : splitHost false plainAuthority = (plainAuthority, none) := rfl
  have hhost : Host.parse plainAuthority = .ok plainHost := by decide +kernel
  have hpath : path.takeWhile (fun c => !(c == '?' || c == '#')) = path :=
    List.takeWhile_eq_self_iff.mpr fun c hc => congrArg (!·) (h.not_endsPath c hc)
  have htail : path.any (fun c => c == '?' || c == '#') = false :=
    List.any_eq_false.mpr fun c hc => (Bool.not_eq_true _).mpr (h.not_endsPath c hc)
  unfold parseNetwork
  simp only [htake, hdrop]
  rw [bind_of_ok huser]
  simp only [hsplit]
  rw [bind_of_ok hhost]
  simp only [hpath, htail, h.resolvedPath_eq]
  rfl

/-- A path that has been resolved is the path of some URL. -/
theorem parse_of_isResolved {path : List Char} (h : IsResolved path) :
    Url.parse (textOfPath path) = .ok (.http (.ofPath path)) := by
  have hclean : clean (urlStart ++ plainAuthority ++ path) = urlStart ++ plainAuthority ++ path := by
    refine clean_eq_self (List.forall_mem_append.mpr ⟨?_, fun c hc => ?_⟩)
    · have hall : (urlStart ++ plainAuthority).all (0x20 < ·.toNat) = true := by decide
      simpa only [List.all_eq_true, decide_eq_true_eq] using hall
    · exact lt_toNat_of_not_escapedInPath (h.not_escapedInPath c hc)
  have hscheme : splitScheme? (urlStart ++ plainAuthority ++ path) =
      some (['h', 't', 't', 'p'], ['/', '/'] ++ plainAuthority ++ path) := rfl
  have hslashes : (['/', '/'] ++ plainAuthority ++ path).dropWhile isSlash =
      plainAuthority ++ path := rfl
  have hkind : kindOf ['h', 't', 't', 'p'] = .network 80 := by decide +kernel
  unfold Url.parse textOfPath
  rw [String.toList_ofList, hclean]
  simp only [hscheme, hkind, hslashes]
  rw [bind_of_ok (parseNetwork_of_isResolved h)]
  rfl

end ScopeGateway.Url
