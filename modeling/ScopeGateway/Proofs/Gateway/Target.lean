import ScopeGateway.Gateway.Backend
import ScopeGateway.Proofs.Http.Uri
import ScopeGateway.Proofs.Url.Path

/-!
The address of a request at the backend: the path behind the base path and the query, both letter
by letter, unless they are too long together.
-/
namespace ScopeGateway

open Http Text

/-- Without one slash at the end. -/
def withoutLastSlash (text : List Char) : List Char :=
  if text.getLast? = some '/' then text.dropLast else text

/-- Without one slash at the front. -/
def withoutFirstSlash (text : List Char) : List Char :=
  if text.head? = some '/' then text.tail else text

/-- The slash between both texts comes from neither of them. -/
theorem joinAtSlash_eq (base path : List Char) :
    joinAtSlash base path = withoutLastSlash base ++ '/' :: withoutFirstSlash path := by
  have hlast (h : base.getLast? = some '/') : base = withoutLastSlash base ++ ['/'] := by
    obtain ⟨front, rfl⟩ := List.getLast?_eq_some_iff.mp h
    simp [withoutLastSlash]
  have hfirst (h : path.head? = some '/') : path = '/' :: withoutFirstSlash path := by
    obtain ⟨rest, rfl⟩ := List.head?_eq_some_iff.mp h
    simp [withoutFirstSlash]
  unfold joinAtSlash
  -- each of the texts brings the slash or does not
  cases hb : base.getLast? == some '/' <;> cases hp : path.head? == some '/' <;>
    simp only [beq_iff_eq, beq_eq_false_iff_ne] at hb hp ⊢
  · rw [withoutLastSlash, if_neg hb, withoutFirstSlash, if_neg hp]
  · rw [withoutLastSlash, if_neg hb, ← hfirst hp]
  · rw [withoutFirstSlash, if_neg hp]
    exact (congrArg (· ++ path) (hlast hb)).trans (List.append_assoc _ _ _)
  · rw [withoutFirstSlash, if_pos hp]
    exact (congrArg (· ++ path.tail) (hlast hb)).trans (List.append_assoc _ _ _)

theorem mem_joinAtSlash {base path : List Char} {c : Char} (h : c ∈ joinAtSlash base path) :
    c = '/' ∨ c ∈ base ∨ c ∈ path := by
  rw [joinAtSlash_eq, List.mem_append, List.mem_cons] at h
  obtain h | h | h := h
  · unfold withoutLastSlash at h
    split_ifs at h
    · exact .inr (.inl ((List.dropLast_sublist base).subset h))
    · exact .inr (.inl h)
  · exact .inl h
  · unfold withoutFirstSlash at h
    split_ifs at h
    · exact .inr (.inr ((List.tail_sublist path).subset h))
    · exact .inr (.inr h)

theorem exists_joinAtSlash_eq_cons {base : List Char} (h : base.head? = some '/')
    (path : List Char) : ∃ rest, joinAtSlash base path = '/' :: rest := by
  rw [joinAtSlash_eq]
  obtain ⟨rest, rfl⟩ := List.head?_eq_some_iff.mp h
  unfold withoutLastSlash
  split_ifs
  · cases rest with
    | nil => exact ⟨_, rfl⟩
    | cons c rest => exact ⟨_, rfl⟩
  · exact ⟨_, rfl⟩

namespace Backend

variable {b : Backend} {url path : String} {query : Option String}

/-- What the address of a request is read from: its path behind the base path, and its query. -/
def resource (b : Backend) (path : String) (query : Option String) : Uri.Resource :=
  ⟨joinAtSlash b.basePath path.toList, query.map String.toList⟩

/-- The address of a request, where that is short enough. -/
def addressOf (b : Backend) (path : String) (query : Option String) : Uri :=
  ⟨some "http", some b.authority, String.ofList (b.resource path query).path, query⟩

theorem isResolved_basePath (h : Backend.parse url = .ok b) : Url.IsResolved b.basePath := by
  unfold Backend.parse at h
  split at h
  · cases h
  · cases h
  · rename_i hurl
    unfold ofUrl at h
    split_ifs at h
    obtain rfl := Except.ok.inj h
    exact Url.isResolved_of_parse hurl

theorem resource_isWritten (h : Backend.parse url = .ok b)
    (hpath : ∀ c ∈ path.toList, Uri.isPathChar c = true)
    (hquery : ∀ q ∈ query, ∀ c ∈ q.toList, Uri.isQueryChar c = true) :
    (b.resource path query).IsWritten := by
  refine ⟨fun c hc => ?_, fun text htext c hc => ?_⟩
  · obtain rfl | hc | hc := mem_joinAtSlash hc
    · decide
    · exact (isResolved_basePath h).isPathChar c hc
    · exact hpath c hc
  · obtain ⟨q, hq, rfl⟩ := Option.map_eq_some_iff.mp htext
    exact hquery q hq c hc

theorem render_resource : (b.resource path query).render =
    joinAtSlash b.basePath path.toList ++ query.elim [] fun q => '?' :: q.toList := by
  cases query <;> rfl

theorem query_resource : (b.resource path query).query.map String.ofList = query := by
  cases query <;> simp [resource]

/-- The address of a request whose path and query have been read from a URI: only too long a text
has none. -/
theorem target_eq (h : Backend.parse url = .ok b)
    (hpath : ∀ c ∈ path.toList, Uri.isPathChar c = true)
    (hquery : ∀ q ∈ query, ∀ c ∈ q.toList, Uri.isQueryChar c = true) :
    b.target path query =
      if Utf8.size (b.resource path query).render ≤ Uri.maxSize then
        .ok (b.addressOf path query)
      else .error .tooLong := by
  have hwritten := resource_isWritten h hpath hquery
  obtain ⟨rest, hrest⟩ : ∃ rest, (b.resource path query).path = '/' :: rest :=
    exists_joinAtSlash_eq_cons (isResolved_basePath h).head? path.toList
  have hstart : Uri.startsAsPath (b.resource path query).render = true := by
    simp [Uri.Resource.render, hrest, Uri.startsAsPath]
  have hread := Uri.Resource.parse_render hwritten.isSeparate hstart
  rw [if_pos (Uri.Resource.isWritten_iff.mpr hwritten)] at hread
  have hne : (b.resource path query).path.isEmpty = false := by
    rw [hrest]
    rfl
  unfold target
  rw [← render_resource]
  simp only [hread]
  by_cases hsize : Utf8.size (b.resource path query).render ≤ Uri.maxSize
  · rw [if_neg (by omega), if_pos hsize]
    simp [bind, Except.bind, pure, Except.pure, query_resource, hne, addressOf]
  · rw [if_pos (by omega), if_neg hsize]
    rfl

end Backend

end ScopeGateway
