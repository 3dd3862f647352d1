import ScopeGateway.Proofs.Gateway.Seam
import ScopeGateway.Proofs.Gateway.Sendable

/-!
One backend after another: the base paths add up. Whatever path and query are given, a backend with
the joined base path makes of them what the two backends make of them in turn.
-/
namespace ScopeGateway

open Http Text

namespace Backend

variable {b : Backend} {path : String} {query : Option String} {out : Uri}

/-- The address of what has been read, behind the base path. -/
def addressAt (b : Backend) (r : Uri.Resource) : Uri :=
  ⟨some "http", some b.authority, String.ofList (joinAtSlash b.basePath r.path),
    r.query.map String.ofList⟩

theorem given_addressAt (b : Backend) (r : Uri.Resource) :
    Uri.Resource.given (b.addressAt r).path (b.addressAt r).query =
      ⟨joinAtSlash b.basePath r.path, r.query⟩ := by
  cases hq : r.query <;> simp [Uri.Resource.given, addressAt, hq]

theorem isWritten_given_addressAt (h : Url.IsResolved b.basePath) {r : Uri.Resource} :
    (Uri.Resource.given (b.addressAt r).path (b.addressAt r).query).IsWritten ↔ r.IsWritten := by
  rw [given_addressAt]
  exact Uri.Resource.isWritten_joinAtSlash h

theorem joined_text (b : Backend) (path : String) (query : Option String) :
    (joinAtSlash b.basePath path.toList ++ query.elim [] fun q => '?' :: q.toList) =
      joinAtSlash b.basePath (Uri.Resource.given path query).render := by
  rw [← render_resource, ← Uri.Resource.render_joinAtSlash]
  rfl

theorem hasRoom_iff_given : b.HasRoom path query ↔
    Utf8.size (joinAtSlash b.basePath (Uri.Resource.given path query).render) ≤ Uri.maxSize := by
  rw [HasRoom, joined_text]

/-- There is an address where it is short enough and what is read of the path and the query needs no
escape. This is so for any two texts, also with marks in them. -/
theorem target_eq_ok_iff (h : Url.IsResolved b.basePath) :
    b.target path query = .ok out ↔ b.HasRoom path query ∧
      (Uri.Resource.reread path query).IsWritten ∧
      out = b.addressAt (.reread path query) := by
  have hstart (text : List Char) : Uri.startsAsPath (joinAtSlash b.basePath text) = true := by
    obtain ⟨rest, hrest⟩ := exists_joinAtSlash_eq_cons h.head? text
    simp [hrest, Uri.startsAsPath]
  have hne (text : List Char) : ¬(joinAtSlash b.basePath text).isEmpty = true := by
    obtain ⟨rest, hrest⟩ := exists_joinAtSlash_eq_cons h.head? text
    simp [hrest]
  unfold target
  simp only [joined_text, bind_eq_ok_iff, Uri.Resource.parse_eq_ok_iff, hasRoom_iff_given, hstart,
    Uri.Resource.ofText_joinAtSlash h, Uri.Resource.isWritten_joinAtSlash h]
  constructor
  · rintro ⟨_, ⟨hsize, -, hwritten, rfl⟩, hout⟩
    rw [if_neg (hne _)] at hout
    exact ⟨hsize, hwritten, (Except.ok.inj hout).symm⟩
  · rintro ⟨hsize, hwritten, rfl⟩
    refine ⟨_, ⟨hsize, trivial, hwritten, rfl⟩, ?_⟩
    rw [if_neg (hne _)]
    rfl

/-- Behind a slash alone, a path comes out as far as it goes. -/
theorem path_of_basePath_slash (hb : b.basePath = ['/']) (hslash : path.toList.head? = some '/')
    (h : b.target path query = .ok out) :
    out.path.toList = path.toList.takeWhile (!Uri.endsPath ·) := by
  have hbase : Url.IsResolved b.basePath :=
    ⟨[[]], List.cons_ne_nil _ _, by simp [Url.isPlain_nil], hb⟩
  obtain ⟨-, -, rfl⟩ := (target_eq_ok_iff hbase).mp h
  obtain ⟨rest, hrest⟩ := List.head?_eq_some_iff.mp hslash
  rw [addressAt, hb, String.toList_ofList, Uri.Resource.path_reread, hrest]
  rfl

/-- A resolved path is the base path of some backend. -/
theorem exists_parse_of_isResolved {base : List Char} (h : Url.IsResolved base) :
    ∃ url b, Backend.parse url = .ok b ∧ b.basePath = base := by
  have hauthority : Uri.isAuthority (authorityOf (.ofPath base)).toList = true := by
    -- the path has no part in it
    change Uri.isAuthority (authorityOf (.ofPath [])).toList = true
    decide +kernel
  refine ⟨Url.textOfPath base, ⟨.ofPath base, authorityOf (.ofPath base)⟩, ?_, rfl⟩
  rw [Backend.parse, Url.parse_of_isResolved h]
  exact if_pos hauthority

section
variable {first second both : Backend} {mid far : Uri}

/-- Where there is room behind both base paths, there is room at each of the backends. -/
theorem HasRoom.of_both (hboth : both.basePath = joinAtSlash second.basePath first.basePath)
    (h : both.HasRoom path query) (hmid : mid = first.addressAt (.reread path query)) :
    first.HasRoom path query ∧ second.HasRoom mid.path mid.query := by
  rw [hasRoom_iff_given, hboth, joinAtSlash_assoc] at h
  rw [hasRoom_iff_given, hasRoom_iff_given, hmid, given_addressAt,
    Uri.Resource.render_joinAtSlash]
  refine ⟨(size_le_joinAtSlash _ _).trans h, (Utf8.size_mono ?_).trans h⟩
  -- what is read of a text is its start
  exact joinAtSlash_mono _ (joinAtSlash_mono _ (Uri.Resource.prefix_render_ofText _))

variable (hfirst : Url.IsResolved first.basePath) (hsecond : Url.IsResolved second.basePath)
include hfirst hsecond

/-- What two backends make of a path and a query in turn. The second one finds nothing to read
differently. -/
theorem target_target_eq_ok_iff :
    first.target path query = .ok mid ∧ second.target mid.path mid.query = .ok far ↔
      (first.HasRoom path query ∧ second.HasRoom mid.path mid.query) ∧
      (Uri.Resource.reread path query).IsWritten ∧
      mid = first.addressAt (.reread path query) ∧
      far = second.addressAt (.given mid.path mid.query) := by
  rw [target_eq_ok_iff hfirst, target_eq_ok_iff hsecond]
  constructor
  · rintro ⟨⟨hroom, hwritten, rfl⟩, hroom', -, rfl⟩
    have hgiven := (isWritten_given_addressAt hfirst).mpr hwritten
    rw [Uri.Resource.reread_eq_given hgiven]
    exact ⟨⟨hroom, hroom'⟩, hwritten, rfl, rfl⟩
  · rintro ⟨⟨hroom, hroom'⟩, hwritten, rfl, rfl⟩
    have hgiven := (isWritten_given_addressAt hfirst).mpr hwritten
    rw [Uri.Resource.reread_eq_given hgiven]
    exact ⟨⟨hroom, hwritten, rfl⟩, hroom', hgiven, rfl⟩

variable (hboth : both.basePath = joinAtSlash second.basePath first.basePath)
include hboth

theorem resource_of_both (hmid : first.target path query = .ok mid)
    (hfar : second.target mid.path mid.query = .ok far) (hout : both.target path query = .ok out) :
    out.path = far.path ∧ out.query = far.query := by
  have hbase : Url.IsResolved both.basePath := hboth ▸ hsecond.joinAtSlash hfirst
  obtain ⟨-, -, rfl, rfl⟩ := (target_target_eq_ok_iff hfirst hsecond).mp ⟨hmid, hfar⟩
  obtain ⟨-, -, rfl⟩ := (target_eq_ok_iff hbase).mp hout
  rw [given_addressAt]
  refine ⟨?_, rfl⟩
  simp only [addressAt, hboth, joinAtSlash_assoc]

theorem exists_target_both_iff :
    (∃ out, both.target path query = .ok out) ↔ both.HasRoom path query ∧
      ∃ mid far, first.target path query = .ok mid ∧
        second.target mid.path mid.query = .ok far := by
  have hbase : Url.IsResolved both.basePath := hboth ▸ hsecond.joinAtSlash hfirst
  simp only [target_eq_ok_iff hbase, target_target_eq_ok_iff hfirst hsecond]
  constructor
  · rintro ⟨_, hroom, hwritten, -⟩
    exact ⟨hroom, _, _, HasRoom.of_both hboth hroom rfl, hwritten, rfl, rfl⟩
  · rintro ⟨hroom, _, _, -, hwritten, -⟩
    exact ⟨_, hroom, hwritten, rfl⟩

end

/-- A slash and no more joins two texts, and it does not matter which of three are joined first. So
two backends in turn make of any path and query what one backend does whose base path is both,
the second one's in front. Some URL names it, and it has an address where the two have one, unless
that is too long with all that was given. A base path that is a slash alone leaves a path as it is,
up to the first mark in it that ends a path. -/
theorem two_backends_like_one :
    (∀ a b : List Char, joinAtSlash a b = withoutLastSlash a ++ '/' :: withoutFirstSlash b) ∧
    (∀ a b c : List Char,
      joinAtSlash (joinAtSlash a b) c = joinAtSlash a (joinAtSlash b c)) ∧
    (∀ (firstUrl secondUrl : String) (first second : Backend),
      Backend.parse firstUrl = .ok first → Backend.parse secondUrl = .ok second →
      (∃ url both, Backend.parse url = .ok both ∧
        both.basePath = joinAtSlash second.basePath first.basePath) ∧
      ∀ both : Backend, both.basePath = joinAtSlash second.basePath first.basePath →
        ∀ (path : String) (query : Option String),
          (∀ mid far out, first.target path query = .ok mid →
            second.target mid.path mid.query = .ok far → both.target path query = .ok out →
            out.path = far.path ∧ out.query = far.query) ∧
          ((∃ out, both.target path query = .ok out) ↔ both.HasRoom path query ∧
            ∃ mid far, first.target path query = .ok mid ∧
              second.target mid.path mid.query = .ok far)) ∧
    ∀ b : Backend, b.basePath = ['/'] →
      ∀ (path : String) (query : Option String) (out : Uri), path.toList.head? = some '/' →
        b.target path query = .ok out →
        out.path.toList = path.toList.takeWhile (!Uri.endsPath ·) ∧
        (out.path = path ↔ ∀ c ∈ path.toList, Uri.endsPath c = false) := by
  refine ⟨joinAtSlash_eq, joinAtSlash_assoc, ?_, ?_⟩
  · intro firstUrl secondUrl first second hfirst hsecond
    have hfirst := isResolved_basePath hfirst
    have hsecond := isResolved_basePath hsecond
    refine ⟨exists_parse_of_isResolved (hsecond.joinAtSlash hfirst),
      fun both hboth path query => ⟨fun mid far out hmid hfar hout => ?_, ?_⟩⟩
    · exact resource_of_both hfirst hsecond hboth hmid hfar hout
    · exact exists_target_both_iff hfirst hsecond hboth
  · intro b hb path query out hslash hout
    have hpath := path_of_basePath_slash hb hslash hout
    refine ⟨hpath, ?_⟩
    rw [← String.toList_inj, hpath, List.takeWhile_eq_self_iff]
    simp only [Bool.not_eq_true']

/-- Two slashes in the first base path, one at the end of the second, and a query and a fragment in
the path that is given. A third backend without a base path leaves what comes out. -/
theorem two_backends_like_one_at_doubled_slash :
    ∃ (first second third both : Backend) (mid far last out : Uri),
      Backend.parse "http://[::1]//" = .ok first ∧
      Backend.parse "http://[::1]:9091/a/../b/" = .ok second ∧ third.basePath = ['/'] ∧
      both.basePath = joinAtSlash second.basePath first.basePath ∧
      first.target "/x?y#z" none = .ok mid ∧ second.target mid.path mid.query = .ok far ∧
      third.target far.path far.query = .ok last ∧ both.target "/x?y#z" none = .ok out ∧
      far.path = "/b//x" ∧ far.query = some "y" ∧ out.path = far.path ∧ out.query = far.query ∧
      last.path = far.path := by
  let first : Backend := ⟨⟨[], Url.plainHost, none, "//".toList, false⟩, "[::1]:80"⟩
  let second : Backend := ⟨⟨[], Url.plainHost, some 9091, "/b/".toList, false⟩, "[::1]:9091"⟩
  let third : Backend := ⟨.ofPath ['/'], "[::1]:80"⟩
  let both : Backend := ⟨.ofPath "/b//".toList, "[::1]:80"⟩
  let far : Uri := ⟨some "http", some "[::1]:9091", "/b//x", some "y"⟩
  let last : Uri := ⟨some "http", some "[::1]:80", "/b//x", some "y"⟩
  have hfirst : Backend.parse "http://[::1]//" = .ok first := by decide +kernel
  have hsecond : Backend.parse "http://[::1]:9091/a/../b/" = .ok second := by decide +kernel
  have hboth : both.basePath = joinAtSlash second.basePath first.basePath := by decide +kernel
  have hmid : first.target "/x?y#z" none =
      .ok ⟨some "http", some "[::1]:80", "//x", some "y"⟩ := by decide +kernel
  have hfar : second.target "//x" (some "y") = .ok far := by decide +kernel
  have hlast : third.target far.path far.query = .ok last := by decide +kernel
  have hends : far.path.toList.all (!Uri.endsPath ·) = true := by decide +kernel
  have hroom : both.HasRoom "/x?y#z" none := by
    unfold HasRoom
    decide +kernel
  obtain ⟨-, -, htwo, hslash⟩ := two_backends_like_one
  obtain ⟨hsame, hexists⟩ := (htwo _ _ first second hfirst hsecond).2 both hboth "/x?y#z" none
  obtain ⟨out, hout⟩ := hexists.mpr ⟨hroom, _, _, hmid, hfar⟩
  obtain ⟨hpath, hquery⟩ := hsame _ _ out hmid hfar hout
  obtain ⟨-, hkept⟩ := hslash third rfl far.path far.query last (by decide +kernel) hlast
  exact ⟨first, second, third, both, _, far, last, out, hfirst, hsecond, rfl, hboth, hmid, hfar,
    hlast, hout, rfl, rfl, hpath, hquery,
    hkept.mpr fun c hc => by simpa using List.all_eq_true.mp hends c hc⟩

/-- A path with a hash sign in it is left only up to there, although the base path is a slash alone
and there is an address. -/
theorem not_every_path_kept :
    ¬∀ (url : String) (b : Backend) (path : String) (query : Option String) (out : Uri),
      Backend.parse url = .ok b → b.basePath = ['/'] → path.toList.head? = some '/' →
      b.target path query = .ok out → out.path = path := by
  intro hkept
  let b : Backend := ⟨⟨[], Url.plainHost, some 9091, ['/'], false⟩, "[::1]:9091"⟩
  have hb : Backend.parse "http://[::1]:9091" = .ok b := by decide +kernel
  have hout : b.target "/a#b" none = .ok ⟨some "http", some "[::1]:9091", "/a", none⟩ := by
    decide +kernel
  have hpath := hkept _ b "/a#b" none _ hb rfl (by decide +kernel) hout
  exact absurd hpath (by decide)

end Backend

end ScopeGateway
