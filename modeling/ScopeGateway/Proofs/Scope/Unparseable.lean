import ScopeGateway.Proofs.Form.Lossless
import ScopeGateway.Proofs.Scope.Amendment

/-!
The queries that an amendment leaves alone as unparseable: those that say other bytes once they are
read and written anew.
-/
namespace ScopeGateway.Grant

open Form

/-- Writing the parameters anew keeps every byte of them, or the query does not decode cleanly. -/
theorem byteParams_render_parse_iff {query : String} :
    byteParams (render (parse query)) = byteParams query ↔ isLossless query = true := by
  rw [byteParams_render, isLossless_iff_map_bytes]

/-- A query decodes cleanly where the bytes of every name and value are text, so where reading it
as text substitutes nothing; and it is unparseable for every grant, with a scope parameter or
without one, where writing it anew would change some name or value. Escapes that are none stand for
themselves, U+FFFD may be said by its escapes, and what is written from parameters is clean. -/
theorem unparseable_iff_rewriting_loses_bytes (query : String) :
    (isLossless query = true ↔ ∀ p ∈ byteParams query, p.IsText) ∧
    parse query = (byteParams query).map ByteParam.read ∧
    (isLossless query = true ↔ (parse query).map Param.bytes = byteParams query) ∧
    (∀ g : Grant, g.amend query = .unparseable ↔
      byteParams (render (parse query)) ≠ byteParams query) ∧
    (∀ before after, opensEscape (rawBytes after) = false →
      isLossless (before ++ "%" ++ after) = isLossless (before ++ "%25" ++ after) ∧
        parse (before ++ "%" ++ after) = parse (before ++ "%25" ++ after)) ∧
    (∀ before after,
      isLossless (before ++ "%EF%BF%BD" ++ after) = isLossless (before ++ "\uFFFD" ++ after) ∧
        parse (before ++ "%EF%BF%BD" ++ after) = parse (before ++ "\uFFFD" ++ after)) ∧
    ∀ params, isLossless (render params) = true ∧ parse (render params) = params := by
  refine ⟨isLossless_iff, parse_eq_map_read query, isLossless_iff_map_bytes, fun g => ?_,
    fun before after h => ?_, fun before after => ?_, fun params => ?_⟩
  · rw [amend_eq_unparseable_iff, ne_eq, byteParams_render_parse_iff, Bool.not_eq_true]
  · exact ⟨isLossless_congr (byteParams_percent before h),
      parse_congr (byteParams_percent before h)⟩
  · exact ⟨isLossless_congr (byteParams_replacement before after),
      parse_congr (byteParams_replacement before after)⟩
  · exact ⟨isLossless_render params, parse_render params⟩

theorem clean_discount :
    opensEscape (rawBytes "&scope=openid") = false ∧
      isLossless ("discount=5" ++ "%" ++ "&scope=openid") =
        isLossless ("discount=5" ++ "%25" ++ "&scope=openid") := by
  have hopens : opensEscape (rawBytes "&scope=openid") = false := by decide +kernel
  have ⟨_, _, _, _, hpercent, _⟩ := unparseable_iff_rewriting_loses_bytes "discount=5%&scope=openid"
  exact ⟨hopens, (hpercent "discount=5" "&scope=openid" hopens).1⟩

end ScopeGateway.Grant
