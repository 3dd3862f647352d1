import ScopeGateway.Proofs.Http.HopByHop

/-!
Headers along a chain of gateways. The first gateway settles them, and every further one only adds
its peer to the forwarders.
-/
namespace ScopeGateway.Http.Headers

open Text Text.Utf8

/-- What one gateway of the chain makes of headers. It hands on the wish that they came with. -/
def hop (h : Headers) (peer : Net.IpAddress) : Headers := h.passedOn peer h.wantedProtocol?

/-- One gateway after another, each with its own peer. -/
def hops (h : Headers) (peers : List Net.IpAddress) : Headers := peers.foldl hop h

/-- What a later gateway writes behind the forwarders that it finds. -/
def laterForwarder (peer : Net.IpAddress) : Bytes := [0x2C, 0x20] ++ encode peer.render.toList

/-- Nothing of the connection is left in the headers but one wish to switch, if there is one. -/
structure IsSettled (h : Headers) : Prop where
  connection : h.values .connection = (h.wantedProtocol?.map fun _ => upgradeValue).toList
  upgrade : h.values .upgrade = h.wantedProtocol?.toList
  others : ∀ n ∈ hopNames, n ≠ .connection → n ≠ .upgrade → h.values n = []

variable {h : Headers} {n : FieldName}

theorem wantedProtocol?_eq_some_iff {protocol : FieldValue} : h.wantedProtocol? = some protocol ↔
    h.Lists .upgrade ∧ (h.values .upgrade).head? = some protocol := by
  have hwish : h.Lists .upgrade ↔
      (h.connectionOptions.any fun text => text.map Char.toLower == upgradeOption) = true := by
    simp only [lists_iff_mem_connectionOptions, List.any_eq_true, beq_iff_eq]
    rfl
  rw [wantedProtocol?, hwish]
  split <;> simp_all

theorem not_lists_of_values_connection (hc : h.values .connection = []) : ¬h.Lists n := by
  rintro ⟨v, hv, -⟩
  rw [hc] at hv
  cases hv

/-- The value that a gateway writes lists one name only, and that is one of the connection. -/
theorem lists_iff_of_values_connection (hc : h.values .connection = [upgradeValue]) :
    h.Lists n ↔ n = .upgrade := by
  have htext : upgradeValue.text? = some upgradeOption := by decide +kernel
  have hpieces : splitOn (· == ',') upgradeOption = [upgradeOption] := by decide +kernel
  have hname : (trim upgradeOption).map Char.toLower = FieldName.upgrade.text.toList := by
    decide +kernel
  unfold Lists
  simp only [hc, List.mem_singleton, exists_eq_left, htext, Option.some.injEq, exists_eq_left',
    hpieces, hname]
  constructor
  · intro heq
    obtain ⟨text, hvalid⟩ := n
    obtain rfl := String.toList_inj.mp heq
    rfl
  · rintro rfl
    rfl

theorem values_connection_hop (h : Headers) (peer : Net.IpAddress) :
    (h.hop peer).values .connection = (h.wantedProtocol?.map fun _ => upgradeValue).toList := by
  rw [hop, values_passedOn, if_neg (by decide), if_pos rfl]

theorem values_upgrade_hop (h : Headers) (peer : Net.IpAddress) :
    (h.hop peer).values .upgrade = h.wantedProtocol?.toList := by
  rw [hop, values_passedOn, if_pos rfl]

theorem values_forwardedFor_hop (h : Headers) (peer : Net.IpAddress) :
    (h.hop peer).values .forwardedFor = [h.endToEnd.chain peer] := by
  rw [hop, values_passedOn, if_neg (by decide), if_neg (by decide), if_pos rfl]

/-- A wish to switch survives the hop, and no other comes up. -/
theorem wantedProtocol?_hop (h : Headers) (peer : Net.IpAddress) :
    (h.hop peer).wantedProtocol? = h.wantedProtocol? := by
  have hconn := values_connection_hop h peer
  have hup := values_upgrade_hop h peer
  cases hwish : h.wantedProtocol? with
  | none =>
    rw [hwish] at hconn
    rw [Option.eq_none_iff_forall_ne_some]
    intro protocol hsome
    exact not_lists_of_values_connection hconn (wantedProtocol?_eq_some_iff.mp hsome).1
  | some protocol =>
    rw [hwish] at hconn hup
    refine wantedProtocol?_eq_some_iff.mpr ⟨(lists_iff_of_values_connection hconn).mpr rfl, ?_⟩
    rw [hup]
    rfl

theorem isSettled_hop (h : Headers) (peer : Net.IpAddress) : (h.hop peer).IsSettled where
  connection := by rw [wantedProtocol?_hop, values_connection_hop]
  upgrade := by rw [wantedProtocol?_hop, values_upgrade_hop]
  others n hhop hconn hup := by
    have hfor : n ≠ .forwardedFor := by
      rintro rfl
      exact absurd hhop (by decide)
    rw [hop, values_passedOn, if_neg hup, if_neg hconn, if_neg hfor, if_pos (.inr hhop)]

namespace IsSettled

variable {peer : Net.IpAddress} {first : FieldValue}

/-- Settled headers list no field that a gateway would pass on. -/
theorem eq_upgrade_of_lists (hs : h.IsSettled) (hlists : h.Lists n) : n = .upgrade := by
  cases hwish : h.wantedProtocol? with
  | none =>
    have hconn := hs.connection
    rw [hwish] at hconn
    exact absurd hlists (not_lists_of_values_connection hconn)
  | some protocol =>
    have hconn := hs.connection
    rw [hwish] at hconn
    exact (lists_iff_of_values_connection hconn).mp hlists

theorem values_hop (hs : h.IsSettled) (hfor : n ≠ .forwardedFor) :
    (h.hop peer).values n = h.values n := by
  rw [hop, values_passedOn]
  by_cases hup : n = .upgrade
  · rw [if_pos hup, hup, hs.upgrade]
  by_cases hconn : n = .connection
  · rw [if_neg hup, if_pos hconn, hconn, hs.connection]
  rw [if_neg hup, if_neg hconn, if_neg hfor]
  split_ifs with hgone
  · obtain hlists | hhop := hgone
    · exact absurd (hs.eq_upgrade_of_lists hlists) hup
    · exact (hs.others n hhop hconn hup).symm
  · rfl

/-- Whoever sent settled headers stays in the chain, as the gateway writes its peer behind them. -/
theorem exists_values_forwardedFor_hop (hs : h.IsSettled) (hfirst : h.values .forwardedFor = [first])
    (peer : Net.IpAddress) :
    ∃ last, (h.hop peer).values .forwardedFor = [last] ∧
      last.bytes = first.bytes ++ laterForwarder peer := by
  have hkept : h.endToEnd.values .forwardedFor = [first] := by
    rw [values_endToEnd, if_neg, hfirst]
    rintro (hlists | hhop)
    · exact absurd (hs.eq_upgrade_of_lists hlists) (by decide)
    · exact absurd hhop (by decide)
  refine ⟨h.endToEnd.chain peer, values_forwardedFor_hop h peer, ?_⟩
  change h.endToEnd.forwarders peer = _
  rw [forwarders, hkept, List.flatMap_singleton, laterForwarder, List.append_assoc]

/-- A run of gateways over settled headers: by induction on the gateways that are left, with each
one's headers settled for the next. -/
theorem hops (hs : h.IsSettled) (hfirst : h.values .forwardedFor = [first])
    (later : List Net.IpAddress) :
    (∀ n ≠ .forwardedFor, (h.hops later).values n = h.values n) ∧
    (∃ last, (h.hops later).values .forwardedFor = [last] ∧
      last.bytes = first.bytes ++ later.flatMap laterForwarder) ∧
    (h.hops later).wantedProtocol? = h.wantedProtocol? := by
  induction later generalizing h first with
  | nil => exact ⟨fun _ _ => rfl, ⟨first, hfirst, by simp⟩, rfl⟩
  | cons peer rest ih =>
    obtain ⟨second, hsecond, hbytes⟩ := hs.exists_values_forwardedFor_hop hfirst peer
    obtain ⟨hothers, ⟨last, hlast, hchain⟩, hwish⟩ := ih (isSettled_hop h peer) hsecond
    refine ⟨fun n hn => (hothers n hn).trans (hs.values_hop hn), ⟨last, hlast, ?_⟩,
      hwish.trans (wantedProtocol?_hop h peer)⟩
    rw [hchain, hbytes, List.flatMap_cons, List.append_assoc]

end IsSettled

/-- Along a chain of gateways the headers are those after the first one, but for the forwarders: to
the one value that the first gateway made of them, every later one adds its peer. No name is lost
and none comes in. A wish to switch arrives as it was made, with one option of the connection and
the first of the protocols; and only a wish that was made arrives. -/
theorem first_hop_settles_headers (h : Headers) (peer : Net.IpAddress)
    (later : List Net.IpAddress) :
    (∀ n ≠ .forwardedFor, (h.hops (peer :: later)).values n = (h.hop peer).values n) ∧
    (∃ first last, (h.hop peer).values .forwardedFor = [first] ∧
      (h.hops (peer :: later)).values .forwardedFor = [last] ∧
      last.bytes = first.bytes ++
        later.flatMap fun peer => [0x2C, 0x20] ++ encode peer.render.toList) ∧
    (∀ n, (h.hops (peer :: later)).contains n = (h.hop peer).contains n) ∧
    (h.hops (peer :: later)).wantedProtocol? = h.wantedProtocol? ∧
    (∀ protocol, h.wantedProtocol? = some protocol ↔
      h.Lists .upgrade ∧ (h.values .upgrade).head? = some protocol) ∧
    (∀ protocol, h.wantedProtocol? = some protocol →
      ((h.hops (peer :: later)).values .connection).map FieldValue.bytes =
        [encode "upgrade".toList] ∧
      (h.hops (peer :: later)).values .upgrade = [protocol]) ∧
    (h.wantedProtocol? = none →
      (h.hops (peer :: later)).values .connection = [] ∧
      (h.hops (peer :: later)).values .upgrade = []) := by
  have hs := isSettled_hop h peer
  have hfirst := values_forwardedFor_hop h peer
  obtain ⟨hothers, ⟨last, hlast, hchain⟩, hwish⟩ := hs.hops hfirst later
  have hconn := (hothers .connection (by decide)).trans hs.connection
  have hup := (hothers .upgrade (by decide)).trans hs.upgrade
  rw [wantedProtocol?_hop] at hconn hup
  refine ⟨hothers, ⟨_, last, hfirst, hlast, hchain⟩, fun n => ?_,
    hwish.trans (wantedProtocol?_hop h peer), fun protocol => wantedProtocol?_eq_some_iff,
    fun protocol hsome => ?_, fun hnone => ?_⟩
  · rw [Bool.eq_iff_iff, contains_iff, contains_iff]
    by_cases hfor : n = .forwardedFor
    · subst hfor
      exact iff_of_true (fun hnil => nomatch hlast.symm.trans hnil)
        fun hnil => nomatch hfirst.symm.trans hnil
    · exact not_congr (iff_of_eq (congrArg (· = []) (hothers n hfor)))
  · rw [hsome] at hconn hup
    exact ⟨congrArg (List.map FieldValue.bytes) hconn, hup⟩
  · rw [hnone] at hconn hup
    exact ⟨hconn, hup⟩

/-- A wish with two protocols among fields of the connection, from behind an earlier gateway. -/
def tracedWish : Headers :=
  ⟨[⟨.connection, FieldValue.mk (encode "keep-alive, UPGRADE".toList)⟩,
    ⟨.connection, FieldValue.mk (encode "x-leg".toList)⟩,
    ⟨FieldName.mk "x-leg", FieldValue.mk (encode "north".toList)⟩,
    ⟨.upgrade, FieldValue.mk (encode "h2c".toList)⟩,
    ⟨.upgrade, FieldValue.mk (encode "foo/2".toList)⟩,
    ⟨.forwardedFor, FieldValue.mk (encode "192.0.2.1".toList)⟩]⟩

theorem tracedWish_after_three_hops :
    let out := tracedWish.hops
      [.v4 #v[203, 0, 113, 8], .v6 #v[0, 0, 0, 0, 0, 0, 0, 1], .v4 #v[198, 51, 100, 2]]
    (out.values .connection).map FieldValue.bytes = [encode "upgrade".toList] ∧
      (out.values .upgrade).map FieldValue.bytes = [encode "h2c".toList] ∧
      (out.values .forwardedFor).map FieldValue.bytes =
        [encode "192.0.2.1, 203.0.113.8, ::1, 198.51.100.2".toList] ∧
      out.values (FieldName.mk "x-leg") = [] := by
  intro out
  have hwish : tracedWish.wantedProtocol? = some (FieldValue.mk (encode "h2c".toList)) := by
    decide +kernel
  have hchain : ((tracedWish.hop (.v4 #v[203, 0, 113, 8])).values .forwardedFor).map
      FieldValue.bytes = [encode "192.0.2.1, 203.0.113.8".toList] := by
    decide +kernel
  obtain ⟨hothers, ⟨first, last, hfirst, hlast, hbytes⟩, -, -, -, hswitch, -⟩ :=
    first_hop_settles_headers tracedWish (.v4 #v[203, 0, 113, 8])
      [.v6 #v[0, 0, 0, 0, 0, 0, 0, 1], .v4 #v[198, 51, 100, 2]]
  obtain ⟨hconn, hup⟩ := hswitch _ hwish
  refine ⟨hconn, ?_, ?_, (hothers _ (by decide)).trans (by decide +kernel)⟩
  · rw [hup]
    rfl
  · rw [hfirst, List.map_singleton, List.cons.injEq] at hchain
    rw [hlast, List.map_singleton, hbytes, hchain.1]
    decide +kernel

end ScopeGateway.Http.Headers
