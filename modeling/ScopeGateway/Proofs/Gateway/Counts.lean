import Mathlib.Data.List.Basic
import Std.Data.String.ToNat
import ScopeGateway.Proofs.Gateway.Runs
import ScopeGateway.Proofs.Scope.Sequence

/-!
What a gateway's counts say about a run: how many exchanges the backend was to answer, by method and
by the status that the sender got, and how many of them went on with another query.
-/
namespace ScopeGateway

open Http

theorem Http.Method.ne_comma (m : Method) : ∀ c ∈ m.text.toList, (c == ',') = false := by
  intro c hmem
  rw [beq_eq_false_iff_ne]
  rintro rfl
  have hvalid := m.valid
  unfold isMethod at hvalid
  rw [Bool.and_eq_true, List.all_eq_true] at hvalid
  exact absurd (hvalid.2 ',' hmem) (by decide)

namespace Count

variable {m : Method} {status : Nat}

/-- The series whose value is how often something was counted. -/
def name : Count → String
  | request m status =>
    "proxy_requests_total\x7bmethod=" ++ m.text ++ ",status=" ++ toString status ++ "\x7d"
  | injection => "proxy_scope_injections_total"

/-- The value of a series after some counts. -/
def value (counts : List Count) (series : String) : Nat := ((tally counts).lookup series).getD 0

theorem value_eq (counts : List Count) (series : String) :
    value counts series = (counts.flatMap Count.series).count series := by
  unfold value tally
  by_cases hmem : series ∈ counts.flatMap Count.series
  · rw [List.lookup_graph _ (List.mem_eraseDups.mpr hmem)]
    rfl
  · have hnone : ((counts.flatMap Count.series).eraseDups.map fun name =>
        (name, (counts.flatMap Count.series).count name)).lookup series = none := by
      rw [List.lookup_eq_none_iff]
      intro entry hentry
      obtain ⟨other, hother, rfl⟩ := List.mem_map.mp hentry
      rw [bne_iff_ne]
      rintro rfl
      exact hmem (List.mem_eraseDups.mp hother)
    rw [List.count_eq_zero.mpr hmem, hnone]
    rfl

theorem toList_name_request (m : Method) (status : Nat) : (request m status).name.toList =
    "proxy_requests_total\x7bmethod=".toList ++ (m.text.toList ++
      ',' :: ("status=".toList ++ ((toString status).toList ++ "\x7d".toList))) := by
  have hcomma : ",status=".toList = [','] ++ "status=".toList := by decide +kernel
  unfold name
  simp only [String.toList_append, hcomma]
  simp only [List.append_assoc, List.cons_append, List.nil_append]

theorem name_request_ne {series : String}
    (h : ¬"proxy_requests_total\x7bmethod=".toList <+: series.toList) :
    (request m status).name ≠ series := by
  rintro rfl
  rw [toList_name_request] at h
  exact h (List.prefix_append ..)

/-- No method has a comma in it, so two series of requests differ in the method or the status. -/
theorem name_injective : Function.Injective name := by
  intro c d h
  cases c with
  | injection =>
    cases d with
    | injection => rfl
    | request m status => exact absurd h.symm (name_request_ne (by decide))
  | request m status =>
    cases d with
    | injection => exact absurd h (name_request_ne (by decide))
    | request m' status' =>
      have hlist := congrArg String.toList h
      rw [toList_name_request, toList_name_request] at hlist
      have hcut := congrArg (Text.cut (· == ',')) (List.append_cancel_left hlist)
      rw [Text.cut_append_cons m.ne_comma (beq_self_eq_true _),
        Text.cut_append_cons m'.ne_comma (beq_self_eq_true _), Prod.mk.injEq,
        Option.some.injEq] at hcut
      have hdigits := List.append_cancel_right (List.append_cancel_left hcut.2)
      obtain ⟨text, valid⟩ := m
      obtain ⟨text', valid'⟩ := m'
      obtain rfl : text = text' := String.toList_inj.mp hcut.1
      obtain rfl := Nat.repr_inj.mp (String.toList_inj.mp hdigits)
      rfl

/-- A count adds one to its own series, and nothing to those of other counts. -/
theorem count_name_series (c d : Count) : d.series.count c.name = if d = c then 1 else 0 := by
  have hduration : "proxy_request_duration_seconds" ≠ c.name := by
    cases c with
    | injection => decide
    | request m status => exact (name_request_ne (by decide)).symm
  have hown : [d.name].count c.name = if d = c then 1 else 0 := by
    rw [List.count_singleton]
    simp only [beq_iff_eq, name_injective.eq_iff]
  cases d with
  | injection => exact hown
  | request m status =>
    change ([(request m status).name] ++ ["proxy_request_duration_seconds"]).count c.name = _
    rw [List.count_append, hown, List.count_eq_zero.mpr (by simpa using hduration.symm),
      Nat.add_zero]

theorem value_name (counts : List Count) (c : Count) : value counts c.name = counts.count c := by
  rw [value_eq]
  induction counts with
  | nil => rfl
  | cons d rest ih =>
    rw [List.flatMap_cons, List.count_append, ih, count_name_series, List.count_cons, Nat.add_comm]
    simp only [beq_iff_eq]

end Count

instance (a : Amendment) : Decidable a.IsInjected :=
  match a with
  | .injected amended => .isTrue ⟨amended, rfl⟩
  | .unchanged => .isFalse fun ⟨_, h⟩ => nomatch h
  | .unparseable => .isFalse fun ⟨_, h⟩ => nomatch h

namespace Rule

variable {r : Rule} {uri : Uri}

/-- What is amended with a token that passes validation goes on as another query. -/
theorem queryFor_ne (h : (r.amend uri).IsInjected) (htoken : isToken r.grant.token = true) :
    r.queryFor uri ≠ uri.query := by
  obtain ⟨amended, hinjected⟩ := h
  obtain ⟨-, query, hquery, hamend⟩ := amend_eq_injected_iff.mp hinjected
  rw [queryFor_of_injected hinjected, hquery, Ne, Option.some.injEq]
  exact Grant.amended_ne hamend htoken

theorem queryFor_eq (h : ¬(r.amend uri).IsInjected) : r.queryFor uri = uri.query :=
  queryFor_of_not_qualifies (exists_amend_eq_injected.not.mp h)

end Rule

namespace Gateway

/-- An arrival with what it has led to, where it is an exchange that the backend was to answer: the
exchange and the answer that its sender has got. -/
def answered? (g : Gateway) : Arrival × Report → Option (Exchange × Answer)
  | (.exchange e, { seen := .answer a, .. }) =>
    if g.route e.request.uri = .backend then some (e, a) else none
  | _ => none

/-- What an exchange adds to the counts when the backend was to answer it. -/
def countsOf (g : Gateway) (p : Exchange × Answer) : List Count :=
  g.rule.counts p.1.request.uri ++ [.request p.1.request.method p.2.status]

/-- Each arrival of a run with what it has led to. -/
def course (g : Gateway) (link : Link) (isStopping : Bool) (arrivals : List Arrival) :
    List (Arrival × Report) :=
  arrivals.zip (g.run link isStopping arrivals).2

/-- What a run has counted after so many arrivals. -/
def countsBy (g : Gateway) (link : Link) (isStopping : Bool) (arrivals : List Arrival) (n : Nat) :
    List Count :=
  ((g.run link isStopping arrivals).2.take n).flatMap Report.counts

/-- The exchanges among so many arrivals that the backend was to answer, with the answers that their
senders have got. -/
def answeredBy (g : Gateway) (link : Link) (isStopping : Bool) (arrivals : List Arrival) (n : Nat) :
    List (Exchange × Answer) :=
  ((g.course link isStopping arrivals).take n).filterMap g.answered?

variable {g : Gateway} {link : Link} {isStopping : Bool} {arrivals : List Arrival} {a : Arrival}
  {report : Report} {e : Exchange} {answer : Answer}

theorem counts_attempt (g : Gateway) (e : Exchange) (out : Request) :
    (g.attempt e out).counts = [.request e.request.method (g.attempt e out).answer.status] := by
  unfold attempt
  split
  · rfl
  · simp only
    split
    · rfl
    · rfl

theorem counts_forward (g : Gateway) (e : Exchange) :
    (g.forward e).counts = g.countsOf (e, (g.forward e).answer) := by
  unfold forward countsOf
  simp only [List.append_cancel_left_eq]
  split
  · rfl
  · exact counts_attempt g e _

theorem counts_serve (g : Gateway) (e : Exchange) :
    (g.serve e).2.counts = (g.answered? (.exchange e, (g.serve e).2)).elim [] g.countsOf := by
  unfold serve handle answered?
  simp only
  cases g.route e.request.uri with
  | health => rfl
  | nowhere => rfl
  | backend => exact counts_forward g e

/-- An arrival adds to the counts only if the backend was to answer it, and then what the exchange
and its answer say. -/
theorem counts_step (g : Gateway) (link : Link) (isStopping : Bool) (a : Arrival) :
    (g.step link isStopping a).2.counts =
      (g.answered? (a, (g.step link isStopping a).2)).elim [] g.countsOf := by
  cases a with
  | stop => rfl
  | garbage =>
    unfold step
    simp only
    split_ifs
    · rfl
    · rfl
  | exchange e =>
    unfold step
    simp only
    split_ifs
    · rfl
    · exact counts_serve g e

/-- Who has got an answer that the backend was to give has got the one that comes of forwarding. -/
theorem answered?_step_eq_some
    (h : g.answered? (a, (g.step link isStopping a).2) = some (e, answer)) :
    a = .exchange e ∧ answer = (g.forward e).answer := by
  cases a with
  | stop => cases h
  | garbage => cases h
  | exchange e' =>
    unfold step at h
    simp only at h
    split_ifs at h
    · cases h
    · unfold serve handle answered? at h
      simp only at h
      split_ifs at h with hroute
      simp only [hroute, Option.some.injEq, Prod.mk.injEq] at h
      obtain ⟨rfl, rfl⟩ := h
      exact ⟨rfl, rfl⟩

theorem course_cons (g : Gateway) (link : Link) (isStopping : Bool) (a : Arrival)
    (rest : List Arrival) : g.course link isStopping (a :: rest) =
      (a, (g.step link isStopping a).2) ::
        g.course link (g.step link isStopping a).1 rest := rfl

theorem length_run (g : Gateway) (link : Link) (isStopping : Bool) (arrivals : List Arrival) :
    (g.run link isStopping arrivals).2.length = arrivals.length := by
  induction arrivals generalizing isStopping with
  | nil => rfl
  | cons a rest ih => exact congrArg Nat.succ (ih _)

/-- What an arrival of a run has led to is what one step makes of it. -/
theorem exists_step_of_mem_course (h : (a, report) ∈ g.course link isStopping arrivals) :
    ∃ wasStopping, report = (g.step link wasStopping a).2 := by
  induction arrivals generalizing isStopping with
  | nil => cases h
  | cons b rest ih =>
    rw [course_cons] at h
    obtain heq | hrest := List.mem_cons.mp h
    · obtain ⟨rfl, rfl⟩ := Prod.mk.inj heq
      exact ⟨isStopping, rfl⟩
    · exact ih hrest

theorem counts_of_mem_course (h : (a, report) ∈ g.course link isStopping arrivals) :
    report.counts = (g.answered? (a, report)).elim [] g.countsOf := by
  obtain ⟨wasStopping, rfl⟩ := exists_step_of_mem_course h
  exact counts_step g link wasStopping a

/-- What a run has counted is what its answered exchanges say, one after the other. -/
theorem countsBy_eq (g : Gateway) (link : Link) (isStopping : Bool) (arrivals : List Arrival)
    (n : Nat) : g.countsBy link isStopping arrivals n =
      (g.answeredBy link isStopping arrivals n).flatMap g.countsOf := by
  have hreports : (g.run link isStopping arrivals).2.take n =
      ((g.course link isStopping arrivals).take n).map Prod.snd := by
    rw [course, List.map_take, List.map_snd_zip (length_run ..).le]
  have hmem (p : Arrival × Report) (hp : p ∈ (g.course link isStopping arrivals).take n) :
      p.2.counts = (g.answered? p).elim [] g.countsOf :=
    counts_of_mem_course (List.mem_of_mem_take hp)
  rw [countsBy, answeredBy, hreports, List.flatMap_map, List.flatMap_congr hmem]
  generalize (g.course link isStopping arrivals).take n = taken
  induction taken with
  | nil => rfl
  | cons p rest ih =>
    rw [List.flatMap_cons, ih, List.filterMap_cons]
    cases g.answered? p <;> rfl

theorem request_mem_countsOf_iff {q : Exchange × Answer} {m : Method} {status : Nat} :
    .request m status ∈ g.countsOf q ↔ q.1.request.method = m ∧ q.2.status = status := by
  unfold countsOf Rule.counts
  cases g.rule.amend q.1.request.uri <;> simp [eq_comm]

theorem injection_mem_countsOf_iff {q : Exchange × Answer} :
    .injection ∈ g.countsOf q ↔ (g.rule.amend q.1.request.uri).IsInjected := by
  unfold countsOf Rule.counts Amendment.IsInjected
  cases g.rule.amend q.1.request.uri <;> simp

theorem nodup_countsOf (g : Gateway) (q : Exchange × Answer) : (g.countsOf q).Nodup := by
  unfold countsOf Rule.counts
  cases g.rule.amend q.1.request.uri <;> simp

/-- No exchange is counted twice, so the value of a series is a number of exchanges. -/
theorem value_countsBy (g : Gateway) (link : Link) (isStopping : Bool) (arrivals : List Arrival)
    (n : Nat) (c : Count) : Count.value (g.countsBy link isStopping arrivals n) c.name =
      (g.answeredBy link isStopping arrivals n).countP fun q => c ∈ g.countsOf q := by
  rw [Count.value_name, countsBy_eq]
  induction g.answeredBy link isStopping arrivals n with
  | nil => rfl
  | cons q rest ih =>
    rw [List.flatMap_cons, List.count_append, ih, List.countP_cons, Nat.add_comm,
      (g.nodup_countsOf q).count]
    simp only [decide_eq_true_eq]

/-- At every moment of a run, the requests counted with a method and a status are the exchanges with
the method that the backend was to answer and whose senders have got the status, and the injections
are those of them whose queries are amended. Nothing else is counted. An exchange goes on with
another query if it is counted as an injection, and with its own if not. -/
theorem counts_what_happened (s : Settings) (h : s.check = .ok ()) :
    ∃ g, Gateway.ofSettings s = .ok g ∧
      ∀ (link : Link) (isStopping : Bool) (arrivals : List Arrival),
        (∀ n m status,
          Count.value (g.countsBy link isStopping arrivals n) (Count.request m status).name =
            (g.answeredBy link isStopping arrivals n).countP fun q =>
              q.1.request.method = m ∧ q.2.status = status) ∧
        (∀ n, Count.value (g.countsBy link isStopping arrivals n) Count.injection.name =
          (g.answeredBy link isStopping arrivals n).countP fun q =>
            (s.rule.amend q.1.request.uri).IsInjected) ∧
        (g.run link isStopping arrivals).2.length = arrivals.length ∧
        ∀ a report, (a, report) ∈ g.course link isStopping arrivals →
          (g.answered? (a, report) = none → report.counts = []) ∧
          ∀ e answer, g.answered? (a, report) = some (e, answer) →
            a = .exchange e ∧ answer = (g.forward e).answer ∧
            (.injection ∈ report.counts → (g.forwarding e).query ≠ e.request.uri.query) ∧
            (.injection ∉ report.counts → (g.forwarding e).query = e.request.uri.query) := by
  obtain ⟨b, -, hg⟩ := exists_ofSettings h
  have htoken := Settings.exists_check_iff.mp ⟨s, h, rfl⟩
  refine ⟨_, hg, fun link isStopping arrivals => ⟨fun n m status => ?_, fun n => ?_, length_run ..,
    fun a report hmem => ?_⟩⟩
  · rw [value_countsBy]
    simp only [request_mem_countsOf_iff]
  · rw [value_countsBy]
    simp only [injection_mem_countsOf_iff]
  · have hcounts := counts_of_mem_course hmem
    refine ⟨fun hnone => ?_, fun e answer hsome => ?_⟩
    · rw [hcounts, hnone]
      rfl
    · rw [hsome] at hcounts
      change report.counts = countsOf _ (e, answer) at hcounts
      rw [hcounts, injection_mem_countsOf_iff]
      obtain ⟨wasStopping, rfl⟩ := exists_step_of_mem_course hmem
      obtain ⟨harrival, hanswer⟩ := answered?_step_eq_some hsome
      exact ⟨harrival, hanswer, fun hinjected => Rule.queryFor_ne hinjected htoken,
        Rule.queryFor_eq⟩

def healthRequest : Request := { bareRequest with uri := ⟨none, none, "/healthz", none⟩ }

def grantedRequest : Request :=
  ⟨getMethod, ⟨none, none, "/api/oidc/authorization", some "scope=openid"⟩, {}, []⟩

/-- A health check, a request that is amended for a backend that refuses it, something that is no
request, a request that the backend answers, and one that comes after the stop. -/
def mixedArrivals (peer : Net.IpAddress) : List Arrival :=
  [.exchange ⟨healthRequest, peer, .refused, [], false⟩,
    .exchange ⟨grantedRequest, peer, .refused, [], false⟩, .garbage,
    .exchange ⟨bareRequest, peer, .acts pausingScript, [], false⟩, .stop,
    .exchange ⟨grantedRequest, peer, .refused, [], false⟩]

theorem counts_of_mixedArrivals :
    ∃ g, Gateway.ofSettings { backendUrl := "http://[::1]:9091" } = .ok g ∧
      ∃ counts, counts = g.countsBy .up false (mixedArrivals (.v4 #v[127, 0, 0, 1])) 6 ∧
        Count.value counts "proxy_requests_total\x7bmethod=GET,status=502\x7d" = 1 ∧
        Count.value counts "proxy_requests_total\x7bmethod=GET,status=200\x7d" = 1 ∧
        Count.value counts "proxy_scope_injections_total" = 1 := by
  obtain ⟨g, hg, h⟩ := counts_what_happened _ check_near
  obtain rfl := Except.ok.inj (hg.symm.trans ofSettings_near)
  obtain ⟨hrequests, hinjections, -⟩ := h .up false (mixedArrivals (.v4 #v[127, 0, 0, 1]))
  refine ⟨_, hg, _, rfl, (hrequests 6 getMethod 502).trans ?_, (hrequests 6 getMethod 200).trans ?_,
    (hinjections 6).trans ?_⟩
  · decide +kernel
  · decide +kernel
  · decide +kernel

end Gateway

end ScopeGateway
