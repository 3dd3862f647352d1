import ScopeGateway.Gateway.Run
import ScopeGateway.Proofs.Gateway.Stops

/-!
Runs of a gateway: until it is asked to stop, no arrival can tell which others came before it, and
after that nobody gets through.
-/
namespace ScopeGateway.Gateway

open Http

/-- The gateway is asked to stop: from outside, or by the backend of an exchange that is sent. -/
def Asks (g : Gateway) : Arrival → Prop
  | .stop => True
  | .exchange e =>
    (g.handle e).sent.isSome ∧ ∃ script, e.contact = .acts script ∧ Act.stop ∈ untilClose script
  | .garbage => False

/-- The reports of a run with a link, from the start on. -/
def reports (g : Gateway) (arrivals : List Arrival) : List Report := (g.run .up false arrivals).2

/-- What comes of an arrival at a gateway that nobody has asked to stop. -/
def alone (g : Gateway) (a : Arrival) : Report := (g.step .up false a).2

/-- What comes of an arrival after the stop. -/
def turnedAway : Arrival → Report
  | .stop => { seen := .nothing }
  | .exchange _ | .garbage => refusal

variable {g : Gateway} {a : Arrival} {before after arrivals : List Arrival}

theorem step_fst_iff : (g.step .up false a).1 = true ↔ g.Asks a := by
  cases a with
  | stop => exact iff_of_true rfl trivial
  | garbage => exact iff_of_false Bool.false_ne_true id
  | exchange e =>
    change decide _ = true ↔ _
    rw [decide_eq_true_iff]
    exact (g.fits_handle e).stop_iff

theorem run_cons_of_not_asks (h : ¬g.Asks a) (rest : List Arrival) :
    g.run .up false (a :: rest) = ((g.run .up false rest).1, g.alone a :: g.reports rest) := by
  have hgoesOn : (g.step .up false a).1 = false := by
    rw [← Bool.not_eq_true, step_fst_iff]
    exact h
  rw [run]
  simp only [hgoesOn]
  rfl

theorem run_of_stopped (arrivals : List Arrival) :
    g.run .up true arrivals = (true, arrivals.map turnedAway) := by
  induction arrivals with
  | nil => rfl
  | cons a rest ih =>
    have hstep : g.step .up true a = (true, turnedAway a) := by cases a <;> rfl
    rw [run, hstep]
    simp only [ih]
    rfl

theorem run_cons_of_asks (h : g.Asks a) (rest : List Arrival) :
    g.run .up false (a :: rest) = (true, g.alone a :: rest.map turnedAway) := by
  rw [run]
  simp only [step_fst_iff.mpr h, run_of_stopped]
  rfl

/-- As long as nobody asks to stop, a run is one arrival beside the other. -/
theorem reports_append (h : ∀ b ∈ before, ¬g.Asks b) (rest : List Arrival) :
    g.reports (before ++ rest) = before.map g.alone ++ g.reports rest := by
  induction before with
  | nil => rfl
  | cons b before ih =>
    rw [List.cons_append, reports, run_cons_of_not_asks (h b List.mem_cons_self),
      ih fun b hb => h b (List.mem_cons_of_mem _ hb)]
    rfl

theorem exists_reports_cons (a : Arrival) (rest : List Arrival) :
    ∃ later, g.reports (a :: rest) = g.alone a :: later := by
  by_cases h : g.Asks a
  · exact ⟨_, congrArg Prod.snd (run_cons_of_asks h rest)⟩
  · exact ⟨_, congrArg Prod.snd (run_cons_of_not_asks h rest)⟩

theorem reports_singleton (a : Arrival) : (g.reports [a])[0]? = some (g.alone a) := by
  obtain ⟨later, heq⟩ := exists_reports_cons (g := g) a []
  rw [heq]
  rfl

theorem getElem?_reports_of_not_asks (h : ∀ b ∈ before, ¬g.Asks b) (a : Arrival)
    (after : List Arrival) :
    (g.reports (before ++ a :: after))[before.length]? = some (g.alone a) := by
  obtain ⟨later, heq⟩ := exists_reports_cons (g := g) a after
  rw [reports_append h, heq, List.getElem?_append_right (List.length_map ..).le, List.length_map,
    Nat.sub_self]
  rfl

/-- The first that asks to stop is the last that gets through. -/
theorem getElem?_reports_of_asks (h : ∃ b ∈ before, g.Asks b) (a : Arrival)
    (after : List Arrival) :
    (g.reports (before ++ a :: after))[before.length]? = some (turnedAway a) := by
  obtain ⟨b, hb, hasks⟩ := h
  induction before with
  | nil => cases hb
  | cons first rest ih =>
    rw [List.cons_append, List.length_cons, reports]
    by_cases hfirst : g.Asks first
    · rw [run_cons_of_asks hfirst, List.getElem?_cons_succ, List.getElem?_map]
      simp
    · rw [run_cons_of_not_asks hfirst, List.getElem?_cons_succ]
      obtain rfl | hb := List.mem_cons.mp hb
      · exact absurd hasks hfirst
      · exact ih hb

theorem getLast?_events_alone (h : g.Asks a) : (g.alone a).events.getLast? = some .stopped := by
  cases a with
  | stop => rfl
  | garbage => exact absurd h id
  | exchange e =>
    change (g.handle e).events.getLast? = _
    rw [Handling.events, if_neg ((g.fits_handle e).stop_iff.mpr h), List.getLast?_concat]

theorem stopped_not_mem_alone (h : ¬g.Asks a) : .stopped ∉ (g.alone a).events := by
  cases a with
  | stop => exact absurd trivial h
  | garbage => exact List.not_mem_nil
  | exchange e =>
    have hfits := g.fits_handle e
    have hnever : (g.handle e).stop = .never := by
      by_contra hstop
      exact h (hfits.stop_iff.mp hstop)
    -- what is left are the exchange's own events, and none of them is the end of a run
    intro hmem
    have hown : .stopped ∈ (g.handle e).before ++ (g.handle e).once := by
      simpa [alone, step, serve, Handling.events, hnever] using hmem
    exact absurd (hfits.hasCaller _ hown) (by decide)

theorem not_asks_withoutStops (g : Gateway) (e : Exchange) :
    ¬g.Asks (.exchange e.withoutStops) := by
  rintro ⟨-, script, hscript, hstop⟩
  cases hcontact : e.contact with
  | refused =>
    rw [Exchange.withoutStops, hcontact] at hscript
    cases hscript
  | acts acts =>
    rw [Exchange.withoutStops, hcontact] at hscript
    obtain rfl := Contact.acts.inj hscript
    have hmem := (List.takeWhile_sublist _).subset hstop
    exact of_decide_eq_true (List.mem_filter.mp hmem).2 rfl

/-- Until the gateway is asked to stop, what comes of an arrival is what comes of it at a fresh
gateway. The one during which the stop is asked for is no exception, and its end is the end of the
run, which has no end before; a tunnel that it leaves open ends later or not at all. Later callers
are refused, and nothing is sent for them. A request to stop changes neither the answer of its
exchange nor what the backend gets, and for its health the gateway answers by itself. -/
theorem stateless_until_stop (s : Settings) (h : s.check = .ok ()) :
    ∃ g, Gateway.ofSettings s = .ok g ∧
      (∀ (before : List Arrival) (a : Arrival) (after : List Arrival),
        ((∀ b ∈ before, ¬g.Asks b) → ∃ report,
          (g.reports (before ++ a :: after))[before.length]? = some report ∧
          (g.reports [a])[0]? = some report ∧
          (.stopped ∈ report.events ↔ g.Asks a) ∧
          (g.Asks a → report.events.getLast? = some .stopped)) ∧
        ((∃ b ∈ before, g.Asks b) → ∃ report,
          (g.reports (before ++ a :: after))[before.length]? = some report ∧
          (a ≠ .stop → report.seen = .refusal) ∧
          report.sent = none ∧ report.events = [] ∧ report.tunnelEnd = none ∧
          report.counts = [])) ∧
      ∀ e : Exchange, ∃ report quiet,
        (g.reports [.exchange e])[0]? = some report ∧
        (g.reports [.exchange e.withoutStops])[0]? = some quiet ∧
        ¬g.Asks (.exchange e.withoutStops) ∧
        report.seen = quiet.seen ∧ report.sent = quiet.sent ∧
        (e.request.uri.path = s.healthPath →
          report.seen = .answer (.ofResponse e.request.method (.plain 200 "OK")) ∧
          report.sent = none) := by
  obtain ⟨b, -, hg⟩ := exists_ofSettings h
  refine ⟨_, hg, fun before a after => ⟨fun hnone => ?_, fun hsome => ?_⟩, fun e => ?_⟩
  · refine ⟨_, getElem?_reports_of_not_asks hnone a after, reports_singleton a, ⟨fun hmem => ?_,
      fun hasks => List.mem_of_getLast? (getLast?_events_alone hasks)⟩, getLast?_events_alone⟩
    by_contra hno
    exact stopped_not_mem_alone hno hmem
  · refine ⟨_, getElem?_reports_of_asks hsome a after, ?_⟩
    cases a with
    | stop => exact ⟨absurd rfl, rfl, rfl, rfl, rfl⟩
    | garbage => exact ⟨fun _ => rfl, rfl, rfl, rfl, rfl⟩
    | exchange e => exact ⟨fun _ => rfl, rfl, rfl, rfl, rfl⟩
  · obtain ⟨hanswer, hsent⟩ := handle_withoutStops ⟨b, s.rule, s.healthPath, s.limits⟩ e
    refine ⟨_, _, reports_singleton _, reports_singleton _, not_asks_withoutStops _ e,
      congrArg Seen.answer hanswer.symm, hsent.symm, fun hhealth => ?_⟩
    have hhandle := handle_of_health (g := ⟨b, s.rule, s.healthPath, s.limits⟩) hhealth
    exact ⟨congrArg Seen.answer (congrArg Handling.answer hhandle),
      congrArg Handling.sent hhandle⟩

/-- The backend asks to stop, and then says nothing for as long as the gateway waits. -/
def lastScript : List Act := [.stop, .pass 30000]

theorem asks_lastScript {g : Gateway} (hb : g.backend = nearBackend) (hhealth : g.healthPath ≠ "/")
    (hlimit : g.limits.request = 30) (peer : Net.IpAddress) :
    g.Asks (.exchange ⟨bareRequest, peer, .acts lastScript, [], false⟩) := by
  refine ⟨?_, lastScript, rfl, by decide⟩
  let e : Exchange := ⟨bareRequest, peer, .acts lastScript, [], false⟩
  obtain ⟨out, hout⟩ := exists_request_of_root (f := g.forwarding e) (r := e.request) hb
    (Rule.queryFor_of_none rfl) rfl
  have hstart : Awaits 30000 [.stop] := ⟨by decide, by decide, _, rfl⟩
  have hends : Ends g.headLimit lastScript .late [] := by
    rw [headLimit, hlimit]
    exact .elapsed hstart (by decide)
  have hpath : bareRequest.uri.path.toList.head? = some '/' := by decide
  rw [handle_of_path (e := e) hhealth.symm hpath, (forward_of_ends hout rfl hends).1]
  rfl

/-- The one in the middle asks to stop, waits for its answer all the same, and is the last. -/
theorem last_of_three :
    ∃ g, Gateway.ofSettings { backendUrl := "http://[::1]:9091" } = .ok g ∧
      ∀ peer : Net.IpAddress, ∃ arrivals : List Arrival, ∃ last refused : Report,
        arrivals = [.exchange ⟨bareRequest, peer, .refused, [], false⟩,
          .exchange ⟨bareRequest, peer, .acts lastScript, [], false⟩,
          .exchange ⟨bareRequest, peer, .acts pausingScript, [], false⟩] ∧
        (g.reports arrivals)[1]? = some last ∧ last.events.getLast? = some .stopped ∧
        (g.reports arrivals)[2]? = some refused ∧ refused.seen = .refusal ∧
        refused.sent = none := by
  obtain ⟨g, hg, hruns, -⟩ := stateless_until_stop _ check_near
  obtain rfl := Except.ok.inj (hg.symm.trans ofSettings_near)
  refine ⟨_, hg, fun peer => ?_⟩
  let first : Arrival := .exchange ⟨bareRequest, peer, .refused, [], false⟩
  let middle : Arrival := .exchange ⟨bareRequest, peer, .acts lastScript, [], false⟩
  let third : Arrival := .exchange ⟨bareRequest, peer, .acts pausingScript, [], false⟩
  have hmiddle := asks_lastScript (g := ⟨nearBackend, ({} : Settings).rule, "/healthz", {}⟩) rfl
    (by decide) rfl peer
  have hfirst : ∀ b ∈ [first], ¬Asks ⟨nearBackend, ({} : Settings).rule, "/healthz", {}⟩ b := by
    intro b hb
    obtain rfl := List.mem_singleton.mp hb
    rintro ⟨-, script, hcontact, -⟩
    cases hcontact
  obtain ⟨last, hlast, -, -, hstopped⟩ := (hruns [first] middle [third]).1 hfirst
  obtain ⟨refused, hrefused, hseen, hsent, -⟩ :=
    (hruns [first, middle] third []).2 ⟨middle, by simp, hmiddle⟩
  exact ⟨_, last, refused, rfl, hlast, hstopped hmiddle, hrefused, hseen nofun, hsent⟩

end ScopeGateway.Gateway
