import ScopeGateway.Proofs.Settings.Faults

/-!
The conditions on settings, each by itself. The faults of settings are the conditions that they
break, each once and in a fixed order, and a value sways no faults but its own.
-/
namespace ScopeGateway

/-- Why a text names no backend. A later reason supposes that the earlier ones do not apply. -/
inductive Backend.Refuses (text : String) : BackendError → Prop
  | unreadable {e : Url.UrlError} : Url.parse text = .error e → Refuses text (.unreadable e)
  | unsupportedScheme {scheme : String} :
    Url.parse text = .ok (.other scheme) → Refuses text (.unsupportedScheme scheme)
  | unexpectedTail {url : Url.HttpUrl} :
    Url.parse text = .ok (.http url) → url.hasTail = true → Refuses text .unexpectedTail
  | invalidAuthority {url : Url.HttpUrl} :
    Url.parse text = .ok (.http url) → url.hasTail = false →
    Http.Uri.isAuthority (authorityOf url).toList = false →
    Refuses text (.invalidAuthority (authorityOf url))

theorem Backend.parse_eq_error_iff {text : String} {e : BackendError} :
    Backend.parse text = .error e ↔ Backend.Refuses text e := by
  constructor
  · intro h
    unfold Backend.parse Backend.ofUrl at h
    split at h
    · rename_i hurl
      obtain rfl := Except.error.inj h
      exact .unreadable hurl
    · rename_i hurl
      obtain rfl := Except.error.inj h
      exact .unsupportedScheme hurl
    · rename_i url hurl
      split at h
      · rename_i htail
        obtain rfl := Except.error.inj h
        exact .unexpectedTail hurl htail
      · rename_i htail
        split at h
        · cases h
        · rename_i hauthority
          obtain rfl := Except.error.inj h
          rw [Bool.not_eq_true] at htail hauthority
          exact .invalidAuthority hurl htail hauthority
  · rintro (hurl | hurl | ⟨hurl, htail⟩ | ⟨hurl, htail, hauthority⟩)
    · simp [Backend.parse, hurl]
    · simp [Backend.parse, hurl]
    · simp [Backend.parse, Backend.ofUrl, hurl, htail]
    · simp [Backend.parse, Backend.ofUrl, hurl, htail, hauthority]

namespace Settings

/-- The conditions that settings may break, each with the fault that tells of it. -/
inductive Breaks (s : Settings) : Fault → Prop
  | bindAddress : Net.SocketAddress.parse s.bindAddress = none →
    s.Breaks (.notAnAddress .bindAddress s.bindAddress)
  | metricsAddress : s.metrics.enabled = true →
    Net.SocketAddress.parse s.metrics.address = none →
    s.Breaks (.notAnAddress .metricsAddress s.metrics.address)
  | backend {e : BackendError} : Backend.Refuses s.backendUrl e → s.Breaks (.unusableBackend e)
  | healthPath : s.healthPath.toList.head? ≠ some '/' →
    s.Breaks (.relativePath .healthPath s.healthPath)
  | literal :
    (s.healthPath = "/" ∨ ∃ c ∈ s.healthPath.toList, c = '\x7b' ∨ c = '\x7d' ∨ c = '*') →
    s.Breaks (.notLiteral s.healthPath)
  | pathStart : s.rule.pathStart.toList.head? ≠ some '/' →
    s.Breaks (.relativePath .pathStart s.rule.pathStart)
  | token :
    (s.rule.grant.token = "" ∨ ∃ c ∈ s.rule.grant.token.toList, Text.isBlank c = true) →
    s.Breaks (.notAToken s.rule.grant.token)
  | connect : s.limits.connect = 0 → s.Breaks (.zeroLimit .connect)
  | request : s.limits.request = 0 → s.Breaks (.zeroLimit .request)
  | idle : s.limits.idle = 0 → s.Breaks (.zeroLimit .idle)
  | bodyIdle : s.limits.bodyIdle = 0 → s.Breaks (.zeroLimit .bodyIdle)

/-- Settings that keep every condition. -/
structure IsSound (s : Settings) : Prop where
  bindAddress : ∃ a, Net.SocketAddress.parse s.bindAddress = some a
  metricsAddress : s.metrics.enabled = true →
    ∃ a, Net.SocketAddress.parse s.metrics.address = some a
  backend : ∃ b, Backend.parse s.backendUrl = .ok b
  healthPath : s.healthPath.toList.head? = some '/'
  literal : s.healthPath ≠ "/" ∧ '\x7b' ∉ s.healthPath.toList ∧ '\x7d' ∉ s.healthPath.toList ∧
    '*' ∉ s.healthPath.toList
  pathStart : s.rule.pathStart.toList.head? = some '/'
  token : s.rule.grant.token ≠ "" ∧ ∀ c ∈ s.rule.grant.token.toList, Text.isBlank c = false
  limits : 0 < s.limits.connect ∧ 0 < s.limits.request ∧ 0 < s.limits.idle ∧
    0 < s.limits.bodyIdle

end Settings

section
variable {setting : Setting} {f : Fault}

theorem mem_faultsOfPath {value : String} : f ∈ faultsOfPath setting value ↔
    f = .relativePath setting value ∧ value.toList.head? ≠ some '/' := by
  unfold faultsOfPath
  split <;> simp_all

theorem mem_faultsOfLiteral {path : String} : f ∈ faultsOfLiteral path ↔
    f = .notLiteral path ∧
      (path = "/" ∨ ∃ c ∈ path.toList, c = '\x7b' ∨ c = '\x7d' ∨ c = '*') := by
  have hpattern : path.toList.any isPatternChar = true ↔
      ∃ c ∈ path.toList, c = '\x7b' ∨ c = '\x7d' ∨ c = '*' := by
    simp [List.any_eq_true, isPatternChar, or_assoc]
  rw [faultsOfLiteral, ← hpattern]
  split <;> simp_all

theorem mem_faultsOfToken {token : String} : f ∈ faultsOfToken token ↔
    f = .notAToken token ∧ (token = "" ∨ ∃ c ∈ token.toList, Text.isBlank c = true) := by
  have htoken : isToken token = false ↔
      token = "" ∨ ∃ c ∈ token.toList, Text.isBlank c = true := by
    rw [← Bool.not_eq_true, isToken_iff, Ne, String.toList_eq_nil_iff]
    simp [Decidable.or_iff_not_imp_left]
  rw [faultsOfToken, ← htoken]
  split <;> simp_all

theorem mem_faultsOfLimit {seconds : Nat} : f ∈ faultsOfLimit setting seconds ↔
    f = .zeroLimit setting ∧ seconds = 0 := by
  unfold faultsOfLimit
  split <;> simp_all

end

/-- Where a fault stands among all that settings may have. -/
def Fault.place : Fault → Nat
  | .notAnAddress .bindAddress _ => 0
  | .notAnAddress _ _ => 1
  | .unusableBackend _ => 2
  | .relativePath .healthPath _ => 3
  | .notLiteral _ => 4
  | .relativePath _ _ => 5
  | .notAToken _ => 6
  | .zeroLimit .connect => 7
  | .zeroLimit .request => 8
  | .zeroLimit .idle => 9
  | .zeroLimit _ => 10

/-- The faults stand in order, each once, between two places. -/
structure Fault.InOrder (low high : Nat) (l : List Fault) : Prop where
  le : low ≤ high
  pairwise : l.Pairwise fun a b => a.place < b.place
  bounds : ∀ f ∈ l, low ≤ f.place ∧ f.place < high

namespace Fault.InOrder

variable {low mid high : Nat} {l m : List Fault}

theorem append (hl : InOrder low mid l) (hm : InOrder mid high m) : InOrder low high (l ++ m) where
  le := Nat.le_trans hl.le hm.le
  pairwise := by
    refine List.pairwise_append.mpr ⟨hl.pairwise, hm.pairwise, fun a ha b hb => ?_⟩
    exact Nat.lt_of_lt_of_le (hl.bounds a ha).2 (hm.bounds b hb).1
  bounds f hf := by
    obtain hf | hf := List.mem_append.mp hf
    · exact ⟨(hl.bounds f hf).1, Nat.lt_of_lt_of_le (hl.bounds f hf).2 hm.le⟩
    · exact ⟨Nat.le_trans hl.le (hm.bounds f hf).1, (hm.bounds f hf).2⟩

/-- A check that gives one fault or none. -/
theorem of_sublist {f : Fault} (h : l.Sublist [f]) : InOrder f.place (f.place + 1) l where
  le := Nat.le_succ _
  pairwise := (List.pairwise_singleton _ f).sublist h
  bounds a ha := by
    rw [List.mem_singleton.mp (h.subset ha)]
    exact ⟨Nat.le_refl _, Nat.lt_succ_self _⟩

/-- Faults in order are determined by which they are. -/
theorem eq_of_mem_iff (hl : l.Pairwise fun a b => a.place < b.place)
    (hm : m.Pairwise fun a b => a.place < b.place) (h : ∀ f, f ∈ l ↔ f ∈ m) : l = m := by
  have hnodup {l : List Fault} (hl : l.Pairwise fun a b => a.place < b.place) : l.Nodup := by
    refine hl.imp fun {a b} hlt heq => ?_
    rw [heq] at hlt
    exact Nat.lt_irrefl _ hlt
  refine List.Perm.eq_of_pairwise (fun a b _ _ hab hba => ?_) hl hm
    ((List.perm_ext_iff_of_nodup (hnodup hl) (hnodup hm)).mpr h)
  exact absurd hba (Nat.lt_asymm hab)

end Fault.InOrder

section
variable (setting : Setting) (value : String)

theorem faultsOfAddress_sublist :
    (faultsOfAddress setting value).Sublist [.notAnAddress setting value] := by
  unfold faultsOfAddress
  split <;> simp

theorem faultsOfPath_sublist :
    (faultsOfPath setting value).Sublist [.relativePath setting value] := by
  unfold faultsOfPath
  split <;> simp

theorem faultsOfLiteral_sublist : (faultsOfLiteral value).Sublist [.notLiteral value] := by
  unfold faultsOfLiteral
  split <;> simp

theorem faultsOfToken_sublist : (faultsOfToken value).Sublist [.notAToken value] := by
  unfold faultsOfToken
  split <;> simp

theorem faultsOfLimit_sublist (seconds : Nat) :
    (faultsOfLimit setting seconds).Sublist [.zeroLimit setting] := by
  unfold faultsOfLimit
  split <;> simp

theorem exists_faultsOfBackend_sublist (url : String) :
    ∃ e, (faultsOfBackend url).Sublist [.unusableBackend e] := by
  unfold faultsOfBackend
  cases Backend.parse url with
  | ok b => exact ⟨.unexpectedTail, List.nil_sublist _⟩
  | error e => exact ⟨e, List.Sublist.refl _⟩

end

namespace Settings

variable {s : Settings}

theorem inOrder_faults (s : Settings) : Fault.InOrder 0 11 s.faults := by
  have hbind := Fault.InOrder.of_sublist (faultsOfAddress_sublist .bindAddress s.bindAddress)
  have hmetrics : Fault.InOrder 1 2
      (if s.metrics.enabled then faultsOfAddress .metricsAddress s.metrics.address else []) := by
    have haddress := faultsOfAddress_sublist .metricsAddress s.metrics.address
    split
    · exact .of_sublist haddress
    · exact .of_sublist (List.nil_sublist [.notAnAddress .metricsAddress s.metrics.address])
  obtain ⟨e, hbackend⟩ := exists_faultsOfBackend_sublist s.backendUrl
  have hlimit (setting : Setting) (seconds : Nat) :=
    Fault.InOrder.of_sublist (faultsOfLimit_sublist setting seconds)
  exact hbind.append hmetrics
    |>.append (.of_sublist hbackend)
    |>.append (.of_sublist (faultsOfPath_sublist .healthPath s.healthPath))
    |>.append (.of_sublist (faultsOfLiteral_sublist s.healthPath))
    |>.append (.of_sublist (faultsOfPath_sublist .pathStart s.rule.pathStart))
    |>.append (.of_sublist (faultsOfToken_sublist s.rule.grant.token))
    |>.append (hlimit .connect s.limits.connect)
    |>.append (hlimit .request s.limits.request)
    |>.append (hlimit .idle s.limits.idle)
    |>.append (hlimit .bodyIdle s.limits.bodyIdle)

theorem mem_faults_iff {f : Fault} : f ∈ s.faults ↔ s.Breaks f := by
  simp only [faults, List.mem_append, List.mem_ite_nil_right, mem_faultsOfAddress,
    mem_faultsOfBackend, mem_faultsOfPath, mem_faultsOfLiteral, mem_faultsOfToken,
    mem_faultsOfLimit, Backend.parse_eq_error_iff]
  constructor
  · rintro ((((((((((⟨rfl, h⟩ | ⟨hon, rfl, h⟩) | ⟨e, h, rfl⟩) | ⟨rfl, h⟩) | ⟨rfl, h⟩) | ⟨rfl, h⟩) |
      ⟨rfl, h⟩) | ⟨rfl, h⟩) | ⟨rfl, h⟩) | ⟨rfl, h⟩) | ⟨rfl, h⟩)
    · exact .bindAddress h
    · exact .metricsAddress hon h
    · exact .backend h
    · exact .healthPath h
    · exact .literal h
    · exact .pathStart h
    · exact .token h
    · exact .connect h
    · exact .request h
    · exact .idle h
    · exact .bodyIdle h
  · rintro (h | ⟨hon, h⟩ | h | h | h | h | h | h | h | h | h) <;> simp [*]

/-- The faults are the only list that has each broken condition once and in order. -/
theorem eq_faults_iff {l : List Fault} :
    l = s.faults ↔ (∀ f, f ∈ l ↔ s.Breaks f) ∧ l.Pairwise fun a b => a.place < b.place := by
  constructor
  · rintro rfl
    exact ⟨fun _ => mem_faults_iff, (inOrder_faults s).pairwise⟩
  · rintro ⟨hmem, hpairwise⟩
    refine Fault.InOrder.eq_of_mem_iff hpairwise (inOrder_faults s).pairwise fun f => ?_
    rw [hmem, mem_faults_iff]

theorem isSound_iff : s.IsSound ↔ ∀ f, ¬s.Breaks f := by
  constructor
  · rintro ⟨⟨a, hbind⟩, hmetrics, ⟨b, hbackend⟩, hhealth, ⟨hroot, hopen, hclosed, hstar⟩, hstart,
      ⟨hempty, hblank⟩, hconnect, hrequest, hidle, hbodyIdle⟩ f hf
    cases hf with
    | bindAddress h => cases hbind.symm.trans h
    | metricsAddress hon h =>
      obtain ⟨a, haddress⟩ := hmetrics hon
      cases haddress.symm.trans h
    | backend h => cases hbackend.symm.trans (Backend.parse_eq_error_iff.mpr h)
    | healthPath h => exact h hhealth
    | literal h =>
      obtain h | ⟨c, hc, rfl | rfl | rfl⟩ := h
      · exact hroot h
      · exact hopen hc
      · exact hclosed hc
      · exact hstar hc
    | pathStart h => exact h hstart
    | token h =>
      obtain h | ⟨c, hc, h⟩ := h
      · exact hempty h
      · exact absurd ((hblank c hc).symm.trans h) Bool.false_ne_true
    | connect h => exact Nat.ne_of_gt hconnect h
    | request h => exact Nat.ne_of_gt hrequest h
    | idle h => exact Nat.ne_of_gt hidle h
    | bodyIdle h => exact Nat.ne_of_gt hbodyIdle h
  · intro h
    refine ⟨?_, fun hon => ?_, ?_, ?_, ⟨?_, ?_, ?_, ?_⟩, ?_, ⟨?_, fun c hc => ?_⟩, ?_, ?_, ?_, ?_⟩
    · exact Option.ne_none_iff_exists'.mp fun hnone => h _ (.bindAddress hnone)
    · exact Option.ne_none_iff_exists'.mp fun hnone => h _ (.metricsAddress hon hnone)
    · cases hparse : Backend.parse s.backendUrl with
      | ok b => exact ⟨b, rfl⟩
      | error e => exact absurd (.backend (Backend.parse_eq_error_iff.mp hparse)) (h _)
    · exact Classical.not_not.mp fun hno => h _ (.healthPath hno)
    · exact fun hroot => h _ (.literal (.inl hroot))
    · exact fun hmem => h _ (.literal (.inr ⟨_, hmem, .inl rfl⟩))
    · exact fun hmem => h _ (.literal (.inr ⟨_, hmem, .inr (.inl rfl)⟩))
    · exact fun hmem => h _ (.literal (.inr ⟨_, hmem, .inr (.inr rfl)⟩))
    · exact Classical.not_not.mp fun hno => h _ (.pathStart hno)
    · exact fun hempty => h _ (.token (.inl hempty))
    · exact Bool.eq_false_iff.mpr fun hblank => h _ (.token (.inr ⟨c, hc, hblank⟩))
    · exact Nat.pos_of_ne_zero fun hzero => h _ (.connect hzero)
    · exact Nat.pos_of_ne_zero fun hzero => h _ (.request hzero)
    · exact Nat.pos_of_ne_zero fun hzero => h _ (.idle hzero)
    · exact Nat.pos_of_ne_zero fun hzero => h _ (.bodyIdle hzero)

theorem isSound_iff_faults : s.IsSound ↔ s.faults = [] := by
  simp only [isSound_iff, ← mem_faults_iff, List.eq_nil_iff_forall_not_mem]

end Settings

end ScopeGateway
