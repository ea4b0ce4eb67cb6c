import XelisWallet.DartXswdState

/-!
Which applications a wallet handle accepts, over all interleavings of callbacks, state reads, closes
and stops.

An application is accepted only if a state read has listed its session and its capability was never
given up; one that is refused after it was accepted is refused for good. A capability whose decision
is pending outlives the state reads, until one has listed it. A read that was answered before the
session was admitted removes it, if another read has listed it in the meantime.
-/

namespace XelisWallet.DartXswd

open Runs Xswd NativeXswdState

/-- The revision and the number of given up capabilities that a read in progress has noted. -/
def Read.started : Read → Option (ℕ × ℕ)
  | .asking revision since | .asked revision since .. | .listing revision since
  | .half revision since _ | .listed revision since .. => some (revision, since)
  | .idle | .returned .. | .failed => none

/-- The answer of a read that ends it: the revision it has noted, the number of sessions admitted
when the answer was taken, and the list. -/
def Read.answer : Read → Option (ℕ × ℕ × List AppInfo)
  | .asked revision _ taken false => some (revision, taken, [])
  | .listed revision _ taken applications => some (revision, taken, applications)
  | _ => none

lemma Read.started_of_answer {read : Read} {revision taken : ℕ} {applications : List AppInfo}
    (h : read.answer = some (revision, taken, applications)) :
    ∃ since, read.started = some (revision, since) := by
  unfold answer at h
  split at h
  · cases h
    exact ⟨_, rfl⟩
  · cases h
    exact ⟨_, rfl⟩
  · cases h

/-- What a read has of the native list are sessions that had been admitted when it was taken. -/
def Read.Known (sessions : List ℕ) : Read → Prop
  | .half _ _ applications => ∀ native ∈ applications, native.sessionRef ∈ sessions
  | .listed _ _ taken applications =>
    ∀ native ∈ applications, native.sessionRef ∈ sessions.take taken
  | _ => True

lemma Read.Known.append {sessions : List ℕ} {read : Read} (h : read.Known sessions)
    (l : List ℕ) : read.Known (sessions ++ l) := by
  cases read with
  | half => exact fun native hn => List.mem_append_left l (h native hn)
  | listed =>
    intro native hn
    rw [List.take_append]
    exact List.mem_append_left _ (h native hn)
  | _ => trivial

/-- The connected sessions and those that reads have were admitted. -/
structure Natives (reads : ℕ → Read) (connected : List AppInfo) (sessions : List ℕ) : Prop where
  connected : ∀ native ∈ connected, native.sessionRef ∈ sessions
  reads : ∀ k, (reads k).Known sessions

lemma Natives.setRead {reads : ℕ → Read} {connected : List AppInfo} {sessions : List ℕ}
    (h : Natives reads connected sessions) (k : ℕ) {read : Read} (hr : read.Known sessions) :
    Natives (Function.update reads k read) connected sessions := by
  refine ⟨h.connected, fun j => ?_⟩
  by_cases hj : j = k
  · subst hj; simpa using hr
  · simpa [hj] using h.reads j

namespace Handle

variable {s s' t u : Handle} {a : Ref} {c d k : ℕ} {p q : NativeXswdSessionCapability}
  {x : NativeXswdState}

/-! ### What a step does -/

/-- What every step does: capabilities move, those given up are noted, and a read keeps its notes
or makes new ones. -/
structure Follows (s s' : Handle) : Prop where
  terminal : s.terminal = true → s'.terminal = true
  deactivated : s'.deactivated = (s.update s'.xswd).deactivated
  moves : ∃ seen, s'.observed = s.observed ++ seen ∧ Moves (· ∈ seen) s.xswd s'.xswd
  reads : ∀ k, (s'.reads k).started = (s.reads k).started ∨ (s'.reads k).started = none ∨
    (s'.reads k).started = some (s'.xswd.revision, s'.deactivated.length)
  natives : Natives s.reads s.connected s.sessions → Natives s'.reads s'.connected s'.sessions

@[simp]
lemma update_same (s : Handle) : (s.update s.xswd).deactivated = s.deactivated := by
  have : (List.range s.xswd.heap.length).filter (fun c => !s.xswd.isActive c &&
      (s.xswd.isActive c || s.xswd.heap.length ≤ c)) = [] := by
    refine List.filter_eq_nil_iff.mpr fun c hc => ?_
    have := List.mem_range.mp hc
    cases s.xswd.isActive c with
    | true => simp
    | false => simpa using this
  simp [update, this]

lemma follows_update {terminal} {applicationOperations} {lifecycleOperationInProgress} {decisions}
    {operations} (hx : ∀ seen, Moves seen s.xswd x) (ht : s.terminal = true → terminal = true) :
    Follows s { s.update x with
      terminal, applicationOperations, lifecycleOperationInProgress, decisions, operations } :=
  ⟨ht, rfl, ⟨[], (List.append_nil _).symm, hx _⟩, fun _ => .inl rfl, id⟩

lemma follows_same {applicationOperations} {lifecycleOperationInProgress} {operations} {running}
    {connected} {sessions}
    (hn : Natives s.reads s.connected s.sessions → Natives s.reads connected sessions) :
    Follows s { s with
      applicationOperations, lifecycleOperationInProgress, operations, running, connected,
      sessions } :=
  ⟨id, (update_same s).symm, ⟨[], (List.append_nil _).symm, .refl⟩, fun _ => .inl rfl, hn⟩

lemma follows_setRead {read : Read} (h : read.started = (s.reads k).started ∨
    read.started = none ∨ read.started = some (s.xswd.revision, s.deactivated.length))
    (hn : Natives s.reads s.connected s.sessions → read.Known s.sessions) :
    Follows s (s.setRead k read) := by
  refine ⟨id, (update_same s).symm, ⟨[], by simp [setRead], .refl⟩, fun j => ?_,
    fun h => h.setRead k (hn h)⟩
  by_cases hj : j = k
  · subst hj
    simpa [setRead] using h
  · exact .inl (by simp [setRead, hj])

lemma follows_applyRead (s : Handle) (k : ℕ) (isRunning : Bool) (applications : List AppInfo) :
    Follows s (s.applyRead k isRunning applications) := by
  refine ⟨id, rfl, ⟨_, rfl, ?_⟩, fun j => ?_, fun h => h.setRead k trivial⟩
  · refine fun hx => (applied_moves s.xswd applications hx).imp_right fun h => ?_
    have : s.xswd.Lists applications = (· ∈ applications.filterMap fun native =>
        (s.xswd.adaptApplications applications).capabilities native.sessionRef) := by
      funext c
      simp [NativeXswdState.Lists]
    exact this ▸ h
  · by_cases hj : j = k
    · subst hj
      exact .inr (.inl (by simp [applyRead, setRead, Read.started]))
    · exact .inl (by simp [applyRead, setRead, update, hj])

lemma follows_finish (s : Handle) (j : ℕ) (ok : Bool) (operation : Operation) :
    Follows s (s.finish j ok operation) := by
  cases operation with
  | start | relayer => exact follows_same id
  | stop =>
    cases ok with
    | true => exact follows_update (fun _ => invalidateAll_moves) id
    | false => exact follows_same id
  | close name c =>
    cases ok with
    | true => exact follows_update (fun _ => tombstone_moves) id
    | false => exact follows_same id

lemma adapt_moves (native : AppInfo) (seen : ℕ → Prop) :
    Moves seen x (x.adaptApplication native false) :=
  adaptApplication_moves nofun

/-- The arrival of a native answer restarts the read, lets it go on, or applies its list. -/
lemma step_reply (h : s.step (.reply k) = some s') :
    (∃ revision since, (s.reads k).started = some (revision, since) ∧
      revision ≠ s.xswd.revision ∧ s' = s.startRead k) ∨
    (∃ revision since taken, s.reads k = .asked revision since taken true ∧
      s' = s.setRead k (.listing revision since)) ∨
    ∃ since isRunning taken applications, (s.reads k).started = some (s.xswd.revision, since) ∧
      (s.reads k).answer = some (s.xswd.revision, taken, applications) ∧
      s' = s.applyRead k isRunning applications := by
  unfold step at h
  simp only at h
  split at h
  · next revision since taken isRunning hr =>
    obtain rfl := Option.some.inj h
    split
    · next hne => exact .inl ⟨revision, since, by rw [hr, Read.started], hne, rfl⟩
    next he =>
    obtain rfl := not_not.mp he
    cases isRunning with
    | true => exact .inr (.inl ⟨_, _, _, hr, rfl⟩)
    | false =>
      exact .inr (.inr ⟨since, false, taken, [], by rw [hr, Read.started], by rw [hr]; rfl, rfl⟩)
  · next revision since taken applications hr =>
    obtain rfl := Option.some.inj h
    split
    · next hne => exact .inl ⟨revision, since, by rw [hr, Read.started], hne, rfl⟩
    next he =>
    obtain rfl := not_not.mp he
    exact .inr (.inr ⟨since, true, taken, applications, by rw [hr, Read.started], by rw [hr]; rfl,
      rfl⟩)
  · cases h

lemma step_follows {l : Action} (h : s.step l = some s') : Follows s s' := by
  cases l
  case reply k =>
    obtain ⟨r, n, -, -, rfl⟩ | ⟨r, n, m, hr, rfl⟩ | ⟨n, b, t, l, -, -, rfl⟩ := step_reply h
    · exact follows_setRead (.inr (.inr rfl)) fun _ => trivial
    · exact follows_setRead (.inl (by rw [hr, Read.started, Read.started])) fun _ => trivial
    · exact follows_applyRead s k b l
  case finished j ok =>
    obtain ⟨operation, -, rfl⟩ := Option.map_eq_some_iff.mp h
    exact follows_finish s j ok operation
  all_goals simp only [step, startLifecycle, startApplication] at h
  case applicationRequest d native =>
    split at h <;> cases h
    exact follows_update (fun seen => startDecision_moves.trans (adapt_moves native seen)) id
  case decided d outcome =>
    split at h <;> cases h
    exact follows_update (fun _ => completeDecision_moves outcome) id
  case permissionRequest native =>
    cases h
    exact follows_update (adapt_moves native) id
  case cancelRequest native b =>
    cases h
    exact follows_update (fun seen => (startRequestCancellation_moves b).trans
      (adapt_moves native seen)) id
  case applicationDisconnect native =>
    cases h
    exact follows_update (fun seen => startApplicationDisconnect_moves.trans
      (adapt_moves native seen)) id
  case getXswdState =>
    split at h <;> cases h
    exact follows_setRead (.inr (.inr rfl)) fun _ => trivial
  case takeRunning =>
    split at h <;> cases h
    next hr =>
    exact follows_setRead (.inl (by rw [hr, Read.started, Read.started])) fun _ => trivial
  case takeServer =>
    split at h <;> cases h
    next hr =>
    refine follows_setRead (.inl (by rw [hr, Read.started, Read.started])) fun hn native h => ?_
    exact hn.connected native (List.mem_filter.mp h).1
  case takeRelayer k =>
    split at h <;> cases h
    next hr =>
    refine follows_setRead (.inl (by rw [hr, Read.started, Read.started])) fun hn native h => ?_
    have hk := hn.reads k
    rw [hr] at hk
    rw [List.take_length]
    exact (List.mem_append.mp h).elim (hk native) fun h =>
      hn.connected native (List.mem_filter.mp h).1
  case readFailed =>
    split at h <;> cases h <;> exact follows_setRead (.inr (.inl rfl)) fun _ => trivial
  case startXswd | stopXswd | addXswdRelayer =>
    split at h <;> cases h
    exact follows_same id
  case closeXswdApplicationSession =>
    split at h
    · split at h <;> cases h
      exact follows_same id
    · cases h
  case close | dispose =>
    split at h <;> cases h
    exact follows_update (fun _ => invalidateAll_moves) (by simp)
  case connect =>
    split at h <;> cases h
    refine follows_same fun hn => ⟨fun n h => ?_, fun k => (hn.reads k).append _⟩
    refine List.mem_append.mpr ((List.mem_append.mp h).imp (hn.connected n) fun h => ?_)
    rw [List.mem_singleton.mp h]
    exact List.mem_singleton_self _
  case leave =>
    cases h
    exact follows_same fun hn => ⟨fun n h => hn.connected n (List.mem_filter.mp h).1, hn.reads⟩
  case setRunning =>
    cases h
    exact follows_same id

/-! ### The invariant -/

/-- An admitted capability was listed, one that was given up is not active, and a read whose
revision is the current one has missed no capability that was given up. -/
structure Inv (s : Handle) : Prop where
  wf : s.xswd.WF
  admitted : ∀ {c p}, s.xswd.heap[c]? = some p → p.admitted = true → c ∈ s.observed
  gone : ∀ {c}, c ∈ s.deactivated → c < s.xswd.heap.length ∧ s.xswd.isActive c = false
  reads : ∀ {k r n}, (s.reads k).started = some (r, n) →
    r ≤ s.xswd.revision ∧ (r = s.xswd.revision → n = s.deactivated.length)
  natives : Natives s.reads s.connected s.sessions

lemma inv_init : Inv init where
  wf := wf_init
  admitted := nofun
  gone := nofun
  reads := nofun
  natives := ⟨nofun, fun _ => trivial⟩

lemma mem_update (h : c ∈ (s.update x).deactivated) : c ∈ s.deactivated ∨
    (c < x.heap.length ∧ x.isActive c = false) ∧
      (s.xswd.isActive c = true ∨ s.xswd.heap.length ≤ c) := by
  obtain h | h := List.mem_append.mp h
  · exact .inl h
  simp only [List.mem_filter, List.mem_range, Bool.and_eq_true, Bool.not_eq_true',
    Bool.or_eq_true, decide_eq_true_eq] at h
  exact .inr ⟨⟨h.1, h.2.1⟩, h.2.2⟩

lemma update_of_revision {seen : ℕ → Prop} (he : Evolves seen s.xswd x)
    (hrev : s.xswd.revision = x.revision) : (s.update x).deactivated = s.deactivated := by
  have : (List.range x.heap.length).filter (fun c => !x.isActive c &&
      (s.xswd.isActive c || s.xswd.heap.length ≤ c)) = [] := by
    refine List.filter_eq_nil_iff.mpr fun c hc h => ?_
    simp only [Bool.and_eq_true, Bool.not_eq_true', Bool.or_eq_true, decide_eq_true_eq] at h
    have hq := List.getElem?_eq_getElem (List.mem_range.mp hc)
    have := he.givenUp hq (by rw [← isActive_of hq]; exact h.1) h.2
    omega
  simp [update, this]

lemma Inv.follows (h : Inv s) (hf : Follows s s') : Inv s' := by
  obtain ⟨seen, ho, hm⟩ := hf.moves
  obtain ⟨hwf, he⟩ := hm h.wf
  refine ⟨hwf, ?_, ?_, ?_, hf.natives h.natives⟩
  · intro c q hq ha
    rw [ho, List.mem_append]
    by_cases hc : c < s.xswd.heap.length
    · obtain ⟨q', hq', hk⟩ := he.kept (List.getElem?_eq_getElem hc)
      obtain rfl := Option.some.inj (hq.symm.trans hq')
      exact (hk.listed ha).imp_left (h.admitted (List.getElem?_eq_getElem hc))
    · exact .inr (he.made hq (not_lt.mp hc) ha)
  · intro c hc
    rw [hf.deactivated] at hc
    obtain hc | ⟨hc, -⟩ := mem_update hc
    · obtain ⟨hlt, hi⟩ := h.gone hc
      exact ⟨hlt.trans_le he.length, he.inactive hlt hi⟩
    · exact hc
  · intro k r n hk
    rcases hf.reads k with hr | hr | hr <;> rw [hr] at hk
    · obtain ⟨hle, hn⟩ := h.reads hk
      refine ⟨hle.trans he.revision, fun heq => ?_⟩
      have hrev : s.xswd.revision = s'.xswd.revision := le_antisymm he.revision (heq ▸ hle)
      rw [hf.deactivated, update_of_revision he hrev]
      exact hn (heq.trans hrev.symm)
    · cases hk
    · obtain ⟨rfl, rfl⟩ := Prod.mk.inj (Option.some.inj hk)
      exact ⟨le_rfl, fun _ => rfl⟩

lemma inv_of_reachable (h : Reachable handles s) : Inv s := by
  refine h.invariant (P := Inv) ?_ ?_
  · rintro _ rfl
    exact inv_init
  · intro s l t _ hs hst
    exact hs.follows (step_follows hst)

/-! ### Accepted applications -/

lemma accepts_iff : s.accepts a = some (c, p) ↔ s.terminal = false ∧
    s.xswd.applicationCapabilities a = some c ∧ s.xswd.heap[c]? = some p ∧ p.active = true ∧
    p.admitted = true ∧ s.xswd.capabilities p.sessionRef = some c := by
  unfold accepts
  cases ht : s.terminal with
  | true => simp
  | false =>
    simp only [Bool.false_eq_true, if_false, true_and]
    unfold capability
    cases ha : s.xswd.applicationCapabilities a with
    | none => simp
    | some d =>
      cases hd : s.xswd.heap[d]? with
      | none =>
        simp only [hd, reduceCtorEq, false_iff, not_and, Option.some.injEq]
        rintro rfl hp
        rw [hd] at hp
        cases hp
      | some =>
        simp only [hd, Option.some.injEq]
        constructor
        · intro h
          split at h
          · next hc =>
            obtain ⟨rfl, rfl⟩ := Prod.mk.inj (Option.some.inj h)
            simp only [Bool.and_eq_true, decide_eq_true_eq] at hc
            exact ⟨rfl, hd, hc.1.1, hc.1.2, hc.2⟩
          · cases h
        · rintro ⟨rfl, hp, h₁, h₂, h₃⟩
          obtain rfl := Option.some.inj (hd.symm.trans hp)
          simp [h₁, h₂, h₃]

/-- The handle is closed, or the capability of the application has been given up. -/
def Refused (c : ℕ) (s : Handle) : Prop :=
  s.terminal = true ∨ c < s.xswd.heap.length ∧ s.xswd.isActive c = false

lemma Refused.follows (hi : Inv s) (hf : Follows s s') (h : Refused c s) : Refused c s' := by
  obtain ⟨seen, -, hm⟩ := hf.moves
  have he := (hm hi.wf).2
  exact h.imp hf.terminal fun ⟨hlt, hi⟩ => ⟨hlt.trans_le he.length, he.inactive hlt hi⟩

/-- An application stays bound to its capability, which stays admitted. -/
def Bound (a : Ref) (c : ℕ) (s : Handle) : Prop :=
  s.xswd.applicationCapabilities a = some c ∧ ∃ p, s.xswd.heap[c]? = some p ∧ p.admitted = true

lemma Bound.follows (hi : Inv s) (hf : Follows s s') (h : Bound a c s) : Bound a c s' := by
  obtain ⟨seen, -, hm⟩ := hf.moves
  have he := (hm hi.wf).2
  obtain ⟨ha, p, hp, hadm⟩ := h
  obtain ⟨q, hq, hk⟩ := he.kept hp
  exact ⟨he.object ha, q, hq, hk.admitted hadm⟩

lemma run_keeps {P : Handle → Prop} (hP : ∀ s s', Inv s → Follows s s' → P s → P s')
    (hi : Inv s) {ls : List Action} (hr : Run handles s ls t) (hs : P s) : Inv t ∧ P t := by
  refine Run.preserves (P := fun s => Inv s ∧ P s) ?_ hr ⟨hi, hs⟩
  rintro s l t ⟨hi, hs⟩ hst
  have hf := step_follows hst
  exact ⟨hi.follows hf, hP s t hi hf hs⟩

lemma Bound.accepts_eq_none_iff (hi : Inv s) (h : Bound a c s) :
    s.accepts a = none ↔ Refused c s := by
  obtain ⟨ha, p, hp, hadm⟩ := h
  constructor
  · intro hn
    by_contra hr
    obtain ⟨ht, hact⟩ := not_or.mp hr
    have hact : p.active = true := by
      by_contra hi
      exact hact ⟨lt_length hp, by rw [isActive_of hp]; simpa using hi⟩
    rw [accepts_iff.mpr ⟨by simpa using ht, ha, hp, hact, hadm, hi.wf.active hp hact⟩] at hn
    cases hn
  · intro hr
    by_contra hs
    obtain ⟨⟨d, q⟩, hs⟩ := Option.ne_none_iff_exists'.mp hs
    obtain ⟨ht, ha', hq, hact, -⟩ := accepts_iff.mp hs
    obtain rfl := Option.some.inj (ha.symm.trans ha')
    obtain hr | ⟨-, hr⟩ := hr
    · rw [hr] at ht; cases ht
    · rw [isActive_of hq, hact] at hr; cases hr

lemma Bound.accepts_ne_none_iff (hi : Inv s) (h : Bound a c s) (ht : s.terminal = false) :
    s.accepts a ≠ none ↔ s.xswd.isActive c = true := by
  rw [Ne, h.accepts_eq_none_iff hi]
  obtain ⟨-, p, hp, -⟩ := h
  simp [Refused, ht, NativeXswdState.lt_length hp]

/-- **Refused for good.** -/
lemma refused_forever (hi : Inv s) {ls ms : List Action} (h₁ : Run handles s ls t)
    (h₂ : Run handles t ms u) (hs : s.accepts a ≠ none) (ht : t.accepts a = none) :
    u.accepts a = none := by
  obtain ⟨⟨c, p⟩, hs⟩ := Option.ne_none_iff_exists'.mp hs
  obtain ⟨-, ha, hp, -, hadm, -⟩ := accepts_iff.mp hs
  obtain ⟨hit, hbt⟩ := run_keeps (P := Bound a c) (fun _ _ hi hf => Bound.follows hi hf) hi h₁
    ⟨ha, p, hp, hadm⟩
  obtain ⟨hiu, hbu⟩ := run_keeps (P := Bound a c) (fun _ _ hi hf => Bound.follows hi hf) hit h₂ hbt
  refine (hbu.accepts_eq_none_iff hiu).mpr ?_
  exact (run_keeps (P := Refused c) (fun _ _ hi hf => Refused.follows hi hf) hit h₂
    ((hbt.accepts_eq_none_iff hit).mp ht)).2

/-! ### Decisions and state reads -/

/-- The step starts the admission decision for a capability, or accepts it. -/
def Decides (s : Handle) (l : Action) (s' : Handle) (c : ℕ) : Prop :=
  match l with
  | .applicationRequest _ native => s'.xswd.capabilities native.sessionRef = some c
  | .decided d outcome => outcome.grants = true ∧
      ∃ native, s.decisions d = some native ∧ s'.xswd.capabilities native.sessionRef = some c
  | _ => False

/-- A decision for the capability is pending. -/
def Pending (s : Handle) (c : ℕ) : Prop :=
  ∃ p, s.xswd.heap[c]? = some p ∧ p.pendingApplicationDecision = true

lemma Decides.pending (hi : Inv s) {l : Action} (hst : s.step l = some s')
    (h : Decides s l s' c) (ha : s'.xswd.isActive c = true) : Pending s' c := by
  unfold Decides at h
  split at h
  · unfold step at hst; simp only at hst; split at hst
    · obtain rfl := Option.some.inj hst
      exact startDecision_pending hi.wf h
    · cases hst
  · obtain ⟨hg, native, hn, hc⟩ := h
    unfold step at hst; simp only [hn] at hst
    obtain rfl := Option.some.inj hst
    exact completeDecision_pending hg hc ha
  · exact h.elim

lemma Decides.lt_length (hi : Inv s') {l : Action} (h : Decides s l s' c) :
    c < s'.xswd.heap.length := by
  unfold Decides at h
  split at h
  · obtain ⟨p, hp, -⟩ := hi.wf.mapped h
    exact NativeXswdState.lt_length hp
  · obtain ⟨-, native, -, h⟩ := h
    obtain ⟨p, hp, -⟩ := hi.wf.mapped h
    exact NativeXswdState.lt_length hp
  · exact h.elim

/-- Since `n` capabilities were listed, the decision has been pending while the capability is active
and no state read has listed it. -/
def Held (n c : ℕ) (s : Handle) : Prop :=
  n ≤ s.observed.length ∧ c < s.xswd.heap.length ∧
    (c ∉ s.observed.drop n → s.xswd.isActive c = true → Pending s c)

lemma Held.follows {n : ℕ} (hi : Inv s) (hf : Follows s s') (h : Held n c s) : Held n c s' := by
  obtain ⟨seen, ho, hm⟩ := hf.moves
  have he := (hm hi.wf).2
  obtain ⟨hn, hc, hp⟩ := h
  refine ⟨by rw [ho, List.length_append]; omega, hc.trans_le he.length, fun hd ha => ?_⟩
  rw [ho, List.drop_append_of_le_length hn, List.mem_append, not_or] at hd
  obtain ⟨p, hp, hpend⟩ := hp hd.1 (he.isActive hc ha)
  obtain ⟨q, hq, hk⟩ := he.kept hp
  rw [isActive_of hq] at ha
  exact ⟨q, hq, hk.pending hpend ha hd.2⟩

/-- A reply removes an active capability only if it is an answer that is not stale and does not
list the session, and no decision is pending. -/
lemma reply_keeps_iff (hi : Inv s) (hst : s.step (.reply k) = some s')
    (hp : s.xswd.heap[c]? = some p) (hact : p.active = true) :
    s'.xswd.isActive c = true ↔ ∀ revision taken applications,
      (s.reads k).answer = some (revision, taken, applications) → revision ≠ s.xswd.revision ∨
        p.pendingApplicationDecision = true ∨
        p.sessionRef ∈ applications.map AppInfo.sessionRef := by
  have hactive : s.xswd.isActive c = true := isActive_iff.mpr ⟨p, hp, hact⟩
  obtain ⟨n, m, hs, hne, rfl⟩ | ⟨_, _, _, hr, rfl⟩ | ⟨_, _, t, l, -, hr, rfl⟩ := step_reply hst
  · refine iff_of_true hactive fun revision taken applications hr => .inl ?_
    obtain ⟨since, hstarted⟩ := Read.started_of_answer hr
    obtain ⟨rfl, rfl⟩ := Prod.mk.inj (Option.some.inj (hs.symm.trans hstarted))
    exact hne
  · refine iff_of_true hactive fun revision taken applications hanswer => ?_
    rw [hr] at hanswer
    cases hanswer
  by_cases hkept : p.pendingApplicationDecision = true ∨
      p.sessionRef ∈ l.map AppInfo.sessionRef
  · refine iff_of_true (applied_keeps hi.wf l hp hact hkept).1 fun _ _ _ hanswer => .inr ?_
    obtain ⟨-, rfl⟩ := Prod.mk.inj (Prod.mk.inj (Option.some.inj (hr.symm.trans hanswer))).2
    exact hkept
  · obtain ⟨hpend, hl⟩ := not_or.mp hkept
    have hgone : (s.xswd.applied l).isActive c = false :=
      applied_removes hi.wf hp hact (by simpa using hpend) hl
    refine iff_of_false (fun h => Bool.false_ne_true (hgone.symm.trans h)) fun h => ?_
    obtain hrev | hkeep := h _ _ _ hr
    · exact hrev rfl
    · exact hkept hkeep

end Handle

open Handle

variable {s : Handle}

/-- **The XSWD sessions of a handle.** An accepted application is one the handle adapted, a state
read has listed its capability and it was never given up, and its reference is the one of its own
session, for which there is one session reference. What was accepted and is refused stays refused. A
list is applied only if no capability was given up since its read began. While a decision runs or
after it was accepted, state reads do not remove the capability until one has listed it. After that
a read removes it if and only if it does not list it, has the current revision and finds no decision
pending. -/
theorem accepted_sessions (hs : Reachable handles s) :
    (∀ a c p, s.accepts a = some (c, p) → c ∈ s.observed ∧ c ∉ s.deactivated ∧
      ∃ native application, s.application a = some (native, application) ∧
        p.sessionRef = native.sessionRef ∧ application.sessionReference = c) ∧
    (∀ a b m n x y, s.accepts a ≠ none → s.accepts b ≠ none → s.application a = some (m, x) →
      s.application b = some (n, y) → m.sessionRef = n.sessionRef →
        x.sessionReference = y.sessionReference) ∧
    (∀ n, s.accepts (.constructed n) = none) ∧
    (∀ a ls t ms u, Run handles s ls t → Run handles t ms u → s.accepts a ≠ none →
      t.accepts a = none → u.accepts a = none) ∧
    (∀ k s' isRunning applications, s.step (.reply k) = some s' →
      s'.reads k = .returned isRunning applications →
        ∃ revision, (s.reads k).started = some (revision, s.deactivated.length)) ∧
    ∀ l s' c, s.step l = some s' → Decides s l s' c → ∀ ls t, Run handles s' ls t →
      ∀ p, t.xswd.heap[c]? = some p → p.active = true → ∀ k u, t.step (.reply k) = some u →
        (c ∉ t.observed.drop s'.observed.length → u.xswd.isActive c = true) ∧
        (u.xswd.isActive c = true ↔ ∀ revision taken applications,
          (t.reads k).answer = some (revision, taken, applications) →
            revision ≠ t.xswd.revision ∨ p.pendingApplicationDecision = true ∨
            p.sessionRef ∈ applications.map AppInfo.sessionRef) := by
  have hi := inv_of_reachable hs
  have object : ∀ {a c p}, s.accepts a = some (c, p) → ∃ native application,
      s.application a = some (native, application) ∧ p.sessionRef = native.sessionRef ∧
        application.sessionReference = c := by
    intro a c p h
    obtain ⟨-, ha, hp, -⟩ := accepts_iff.mp h
    obtain ⟨n, native, q, rfl, happ, hq, hr⟩ := hi.wf.object ha
    obtain rfl := Option.some.inj (hp.symm.trans hq)
    exact ⟨native, _, happ, hr, rfl⟩
  refine ⟨fun a c p h => ⟨?_, ?_, object h⟩, ?_, ?_, ?_, ?_, ?_⟩
  · obtain ⟨-, -, hp, -, hadm, -⟩ := accepts_iff.mp h
    exact hi.admitted hp hadm
  · intro hd
    obtain ⟨-, -, hp, hact, -⟩ := accepts_iff.mp h
    have := (hi.gone hd).2
    rw [isActive_of hp, hact] at this
    cases this
  · intro a b m n x y ha hb hx hy hr
    obtain ⟨⟨c, p⟩, ha⟩ := Option.ne_none_iff_exists'.mp ha
    obtain ⟨⟨d, q⟩, hb⟩ := Option.ne_none_iff_exists'.mp hb
    obtain ⟨m', x', hx', hp, rfl⟩ := object ha
    obtain ⟨n', y', hy', hq, rfl⟩ := object hb
    obtain ⟨rfl, rfl⟩ := Prod.mk.inj (Option.some.inj (hx.symm.trans hx'))
    obtain ⟨rfl, rfl⟩ := Prod.mk.inj (Option.some.inj (hy.symm.trans hy'))
    -- the map has one capability for the session
    obtain ⟨-, -, -, -, -, hc⟩ := accepts_iff.mp ha
    obtain ⟨-, -, -, -, -, hd⟩ := accepts_iff.mp hb
    rw [hp, hr, ← hq] at hc
    exact Option.some.inj (hc.symm.trans hd)
  · intro n
    by_contra h
    obtain ⟨⟨c, p⟩, h⟩ := Option.ne_none_iff_exists'.mp h
    obtain ⟨native, application, happ, -⟩ := object h
    cases happ
  · intro a ls t ms u h₁ h₂
    exact refused_forever hi h₁ h₂
  · intro k s' b l hst hr
    obtain ⟨_, _, -, -, rfl⟩ | ⟨_, _, _, -, rfl⟩ | ⟨n, _, _, _, hstart, -, rfl⟩ := step_reply hst
    · simp [startRead, setRead] at hr
    · simp [setRead] at hr
    · rw [← (hi.reads hstart).2 rfl]
      exact ⟨_, hstart⟩
  · intro l s' c hst hdec ls t hr p hp hact k u hu
    have hi' := hi.follows (step_follows hst)
    -- pending when it was decided, and so until now
    have held : Held s'.observed.length c s' :=
      ⟨le_rfl, hdec.lt_length hi', fun _ => hdec.pending hi hst⟩
    obtain ⟨hit, -, -, hpending⟩ := run_keeps (P := Held s'.observed.length c)
      (fun _ _ hi hf => Held.follows hi hf) hi' hr held
    have hkeeps := reply_keeps_iff hit hu hp hact
    refine ⟨fun hd => hkeeps.mpr fun _ _ _ _ => .inr (.inl ?_), hkeeps⟩
    obtain ⟨q, hq, hpend⟩ := hpending hd (isActive_iff.mpr ⟨p, hp, hact⟩)
    obtain rfl := Option.some.inj (hp.symm.trans hq)
    exact hpend

def runHandle (actions : List Action) : Option Handle := actions.foldlM Handle.step .init

lemma runHandle_reachable (actions : List Action) (h : runHandle actions = some s) :
    Reachable handles s := by
  refine Reachable.exec (fun _ _ _ hstep => hstep) (.of_init ?_) actions h
  rfl

def wallet7 : AppInfo := ⟨7, "id", "name", "description", none, [], false⟩

/-- The session is requested, accepted and admitted, and the read 1 lists it. -/
def admitted : List Action :=
  [.applicationRequest 0 wallet7, .decided 0 .accept, .connect wallet7, .getXswdState 1,
    .takeRunning 1, .reply 1, .takeServer 1, .takeRelayer 1, .reply 1]

theorem listed_session_is_accepted : ∃ s,
    runHandle (.setRunning true :: admitted) = some s ∧
    s.accepts (.adapted 1) = some (0, ⟨7, true, true, false⟩) ∧ 0 ∈ s.observed ∧
    0 ∉ s.deactivated ∧ s.accepts (.constructed 0) = none := by
  have h := accepted_sessions (runHandle_reachable (.setRunning true :: admitted) rfl)
  obtain ⟨ho, hd, -⟩ := h.1 (.adapted 1) 0 ⟨7, true, true, false⟩ rfl
  exact ⟨_, rfl, rfl, ho, hd, h.2.2.1 0⟩

/-- The read 0 is told that the server is not running, and then the server is started. When its
answer arrives, it removes the session, whose decision was accepted. -/
theorem early_answer_removes_session : ∃ s s' t u,
    runHandle [.getXswdState 0, .takeRunning 0, .setRunning true,
      .applicationRequest 0 wallet7] = some s ∧
    s.step (.decided 0 .accept) = some s' ∧ Decides s (.decided 0 .accept) s' 0 ∧
    (admitted.drop 2).foldlM Handle.step s' = some t ∧ t.xswd.isActive 0 = true ∧
    t.reads 0 = .asked 0 0 0 false ∧ t.step (.reply 0) = some u ∧ u.reads 0 = .returned false [] ∧
    u.xswd.isActive 0 = false :=
  ⟨_, _, _, _, rfl, rfl, ⟨rfl, wallet7, rfl, rfl⟩, rfl, rfl, rfl, rfl, rfl, rfl⟩

/-! ### Overlapping state reads -/

variable {s' : Handle} {a : Ref} {k c revision taken : ℕ} {p : NativeXswdSessionCapability}
  {applications : List AppInfo}

/-- **Overlapping state reads.** A list that was taken before a session was admitted does not have
it. An answer that does not list the session of an accepted application leaves the application
accepted if and only if a capability was given up since the read began, so that it is read again, or
a new decision for the session is pending. -/
theorem early_answer_keeps_iff (hs : Reachable handles s)
    (hr : (s.reads k).answer = some (revision, taken, applications))
    (hst : s.step (.reply k) = some s') (ha : s.accepts a = some (c, p)) :
    (p.sessionRef ∉ s.sessions.take taken →
      p.sessionRef ∉ applications.map AppInfo.sessionRef) ∧
    (p.sessionRef ∉ applications.map AppInfo.sessionRef →
      (s'.accepts a ≠ none ↔
        revision ≠ s.xswd.revision ∨ p.pendingApplicationDecision = true)) := by
  have hi := inv_of_reachable hs
  obtain ⟨ht, hobj, hp, hact, hadm, hmap⟩ := accepts_iff.mp ha
  refine ⟨fun hm hl => ?_, fun hl => ?_⟩
  · obtain ⟨native, hn, hnr⟩ := List.mem_map.mp hl
    have hk := hi.natives.reads k
    unfold Read.answer at hr
    split at hr
    · obtain ⟨-, -, rfl⟩ : _ ∧ _ ∧ _ := by simpa using hr
      cases hn
    · next hread =>
      obtain ⟨-, rfl, rfl⟩ : _ ∧ _ ∧ _ := by simpa using hr
      rw [hread] at hk
      exact hm (hnr ▸ hk native hn)
    · cases hr
  · have hf := step_follows hst
    have hb : Bound a c s' := Bound.follows hi hf ⟨hobj, p, hp, hadm⟩
    have hterminal : s'.terminal = s.terminal := by
      obtain ⟨_, _, -, -, rfl⟩ | ⟨_, _, _, -, rfl⟩ | ⟨_, _, _, _, -, -, rfl⟩ := step_reply hst
      all_goals rfl
    rw [hb.accepts_ne_none_iff (hi.follows hf) (hterminal.trans ht),
      reply_keeps_iff hi hst hp hact]
    constructor
    · intro h
      obtain hrev | hpend | hlisted := h _ _ _ hr
      · exact .inl hrev
      · exact .inr hpend
      · exact absurd hlisted hl
    · intro h _ _ _ hanswer
      cases hr.symm.trans hanswer
      exact h.imp_right .inl

/-- Both reads are under way, and the read 0 has taken its list before the session is admitted. -/
def overlapping : List Action :=
  [.setRunning true, .getXswdState 0, .takeRunning 0, .reply 0, .takeServer 0, .takeRelayer 0] ++
    admitted

/-- Another session disconnects in between, and the read 0 starts again. -/
theorem early_answer_is_read_again : ∃ s s',
    runHandle (overlapping ++ [.applicationDisconnect { wallet7 with sessionRef := 8 }]) =
      some s ∧
    s.step (.reply 0) = some s' ∧ s'.accepts (.adapted 1) ≠ none := by
  refine ⟨_, _, rfl, rfl, ?_⟩
  have h := early_answer_keeps_iff (a := .adapted 1) (k := 0) (runHandle_reachable (overlapping ++
    [.applicationDisconnect { wallet7 with sessionRef := 8 }]) rfl) rfl rfl rfl
  exact (h.2 List.not_mem_nil).mpr (.inl (by decide))

/-- The answer of the read 0 arrives after the read 1 has listed the session, which is still
connected. Its applications are refused. -/
theorem early_answer_drops_live_session : ∃ s s', runHandle overlapping = some s ∧
    s.accepts (.adapted 1) = some (0, ⟨7, true, true, false⟩) ∧
    s.reads 1 = .returned true [.adapted 1] ∧ s.reads 0 = .listed 0 0 0 [] ∧ s.sessions = [7] ∧
    s.step (.reply 0) = some s' ∧ s'.connected = [wallet7] ∧ s'.running = true ∧
    s'.accepts (.adapted 1) = none ∧ s'.accepts (.adapted 0) = none :=
  ⟨_, _, rfl, rfl, rfl, rfl, rfl, rfl, rfl, rfl, rfl, rfl⟩

end XelisWallet.DartXswd
