import XelisWallet.RuntimeLifecycle

/-!
The service is configured once.

At most one attempt has not failed, and the fields of the lifecycle say which one it is and how
far: that is the invariant, and a call finds one of its four shapes.
-/

namespace XelisWallet.RuntimeLifecycle

open Runs Service

variable {C E : Type}

def Attempt.Failed (a : Attempt C E) : Prop := ∃ e, a.phase = .settled (.error e)

def Attempt.Succeeded (a : Attempt C E) : Prop := a.phase.result = some (.ok ())

/-- All attempts but one have failed. -/
def OthersFailed (s : Service C E) (r : ℕ) : Prop :=
  ∀ r' a, r' ≠ r → s.attempts r' = some a → a.Failed

/-- The fields of the lifecycle are about this attempt. -/
inductive Current (l : Lifecycle C) (r : ℕ) (a : Attempt C E) : Prop
  | trying (hl : l = ⟨some r, some a.configuration, none, false⟩)
      (hphase : a.phase = .initializing ∨ ∃ result, a.phase = .returned result)
  | recorded (hl : l = ⟨some r, some a.configuration, some a.configuration, true⟩)
      (hphase : a.phase = .recorded)
  | ready (hl : l = ⟨none, none, some a.configuration, true⟩)
      (hphase : a.phase = .settled (.ok ()))

inductive Shape (s : Service C E) : Prop
  | idle (hl : s.lifecycle = ⟨none, none, none, false⟩)
      (hold : ∀ r a, s.attempts r = some a → a.Failed)
  | busy (r : ℕ) (a : Attempt C E) (ha : s.attempts r = some a)
      (hcurrent : Current s.lifecycle r a) (hold : OthersFailed s r) (hlast : r + 1 = s.next)

/-- What the initializer of an attempt came to. -/
def Service.result (s : Service C E) (r : ℕ) : Option (Except E Unit) :=
  (s.attempts r).bind (·.phase.result)

/-- The service agrees with its history. -/
structure Valid (events : List (Event C E)) (s : Service C E) : Prop where
  shape : Shape s
  fresh : ∀ r a, s.attempts r = some a → r < s.next
  results : ∀ r result, Event.completed r result ∈ events ↔ s.result r = some result

section Steps

variable {s s' : Service C E} {event : Event C E} {events : List (Event C E)} {r r' : ℕ} {c : C}
  {phase : Phase E} {a : Attempt C E}

@[simp] lemma setPhase_lifecycle : (s.setPhase r c phase).lifecycle = s.lifecycle := rfl

@[simp] lemma setPhase_next : (s.setPhase r c phase).next = s.next := rfl

@[simp] lemma setPhase_self : (s.setPhase r c phase).attempts r = some ⟨c, phase⟩ :=
  Function.update_self ..

@[simp] lemma setPhase_of_ne (h : r' ≠ r) : (s.setPhase r c phase).attempts r' = s.attempts r' :=
  Function.update_of_ne h ..

@[simp] lemma record_attempts : (s.record c).attempts = s.attempts := rfl

@[simp] lemma forget_attempts : (s.forget r).attempts = s.attempts := by
  unfold forget
  split <;> rfl

@[simp] lemma forget_next : (s.forget r).next = s.next := by
  unfold forget
  split <;> rfl

lemma OthersFailed.of_eq (h : OthersFailed s r)
    (he : ∀ r', r' ≠ r → s'.attempts r' = s.attempts r') : OthersFailed s' r := by
  intro r' a hne ha
  rw [he r' hne] at ha
  exact h r' a hne ha

lemma not_failed_of_pending (h : a.phase.Pending) : ¬ a.Failed := by
  rintro ⟨e, he⟩
  rwa [he] at h

lemma not_failed_of_succeeded (h : a.Succeeded) : ¬ a.Failed := by
  rintro ⟨e, he⟩
  rw [Attempt.Succeeded, he] at h
  cases h

variable (h : Shape s)
include h

lemma Shape.current (ha : s.attempts r = some a) (hlive : ¬ a.Failed) :
    Current s.lifecycle r a ∧ OthersFailed s r ∧ r + 1 = s.next := by
  cases h with
  | idle hl hold => exact absurd (hold r a ha) hlive
  | busy r₀ a₀ ha₀ hcurrent hold hlast =>
    obtain rfl : r = r₀ := by
      by_contra hne
      exact hlive (hold r a hne ha)
    rw [ha] at ha₀
    cases ha₀
    exact ⟨hcurrent, hold, hlast⟩

lemma Shape.start (hinit : s.lifecycle.isInitialized = false)
    (hr : s.lifecycle.initialization = none) : Shape (s.start c) := by
  cases h with
  | idle hl hold =>
    refine .busy s.next ⟨c, .initializing⟩ (Function.update_self ..) (.trying ?_ (.inl rfl)) ?_ rfl
    · simp [Service.start, hl]
    · intro r' a hne ha
      exact hold r' a ((Function.update_of_ne hne ..).symm.trans ha)
  | busy r a ha hcurrent =>
    obtain ⟨hl, -⟩ | ⟨hl, -⟩ | ⟨hl, -⟩ := hcurrent
    · rw [hl] at hr
      cases hr
    all_goals
      rw [hl] at hinit
      cases hinit

lemma Shape.complete {result : Except E Unit} (ha : s.attempts r = some ⟨c, .initializing⟩) : Shape
    (s.setPhase r c (.returned result)) := by
  obtain ⟨hcurrent, hold, hlast⟩ := h.current ha (not_failed_of_pending trivial)
  refine .busy r _ setPhase_self ?_ (hold.of_eq fun _ => setPhase_of_ne) hlast
  obtain ⟨hl, -⟩ | ⟨-, hphase⟩ | ⟨-, hphase⟩ := hcurrent
  · exact .trying hl (.inr ⟨result, rfl⟩)
  all_goals cases hphase

lemma Shape.record (ha : s.attempts r = some ⟨c, .returned (.ok ())⟩) :
    Shape ((s.record c).setPhase r c .recorded) := by
  obtain ⟨hcurrent, hold, hlast⟩ := h.current ha (not_failed_of_pending trivial)
  refine .busy r _ setPhase_self ?_ (hold.of_eq fun _ => setPhase_of_ne) hlast
  obtain ⟨hl, -⟩ | ⟨-, hphase⟩ | ⟨-, hphase⟩ := hcurrent
  · exact .recorded (by simp [Service.record, hl]) rfl
  all_goals cases hphase

lemma Shape.succeed (ha : s.attempts r = some ⟨c, .recorded⟩) :
    Shape ((s.forget r).setPhase r c (.settled (.ok ()))) := by
  obtain ⟨hcurrent, hold, hlast⟩ := h.current ha (not_failed_of_pending trivial)
  refine .busy r _ setPhase_self ?_ (hold.of_eq fun r' hne => by simp [hne]) (by simpa using hlast)
  obtain ⟨-, hphase⟩ | ⟨hl, -⟩ | ⟨-, hphase⟩ := hcurrent
  · obtain hphase | ⟨_, hphase⟩ := hphase <;> cases hphase
  · exact .ready (by simp [forget, hl]) rfl
  · cases hphase

lemma Shape.fail {e : E} (ha : s.attempts r = some ⟨c, .returned (.error e)⟩) :
    Shape ((s.forget r).setPhase r c (.settled (.error e))) := by
  obtain ⟨hcurrent, hold, -⟩ := h.current ha (not_failed_of_pending trivial)
  obtain ⟨hl, -⟩ | ⟨-, hphase⟩ | ⟨-, hphase⟩ := hcurrent
  · refine .idle (by simp [forget, hl]) fun r' a' ha' => ?_
    by_cases hne : r' = r
    · subst hne
      rw [setPhase_self] at ha'
      cases ha'
      exact ⟨e, rfl⟩
    · rw [setPhase_of_ne hne, forget_attempts] at ha'
      exact hold r' a' hne ha'
  all_goals cases hphase

omit h

/-- What a step does to the attempts. -/
inductive Alters (s : Service C E) : Event C E → Service C E → Prop
  | none {c : C} {reply : Reply} : Alters s (.call c reply) s
  | starts {c : C} {reply : Reply} : Alters s (.call c reply) (s.start c)
  | completes {r : ℕ} {c : C} {result : Except E Unit}
      (ha : s.attempts r = some ⟨c, .initializing⟩) :
      Alters s (.completed r result) (s.setPhase r c (.returned result))
  | advances {event : Event C E} {s' : Service C E} {r : ℕ} {c : C} {phase phase' : Phase E}
      (hevent : ∀ r result, event ≠ .completed r result) (ha : s.attempts r = some ⟨c, phase⟩)
      (hs : s'.attempts = (s.setPhase r c phase').attempts) (hnext : s'.next = s.next)
      (hresult : phase'.result = phase.result) : Alters s event s'

/-- The attempt goes on: its configuration and the result of its initializer stay. -/
def Attempt.Goes (a a' : Attempt C E) : Prop :=
  a'.configuration = a.configuration ∧
    ∀ result, a.phase.result = some result → a'.phase.result = some result

lemma Attempt.Goes.trans {a a' a'' : Attempt C E} (h : a.Goes a') (h' : a'.Goes a'') : a.Goes a'' :=
  ⟨h'.1.trans h.1, fun result hr => h'.2 result (h.2 result hr)⟩

lemma Attempt.Goes.refl (a : Attempt C E) : a.Goes a := ⟨rfl, fun _ h => h⟩

lemma setPhase_goes {phase' : Phase E} (ha : s.attempts r = some ⟨c, phase⟩)
    (hphase : ∀ result, phase.result = some result → phase'.result = some result)
    (ha' : s.attempts r' = some a) :
    ∃ a', (s.setPhase r c phase').attempts r' = some a' ∧ a.Goes a' := by
  by_cases hne : r' = r
  · subst hne
    rw [ha] at ha'
    cases ha'
    exact ⟨_, setPhase_self, rfl, hphase⟩
  · exact ⟨a, (setPhase_of_ne hne).trans ha', .refl a⟩

lemma alters_goes (hfresh : ∀ r a, s.attempts r = some a → r < s.next) (h : Alters s event s')
    (ha : s.attempts r = some a) : ∃ a', s'.attempts r = some a' ∧ a.Goes a' := by
  cases h with
  | none => exact ⟨a, ha, .refl a⟩
  | starts =>
    have hne : r ≠ s.next := Nat.ne_of_lt (hfresh r a ha)
    exact ⟨a, (Function.update_of_ne hne ..).trans ha, .refl a⟩
  | completes hc => exact setPhase_goes hc (fun _ h => nomatch h) ha
  | advances _ hc hs _ hresult =>
    rw [hs]
    exact setPhase_goes hc (fun result h => hresult.trans h) ha

lemma result_of_tracked {result : Except E Unit} (h : s.tracked r = some result) :
    s.result r = some result := by
  unfold Service.tracked at h
  split at h
  · rename_i c result' ha
    cases h
    simp [Service.result, ha, Phase.result]
  · cases h

lemma outcome_shared {outcome : Except (Failure E) Unit} (h : s.outcome (.shared r) = some outcome)
    : ∃ result, s.result r = some result ∧ outcome = result.mapError Failure.initializer := by
  obtain ⟨result, hr, rfl⟩ := Option.map_eq_some_iff.mp h
  exact ⟨result, result_of_tracked hr, rfl⟩

lemma result_of_succeeded (ha : s.attempts r = some a) (h : a.Succeeded) :
    s.result r = some (.ok ()) := by
  simp only [result, ha, Option.bind_some]
  exact h

lemma Valid.fresh_alters (h : Valid events s) (ha : Alters s event s') :
    ∀ r a, s'.attempts r = some a → r < s'.next := by
  have hset : ∀ {r c phase phase'}, s.attempts r = some ⟨c, phase⟩ →
      ∀ r' a, (s.setPhase r c phase').attempts r' = some a → r' < s.next := by
    intro r c phase phase' hr r' a ha'
    by_cases hne : r' = r
    · subst hne
      exact h.fresh r' _ hr
    · rw [setPhase_of_ne hne] at ha'
      exact h.fresh r' a ha'
  cases ha with
  | none => exact h.fresh
  | starts =>
    intro r a ha'
    by_cases hne : r = s.next
    · subst hne
      exact Nat.lt_succ_self _
    · exact Nat.lt_succ_of_lt (h.fresh r a ((Function.update_of_ne hne ..).symm.trans ha'))
  | completes hr => exact hset hr
  | advances _ hr hs hnext =>
    rw [hs, hnext]
    exact hset hr

lemma Valid.results_alters (h : Valid events s) (ha : Alters s event s') (r : ℕ)
    (result : Except E Unit) :
    Event.completed r result ∈ events ++ [event] ↔ s'.result r = some result := by
  -- an event that completes nothing, and no result of an attempt changed
  have hquiet : (∀ r result, event ≠ .completed r result) → s'.result r = s.result r →
      (Event.completed r result ∈ events ++ [event] ↔ s'.result r = some result) := by
    intro hevent hresult
    rw [hresult, ← h.results, List.mem_append, List.mem_singleton]
    exact or_iff_left fun he => hevent r result he.symm
  cases ha with
  | none => exact hquiet (by simp) rfl
  | @starts c =>
    refine hquiet (by simp) ?_
    by_cases hne : r = s.next
    · subst hne
      have hnone : s.attempts s.next = none := by
        by_contra hsome
        obtain ⟨a, ha⟩ := Option.ne_none_iff_exists'.mp hsome
        exact Nat.lt_irrefl _ (h.fresh _ a ha)
      simp [Service.result, Service.start, hnone, Phase.result]
    · simp [Service.result, Service.start, hne]
  | @completes r₀ c result₀ hr =>
    by_cases hne : r = r₀
    · subst hne
      have hnone : s.result r = none := by simp [Service.result, hr, Phase.result]
      have hnot : Event.completed r result ∉ events := by
        rw [h.results, hnone]
        simp
      simp [Service.result, hnot, Phase.result, eq_comm]
    · have hsame : s.result r = (s.setPhase r₀ c (.returned result₀)).result r := by
        simp [Service.result, hne]
      rw [← hsame, ← h.results]
      simp [hne]
  | @advances _ _ r₀ c phase phase' hevent hr hs hnext hresult =>
    refine hquiet hevent ?_
    by_cases hne : r = r₀
    · subst hne
      simp [Service.result, hs, hr, hresult]
    · simp [Service.result, hs, hne]

variable [BEq C]

lemma Shape.moves (h : Shape s) (hm : Moves s event s') : Shape s' := by
  cases hm with
  | accept | refuse | share | differ => exact h
  | start hinit hr => exact h.start hinit hr
  | complete ha => exact h.complete ha
  | record ha => exact h.record ha
  | settle ha hphase =>
    obtain ⟨rfl, rfl⟩ | ⟨e, rfl, rfl⟩ := hphase
    · exact h.succeed ha
    · exact h.fail ha

lemma moves_alters (hm : Moves s event s') : Alters s event s' := by
  cases hm with
  | accept | refuse | share | differ => exact .none
  | start => exact .starts
  | complete ha => exact .completes ha
  | record ha => exact .advances (by simp) ha rfl rfl rfl
  | @settle c r phase result ha hphase =>
    have hs : ((s.forget r).setPhase r c (.settled result)).attempts =
        (s.setPhase r c (.settled result)).attempts := by
      simp [setPhase, forget_attempts]
    refine .advances (by simp) ha hs (by simp) ?_
    obtain ⟨rfl, rfl⟩ | ⟨e, rfl, rfl⟩ := hphase <;> rfl

lemma Valid.moves (h : Valid events s) (hm : Moves s event s') : Valid (events ++ [event]) s' :=
  ⟨h.shape.moves hm, h.fresh_alters (moves_alters hm), h.results_alters (moves_alters hm)⟩

lemma run_valid (h : Run service init events s) : Valid events s := by
  refine h.history (P := Valid) ⟨.idle rfl ?_, ?_, ?_⟩ fun _ _ _ _ _ hv hst =>
    hv.moves (step_moves hst)
  · intro r a ha
    cases ha
  · intro r a ha
    cases ha
  · simp [result, init]

lemma run_goes {later : List (Event C E)} (h : Run service init events s)
    (hlater : Run service s later s') (ha : s.attempts r = some a) :
    ∃ a', s'.attempts r = some a' ∧ a.Goes a' := by
  refine hlater.history (P := fun _ s' => ∃ a', s'.attempts r = some a' ∧ a.Goes a')
    ⟨a, ha, .refl a⟩ ?_
  rintro ls t event u hrun ⟨a', ha', hgoes⟩ hstep
  obtain ⟨a'', ha'', hgoes'⟩ :=
    alters_goes (run_valid (h.append hrun)).fresh (moves_alters (step_moves hstep)) ha'
  exact ⟨a'', ha'', hgoes.trans hgoes'⟩

/-! ### Calls -/

variable {reply : Reply}

lemma Shape.call (h : Shape s) (ha : s.attempts r = some a) (hlive : ¬ a.Failed)
    (hm : Moves s (.call c reply) s') : s' = s ∧
    ((a.configuration == c) = true → reply = .shared r ∨ reply = .value ∧ a.Succeeded) ∧
    ((a.configuration == c) = false → ∃ message, reply = .stateError message) := by
  obtain ⟨hcurrent, -, -⟩ := h.current ha hlive
  have hinit : s.lifecycle.isInitialized = true →
      s.lifecycle.configuration = some a.configuration ∧ a.Succeeded := by
    obtain ⟨hl, -⟩ | ⟨hl, hphase⟩ | ⟨hl, hphase⟩ := hcurrent <;>
      simp [Attempt.Succeeded, Phase.result, *]
  have htrying : s.lifecycle.isInitialized = false → s.lifecycle.initialization = some r ∧
      s.lifecycle.pendingConfiguration = some a.configuration := by
    obtain ⟨hl, -⟩ | ⟨hl, -⟩ | ⟨hl, -⟩ := hcurrent <;> simp [hl]
  cases hm with
  | accept hi hc =>
    obtain ⟨hconf, hok⟩ := hinit hi
    rw [hconf] at hc
    exact ⟨rfl, fun _ => .inr ⟨rfl, hok⟩, fun hn => by simp_all⟩
  | refuse hi hc =>
    obtain ⟨hconf, -⟩ := hinit hi
    rw [hconf] at hc
    exact ⟨rfl, fun hn => by simp_all, fun _ => ⟨_, rfl⟩⟩
  | share hi hr hc =>
    obtain ⟨hr', hconf⟩ := htrying hi
    rw [hr'] at hr
    cases hr
    rw [hconf] at hc
    exact ⟨rfl, fun _ => .inl rfl, fun hn => by simp_all⟩
  | differ hi hr hc =>
    obtain ⟨-, hconf⟩ := htrying hi
    rw [hconf] at hc
    exact ⟨rfl, fun hn => by simp_all, fun _ => ⟨_, rfl⟩⟩
  | start hi hr =>
    obtain ⟨hr', -⟩ := htrying hi
    rw [hr'] at hr
    cases hr

lemma Shape.started (h : Shape s) (hm : Moves s (.call c (.started r)) s') :
    ∀ r' a, s.attempts r' = some a → a.Failed := by
  intro r' a ha
  by_contra hlive
  obtain ⟨-, heq, hne⟩ := h.call ha hlive hm
  cases hc : a.configuration == c with
  | true => obtain hreply | ⟨hreply, -⟩ := heq hc <;> cases hreply
  | false =>
    obtain ⟨message, hreply⟩ := hne hc
    cases hreply

lemma Valid.retry {e : E} (h : Valid events s) (hr : s.tracked r = some (.error e))
    (hlast : ∀ r' a, s.attempts r' = some a → r' ≤ r) (c : C) :
    s.initializeConfigured c = (.started s.next, s.start c) := by
  have hfailed : ∃ c, s.attempts r = some ⟨c, .settled (.error e)⟩ := by
    unfold tracked at hr
    split at hr
    · rename_i c result ha
      cases hr
      exact ⟨c, ha⟩
    · cases hr
  obtain ⟨c₀, ha⟩ := hfailed
  cases h.shape with
  | idle hl => simp [initializeConfigured, hl]
  | busy r₀ a₀ ha₀ hcurrent =>
    have hle := hlast r₀ a₀ ha₀
    have hlt := h.fresh r _ ha
    obtain rfl : r = r₀ := by omega
    rw [ha] at ha₀
    cases ha₀
    obtain ⟨-, hphase⟩ | ⟨-, hphase⟩ | ⟨-, hphase⟩ := hcurrent
    · obtain hphase | ⟨_, hphase⟩ := hphase <;> cases hphase
    all_goals cases hphase

/-- Once the initializer has come to a result, the continuations give it to the callers. -/
lemma settles {result : Except E Unit} (h : s.result r = some result) : ∃ later s', Run service s
    later s' ∧ (∀ c reply, Event.call c reply ∉ later) ∧ s'.tracked r = some result := by
  obtain ⟨⟨c, phase⟩, ha, hphase⟩ := Option.bind_eq_some_iff.mp h
  have hrecorded : ∀ t : Service C E, t.attempts r = some ⟨c, .recorded⟩ →
      ∃ t', service.step t (.settled r) t' ∧ t'.tracked r = some (.ok ()) := by
    intro t ht
    refine ⟨(t.forget r).setPhase r c (.settled (.ok ())), ?_, by simp [tracked]⟩
    exact ⟨.whenComplete r, by simp only [step, ht]⟩
  cases phase with
  | initializing => cases hphase
  | settled =>
    cases hphase
    exact ⟨[], s, .nil s, by simp, by simp [tracked, ha]⟩
  | recorded =>
    cases hphase
    obtain ⟨s', hstep, htracked⟩ := hrecorded s ha
    exact ⟨_, s', .single hstep, by simp, htracked⟩
  | returned =>
    cases hphase
    cases result with
    | error e =>
      have hstep : service.step s (.settled r) ((s.forget r).setPhase r c (.settled (.error e))) :=
        ⟨.whenComplete r, by simp only [step, ha]⟩
      exact ⟨_, _, .single hstep, by simp, by simp [tracked]⟩
    | ok =>
      have hstep : service.step s (.recorded r) ((s.record c).setPhase r c .recorded) :=
        ⟨.thenCallback r, by simp only [step, ha]⟩
      obtain ⟨s', hstep', htracked⟩ := hrecorded _ setPhase_self
      exact ⟨_, s', (Run.single hstep).snoc hstep', by simp, htracked⟩

/-- **The service is configured once.** Over every interleaving of calls and of the continuations of
attempts: two attempts are never pending together, and one starts only after all before it have
failed. While an attempt is pending, a call with another configuration is refused, and one with its
configuration is told what its initializer comes to; neither starts anything. After a success this
configuration is the only one that is accepted, for ever. An initializer that has come to a result
is always reported, and after a failure the next call starts anew, whatever its configuration. -/
theorem configured_once (h : Run service Service.init events s) :
    (∀ r r' a a', s.attempts r = some a → s.attempts r' = some a' → a.phase.Pending →
      a'.phase.Pending → r = r') ∧
    (∀ c r s', service.step s (.call c (.started r)) s' →
      ∀ r' a, s.attempts r' = some a → a.Failed) ∧
    (∀ r a, s.attempts r = some a → a.phase.Pending →
      ∀ c reply s', service.step s (.call c reply) s' → s' = s ∧
        ((a.configuration == c) = false → ∃ message, reply = .stateError message) ∧
        ((a.configuration == c) = true → (reply = .shared r ∨ reply = .value) ∧
          ∀ later s'' outcome, Run service s' later s'' → s''.outcome reply = some outcome →
            ∃ result, s''.result r = some result ∧
              outcome = result.mapError Failure.initializer)) ∧
    (∀ r a, s.attempts r = some a → a.Succeeded → ∀ later s', Run service s later s' →
      (s'.lifecycle.isInitialized = true →
        s'.lifecycle.configuration = some a.configuration) ∧
      ∀ c reply s'', service.step s' (.call c reply) s'' → s'' = s' ∧
        ((a.configuration == c) = false → ∃ message, reply = .stateError message) ∧
        ((a.configuration == c) = true → reply = .shared r ∨ reply = .value)) ∧
    (∀ r result, s.result r = some result → ∃ later s', Run service s later s' ∧
      (∀ c reply, Event.call c reply ∉ later) ∧ s'.tracked r = some result) ∧
    ∀ r e, s.tracked r = some (.error e) → (∀ r' a, s.attempts r' = some a → r' ≤ r) →
      ∀ c, s.step (.call c) = some (s.start c, .call c (.started s.next)) := by
  have hv := run_valid h
  refine ⟨?_, fun c r s' hst => hv.shape.started (step_moves hst), ?_, ?_,
    fun r result => settles, ?_⟩
  · intro r r' a a' ha ha' hp hp'
    obtain ⟨-, hold, -⟩ := hv.shape.current ha' (not_failed_of_pending hp')
    by_contra hne
    exact not_failed_of_pending hp (hold r a hne ha)
  · intro r a ha hp c reply s' hst
    obtain ⟨rfl, heq, hne⟩ := hv.shape.call ha (not_failed_of_pending hp) (step_moves hst)
    refine ⟨rfl, hne, fun hc => ?_⟩
    obtain rfl | ⟨rfl, hok⟩ := heq hc
    · exact ⟨.inl rfl, fun later s'' outcome _ ho => outcome_shared ho⟩
    · refine ⟨.inr rfl, fun later s'' outcome hlater ho => ?_⟩
      obtain ⟨a'', ha'', -, hgoes⟩ := run_goes h hlater ha
      cases ho
      exact ⟨.ok (), result_of_succeeded ha'' (hgoes _ hok), rfl⟩
  · intro r a ha hok later s' hlater
    have hv' := run_valid (h.append hlater)
    obtain ⟨a', ha', hconf, hgoes⟩ := run_goes h hlater ha
    have hlive := not_failed_of_succeeded (hgoes _ hok)
    constructor
    · intro hinit
      obtain ⟨hcurrent, -, -⟩ := hv'.shape.current ha' hlive
      obtain ⟨hl, -⟩ | ⟨hl, -⟩ | ⟨hl, -⟩ := hcurrent <;> simp_all
    · intro c reply s'' hst
      obtain ⟨hsame, heq, hne⟩ := hv'.shape.call ha' hlive (step_moves hst)
      rw [hconf] at heq hne
      exact ⟨hsame, hne, fun hc => (heq hc).imp_right And.left⟩
  · intro r e hr hlast c
    simp only [Service.step, hv.retry hr hlast c]

/-- Two attempts: the first fails, the second is recorded, and a third configuration is refused. -/
theorem second_configuration_stays : ∃ (events : List (Event ℕ String)) (s s' : Service ℕ String),
    Run service Service.init events s ∧ s.result 0 = some (.error "network") ∧
    s.attempts 1 = some ⟨8, .recorded⟩ ∧
    service.step s (.call 9 (.stateError "The runtime service is already configured.")) s' ∧
    s' = s := by
  have hrun := ((((((Run.nil (M := service) (Service.init (C := ℕ) (E := String))).snoc
    (l := .call 7 (.started 0)) ⟨.call 7, rfl⟩).snoc
    (l := .completed 0 (.error "network")) ⟨.complete 0 (.error "network"), rfl⟩).snoc
    (l := .settled 0) ⟨.whenComplete 0, rfl⟩).snoc
    (l := .call 8 (.started 1)) ⟨.call 8, rfl⟩).snoc
    (l := .completed 1 (.ok ())) ⟨.complete 1 (.ok ()), rfl⟩).snoc
    (l := .recorded 1) ⟨.thenCallback 1, rfl⟩
  refine ⟨_, _, _, hrun, rfl, rfl, ⟨.call 9, rfl⟩, ?_⟩
  exact ((configured_once hrun).2.2.1 1 _ rfl trivial 9 _ _ ⟨.call 9, rfl⟩).1

end Steps

end XelisWallet.RuntimeLifecycle
