import XelisWallet.DispatcherAnswers
import XelisWallet.RegistryTombs

/-!
The application states of a dispatcher among others.

The states that the dispatcher holds are alive and observed. Every step of the world is a
turn of the dispatcher, with what the other users of the registry or the dispatcher itself did
to the registry, or leaves the dispatcher alone.
-/

namespace XelisWallet.DispatcherSessions

open Json Runs Checked Registry RegistrySpec RegistryTombs Xswd Dispatcher DispatcherQueue
open DispatcherTurns DispatcherShape DispatcherMoves DispatcherWorld DispatcherAnswers

variable {F : Type} {d d' : Desk F}

/-! ### What a turn holds -/

/-- The states of the active slot and the queue. -/
def slotStates (d : Desk F) : List App :=
  (d.active.map (·.state)).toList ++ d.deferred.map deferredState

lemma heldStates_eq (d : Desk F) : heldStates d = awaitStates d.await ++ slotStates d :=
  List.append_assoc ..

variable {s : App} {event : XSWDEvent F} {n : PreparedNotification F} {route : Route}

lemma mem_slotStates :
    s ∈ slotStates d ↔
      (∃ a, d.active = some a ∧ a.state = s) ∨ ∃ e ∈ d.deferred, deferredState e = s := by
  simp [slotStates]

lemma slotStates_failActive (code : FailureCode) :
    slotStates (d.failActive code) ⊆ slotStates d := by
  intro s hs
  simp only [mem_slotStates, failActive_active, failActive_deferred] at hs ⊢
  simpa using Or.inr hs

lemma slotStates_start (n : PreparedNotification F) (hs : s ∈ slotStates (d.start n)) :
    s = n.state ∨ s ∈ slotStates d := by
  rw [mem_slotStates] at hs
  obtain ⟨a, ha, rfl⟩ | hs := hs
  · cases ha
    exact .inl rfl
  · exact .inr (mem_slotStates.mpr (.inr hs))

lemma held_acknowledgeCancel {state : App} {callback : Sender} {b admission : Bool}
    (hs : s ∈ heldStates (d.acknowledgeCancel state callback b admission)) :
    s = state ∨ s ∈ slotStates d := by
  rw [heldStates_eq] at hs
  obtain hs | hs := List.mem_append.mp hs
  · exact .inl (List.mem_singleton.mp hs)
  right
  cases b with
  | true =>
    rw [Desk.acknowledgeCancel, if_pos rfl, cancelActive_eq] at hs
    exact slotStates_failActive _ hs
  | false => exact hs

lemma held_wait {aw : Await F} (hs : s ∈ heldStates (d.wait aw)) :
    s ∈ awaitStates aw ∨ s ∈ slotStates d := by
  rw [heldStates_eq] at hs
  exact List.mem_append.mp hs

lemma slotStates_cancelQueued (state : App) : slotStates (cancelQueued state d) ⊆ slotStates d := by
  intro s hs
  rw [mem_slotStates] at hs ⊢
  exact hs.imp_right fun ⟨e, he, hes⟩ => ⟨e, (kept_sublist _ _).subset he, hes⟩

lemma held_busied (hw : d.await = .loop) (hb : Busied d event d') (hs : s ∈ heldStates d') :
    s = event.state ∨ s ∈ slotStates d := by
  cases hb with
  | queued =>
    rw [heldStates_eq] at hs
    simp only [hw, awaitStates, List.nil_append, mem_slotStates] at hs
    obtain hs | ⟨e, he, rfl⟩ := hs
    · exact .inr (mem_slotStates.mpr (.inl hs))
    obtain he | he := List.mem_append.mp he
    · exact .inr (mem_slotStates.mpr (.inr ⟨e, he, rfl⟩))
    · rw [List.mem_singleton.mp he]
      exact .inl rfl
  | refused =>
    rw [heldStates_eq, Desk.emit_await, hw] at hs
    exact .inr hs
  | invalidates s' | disconnects s' =>
    exact (held_wait hs).imp List.mem_singleton.mp fun hs => slotStates_cancelQueued s' hs
  | acknowledges s' =>
    exact (held_acknowledgeCancel hs).imp_right fun hs => slotStates_cancelQueued s' hs

lemma Deferral.states {q : List (DeferredEvent F)} {act : Option (ActiveCallback F)}
    {r : Option (PreparedNotification F) × List (DeferredEvent F) × List (Entry F)}
    (h : Deferral q act n r) :
    (∀ e ∈ r.2.1, e ∈ q ∨ e = .notification n) ∧
      ∀ next, r.1 = some next → .notification next ∈ q := by
  cases h with
  | coalesced => exact ⟨fun e he => .inl he, by simp⟩
  | queued => exact ⟨fun e he => by simpa using he, by simp⟩
  | evicted l r e x hq =>
    refine ⟨fun e' he' => ?_, by simp⟩
    simp only [List.mem_append, List.mem_singleton] at he'
    rw [hq]
    simp only [List.mem_append, List.mem_cons]
    tauto
  | saturated next r hq =>
    refine ⟨fun e he => ?_, ?_⟩
    · simp only [List.mem_append, List.mem_singleton] at he
      rw [hq]
      exact he.imp_left (List.mem_cons_of_mem _)
    · rintro next' ⟨⟩
      simp [hq]

lemma held_routed (hr : Routed d n route d') (hs : s ∈ heldStates d') :
    s = n.state ∨ s ∈ slotStates d := by
  have hslots : ∀ d' : Desk F, s ∈ slotStates d' → d'.active = d.active →
      (∀ e ∈ d'.deferred, e ∈ d.deferred ∨ e = .notification n) →
      s = n.state ∨ s ∈ slotStates d := by
    intro d' hs ha hq
    rw [mem_slotStates, ha] at hs
    obtain hs | ⟨e, he, rfl⟩ := hs
    · exact .inr (mem_slotStates.mpr (.inl hs))
    obtain he | rfl := hq e he
    · exact .inr (mem_slotStates.mpr (.inr ⟨e, he, rfl⟩))
    · exact .inl rfl
  rw [heldStates_eq] at hs
  cases hr with
  | starts => exact slotStates_start n hs
  | queues => exact hslots _ hs rfl (by simp)
  | abandons => exact .inr hs
  | defers q sent hd => exact hslots _ hs rfl (Deferral.states hd).1
  | waits next q a hd ha =>
    obtain hs | hs := List.mem_append.mp hs
    · simp only [Desk.wait_await, awaitStates, List.mem_cons, List.not_mem_nil, or_false] at hs
      obtain rfl | rfl := hs
      · exact .inr (mem_slotStates.mpr (.inl ⟨a, ha, rfl⟩))
      · exact .inr (mem_slotStates.mpr (.inr ⟨_, (Deferral.states hd).2 next rfl, rfl⟩))
    · exact hslots _ hs rfl (Deferral.states hd).1
  | overloads next q hd =>
    obtain rfl | hs := slotStates_start (d := Desk.failActive _ _) next hs
    · exact .inr (mem_slotStates.mpr (.inr ⟨_, (Deferral.states hd).2 next rfl, rfl⟩))
    · exact hslots _ (slotStates_failActive _ hs) rfl (Deferral.states hd).1

lemma held_prepared (hp : Prepared d event d') (hs : s ∈ heldStates d') :
    s = event.state ∨ s ∈ slotStates d := by
  cases hp with
  | registers t hx =>
    rw [state_of_eventDecision hx]
    exact (held_wait hs).imp_left List.mem_singleton.mp
  | refused => exact .inr hs
  | acknowledges | invalidates => exact (held_wait hs).imp_left List.mem_singleton.mp

variable [Double F] {cfg : Config} {alive : App → Bool} {new : Option (XSWDEvent F)}

/-- **What a turn holds**: what was held, the state of the event received, and when the channel
closes the observed states that are alive. -/
theorem turn_held (h : Shape d) (ht : Turn cfg alive d new d') (hs : s ∈ heldStates d') :
    s ∈ heldStates d ∨ (∃ event, new = some event ∧ event.state = s) ∨
      (s ∈ d.observed ∧ alive s = true) := by
  have hslots : s ∈ slotStates d → s ∈ heldStates d := by
    intro hm
    rw [heldStates_eq]
    exact List.mem_append_right _ hm
  have hput : ∀ {t}, s = t ∨ s ∈ slotStates d → t ∈ awaitStates d.await → s ∈ heldStates d := by
    rintro t (rfl | hm) ht
    · rw [heldStates_eq]
      exact List.mem_append_left _ ht
    · exact hslots hm
  have hclose : ∀ b burst, s ∈ heldStates (({ d with receiveBurst := burst }).closing alive b) →
      s ∈ heldStates d ∨ (s ∈ d.observed ∧ alive s = true) := by
    intro b burst hs
    rw [heldStates_eq] at hs
    obtain hs | hs := List.mem_append.mp hs
    · right
      simpa using List.mem_filter.mp hs
    · exact .inl (hslots hs)
  cases ht with
  | dispatched event rest hw ha hq =>
    left
    apply hslots
    have hs : s = deferredState event ∨ s ∈ slotStates { d with deferred := rest } := by
      cases event with
      | raw => exact held_prepared (d := { d with deferred := rest }) (prepared ..) hs
      | notification n => exact slotStates_start n hs
    rw [mem_slotStates, hq]
    obtain rfl | hs := hs
    · exact .inr ⟨event, by simp, rfl⟩
    · rw [mem_slotStates] at hs
      exact hs.imp_right fun ⟨e, he, hes⟩ => ⟨e, List.mem_cons_of_mem _ he, hes⟩
  | idleClosed => exact (hclose false d.receiveBurst hs).imp_right .inr
  | idleReceived event =>
    obtain rfl | hs := held_prepared (d := d.receive alive event) (prepared ..) hs
    · exact .inr (.inl ⟨event, rfl, rfl⟩)
    · exact .inl (hslots hs)
  | returned a outcome hw =>
    left
    apply hslots
    rw [heldStates_eq] at hs
    change s ∈ awaitStates d.await ++ _ at hs
    rw [hw] at hs
    rw [mem_slotStates]
    exact .inr (by simpa [slotStates, awaitStates] using hs)
  | busyClosed a burst => exact (hclose true burst hs).imp_right .inr
  | busyReceived a burst event hw =>
    rcases held_busied (d := { d.receive alive event with receiveBurst := burst }) hw (busied ..) hs
      with rfl | hs
    · exact .inr (.inl ⟨event, rfl, rfl⟩)
    · exact .inl (hslots hs)
  | registered x t r hw => exact .inl (by simpa [heldStates, hw, awaitStates] using hs)
  | called x t r summary hw =>
    left
    obtain hs | hs := List.mem_append.mp hs
    · exact hput (.inl rfl) (by rw [hw]; exact hs)
    · exact hslots (mem_slotStates.mpr (.inr (by simpa using hs)))
  | invalidatedIdle state hw | projected state kind admission route r hw =>
    exact .inl (by simpa [heldStates, hw, awaitStates] using hs)
  | invalidatedCancel state callback b hw =>
    exact .inl (hput (held_acknowledgeCancel hs) (by simp [hw, awaitStates]))
  | invalidatedDisconnect state b hw =>
    left
    rw [heldStates_eq] at hs
    obtain hs | hs := List.mem_append.mp hs
    · exact hput (.inl rfl) (by rw [hw]; exact hs)
    apply hslots
    cases b with
    | true =>
      rw [if_pos rfl, cancelActive_eq] at hs
      exact slotStates_failActive _ hs
    | false => exact hs
  | invalidatedOverload state next hw =>
    have hs := slotStates_start (d := d.failActive _) next hs
    exact .inl (hput (hs.imp_right (slotStates_failActive _ ·)) (by simp [hw, awaitStates]))
  | refused | unprojected => exact .inl (hslots hs)
  | routed state kind admission route r n hw hn =>
    exact .inl (hput (held_routed (h.slots.routed route n) hs) (by simp [hw, awaitStates, hn.1]))
  | finished states busy =>
    cases busy with
    | true => simp [heldStates, Desk.finish, awaitStates] at hs
    | false => exact .inl (hslots hs)

omit [Double F] in
lemma observed_failActive (code : FailureCode) : (d.failActive code).observed = d.observed := by
  unfold Desk.failActive
  split <;> rfl

omit [Double F] in
lemma observed_acknowledgeCancel (state : App) (callback : Sender) (b admission : Bool) :
    (d.acknowledgeCancel state callback b admission).observed = d.observed := by
  cases b with
  | true =>
    rw [Desk.acknowledgeCancel, if_pos rfl, cancelActive_eq]
    exact observed_failActive _
  | false => rfl

omit [Double F] in
lemma observed_busied (hb : Busied d event d') : d'.observed = d.observed := by
  cases hb with
  | acknowledges => exact observed_acknowledgeCancel ..
  | queued | refused | invalidates | disconnects => rfl

omit [Double F] in
lemma observed_routed (hr : Routed d n route d') : d'.observed = d.observed := by
  cases hr with
  | overloads => exact observed_failActive _
  | starts | queues | abandons | defers | waits => rfl

lemma turn_observed (h : Shape d) (ht : Turn cfg alive d new d') :
    d'.observed = new.elim d.observed (fun event => trackState alive d.observed event.state) := by
  cases ht with
  | dispatched event rest =>
    cases event with
    | raw event => exact (prepared cfg { d with deferred := rest } event).slots.2.2
    | notification => rfl
  | idleReceived => exact (prepared ..).slots.2.2
  | busyReceived a burst event =>
    exact observed_busied (d := { d.receive alive event with receiveBurst := burst }) (busied ..)
  | invalidatedCancel => exact observed_acknowledgeCancel ..
  | invalidatedDisconnect state b =>
    cases b with
    | true => rw [if_pos rfl, cancelActive_eq]; exact observed_failActive _
    | false => rfl
  | invalidatedOverload => exact observed_failActive _
  | routed state kind admission route r n => exact observed_routed (h.slots.routed route n)
  | finished states busy =>
    cases busy with
    | true => exact observed_failActive _
    | false => rfl
  | idleClosed | busyClosed | returned | registered | refused | called | invalidatedIdle | projected
  | unprojected => rfl

omit [Double F] in
lemma mem_trackState {observed : List App} {state : App} :
    s ∈ trackState alive observed state ↔ (s ∈ observed ∧ alive s = true) ∨ s = state := by
  unfold trackState
  dsimp only
  split
  · next hm =>
    rw [List.mem_filter]
    constructor
    · exact .inl
    rintro (h | rfl)
    · exact h
    · exact List.mem_filter.mp hm
  · simp

/-! ### The steps of the world -/

/-- Whether the registry of a world has shut a state out. -/
def Closed (w : World F) (s : App) : Prop := Shut w.alive w.sessions w.next s

/-- The states that an await invalidates. -/
def invalidates : Await F → List App
  | .invalidateIdle state | .invalidateCancel state _ _ | .invalidateDisconnect state _
  | .invalidateOverload state _ => [state]
  | .close states _ => states
  | _ => []

/-- A step of the dispatcher, with what it does to the registry. -/
structure Took (cfg : Config) (w : World F) (new : Option (XSWDEvent F)) (w' : World F) : Prop where
  turn : Turn cfg w.alive w.desk new w'.desk
  alive : w'.alive = w.alive
  effects : Effects w.alive w.sessions w.next w'.sessions w'.next
  offered : ∀ event, new = some event → w.alive event.state = true
  /-- A registered state was not shut. -/
  registered : ∀ x t r, w.desk.await = .register x t → w'.desk.await = .describe x t r →
    ¬ Closed w x.state
  /-- A projection fails only if the counter is exhausted. -/
  projected : ∀ s k b route, w.desk.await = .project s k b route → w'.desk.await = .loop →
    u64Max < w.next + 1
  invalidated : ∀ s ∈ invalidates w.desk.await, Closed w' s

structure Sound (w : World F) : Prop where
  inv : Inv w.desk
  wf : Wf w.sessions w.next
  live : ∀ s ∈ heldStates w.desk, w.alive s = true
  seen : ∀ s ∈ heldStates w.desk, s ∈ w.desk.observed

/-- What the others do. -/
structure Spared (w w' : World F) : Prop where
  desk : w'.desk = w.desk
  effects : Effects w.alive w.sessions w.next w'.sessions w'.next
  alive : ∀ s, w'.alive s = true → w.alive s = true
  held : ∀ s ∈ heldStates w.desk, w'.alive s = w.alive s

variable {w w' : World F} {a : Action F}

omit [Double F] in
lemma invalidateStates_spec {states : List App} (hs : ∀ s ∈ states, alive s = true)
    {reg : SessionRegistry App} {next : ℕ} (hw : Wf reg next) :
    Effects alive reg next (World.invalidateStates alive states (reg, next)).1
        (World.invalidateStates alive states (reg, next)).2 ∧
      ∀ s ∈ states, Shut alive (World.invalidateStates alive states (reg, next)).1
        (World.invalidateStates alive states (reg, next)).2 s := by
  induction states generalizing reg next with
  | nil => exact ⟨.refl, by simp⟩
  | cons s states ih =>
    have halive : alive s = true := hs s (by simp)
    have he := effect_invalidateState hw halive
    have hw' := he.wf hw
    obtain ⟨hes, hshut⟩ := ih (fun t ht => hs t (by simp [ht])) hw'
    refine ⟨he.effects.trans hes, ?_⟩
    intro t ht
    obtain rfl | ht := List.mem_cons.mp ht
    · exact hes.shut hw' (shut_invalidateState hw halive)
    · exact hshut t ht

lemma await_of_go {input : Input F} (h : d.step cfg alive input = some d')
    (hi : input = .next ∨ (∃ event, input = .recv event) ∨
      (∃ event outcome, input = .select event outcome) ∨ ∃ p, input = .described p) :
    d.await = .loop ∨ (∃ x t r, d.await = .describe x t r) ∨
      ∃ s k b route r, d.await = .describeNotification s k b route r := by
  rcases hi with rfl | ⟨event, rfl⟩ | ⟨event, outcome, rfl⟩ | ⟨p, rfl⟩ <;>
    simp only [Desk.step] at h <;> split at h
  all_goals first
    | cases h; done
    | exact .inl ‹_›
    | exact .inr (.inl ⟨_, _, _, ‹_›⟩)
    | exact .inr (.inr ⟨_, _, _, _, _, ‹_›⟩)

lemma took_go {input : Input F} (h : w.go cfg input = some w')
    (hi : input = .next ∨ (∃ event, input = .recv event) ∨
      (∃ event outcome, input = .select event outcome) ∨ ∃ p, input = .described p)
    (ho : ∀ event, inputEvent input = some event → w.alive event.state = true) :
    ∃ new, Took cfg w new w' := by
  obtain ⟨hstep, hsess, hnext, halive⟩ := go_desk h
  obtain ⟨new, ht, hnew⟩ := turn_of_step hstep
  have hawait := await_of_go hstep hi
  refine ⟨new, ht, halive, by rw [hsess, hnext]; exact .refl, fun e he => ho e (hnew e he), ?_, ?_,
    ?_⟩
  · intro x t r hw
    rw [hw] at hawait
    simp at hawait
  · intro s k b route hw
    rw [hw] at hawait
    simp at hawait
  · rcases hawait with hw | ⟨x, t, r, hw⟩ | ⟨s, k, b, route, r, hw⟩ <;> simp [hw, invalidates]

lemma took_locked {input : Input F} {r : SessionRegistry App × ℕ}
    (h : w.goWith cfg input r = some w') (hn : inputEvent input = none)
    (he : Effects w.alive w.sessions w.next r.1 r.2)
    (hr : ∀ x t q, w.desk.await = .register x t → w'.desk.await = .describe x t q →
      ¬Closed w x.state)
    (hp : ∀ s k b route, w.desk.await = .project s k b route → w'.desk.await = .loop →
      u64Max < w.next + 1)
    (hi : ∀ s ∈ invalidates w.desk.await, Shut w.alive r.1 r.2 s) : ∃ new, Took cfg w new w' := by
  obtain ⟨hstep, hsess, hnext, halive⟩ := goWith_desk h
  obtain ⟨new, ht, hnew⟩ := turn_of_step hstep
  refine ⟨new, ht, halive, by rwa [hsess, hnext], fun e he => ?_, hr, hp, fun s hs => ?_⟩
  · cases hn.symm.trans (hnew e he)
  unfold Closed
  rw [hsess, hnext, halive]
  exact hi s hs

lemma took_registered (hs : Sound w) {x : Decision F} {t : RequestType F}
    (hw : w.desk.await = .register x t)
    (h : w.goWith cfg (.registered (w.sessions.register w.alive w.next x.state).1)
      (w.sessions.register w.alive w.next x.state).2 = some w') : ∃ new, Took cfg w new w' := by
  have hx : w.alive x.state = true := hs.live _ (by simp [heldStates, hw, awaitStates])
  refine took_locked h rfl (effect_register hs.wf hx).effects ?_ (by simp [hw])
    (by simp [hw, invalidates])
  intro y t' r' hw' hd hshut
  rw [hw] at hw'
  cases hw'
  obtain ⟨e, he⟩ := register_of_shut hs.wf hx hshut
  have hstep := (goWith_desk h).1
  simp only [Desk.step, hw, he, Option.some.injEq] at hstep
  rw [← hstep] at hd
  cases hd

lemma took_projected (hs : Sound w) {k : NotificationKind} {b : Bool}
    (hw : w.desk.await = .project s k b route)
    (h : w.goWith cfg (.projected (w.sessions.project w.alive w.next s).1)
      (w.sessions.project w.alive w.next s).2 = some w') : ∃ new, Took cfg w new w' := by
  have hx : w.alive s = true := hs.live _ (by simp [heldStates, hw, awaitStates])
  refine took_locked h rfl (effect_project hs.wf hx).effects (by simp [hw]) ?_
    (by simp [hw, invalidates])
  intro s' k' b' route' _ hloop
  by_contra hle
  obtain ⟨r, hr⟩ := project_ok hs.wf hx (by omega)
  have hstep := (goWith_desk h).1
  simp only [Desk.step, hw, hr, Option.some.injEq] at hstep
  rw [← hstep] at hloop
  cases hloop

lemma took_lock (hs : Sound w) (h : w.lock cfg = some w') : ∃ new, Took cfg w new w' := by
  have hlive : ∀ s ∈ awaitStates w.desk.await, w.alive s = true :=
    fun s hm => hs.live s (List.mem_append_left _ (List.mem_append_left _ hm))
  -- the four awaits that invalidate one state
  have hone : ∀ s : App, w.goWith cfg .invalidated (w.sessions.invalidateState w.alive w.next s)
      = some w' → s ∈ awaitStates w.desk.await → invalidates w.desk.await = [s] →
      (∀ x t, w.desk.await ≠ .register x t) → (∀ s k b route, w.desk.await ≠ .project s k b route) →
      ∃ new, Took cfg w new w' := by
    intro s h hm hi hr hp
    have halive := hlive s hm
    refine took_locked h rfl (effect_invalidateState hs.wf halive).effects
      (fun x t _ hw => absurd hw (hr x t)) (fun s k b route hw => absurd hw (hp s k b route)) ?_
    rw [hi]
    intro t ht
    rw [List.mem_singleton.mp ht]
    exact shut_invalidateState hs.wf halive
  unfold World.lock at h
  split at h
  · next x t hw => exact took_registered hs hw h
  · next s k b route hw => exact took_projected hs hw h
  case h_3 hw | h_4 hw | h_5 hw | h_6 hw =>
    exact hone _ h (by simp [hw, awaitStates]) (by simp [hw, invalidates]) (by simp [hw])
      (by simp [hw])
  · next states busy hw =>
    have hstates : ∀ s ∈ states, w.alive s = true := fun s hm => hlive s (by rw [hw]; exact hm)
    obtain ⟨he, hshut⟩ := invalidateStates_spec hstates hs.wf
    exact took_locked h rfl he (by simp [hw]) (by simp [hw]) (by rw [hw]; exact hshut)
  · cases h

/-- **Every step of the world** is a step of the dispatcher or spares it. -/
theorem world_cases (hs : Sound w) (h : w.step cfg a = some w') :
    (∃ new, Took cfg w new w') ∨ Spared w w' := by
  have hother : ∀ {reg : SessionRegistry App} {next : ℕ},
      Effects w.alive w.sessions w.next reg next → Spared w ⟨w.desk, reg, next, w.alive⟩ :=
    fun he => ⟨rfl, he, fun _ h => h, fun _ _ => rfl⟩
  cases a with
  | next => exact .inl (took_go h (.inl rfl) (by simp [inputEvent]))
  | recv event =>
    obtain ⟨ho, h⟩ := Option.ite_none_right_eq_some.mp h
    refine .inl (took_go h (.inr (.inl ⟨event, rfl⟩)) fun e he => ?_)
    rw [inputEvent] at he
    simpa [World.offers, he] using ho
  | select event outcome =>
    obtain ⟨ho, h⟩ := Option.ite_none_right_eq_some.mp h
    refine .inl (took_go h (.inr (.inr (.inl ⟨event, outcome, rfl⟩))) fun e he => ?_)
    rw [inputEvent] at he
    rw [he] at ho
    simpa [World.offers] using ho
  | described permissions =>
    exact .inl (took_go h (.inr (.inr (.inr ⟨permissions, rfl⟩))) (by simp [inputEvent]))
  | lock => exact .inl (took_lock hs h)
  | project | register | invalidateState =>
    obtain ⟨ha, h⟩ := Option.ite_none_right_eq_some.mp h
    cases h
    first
      | exact .inr (hother (effect_project hs.wf ha).effects)
      | exact .inr (hother (effect_register hs.wf ha).effects)
      | exact .inr (hother (effect_invalidateState hs.wf ha).effects)
  | resolve =>
    cases h
    exact .inr (hother (Effect.effects .swept))
  | clear =>
    cases h
    exact .inr (hother (Effect.effects (.deactivated _)))
  | fetchNext =>
    obtain ⟨next, hn, rfl⟩ := Option.map_eq_some_iff.mp h
    obtain ⟨hle, rfl⟩ := checkedAdd_eq_some.mp hn
    exact .inr (hother (Effect.effects (.drawn hle)))
  | drop s =>
    obtain ⟨hheld, h⟩ := Option.ite_none_left_eq_some.mp h
    cases h
    refine .inr ⟨rfl, .refl, fun t ht => ?_, fun t ht => ?_⟩
    · simp only [Bool.and_eq_true] at ht
      exact ht.1
    · have : t ≠ s := fun he => hheld (he ▸ ht)
      simp [this]

/-! ### Soundness -/

lemma sound_took (hs : Sound w) (h : Took cfg w new w') : Sound w' := by
  have hobs := turn_observed hs.inv.shape h.turn
  have hmem : ∀ s ∈ heldStates w'.desk, w.alive s = true ∧ s ∈ w'.desk.observed := by
    intro s hm
    rw [hobs]
    obtain hheld | ⟨event, rfl, rfl⟩ | ⟨ho, ha⟩ := turn_held hs.inv.shape h.turn hm
    · have ha := hs.live s hheld
      refine ⟨ha, ?_⟩
      cases new with
      | none => exact hs.seen s hheld
      | some => exact mem_trackState.mpr (.inl ⟨hs.seen s hheld, ha⟩)
    · exact ⟨h.offered event rfl, mem_trackState.mpr (.inr rfl)⟩
    · refine ⟨ha, ?_⟩
      cases new with
      | none => exact ho
      | some => exact mem_trackState.mpr (.inl ⟨ho, ha⟩)
  exact ⟨inv_turn hs.inv h.turn, h.effects.wf hs.wf,
    fun s hm => by rw [h.alive]; exact (hmem s hm).1,
    fun s hm => (hmem s hm).2⟩

omit [Double F] in
lemma sound_spared (hs : Sound w) (h : Spared w w') : Sound w' := by
  refine ⟨by rw [h.desk]; exact hs.inv, h.effects.wf hs.wf, fun s hm => ?_, fun s hm => ?_⟩
  · rw [h.desk] at hm
    rw [h.held s hm]
    exact hs.live s hm
  · rw [h.desk] at hm ⊢
    exact hs.seen s hm

theorem reachable_sound (h : Reachable (worlds cfg) w) : Sound w := by
  refine h.invariant (P := Sound) ?_ ?_
  · rintro w ⟨hd, hsess, hnext⟩
    refine ⟨by rw [hd]; exact inv_initial, by rw [hsess]; exact wf_default _, ?_, ?_⟩ <;>
      simp [hd, Desk.initial, heldStates, awaitStates]
  · intro w a w' _ hs hstep
    obtain ⟨new, h⟩ | h := world_cases hs hstep
    · exact sound_took hs h
    · exact sound_spared hs h

end XelisWallet.DispatcherSessions
