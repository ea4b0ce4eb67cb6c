import Mathlib.Data.List.Nodup
import XelisWallet.Trace
import XelisWallet.DispatcherMoves
import XelisWallet.DispatcherWorld

/-!
The answers of the dispatcher: one for every request, and none granted without a decision.

The account of a channel, answered or held, equals the number of times it was received, which
is at most one. A result other than an error comes from the outcome of the callback that was
called for the very request.
-/

namespace XelisWallet.DispatcherAnswers

open Json Runs Trace Registry Xswd Dispatcher DispatcherQueue DispatcherTurns DispatcherShape
open DispatcherMoves DispatcherWorld

variable {F : Type} {d : Desk F}

/-- The channels received so far. -/
def askedChannels (log : List (Entry F)) : List Channel :=
  (receivedEvents log).flatMap XSWDEvent.channels

/-- The decisions asked for so far, oldest first. -/
def requests (log : List (Entry F)) : List (Decision F) :=
  (receivedEvents log).filterMap eventDecision

lemma requests_append (l₁ l₂ : List (Entry F)) :
    requests (l₁ ++ l₂) = requests l₁ ++ requests l₂ := by
  simp [requests]

/-- Where a result comes from: a request, the call made for it, and the outcome of the call. -/
def Decided (pre : List (Entry F)) (x : Decision F) (o : DecisionCallbackOutcome) : Prop :=
  x ∈ requests pre ∧ (∃ summary, .called x summary ∈ pre) ∧
    .returned (.decision x.channel) (.decision o) ∈ pre

/-- A result is the outcome of a call, for the request that it answers; a notification is
given up when the handler closes, or if it cancelled no admission. -/
def Backed (pre : List (Entry F)) : Entry F → Prop
  | .permission c (.ok r) => ∃ x o, Decided pre x o ∧ x.response = .permission c ∧
      permissionResultFromOutcome o = .ok r
  | .prefetch c (.ok m) => ∃ x o permissions, Decided pre x o ∧
      x.response = .prefetch permissions c ∧ prefetchResultFromOutcome o permissions = .ok m
  | .abandoned n code => code = .handlerClosed ∨ n.cancelledApplicationAdmission = false
  | _ => True

structure Inv (d : Desk F) : Prop where
  shape : Shape d
  account : ∀ c, answered c d.log + (held d).count c = (askedChannels d.log).count c
  fresh : (askedChannels d.log).Nodup
  order : (pipeline d).Sublist (requests d.log)
  called : ∀ a x, d.active = some a → activeDecision a = some x →
    ∃ summary, .called x summary ∈ d.log
  backed : Justified Backed d.log

variable {pre : List (Entry F)} {e : Entry F} {x : Decision F}

lemma backed_of_plain (h : Plain e) : Backed pre e := by
  cases e with
  | permission c result | prefetch c result =>
    cases result with
    | error => trivial
    | ok => exact h.elim
  | abandoned => exact h
  | received | closed | called | notified | returned | acknowledged | interrupted => trivial

lemma backed_complete {o : DecisionCallbackOutcome} (h : Decided pre x o) :
    Backed pre (x.response.complete o) := by
  rcases hr : x.response with c | ⟨permissions, c⟩ <;> simp only [PendingResponse.complete]
  · rcases hres : permissionResultFromOutcome o with e | r
    · trivial
    · exact ⟨x, o, h, hr, hres⟩
  · rcases hres : prefetchResultFromOutcome o permissions with e | m
    · trivial
    · exact ⟨x, o, permissions, h, hr, hres⟩

lemma inv_initial : Inv (Desk.initial : Desk F) where
  shape := ⟨⟨by simp [Desk.initial], by simp [Desk.initial], by simp [Desk.initial]⟩, trivial⟩
  account c := rfl
  fresh := List.nodup_nil
  order := List.Sublist.refl _
  called := by simp [Desk.initial]
  backed := justified_nil

/-! ### What the answers say -/

/-- An answer that grants something. -/
def Grants : Entry F → Prop
  | .permission _ (.ok r) => r.grants = true
  | .prefetch _ (.ok m) => ∃ p ∈ m, p.2 = .allow
  | _ => False

/-- An answer to a decision that is an error or a rejection. -/
def Denies : Entry F → Prop
  | .permission _ (.error _) | .prefetch _ (.error _) => True
  | .permission _ (.ok r) => r = .reject ∨ r = .alwaysReject
  | .prefetch _ (.ok m) => m = []
  | _ => False

/-- An answer to a decision. -/
def AnswersDecision : Entry F → Prop
  | .permission _ _ | .prefetch _ _ => True
  | _ => False

lemma denies_of_not_grants (hb : Backed pre e) (ha : AnswersDecision e) (hg : ¬ Grants e) :
    Denies e := by
  rcases e with _ | _ | _ | _ | _ | ⟨c, e | r⟩ | ⟨c, e | m⟩ | _ | _ | _ <;>
    first | exact ha.elim | trivial | skip
  · cases r <;> simp [Grants, PermissionResult.grants] at hg <;> simp [Denies]
  obtain ⟨x, o, permissions, -, -, hres⟩ := hb
  change m = []
  rw [List.eq_nil_iff_forall_not_mem]
  intro p hp
  refine hg ⟨p, hp, ?_⟩
  cases o <;> cases hres
  · exact ((mem_prefetchPermissions permissions p).mp hp).2
  · simp at hp
  · exact ((mem_prefetchPermissions permissions p).mp hp).2
  · simp at hp

/-- A granting answer is for a request whose callback accepted, and a granted prefetch allows
exactly the names of its request. -/
lemma granted_of_backed (hb : Backed pre e) (hg : Grants e) :
    ∃ x o, Decided pre x o ∧ answers e = [x.channel] ∧ (o = .accept ∨ o = .alwaysAccept) ∧
      ∀ c m, e = .prefetch c (.ok m) → ∃ permissions, x.response = .prefetch permissions c ∧
        ∀ p, p ∈ m ↔ p.1 ∈ permissions.permissions ∧ p.2 = .allow := by
  rcases e with _ | _ | _ | _ | _ | ⟨c, e | r⟩ | ⟨c, e | m⟩ | _ | _ | _ <;>
    first | exact hg.elim | skip
  · obtain ⟨x, o, hd, hx, hres⟩ := hb
    refine ⟨x, o, hd, by simp [answers, Decision.channel, hx, PendingResponse.channel], ?_, by simp⟩
    have hog : o.grants = true := (permissionResult_grants hres).symm.trans hg
    cases o <;> simp_all [DecisionCallbackOutcome.grants]
  · obtain ⟨x, o, permissions, hd, hx, hres⟩ := hb
    obtain ⟨p, hp, -⟩ := hg
    refine ⟨x, o, hd, by simp [answers, Decision.channel, hx, PendingResponse.channel], ?_, ?_⟩
    · cases o <;> cases hres <;> simp at hp ⊢
    rintro c' m' ⟨⟩
    refine ⟨permissions, hx, ?_⟩
    cases o <;> cases hres
    · exact mem_prefetchPermissions permissions
    · simp at hp
    · exact mem_prefetchPermissions permissions
    · simp at hp

lemma cancel_mem_held {callback : Sender} (h : Channel.cancel callback ∈ held d) :
    ∃ state b, d.await = .invalidateCancel state callback b := by
  obtain h | h := List.mem_append.mp h
  · cases hw : d.await <;> simp [hw, awaitChannel] at h
    subst h
    exact ⟨_, _, rfl⟩
  · obtain ⟨x, -, hx⟩ := List.mem_map.mp h
    obtain ⟨state, response, admission⟩ := x
    cases response <;> cases hx

lemma held_ended (h : Shape d) (hw : d.await = .ended) : held d = [] := by
  have haw := h.await
  rw [hw] at haw
  simp [held, pipeline, hw, awaitChannel, awaitDecision, haw.1, haw.2]

lemma Inv.once (h : Inv d) {c : Channel} (hc : c ∈ askedChannels d.log) :
    answered c d.log + (held d).count c = 1 := by
  rw [h.account c]
  exact List.count_eq_one_of_mem h.fresh hc

lemma channels_requests (events : List (XSWDEvent F)) :
    ((events.filterMap eventDecision).map Decision.channel).Sublist
      (events.flatMap XSWDEvent.channels) := by
  induction events with
  | nil => exact List.Sublist.refl _
  | cons event events ih =>
    rw [List.flatMap_cons, List.filterMap_cons]
    rcases hx : eventDecision event with _ | x
    · exact ih.trans (List.sublist_append_right ..)
    · rw [channels_of_eventDecision hx]
      exact ih.cons_cons _

lemma Inv.channel_inj (h : Inv d) {y : Decision F} (hx : x ∈ requests d.log)
    (hy : y ∈ requests d.log) (hc : x.channel = y.channel) : x = y :=
  List.inj_on_of_nodup_map (h.fresh.sublist (channels_requests _)) hx hy hc

lemma channel_ne_cancel (x : Decision F) (callback : Sender) : x.channel ≠ .cancel callback := by
  obtain ⟨state, response, admission⟩ := x
  cases response <;> simp [Decision.channel, PendingResponse.channel]

lemma Inv.pending (h : Inv d) (hx : x ∈ requests d.log) :
    0 < answered x.channel d.log ∨ x ∈ pipeline d := by
  have hasked : x.channel ∈ askedChannels d.log :=
    (channels_requests _).subset (List.mem_map_of_mem hx)
  have hone := h.once hasked
  obtain hzero | hpos := Nat.eq_zero_or_pos (answered x.channel d.log)
  · right
    have hheld : x.channel ∈ held d := List.count_pos_iff.mp (by omega)
    obtain hm | hm := List.mem_append.mp hheld
    · cases hw : d.await <;> simp [hw, awaitChannel] at hm
      exact absurd hm (channel_ne_cancel x _)
    · obtain ⟨y, hy, hc⟩ := List.mem_map.mp hm
      rwa [← h.channel_inj (h.order.subset hy) hx hc]
  · exact .inl hpos

/-- What is pending is not answered, and nothing is answered twice. -/
lemma Inv.answered_le (h : Inv d) (hx : x ∈ requests d.log) :
    answered x.channel d.log ≤ 1 ∧ (x ∈ pipeline d → answered x.channel d.log = 0) := by
  have hone := h.once ((channels_requests _).subset (List.mem_map_of_mem hx))
  refine ⟨by omega, fun hp => ?_⟩
  have hheld : 0 < (held d).count x.channel :=
    List.count_pos_iff.mpr (List.mem_append_right _ (List.mem_map_of_mem hp))
  omega

/-! ### Turns -/

lemma receivedEvents_returned (a : ActiveCallback F) (outcome : ActiveOutcome) :
    receivedEvents (Entry.returned a.future outcome :: a.complete outcome) = [] := by
  change receivedEvents (a.complete outcome) = []
  unfold ActiveCallback.complete
  split <;> simp [receivedEvents]

variable [Double F] {cfg : Config} {alive : App → Bool} {d' : Desk F} {new : Option (XSWDEvent F)}

lemma turn_receivedEvents (h : Shape d) (ht : Turn cfg alive d new d') :
    receivedEvents d'.log = receivedEvents d.log ++ new.toList := by
  rcases turn_log h ht with ⟨sent, hlog, hp, -⟩ | ⟨a, outcome, -, -, rfl, hlog, -⟩ |
    ⟨x, t, r, summary, -, rfl, rfl⟩
  · rw [hlog, receivedEvents_append, receivedEvents_append, receivedEvents_plain hp,
      List.append_nil]
    cases new <;> rfl
  · rw [hlog, receivedEvents_append, receivedEvents_returned]
    rfl
  · rw [Desk.call_log, Desk.emit_log, receivedEvents_append]
    rfl

lemma turn_requests (h : Shape d) (ht : Turn cfg alive d new d') :
    requests d'.log = requests d.log ++ (new.bind eventDecision).toList := by
  rw [requests, turn_receivedEvents h ht, List.filterMap_append]
  congr 1
  obtain _ | event := new
  · rfl
  · simp [List.filterMap_cons]
    cases eventDecision event <;> rfl

lemma turn_fresh (ht : Turn cfg alive d new d') :
    ∀ c ∈ newChannels new, c ∉ askedChannels d.log := by
  have hfresh : ∀ event : XSWDEvent F, d.fresh event = true →
      ∀ c ∈ newChannels (some event), c ∉ askedChannels d.log := by
    intro event hf c hc
    simp only [newChannels, Option.toList_some, List.flatMap_singleton] at hc
    simpa [askedChannels] using List.all_eq_true.mp hf c hc
  cases ht with
  | idleReceived event _ _ _ hf | busyReceived _ _ event _ _ hf => exact hfresh event hf
  | _ => simp [newChannels]

lemma turn_log_append (h : Shape d) (ht : Turn cfg alive d new d') :
    ∃ more, d'.log = d.log ++ more := by
  rcases turn_log h ht with ⟨sent, hlog, -⟩ | ⟨a, outcome, -, -, -, hlog, -⟩ |
    ⟨x, t, r, summary, -, -, rfl⟩
  · exact ⟨_, hlog⟩
  · exact ⟨_, hlog⟩
  · exact ⟨_, rfl⟩

lemma turn_called (h : Inv d) (ht : Turn cfg alive d new d') :
    ∀ a x, d'.active = some a → activeDecision a = some x →
      ∃ summary, .called x summary ∈ d'.log := by
  obtain ⟨more, hlog⟩ := turn_log_append h.shape ht
  intro a x ha hx
  obtain hnone | hsame | ⟨n, hn, -⟩ | ⟨y, t, r, summary, hw, rfl⟩ := turn_active h.shape ht
  · rw [hnone] at ha
    cases ha
  · obtain ⟨summary, hs⟩ := h.called a x (hsame ▸ ha) hx
    exact ⟨summary, by rw [hlog]; exact List.mem_append_left _ hs⟩
  · rw [hn] at ha
    cases ha
    cases hx
  · cases ha
    cases hx
    exact ⟨summary, by simp⟩

lemma turn_backed (h : Inv d) (ht : Turn cfg alive d new d') : Justified Backed d'.log := by
  rcases turn_log h.shape ht with ⟨sent, hlog, hp, -⟩ | ⟨a, outcome, ha, hy, -, hlog, -⟩ |
    ⟨x, t, r, summary, -, -, rfl⟩
  · rw [hlog]
    refine h.backed.append fun pre e post he => ?_
    have hmem : e ∈ new.toList.map Entry.received ++ sent := by rw [he]; simp
    obtain hm | hm := List.mem_append.mp hmem
    · obtain ⟨event, -, rfl⟩ := List.mem_map.mp hm
      trivial
    · exact backed_of_plain (hp e hm)
  · rw [hlog]
    refine h.backed.append fun pre e post he => ?_
    obtain _ | ⟨e₀, pre⟩ := pre
    · cases he
      trivial
    rw [List.cons_append, List.cons.injEq] at he
    obtain ⟨rfl, he⟩ := he
    -- the outcome is recorded, so what is made of it is backed
    obtain ⟨state, kind, future⟩ := a
    have hm := h.shape.slots.matched _ ha
    cases kind with
    | notification => cases outcome <;> simp [ActiveCallback.complete] at he
    | decision response admission =>
      obtain rfl : future = .decision response.channel := hm
      cases outcome with
      | notification => cases hy
      | decision o =>
        have hdec : Decided (d.log ++ [.returned (.decision response.channel) (.decision o)])
            ⟨state, response, admission⟩ o := by
          obtain ⟨summary, hs⟩ := h.called _ ⟨state, response, admission⟩ ha rfl
          refine ⟨?_, ⟨summary, List.mem_append_left _ hs⟩, by simp [Decision.channel]⟩
          have hx : ⟨state, response, admission⟩ ∈ requests d.log :=
            h.order.subset (by simp [pipeline, ha, activeDecision])
          rw [requests_append]
          exact List.mem_append_left _ hx
        replace he : [response.complete o] = pre ++ e :: post := he
        obtain _ | ⟨e₁, pre⟩ := pre
        · cases he
          exact backed_complete hdec
        · simp at he
  · refine h.backed.append fun pre e post he => ?_
    have hmem : e ∈ [Entry.called x summary] := by rw [he]; simp
    rw [List.mem_singleton.mp hmem]
    trivial

/-- **Every turn keeps the invariant.** -/
theorem inv_turn (h : Inv d) (ht : Turn cfg alive d new d') : Inv d' := by
  have hev := turn_receivedEvents h.shape ht
  have hasked : askedChannels d'.log = askedChannels d.log ++ newChannels new := by
    rw [askedChannels, hev, List.flatMap_append]
    rfl
  refine ⟨shape_turn h.shape ht, fun c => ?_, ?_, ?_, turn_called h ht, turn_backed h ht⟩
  · rw [turn_load h.shape ht c, h.account c, hasked, List.count_append]
  · rw [hasked]
    refine List.Nodup.append h.fresh ?_ fun c hc hn => turn_fresh ht c hn hc
    obtain _ | event := new
    · simp [newChannels]
    · cases event <;> simp [newChannels, XSWDEvent.channels]
  · rw [turn_requests h.shape ht]
    exact (turn_order h.shape ht).trans (List.Sublist.append_right h.order _)

/-- Every reachable dispatcher keeps its account. -/
theorem reachable_inv (h : Reachable (desks cfg) d) : Inv d := by
  refine h.invariant (P := Inv) ?_ ?_
  · rintro d rfl
    exact inv_initial
  rintro d ⟨alive, input⟩ d' - hd hstep
  obtain ⟨new, ht, -⟩ := turn_of_step hstep
  exact inv_turn hd ht

variable {w : World F}

/-- **One answer for every request.** In every run a request is answered at most once, and
exactly once when the handler has ended; a cancellation is acknowledged exactly once, at the
latest when its state has been invalidated; only what was received is answered. An answer
grants something only if the callback that was called for its request accepted, and then a
prefetch allows the names of its request; every other answer is an error or a rejection. -/
theorem requests_answered_once (h : Reachable (worlds cfg) w) :
    (∀ event ∈ receivedEvents w.desk.log, ∀ c ∈ event.channels,
      answered c w.desk.log ≤ 1 ∧ (w.desk.await = .ended → answered c w.desk.log = 1)) ∧
    (∀ state callback, .cancelRequest state callback ∈ receivedEvents w.desk.log →
      (∀ s b, w.desk.await ≠ .invalidateCancel s callback b) →
      answered (.cancel callback) w.desk.log = 1) ∧
    (∀ c, 0 < answered c w.desk.log → ∃ event ∈ receivedEvents w.desk.log, c ∈ event.channels) ∧
    (∀ pre e post, w.desk.log = pre ++ e :: post → Grants e →
      ∃ x o, x ∈ requests pre ∧ answers e = [x.channel] ∧
        (∃ summary, .called x summary ∈ pre) ∧
        .returned (.decision x.channel) (.decision o) ∈ pre ∧ (o = .accept ∨ o = .alwaysAccept) ∧
        ∀ c m, e = .prefetch c (.ok m) → ∃ permissions, x.response = .prefetch permissions c ∧
          ∀ p, p ∈ m ↔ p.1 ∈ permissions.permissions ∧ p.2 = .allow) ∧
    (∀ e ∈ w.desk.log, AnswersDecision e → ¬ Grants e → Denies e) := by
  have hi := reachable_inv (reachable_desk h)
  have hasked : ∀ event ∈ receivedEvents w.desk.log, ∀ c ∈ event.channels,
      c ∈ askedChannels w.desk.log := fun event he c hc => List.mem_flatMap.mpr ⟨event, he, hc⟩
  refine ⟨fun event he c hc => ?_, fun state callback he hw => ?_, fun c hc => ?_,
    fun pre e post hlog hg => ?_, fun e he ha hg => ?_⟩
  · have := hi.once (hasked event he c hc)
    refine ⟨by omega, fun hend => ?_⟩
    rwa [held_ended hi.shape hend, List.count_nil, Nat.add_zero] at this
  · have hone := hi.once (hasked _ he _ (List.mem_singleton.mpr rfl))
    have hnot : Channel.cancel callback ∉ held w.desk := by
      intro hm
      obtain ⟨s, b, hs⟩ := cancel_mem_held hm
      exact hw s b hs
    rwa [List.count_eq_zero_of_not_mem hnot, Nat.add_zero] at hone
  · have hpos : 0 < (askedChannels w.desk.log).count c := by
      have := hi.account c
      omega
    exact List.mem_flatMap.mp (List.count_pos_iff.mp hpos)
  · obtain ⟨x, o, ⟨hx, hcall, hret⟩, hch, ho, hm⟩ :=
      granted_of_backed (hi.backed pre e post hlog) hg
    exact ⟨x, o, hx, hch, hcall, hret, ho, hm⟩
  · obtain ⟨pre, post, hlog⟩ := List.append_of_mem he
    exact denies_of_not_grants (hi.backed pre e post hlog) ha hg

/-- An accepted admission is answered once, when the handler has ended. -/
theorem accepted_admission_answered :
    ∃ w : World Float, Reachable (worlds plainConfig) w ∧ w.desk.await = .ended ∧
      .permission 0 (.ok .accept) ∈ w.desk.log ∧ answered (.permission 0) w.desk.log = 1 := by
  have h : Reachable (worlds (F := Float) plainConfig) _ :=
    reachable_initial.exec (fun _ _ _ h => h)
    [.recv (some (.requestApplication 7 0)), .lock, .described [],
      .select none (some (.decision .accept)), .recv none, .lock] rfl
  have hlog := requests_answered_once h
  refine ⟨_, h, rfl, ?_, (hlog.1 (.requestApplication 7 0) ?_ _ (List.mem_singleton.mpr rfl)).2 rfl⟩
  · exact .tail _ (.tail _ (.tail _ (.head _)))
  · exact .head _

end XelisWallet.DispatcherAnswers
