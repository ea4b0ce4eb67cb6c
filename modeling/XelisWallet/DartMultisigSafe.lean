import XelisWallet.DartMultisig

/-!
Which signing request a wallet handle accepts.

The native store holds one request at a time and gives it up only to who names its id, which the
handle alone learns, from the reply. So no request can be stored between the reply that announces
one and the end of that one, and a request object is never replaced while its request is pending.
-/

namespace XelisWallet.DartMultisig

open Runs NativeError PendingMultisig PreparedStore
open Multisig (mapPendingMultisigError)
open MultisigFinalize (preparedTransactionError)

variable {H T M D X : Type} {s s' : Handle H T M D} {i r k n : ℕ} {h : H}

/-! ### Request objects -/

/-- The native request of an object, by its id and its signing hash. -/
def Handle.names (s : Handle H T M D) (r : ℕ) : Option (ℕ × H) :=
  s.registered[r]?.map fun p => (p.2.requestId, p.1.signingHash)

/-- The handle accepts the object. -/
def Handle.Accepts (s : Handle H T M D) (r : ℕ) : Prop :=
  (s.pendingMultisigRequestCapability r).isSome = true

lemma accepts_iff : s.Accepts r ↔
    s.activePendingMultisigRequest = some r ∧ ∃ p, s.registered[r]? = some p ∧ p.2.active := by
  unfold Handle.Accepts Handle.pendingMultisigRequestCapability
  cases s.registered[r]? with
  | none => simp
  | some => simp [and_comm]

lemma names_of_capability {p} (hp : s.pendingMultisigRequestCapability r = some p) :
    s.names r = some (p.2.requestId, p.1.signingHash) ∧ s.Accepts r := by
  refine ⟨?_, by simp [Handle.Accepts, hp]⟩
  simp only [Handle.pendingMultisigRequestCapability] at hp
  split at hp
  · next p' hp' =>
    split at hp <;> cases hp
    rw [Handle.names, hp', Option.map_some]
  · cases hp

@[simp] lemma names_deactivate : (s.deactivate k).names r = s.names r := by
  simp only [Handle.names, Handle.deactivate, List.getElem?_modify]
  cases s.registered[r]? with
  | none => rfl
  | some => by_cases hk : k = r <;> simp [hk]

@[simp] lemma names_invalidate : (s.invalidatePendingMultisigRequest k).names r = s.names r :=
  names_deactivate

lemma accepts_invalidate :
    (s.invalidatePendingMultisigRequest k).Accepts r ↔ s.Accepts r ∧ r ≠ k := by
  simp only [accepts_iff, Handle.invalidatePendingMultisigRequest, Handle.deactivate,
    List.getElem?_modify]
  by_cases hr : r = k
  · subst hr
    by_cases hactive : s.activePendingMultisigRequest = some r <;> simp [hactive]
  by_cases hactive : s.activePendingMultisigRequest = some k
  · simp [hactive, Ne.symm hr]
  · simp [hactive, hr, Ne.symm hr]

section Register

variable {q : XelisWalletMultisigSigningRequest H D}

lemma register_eq (s : Handle H T M D) (q : XelisWalletMultisigSigningRequest H D) (n : ℕ) :
    ∃ l : Handle H T M D, l.registered.length = s.registered.length ∧ (∀ r, l.names r = s.names r) ∧
      (s.register q n).registered = l.registered ++ [(q, ⟨n, true⟩)] ∧
      (s.register q n).activePendingMultisigRequest = some s.registered.length := by
  unfold Handle.register
  split
  · next previous _ =>
    exact ⟨s.deactivate previous, by simp [Handle.deactivate], fun _ => names_deactivate, rfl,
      by simp [Handle.deactivate]⟩
  · exact ⟨s, rfl, fun _ => rfl, rfl, rfl⟩

lemma names_register : (s.register q n).names r =
    if r = s.registered.length then some (n, q.signingHash) else s.names r := by
  obtain ⟨l, hlength, hnames, hregistered, -⟩ := register_eq s q n
  rw [Handle.names, hregistered]
  split
  · next hr => simp [hr, ← hlength]
  next hr =>
  rw [← hnames, Handle.names]
  obtain hlt | hgt := lt_or_gt_of_ne (hlength ▸ hr)
  · rw [List.getElem?_append_left hlt]
  · rw [List.getElem?_eq_none (by simp; omega), List.getElem?_eq_none hgt.le]

lemma accepts_register : (s.register q n).Accepts r ↔ r = s.registered.length := by
  obtain ⟨l, hlength, -, hregistered, hactive⟩ := register_eq s q n
  rw [accepts_iff, hregistered, hactive]
  constructor
  · rintro ⟨hr, -⟩
    exact (Option.some.inj hr).symm
  · rintro rfl
    exact ⟨rfl, (q, ⟨n, true⟩), by simp [← hlength], rfl⟩

lemma lt_of_names {x : ℕ × H} (hr : s.names r = some x) : r < s.registered.length := by
  by_contra hle
  rw [Handle.names, List.getElem?_eq_none (not_lt.mp hle)] at hr
  cases hr

end Register

/-! ### The invariant -/

/-- The id was given out, and its request is not pending any more. -/
def Gone (native : PendingMultisigStore H T) (n : ℕ) : Prop :=
  n ≤ native.nextGeneration ∧ ∀ h t, native.request ≠ some (n, h, t)

/-- The object's request is gone. -/
def Lost (s : Handle H T M D) (r : ℕ) : Prop :=
  ∃ n h, s.names r = some (n, h) ∧ Gone s.native n

/-- What a call of the handle knows. -/
def CallInv (s : Handle H T M D) : Call H M → Prop
  | .prepared native => ∃ n t, native.requestId = some n ∧
    s.native.request = some (n, native.signingHash, t) ∧ n ∉ s.delivered
  | .finalizing r n h => s.names r = some (n, h)
  | .taken r => Lost s r
  | .finalized r result => result = .ok () ∨ result = .error .notFound → Lost s r
  | _ => True

structure Inv (s : Handle H T M D) : Prop where
  counter : ∀ n h t, s.native.request = some (n, h, t) → n ≤ s.native.nextGeneration
  delivered : ∀ n ∈ s.delivered, n ≤ s.native.nextGeneration
  registered : ∀ r n h, s.names r = some (n, h) → n ∈ s.delivered
  call : ∀ i, CallInv s (s.calls i)
  single : ∀ i j a b, s.calls i = .prepared a → s.calls j = .prepared b → i = j
  pending : ∀ n h t, s.native.request = some (n, h, t) → n ∈ s.delivered →
    ∃ r, s.names r = some (n, h) ∧ s.Accepts r

lemma Inv.init : Inv (.init : Handle H T M D) where
  counter := nofun
  delivered := nofun
  registered r n h hr := by simp [Handle.names, Handle.init] at hr
  call _ := trivial
  single := nofun
  pending := nofun

/-- What the other calls know stays true when no request is announced by a call on its way. -/
lemma CallInv.keep {call : Call H M} (hcall : CallInv s call)
    (hnames : ∀ r x, s.names r = some x → s'.names r = some x)
    (hgone : ∀ n, Gone s.native n → Gone s'.native n) (hnot : ∀ native, call ≠ .prepared native) :
    CallInv s' call := by
  have hlost : ∀ r, Lost s r → Lost s' r := fun r ⟨n, h, hr, hn⟩ =>
    ⟨n, h, hnames r _ hr, hgone n hn⟩
  cases call with
  | prepared native => exact absurd rfl (hnot native)
  | finalizing r => exact hnames r _ hcall
  | taken r => exact hlost r hcall
  | finalized r => exact fun hends => hlost r (hcall hends)
  | idle | preparing | inspecting | inspected | failed | shared | ended => trivial

lemma Inv.goto (hs : Inv s) {call : Call H M} (hcall : CallInv s call)
    (hnot : ∀ native, call ≠ .prepared native) : Inv (s.goto i call) := by
  have hold : ∀ j native, (s.goto i call).calls j = .prepared native →
      s.calls j = .prepared native := by
    intro j native hj
    by_cases hji : j = i
    · subst hji
      exact absurd (by simpa [Handle.goto] using hj) (hnot native)
    · simpa [Handle.goto, hji] using hj
  refine ⟨hs.counter, hs.delivered, hs.registered, fun j => ?_,
    fun j k a b hj hk => hs.single j k a b (hold j a hj) (hold k b hk), hs.pending⟩
  by_cases hji : j = i
  · subst hji
    rwa [show (s.goto j call).calls j = call from Function.update_self ..]
  · rw [show (s.goto i call).calls j = s.calls j from Function.update_of_ne hji ..]
    exact hs.call j

lemma Inv.used (hs : Inv s) {t : T} (hpending : s.native.request = some (n, h, t))
    (hn : n ∈ s.delivered) :
    Inv ({ s with native := ⟨none, s.native.nextGeneration⟩ } : Handle H T M D) := by
  refine ⟨nofun, hs.delivered, hs.registered, fun i => ?_, hs.single, nofun⟩
  refine (hs.call i).keep (fun _ _ => id) (fun _ hgone => ⟨hgone.1, nofun⟩) fun native hi => ?_
  have hcall := hs.call i
  rw [hi] at hcall
  obtain ⟨n', t', -, hpending', hn'⟩ := hcall
  rw [hpending] at hpending'
  cases hpending'
  exact hn' hn

lemma Inv.invalidate (hs : Inv s) (hlost : Lost s r) :
    Inv (s.invalidatePendingMultisigRequest r) := by
  refine ⟨hs.counter, hs.delivered, fun r n h hr => hs.registered r n h (by simpa using hr),
    fun i => ?_, hs.single, fun n h t hpending hn => ?_⟩
  · have hcall := hs.call i
    show CallInv _ (s.calls i)
    generalize s.calls i = call at hcall ⊢
    cases call with
    | prepared => exact hcall
    | _ => exact hcall.keep (fun _ _ hr => names_invalidate.trans hr) (fun _ => id) nofun
  · obtain ⟨r', hr', haccepts⟩ := hs.pending n h t hpending hn
    refine ⟨r', names_invalidate.trans hr', accepts_invalidate.mpr ⟨haccepts, ?_⟩⟩
    rintro rfl
    obtain ⟨n', h', hr, -, hgone⟩ := hlost
    rw [hr'] at hr
    cases hr
    exact hgone h t hpending

/-! ### The steps of calls -/

lemma Inv.store (hs : Inv s) {t : T} {content : M} (hempty : s.native.request = none) :
    Inv ({ s with
      native := ⟨some (s.native.nextGeneration + 1, h, t), s.native.nextGeneration + 1⟩ }.goto i
        (.prepared ⟨some (s.native.nextGeneration + 1), h, content⟩)) := by
  have hfresh : s.native.nextGeneration + 1 ∉ s.delivered := fun hn =>
    absurd (hs.delivered _ hn) (by omega)
  -- no announcement is on its way, since nothing is pending
  have hnone : ∀ j native, s.calls j ≠ .prepared native := by
    intro j native hj
    have hcall := hs.call j
    rw [hj] at hcall
    obtain ⟨n, t, -, hpending, -⟩ := hcall
    rw [hempty] at hpending
    cases hpending
  have honly : ∀ j native, Function.update s.calls i
      (.prepared ⟨some (s.native.nextGeneration + 1), h, content⟩) j = .prepared native →
        j = i := by
    intro j native hj
    by_contra hji
    rw [Function.update_of_ne hji] at hj
    exact hnone j native hj
  refine ⟨?_, fun n hn => Nat.le_succ_of_le (hs.delivered n hn), hs.registered, fun j => ?_,
    fun j k a b hj hk => (honly j a hj).trans (honly k b hk).symm, ?_⟩
  · rintro n h' t' ⟨⟩
    exact le_rfl
  · by_cases hji : j = i
    · subst hji
      simpa [Handle.goto, CallInv] using hfresh
    have hgone : ∀ n, Gone s.native n →
        Gone ⟨some (s.native.nextGeneration + 1, h, t), s.native.nextGeneration + 1⟩ n := by
      rintro n ⟨hle, -⟩
      refine ⟨Nat.le_succ_of_le hle, ?_⟩
      rintro h' t' ⟨⟩
      exact absurd hle (by omega)
    rw [show Handle.calls _ j = s.calls j from Function.update_of_ne hji ..]
    exact (hs.call j).keep (fun _ _ => id) hgone (hnone j)
  · rintro n h' t' ⟨⟩ hn
    exact absurd hn hfresh

variable [DecidableEq H] {detailsFromGenerated : M → Except X D}

lemma Inv.announce (hs : Inv s) {native : NativeMultisigSigningRequest H M}
    (hi : s.calls i = .prepared native) :
    Inv (s.adaptAndRegister detailsFromGenerated i native) := by
  have hcall := hs.call i
  rw [hi] at hcall
  obtain ⟨n, t, hid, hpending, hnew⟩ := hcall
  have hended : Inv (s.goto i .ended) := hs.goto trivial nofun
  have hnone : ∀ j native, (s.goto i .ended).calls j ≠ .prepared native := by
    intro j native' hj
    by_cases hji : j = i
    · subst hji
      simp [Handle.goto] at hj
    · refine hji (hs.single j i native' native ?_ hi)
      simpa [Handle.goto, hji] using hj
  have hdelivered : ∀ n' ∈ s.delivered ++ [n], n' ≤ s.native.nextGeneration := by
    simp only [List.mem_append, List.mem_singleton]
    rintro n' (hn' | rfl)
    · exact hs.delivered n' hn'
    · exact hs.counter _ _ _ hpending
  simp only [Handle.adaptAndRegister, hid]
  split
  · next request hrequest =>
    have hhash : request.signingHash = native.signingHash := by
      simp only [multisigRequestFromGenerated, Fallible.bind_eq_ok] at hrequest
      obtain ⟨details, -, hdetails⟩ := hrequest
      cases hdetails
      rfl
    have hnames : ∀ r x, s.names r = some x → r ≠ s.registered.length := fun r x hr =>
      (lt_of_names hr).ne
    refine ⟨hs.counter, hdelivered, fun r n' h hr => ?_, fun j => ?_,
      fun j _ a _ hj _ => absurd hj (hnone j a), fun n' h t' hpending' _ => ?_⟩
    · rw [names_register] at hr
      split at hr
      · cases hr
        exact List.mem_append_right _ (List.mem_singleton_self _)
      · exact List.mem_append_left _ (hs.registered r n' h hr)
    · refine (hended.call j).keep (fun r x hr => ?_) (fun _ => id) (hnone j)
      rw [names_register]
      exact (if_neg (hnames r x hr)).trans hr
    · obtain ⟨⟩ := hpending.symm.trans hpending'
      refine ⟨s.registered.length, ?_, accepts_register.mpr rfl⟩
      rw [names_register, ← hhash]
      exact if_pos rfl
  · have hcancel : (s.native.cancel (E := String) n native.signingHash).2 =
        ⟨none, s.native.nextGeneration⟩ := by
      simp [PendingMultisigStore.cancel, PendingMultisigStore.ensureExpectedRequest, hpending]
    have hall : Inv { s.goto i .ended with
        delivered := s.delivered ++ [n], native := ⟨none, s.native.nextGeneration⟩ } :=
      ⟨nofun, hdelivered, fun r n' h hr => List.mem_append_left _ (hs.registered r n' h hr),
        fun j => (hended.call j).keep (fun _ _ => id) (fun _ hgone => ⟨hgone.1, nofun⟩) (hnone j),
        hended.single, nofun⟩
    rwa [← hcancel] at hall

omit [DecidableEq H] in
/-- A finalization that found its request is refused with another code than that it is gone. -/
lemma Refusal.ne_notFound {code : NativeXelisErrorCode} (hcode : Refusal code) :
    code ≠ .notFound := by
  cases hcode with
  | arguments | panic => nofun
  | slot slot error hslot =>
    simp only [PreparedTransactionStore.beginPreparation,
      PreparedTransactionStore.ensureReplaceable, PreparedTransactionStore.allocateGeneration]
      at hslot
    split at hslot
    · next e he =>
      cases hslot
      split_ifs at he <;> cases he <;> nofun
    · cases hg : Checked.checkedAdd Checked.u64Max slot.nextGeneration 1 with
      | none =>
        rw [hg] at hslot
        cases hslot
        nofun
      | some =>
        rw [hg] at hslot
        cases hslot

lemma request_eq_none_of_expected {e : Failure String} {native : PendingMultisigStore H T}
    {fallbackCode : NativeXelisErrorCode} {kind : String}
    (he : native.ensureExpectedRequest n h = .error e)
    (hcode : errorCode (mapPendingMultisigError e fallbackCode kind) = .notFound) :
    native.request = none := by
  unfold PendingMultisigStore.ensureExpectedRequest at he
  split at he
  · assumption
  · split at he <;> cases he
    cases hcode

lemma request_eq_none_of_take {R : Type} {e : Failure String} {validate : T → Except String R}
    {native : PendingMultisigStore H T} {kind : String}
    (he : native.takeValidated n h validate = (.error e, native))
    (hcode : errorCode (mapPendingMultisigError e .invalidInput kind) = .notFound) :
    native.request = none := by
  by_contra hne
  obtain ⟨⟨n', h', t⟩, hpending⟩ := Option.ne_none_iff_exists'.mp hne
  simp only [PendingMultisigStore.takeValidated, PendingMultisigStore.validate, hpending] at he
  split at he <;> cases he
  next e' he' =>
  split at he'
  · next e'' he'' =>
    cases he'
    exact hne (request_eq_none_of_expected he'' hcode)
  · split at he' <;> cases he'
    cases hcode

omit [DecidableEq H] in
lemma Inv.lost_of_names (hs : Inv s) (hr : s.names r = some (n, h))
    (hnone : s.native.request = none) : Lost s r := by
  refine ⟨n, h, hr, hs.delivered n (hs.registered r n h hr), fun h' t ht => ?_⟩
  rw [hnone] at ht
  cases ht

omit [DecidableEq H] in
lemma Inv.finalizeReply (hs : Inv s) {result : Except NativeXelisErrorCode Unit}
    (hi : s.calls i = .finalized r result) : Inv (s.finalizeReply i r result) := by
  have hlost := hs.call i
  rw [hi] at hlost
  have hended : Inv (s.goto i .ended) := hs.goto trivial nofun
  unfold Handle.finalizeReply
  split
  · exact hended.invalidate (hlost (.inl rfl))
  · exact hended.invalidate (hlost (.inr rfl))
  · exact hended

lemma Inv.cancel (hs : Inv s) (r : ℕ) : Inv (s.cancelMultisigSigningRequest r) := by
  unfold Handle.cancelMultisigSigningRequest
  split
  · exact hs
  next q c hcapability =>
  obtain ⟨hr, -⟩ := names_of_capability hcapability
  obtain ⟨e, he⟩ | ⟨t, hpending, he⟩ :=
    s.native.cancel_cases (E := String) c.requestId q.signingHash
  · rw [he]
    dsimp only
    split
    · next hcode =>
      have hexpected : s.native.ensureExpectedRequest c.requestId q.signingHash = .error e := by
        unfold PendingMultisigStore.cancel at he
        split at he <;> cases he
        assumption
      exact hs.invalidate (hs.lost_of_names hr (request_eq_none_of_expected hexpected hcode))
    · exact hs
  · rw [he]
    refine (hs.used hpending (hs.registered _ _ _ hr)).invalidate ?_
    exact ⟨_, _, hr, hs.counter _ _ _ hpending, by simp⟩

lemma Inv.step (hs : Inv s) {a : Action} (hstep : Step detailsFromGenerated s a s') : Inv s' := by
  cases hstep with
  | prepare | verify | fail | failed => exact hs.goto trivial nofun
  | store h t content hi =>
    obtain ⟨e, he⟩ | ⟨hempty, -, he⟩ := s.native.insert_cases (E := String) h t <;> rw [he]
    · exact hs.goto trivial nofun
    · exact hs.store hempty
  | announce hi => exact hs.announce hi
  | inspect request hi =>
    unfold Handle.inspectMultisigSignatureShare
    split <;> exact hs.goto trivial nofun
  | @share i request hi =>
    have hgoto : Inv (s.goto i (.shared s.shares.length)) := hs.goto trivial nofun
    exact ⟨hgoto.counter, hgoto.delivered, hgoto.registered, hgoto.call, hgoto.single,
      hgoto.pending⟩
  | finalize request shares hi =>
    unfold Handle.finalizeMultisigTransaction
    split
    · next q c hcapability =>
      split
      · exact hs.goto (names_of_capability hcapability).1 nofun
      · exact hs.goto trivial nofun
    · exact hs.goto trivial nofun
  | refuse hcode hi =>
    refine hs.goto ?_ nofun
    rintro (hok | herror)
    · cases hok
    · exact absurd (Except.error.inj herror) hcode.ne_notFound
  | @take i request requestId signingHash R validate hi =>
    have hr : s.names request = some (requestId, signingHash) := by
      simpa only [CallInv, hi] using hs.call i
    obtain ⟨e, he⟩ | ⟨t, x, hpending, -, he⟩ :=
      s.native.takeValidated_cases requestId signingHash validate
    · rw [he]
      refine hs.goto ?_ nofun
      rintro (hok | hcode)
      · cases hok
      · exact hs.lost_of_names hr (request_eq_none_of_take he (Except.error.inj hcode))
    · rw [he]
      exact (hs.used hpending (hs.registered _ _ _ hr)).goto
        ⟨_, _, hr, hs.counter _ _ _ hpending, nofun⟩ nofun
  | @commit i request result hi =>
    have hlost : Lost s request := by simpa only [CallInv, hi] using hs.call i
    exact hs.goto (fun _ => hlost) nofun
  | finalized hi => exact hs.finalizeReply hi
  | cancel request => exact hs.cancel request

/-! ### Objects that are rejected -/

/-- The object stays, and is not accepted anew. -/
def Keeps (r : ℕ) (s s' : Handle H T M D) : Prop :=
  r < s'.registered.length ∧ (s'.Accepts r → s.Accepts r)

section Keeps

variable (hr : r < s.registered.length)
include hr

omit [DecidableEq H] in
lemma keeps_invalidate (k : ℕ) : Keeps r s (s.invalidatePendingMultisigRequest k) := by
  refine ⟨?_, fun haccepts => (accepts_invalidate.mp haccepts).1⟩
  simpa [Handle.invalidatePendingMultisigRequest, Handle.deactivate] using hr

omit [DecidableEq H] in
lemma keeps_register (q : XelisWalletMultisigSigningRequest H D) (n : ℕ) :
    Keeps r s (s.register q n) := by
  obtain ⟨l, hlength, -, hregistered, -⟩ := register_eq s q n
  refine ⟨?_, fun haccepts => absurd (accepts_register.mp haccepts) hr.ne⟩
  rw [hregistered, List.length_append, hlength]
  exact Nat.lt_add_right _ hr

lemma keeps_step {a : Action} (hstep : Step detailsFromGenerated s a s') : Keeps r s s' := by
  have hsame : Keeps r s s := ⟨hr, id⟩
  cases hstep with
  | prepare | store | verify | share | refuse | take | commit | fail | failed => exact hsame
  | announce hi =>
    unfold Handle.adaptAndRegister
    dsimp only
    split
    · exact hsame
    split
    · exact keeps_register hr _ _
    · exact hsame
  | inspect request hi =>
    unfold Handle.inspectMultisigSignatureShare
    split <;> exact hsame
  | finalize request shares hi =>
    unfold Handle.finalizeMultisigTransaction
    split
    · split <;> exact hsame
    · exact hsame
  | finalized hi =>
    unfold Handle.finalizeReply
    split
    · exact keeps_invalidate hr _
    · exact keeps_invalidate hr _
    · exact hsame
  | cancel request =>
    unfold Handle.cancelMultisigSigningRequest
    split
    · exact hsame
    split
    · exact keeps_invalidate hr _
    dsimp only
    split
    · exact keeps_invalidate hr _
    · exact hsame

end Keeps

/-! ### Shares -/

/-- The object for which the call inspects a share. -/
def inspectedBy (j : ℕ) : Action → Option ℕ
  | .inspect i request => if i = j then some request else none
  | _ => none

lemma filterMap_inspectedBy (ls : List Action) (a : Action) (j : ℕ) :
    (ls ++ [a]).filterMap (inspectedBy j) =
      ls.filterMap (inspectedBy j) ++ (inspectedBy j a).toList := by
  cases ha : inspectedBy j a <;> simp [ha]

/-- What a call knows that has begun these inspections. -/
def Inspects (shares : List NativeMultisigShareCapability) (requests : List ℕ) :
    Call H M → Prop
  | .idle => requests = []
  | .inspecting r _ _ | .inspected r => requests = [r]
  | .shared k => ∃ c, shares[k]? = some c ∧ requests = [c.request]
  | _ => True

/-- Every share was returned by the inspection for its object. -/
structure Traced (ls : List Action) (shares : List NativeMultisigShareCapability)
    (calls : ℕ → Call H M) : Prop where
  call : ∀ j, Inspects shares (ls.filterMap (inspectedBy j)) (calls j)
  share : ∀ k < shares.length, ∃ j, calls j = .shared k

section Traced

variable {ls : List Action} {a : Action} {shares : List NativeMultisigShareCapability}
  {calls : ℕ → Call H M} {old call : Call H M}

omit [DecidableEq H] in
lemma Traced.update (hs : Traced ls shares calls) (hi : calls i = old)
    (hold : ∀ k, old ≠ .shared k) (hother : ∀ j ≠ i, inspectedBy j a = none)
    (hcall : Inspects shares (ls.filterMap (inspectedBy i)) old →
      Inspects shares (ls.filterMap (inspectedBy i) ++ (inspectedBy i a).toList) call) :
    Traced (ls ++ [a]) shares (Function.update calls i call) := by
  refine ⟨fun j => ?_, fun k hk => ?_⟩
  · rw [filterMap_inspectedBy]
    by_cases hji : j = i
    · subst hji
      rw [Function.update_self]
      exact hcall (hi ▸ hs.call j)
    · simpa [hji, hother j hji] using hs.call j
  · obtain ⟨j, hj⟩ := hs.share k hk
    have hji : j ≠ i := by
      rintro rfl
      exact hold k (hi.symm.trans hj)
    exact ⟨j, by rwa [Function.update_of_ne hji]⟩

omit [DecidableEq H] in
lemma Traced.returned (hs : Traced ls shares calls) (hi : calls i = .inspected r) :
    Traced (ls ++ [.reply i]) (shares ++ [⟨r, true⟩])
      (Function.update calls i (.shared shares.length)) := by
  refine ⟨fun j => ?_, fun k hk => ?_⟩
  · have hj := hs.call j
    rw [filterMap_inspectedBy, show inspectedBy j (.reply i) = none from rfl, Option.toList_none,
      List.append_nil]
    by_cases hji : j = i
    · subst hji
      rw [hi] at hj
      rw [Function.update_self]
      exact ⟨⟨r, true⟩, List.getElem?_concat_length, hj⟩
    · rw [Function.update_of_ne hji]
      generalize calls j = call at hj ⊢
      cases call with
      | shared =>
        obtain ⟨c, hk, hc⟩ := hj
        exact ⟨c, by rw [List.getElem?_append_left (List.getElem?_eq_some_iff.mp hk).1, hk], hc⟩
      | _ => exact hj
  · obtain hk | rfl := Nat.lt_succ_iff_lt_or_eq.mp (by simpa using hk)
    · obtain ⟨j, hj⟩ := hs.share k hk
      have hji : j ≠ i := by
        rintro rfl
        rw [hi] at hj
        cases hj
      exact ⟨j, by rwa [Function.update_of_ne hji]⟩
    · exact ⟨i, Function.update_self ..⟩

lemma cancel_calls (s : Handle H T M D) (r : ℕ) :
    (s.cancelMultisigSigningRequest r).shares = s.shares ∧
      (s.cancelMultisigSigningRequest r).calls = s.calls := by
  unfold Handle.cancelMultisigSigningRequest
  split
  · exact ⟨rfl, rfl⟩
  split
  · exact ⟨rfl, rfl⟩
  · dsimp only
    split <;> exact ⟨rfl, rfl⟩

lemma Traced.step (hs : Traced ls s.shares s.calls) (hstep : Step detailsFromGenerated s a s') :
    Traced (ls ++ [a]) s'.shares s'.calls := by
  cases hstep with
  | @announce i native hi =>
    have hended : Traced (ls ++ [.reply i]) s.shares (s.goto i .ended).calls :=
      hs.update hi nofun (fun _ _ => rfl) fun _ => trivial
    unfold Handle.adaptAndRegister
    dsimp only
    split
    · exact hended
    · split <;> exact hended
  | @inspect i request hi =>
    have hother : ∀ j ≠ i, inspectedBy j (.inspect i request) = none := fun j hj => if_neg hj.symm
    unfold Handle.inspectMultisigSignatureShare
    split
    · refine hs.update hi nofun hother fun hidle => ?_
      simp only [Inspects] at hidle ⊢
      rw [hidle]
      simp [inspectedBy]
    · exact hs.update hi nofun hother fun _ => trivial
  | verify validate hi =>
    exact hs.update hi nofun (fun _ _ => rfl) fun hone => (List.append_nil _).trans hone
  | share hi => exact hs.returned hi
  | finalize request shares hi =>
    unfold Handle.finalizeMultisigTransaction
    split
    · split
      all_goals exact hs.update hi nofun (fun _ _ => rfl) fun _ => trivial
    · exact hs.update hi nofun (fun _ _ => rfl) fun _ => trivial
  | store _ _ _ hi | take _ hi =>
    refine hs.update hi nofun (fun _ _ => rfl) fun _ => ?_
    split <;> trivial
  | prepare hi | refuse _ hi | commit _ hi =>
    exact hs.update hi nofun (fun _ _ => rfl) fun _ => trivial
  | @finalized i request result hi =>
    have hended : Traced (ls ++ [.reply i]) s.shares (s.goto i .ended).calls :=
      hs.update hi nofun (fun _ _ => rfl) fun _ => trivial
    unfold Handle.finalizeReply
    split <;> exact hended
  | cancel request =>
    obtain ⟨hshares, hcalls⟩ := cancel_calls s request
    rw [hshares, hcalls]
    refine ⟨fun j => ?_, hs.share⟩
    rw [filterMap_inspectedBy]
    exact (List.append_nil _).symm ▸ hs.call j
  | fail hi =>
    obtain hi | ⟨_, _, _, hi⟩ := hi
    all_goals exact hs.update hi nofun (fun _ _ => rfl) fun _ => trivial
  | failed hi =>
    obtain hi | ⟨_, hi⟩ := hi
    all_goals exact hs.update hi nofun (fun _ _ => rfl) fun _ => trivial

end Traced

/-! ### The system -/

lemma reachable_inv (hs : Reachable (handles T detailsFromGenerated) s) : Inv s := by
  refine hs.invariant ?_ fun _ _ _ _ hs hstep => hs.step hstep
  rintro _ rfl
  exact .init

lemma keeps_run {ls : List Action} (hr : r < s.registered.length)
    (hrun : Run (handles T detailsFromGenerated) s ls s') : Keeps r s s' := by
  refine hrun.preserves (fun t _ u ht hstep => ?_) ⟨hr, id⟩
  obtain ⟨hu, haccepts⟩ := keeps_step ht.1 hstep
  exact ⟨hu, fun h => ht.2 (haccepts h)⟩

lemma run_traced {ls : List Action} (hrun : Run (handles T detailsFromGenerated) .init ls s) :
    Traced ls s.shares s.calls := by
  have hinit : Traced [] (.init : Handle H T M D).shares (.init : Handle H T M D).calls :=
    ⟨fun _ => rfl, nofun⟩
  exact hrun.history (P := fun ls s => Traced ls s.shares s.calls) hinit
    fun _ _ _ _ _ hs hstep => hs.step hstep

/-- **The handle accepts the request that is pending.** Once the reply that announced the pending
request has come, its object is the one that the handle accepts. An object that was accepted once
and is rejected stays rejected. A finalization goes to the native side only with an object that is
accepted, and with shares each of which one inspection returned, for this very object. -/
theorem handle_accepts_pending_request (H T M D X : Type) [DecidableEq H]
    (detailsFromGenerated : M → Except X D) :
    (∀ s : Handle H T M D, Reachable (handles T detailsFromGenerated) s →
      ∀ n h t, s.native.request = some (n, h, t) → n ∈ s.delivered →
        ∃ r, s.names r = some (n, h) ∧ ∀ r', s.Accepts r' ↔ r' = r) ∧
    (∀ (s s₁ s₂ : Handle H T M D) ls₁ ls₂ r, s.Accepts r →
      Run (handles T detailsFromGenerated) s ls₁ s₁ → ¬s₁.Accepts r →
        Run (handles T detailsFromGenerated) s₁ ls₂ s₂ → ¬s₂.Accepts r) ∧
    ∀ ls (s : Handle H T M D), Run (handles T detailsFromGenerated) .init ls s →
      ∀ i r shares r' n h, (s.finalizeMultisigTransaction i r shares).calls i =
          .finalizing r' n h →
        r' = r ∧ s.Accepts r ∧
          ∀ k ∈ shares, ∃ j, s.calls j = .shared k ∧ ls.filterMap (inspectedBy j) = [r] := by
  refine ⟨fun s hs n h t hpending hn => ?_, fun s s₁ s₂ ls₁ ls₂ r hr hrun₁ hnot hrun₂ hr₂ => ?_,
    fun ls s hrun i r shares r' n h hcall => ?_⟩
  · obtain ⟨r, hr, haccepts⟩ := (reachable_inv hs).pending n h t hpending hn
    refine ⟨r, hr, fun r' => ⟨fun haccepts' => ?_, fun hr' => hr' ▸ haccepts⟩⟩
    exact Option.some.inj ((accepts_iff.mp haccepts').1.symm.trans (accepts_iff.mp haccepts).1)
  · obtain ⟨-, p, hp, -⟩ := accepts_iff.mp hr
    have hlength := (keeps_run (List.getElem?_eq_some_iff.mp hp).1 hrun₁).1
    exact hnot ((keeps_run hlength hrun₂).2 hr₂)
  · have htraced := run_traced hrun
    unfold Handle.finalizeMultisigTransaction at hcall
    split at hcall
    · next q c hcapability =>
      split at hcall
      · next hshares =>
        obtain ⟨rfl, -, -⟩ : r = r' ∧ c.requestId = n ∧ q.signingHash = h := by
          simpa [Handle.goto] using hcall
        refine ⟨rfl, (names_of_capability hcapability).2, fun k hk => ?_⟩
        have hshare := List.all_eq_true.mp hshares k hk
        unfold Handle.acceptsShare at hshare
        split at hshare
        · next share hshare' =>
          simp only [Bool.and_eq_true, decide_eq_true_eq] at hshare
          obtain ⟨j, hj⟩ := htraced.share k (List.getElem?_eq_some_iff.mp hshare').1
          have hinspects := htraced.call j
          rw [hj] at hinspects
          obtain ⟨c', hc', hrequests⟩ := hinspects
          rw [hshare'] at hc'
          cases hc'
          exact ⟨j, hj, hshare.2 ▸ hrequests⟩
        · cases hshare
      · simp [Handle.goto] at hcall
    · simp [Handle.goto] at hcall

/-- A request is announced, a share of it is inspected and accepted, and the request is cancelled.
-/
theorem request_cancelled_after_share :
    ∃ s s' : Handle ℕ ℕ ℕ ℕ, (∀ r, s.Accepts r ↔ r = 0) ∧ ¬s'.Accepts 0 ∧
      ∃ j, s.calls j = .shared 0 := by
  obtain ⟨haccepted, hrejected, hshares⟩ :=
    handle_accepts_pending_request ℕ ℕ ℕ ℕ Unit .ok
  have h₁ : Run (handles (H := ℕ) (D := ℕ) (X := Unit) ℕ .ok) .init _ _ :=
    .single (Step.prepare (i := 0) rfl)
  have h₂ := h₁.snoc (Step.store (i := 0) 7 42 5 rfl)
  have h₃ := h₂.snoc (Step.announce (i := 0) rfl)
  have h₄ := h₃.snoc (Step.inspect (i := 1) 0 rfl)
  have h₅ := h₄.snoc (Step.verify (i := 1) .ok rfl rfl)
  have h₆ := h₅.snoc (Step.share (i := 1) rfl)
  obtain ⟨r, hr, hiff⟩ := haccepted _ ⟨_, _, rfl, h₆⟩ 1 7 42 rfl (by decide)
  obtain ⟨-, haccepts, hall⟩ := hshares _ _ h₆ 2 0 [0] 0 1 7 rfl
  obtain rfl : 0 = r := (hiff 0).mp haccepts
  obtain ⟨j, hj, -⟩ := hall 0 (by decide)
  have hnot := hrejected _ _ _ _ _ 0 haccepts (.single (Step.cancel 0)) Bool.false_ne_true
    (.single (Step.prepare (i := 2) rfl))
  exact ⟨_, _, hiff, hnot, j, hj⟩

end XelisWallet.DartMultisig
