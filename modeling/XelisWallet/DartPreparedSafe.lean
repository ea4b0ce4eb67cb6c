import XelisWallet.BroadcastExact
import XelisWallet.DartPrepared

/-!
Which prepared transaction a wallet handle accepts.

The handle gives a transaction up only when its generation is dead, when another prepared
transaction is registered, or when a broadcast failed to read the storage with the wrong code. So
what the native slot holds is accepted if and only if its own reply was the last one to come.
-/

namespace XelisWallet.DartPrepared

open Runs NativeError PreparedStore PreparedInv PreparedSafe PreparedLife Broadcast BroadcastExact
open PreparedGuards hiding step
open MultisigFinalize (preparedTransactionError)

variable {H T K D X : Type}

/-! ### Registered transactions -/

/-- The registered transactions with their capabilities. -/
abbrev Registered (H D : Type) :=
  List (XelisWalletPreparedTransaction H D × NativePreparedTransactionCapability)

section Registered

variable {l l' : Registered H D} {t g : ℕ} {h : H}

/-- The transaction is registered with this capability. -/
def Names (l : Registered H D) (t g : ℕ) (h : H) : Prop :=
  ∃ r, l[t]? = some r ∧ r.1.hash = h ∧ r.2.preparationId = g

lemma Names.lt (hnames : Names l t g h) : t < l.length := by
  obtain ⟨r, hr, -⟩ := hnames
  exact (List.getElem?_eq_some_iff.mp hr).1

/-- Transactions stay registered, with their capabilities. -/
structure Extends (l l' : Registered H D) : Prop where
  length : l.length ≤ l'.length
  names : ∀ t g h, Names l t g h → Names l' t g h
  names_of_lt : ∀ t g h, t < l.length → Names l' t g h → Names l t g h

lemma Extends.refl : Extends l l := ⟨le_rfl, fun _ _ _ => id, fun _ _ _ _ => id⟩

lemma extends_append
    (r : XelisWalletPreparedTransaction H D × NativePreparedTransactionCapability) :
    Extends l (l ++ [r]) := by
  have hsame : ∀ t, t < l.length → (l ++ [r])[t]? = l[t]? := fun t ht =>
    List.getElem?_append_left ht
  refine ⟨by simp, fun t g h hnames => ?_, fun t g h ht hnames => ?_⟩
  · rwa [Names, hsame t hnames.lt]
  · rwa [Names, hsame t ht] at hnames

/-- The capability is set inactive. -/
def setInactive (l : Registered H D) (t : ℕ) : Registered H D :=
  l.modify t fun r => (r.1, { r.2 with active := false })

lemma setInactive_of_ne {k : ℕ} (hk : k ≠ t) : (setInactive l t)[k]? = l[k]? := by
  rw [setInactive, List.getElem?_modify]
  simp [Ne.symm hk]

lemma setInactive_names (t : ℕ) {k : ℕ} : Names (setInactive l t) k g h ↔ Names l k g h := by
  by_cases hk : k = t
  · subst hk
    simp [Names, setInactive]
  · rw [Names, setInactive_of_ne hk]
    rfl

lemma extends_setInactive (t : ℕ) : Extends l (setInactive l t) :=
  ⟨by simp [setInactive], fun _ _ _ => (setInactive_names t).mpr,
    fun _ _ _ _ => (setInactive_names t).mp⟩

end Registered

/-! ### The invariant -/

section Invariant

variable [DecidableEq H]

/-- What a call of the handle knows. -/
def CallInv (l : Registered H D) (native : Wallet H T) (i : ℕ) : Call H K → Prop
  | .prepared reply => Held native.world reply.preparationId reply.hash
  | .broadcasting t g h => Names l t g h ∧ Exact native i g h
  | .discarding t g h => Names l t g h
  | .discarded t g result => (∃ h, Names l t g h) ∧
    (result = .ok () ∨ (∃ e, result = .error e ∧ gone e = true) → Dead native.world g)
  | .returned t => t < l.length
  | _ => True

structure Inv (s : Handle H T K D) : Prop where
  native : Reachable (broadcasts H T) s.native
  held : ∀ t g h, Names s.registered t g h → Held s.native.world g h
  call : ∀ i, CallInv s.registered s.native i (s.calls i)
  unique : ∀ i j t, s.calls i = .returned t → s.calls j = .returned t → i = j
  active : ∀ t, s.activePreparedTransaction = some t → t ∉ s.misread ∧
    (∃ r, s.registered[t]? = some r ∧ r.2.active = true) ∧
    ∃ i, s.delivered.getLast? = some i ∧ s.calls i = .returned t
  last : ∀ i t g h, s.delivered.getLast? = some i → s.calls i = .returned t →
    Names s.registered t g h → s.activePreparedTransaction = some t ∨ Dead s.native.world g ∨
      t ∈ s.misread ∨ s.terminal = true
  misread : ∀ t ∈ s.misread, t < s.registered.length

variable {s s' : Handle H T K D}

lemma Inv.init : Inv (.init : Handle H T K D) where
  native := .of_init rfl
  held t g h hnames := by simp [Names, Handle.init] at hnames
  call i := trivial
  unique := nofun
  active := nofun
  last := nofun
  misread t ht := absurd ht List.not_mem_nil

variable {native : Wallet H T} {i t g : ℕ} {hash : H}
  {r : XelisWalletPreparedTransaction H D × NativePreparedTransactionCapability}
  {detailsFromGenerated : K → Except X D}

omit [DecidableEq H] in
lemma CallInv.extends {l l' : Registered H D} {call : Call H K} (h : CallInv l native i call)
    (hl : Extends l l') : CallInv l' native i call := by
  cases call with
  | prepared => exact h
  | broadcasting => exact ⟨hl.names _ _ _ h.1, h.2⟩
  | discarding => exact hl.names _ _ _ h
  | discarded => exact ⟨h.1.imp fun hash => hl.names _ _ _, h.2⟩
  | returned => exact lt_of_lt_of_le h hl.length
  | idle | preparing | building | unwinding | failed | cleaning | ended => trivial

lemma Inv.world (h : Inv s) {ops : List (Op H T × Outcome T)}
    (hreach : Reachable (broadcasts H T) native)
    (hrun : Run (prepared H T) s.native.world ops native.world)
    (hexact : ∀ i g hash, Held s.native.world g hash → Exact s.native i g hash →
      Exact native i g hash) :
    Inv { s with native } := by
  have hworld := (BroadcastInv.reachable_inv h.native).world
  refine ⟨hreach, fun t g hash hnames => (h.held t g hash hnames).run hworld hrun, fun i => ?_,
    h.unique, h.active, fun i t g hash hlast hcall hnames => ?_, h.misread⟩
  · have hcall := h.call i
    show CallInv s.registered native i (s.calls i)
    generalize s.calls i = call at hcall ⊢
    cases call with
    | prepared => exact Held.run hworld hrun hcall
    | broadcasting t g hash => exact ⟨hcall.1, hexact i g hash (h.held _ _ _ hcall.1) hcall.2⟩
    | discarded => exact ⟨hcall.1, fun hresult => run_dead hworld hrun (hcall.2 hresult)⟩
    | discarding | returned => exact hcall
    | idle | preparing | building | unwinding | failed | cleaning | ended => trivial
  · exact (h.last i t g hash hlast hcall hnames).imp_right (Or.imp_left (run_dead hworld hrun))

lemma Inv.goto (h : Inv s) {call : Call H K} (hcall : CallInv s.registered s.native i call)
    (hold : ∀ t, s.calls i ≠ .returned t) (hnew : ∀ t, call ≠ .returned t) :
    Inv (s.goto i call) := by
  have hreturned : ∀ {j t}, (s.goto i call).calls j = .returned t → s.calls j = .returned t := by
    intro j t hj
    simp only [Handle.goto, Function.update_apply] at hj
    split_ifs at hj
    · exact absurd hj (hnew t)
    · exact hj
  refine ⟨h.native, h.held, fun j => ?_, fun j k t hj hk => h.unique j k t (hreturned hj)
    (hreturned hk), fun t ht => ?_, fun j t g hash hlast hj hnames =>
      h.last j t g hash hlast (hreturned hj) hnames, h.misread⟩
  · by_cases hji : j = i
    · subst hji
      simpa [Handle.goto] using hcall
    · simpa [Handle.goto, hji] using h.call j
  · obtain ⟨hmisread, hr, j, hlast, hj⟩ := h.active t ht
    have hji : j ≠ i := by
      rintro rfl
      exact hold t hj
    exact ⟨hmisread, hr, j, hlast, by simpa [Handle.goto, hji] using hj⟩

lemma Inv.invalidate (h : Inv s) (hnames : Names s.registered t g hash) {misread : List ℕ}
    (hmem : ∀ k, k ∈ misread → k ∈ s.misread ∨ k = t) (hsub : ∀ k ∈ s.misread, k ∈ misread)
    (hlost : Dead s.native.world g ∨ t ∈ misread) :
    Inv { s.invalidatePreparedTransaction t with misread } := by
  have hactive : ∀ k, (s.invalidatePreparedTransaction t).activePreparedTransaction = some k ↔
      s.activePreparedTransaction = some k ∧ k ≠ t := by
    intro k
    simp only [Handle.invalidatePreparedTransaction]
    split
    · next ht =>
      rw [ht]
      simp only [reduceCtorEq, Option.some.injEq, ne_eq, false_iff, not_and, not_not]
      exact Eq.symm
    · next ht =>
      refine ⟨fun hk => ⟨hk, ?_⟩, And.left⟩
      rintro rfl
      exact ht hk
  have hextends := extends_setInactive (l := s.registered) t
  refine ⟨h.native, fun k g' hash' hk => h.held k g' hash' ((setInactive_names t).mp hk),
    fun i => (h.call i).extends hextends, h.unique, fun k hk => ?_,
    fun i k g' hash' hlast hi hk => ?_, fun k hk => ?_⟩
  · obtain ⟨hk, hkt⟩ := (hactive k).mp hk
    obtain ⟨hnot, ⟨r, hr, hon⟩, hcall⟩ := h.active k hk
    refine ⟨fun hin => ?_, ⟨r, (setInactive_of_ne hkt).trans hr, hon⟩, hcall⟩
    obtain hin | rfl := hmem k hin
    · exact hnot hin
    · exact hkt rfl
  · replace hk : Names s.registered k g' hash' := (setInactive_names t).mp hk
    by_cases hkt : k = t
    · subst hkt
      obtain hdead | hin := hlost
      · obtain ⟨r, hr, -, rfl⟩ := hnames
        obtain ⟨r', hr', -, rfl⟩ := hk
        rw [hr] at hr'
        cases hr'
        exact .inr (.inl hdead)
      · exact .inr (.inr (.inl hin))
    · obtain hk | hdead | hin | hterminal := h.last i k g' hash' hlast hi hk
      · exact .inl ((hactive k).mpr ⟨hk, hkt⟩)
      · exact .inr (.inl hdead)
      · exact .inr (.inr (.inl (hsub k hin)))
      · exact .inr (.inr (.inr hterminal))
  · refine lt_of_lt_of_le ?_ hextends.length
    obtain hk | rfl := hmem k hk
    · exact h.misread k hk
    · exact hnames.lt

omit [DecidableEq H] in
lemma invalidateActive_eq (s : Handle H T K D) : ∃ l, Extends s.registered l ∧
    l.length = s.registered.length ∧ s.invalidateActivePreparedTransaction =
      { s with registered := l, activePreparedTransaction := none } := by
  rw [Handle.invalidateActivePreparedTransaction]
  split
  · next t ht =>
    exact ⟨setInactive s.registered t, extends_setInactive t, by simp [setInactive], rfl⟩
  next ht =>
  refine ⟨s.registered, .refl, rfl, ?_⟩
  rw [← ht]

lemma Inv.unaccept (h : Inv s) {l : Registered H D} (hl : Extends s.registered l)
    (hlength : l.length = s.registered.length) {delivered : List ℕ} {terminal : Bool}
    (hlast : ∀ i t, delivered.getLast? = some i → s.calls i = .returned t → terminal = true) :
    Inv { s with registered := l, activePreparedTransaction := none, delivered, terminal } where
  native := h.native
  held t g hash hnames := h.held t g hash (hl.names_of_lt t g hash (hlength ▸ hnames.lt) hnames)
  call i := (h.call i).extends hl
  unique := h.unique
  active := nofun
  last i t _ _ hi hcall _ := .inr (.inr (.inr (hlast i t hi hcall)))
  misread t ht := lt_of_lt_of_le (h.misread t ht) hl.length

lemma Inv.register (h : Inv s) {native : NativePreparedTransaction H K}
    (hcall : s.calls i = .prepared native) (hlast : s.delivered.getLast? = some i)
    (hhash : r.1.hash = native.hash) (hcapability : r.2 = ⟨native.preparationId, true⟩) :
    Inv ({ s with
      registered := s.registered ++ [r]
      activePreparedTransaction := some s.registered.length }.goto i
        (.returned s.registered.length)) := by
  have hextends := extends_append (l := s.registered) r
  have hnew : (s.registered ++ [r])[s.registered.length]? = some r := List.getElem?_concat_length
  have hheld : Held s.native.world native.preparationId native.hash := by
    simpa only [CallInv, hcall] using h.call i
  -- only this call has returned the new transaction
  have hreturned : ∀ j t,
      Function.update s.calls i (.returned s.registered.length) j = .returned t →
        j = i ∧ t = s.registered.length ∨ s.calls j = .returned t ∧ t < s.registered.length := by
    intro j t hj
    rw [Function.update_apply] at hj
    split_ifs at hj with hji
    · exact .inl ⟨hji, (Call.returned.inj hj).symm⟩
    have hlt := h.call j
    rw [hj] at hlt
    exact .inr ⟨hj, hlt⟩
  refine ⟨h.native, fun t g hash hnames => ?_, fun j => ?_, fun j k t hj hk => ?_, fun t ht => ?_,
    fun j t g hash hj hreturn _ => ?_, fun t ht => ?_⟩
  · by_cases ht : t < s.registered.length
    · exact h.held t g hash (hextends.names_of_lt t g hash ht hnames)
    have hlt : t < (s.registered ++ [r]).length := hnames.lt
    obtain rfl : t = s.registered.length := by
      rw [List.length_append, List.length_singleton] at hlt
      omega
    obtain ⟨r', hr', rfl, rfl⟩ := hnames
    rw [show (s.registered ++ [r])[s.registered.length]? = some r' from hr'] at hnew
    cases hnew
    rwa [hhash, hcapability]
  · by_cases hji : j = i
    · subst hji
      simp [Handle.goto, CallInv]
    · simpa only [Handle.goto, Function.update_of_ne hji] using (h.call j).extends hextends
  · rcases hreturned j t hj with ⟨rfl, rfl⟩ | ⟨hj, hlt⟩ <;>
      obtain ⟨rfl, ht⟩ | ⟨hk, hlt'⟩ := hreturned k _ hk
    · rfl
    · exact absurd hlt' (lt_irrefl _)
    · exact absurd hlt (by omega)
    · exact h.unique j k t hj hk
  · cases ht
    exact ⟨fun hin => lt_irrefl _ (h.misread _ hin), ⟨r, hnew, by rw [hcapability]⟩, i, hlast,
      Function.update_self ..⟩
  · obtain rfl : i = j := Option.some.inj (hlast.symm.trans hj)
    obtain ⟨-, rfl⟩ | ⟨hi, -⟩ := hreturned i t hreturn
    · exact .inl rfl
    · rw [hcall] at hi
      cases hi
  · exact lt_of_lt_of_le (h.misread t ht) hextends.length

/-! ### Every step keeps the invariant -/

lemma Inv.broadcast (h : Inv s) {a : Broadcast.Action H T}
    (hst : Broadcast.step s.native a = some native) : Inv { s with native } := by
  have hinv := BroadcastInv.reachable_inv h.native
  obtain ⟨ops, hrun⟩ := (step_local hinv hst).run
  exact h.world (h.native.step (l := a) hst) hrun fun i g hash hheld hexact =>
    hexact.step hinv hheld hst

lemma Inv.operate (h : Inv s) {op : Op H T} {next : Outcome T → Call H K} (hop : guardVar op = none)
    (hold : ∀ t, s.calls i ≠ .returned t) (hst : s.operate i op next = some s')
    (hnext : ∀ world out, PreparedGuards.step s.native.world op = some (world, out) →
      CallInv s.registered { s.native with world } i (next out) ∧ ∀ t, next out ≠ .returned t) :
    Inv s' := by
  simp only [Handle.operate, Option.map_eq_some_iff] at hst
  obtain ⟨⟨world, out⟩, hstep, rfl⟩ := hst
  have hother : Broadcast.step s.native (.other op) = some { s.native with world } := by
    simp [Broadcast.step, otherStep, hop, hstep]
  obtain ⟨hcall, hnew⟩ := hnext world out hstep
  exact (h.broadcast hother).goto hcall hold hnew

lemma Inv.cancelExact (h : Inv s) {next : PreparedResult Unit → Call H K}
    (hold : ∀ t, s.calls i ≠ .returned t) (hst : s.cancelExact i g hash next = some s')
    (hnext : ∀ world result, PreparedGuards.step s.native.world (.cancelExact g hash) =
        some (world, .transaction result) →
      CallInv s.registered { s.native with world } i (next (result.map fun _ => ())))
    (hnew : ∀ result t, next result ≠ .returned t) : Inv s' := by
  refine h.operate rfl hold hst fun world out hstep => ?_
  cases out with
  | transaction result => exact ⟨hnext world result hstep, hnew _⟩
  | generation | unit | abandoned => exact ⟨trivial, nofun⟩

omit [DecidableEq H] in
lemma names_of_capability (hr : s.preparedCapability t = some r) :
    Names s.registered t r.2.preparationId r.1.hash := by
  simp only [Handle.preparedCapability] at hr
  split at hr
  · next hr' =>
    obtain ⟨-, ⟨⟩⟩ := Option.ite_none_right_eq_some.mp hr
    exact ⟨r, hr', rfl, rfl⟩
  · cases hr

lemma Inv.adaptAndRegister (h : Inv s) {native : NativePreparedTransaction H K}
    (hcall : s.calls i = .prepared native) :
    Inv (s.adaptAndRegister detailsFromGenerated i native) := by
  obtain ⟨l, hl, hlength, heq⟩ := invalidateActive_eq s
  have hunaccepted : Inv { s with
      registered := l, activePreparedTransaction := none, delivered := s.delivered ++ [i] } := by
    refine h.unaccept hl hlength fun j t hj ht => ?_
    simp only [List.getLast?_append, List.getLast?_singleton, Option.some_or,
      Option.some.injEq] at hj
    rw [← hj, hcall] at ht
    cases ht
  simp only [Handle.adaptAndRegister, heq]
  split
  · next transaction htransaction =>
    refine hunaccepted.register hcall (by simp) ?_ rfl
    simp only [preparedTransactionFromGenerated, Fallible.bind_eq_ok] at htransaction
    obtain ⟨details, -, hdetails⟩ := htransaction
    cases hdetails
    rfl
  · refine hunaccepted.goto trivial (fun t ht => ?_) (by simp)
    rw [show s.calls i = _ from ht] at hcall
    cases hcall

lemma gone_of_code {classified : NativeXelisErrorCode} {error : PreparedTransactionError}
    (h : errorCode classified (preparedTransactionError error) = .notFound) :
    gone error = true := by
  cases error <;> first | rfl | cases h

lemma Inv.broadcastReply (h : Inv s) {told : Told} (hcall : s.calls i = .broadcasting t g hash)
    (hdone : (s.native.calls i).phase = .done told) (classified : NativeXelisErrorCode) :
    Inv (s.broadcastReply i t classified told) := by
  have hold : ∀ t, s.calls i ≠ .returned t := by rw [hcall]; nofun
  have hended : Inv (s.goto i .ended) := h.goto trivial hold nofun
  have hknown := h.call i
  rw [hcall] at hknown
  obtain ⟨hnames, hexact⟩ := hknown
  simp only [Exact, hdone] at hexact
  simp only [Handle.broadcastReply]
  split
  · next hinvalidates =>
    split
    · exact hended.invalidate hnames (fun k hk => by simpa using hk)
        (fun k hk => List.mem_append_left _ hk) (.inr (by simp))
    next hstorage =>
    refine hended.invalidate hnames (fun _ => .inl) (fun _ => id) (.inl (hexact.2 ?_))
    cases told with
    | submitted | submittedNeedsResync | rejected | localFailure => exact .inl rfl
    | retryable | dropped => cases hinvalidates
    | error error =>
      simp only [invalidates, decide_eq_true_eq] at hinvalidates
      cases error with
      | prepared e => exact .inr ⟨e, rfl, gone_of_code hinvalidates⟩
      | storage read => exact absurd rfl (hstorage read)
      | invalidHash => cases hinvalidates
      | offline => exact absurd rfl hexact.1
  · exact hended

lemma Inv.discardReply (h : Inv s) {result : PreparedResult Unit}
    (hcall : s.calls i = .discarded t g result) (classified : NativeXelisErrorCode) :
    Inv (s.discardReply i t classified result) := by
  have hold : ∀ t, s.calls i ≠ .returned t := by rw [hcall]; nofun
  have hended : Inv (s.goto i .ended) := h.goto trivial hold nofun
  have hknown := h.call i
  rw [hcall] at hknown
  obtain ⟨⟨hash, hnames⟩, hdead⟩ := hknown
  have hlost : Dead s.native.world g → Inv ((s.goto i .ended).invalidatePreparedTransaction t) :=
    fun hdead => hended.invalidate hnames (fun _ => .inl) (fun _ => id) (.inl hdead)
  cases result with
  | ok => exact hlost (hdead (.inl rfl))
  | error e =>
    simp only [Handle.discardReply]
    split
    · next hcode => exact hlost (hdead (.inr ⟨e, rfl, gone_of_code hcode⟩))
    · exact hended

lemma Inv.step (h : Inv s) {a : Action H T K} (hst : s.step detailsFromGenerated a = some s') :
    Inv s' := by
  cases a <;> simp only [Handle.step] at hst
  case prepare =>
    split at hst <;> cases hst
    next hcall => refine h.goto ?_ (by rw [hcall]; nofun) ?_ <;> split <;> first | trivial | nofun
  case refuse =>
    split at hst <;> cases hst
    next hcall => exact h.goto trivial (by rw [hcall]; nofun) nofun
  case begin =>
    split at hst
    · next hcall =>
      refine h.operate rfl (by rw [hcall]; nofun) hst fun world out _ => ?_
      split <;> exact ⟨trivial, nofun⟩
    · cases hst
  case commit i hash transaction _ _ =>
    split at hst
    · next hcall =>
      refine h.operate rfl (by rw [hcall]; nofun) hst fun world out hstep => ?_
      split
      · next generation =>
        have heffect := reachable_effect (BroadcastInv.reachable_inv h.native).world hstep
        cases heffect
        exact ⟨.inl ⟨transaction, none, rfl⟩, nofun⟩
      · exact ⟨trivial, nofun⟩
    · cases hst
  case abandon =>
    split at hst
    iterate 2
      next hcall => exact h.operate rfl (by rw [hcall]; nofun) hst fun _ _ _ => ⟨trivial, nofun⟩
    cases hst
  case broadcast =>
    split at hst
    · next review capability hcall _ hcapability =>
      simp only [Option.map_eq_some_iff] at hst
      obtain ⟨native, hstart, rfl⟩ := hst
      exact (h.broadcast hstart).goto ⟨names_of_capability hcapability, (exact_start hstart).1⟩
        (by rw [hcall]; nofun) nofun
    · next hcall _ => cases hst; exact h.goto trivial (by rw [hcall]; nofun) nofun
    · cases hst
  case discard =>
    split at hst <;> cases hst
    · next review capability hcall _ hcapability =>
      exact h.goto (names_of_capability hcapability) (by rw [hcall]; nofun) nofun
    · next hcall _ => exact h.goto trivial (by rw [hcall]; nofun) nofun
  case native =>
    split at hst
    · simp only [Option.map_eq_some_iff] at hst
      obtain ⟨native, hstep, rfl⟩ := hst
      exact h.broadcast hstep
    · cases hst
  case cancel i =>
    split at hst
    · next t g hash hcall =>
      have hnames := h.call i
      rw [hcall] at hnames
      refine h.cancelExact (by rw [hcall]; nofun) hst (fun world result hstep => ?_) nofun
      refine ⟨⟨hash, hnames⟩, fun hresult => ?_⟩
      refine (h.held _ _ _ hnames).cancelled (BroadcastInv.reachable_inv h.native).world hstep
        fun e he => ?_
      subst he
      rcases hresult with hresult | ⟨e', hresult, hgone⟩ <;> cases hresult
      exact hgone
    · next hcall => exact h.cancelExact (by rw [hcall]; nofun) hst (fun _ _ _ => trivial) nofun
    · cases hst
  case reply i classified =>
    split at hst
    · next hcall => cases hst; exact h.adaptAndRegister hcall
    · next hcall => cases hst; exact h.goto trivial (by rw [hcall]; nofun) nofun
    · next hcall =>
      split at hst <;> cases hst
      next hdone => exact h.broadcastReply hcall hdone classified
    · next hcall => cases hst; exact h.discardReply hcall classified
    · cases hst
  case close =>
    split at hst <;> cases hst
    obtain ⟨l, hl, hlength, heq⟩ := invalidateActive_eq s
    rw [heq]
    exact h.unaccept hl hlength fun _ _ _ _ => rfl

lemma inv_of_reachable (h : Reachable (handles T detailsFromGenerated) s) : Inv s := by
  refine h.invariant (P := Inv) ?_ fun s a t _ hs hstep => hs.step hstep
  rintro s rfl
  exact .init

lemma Inv.preparedCapability_iff (h : Inv s) (hr : s.registered[t]? = some r) :
    s.preparedCapability t = some r ↔ s.activePreparedTransaction = some t := by
  simp only [Handle.preparedCapability, hr, Bool.and_eq_true, decide_eq_true_eq,
    Option.ite_none_right_eq_some, and_true]
  refine ⟨And.right, fun ht => ⟨?_, ht⟩⟩
  obtain ⟨-, ⟨r', hr', hon⟩, -⟩ := h.active t ht
  rw [hr] at hr'
  cases hr'
  exact hon

end Invariant

/-- **The slot and the handle.** Let the native slot be ready with generation `g`, and let the call
that prepared it have returned. Then the open handle accepts the transaction it returned, with the
generation and the hash of the slot, if and only if no other prepared transaction has reached the
handle after it, and no broadcast of it failed to read the storage with the code `notFound`. -/
theorem slot_accepted_iff [DecidableEq H] {detailsFromGenerated : K → Except X D}
    {s : Handle H T K D} (h : Reachable (handles T detailsFromGenerated) s)
    (hopen : s.terminal = false) {g : ℕ} {hash : H} {stored : T}
    (hslot : s.native.world.store.state = .ready g hash stored) {i transaction : ℕ}
    (hreturned : s.calls i = .returned transaction)
    {review : XelisWalletPreparedTransaction H D} {active : Bool}
    (hprepared : s.registered[transaction]? = some (review, ⟨g, active⟩)) :
    (s.preparedCapability transaction = some (review, ⟨g, true⟩) ∧ review.hash = hash) ↔
      s.delivered.getLast? = some i ∧ transaction ∉ s.misread := by
  have hs := inv_of_reachable h
  have hc := reachable_consistent (BroadcastInv.reachable_inv hs.native).world
  have hnames : Names s.registered transaction g review.hash := ⟨_, hprepared, rfl, rfl⟩
  have halive : ∀ hash', Held s.native.world g hash' → hash' = hash := by
    rintro hash' (⟨t, l, hl⟩ | hdead)
    · exact (located_unique hc hl (m := none) hslot).2.2.1
    · exact absurd hslot (hdead.absent hash stored none)
  constructor
  · rintro ⟨hpasses, -⟩
    have hactive : s.activePreparedTransaction = some transaction := by
      simp only [Handle.preparedCapability, hprepared] at hpasses
      split at hpasses
      · next hon => exact (by simpa using hon : active = true ∧ _).2
      · cases hpasses
    obtain ⟨hmisread, -, j, hlast, hj⟩ := hs.active transaction hactive
    rw [← hs.unique j i transaction hj hreturned]
    exact ⟨hlast, hmisread⟩
  · rintro ⟨hlast, hmisread⟩
    refine ⟨?_, halive _ (hs.held _ _ _ hnames)⟩
    rcases hs.last i transaction g review.hash hlast hreturned hnames with
      hactive | hdead | hin | hclosed
    · obtain ⟨-, ⟨r, hr, hon⟩, -⟩ := hs.active transaction hactive
      rw [hprepared] at hr
      cases hr
      obtain rfl : active = true := hon
      exact (hs.preparedCapability_iff hprepared).mpr hactive
    · exact absurd hslot (hdead.absent hash stored none)
    · exact absurd hin hmisread
    · rw [hopen] at hclosed
      cases hclosed

/-! ### Two preparations -/

/-- A handle of transactions without content. -/
abbrev PlainHandle := Handle ℕ Unit Unit Unit

def plainDetails : Unit → Except Unit Unit := .ok

def runPlain (actions : List (Action ℕ Unit Unit)) : Option PlainHandle :=
  actions.foldlM (fun s a => s.step plainDetails a) .init

lemma plain_reachable {s : PlainHandle} (actions : List (Action ℕ Unit Unit))
    (h : runPlain actions = some s) : Reachable (handles Unit plainDetails) s := by
  refine Reachable.exec (fun _ _ _ hstep => hstep) (.of_init ?_) actions h
  rfl

/-- The calls 0 and 1 prepare one after the other. -/
def prepareTwice : List (Action ℕ Unit Unit) :=
  [.prepare 0, .prepare 1, .begin 0, .commit 0 70 () 1 (), .begin 1, .commit 1 71 () 1 ()]

theorem replies_in_order : ∃ s : PlainHandle,
    runPlain (prepareTwice ++ [.reply 0 .storage, .reply 1 .storage]) = some s ∧
    s.native.world.store.state = .ready 2 71 () ∧
    s.preparedCapability 1 = some (⟨71, 1, ()⟩, ⟨2, true⟩) :=
  ⟨_, rfl, rfl, ((slot_accepted_iff (plain_reachable
    (prepareTwice ++ [.reply 0 .storage, .reply 1 .storage]) rfl) rfl rfl (i := 1) rfl
    rfl).mpr ⟨rfl, List.not_mem_nil⟩).1⟩

/-- No reply to the call is on its way. -/
def Call.settled {H K : Type} : Call H K → Bool
  | .idle | .returned _ | .ended => true
  | _ => false

/-- The replies come in the other order. The slot holds generation 2, which the call 1 has returned,
and the handle refuses it. -/
theorem late_reply_takes_over : ∃ s : PlainHandle,
    runPlain (prepareTwice ++ [.reply 1 .storage, .reply 0 .storage]) = some s ∧
    s.terminal = false ∧ (∀ i, (s.calls i).settled = true) ∧
    s.native.world.store.state = .ready 2 71 () ∧ s.calls 1 = .returned 0 ∧
    s.registered[0]? = some (⟨71, 1, ()⟩, ⟨2, false⟩) ∧ s.preparedCapability 0 = none ∧
    s.preparedCapability 1 = some (⟨70, 1, ()⟩, ⟨1, true⟩) := by
  refine ⟨_, rfl, rfl, ?_, rfl, rfl, rfl, rfl, rfl⟩
  intro i
  match i with
  | 0 => rfl
  | 1 => rfl
  | i + 2 => rfl

end XelisWallet.DartPrepared
