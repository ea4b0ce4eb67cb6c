import Mathlib.Tactic.Common

/-!
The listener of a single-subscription stream of Dart, with a synchronous controller.

A listener that is not paused, not in a callback and has nothing pending gets what is added at once.
Otherwise it is kept, and is delivered one at a time in microtasks. The callbacks of the controller
are asked for by signals, which the owner of the controller has to obey: a listener that is paused
or resumed in a callback signals it when the callback returns, and one that still has something
pending when it is resumed does so after the last of it.
-/

namespace XelisWallet.DartStream

inductive Item (G : Type)
  | data (value : G)
  | error
  | done

def Item.isData {G : Type} : Item G → Bool
  | .data _ => true
  | _ => false

/-- The callback of the controller to be called. -/
inductive Signal
  | onPause
  | onResume
  | onCancel
  deriving DecidableEq, Repr

structure Listener (G : Type) where
  attached : Bool
  cancelled : Bool
  pauses : ℕ
  inputPaused : Bool
  -- in a callback, with what `inputPaused` was before it
  callback : Option Bool
  pending : List (Item G)
  -- a microtask that delivers is queued
  scheduled : Bool
  received : List G

variable {G : Type}

namespace Listener

def init : Listener G := ⟨false, false, 0, false, none, [], false, []⟩

variable (l : Listener G)

def canFire : Bool := l.callback.isNone && l.pauses == 0 && l.pending.isEmpty

/-- Gives an item to the listener. The end of the stream cancels it first. -/
def fire : Item G → Listener G × Option Signal
  | .data value =>
    ({ l with received := l.received ++ [value], callback := some l.inputPaused }, none)
  | .error => ({ l with callback := some l.inputPaused }, none)
  | .done => ({ l with cancelled := true, pending := [], scheduled := false }, some .onCancel)

/-- The controller adds an item. -/
def emit (item : Item G) : Listener G × Option Signal :=
  if !l.attached then ({ l with pending := l.pending ++ [item] }, none)
  else if l.cancelled then (l, none)
  else if l.canFire then l.fire item
  else ({ l with
    pending := l.pending ++ [item]
    scheduled := l.scheduled || (l.pending.isEmpty && l.pauses == 0) }, none)

def listen : Listener G := { l with attached := true, scheduled := !l.pending.isEmpty }

def pause : Listener G × Option Signal :=
  if l.cancelled then (l, none)
  else ({ l with pauses := l.pauses + 1, inputPaused := true, scheduled := false },
    if !l.inputPaused && l.callback.isNone then some .onPause else none)

def resume : Listener G × Option Signal :=
  if l.cancelled then (l, none)
  else match l.pauses with
    | 0 => (l, none)
    | pauses + 1 =>
      if 0 < pauses then ({ l with pauses }, none)
      else if !l.pending.isEmpty then ({ l with pauses, scheduled := true }, none)
      else ({ l with pauses, inputPaused := false },
        if l.callback.isNone then some .onResume else none)

def cancel : Listener G × Option Signal :=
  if l.cancelled then (l, none)
  else ({ l with
    cancelled := true
    scheduled := false
    pending := if l.callback.isSome then l.pending else [] }, some .onCancel)

/-- The callback returns, and what has changed in it is signalled. -/
def finishCallback (wasInputPaused : Bool) : Listener G × Option Signal :=
  let inputPaused := l.inputPaused && !(l.pending.isEmpty && l.pauses == 0)
  if l.cancelled then
    ({ l with callback := none, inputPaused, pending := [], scheduled := false }, none)
  else
    ({ l with
      callback := none
      inputPaused
      scheduled := l.scheduled || (!l.pending.isEmpty && l.pauses == 0) },
      if inputPaused == wasInputPaused then none
      else some (if inputPaused then .onPause else .onResume))

/-- The microtask that delivers what is pending. -/
def deliver : Option (Listener G × Option Signal) :=
  if l.scheduled && !l.cancelled && l.callback.isNone && l.pauses == 0 then
    match l.pending with
    | item :: rest => some ({ l with pending := rest, scheduled := false }.fire item)
    | [] => none
  else none

/-! ### A listener stays attached -/

@[simp] lemma fire_attached (item : Item G) : (l.fire item).1.attached = l.attached := by
  cases item <;> rfl

@[simp] lemma emit_attached (item : Item G) : (l.emit item).1.attached = l.attached := by
  unfold emit
  split_ifs
  · rfl
  · rfl
  · exact l.fire_attached item
  · rfl

variable {r : Listener G × Option Signal} {item : Item G}

lemma deliver_attached (h : l.deliver = some r) : r.1.attached = l.attached := by
  unfold deliver at h
  split_ifs at h
  split at h <;> cases h
  exact fire_attached _ _

lemma emit_signal (hitem : item ≠ .done) : (l.emit item).2 = none := by
  unfold emit
  split_ifs
  · rfl
  · rfl
  · cases item with
    | data | error => rfl
    | done => exact absurd rfl hitem
  · rfl

/-! ### What a listener still gets -/

/-- A value waits to be delivered. -/
def Waiting : Prop := l.cancelled = false ∧ ∃ value, Item.data value ∈ l.pending

/-- The listener has got nothing more, and has nothing more to get. -/
structure Quieter (l l' : Listener G) : Prop where
  received : l'.received = l.received
  cancelled : l.cancelled = true → l'.cancelled = true
  pending : ∀ value, Item.data value ∈ l'.pending → Item.data value ∈ l.pending

variable {l} {l' l'' : Listener G}

lemma Quieter.refl : Quieter l l := ⟨rfl, id, fun _ => id⟩

lemma Quieter.trans (h : Quieter l l') (h' : Quieter l' l'') : Quieter l l'' :=
  ⟨h'.received.trans h.received, h'.cancelled ∘ h.cancelled,
    fun value hvalue => h.pending value (h'.pending value hvalue)⟩

lemma Quieter.waiting (h : Quieter l l') (hw : l'.Waiting) : l.Waiting := by
  obtain ⟨hcancelled, value, hvalue⟩ := hw
  refine ⟨?_, value, h.pending value hvalue⟩
  by_contra hc
  rw [h.cancelled (by simpa using hc)] at hcancelled
  cases hcancelled

/-- What the calls of the application do: nothing is delivered, nothing is added to what is pending,
and no callback starts. -/
structure Gentle (l l' : Listener G) : Prop where
  attached : l'.attached = l.attached
  received : l'.received = l.received
  cancelled : l.cancelled = true → l'.cancelled = true
  pending : ∀ item ∈ l'.pending, item ∈ l.pending
  callback : l'.callback.isSome → l.callback.isSome

lemma Gentle.quieter (h : Gentle l l') : Quieter l l' :=
  ⟨h.received, h.cancelled, fun _ => h.pending _⟩

lemma Gentle.refl : Gentle l l := ⟨rfl, rfl, id, fun _ => id, id⟩

lemma pause_gentle : Gentle l l.pause.1 := by
  unfold pause
  split
  · exact .refl
  · exact ⟨rfl, rfl, id, fun _ => id, id⟩

lemma resume_gentle : Gentle l l.resume.1 := by
  unfold resume
  split
  · exact .refl
  split
  · exact .refl
  · split_ifs <;> exact ⟨rfl, rfl, id, fun _ => id, id⟩

lemma cancel_gentle : Gentle l l.cancel.1 := by
  unfold cancel
  split
  · exact .refl
  refine ⟨rfl, rfl, fun _ => rfl, fun item hitem => ?_, id⟩
  dsimp only at hitem
  split at hitem
  · exact hitem
  · cases hitem

lemma finishCallback_gentle (was : Bool) : Gentle l (l.finishCallback was).1 := by
  unfold finishCallback
  dsimp only
  split
  · exact ⟨rfl, rfl, id, fun _ h => absurd h List.not_mem_nil, nofun⟩
  · exact ⟨rfl, rfl, id, fun _ => id, nofun⟩

lemma fire_quieter (hitem : item.isData = false) : Quieter l (l.fire item).1 := by
  cases item with
  | data => cases hitem
  | error => exact ⟨rfl, id, fun _ => id⟩
  | done => exact ⟨rfl, fun _ => rfl, fun _ h => absurd h (List.not_mem_nil)⟩

lemma deliver_eq_some (h : l.deliver = some r) :
    l.cancelled = false ∧ l.callback = none ∧ ∃ item rest, l.pending = item :: rest ∧
      r = { l with pending := rest, scheduled := false }.fire item := by
  unfold deliver at h
  split at h
  · rename_i hmay
    simp only [Bool.and_eq_true, Bool.not_eq_true', Option.isNone_iff_eq_none] at hmay
    split at h
    · rename_i item rest hpending
      cases h
      exact ⟨hmay.1.1.2, hmay.1.2, item, rest, hpending, rfl⟩
    · cases h
  · cases h

lemma mem_emit_pending {x : Item G} (h : x ∈ (l.emit item).1.pending) :
    x ∈ l.pending ∨ x = item := by
  unfold emit at h
  split_ifs at h
  · exact (List.mem_append.mp h).imp_right List.mem_singleton.mp
  · exact .inl h
  · cases item with
    | data | error => exact .inl h
    | done => cases h
  · exact (List.mem_append.mp h).imp_right List.mem_singleton.mp

lemma emit_quieter (hitem : item.isData = false) : Quieter l (l.emit item).1 := by
  have hpending : ∀ value, Item.data value ∈ (l.emit item).1.pending →
      Item.data value ∈ l.pending := by
    intro value hvalue
    obtain hvalue | rfl := mem_emit_pending hvalue
    · exact hvalue
    · cases hitem
  refine ⟨?_, fun hcancelled => ?_, hpending⟩ <;> unfold emit
  · split_ifs
    · rfl
    · rfl
    · exact (fire_quieter hitem).received
    · rfl
  · split_ifs <;> exact hcancelled

lemma emit_callback (h : (l.emit item).1.callback.isSome) :
    l.callback.isSome ∨ (l.emit item).1.pending = [] := by
  unfold emit at h ⊢
  split_ifs with hattached hcancelled hfire
  · exact .inl (by simpa [hattached] using h)
  · exact .inl (by simpa [hattached, hcancelled] using h)
  · right
    simp only [canFire, Bool.and_eq_true, List.isEmpty_iff] at hfire
    cases item with
    | data | error => exact hfire.2
    | done => rfl
  · exact .inl (by simpa [hattached, hcancelled, hfire] using h)

/-! ### What waits is delivered -/

/-- A listener that could get what is pending will, and values come before an error or the end. -/
structure Sound (l : Listener G) : Prop where
  ready : l.attached = true → l.cancelled = false → l.callback = none → l.pauses = 0 →
    l.pending ≠ [] → l.scheduled = true
  ordered : l.pending.Pairwise fun a b => b.isData = true → a.isData = true

lemma Sound.init : Sound (.init : Listener G) := ⟨nofun, .nil⟩

variable (h : Sound l)
include h

lemma Sound.fire (item : Item G) : Sound (l.fire item).1 := by
  cases item with
  | data | error => exact ⟨nofun, h.ordered⟩
  | done => exact ⟨nofun, .nil⟩

lemma Sound.emit (hitem : item.isData = true → ∀ x ∈ l.pending, x.isData = true) :
    Sound (l.emit item).1 := by
  have hordered : (l.pending ++ [item]).Pairwise fun a b => b.isData = true → a.isData = true := by
    refine List.pairwise_append.mpr ⟨h.ordered, List.pairwise_singleton ..,
      fun x hx y hy hdata => ?_⟩
    rw [List.mem_singleton.mp hy] at hdata
    exact hitem hdata x hx
  unfold Listener.emit
  split_ifs with hattached hcancelled hfire
  · refine ⟨fun ha => ?_, hordered⟩
    rw [show l.attached = true from ha] at hattached
    cases hattached
  · exact h
  · exact h.fire item
  · refine ⟨fun ha hc hcallback hpauses _ => ?_, hordered⟩
    have hpending : l.pending ≠ [] := by
      intro hnil
      refine hfire ?_
      simp only [canFire, hnil, show l.callback = none from hcallback,
        show l.pauses = 0 from hpauses]
      rfl
    simp [h.ready ha hc hcallback hpauses hpending]

lemma Sound.listen : Sound l.listen := by
  refine ⟨fun _ _ _ _ hpending => ?_, h.ordered⟩
  simpa [Listener.listen] using hpending

lemma Sound.pause : Sound l.pause.1 := by
  unfold Listener.pause
  split
  · exact h
  · exact ⟨nofun, h.ordered⟩

lemma Sound.resume : Sound l.resume.1 := by
  unfold Listener.resume
  split
  · exact h
  split
  · exact h
  split
  · rename_i hmore
    exact ⟨fun _ _ _ hpauses => absurd hpauses (Nat.pos_iff_ne_zero.mp hmore), h.ordered⟩
  split
  · exact ⟨fun _ _ _ _ _ => rfl, h.ordered⟩
  · rename_i hpending
    exact ⟨fun _ _ _ _ hne => absurd (by simpa using hpending) hne, h.ordered⟩

lemma Sound.cancel : Sound l.cancel.1 := by
  unfold Listener.cancel
  split
  · exact h
  refine ⟨nofun, ?_⟩
  dsimp only
  split
  · exact h.ordered
  · exact .nil

lemma Sound.finishCallback (was : Bool) : Sound (l.finishCallback was).1 := by
  unfold Listener.finishCallback
  dsimp only
  split
  · exact ⟨fun _ _ _ _ hne => absurd rfl hne, .nil⟩
  refine ⟨fun _ _ _ hpauses hne => ?_, h.ordered⟩
  have hempty : l.pending.isEmpty = false := by simpa using hne
  simp [hempty, show l.pauses = 0 from hpauses]

lemma Sound.deliver (hr : l.deliver = some r) : Sound r.1 := by
  obtain ⟨-, -, item, rest, hpending, rfl⟩ := deliver_eq_some hr
  have hrest := h.ordered
  rw [hpending] at hrest
  cases item with
  | data | error => exact ⟨nofun, hrest.of_cons⟩
  | done => exact ⟨nofun, .nil⟩

omit h

lemma resume_of_pending {n : ℕ} (hcancelled : l.cancelled = false) (hpauses : l.pauses = n + 1)
    (hpending : l.pending ≠ []) : ∃ scheduled,
      l.resume = ({ l with pauses := n, scheduled }, none) ∧ (n = 0 → scheduled = true) := by
  have hempty : l.pending.isEmpty = false := by simpa using hpending
  by_cases hmore : 0 < n
  · refine ⟨l.scheduled, ?_, fun hn => absurd hn (Nat.pos_iff_ne_zero.mp hmore)⟩
    simp [resume, hcancelled, hpauses, if_pos hmore]
  refine ⟨true, ?_, fun _ => rfl⟩
  simp [resume, hcancelled, hpauses, hempty, if_neg hmore]

lemma finishCallback_of_not_cancelled (hcancelled : l.cancelled = false) (was : Bool) :
    (l.finishCallback was).1.cancelled = false ∧ (l.finishCallback was).1.callback = none ∧
      (l.finishCallback was).1.pending = l.pending ∧ (l.finishCallback was).2 ≠ some .onCancel := by
  unfold finishCallback
  simp only [hcancelled, Bool.false_eq_true, if_false, true_and]
  split_ifs <;> nofun

lemma pauses_of_emit_waiting (hattached : l.attached = true) (hcallback : l.callback = none)
    (hdata : ∀ x ∈ l.pending, x.isData = true) (hnot : ¬ l.Waiting)
    (hwaiting : (l.emit item).1.Waiting) : 0 < l.pauses := by
  have hopen : l.cancelled = false := by
    by_contra hcancelled
    simp only [Bool.not_eq_false] at hcancelled
    have hsame : (l.emit item).1 = l := by simp [emit, hattached, hcancelled]
    exact hnot (hsame ▸ hwaiting)
  have hpending : l.pending = [] := by
    refine List.eq_nil_iff_forall_not_mem.mpr fun x hx => ?_
    cases x with
    | data value => exact hnot ⟨hopen, value, hx⟩
    | error | done => cases hdata _ hx
  by_contra hpauses
  have hfire : l.canFire = true := by
    simp [canFire, hcallback, hpending, Nat.eq_zero_of_not_pos hpauses]
  simp only [emit, hattached, hopen, hfire] at hwaiting
  obtain ⟨-, value, hvalue⟩ := hwaiting
  cases item with
  | data | error => exact hnot ⟨hopen, value, hvalue⟩
  | done => cases hvalue

lemma Sound.head_of_waiting (h : Sound l) (hw : l.Waiting) :
    ∃ value rest, l.pending = .data value :: rest := by
  obtain ⟨-, value, hvalue⟩ := hw
  have hordered := h.ordered
  cases hpending : l.pending with
  | nil =>
    rw [hpending] at hvalue
    cases hvalue
  | cons item rest =>
    rw [hpending] at hvalue hordered
    have hdata : item.isData = true := by
      obtain rfl | hvalue := List.mem_cons.mp hvalue
      · rfl
      · exact List.rel_of_pairwise_cons hordered hvalue rfl
    cases item with
    | data value => exact ⟨value, rest, rfl⟩
    | error | done => cases hdata

end Listener

end XelisWallet.DartStream
