import XelisWallet.AssetResolution

/-!
An asset is fetched and stored once.

A call that asks the daemon holds the lock, and it has read under the lock that the asset is not
stored. Only such a call stores, so nothing it has read changes before it does.
-/

namespace XelisWallet.AssetResolution

open Runs Flows Flows.Flow Sync
open ErrorClassification (AnyhowError)

variable {A D : Type}

/-! ### The function, question by question -/

section Stages

variable (T : Texts A) (asset : A)

/-- Where a call is. -/
inductive Stage (D : Type)
  | reading
  | waiting
  | rereading
  | askingOnline
  | askingHandler
  | getting
  | adding (data : D)
  | done (result : Except AnyhowError D)

def afterLoad (next : AssetFlow D D) : Except AnyhowError (Option D) → AssetFlow D D
  | .ok (some assetData) => .done (.ok assetData)
  | .ok none => next
  | .error error => .done (.error (context "Error reading asset from wallet storage" error))

def adding (data : D) : AssetFlow D D :=
  .ask (.addAsset data) fun
    | .ok () => .done (.ok data)
    | .error error =>
      .done (.error (context "Error storing fetched asset in wallet storage" error))

def getting : AssetFlow D D :=
  .ask .getAsset fun
    | .ok data => adding data
    | .error error => .done (.error (context "Failed to fetch asset from daemon" error))

def askingHandler : AssetFlow D D :=
  .ask .lockNetworkHandler fun
    | true => getting
    | false => .done (.error (noNetworkHandler T))

def askingOnline : AssetFlow D D :=
  .ask .isOnline fun
    | true => askingHandler T
    | false => .done (.error (notOnline T asset))

def rereading : AssetFlow D D := .ask .getOptionalAsset (afterLoad (askingOnline T asset))

def waiting : AssetFlow D D := .ask .lockResolution fun _ => rereading T asset

def reading : AssetFlow D D := .ask .getOptionalAsset (afterLoad (waiting T asset))

def Stage.rest : Stage D → AssetFlow D D
  | .reading => AssetResolution.reading T asset
  | .waiting => AssetResolution.waiting T asset
  | .rereading => AssetResolution.rereading T asset
  | .askingOnline => AssetResolution.askingOnline T asset
  | .askingHandler => AssetResolution.askingHandler T
  | .getting => AssetResolution.getting
  | .adding data => AssetResolution.adding data
  | .done result => .done result

lemma loadCached_bind (f : Option D → AssetFlow D D) (hfound : ∀ data, f (some data) = pure data) :
    loadCached >>= f = .ask .getOptionalAsset (afterLoad (f none)) := by
  refine congrArg (Flow.ask Question.getOptionalAsset) (funext fun answer => ?_)
  match answer with
  | .ok (some data) => exact hfound data
  | .ok none => rfl
  | .error _ => rfl

lemma getting_eq : ((do
      let data : Except AnyhowError D ← request (Q := Question D) .getAsset
      lift (withContext "Failed to fetch asset from daemon" data)) >>= persist) =
    (getting : AssetFlow D D) := by
  refine congrArg (Flow.ask Question.getAsset) (funext fun answer => ?_)
  match answer with
  | .ok data =>
    refine congrArg (Flow.ask (Question.addAsset data)) (funext fun stored => ?_)
    match stored with
    | .ok () => rfl
    | .error _ => rfl
  | .error _ => rfl

lemma fetch_persist : (fetchFromDaemon T asset >>= persist : AssetFlow D D) =
    askingOnline T asset := by
  refine congrArg (Flow.ask Question.isOnline) (funext fun online => ?_)
  match online with
  | false => rfl
  | true =>
    refine congrArg (Flow.ask Question.lockNetworkHandler) (funext fun present => ?_)
    match present with
    | false => rfl
    | true => exact getting_eq

lemma getAssetData_eq : (getAssetData T asset : AssetFlow D D) = reading T asset := by
  unfold getAssetData resolveAssetData
  rw [loadCached_bind _ fun _ => rfl]
  refine congrArg (fun next : AssetFlow D D =>
    (Flow.ask Question.getOptionalAsset (afterLoad next) : AssetFlow D D)) ?_
  refine congrArg (Flow.ask Question.lockResolution) (funext fun _ => ?_)
  rw [rereading, ← fetch_persist]
  exact loadCached_bind _ fun _ => rfl

end Stages

/-! ### What a call knows -/

section Invariant

variable {T : Texts A} {w w' : Wallet A D} {event : Event A D} {i j : ℕ}
  {asset : A} {stage : Stage D}

/-- What holds of a call where it is: from the second reading on it has the lock, and the asset it
fetches is not stored. -/
def Agrees (w : Wallet A D) (i : ℕ) (asset : A) : Stage D → Prop
  | .reading | .waiting | .done (.error _) => True
  | .rereading => w.lock.holder = some i
  | .askingOnline | .askingHandler | .getting | .adding _ =>
    w.lock.holder = some i ∧ w.cache asset = none
  | .done (.ok data) => w.cache asset = some data

structure Sound (T : Texts A) (w : Wallet A D) : Prop where
  stage : ∀ i c, w.calls i = some c →
    ∃ stage, c.rest = Stage.rest T c.asset stage ∧ Agrees w i c.asset stage
  holder : ∀ i, w.lock.holder = some i → (w.calls i).isSome = true

lemma Sound.at_stage (h : Sound T w) {rest : AssetFlow D D} (hi : w.calls i = some ⟨asset, rest⟩) :
    ∃ stage, rest = Stage.rest T asset stage ∧ Agrees w i asset stage :=
  h.stage i _ hi

lemma Agrees.frame (h : Agrees w i asset stage)
    (hlock : w.lock.holder = some i → w'.lock.holder = some i)
    (hnone : w.lock.holder = some i → w.cache asset = none → w'.cache asset = none)
    (hsome : ∀ data, w.cache asset = some data → w'.cache asset = some data) :
    Agrees w' i asset stage := by
  cases stage with
  | reading | waiting => trivial
  | rereading => exact hlock h
  | askingOnline | askingHandler | getting | adding => exact ⟨hlock h.1, hnone h.1 h.2⟩
  | done result =>
    cases result with
    | ok data => exact hsome data h
    | error => trivial

lemma Sound.resume (h : Sound T w) (stage : Stage D) (hcache : w'.cache = w.cache)
    (hcalls : w'.calls = Function.update w.calls i (some ⟨asset, Stage.rest T asset stage⟩))
    (hlock : ∀ j, w.lock.holder = some j → w'.lock.holder = some j)
    (hlock' : ∀ j, w'.lock.holder = some j → j = i ∨ w.lock.holder = some j)
    (hagrees : Agrees w' i asset stage) : Sound T w' := by
  constructor
  · intro j c hc
    rw [hcalls, Function.update_apply] at hc
    split_ifs at hc with hj
    · cases hc
      exact ⟨stage, rfl, hj ▸ hagrees⟩
    · obtain ⟨stage', hrest, hagrees'⟩ := h.stage j c hc
      refine ⟨stage', hrest, hagrees'.frame (hlock j) ?_ ?_⟩ <;> rw [hcache] <;> simp
  · intro j hj
    rw [hcalls, Function.update_apply]
    split_ifs with hji
    · rfl
    · exact h.holder j ((hlock' j hj).resolve_left hji)

lemma Sound.goes (h : Sound T w) (stage : Stage D) {rest : AssetFlow D D}
    (hrest : rest = Stage.rest T asset stage) (hagrees : Agrees w i asset stage) :
    Sound T (w.resume i asset rest) := by
  subst hrest
  exact h.resume _ rfl rfl (fun _ hj => hj) (fun _ hj => .inr hj) hagrees

lemma Sound.release (h : Sound T w) : Sound T (w.release i) := by
  have hlock : ∀ j, j ≠ i → w.lock.holder = some j → (w.release i).lock.holder = some j := by
    intro j hj hholder
    have hne : w.lock.holder ≠ some i := by
      rw [hholder]
      simpa using hj
    rw [Wallet.release, if_neg hne, hholder]
  constructor
  · intro j c hc
    have hj : j ≠ i := by
      rintro rfl
      simp [Wallet.release] at hc
    have hc' : w.calls j = some c := (Function.update_of_ne hj ..).symm.trans hc
    obtain ⟨stage, hrest, hagrees⟩ := h.stage j c hc'
    exact ⟨stage, hrest, hagrees.frame (hlock j hj) (fun _ hn => hn) fun _ hs => hs⟩
  · intro j hj
    simp only [Wallet.release] at hj ⊢
    split at hj
    · cases hj
    next hne =>
    rw [Function.update_of_ne fun hji : j = i => hne (hji ▸ hj)]
    exact h.holder j hj

lemma Sound.read {k : Except AnyhowError (Option D) → AssetFlow D D} {failure : Option AnyhowError}
    (h : Sound T w) (hi : w.calls i = some ⟨asset, .ask .getOptionalAsset k⟩) :
    Sound T (w.resume i asset (k (w.readAsset asset failure))) := by
  have hload : ∀ next : Stage D, (w.cache asset = none → Agrees w i asset next) →
      Sound T (w.resume i asset
        (afterLoad (Stage.rest T asset next) (w.readAsset asset failure))) := by
    intro next hnext
    cases failure with
    | some error => exact h.goes (.done (.error _)) rfl trivial
    | none =>
      cases hcache : w.cache asset with
      | some data =>
        exact h.goes (.done (.ok data)) (by simp [Wallet.readAsset, hcache]; rfl) hcache
      | none => exact h.goes next (by simp [Wallet.readAsset, hcache]; rfl) (hnext hcache)
  obtain ⟨stage, hrest, hagrees⟩ := h.at_stage hi
  cases stage <;> cases hrest
  · exact hload .waiting fun _ => trivial
  · exact hload .askingOnline fun hnone => ⟨hagrees, hnone⟩

lemma sound_init (cache : A → Option D) : Sound T (Wallet.init cache) := by
  constructor
  · intro i c hc
    cases hc
  · intro i hi
    cases hi

variable [DecidableEq A]

lemma Sound.stored {data : D} (h : Sound T w) (hlock : w.lock.holder = some i)
    (hnone : w.cache asset = none) :
    Sound T ((w.store asset data).resume i asset (.done (.ok data))) := by
  constructor
  · intro j c hc
    simp only [Wallet.resume, Function.update_apply] at hc
    split_ifs at hc with hj
    · cases hc
      exact ⟨.done (.ok data), rfl, Function.update_self ..⟩
    obtain ⟨stage, hrest, hagrees⟩ := h.stage j c hc
    refine ⟨stage, hrest, hagrees.frame (fun hl => hl) ?_ ?_⟩
    · intro hl
      rw [hlock] at hl
      exact absurd (Option.some.inj hl).symm hj
    · intro data' hdata
      have hne : c.asset ≠ asset := by
        rintro rfl
        rw [hnone] at hdata
        cases hdata
      exact (Function.update_of_ne hne ..).trans hdata
  · intro j hj
    have hji : j = i := by
      rw [show w.lock.holder = some j from hj] at hlock
      exact Option.some.inj hlock
    subst hji
    simp [Wallet.resume]

lemma Sound.step (h : Sound T w) (hs : Wallet.Step T w event w') : Sound T w' := by
  cases hs with
  | called => exact h.goes .reading (getAssetData_eq T _) trivial
  | read hi => exact h.read hi
  | @locked i asset k hi hfree =>
    obtain ⟨stage, hrest, -⟩ := h.at_stage hi
    cases stage <;> cases hrest
    have hnone : w.lock.holder = none := by simpa [Lock.isFree] using hfree
    refine h.resume .rereading rfl rfl ?_ ?_ rfl
    · intro j hj
      rw [hnone] at hj
      cases hj
    · intro j hj
      exact .inl (Option.some.inj hj).symm
  | @online i asset k online hi =>
    obtain ⟨stage, hrest, hagrees⟩ := h.at_stage hi
    cases stage <;> cases hrest
    cases online with
    | true => exact h.goes .askingHandler rfl hagrees
    | false => exact h.goes (.done (.error _)) rfl trivial
  | @handler i asset k present hi =>
    obtain ⟨stage, hrest, hagrees⟩ := h.at_stage hi
    cases stage <;> cases hrest
    cases present with
    | true => exact h.goes .getting rfl hagrees
    | false => exact h.goes (.done (.error _)) rfl trivial
  | @fetched i asset k result hi =>
    obtain ⟨stage, hrest, hagrees⟩ := h.at_stage hi
    cases stage <;> cases hrest
    cases result with
    | ok data => exact h.goes (.adding data) rfl hagrees
    | error => exact h.goes (.done (.error _)) rfl trivial
  | stored hi =>
    obtain ⟨stage, hrest, hagrees⟩ := h.at_stage hi
    cases stage <;> cases hrest
    exact h.stored hagrees.1 hagrees.2
  | storeFailed hi =>
    obtain ⟨stage, hrest, hagrees⟩ := h.at_stage hi
    cases stage <;> cases hrest
    exact h.goes (.done (.error _)) rfl trivial
  | returned | dropped => exact h.release

lemma reachable_sound (h : Reachable (resolving T) w) : Sound T w := by
  refine h.invariant (fun w hw => ?_) fun _ _ _ _ hsound hstep => hsound.step hstep
  obtain ⟨cache, rfl⟩ := hw
  exact sound_init cache

lemma cache_step {data : D} (h : Sound T w) (hs : Wallet.Step T w event w')
    (ha : w.cache asset = some data) : w'.cache asset = some data := by
  cases hs with
  | @stored i asset' data' k hi =>
    obtain ⟨stage, hrest, hagrees⟩ := h.at_stage hi
    cases stage <;> cases hrest
    have hne : asset ≠ asset' := by
      rintro rfl
      rw [hagrees.2] at ha
      cases ha
    exact (Function.update_of_ne hne ..).trans ha
  | called | read | locked | online | handler | fetched | storeFailed | returned | dropped =>
    exact ha

lemma cache_run {data : D} {later : List (Event A D)} (hw : Reachable (resolving T) w)
    (h : Run (resolving T) w later w') (ha : w.cache asset = some data) :
    w'.cache asset = some data := by
  refine h.history (P := fun _ w' => w'.cache asset = some data) ha ?_
  intro ls t event u hrun ha' hstep
  exact cache_step (reachable_sound (hw.run hrun)) hstep ha'

end Invariant

/-! ### Once -/

section Once

variable {T : Texts A} {w w' w₀ : Wallet A D} {event : Event A D}
  {events : List (Event A D)} {i j : ℕ} {asset : A} {stage : Stage D}

/-- The questions of a fetch. -/
def Question.fetches : Question D → Bool
  | .isOnline | .lockNetworkHandler | .getAsset => true
  | _ => false

/-- The call is fetching the asset. -/
def Wallet.Fetching (w : Wallet A D) (i : ℕ) (asset : A) : Prop :=
  ∃ q k, w.calls i = some ⟨asset, .ask q k⟩ ∧ q.fetches = true

/-- The asset that an event stores. -/
def Event.storedAsset : Event A D → Option A
  | .stored _ asset _ => some asset
  | _ => none

/-- The fetch or the store of a call has failed. -/
def Event.Fails (i : ℕ) : Event A D → Prop
  | .online j false | .handler j false | .fetched j (.error _) | .storeFailed j _ => j = i
  | _ => False

lemma Sound.fetching (h : Sound T w) (hf : w.Fetching i asset) : w.lock.holder = some i := by
  obtain ⟨q, k, hi, hq⟩ := hf
  obtain ⟨stage, hrest, hagrees⟩ := h.at_stage hi
  cases stage <;> cases hrest <;> first | exact hagrees.1 | cases hq

variable [DecidableEq A]

lemma stored_step (h : Sound T w) (hs : Wallet.Step T w event w')
    (hevent : event.storedAsset = some asset) :
    w.cache asset = none ∧ w'.cache asset ≠ none := by
  cases hs with
  | stored hi =>
    cases hevent
    obtain ⟨stage, hrest, hagrees⟩ := h.at_stage hi
    cases stage <;> cases hrest
    refine ⟨hagrees.2, ?_⟩
    simp [Wallet.resume, Wallet.store]
  | called | read | locked | online | handler | fetched | storeFailed | returned | dropped =>
    cases hevent

lemma stored_nodup (hinit : (resolving T).init w₀) (h : Run (resolving T) w₀ events w) :
    (events.filterMap Event.storedAsset).Nodup ∧
      ∀ asset ∈ events.filterMap Event.storedAsset, w.cache asset ≠ none := by
  refine h.history (P := fun events w => (events.filterMap Event.storedAsset).Nodup ∧
      ∀ asset ∈ events.filterMap Event.storedAsset, w.cache asset ≠ none) (by simp) ?_
  rintro ls t event u hrun ⟨hnodup, hthere⟩ hstep
  have hsound := reachable_sound ⟨w₀, ls, hinit, hrun⟩
  have hkeep : ∀ asset ∈ ls.filterMap Event.storedAsset, u.cache asset ≠ none := by
    intro asset hmem
    obtain ⟨data, hdata⟩ := Option.ne_none_iff_exists'.mp (hthere asset hmem)
    rw [cache_step hsound hstep hdata]
    simp
  rw [List.filterMap_append]
  cases hevent : event.storedAsset with
  | none =>
    rw [List.filterMap_cons_none hevent, List.filterMap_nil, List.append_nil]
    exact ⟨hnodup, hkeep⟩
  | some =>
    obtain ⟨hnone, hsome⟩ := stored_step hsound hstep hevent
    rw [List.filterMap_cons_some hevent, List.filterMap_nil]
    constructor
    · refine List.nodup_append.mpr ⟨hnodup, by simp, ?_⟩
      rintro a ha b hb rfl
      obtain rfl := List.mem_singleton.mp hb
      exact hthere _ ha hnone
    · intro a ha
      obtain ha | ha := List.mem_append.mp ha
      · exact hkeep a ha
      · obtain rfl := List.mem_singleton.mp ha
        exact hsome

/-! ### After a failure -/

lemma reads_none {next : AssetFlow D D}
    (hi : w.calls i = some ⟨asset, .ask .getOptionalAsset (afterLoad next)⟩)
    (hnone : w.cache asset = none) :
    ∃ t, (resolving T).step w (.read i none) t ∧ t.calls i = some ⟨asset, next⟩ ∧
      t.lock = w.lock ∧ t.cache asset = none := by
  refine ⟨_, .read hi, ?_, rfl, hnone⟩
  simp [Wallet.resume, Wallet.readAsset, hnone, afterLoad]

lemma gets_of_waiting (hi : w.calls i = some ⟨asset, waiting T asset⟩)
    (hfree : w.lock.isFree = true) (hnone : w.cache asset = none) :
    ∃ later t, Run (resolving T) w later t ∧ t.calls i = some ⟨asset, getting⟩ := by
  obtain ⟨w₁, hstep₁, hi₁, hnone₁⟩ : ∃ t, (resolving T).step w (.locked i) t ∧
      t.calls i = some ⟨asset, rereading T asset⟩ ∧ t.cache asset = none :=
    ⟨_, .locked hi hfree, Function.update_self .., hnone⟩
  obtain ⟨w₂, hstep₂, hi₂, -, -⟩ := reads_none (T := T) hi₁ hnone₁
  obtain ⟨w₃, hstep₃, hi₃⟩ : ∃ t, (resolving T).step w₂ (.online i true) t ∧
      t.calls i = some ⟨asset, askingHandler T⟩ :=
    ⟨_, .online hi₂, Function.update_self ..⟩
  obtain ⟨w₄, hstep₄, hi₄⟩ : ∃ t, (resolving T).step w₃ (.handler i true) t ∧
      t.calls i = some ⟨asset, getting⟩ :=
    ⟨_, .handler hi₃, Function.update_self ..⟩
  exact ⟨_, w₄, (((Run.single hstep₁).snoc hstep₂).snoc hstep₃).snoc hstep₄, hi₄⟩

lemma gets_of_reading (hi : w.calls i = some ⟨asset, reading T asset⟩)
    (hfree : w.lock.isFree = true) (hnone : w.cache asset = none) :
    ∃ later t, Run (resolving T) w later t ∧ t.calls i = some ⟨asset, getting⟩ := by
  obtain ⟨w₁, hstep, hi₁, hlock, hnone₁⟩ := reads_none (T := T) hi hnone
  obtain ⟨later, t, hrun, ht⟩ := gets_of_waiting hi₁ (hlock ▸ hfree) hnone₁
  exact ⟨_, t, (Run.single hstep).append hrun, ht⟩

/-- With a free lock every call that is still running, and every new one, may ask the daemon for an
asset that is not stored. -/
lemma gets_of_free (h : Sound T w) (hfree : w.lock.isFree = true) (hnone : w.cache asset = none)
    (hi : w.calls i = none ∨ ∃ q k, w.calls i = some ⟨asset, .ask q k⟩) :
    ∃ later t, Run (resolving T) w later t ∧ t.calls i = some ⟨asset, getting⟩ := by
  have hholder : w.lock.holder ≠ some i := by
    intro hholder
    simp [Lock.isFree, hholder] at hfree
  obtain hi | ⟨q, k, hi⟩ := hi
  · obtain ⟨w₁, hstep, hi₁, hlock, hnone₁⟩ : ∃ t, (resolving T).step w (.called i asset) t ∧
        t.calls i = some ⟨asset, reading T asset⟩ ∧ t.lock = w.lock ∧ t.cache asset = none :=
      ⟨_, .called hi, (Function.update_self ..).trans (by rw [getAssetData_eq]), rfl, hnone⟩
    obtain ⟨later, t, hrun, ht⟩ := gets_of_reading hi₁ (hlock ▸ hfree) hnone₁
    exact ⟨_, t, (Run.single hstep).append hrun, ht⟩
  · obtain ⟨stage, hrest, hagrees⟩ := h.at_stage hi
    cases stage <;> cases hrest
    · exact gets_of_reading hi hfree hnone
    · exact gets_of_waiting hi hfree hnone
    · exact absurd hagrees hholder
    all_goals exact absurd hagrees.1 hholder

lemma failed_step (h : Sound T w) (hs : Wallet.Step T w event w') (hfails : event.Fails i) :
    w'.cache = w.cache ∧ w'.lock.holder = some i ∧
      ∃ asset error, w'.calls i = some ⟨asset, .done (.error error)⟩ := by
  cases hs with
  | @online _ _ _ answer hi | @handler _ _ _ answer hi | @fetched _ _ _ answer hi =>
    cases answer <;> cases hfails
    obtain ⟨stage, hrest, hagrees⟩ := h.at_stage hi
    cases stage <;> cases hrest
    exact ⟨rfl, hagrees.1, _, _, Function.update_self ..⟩
  | storeFailed hi =>
    cases hfails
    obtain ⟨stage, hrest, hagrees⟩ := h.at_stage hi
    cases stage <;> cases hrest
    exact ⟨rfl, hagrees.1, _, _, Function.update_self ..⟩
  | called | read | locked | stored | returned | dropped => cases hfails

/-- **An asset is fetched and stored once.** Over every interleaving of any number of resolutions,
from any storage, and whatever fails: at most one call is fetching, no asset is stored twice, and
what a successful call returns is what the storage has for its asset from then on. A fetch or a
store that fails changes nothing that is stored; its call returns and leaves the lock free, and
every call that is still running, or a later one, may then ask the daemon itself. -/
theorem resolved_once (hinit : (resolving T).init w₀) (h : Run (resolving T) w₀ events w) :
    (∀ i j a b, w.Fetching i a → w.Fetching j b → i = j) ∧
    (events.filterMap Event.storedAsset).Nodup ∧
    (∀ i data w', (resolving T).step w (.returned i (.ok data)) w' →
      ∃ asset rest, w.calls i = some ⟨asset, rest⟩ ∧ w.cache asset = some data ∧
        ∀ later w'', Run (resolving T) w' later w'' → w''.cache asset = some data) ∧
    ∀ i event w', (resolving T).step w event w' → event.Fails i → w'.cache = w.cache ∧
      ∃ error w'', (resolving T).step w' (.returned i (.error error)) w'' ∧
        w''.cache = w.cache ∧ w''.lock.isFree = true ∧
        ∀ j asset, w''.cache asset = none →
          (w''.calls j = none ∨ ∃ q k, w''.calls j = some ⟨asset, .ask q k⟩) →
          ∃ later t k, Run (resolving T) w'' later t ∧
            t.calls j = some ⟨asset, .ask .getAsset k⟩ := by
  have hreach : Reachable (resolving T) w := ⟨w₀, events, hinit, h⟩
  have hsound := reachable_sound hreach
  refine ⟨?_, (stored_nodup hinit h).1, ?_, ?_⟩
  · intro i j a b hi hj
    have hholder := hsound.fetching hi
    rw [hsound.fetching hj] at hholder
    exact (Option.some.inj hholder).symm
  · intro i data w' hstep
    have hreach' := hreach.step hstep
    cases hstep with
    | @returned _ asset _ hi =>
      obtain ⟨stage, hrest, hagrees⟩ := hsound.at_stage hi
      cases stage <;> cases hrest
      exact ⟨asset, _, hi, hagrees, fun later w'' hrun => cache_run hreach' hrun hagrees⟩
  · intro i event w' hstep hfails
    obtain ⟨hcache, hholder, asset, error, hi⟩ := failed_step hsound hstep hfails
    have hreturn : (resolving T).step w' (.returned i (.error error)) (w'.release i) := .returned hi
    have hfree : (w'.release i).lock.isFree = true := by simp [Wallet.release, hholder]
    refine ⟨hcache, error, _, hreturn, hcache, hfree, fun j asset' hnone hj => ?_⟩
    have hsound' := reachable_sound ((hreach.step hstep).step hreturn)
    obtain ⟨later, t, hrun, ht⟩ := gets_of_free hsound' hfree hnone hj
    exact ⟨later, t, _, hrun, ht⟩

/-- Texts for the run below. -/
def blankTexts : Texts ℕ :=
  ⟨⟨fun _ => "", fun _ => "", fun _ => "", fun _ => ""⟩, fun _ => ""⟩

/-- Two calls for asset `5`: the first has the lock and finds the wallet offline, and the second,
which was still reading, may then ask the daemon. -/
theorem second_call_may_fetch : ∃ w w' : Wallet ℕ String,
    Reachable (resolving blankTexts) w ∧
    (resolving blankTexts).step w (.online 0 false) w' ∧
    ∃ later t k, Run (resolving blankTexts) w' later t ∧
      t.calls 1 = some ⟨5, .ask .getAsset k⟩ := by
  have hinit : (resolving blankTexts).init (Wallet.init fun _ : ℕ => (none : Option String)) :=
    ⟨_, rfl⟩
  have h₁ : (resolving blankTexts).step (Wallet.init fun _ : ℕ => (none : Option String))
      (.called 0 5) _ := .called rfl
  have h₂ := (Run.single h₁).snoc (l := Event.read 0 none) (Wallet.Step.read rfl)
  have h₃ := h₂.snoc (l := Event.called 1 5) (Wallet.Step.called rfl)
  have h₄ := h₃.snoc (l := Event.locked 0) (Wallet.Step.locked rfl rfl)
  have h₅ := h₄.snoc (l := Event.read 0 none) (Wallet.Step.read rfl)
  refine ⟨_, _, ⟨_, _, hinit, h₅⟩, Wallet.Step.online rfl, ?_⟩
  obtain ⟨-, error, w'', hreturn, -, -, hgets⟩ :=
    (resolved_once hinit h₅).2.2.2 0 (.online 0 false) _ (Wallet.Step.online rfl) rfl
  have hsingle := Run.single hreturn
  cases hreturn with
  | returned =>
    obtain ⟨later, t, k, hrun, ht⟩ := hgets 1 5 rfl (.inr ⟨_, _, rfl⟩)
    exact ⟨_, t, k, hsingle.append hrun, ht⟩

end Once

end XelisWallet.AssetResolution
