import Mathlib.Order.Nat
import XelisWallet.Runs
import XelisWallet.Sync

/-!
The cache of precomputed tables (`wallet/runtime/table_cache.rs`).

The application has at most one instance of the tables, which every wallet shares. A call gets the
instance if it is large enough; otherwise it loads tables of the requested size, one call at a time,
and installs them: as the instance if there is none, or in place of the contents of an instance of
the smallest size. The cache may be cleared, and wallets may let go of their tables, while a call
waits or loads.

An instance is a place of the memory. What a call has loaded nobody else has, so it is its contents.
-/

namespace XelisWallet.TableCache

open Runs Sync

variable {T : Type}

structure CachedPrecomputedTables where
  l1Size : ℕ
  tables : ℕ
  deriving DecidableEq, Repr

/-- The entry of the cache. -/
abbrev Cache := Option CachedPrecomputedTables

def finalizedError (l1Size requestedL1 : ℕ) : String :=
  "Precomputed tables are already finalized at L1 " ++ toString l1Size ++
    "; refusing a second upgrade to L1 " ++ toString requestedL1

section Operations

-- `precomputed_tables::L1_LOW`
variable (l1Low : ℕ)

def getOrRequireLoad (cache : Cache) (requestedL1 : ℕ) : Except String (Option ℕ) :=
  match cache with
  | none => .ok none
  | some entry =>
    if entry.l1Size ≥ requestedL1 then .ok (some entry.tables)
    else if entry.l1Size = l1Low then .ok none
    else .error (finalizedError entry.l1Size requestedL1)

/-- The result, the cache and the memory after it. -/
def install (cache : Cache) (memory : List T) (l1Size : ℕ) (loadedTables : T) :
    Except String ℕ × Cache × List T :=
  match cache with
  | none => (.ok memory.length, some ⟨l1Size, memory.length⟩, memory ++ [loadedTables])
  | some entry =>
    if entry.l1Size ≥ l1Size then (.ok entry.tables, cache, memory)
    else if entry.l1Size ≠ l1Low then
      (.error (finalizedError entry.l1Size l1Size), cache, memory)
    else (.ok entry.tables, some ⟨l1Size, entry.tables⟩, memory.set entry.tables loadedTables)

/-- The cache itself has one of the references that are counted. -/
def clearIfUnused (cache : Cache) (held : List ℕ) : Cache :=
  if cache.any fun entry => 1 + held.count entry.tables > 1 then cache else none

end Operations

/-! ### Calls -/

/-- A call of `get_or_load_precomputed_tables_with_policy`. -/
inductive Call (T : Type)
  | idle
  /-- For the load lock. -/
  | waiting (requestedL1 : ℕ) (reuseCompatibleCache : Bool)
  | loading (requestedL1 : ℕ)
  | loaded (requestedL1 : ℕ) (tables : T)
  | returned (requestedL1 : ℕ) (result : Except String ℕ)
  /-- The future was dropped at an `await`. -/
  | dropped

structure State (T : Type) where
  cache : Cache
  -- the contents of every instance there ever was
  memory : List T
  -- the references outside of the cache
  held : List ℕ
  loadLock : Lock ℕ
  calls : ℕ → Call T

inductive Action (T : Type)
  /-- `get_or_load`, which reuses the cache, or `materialize`. -/
  | call (i requestedL1 : ℕ) (reuseCompatibleCache : Bool)
  | lock (i : ℕ)
  /-- `read_or_generate_precomputed_tables` ends. -/
  | load (i : ℕ) (result : Except String T)
  | install (i : ℕ)
  | drop (i : ℕ)
  | clear
  /-- A wallet that holds the tables shares them, or lets go of them. -/
  | share (tables : ℕ)
  | release (tables : ℕ)

namespace State

def init : State T := ⟨none, [], [], .free, fun _ => .idle⟩

variable (s : State T)

def goto (i : ℕ) (call : Call T) : State T := { s with calls := Function.update s.calls i call }

/-- A call returns; the caller holds what it gets. -/
def finish (i requestedL1 : ℕ) (result : Except String ℕ) : State T :=
  { s with held := s.held ++ result.toOption.toList }.goto i (.returned requestedL1 result)

/-- The guard of the load lock is dropped. -/
def unlock : State T := { s with loadLock := .free }

/-- A look at the cache: the call returns, or goes on. -/
def look (l1Low i requestedL1 : ℕ) (next : State T) : State T :=
  match getOrRequireLoad l1Low s.cache requestedL1 with
  | .ok (some tables) => s.finish i requestedL1 (.ok tables)
  | .ok none => next
  | .error error => s.finish i requestedL1 (.error error)

/-- One step; loading with a size gives tables of that size. -/
def step (l1Low : ℕ) (size : T → ℕ) : Action T → Option (State T)
  | .call i requestedL1 reuse =>
    match s.calls i with
    | .idle =>
      let next := s.goto i (.waiting requestedL1 reuse)
      some (if reuse then s.look l1Low i requestedL1 next else next)
    | _ => none
  | .lock i =>
    match s.calls i with
    | .waiting requestedL1 reuse =>
      if s.loadLock.isFree then
        let next := { s with loadLock := .taken i }.goto i (.loading requestedL1)
        -- a call that returns here drops the guard again
        some (if reuse then s.look l1Low i requestedL1 next else next)
      else none
    | _ => none
  | .load i (.ok tables) =>
    match s.calls i with
    | .loading requestedL1 =>
      if size tables = requestedL1 then some (s.goto i (.loaded requestedL1 tables)) else none
    | _ => none
  | .load i (.error error) =>
    match s.calls i with
    | .loading requestedL1 => some (s.unlock.finish i requestedL1 (.error error))
    | _ => none
  | .install i =>
    match s.calls i with
    | .loaded requestedL1 tables =>
      let (result, cache, memory) := TableCache.install l1Low s.cache s.memory requestedL1 tables
      some ({ s with cache, memory }.unlock.finish i requestedL1 result)
    | _ => none
  | .drop i =>
    match s.calls i with
    | .waiting _ _ => some (s.goto i .dropped)
    | .loading _ => some (s.unlock.goto i .dropped)
    | _ => none
  | .clear => some { s with cache := clearIfUnused s.cache s.held }
  | .share tables => if tables ∈ s.held then some { s with held := tables :: s.held } else none
  | .release tables =>
    if tables ∈ s.held then some { s with held := s.held.erase tables } else none

end State

def caches (l1Low : ℕ) (size : T → ℕ) : System (State T) (Action T) where
  init s := s = .init
  step s a s' := s.step l1Low size a = some s'

/-! ### What a step does -/

section Steps

variable {l1Low requestedL1 i n : ℕ} {size : T → ℕ} {s s' : State T} {a : Action T} {c : ℕ} {t : T}

lemma getOrRequireLoad_eq_some {cache : Cache}
    (h : getOrRequireLoad l1Low cache requestedL1 = .ok (some c)) :
    ∃ m, cache = some ⟨m, c⟩ ∧ requestedL1 ≤ m := by
  unfold getOrRequireLoad at h
  split at h
  · cases h
  next entry =>
  split at h
  · next hle =>
    obtain rfl := Option.some.inj (Except.ok.inj h)
    exact ⟨entry.l1Size, rfl, hle⟩
  · split at h <;> cases h

/-- A call that is under way. -/
def Call.Pending (size : T → ℕ) : Call T → Prop
  | .waiting .. | .loading _ | .dropped => True
  | .loaded requestedL1 tables => size tables = requestedL1
  | .idle | .returned .. => False

/-- **What a step can do.** A call goes on, it returns an error, it returns the instance there is,
or it installs what it has loaded: as the instance, or as the contents of one of the smallest size.
Apart from that the cache is cleared if nobody else refers to its instance, and references come and
go. -/
inductive Moves (l1Low : ℕ) (size : T → ℕ) (s : State T) : Action T → State T → Prop
  | went (a : Action T) (i : ℕ) (call : Call T) (lock : Lock ℕ) :
      (∀ n result, s.calls i ≠ .returned n result) → call.Pending size →
      Moves l1Low size s a ({ s with loadLock := lock }.goto i call)
  | refused (a : Action T) (i n : ℕ) (error : String) (lock : Lock ℕ) :
      (∀ n result, s.calls i ≠ .returned n result) →
      Moves l1Low size s a ({ s with loadLock := lock }.finish i n (.error error))
  | reused (a : Action T) (i n m c : ℕ) (lock : Lock ℕ) :
      (∀ n result, s.calls i ≠ .returned n result) → s.cache = some ⟨m, c⟩ → n ≤ m →
      Moves l1Low size s a ({ s with loadLock := lock }.finish i n (.ok c))
  | made (i n : ℕ) (t : T) : s.calls i = .loaded n t → s.cache = none →
      Moves l1Low size s (.install i) ({ s with
        cache := some ⟨n, s.memory.length⟩
        memory := s.memory ++ [t]
        loadLock := .free }.finish i n (.ok s.memory.length))
  | upgraded (i n c : ℕ) (t : T) : s.calls i = .loaded n t → s.cache = some ⟨l1Low, c⟩ → l1Low < n →
      Moves l1Low size s (.install i) ({ s with
        cache := some ⟨n, c⟩
        memory := s.memory.set c t
        loadLock := .free }.finish i n (.ok c))
  | kept : Moves l1Low size s .clear s
  | cleared : (∀ entry, s.cache = some entry → entry.tables ∉ s.held) →
      Moves l1Low size s .clear { s with cache := none }
  | shared (c : ℕ) : c ∈ s.held → Moves l1Low size s (.share c) { s with held := c :: s.held }
  | released (c : ℕ) : Moves l1Low size s (.release c) { s with held := s.held.erase c }

lemma look_moves (reuse : Bool) (ha : ∀ n result, s.calls i ≠ .returned n result)
    (hnext : Moves l1Low size s a s') :
    Moves l1Low size s a (if reuse then s.look l1Low i requestedL1 s' else s') := by
  unfold State.look
  split
  · split
    · next c hc =>
      obtain ⟨m, hm, hle⟩ := getOrRequireLoad_eq_some hc
      exact .reused a i _ m c s.loadLock ha hm hle
    · exact hnext
    · exact .refused a i _ _ s.loadLock ha
  · exact hnext

lemma install_moves (hi : s.calls i = .loaded n t) :
    Moves l1Low size s (.install i) ({ s with
      cache := (install l1Low s.cache s.memory n t).2.1
      memory := (install l1Low s.cache s.memory n t).2.2 }.unlock.finish i n
        (install l1Low s.cache s.memory n t).1) := by
  have hnot : ∀ m result, s.calls i ≠ .returned m result := by rw [hi]; nofun
  unfold install
  split
  · next hc => exact .made i n t hi hc
  next entry hc =>
  split
  · next hle => exact .reused _ i n entry.l1Size entry.tables .free hnot hc hle
  next hlt =>
  split
  · exact .refused _ i n _ .free hnot
  next hlow =>
  obtain hlow := not_not.mp hlow
  exact .upgraded i n entry.tables t hi (by rw [hc, ← hlow]) (hlow ▸ not_le.mp hlt)

lemma step_moves (h : s.step l1Low size a = some s') : Moves l1Low size s a s' := by
  cases a
  case load i result =>
    cases result with
    | ok =>
      simp only [State.step] at h
      split at h
      · next hi =>
        obtain ⟨hsize, ⟨⟩⟩ := Option.ite_none_right_eq_some.mp h
        exact .went _ i _ s.loadLock (by rw [hi]; nofun) hsize
      · cases h
    | error error =>
      simp only [State.step] at h
      split at h <;> cases h
      next hi => exact .refused _ i _ error .free (by rw [hi]; nofun)
  all_goals simp only [State.step] at h
  case call i requestedL1 reuse =>
    split at h <;> cases h
    next hi =>
    have hnot : ∀ n result, s.calls i ≠ .returned n result := by rw [hi]; nofun
    exact look_moves reuse hnot (.went _ i _ s.loadLock hnot trivial)
  case lock i =>
    split at h
    · next requestedL1 reuse hi =>
      have hnot : ∀ n result, s.calls i ≠ .returned n result := by rw [hi]; nofun
      obtain ⟨-, ⟨⟩⟩ := Option.ite_none_right_eq_some.mp h
      exact look_moves reuse hnot (.went _ i _ _ hnot trivial)
    · cases h
  case install =>
    split at h <;> cases h
    next hi => exact install_moves hi
  case drop i =>
    split at h <;> cases h
    · next hi => exact .went _ i _ s.loadLock (by rw [hi]; nofun) trivial
    · next hi => exact .went _ i _ .free (by rw [hi]; nofun) trivial
  case clear =>
    cases h
    unfold clearIfUnused
    split
    · exact .kept
    next hc =>
    refine .cleared fun entry he hmem => hc ?_
    have := List.count_pos_iff.mpr hmem
    simp only [he, Option.any_some, decide_eq_true_eq]
    omega
  case share c =>
    obtain ⟨hc, ⟨⟩⟩ := Option.ite_none_right_eq_some.mp h
    exact .shared c hc
  case release c =>
    obtain ⟨-, ⟨⟩⟩ := Option.ite_none_right_eq_some.mp h
    exact .released c

end Steps

/-! ### The shared instance -/

section Shared

variable {l1Low i n m c : ℕ} {size : T → ℕ} {s s' u : State T} {a : Action T} {t : T}

/-- What is held is the instance of the cache, whose size is the one recorded, and what a call has
returned is large enough. -/
structure Inv (size : T → ℕ) (s : State T) : Prop where
  held : ∀ {c}, c ∈ s.held → ∃ n, s.cache = some ⟨n, c⟩
  cached : ∀ {n c}, s.cache = some ⟨n, c⟩ → ∃ t, s.memory[c]? = some t ∧ size t = n
  loaded : ∀ {i n t}, s.calls i = .loaded n t → size t = n
  returned : ∀ {i n c}, s.calls i = .returned n (.ok c) → ∃ t, s.memory[c]? = some t ∧ n ≤ size t

lemma inv_init : Inv size (.init : State T) := ⟨nofun, nofun, nofun, nofun⟩

lemma update_calls {calls : ℕ → Call T} {call x : Call T} {j : ℕ}
    (h : Function.update calls i call j = x) : call = x ∨ calls j = x := by
  by_cases hj : j = i
  · subst hj; exact .inl (by simpa using h)
  · exact .inr (by simpa [hj] using h)

lemma Inv.finish_ok (h : Inv size s) (hc : s.cache = some ⟨m, c⟩) (hle : n ≤ m) :
    Inv size (s.finish i n (.ok c)) where
  held hd := by
    obtain hd | hd := List.mem_append.mp hd
    · exact h.held hd
    · obtain rfl := List.mem_singleton.mp hd
      exact ⟨m, hc⟩
  cached := h.cached
  loaded hj := (update_calls hj).elim nofun h.loaded
  returned hj := by
    obtain hj | hj := update_calls hj
    · cases hj
      obtain ⟨t, ht, hsize⟩ := h.cached hc
      exact ⟨t, ht, hsize ▸ hle⟩
    · exact h.returned hj

lemma Inv.moves (h : Inv size s) (hm : Moves l1Low size s a s') : Inv size s' := by
  cases hm with
  | went _ i call lock hnot hpending =>
    refine ⟨h.held, h.cached, fun hj => ?_, fun hj => ?_⟩
    · obtain rfl | hj := update_calls hj
      · exact hpending
      · exact h.loaded hj
    · obtain rfl | hj := update_calls hj
      · exact hpending.elim
      · exact h.returned hj
  | refused =>
    refine ⟨fun hd => h.held (by simpa [State.finish, State.goto, Except.toOption] using hd),
      h.cached, fun hj => ?_, fun hj => ?_⟩
    · exact (update_calls hj).elim nofun h.loaded
    · exact (update_calls hj).elim nofun h.returned
  | reused _ i n m c lock hnot hc hle =>
    have h' : Inv size { s with loadLock := lock } := { h with }
    exact h'.finish_ok hc hle
  | made i n t hi hc =>
    -- nothing is held while there is no instance
    have hnone : s.held = [] := by
      refine List.eq_nil_iff_forall_not_mem.mpr fun d hd => ?_
      obtain ⟨k, hk⟩ := h.held hd
      rw [hc] at hk
      cases hk
    refine Inv.finish_ok (m := n) ⟨?_, ?_, h.loaded, ?_⟩ rfl le_rfl
    · intro d hd
      rw [hnone] at hd
      cases hd
    · intro k d hk
      obtain ⟨rfl, rfl⟩ : n = k ∧ s.memory.length = d := by simpa using hk
      exact ⟨t, List.getElem?_concat_length, h.loaded hi⟩
    · intro j k d hj
      obtain ⟨x, hx, hle⟩ := h.returned hj
      refine ⟨x, ?_, hle⟩
      rwa [List.getElem?_append_left (List.getElem?_eq_some_iff.mp hx).1]
  | upgraded i n c t hi hc =>
    obtain ⟨x, hx, hsize⟩ := h.cached hc
    have hlen : c < s.memory.length := (List.getElem?_eq_some_iff.mp hx).1
    refine Inv.finish_ok (m := n) ⟨?_, ?_, h.loaded, ?_⟩ rfl le_rfl
    · intro d hd
      obtain ⟨k, hk⟩ := h.held hd
      rw [hc] at hk
      cases hk
      exact ⟨n, rfl⟩
    · intro k d hk
      obtain ⟨rfl, rfl⟩ : n = k ∧ c = d := by simpa using hk
      exact ⟨t, List.getElem?_set_self hlen, h.loaded hi⟩
    · intro j k d hj
      obtain ⟨y, hy, hle⟩ := h.returned hj
      by_cases hd : c = d
      · -- the new contents are larger
        subst hd
        obtain rfl := Option.some.inj (hx.symm.trans hy)
        refine ⟨t, List.getElem?_set_self hlen, ?_⟩
        rw [h.loaded hi]
        omega
      · exact ⟨y, by rwa [List.getElem?_set_ne hd], hle⟩
  | kept => exact h
  | cleared hunused =>
    refine ⟨fun hd => ?_, nofun, h.loaded, h.returned⟩
    obtain ⟨k, hk⟩ := h.held hd
    exact absurd hd (hunused _ hk)
  | shared c hc =>
    refine ⟨fun hd => ?_, h.cached, h.loaded, h.returned⟩
    obtain rfl | hd := List.mem_cons.mp hd
    · exact h.held hc
    · exact h.held hd
  | released => exact ⟨fun hd => h.held (List.mem_of_mem_erase hd), h.cached, h.loaded, h.returned⟩

lemma inv_of_reachable (h : Reachable (caches l1Low size) s) : Inv size s := by
  refine h.invariant (P := Inv size) ?_ ?_
  · rintro _ rfl
    exact inv_init
  · intro s a s' _ hs hst
    exact hs.moves (step_moves hst)

/-! ### The size of the instance -/

/-- The instance was there with a size: it is not made again, and its size is the same, or it was
the smallest one and is larger now. -/
def Since (l1Low c n : ℕ) (s : State T) : Prop :=
  c < s.memory.length ∧
    ∀ m, s.cache = some ⟨m, c⟩ → m = n ∨ n = l1Low ∧ l1Low < m

lemma Since.moves (h : Since l1Low c n s) (hm : Moves l1Low size s a s') :
    Since l1Low c n s' := by
  obtain ⟨hlen, hsize⟩ := h
  cases hm with
  | went | refused | reused | kept | shared | released => exact ⟨hlen, hsize⟩
  | made i k t hi hc =>
    refine ⟨hlen.trans_le (by simp [State.finish, State.goto]), fun m hm => ?_⟩
    obtain ⟨-, hplace⟩ : k = m ∧ s.memory.length = c := by
      simpa [State.finish, State.goto] using hm
    omega
  | upgraded i k d t hi hc hlt =>
    refine ⟨by simpa [State.finish, State.goto] using hlen, fun m hm => ?_⟩
    obtain ⟨rfl, rfl⟩ : k = m ∧ d = c := by simpa [State.finish, State.goto] using hm
    obtain hn | ⟨-, hlow⟩ := hsize l1Low hc
    · exact .inr ⟨hn.symm, hlt⟩
    · exact absurd hlow (lt_irrefl _)
  | cleared => exact ⟨hlen, nofun⟩

lemma size_since (h : Inv size s) (hs : s.cache = some ⟨n, c⟩) {ls : List (Action T)}
    (hr : Run (caches l1Low size) s ls u) (hu : u.cache = some ⟨m, c⟩) :
    m = n ∨ n = l1Low ∧ l1Low < m := by
  obtain ⟨t, ht, -⟩ := h.cached hs
  have hstart : Since l1Low c n s := by
    refine ⟨(List.getElem?_eq_some_iff.mp ht).1, fun k hk => .inl ?_⟩
    rw [hs] at hk
    cases hk
    rfl
  exact (hr.preserves (P := Since l1Low c n) (fun _ _ _ hs hst => hs.moves (step_moves hst))
    hstart).2 m hu

lemma Moves.unchanged (h : Moves l1Low size s a s') :
    (s'.cache = s.cache ∧ s'.memory = s.memory) ∨ a = .clear ∨
      ∃ i n c, a = .install i ∧ s'.calls i = .returned n (.ok c) := by
  cases h with
  | went | refused | reused | kept | shared | released => exact .inl ⟨rfl, rfl⟩
  | made i n t => exact .inr (.inr ⟨i, n, s.memory.length, rfl, by simp [State.finish, State.goto]⟩)
  | upgraded i n c t => exact .inr (.inr ⟨i, n, c, rfl, by simp [State.finish, State.goto]⟩)
  | cleared => exact .inr (.inl rfl)

lemma Moves.returned (h : Moves l1Low size s a s') {result : Except String ℕ}
    (hi : s.calls i = .returned n result) : s'.calls i = .returned n result := by
  have other : ∀ {j : ℕ} {call : Call T}, (∀ n result, s.calls j ≠ .returned n result) →
      Function.update s.calls j call i = .returned n result := by
    intro j call hj
    have hne : i ≠ j := by rintro rfl; exact hj _ _ hi
    rwa [Function.update_of_ne hne]
  cases h with
  | went _ _ _ _ hnot | refused _ _ _ _ _ hnot | reused _ _ _ _ _ _ hnot => exact other hnot
  | made _ _ _ hj | upgraded _ _ _ _ hj => exact other (by rw [hj]; nofun)
  | kept | cleared | shared | released => exact hi

/-- **The precomputed tables are shared.** What a call has returned is large enough. Everything that
is held is the instance of the cache, with the recorded size. The size of an instance does not
decrease, and increases at most once, from the smallest size. A step changes the cache or the
instance only if it clears the cache or is the step by which a call returns the instance, and a call
returns once; so a call that returns an error has changed nothing. The cache is not cleared while
something is held. -/
theorem tables_are_shared (hs : Reachable (caches l1Low size) s) :
    (∀ i n c, s.calls i = .returned n (.ok c) → ∃ t, s.memory[c]? = some t ∧ n ≤ size t) ∧
    (∀ c ∈ s.held, ∃ n, s.cache = some ⟨n, c⟩ ∧ ∃ t, s.memory[c]? = some t ∧ size t = n) ∧
    (∀ c n ls u m, s.cache = some ⟨n, c⟩ → Run (caches l1Low size) s ls u →
      u.cache = some ⟨m, c⟩ → n ≤ m ∧ (n < m → n = l1Low ∧
        ∀ ms v k, Run (caches l1Low size) u ms v → v.cache = some ⟨k, c⟩ → k = m)) ∧
    (∀ a s', s.step l1Low size a = some s' →
      ((s'.cache = s.cache ∧ s'.memory = s.memory) ∨ a = .clear ∨
        ∃ i n c, a = .install i ∧ s'.calls i = .returned n (.ok c)) ∧
      ∀ i n result, s.calls i = .returned n result → s'.calls i = .returned n result) ∧
    ∀ s', s.step l1Low size .clear = some s' → s.held ≠ [] → s' = s := by
  have hi := inv_of_reachable hs
  refine ⟨fun i n c => hi.returned, fun c hc => ?_, ?_, fun a s' hst => ?_, ?_⟩
  · obtain ⟨n, hn⟩ := hi.held hc
    exact ⟨n, hn, hi.cached hn⟩
  · intro c n ls u m hc hr hu
    have hiu := inv_of_reachable (hs.run hr)
    refine ⟨?_, fun hlt => ?_⟩
    · rcases size_since hi hc hr hu with rfl | ⟨rfl, hlt⟩ <;> omega
    · have hlow : n = l1Low := by
        rcases size_since hi hc hr hu with rfl | ⟨hlow, -⟩
        · exact absurd hlt (lt_irrefl _)
        · exact hlow
      refine ⟨hlow, fun ms v k hv hk => ?_⟩
      rcases size_since hiu hu hv hk with hk | ⟨hm, -⟩
      · exact hk
      · omega
  · exact ⟨(step_moves hst).unchanged, fun i n result => (step_moves hst).returned⟩
  · intro s' hst hheld
    obtain ⟨c, hc⟩ := List.exists_mem_of_ne_nil _ hheld
    obtain ⟨n, hn⟩ := hi.held hc
    obtain rfl := Option.some.inj hst
    have hcount := List.count_pos_iff.mpr hc
    have hused : clearIfUnused s.cache s.held = s.cache := by
      rw [clearIfUnused, hn, if_pos]
      simpa using hc
    rw [hused]

/-- Two wallets share tables of the smallest size, and a call upgrades them for both. -/
def upgrading : List (Action ℕ) :=
  [.call 0 25 true, .lock 0, .load 0 (.ok 25), .install 0, .share 0, .call 1 26 false, .lock 1,
    .load 1 (.ok 26), .clear, .install 1]

theorem upgraded_for_both : ∃ s, upgrading.foldlM (State.step · 25 id) .init = some s ∧
    s.held = [0, 0, 0] ∧ s.cache = some ⟨26, 0⟩ ∧ s.calls 0 = .returned 25 (.ok 0) ∧
    ∃ t, s.memory[0]? = some t ∧ 25 ≤ id t := by
  refine ⟨_, rfl, rfl, rfl, rfl, ?_⟩
  have hreach : Reachable (caches 25 id) _ :=
    Reachable.exec (fun _ _ _ h => h) (.of_init rfl) upgrading rfl
  exact (tables_are_shared hreach).1 0 25 0 rfl

end Shared

end XelisWallet.TableCache
