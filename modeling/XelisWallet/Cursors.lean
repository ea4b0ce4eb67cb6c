import Mathlib.Data.List.Infix
import Mathlib.Tactic.Common

/-!
Objects that read a list of tokens from left to right.

A cursor carries the proof that the positions it has read are the first ones, each once and in
order, so no method can go back or read past the end. A method returns or throws, and either way
the object is left as the method left it. `Reads` says what a method accepts: which tokens it uses
up and what it makes of them; it has one rule for each way to put methods together.
-/

namespace XelisWallet.Cursors

variable {ε τ σ α β : Type}

/-- A cursor in a list of tokens, with the other state of the object and the positions that were
read, oldest first. -/
structure Cursor (tokens : List τ) (σ : Type) where
  index : ℕ
  state : σ
  reads : List ℕ
  index_le : index ≤ tokens.length
  reads_eq : reads = List.range index

variable {tokens : List τ}

namespace Cursor

def start (tokens : List τ) (state : σ) : Cursor tokens σ :=
  ⟨0, state, [], Nat.zero_le _, rfl⟩

/-- The tokens that are left. -/
def rest (c : Cursor tokens σ) : List τ := tokens.drop c.index

lemma eq_of_rest {c c' : Cursor tokens σ} (hr : c.rest = c'.rest) (hs : c.state = c'.state) :
    c = c' := by
  obtain ⟨i, s, _, hi, rfl⟩ := c
  obtain ⟨i', s', _, hi', rfl⟩ := c'
  have hlength := congrArg List.length hr
  simp only [rest, List.length_drop] at hlength
  have h : i = i' := by omega
  subst h
  cases hs
  rfl

end Cursor

/-- A method of an object with a cursor. -/
def Method (ε : Type) (tokens : List τ) (σ α : Type) :=
  Cursor tokens σ → Except ε α × Cursor tokens σ

namespace Method

instance : Monad (Method ε tokens σ) where
  pure a := fun c => (.ok a, c)
  bind m f := fun c =>
    match m c with
    | (.ok a, c) => f a c
    | (.error e, c) => (.error e, c)

/-- A computation that does not look at the object. -/
def lift : Except ε α → Method ε tokens σ α
  | .ok a => fun c => (.ok a, c)
  | .error e => fun c => (.error e, c)

/-- The next token; `e` is thrown at the end of the list. -/
def take (e : ε) : Method ε tokens σ τ := fun c =>
  if h : c.index < tokens.length then
    (.ok tokens[c.index], { c with
      index := c.index + 1
      reads := c.reads ++ [c.index]
      index_le := h
      reads_eq := by rw [c.reads_eq, List.range_succ] })
  else (.error e, c)

/-- The other state is changed, also by an update that throws. -/
def update (f : σ → Except ε Unit × σ) : Method ε tokens σ Unit := fun c =>
  ((f c.state).1, { c with state := (f c.state).2 })

/-- A loop that adds one item to those it has, a number of times. -/
def collect (item : List α → Method ε tokens σ α) : ℕ → List α → Method ε tokens σ (List α)
  | 0, done => pure done
  | n + 1, done => item done >>= fun a => collect item n (done ++ [a])

/-! ### What a method accepts -/

/-- The method returns `a` exactly if the tokens that follow begin with some that it reads as `a`,
and it leaves the object behind these. -/
def Reads (m : Method ε tokens σ α) (S : List τ → σ → σ → α → Prop) : Prop :=
  ∀ c a c', m c = (.ok a, c') ↔ ∃ used, c.rest = used ++ c'.rest ∧ S used c.state c'.state a

variable {m : Method ε tokens σ α} {f : α → Method ε tokens σ β} {S T : List τ → σ → σ → α → Prop}

lemma Reads.congr (h : Reads m S) (hT : ∀ used s s' a, S used s s' a ↔ T used s s' a) :
    Reads m T := by
  intro c a c'
  rw [h c a c']
  simp [hT]

lemma Reads.lift (x : Except ε α) :
    Reads (lift x : Method ε tokens σ α) fun used s s' a => used = [] ∧ s' = s ∧ x = .ok a := by
  intro c a c'
  cases x with
  | ok =>
    constructor
    · intro h
      cases h
      exact ⟨[], rfl, rfl, rfl, rfl⟩
    · rintro ⟨_, hrest, rfl, hs, h⟩
      cases h
      rw [Cursor.eq_of_rest hrest hs.symm]
      rfl
  | error => simp [Method.lift]

lemma Reads.pure (a : α) :
    Reads (pure a : Method ε tokens σ α) fun used s s' b => used = [] ∧ s' = s ∧ a = b :=
  (Reads.lift (.ok a)).congr fun _ _ _ _ => by rw [Except.ok.injEq]

lemma Reads.take (e : ε) :
    Reads (take e : Method ε tokens σ τ) fun used s s' token => used = [token] ∧ s' = s := by
  intro c token c'
  unfold Method.take
  split
  case isTrue h =>
    have hrest : c.rest = tokens[c.index] :: tokens.drop (c.index + 1) :=
      List.drop_eq_getElem_cons h
    constructor
    · intro heq
      cases heq
      exact ⟨_, hrest, rfl, rfl⟩
    · rintro ⟨_, htoken, rfl, hs⟩
      rw [hrest] at htoken
      obtain ⟨htoken, htail⟩ := List.cons.inj htoken
      rw [htoken]
      exact congrArg _ (Cursor.eq_of_rest htail hs.symm)
  case isFalse h =>
    have hnil : c.rest = [] := List.drop_eq_nil_of_le (Nat.le_of_not_lt h)
    simp [hnil]

lemma Reads.update {f : σ → Except ε Unit × σ} {U : σ → σ → Prop}
    (hf : ∀ s s', f s = (.ok (), s') ↔ U s s') :
    Reads (update f : Method ε tokens σ Unit) fun used s s' _ => used = [] ∧ U s s' := by
  intro c u c'
  constructor
  · intro h
    obtain ⟨hok, rfl⟩ := Prod.mk.inj h
    exact ⟨[], rfl, rfl, (hf c.state _).mp (Prod.ext hok rfl)⟩
  · rintro ⟨_, hrest, rfl, hu⟩
    have hs := (hf c.state c'.state).mpr hu
    have hok : (f c.state).1 = .ok u := congrArg Prod.fst hs
    have hstate : (f c.state).2 = c'.state := congrArg Prod.snd hs
    exact Prod.ext hok (Cursor.eq_of_rest hrest hstate)

lemma Reads.bind {S' : α → List τ → σ → σ → β → Prop} (hm : Reads m S)
    (hf : ∀ a, Reads (f a) (S' a)) :
    Reads (m >>= f) fun used s s' b =>
      ∃ u₁ u₂ s₁ a, used = u₁ ++ u₂ ∧ S u₁ s s₁ a ∧ S' a u₂ s₁ s' b := by
  intro c b c'
  have hbind : (m >>= f) c = (.ok b, c') ↔ ∃ a c₁, m c = (.ok a, c₁) ∧ f a c₁ = (.ok b, c') := by
    simp only [Bind.bind]
    rcases m c with ⟨_ | a, c₁⟩ <;> simp
  rw [hbind]
  constructor
  · rintro ⟨a, c₁, h₁, h₂⟩
    obtain ⟨u₁, hr₁, hS⟩ := (hm c a c₁).mp h₁
    obtain ⟨u₂, hr₂, hS'⟩ := (hf a c₁ b c').mp h₂
    exact ⟨u₁ ++ u₂, by rw [hr₁, hr₂, List.append_assoc], u₁, u₂, c₁.state, a, rfl, hS, hS'⟩
  · rintro ⟨_, hrest, u₁, u₂, s₁, a, rfl, hS, hS'⟩
    -- the object between the two methods
    have hle : c.index + u₁.length ≤ tokens.length := by
      have hlength := congrArg List.length hrest
      have := c.index_le
      simp only [Cursor.rest, List.length_drop, List.length_append] at hlength
      omega
    let c₁ : Cursor tokens σ := ⟨c.index + u₁.length, s₁, _, hle, rfl⟩
    have hr₁ : c₁.rest = u₂ ++ c'.rest := by
      change tokens.drop (c.index + u₁.length) = _
      rw [← List.drop_drop, ← Cursor.rest, hrest, List.append_assoc, List.drop_left]
    refine ⟨a, c₁, (hm c a c₁).mpr ⟨u₁, ?_, hS⟩, (hf a c₁ b c').mpr ⟨u₂, hr₁, hS'⟩⟩
    rw [hrest, hr₁, List.append_assoc]

lemma Reads.lift_bind {x : Except ε α} {S' : α → List τ → σ → σ → β → Prop}
    (hf : ∀ a, Reads (f a) (S' a)) :
    Reads (Method.lift x >>= f) fun used s s' b => ∃ a, x = .ok a ∧ S' a used s s' b := by
  refine ((Reads.lift x).bind hf).congr fun used s s' b => ⟨?_, ?_⟩
  · rintro ⟨_, _, _, a, rfl, ⟨rfl, rfl, ha⟩, h⟩
    exact ⟨a, ha, h⟩
  · rintro ⟨a, ha, h⟩
    exact ⟨[], used, s, a, rfl, ⟨rfl, rfl, ha⟩, h⟩

lemma Reads.take_bind {e : ε} {f : τ → Method ε tokens σ β} {S' : τ → List τ → σ → σ → β → Prop}
    (hf : ∀ token, Reads (f token) (S' token)) :
    Reads (Method.take e >>= f) fun used s s' b =>
      ∃ token u, used = token :: u ∧ S' token u s s' b := by
  refine ((Reads.take e).bind hf).congr fun used s s' b => ⟨?_, ?_⟩
  · rintro ⟨_, u, _, token, rfl, ⟨rfl, rfl⟩, h⟩
    exact ⟨token, u, rfl, h⟩
  · rintro ⟨token, u, rfl, h⟩
    exact ⟨[token], u, s, token, rfl, ⟨rfl, rfl⟩, h⟩

lemma Reads.bind_pure (hm : Reads m S) (g : α → β) :
    Reads (m >>= fun a => Pure.pure (g a)) fun used s s' b => ∃ a, S used s s' a ∧ g a = b := by
  refine (hm.bind fun a => Reads.pure (g a)).congr fun used s s' b => ⟨?_, ?_⟩
  · rintro ⟨u, _, s₁, a, rfl, h, rfl, rfl, rfl⟩
    exact ⟨a, by simpa using h, rfl⟩
  · rintro ⟨a, h, rfl⟩
    exact ⟨used, [], s', a, by simp, h, rfl, rfl, rfl⟩

/-- Every item is fine after those before it. -/
def Each (ok : List α → α → Prop) : List α → List α → Prop
  | _, [] => True
  | done, a :: items => ok done a ∧ Each ok (done ++ [a]) items

/-- A loop reads the tokens of its items, where the changes of the state add up. -/
lemma Reads.collect {item : List α → Method ε tokens σ α} {enc : α → List τ}
    {ok : List α → α → Prop} {C : List τ → σ → σ → Prop} (hnil : ∀ s s', C [] s s' ↔ s' = s)
    (happend : ∀ l l' s s', C (l ++ l') s s' ↔ ∃ s₁, C l s s₁ ∧ C l' s₁ s')
    (h : ∀ done, Reads (item done) fun used s s' a => used = enc a ∧ ok done a ∧ C used s s')
    (n : ℕ) : ∀ done, Reads (collect item n done) fun used s s' out =>
      ∃ items, items.length = n ∧ out = done ++ items ∧ used = items.flatMap enc ∧
        Each ok done items ∧ C used s s' := by
  induction n with
  | zero =>
    refine fun done => (Reads.pure done).congr fun used s s' out => ⟨?_, ?_⟩
    · rintro ⟨rfl, rfl, rfl⟩
      exact ⟨[], rfl, by simp, rfl, trivial, (hnil _ _).mpr rfl⟩
    rintro ⟨items, hn, rfl, rfl, -, hC⟩
    cases List.length_eq_zero_iff.mp hn
    exact ⟨rfl, (hnil _ _).mp hC, by simp⟩
  | succ n ih =>
    refine fun done => ((h done).bind fun a => ih (done ++ [a])).congr fun used s s' out => ⟨?_, ?_⟩
    · rintro ⟨_, _, s₁, a, rfl, ⟨rfl, ha, hC⟩, items, rfl, rfl, rfl, hitems, hC'⟩
      exact ⟨a :: items, rfl, by simp, rfl, ⟨ha, hitems⟩, (happend _ _ _ _).mpr ⟨s₁, hC, hC'⟩⟩
    rintro ⟨_ | ⟨a, items⟩, hn, rfl, rfl, hitems, hC⟩
    · cases hn
    obtain ⟨s₁, hC, hC'⟩ := (happend _ _ _ _).mp hC
    exact ⟨_, _, s₁, a, rfl, ⟨rfl, hitems.1, hC⟩, items, Nat.succ.inj hn, by simp, rfl,
      hitems.2, hC'⟩

lemma each_iff {P : α → Prop} {items : List α} :
    ∀ {done}, Each (fun _ a => P a) done items ↔ ∀ a ∈ items, P a := by
  induction items with
  | nil => simp [Each]
  | cons a items ih => simp [Each, ih]

lemma Reads.whole (h : Reads m S) {s : σ} {a : α} :
    (∃ c, m (.start tokens s) = (.ok a, c) ∧ c.index = tokens.length) ↔ ∃ s', S tokens s s' a := by
  constructor
  · rintro ⟨c, hc, hindex⟩
    obtain ⟨used, hrest, hS⟩ := (h _ a c).mp hc
    have hused : tokens = used := by
      simpa [Cursor.rest, Cursor.start, hindex] using hrest
    exact ⟨c.state, hused ▸ hS⟩
  · rintro ⟨s', hS⟩
    refine ⟨⟨tokens.length, s', _, Nat.le_refl _, rfl⟩, (h _ a _).mpr ⟨tokens, ?_, hS⟩, rfl⟩
    simp [Cursor.rest, Cursor.start]

end Method

end XelisWallet.Cursors
