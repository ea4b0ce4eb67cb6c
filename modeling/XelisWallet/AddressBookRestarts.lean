import XelisWallet.AddressBookMigration

/-!
Runs of the migration one after the other, each stopped by the storage at any point.

What interrupted runs have written is part of what one whole run writes. A run that completes makes
it whole, and the tree it leaves is the same for all orders in which the older tree and the hash map
are gone through.
-/

namespace XelisWallet.AddressBook

open Fallible Text NativeError Programs

variable {A K N : Type} {S : Suite A K N} {mainnet : Bool} {α : Type}

/-! ### Runs -/

/-- What a call finds: the older tree, the order in which it goes through the hash map, and the
number of accesses before the storage fails. -/
structure Env where
  legacy : Tree
  order : List NativeAddressBookEntry → List NativeAddressBookEntry
  order_perm : ∀ m, (order m).Perm m
  budget : Option ℕ

/-- The older tree is `legacy`, listed in some order. -/
def Env.Lists (env : Env) (legacy : Tree) : Prop := env.legacy.entries.Perm legacy.entries

def Env.trees (env : Env) (v2 : Tree) : Trees
  | .legacy => env.legacy
  | .addressBookV2 => v2

/-- A computation on the tree of the entries and the storage a call finds. -/
def Env.exec (env : Env) (m : DbM α) (v2 : Tree) : Except NativeXelisError α × Db :=
  m ⟨env.trees v2, env.budget⟩

def Env.migrate (S : Suite A K N) (mainnet : Bool) (env : Env) (v2 : Tree) :
    Except NativeXelisError NativeAddressBookMigrationResult × Db :=
  env.exec (migrateAddressBookV2 S mainnet env.order) v2

/-- The tree of the entries after a run of the migration. -/
def Env.migrated (S : Suite A K N) (mainnet : Bool) (env : Env) (v2 : Tree) : Tree :=
  (env.migrate S mainnet v2).2.trees .addressBookV2

/-- The tree of the entries after runs of the migration, from the empty tree. -/
def migrateAll (S : Suite A K N) (mainnet : Bool) (runs : List Env) : Tree :=
  runs.foldl (fun v2 env => env.migrated S mainnet v2) ∅

lemma Env.exec_spec {env : Env} {v2 : Tree} {m : DbM α} {P : Trees → Prop}
    {Q : Except NativeXelisError α → Trees → Prop}
    (h : TreeTriple env.budget.isNone P m Q) (hP : P (env.trees v2)) :
    Q (env.exec m v2).1 (env.exec m v2).2.trees :=
  (h ⟨env.trees v2, env.budget⟩ ⟨rfl, hP⟩).2

lemma Env.migrate_ends (hS : AddressLaws S) (env : Env) {v2 : Tree} (hv2 : Sound S mainnet v2) :
    MigrationEnds S mainnet env.budget.isNone (env.trees v2) (env.migrate S mainnet v2).1
      (env.migrate S mainnet v2).2.trees :=
  env.exec_spec (migrateAddressBookV2_spec hS hv2 env.order_perm) rfl

lemma Env.migrate_budget (hS : AddressLaws S) (env : Env) {v2 : Tree} (hv2 : Sound S mainnet v2) :
    (env.migrate S mainnet v2).2.budget.isNone = env.budget.isNone :=
  (migrateAddressBookV2_spec hS hv2 env.order_perm ⟨env.trees v2, env.budget⟩ ⟨rfl, rfl⟩).1

lemma Env.Lists.listing_perm {env : Env} {legacy : Tree} (h : env.Lists legacy) :
    (listing env.legacy).Perm (listing legacy) :=
  h.map _

/-! ### Trees on the way and trees of a whole run -/

/-- What a complete run leaves: the entries of `m` and the marker. -/
structure Complete (m : List NativeAddressBookEntry) (t : Tree) : Prop where
  length : m.length ≤ u32Max
  lookup : ∀ k v, t.lookup k = some v ↔
    (k = migrationMarkerKey ∧ v = encodeMarker (UInt32.ofNat m.length)) ∨
      ∃ e ∈ m, k = entryKey e.id ∧ v = encodeEntry e

variable {m : List NativeAddressBookEntry} {t : Tree}

lemma Complete.unique {t' : Tree} (h : Complete m t) (h' : Complete m t') (k : DataValue) :
    t.lookup k = t'.lookup k :=
  Option.ext fun v => by rw [h.lookup, h'.lookup]

lemma Complete.marker (h : Complete m t) :
    t.lookup migrationMarkerKey = some (encodeMarker (UInt32.ofNat m.length)) :=
  (h.lookup _ _).mpr (.inl ⟨rfl, rfl⟩)

lemma Complete.sound (h : Complete m t) (hm : ∀ e ∈ m, WellFormed S mainnet e) :
    Sound S mainnet t := by
  intro k v hv
  obtain ⟨hk, hv⟩ | ⟨e, he, hkv⟩ := (h.lookup k v).mp hv
  · exact .inl ⟨hk, _, hv⟩
  · exact .inr ⟨e, hm e he, hkv⟩

lemma Extends.complete (h : Extends m ∅ t)
    (hall : ∀ e ∈ m, t.lookup (entryKey e.id) = some (encodeEntry e)) (hlen : m.length ≤ u32Max) :
    Complete m (t.insert migrationMarkerKey (encodeMarker (UInt32.ofNat m.length))) where
  length := hlen
  lookup k v := by
    by_cases hk : k = migrationMarkerKey
    · subst hk
      have hne : ¬ ∃ e ∈ m, migrationMarkerKey = entryKey e.id ∧ v = encodeEntry e :=
        fun ⟨e, _, he, _⟩ => entryKey_ne_marker e.id he.symm
      rw [AList.lookup_insert, Option.some_inj, or_iff_left hne, eq_comm]
      exact ⟨fun h => ⟨rfl, h⟩, And.right⟩
    · rw [AList.lookup_insert_ne hk, or_iff_right fun h => hk h.1]
      constructor
      · intro hv
        exact (h.adds k v hv).resolve_left fun h => by cases h
      · rintro ⟨e, he, rfl, rfl⟩
        exact hall e he

/-- The tree holds a part of the entries of `m`, or a complete run has ended. -/
def Progress (m : List NativeAddressBookEntry) (t : Tree) : Prop := Extends m ∅ t ∨ Complete m t

lemma Progress.sound (h : Progress m t) (hm : ∀ e ∈ m, WellFormed S mainnet e) :
    Sound S mainnet t :=
  h.elim (fun h => h.sound hm sound_empty) fun h => h.sound hm

lemma Progress.extends (h : Progress m t) (hnone : t.lookup migrationMarkerKey = none) :
    Extends m ∅ t := by
  obtain h | h := h
  · exact h
  · rw [h.marker] at hnone
    cases hnone

lemma Progress.complete (h : Progress m t) {v : DataElement}
    (hv : t.lookup migrationMarkerKey = some v) : Complete m t := by
  obtain h | h := h
  · rw [h.marker rfl] at hv
    cases hv
  · exact h

section Step

variable {legacy : Tree} {m : List NativeAddressBookEntry}

lemma Env.Lists.collected_perm {env : Env} (henv : env.Lists legacy)
    (hm : Collected S mainnet (listing legacy) m) {v2 : Tree} {m' : List NativeAddressBookEntry}
    (h : collected S mainnet (env.trees v2) = .ok m') : m'.Perm m :=
  (hm.of_perm henv.listing_perm).perm (collected_of_foldlM h)

/-- **One more run**: it adds entries of the older tree, a run that returns has completed, and a run
that the storage does not stop returns. -/
lemma Progress.migrate (hS : AddressLaws S) {env : Env} (henv : env.Lists legacy)
    (hm : Collected S mainnet (listing legacy) m) {v2 : Tree} (hv2 : Progress m v2) :
    Progress m (env.migrated S mainnet v2) ∧
      (∀ r, (env.migrate S mainnet v2).1 = .ok r → Complete m (env.migrated S mainnet v2)) ∧
      (env.budget = none → m.length ≤ u32Max → ∃ r, (env.migrate S mainnet v2).1 = .ok r) := by
  have hends := env.migrate_ends hS (hv2.sound (hm.wellFormed hS))
  unfold Env.migrated
  generalize env.migrate S mainnet v2 = out at hends ⊢
  obtain ⟨r, t, b⟩ := out
  dsimp only at hends ⊢
  cases hends with
  | unread kind hfail =>
    refine ⟨hv2, by simp, fun hb => ?_⟩
    rw [hb] at hfail
    cases hfail
  | already hmark =>
    have hdone := hv2.complete hmark
    exact ⟨.inr hdone, fun _ _ => hdone, fun _ _ => ⟨_, rfl⟩⟩
  | rejected hnone herr =>
    obtain ⟨m', hm'⟩ := (hm.of_perm henv.listing_perm).exists_foldlM
    rw [collected] at herr
    cases hm'.symm.trans herr
  | @stopped m' t e hnone hcol hext hstop =>
    have hperm := henv.collected_perm hm hcol
    have hext := (hv2.extends hnone).trans (hext.mono fun e => hperm.mem_iff.mp)
    refine ⟨.inl ?_, by simp, fun hb hlen => ?_⟩
    · rwa [Function.update_self]
    cases hstop with
    | failed kind hfail =>
      rw [hb] at hfail
      cases hfail
    | @conflict e e' he hwf hid hne hold =>
      -- an entry written before is one of `m`, and there is no other with its id
      obtain h | ⟨e'', he'', hk, hv⟩ := (hv2.extends hnone).adds _ _ hold
      · cases h
      have hid' := entryKey_inj.mp hk
      have heq := hm.inj (hperm.mem_iff.mp he) he'' hid'
      rw [← heq] at hv he''
      exact absurd (encodeEntry_inj hwf (hm.wellFormed hS e he'') hid hv) hne
    | overflow hover =>
      rw [hperm.length_eq] at hover
      omega
  | @completed m' t hnone hcol hext hall hlen =>
    have hperm := henv.collected_perm hm hcol
    have hext := (hv2.extends hnone).trans (hext.mono fun e => hperm.mem_iff.mp)
    have hdone : Complete m
        (t.insert migrationMarkerKey (encodeMarker (UInt32.ofNat m'.length))) := by
      rw [hperm.length_eq] at hlen ⊢
      exact hext.complete (fun e he => hall e (hperm.mem_iff.mpr he)) hlen
    rw [Function.update_self]
    exact ⟨.inr hdone, fun _ _ => hdone, fun _ _ => ⟨_, rfl⟩⟩

lemma progress_migrateAll (hS : AddressLaws S) (hm : Collected S mainnet (listing legacy) m)
    {runs : List Env} (hruns : ∀ env ∈ runs, env.Lists legacy) :
    Progress m (migrateAll S mainnet runs) := by
  induction runs using List.reverseRecOn with
  | nil => exact .inl (.refl m ∅)
  | append_singleton runs env ih =>
    rw [migrateAll, List.foldl_append]
    exact (Progress.migrate hS (hruns env (by simp)) hm
      (ih fun env h => hruns env (List.mem_append_left _ h))).1

end Step

/-! ### The tree of the older entries -/

/-- Every pair of the older tree is an entry, and entries with one id do not differ. -/
def LegacyValid (S : Suite A K N) (mainnet : Bool) (legacy : Tree) : Prop :=
  (∀ p ∈ listing legacy, ∃ e, legacyEntry S mainnet p.1 p.2 = .ok e) ∧
    ∀ p ∈ listing legacy, ∀ q ∈ listing legacy, ∀ e e', legacyEntry S mainnet p.1 p.2 = .ok e →
      legacyEntry S mainnet q.1 q.2 = .ok e' → e.id = e'.id → e = e'

/-- The canonical addresses of the older tree. -/
def legacyAddresses (S : Suite A K N) (mainnet : Bool) (legacy : Tree) : List String :=
  ((listing legacy).filterMap fun p =>
    (legacyEntry S mainnet p.1 p.2).toOption.map (·.destination.address)).dedup

/-- The tree has one entry for each canonical address of the older tree, with its name and note, and
the marker with their number. -/
structure MigratedTree (S : Suite A K N) (mainnet : Bool) (legacy t : Tree) : Prop where
  entries : ∀ p ∈ listing legacy, ∃ e, legacyEntry S mainnet p.1 p.2 = .ok e ∧
    StandsFor S mainnet p e
  lookup : ∀ k v, t.lookup k = some v ↔
    (∃ n, k = migrationMarkerKey ∧ v = encodeMarker n ∧
      n.toNat = (legacyAddresses S mainnet legacy).length) ∨
    ∃ p ∈ listing legacy, ∃ e, legacyEntry S mainnet p.1 p.2 = .ok e ∧ k = entryKey e.id ∧
      v = encodeEntry e

section Whole

variable {legacy : Tree} {m : List NativeAddressBookEntry}

lemma Collected.legacyValid (hm : Collected S mainnet (listing legacy) m) :
    LegacyValid S mainnet legacy :=
  ⟨hm.valid, fun p hp q hq e e' he he' =>
    hm.inj ((hm.mem e).mpr ⟨p, hp, he⟩) ((hm.mem e').mpr ⟨q, hq, he'⟩)⟩

lemma LegacyValid.collected (h : LegacyValid S mainnet legacy) :
    ∃ m, Collected S mainnet (listing legacy) m := by
  have hmem : ∀ e, e ∈ ((listing legacy).filterMap fun p =>
      (legacyEntry S mainnet p.1 p.2).toOption).dedup ↔
      ∃ p ∈ listing legacy, legacyEntry S mainnet p.1 p.2 = .ok e := by
    intro e
    simp [toOption_eq_some]
  refine ⟨_, (List.nodup_dedup _).map_on ?_, hmem, h.1⟩
  intro x hx y hy hid
  obtain ⟨p, hp, hpx⟩ := (hmem x).mp hx
  obtain ⟨q, hq, hqy⟩ := (hmem y).mp hy
  exact h.2 p hp q hq x y hpx hqy hid

lemma Collected.length_eq (hS : AddressLaws S) (hm : Collected S mainnet (listing legacy) m) :
    m.length = (legacyAddresses S mainnet legacy).length := by
  have hnodup : (m.map (·.destination.address)).Nodup := by
    refine hm.nodup.of_map.map_on fun x hx y hy haddr => hm.inj hx hy ?_
    rw [(hm.wellFormed hS x hx).id_eq, (hm.wellFormed hS y hy).id_eq, haddr]
  have hperm : (m.map (·.destination.address)).Perm (legacyAddresses S mainnet legacy) := by
    refine (List.perm_ext_iff_of_nodup hnodup (List.nodup_dedup _)).mpr fun address => ?_
    simp only [List.mem_dedup, List.mem_filterMap, List.mem_map, hm.mem,
      Option.map_eq_some_iff, toOption_eq_some]
    constructor
    · rintro ⟨e, ⟨p, hp, he⟩, rfl⟩
      exact ⟨p, hp, e, he, rfl⟩
    · rintro ⟨p, hp, e, he, rfl⟩
      exact ⟨e, ⟨p, hp, he⟩, rfl⟩
  rw [← hperm.length_eq, List.length_map]

lemma Complete.migratedTree (hS : AddressLaws S) (hm : Collected S mainnet (listing legacy) m)
    {t : Tree} (h : Complete m t) : MigratedTree S mainnet legacy t where
  entries p hp := by
    obtain ⟨e, he⟩ := hm.valid p hp
    exact ⟨e, he, standsFor_of_legacyEntry hS he⟩
  lookup k v := by
    have hn : (UInt32.ofNat m.length).toNat = (legacyAddresses S mainnet legacy).length := by
      rw [UInt32.toNat_ofNat_of_lt' (Nat.lt_succ_of_le h.length), hm.length_eq hS]
    rw [h.lookup]
    refine or_congr ⟨?_, ?_⟩ ⟨?_, ?_⟩
    · rintro ⟨rfl, rfl⟩
      exact ⟨_, rfl, rfl, hn⟩
    · rintro ⟨n, rfl, rfl, hn'⟩
      rw [UInt32.toNat_inj.mp (hn'.trans hn.symm)]
      exact ⟨rfl, rfl⟩
    · rintro ⟨e, he, hkv⟩
      obtain ⟨p, hp, hpe⟩ := (hm.mem e).mp he
      exact ⟨p, hp, e, hpe, hkv⟩
    · rintro ⟨p, hp, e, hpe, hkv⟩
      exact ⟨e, (hm.mem e).mpr ⟨p, hp, hpe⟩, hkv⟩

variable {env : Env}

lemma Env.Lists.legacyValid (henv : env.Lists legacy) :
    LegacyValid S mainnet env.legacy ↔ LegacyValid S mainnet legacy := by
  simp [LegacyValid, henv.listing_perm.mem_iff]

lemma Env.migrated_of_marker (env : Env) {v2 : Tree} (h : v2.lookup migrationMarkerKey ≠ none) :
    env.migrated S mainnet v2 = v2 :=
  congrFun (env.exec_spec (migrateAddressBookV2_unchanged (.inl (Option.isSome_iff_ne_none.mpr h)))
    rfl) .addressBookV2

lemma Env.migrated_of_invalid (env : Env) (h : ¬ LegacyValid S mainnet env.legacy) (v2 : Tree) :
    env.migrated S mainnet v2 = v2 := by
  have hreject : ∃ e, collected S mainnet (env.trees v2) = .error e := by
    cases hcol : collected S mainnet (env.trees v2) with
    | error e => exact ⟨e, rfl⟩
    | ok => exact absurd (collected_of_foldlM hcol).legacyValid h
  exact congrFun (env.exec_spec (migrateAddressBookV2_unchanged (.inr hreject)) rfl) .addressBookV2

lemma migrateAll_of_invalid (h : ¬ LegacyValid S mainnet legacy) {runs : List Env}
    (hruns : ∀ env ∈ runs, env.Lists legacy) : migrateAll S mainnet runs = ∅ := by
  induction runs using List.reverseRecOn with
  | nil => rfl
  | append_singleton runs env ih =>
    have henv := hruns env (by simp)
    rw [migrateAll, List.foldl_append]
    exact (env.migrated_of_invalid (henv.legacyValid.not.mpr h) _).trans
      (ih fun env h => hruns env (List.mem_append_left _ h))

lemma Env.legacyValid_of_migrate (hS : AddressLaws S) {r : NativeAddressBookMigrationResult}
    (h : (env.migrate S mainnet ∅).1 = .ok r) : LegacyValid S mainnet env.legacy := by
  have hends : MigrationEnds S mainnet _ _ _ _ := env.migrate_ends hS sound_empty
  rw [h] at hends
  generalize (env.migrate S mainnet ∅).2.trees = t at hends
  cases hends with
  | already hmark => cases hmark
  | completed _ hcol => exact (collected_of_foldlM hcol).legacyValid

lemma legacyValid_of_migrateAll (hS : AddressLaws S) {runs : List Env}
    (hruns : ∀ env ∈ runs, env.Lists legacy) (henv : env.Lists legacy)
    {r : NativeAddressBookMigrationResult}
    (h : (env.migrate S mainnet (migrateAll S mainnet runs)).1 = .ok r) :
    LegacyValid S mainnet legacy := by
  by_contra hinvalid
  rw [migrateAll_of_invalid hinvalid hruns] at h
  exact hinvalid (henv.legacyValid.mp (env.legacyValid_of_migrate hS h))

end Whole

/-! ### A small address book -/

/-- A suite with the addresses `a` and `b`; `A` is another text of the first. -/
def letterSuite : Suite Bool Bool Empty where
  address :=
    { toText := fun first => if first then "a" else "b"
      ofText := fun text =>
        if text = "a" ∨ text = "A" then some true else if text = "b" then some false else none }
  isMainnet _ := true
  extractData a := (none, a)
  toPublicKey := id
  newIntegrated _ _ k := k
  intoXelis := Empty.elim
  entryId text := .ofList (List.replicate 64 (if text = "a" then 'a' else 'b'))
  toLowercase := id

lemma letterLaws : AddressLaws letterSuite where
  roundTrips a := by cases a <;> decide
  canonical text a h := by
    have hsize : (letterSuite.address.toText a).utf8ByteSize = 1 := by cases a <;> rfl
    have hpos : 1 ≤ text.utf8ByteSize := by
      rw [Nat.one_le_iff_ne_zero]
      intro h0
      rw [String.utf8ByteSize_eq_zero_iff.mp h0] at h
      cases h
    refine ⟨by cases a <;> decide, ?_, by rwa [hsize]⟩
    cases a <;> exact ⟨by rintro c ⟨⟩; rfl, by rintro c ⟨⟩; rfl⟩

def letterFields (name address : String) : DataElement :=
  .fields [(.string "name", .value (.string name)), (.string "address", .value (.string address))]

/-- An older tree with two entries, one of them for another text of its address. -/
def letterLegacy : Tree :=
  (AList.singleton (.string "b") (letterFields "Bob" "b")).insert (.string "A")
    (letterFields " Ann " "a")

/-- A run on it that stops after some accesses, if it stops. -/
def letterRun (budget : Option ℕ) : Env := ⟨letterLegacy, id, fun _ => .refl _, budget⟩

def letterEntry (address name : String) : NativeAddressBookEntry :=
  ⟨letterSuite.entryId address, name, none, none, ⟨address, address, .standard, none⟩⟩

lemma letterLegacy_entry {p : DataValue × DataElement} (hp : p ∈ listing letterLegacy) :
    legacyEntry letterSuite true p.1 p.2 = .ok (letterEntry "a" "Ann") ∨
      legacyEntry letterSuite true p.1 p.2 = .ok (letterEntry "b" "Bob") := by
  obtain rfl | hp := List.mem_cons.mp hp
  · exact .inl (by decide +kernel)
  · rw [List.mem_singleton.mp hp]
    exact .inr (by decide +kernel)

lemma letterLegacy_valid : LegacyValid letterSuite true letterLegacy := by
  refine ⟨fun p hp => ?_, fun p hp q hq e e' he he' hid => ?_⟩
  · obtain h | h := letterLegacy_entry hp <;> exact ⟨_, h⟩
  -- entries with one id are for one address
  · obtain h | h := letterLegacy_entry hp <;> obtain h' | h' := letterLegacy_entry hq
    all_goals
      obtain rfl := Except.ok.inj (h.symm.trans he)
      obtain rfl := Except.ok.inj (h'.symm.trans he')
      first
        | rfl
        | exact absurd hid (by decide +kernel)

/-- **Interrupted migrations.** Runs go on after one another, each with its own orders of iteration
and stopped by the storage at any point. A run that completes leaves the tree of the older entries,
as one whole run does from the empty tree; the marker is there only with every entry; a whole run on
valid entries completes. Whatever the tree of the entries holds, the older tree is never written, a
run writes nothing for an invalid older tree, and it writes nothing once the marker is there. -/
theorem interrupted_migrations_complete (hS : AddressLaws S) (mainnet : Bool) (legacy : Tree)
    (runs : List Env) (hruns : ∀ env ∈ runs, env.Lists legacy) :
    (∀ env : Env, env.Lists legacy →
      ∀ r, (env.migrate S mainnet (migrateAll S mainnet runs)).1 = .ok r →
        MigratedTree S mainnet legacy (env.migrated S mainnet (migrateAll S mainnet runs)) ∧
        ∀ whole : Env, whole.Lists legacy → whole.budget = none →
          (∃ r, (whole.migrate S mainnet ∅).1 = .ok r) ∧
          ∀ k, (env.migrated S mainnet (migrateAll S mainnet runs)).lookup k =
            (whole.migrated S mainnet ∅).lookup k) ∧
    ((migrateAll S mainnet runs).lookup migrationMarkerKey ≠ none →
      MigratedTree S mainnet legacy (migrateAll S mainnet runs)) ∧
    (LegacyValid S mainnet legacy → (legacyAddresses S mainnet legacy).length ≤ u32Max →
      ∀ whole : Env, whole.Lists legacy → whole.budget = none →
        ∃ r, (whole.migrate S mainnet (migrateAll S mainnet runs)).1 = .ok r) ∧
    ∀ (env : Env) (v2 : Tree),
      (env.migrate S mainnet v2).2.trees .legacy = env.legacy ∧
      (¬ LegacyValid S mainnet env.legacy → env.migrated S mainnet v2 = v2) ∧
      (v2.lookup migrationMarkerKey ≠ none → env.migrated S mainnet v2 = v2) := by
  refine ⟨fun env henv r hr => ?_, fun hmark => ?_, fun hvalid hlen whole hwhole hb => ?_,
    fun env v2 => ⟨env.exec_spec keeps_legacy rfl, fun h => env.migrated_of_invalid h v2,
      env.migrated_of_marker⟩⟩
  · obtain ⟨m, hm⟩ := (legacyValid_of_migrateAll hS hruns henv hr).collected
    have hdone := (Progress.migrate hS henv hm (progress_migrateAll hS hm hruns)).2.1 r hr
    refine ⟨hdone.migratedTree hS hm, fun whole hwhole hb => ?_⟩
    have hempty : Progress m ∅ := .inl (.refl m ∅)
    obtain ⟨-, hwdone, hret⟩ := hempty.migrate hS hwhole hm
    obtain ⟨r', hr'⟩ := hret hb hdone.length
    exact ⟨⟨r', hr'⟩, hdone.unique (hwdone r' hr')⟩
  · by_cases hvalid : LegacyValid S mainnet legacy
    · obtain ⟨m, hm⟩ := hvalid.collected
      obtain ⟨v, hv⟩ := Option.ne_none_iff_exists'.mp hmark
      exact ((progress_migrateAll hS hm hruns).complete hv).migratedTree hS hm
    · rw [migrateAll_of_invalid hvalid hruns] at hmark
      exact absurd rfl hmark
  · obtain ⟨m, hm⟩ := hvalid.collected
    rw [← hm.length_eq hS] at hlen
    exact (Progress.migrate hS hwhole hm (progress_migrateAll hS hm hruns)).2.2 hb hlen

/-- The first run stops with one entry written, the second one before the marker. -/
theorem letter_migration_completes :
    let stopped := migrateAll letterSuite true [letterRun (some 4), letterRun (some 6)]
    ((letterRun (some 4)).migrated letterSuite true ∅).entries.length = 1 ∧
    stopped.entries.length = 2 ∧ stopped.lookup migrationMarkerKey = none ∧
    ∃ r, ((letterRun none).migrate letterSuite true stopped).1 = .ok r ∧
      MigratedTree letterSuite true letterLegacy
        ((letterRun none).migrated letterSuite true stopped) := by
  have hlists : ∀ budget, (letterRun budget).Lists letterLegacy := fun _ => .refl _
  have hall := interrupted_migrations_complete letterLaws true letterLegacy
    [letterRun (some 4), letterRun (some 6)] (by simp [hlists])
  have hlen : (legacyAddresses letterSuite true letterLegacy).length ≤ u32Max := by
    calc (legacyAddresses letterSuite true letterLegacy).length
        ≤ (listing letterLegacy).length :=
          (List.dedup_sublist _).length_le.trans (List.length_filterMap_le _ _)
      _ ≤ u32Max := by decide
  obtain ⟨r, hr⟩ := hall.2.2.1 letterLegacy_valid hlen (letterRun none) (hlists none) rfl
  exact ⟨rfl, rfl, rfl, r, hr, (hall.1 (letterRun none) (hlists none) r hr).1⟩

end XelisWallet.AddressBook
