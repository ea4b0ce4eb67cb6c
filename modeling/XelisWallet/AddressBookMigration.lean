import Mathlib.Data.List.Dedup
import XelisWallet.AddressBookSpec

/-!
The migration of the older address book.

A run is described once: it stops before it has written, is rejected for the older tree, stops on
the way with some of the entries written, or completes. Every entry it writes is the one a later run
computes again, whatever the orders of iteration, so runs that were interrupted add up to one run
that was not.
-/

namespace XelisWallet.AddressBook

open Fallible Text NativeError Programs

variable {A K N : Type} {S : Suite A K N} {mainnet : Bool} {reliable : Bool}

/-! ### Collecting the entries of the older tree -/

/-- The entries `m` are those of the listing `l`, one for each id. -/
structure Collected (S : Suite A K N) (mainnet : Bool) (l : List (DataValue × DataElement))
    (m : List NativeAddressBookEntry) : Prop where
  nodup : (m.map (·.id)).Nodup
  mem : ∀ e, e ∈ m ↔ ∃ p ∈ l, legacyEntry S mainnet p.1 p.2 = .ok e
  valid : ∀ p ∈ l, ∃ e, legacyEntry S mainnet p.1 p.2 = .ok e

variable {m m' : List NativeAddressBookEntry} {e : NativeAddressBookEntry}
  {l : List (DataValue × DataElement)} {value v : DataElement} {key : DataValue} {t t₀ : Tree}

lemma insertMigrated_eq_ok (h : insertMigrated m e = .ok m') :
    (m' = m ++ [e] ∧ ∀ x ∈ m, x.id ≠ e.id) ∨ (m' = m ∧ e ∈ m) := by
  unfold insertMigrated at h
  split at h
  case h_1 hnone =>
    rw [pure_eq_ok] at h
    exact .inl ⟨h.symm, by simpa using hnone⟩
  case h_2 previous hsome =>
    simp only [bind_eq_ok, ensure_eq_ok, exists_const, pure_eq_ok] at h
    obtain ⟨rfl, rfl⟩ := h
    exact .inr ⟨rfl, List.mem_of_find?_eq_some hsome⟩

lemma insertMigrated_ok (h : ∀ x ∈ m, x.id = e.id → x = e) : ∃ m', insertMigrated m e = .ok m' := by
  unfold insertMigrated
  split
  case h_1 => exact ⟨_, rfl⟩
  case h_2 previous hsome =>
    have hid := List.find?_some hsome
    have hp := h previous (List.mem_of_find?_eq_some hsome) (by simpa using hid)
    exact ⟨m, by simp only [bind_eq_ok, ensure_eq_ok, exists_const, pure_eq_ok, hp, and_self]⟩

lemma Collected.snoc {p : DataValue × DataElement} (hm : Collected S mainnet l m)
    (h : collectLegacy S mainnet m p = .ok m') : Collected S mainnet (l ++ [p]) m' := by
  obtain ⟨e, he, hins⟩ := bind_eq_ok.mp h
  have hlast : ∀ x, legacyEntry S mainnet p.1 p.2 = .ok x ↔ x = e := by
    intro x
    rw [he, Except.ok.injEq, eq_comm]
  have hvalid : ∀ q ∈ l ++ [p], ∃ x, legacyEntry S mainnet q.1 q.2 = .ok x := by
    intro q hq
    obtain hq | hq := List.mem_append.mp hq
    · exact hm.valid q hq
    · rw [List.mem_singleton.mp hq]
      exact ⟨e, he⟩
  have hmem : ∀ x, (∃ q ∈ l ++ [p], legacyEntry S mainnet q.1 q.2 = .ok x) ↔ x ∈ m ∨ x = e := by
    intro x
    simp only [List.mem_append, List.mem_singleton, or_and_right, exists_or, exists_eq_left, hlast,
      hm.mem]
  obtain ⟨rfl, hnew⟩ | ⟨rfl, hold⟩ := insertMigrated_eq_ok hins
  · refine ⟨?_, fun x => ?_, hvalid⟩
    · rw [List.map_append, List.map_singleton, List.nodup_append]
      refine ⟨hm.nodup, List.nodup_singleton _, ?_⟩
      simpa using hnew
    · rw [hmem, List.mem_append, List.mem_singleton]
  · refine ⟨hm.nodup, fun x => ?_, hvalid⟩
    rw [hmem]
    exact ⟨.inl, fun hx => hx.elim id fun hx => hx ▸ hold⟩

lemma Collected.foldlM {rest : List (DataValue × DataElement)} (hm : Collected S mainnet l m)
    (h : rest.foldlM (collectLegacy S mainnet) m = .ok m') :
    Collected S mainnet (l ++ rest) m' := by
  induction rest generalizing l m with
  | nil =>
    rw [List.foldlM_nil, pure_eq_ok] at h
    rwa [List.append_nil, ← h]
  | cons p rest ih =>
    rw [List.foldlM_cons] at h
    obtain ⟨m₁, h₁, h⟩ := bind_eq_ok.mp h
    simpa using ih (hm.snoc h₁) h

lemma collected_of_foldlM (h : l.foldlM (collectLegacy S mainnet) [] = .ok m) :
    Collected S mainnet l m := by
  have hnil : Collected S mainnet [] [] := ⟨List.nodup_nil, by simp, by simp⟩
  exact hnil.foldlM h

variable (hm : Collected S mainnet l m)
include hm

lemma Collected.inj {x y : NativeAddressBookEntry} (hx : x ∈ m)
    (hy : y ∈ m) (hid : x.id = y.id) : x = y :=
  List.inj_on_of_nodup_map hm.nodup hx hy hid

lemma Collected.exists_foldlM : ∃ m', l.foldlM (collectLegacy S mainnet) [] = .ok m' := by
  -- the entries collected on the way are among those of `m`
  have key : ∀ (rest : List (DataValue × DataElement)) (acc : List NativeAddressBookEntry),
      (∀ p ∈ rest, p ∈ l) → (∀ x ∈ acc, x ∈ m) →
      ∃ m', rest.foldlM (collectLegacy S mainnet) acc = .ok m' := by
    intro rest
    induction rest with
    | nil => exact fun acc _ _ => ⟨acc, rfl⟩
    | cons p rest ih =>
      intro acc hrest hacc
      obtain ⟨e, he⟩ := hm.valid p (hrest p List.mem_cons_self)
      have hem : e ∈ m := (hm.mem e).mpr ⟨p, hrest p List.mem_cons_self, he⟩
      obtain ⟨acc', hacc'⟩ := insertMigrated_ok fun x hx => hm.inj (hacc x hx) hem
      have hsub : ∀ x ∈ acc', x ∈ m := by
        obtain ⟨rfl, -⟩ | ⟨rfl, -⟩ := insertMigrated_eq_ok hacc'
        · simpa [or_imp, forall_and] using And.intro hacc hem
        · exact hacc
      obtain ⟨m', hm'⟩ := ih acc' (fun q hq => hrest q (List.mem_cons_of_mem _ hq)) hsub
      refine ⟨m', ?_⟩
      rw [List.foldlM_cons]
      exact bind_eq_ok.mpr ⟨acc', bind_eq_ok.mpr ⟨e, he, hacc'⟩, hm'⟩
  exact key l [] (fun _ h => h) (by simp)

lemma Collected.of_perm {l' : List (DataValue × DataElement)}
    (h : l'.Perm l) : Collected S mainnet l' m :=
  ⟨hm.nodup, fun e => by simp only [hm.mem, h.mem_iff], fun p hp => hm.valid p (h.mem_iff.mp hp)⟩

lemma Collected.perm (hm' : Collected S mainnet l m') : m'.Perm m :=
  (List.perm_ext_iff_of_nodup hm'.nodup.of_map hm.nodup.of_map).mpr fun e => by
    rw [hm.mem, hm'.mem]

omit hm

/-! ### What an entry of the older tree stands for -/

/-- The entry of a pair of the older tree: the address of the pair in its canonical form, and its
name and note without the white space around them. -/
def StandsFor (S : Suite A K N) (mainnet : Bool) (p : DataValue × DataElement)
    (e : NativeAddressBookEntry) : Prop :=
  ∃ address fields name note d, p = (.string address, .fields fields) ∧
    fields.lookup (.string "name") = some (.value (.string name)) ∧
    fields.lookup (.string "note") = note.map (fun text => .value (.string text)) ∧
    canonicalDestination S address mainnet = .ok d ∧
    e = { id := S.entryId d.address, displayName := trim name, destinationLabel := none,
          note := trimmedText note, destination := d.toNative }

lemma requiredField_eq_ok {fields : List (DataValue × DataElement)} {name value : String}
    (h : requiredField fields name = .ok value) :
    fields.lookup (.string name) = some (.value (.string value)) := by
  simp only [requiredField, stringField, if_true, bind_eq_ok, pure_eq_ok] at h
  obtain ⟨text, h, rfl⟩ := h
  split at h
  case h_1 => cases h
  case h_2 hl =>
    rw [pure_eq_ok] at h
    rw [hl, ← h]
    rfl
  case h_3 => cases h

lemma stringField_eq_ok {fields : List (DataValue × DataElement)} {name : String}
    {value : Option String} (h : stringField fields name false = .ok value) :
    fields.lookup (.string name) = value.map fun text => .value (.string text) := by
  unfold stringField at h
  split at h
  case h_1 hl =>
    simp only [Bool.false_eq_true, if_false, pure_eq_ok] at h
    rw [hl, ← h]
    rfl
  case h_2 hl =>
    rw [pure_eq_ok] at h
    rw [hl, ← h]
    rfl
  case h_3 => cases h

lemma canonicalDestination_unique (hS : AddressLaws S) {address address' : String}
    {d d' : CanonicalDestination} (h : canonicalDestination S address mainnet = .ok d)
    (h' : canonicalDestination S address' mainnet = .ok d') (heq : d.address = d'.address) :
    d = d' := by
  have hd := canonicalDestination_idem hS h
  rw [heq, canonicalDestination_idem hS h'] at hd
  exact (Except.ok.inj hd).symm

lemma legacyEntry_eq_ok (h : legacyEntry S mainnet key value = .ok e) : ∃ address fields name
    fieldAddress note d, key = .string address ∧ value = .fields fields ∧ requiredField fields
    "name" = .ok name ∧ stringField fields "note" false = .ok note ∧ canonicalDestination S address
    mainnet = .ok d ∧ normalizeEntry S fieldAddress name none note mainnet = .ok e ∧
    e.destination.address = d.address := by
  unfold legacyEntry at h
  split at h
  case h_2 => cases h
  case h_1 address =>
    split at h
    case h_2 => cases h
    case h_1 fields =>
      simp only [bind_eq_ok, ensure_eq_ok, exists_const, pure_eq_ok] at h
      obtain ⟨name, hname, fieldAddress, -, note, hnote, d, hd, e, he, heq, rfl⟩ := h
      exact ⟨address, fields, name, fieldAddress, note, d, rfl, rfl, hname, hnote, hd, he, heq⟩

lemma wellFormed_of_legacyEntry (hS : AddressLaws S) (h : legacyEntry S mainnet key value = .ok e) :
    WellFormed S mainnet e := by
  obtain ⟨_, _, _, _, _, _, -, -, -, -, -, he, -⟩ := legacyEntry_eq_ok h
  exact wellFormed_of_normalizeEntry hS he

lemma standsFor_of_legacyEntry (hS : AddressLaws S) (h : legacyEntry S mainnet key value = .ok e) :
    StandsFor S mainnet (key, value) e := by
  obtain ⟨address, fields, name, _, note, d, rfl, rfl, hname, hnote, hd, he, heq⟩ :=
    legacyEntry_eq_ok h
  simp only [normalizeEntry, bind_eq_ok, pure_eq_ok] at he
  obtain ⟨d', hd', n, hn, l, hl, t, ht, rfl⟩ := he
  obtain rfl := canonicalDestination_unique hS hd' hd heq
  obtain ⟨-, rfl⟩ := normalizeRequired_eq_ok.mp hn
  obtain ⟨-, rfl⟩ := normalizeOptional_eq_ok.mp hl
  obtain ⟨-, rfl⟩ := normalizeOptional_eq_ok.mp ht
  exact ⟨address, fields, name, note, d', rfl, requiredField_eq_ok hname, stringField_eq_ok hnote,
    hd, rfl⟩

lemma Collected.wellFormed (hS : AddressLaws S) (hm : Collected S mainnet l m) :
    ∀ e ∈ m, WellFormed S mainnet e := by
  intro e he
  obtain ⟨p, -, hp⟩ := (hm.mem e).mp he
  exact wellFormed_of_legacyEntry hS hp

/-! ### The tree of the entries -/

/-- Every key of the tree is the marker or the key of an entry that is stored there. -/
def Sound (S : Suite A K N) (mainnet : Bool) (t : Tree) : Prop :=
  ∀ k v, t.lookup k = some v → (k = migrationMarkerKey ∧ ∃ n, v = encodeMarker n) ∨
    ∃ e, WellFormed S mainnet e ∧ k = entryKey e.id ∧ v = encodeEntry e

lemma sound_empty : Sound S mainnet ∅ := by
  intro k v h
  cases h

variable (ht : Sound S mainnet t)
include ht

lemma Sound.marker (h : t.lookup migrationMarkerKey = some v) : ∃ n, v = encodeMarker n := by
  obtain ⟨-, hv⟩ | ⟨e, -, hk, -⟩ := ht _ v h
  · exact hv
  · exact absurd hk.symm (entryKey_ne_marker e.id)

lemma Sound.entry {id : String} (h : t.lookup (entryKey id) = some v) :
    ∃ e, WellFormed S mainnet e ∧ e.id = id ∧ v = encodeEntry e := by
  obtain ⟨hk, -⟩ | ⟨e, he, hk, hv⟩ := ht _ v h
  · exact absurd hk (entryKey_ne_marker id)
  · exact ⟨e, he, (entryKey_inj.mp hk).symm, hv⟩

lemma Sound.insert {k : DataValue}
    (h : (k = migrationMarkerKey ∧ ∃ n, v = encodeMarker n) ∨
      ∃ e, WellFormed S mainnet e ∧ k = entryKey e.id ∧ v = encodeEntry e) :
    Sound S mainnet (t.insert k v) := by
  intro k' v' h'
  by_cases hk : k' = k
  · subst hk
    rw [AList.lookup_insert, Option.some_inj] at h'
    exact h' ▸ h
  · rw [AList.lookup_insert_ne hk] at h'
    exact ht k' v' h'

lemma Sound.erase (k : DataValue) : Sound S mainnet (t.erase k) := by
  intro k' v' h'
  by_cases hk : k' = k
  · rw [hk, AList.lookup_erase] at h'
    cases h'
  · rw [AList.lookup_erase_ne hk] at h'
    exact ht k' v' h'

omit ht

/-- The tree `t` has what `t₀` has, and else only entries of `m`. -/
structure Extends (m : List NativeAddressBookEntry) (t₀ t : Tree) : Prop where
  keeps : ∀ k v, t₀.lookup k = some v → t.lookup k = some v
  adds : ∀ k v, t.lookup k = some v → t₀.lookup k = some v ∨
    ∃ e ∈ m, k = entryKey e.id ∧ v = encodeEntry e

lemma Extends.refl (m : List NativeAddressBookEntry) (t : Tree) : Extends m t t :=
  ⟨fun _ _ h => h, fun _ _ h => .inl h⟩

lemma Extends.trans {t₁ t₂ : Tree} (h₁ : Extends m t₀ t₁) (h₂ : Extends m t₁ t₂) :
    Extends m t₀ t₂ :=
  ⟨fun k v h => h₂.keeps k v (h₁.keeps k v h), fun k v h => (h₂.adds k v h).elim (h₁.adds k v) .inr⟩

lemma Extends.mono (h : Extends m t₀ t) (hm : ∀ e ∈ m, e ∈ m') : Extends m' t₀ t :=
  ⟨h.keeps, fun k v hv => (h.adds k v hv).imp id fun ⟨e, he, hkv⟩ => ⟨e, hm e he, hkv⟩⟩

lemma Extends.insert (h : Extends m t₀ t) (he : e ∈ m) (hnone : t.lookup (entryKey e.id) = none) :
    Extends m t₀ (t.insert (entryKey e.id) (encodeEntry e)) where
  keeps k v hv := by
    have hk : k ≠ entryKey e.id := by
      rintro rfl
      rw [h.keeps _ v hv] at hnone
      cases hnone
    rw [AList.lookup_insert_ne hk]
    exact h.keeps k v hv
  adds k v hv := by
    by_cases hk : k = entryKey e.id
    · subst hk
      rw [AList.lookup_insert, Option.some_inj] at hv
      exact .inr ⟨e, he, rfl, hv.symm⟩
    · rw [AList.lookup_insert_ne hk] at hv
      exact h.adds k v hv

lemma Extends.sound (h : Extends m t₀ t) (hm : ∀ e ∈ m, WellFormed S mainnet e)
    (ht : Sound S mainnet t₀) : Sound S mainnet t :=
  fun k v hv => (h.adds k v hv).elim (ht k v) fun ⟨e, he, hkv⟩ => .inr ⟨e, hm e he, hkv⟩

lemma Extends.marker (h : Extends m t₀ t) (hnone : t₀.lookup migrationMarkerKey = none) :
    t.lookup migrationMarkerKey = none := by
  rw [Option.eq_none_iff_forall_ne_some]
  intro v hv
  obtain hv | ⟨e, -, hk, -⟩ := h.adds _ v hv
  · rw [hnone] at hv
    cases hv
  · exact entryKey_ne_marker e.id hk.symm

/-! ### One run -/

/-- The entries a run of the migration has to write. -/
def collected (S : Suite A K N) (mainnet : Bool) (t : Trees) :
    Except NativeXelisError (List NativeAddressBookEntry) :=
  (listing (t .legacy)).foldlM (collectLegacy S mainnet) []

/-- What stops a run that has begun to write. -/
inductive Stops (S : Suite A K N) (mainnet reliable : Bool) (m : List NativeAddressBookEntry)
    (t : Tree) : NativeXelisError → Prop
  | failed (kind : String) (h : reliable = false) :
      Stops S mainnet reliable m t (.storageOperation kind)
  | conflict {e e' : NativeAddressBookEntry} (he : e ∈ m) (hwf : WellFormed S mainnet e')
      (hid : e'.id = e.id) (hne : e' ≠ e)
      (h : t.lookup (entryKey e.id) = some (encodeEntry e')) :
      Stops S mainnet reliable m t entryConflict
  | overflow (h : u32Max < m.length) : Stops S mainnet reliable m t countOverflow

/-- How a run of the migration can end. -/
inductive MigrationEnds (S : Suite A K N) (mainnet reliable : Bool) (t₀ : Trees) :
    Except NativeXelisError NativeAddressBookMigrationResult → Trees → Prop
  | unread (kind : String) (h : reliable = false) :
      MigrationEnds S mainnet reliable t₀ (.error (.storageOperation kind)) t₀
  | already {n : UInt32}
      (h : (t₀ .addressBookV2).lookup migrationMarkerKey = some (encodeMarker n)) :
      MigrationEnds S mainnet reliable t₀ (.ok ⟨n, true⟩) t₀
  | rejected {e : NativeXelisError} (h : (t₀ .addressBookV2).lookup migrationMarkerKey = none)
      (hm : collected S mainnet t₀ = .error e) : MigrationEnds S mainnet reliable t₀ (.error e) t₀
  | stopped {m : List NativeAddressBookEntry} {t : Tree} {e : NativeXelisError}
      (h : (t₀ .addressBookV2).lookup migrationMarkerKey = none)
      (hm : collected S mainnet t₀ = .ok m) (ht : Extends m (t₀ .addressBookV2) t)
      (he : Stops S mainnet reliable m (t₀ .addressBookV2) e) :
      MigrationEnds S mainnet reliable t₀ (.error e) (Function.update t₀ .addressBookV2 t)
  | completed {m : List NativeAddressBookEntry} {t : Tree}
      (h : (t₀ .addressBookV2).lookup migrationMarkerKey = none)
      (hm : collected S mainnet t₀ = .ok m) (ht : Extends m (t₀ .addressBookV2) t)
      (hall : ∀ e ∈ m, t.lookup (entryKey e.id) = some (encodeEntry e)) (hlen : m.length ≤ u32Max) :
      MigrationEnds S mainnet reliable t₀ (.ok ⟨UInt32.ofNat m.length, false⟩)
        (Function.update t₀ .addressBookV2
          (t.insert migrationMarkerKey (encodeMarker (UInt32.ofNat m.length))))

/-- The entries of `done` are in the tree, and nothing else is new. -/
def Written (t₀ : Trees) (m done : List NativeAddressBookEntry) (t : Trees) : Prop :=
  ∃ t', t = Function.update t₀ .addressBookV2 t' ∧ Extends m (t₀ .addressBookV2) t' ∧
    ∀ e ∈ done, t'.lookup (entryKey e.id) = some (encodeEntry e)

section Run

variable {t₀ : Trees} {m : List NativeAddressBookEntry}

lemma Written.forget {done : List NativeAddressBookEntry} {t : Trees} (h : Written t₀ m done t) :
    Written t₀ m [] t := by
  obtain ⟨t', ht, hext, -⟩ := h
  exact ⟨t', ht, hext, by simp⟩

lemma Extends.entry {t t' : Tree} (h : Extends m t t') (ht : Sound S mainnet t)
    (hinj : ∀ x ∈ m, ∀ y ∈ m, x.id = y.id → x = y) (hwf : ∀ e ∈ m, WellFormed S mainnet e)
    {e : NativeAddressBookEntry} (he : e ∈ m) {v : DataElement}
    (hv : t'.lookup (entryKey e.id) = some v) : ∃ e', v = encodeEntry e' ∧ WellFormed S mainnet e' ∧
    e'.id = e.id ∧ (e' ≠ e → t.lookup (entryKey e.id) = some (encodeEntry e')) := by
  obtain hold | ⟨e', he', hk, rfl⟩ := h.adds _ v hv
  · obtain ⟨e', hwf', hid, rfl⟩ := ht.entry hold
    exact ⟨e', rfl, hwf', hid, fun _ => hold⟩
  · have heq := hinj e he e' he' (entryKey_inj.mp hk)
    exact ⟨e', rfl, hwf e' he', by rw [heq], fun hne => absurd heq.symm hne⟩

lemma migrateEntry_spec (hv2 : Sound S mainnet (t₀ .addressBookV2))
    (hwf : ∀ e ∈ m, WellFormed S mainnet e) (hinj : ∀ x ∈ m, ∀ y ∈ m, x.id = y.id → x = y)
    (done : List NativeAddressBookEntry) {e : NativeAddressBookEntry} (he : e ∈ m) :
    TreeTriple reliable (Written t₀ m done) (migrateEntry S mainnet e)
      (OrStop (fun _ => Written t₀ m (done ++ [e]))
        fun error t => Stops S mainnet reliable m (t₀ .addressBookV2) error ∧
          Written t₀ m [] t) := by
  refine .of_forall fun t ht => ?_
  have hfail : ∀ kind, reliable = false → ∀ t₁, t₁ = t →
      Stops S mainnet reliable m (t₀ .addressBookV2) (.storageOperation kind) ∧
        Written t₀ m [] t₁ := by
    rintro kind h t₁ rfl
    exact ⟨.failed kind h, ht.forget⟩
  obtain ⟨t', rfl, hext, hdone⟩ := ht
  refine .bind (R := fun b t => t = Function.update t₀ .addressBookV2 t' ∧
    b = (t'.lookup (entryKey e.id)).isSome) (.has ?_ (hfail _)) ?_
  · rintro t rfl
    exact ⟨rfl, by rw [Function.update_self]⟩
  rintro (_ | _)
  case false =>
    refine .of_forall ?_
    rintro t ⟨rfl, hb⟩
    have hnone : t'.lookup (entryKey e.id) = none := by simpa using hb.symm
    refine .set ?_ (hfail _)
    rintro t rfl
    refine ⟨t'.insert (entryKey e.id) (encodeEntry e), ?_, hext.insert he hnone, ?_⟩
    · rw [Function.update_self, Function.update_idem]
    intro x hx
    obtain hx | hx := List.mem_append.mp hx
    · exact ((Extends.refl m t').insert he hnone).keeps _ _ (hdone x hx)
    · rw [List.mem_singleton.mp hx, AList.lookup_insert]
  case true =>
    refine .of_forall ?_
    rintro t ⟨rfl, hb⟩
    obtain ⟨v, hv⟩ := Option.isSome_iff_exists.mp hb.symm
    obtain ⟨e', rfl, hwf', hid, hold⟩ := hext.entry hv2 hinj hwf he hv
    refine .bind (R := fun v t => t = Function.update t₀ .addressBookV2 t' ∧ v = encodeEntry e')
      (.get ?_ (hfail _)) fun v => .of_forall ?_
    · rintro t rfl
      exact ⟨encodeEntry e', by rw [Function.update_self, hv], rfl, rfl⟩
    rintro t ⟨rfl, rfl⟩
    rw [← hid, decodeEntry_encodeEntry hwf']
    refine .bind (R := fun x t => t = Function.update t₀ .addressBookV2 t' ∧ x = e')
      (.lift fun t ht => ⟨ht, rfl⟩) fun x => .of_forall ?_
    rintro t ⟨rfl, rfl⟩
    refine .lift ?_
    rintro t rfl
    by_cases heq : x = e
    · rw [ensure, if_pos heq]
      refine ⟨t', rfl, hext, fun y hy => ?_⟩
      obtain hy | hy := List.mem_append.mp hy
      · exact hdone y hy
      · rw [List.mem_singleton.mp hy, hv, heq]
    · rw [ensure, if_neg heq]
      exact ⟨.conflict he hwf' hid heq (hold heq), t', rfl, hext, by simp⟩

lemma forEach_migrateEntry (hv2 : Sound S mainnet (t₀ .addressBookV2))
    (hwf : ∀ e ∈ m, WellFormed S mainnet e) (hinj : ∀ x ∈ m, ∀ y ∈ m, x.id = y.id → x = y)
    {values : List NativeAddressBookEntry} (hvalues : values.Perm m) :
    TreeTriple reliable (Written t₀ m []) (forEach values (migrateEntry S mainnet))
      (OrStop (fun _ => Written t₀ m m)
        fun error t => Stops S mainnet reliable m (t₀ .addressBookV2) error ∧
          Written t₀ m [] t) := by
  refine .forEach (Written t₀ m) (fun done e rest hsplit => ?_) ?_
  · have he : e ∈ m := hvalues.mem_iff.mp (by simp [hsplit])
    exact migrateEntry_spec hv2 hwf hinj done he
  · rintro t ⟨t', rfl, hext, hdone⟩
    exact ⟨t', rfl, hext, fun e he => hdone e (hvalues.mem_iff.mpr he)⟩

lemma migrateLegacy_spec (hS : AddressLaws S) (hv2 : Sound S mainnet (t₀ .addressBookV2))
    (hnone : (t₀ .addressBookV2).lookup migrationMarkerKey = none)
    {order : List NativeAddressBookEntry → List NativeAddressBookEntry}
    (horder : ∀ m, (order m).Perm m) : TreeTriple reliable (· = t₀) (migrateLegacy S mainnet order)
    (MigrationEnds S mainnet reliable t₀) := by
  unfold migrateLegacy
  refine .bind (R := fun l t => t = t₀ ∧ l = listing (t₀ .legacy)) (.query ?_ ?_) fun l =>
    .of_forall ?_
  · rintro t rfl
    exact ⟨rfl, rfl⟩
  · rintro h t rfl
    exact .unread _ h
  rintro t ⟨rfl, rfl⟩
  cases hm : collected S mainnet t with
  | error =>
    refine .bind (R := fun _ _ => False) (.lift ?_) fun m => .of_forall fun t h => h.elim
    rintro t rfl
    rw [← collected, hm]
    exact .rejected hnone hm
  | ok m =>
    have hcol : Collected S mainnet (listing (t .legacy)) m := collected_of_foldlM hm
    have hwf := hcol.wellFormed hS
    refine .bind (R := fun m' t₁ => t₁ = t ∧ m' = m) (.lift ?_) fun m' => .of_forall ?_
    · rintro t rfl
      rw [← collected, hm]
      exact ⟨rfl, rfl⟩
    rintro t₁ ⟨rfl, rfl⟩
    have hstop : ∀ error t,
        Stops S mainnet reliable m' (t₁ .addressBookV2) error ∧ Written t₁ m' [] t →
        MigrationEnds S mainnet reliable t₁ (.error error) t := by
      rintro error t ⟨hs, t', rfl, hext, -⟩
      exact .stopped hnone hm hext hs
    have hinit : ∀ t, t = t₁ → Written t₁ m' [] t := by
      rintro t rfl
      exact ⟨_, (Function.update_eq_self _ _).symm, .refl m' _, by simp⟩
    refine .bind (R := fun _ => Written t₁ m' m') (.mono (forEach_migrateEntry hv2 hwf
      (fun x hx y hy => hcol.inj hx hy) (horder m')) hinit fun r t h => ?_) fun _ => ?_
    · cases r with
      | ok => exact h
      | error error => exact hstop error t h
    refine .bind (R := fun _ t => Written t₁ m' m' t ∧ m'.length ≤ u32Max) (.lift ?_) fun _ =>
      .of_forall ?_
    · intro t ht
      by_cases hlen : m'.length ≤ u32Max
      · rw [ensure, if_pos hlen]
        exact ⟨ht, hlen⟩
      · rw [ensure, if_neg hlen]
        exact hstop _ t ⟨.overflow (Nat.lt_of_not_le hlen), ht.forget⟩
    rintro t ⟨ht, hlen⟩
    refine .bind (R := fun _ t₂ => MigrationEnds S mainnet reliable t₁
      (.ok ⟨UInt32.ofNat m'.length, false⟩) t₂) (.set ?_ ?_) fun _ => .pure fun _ h => h
    · rintro _ rfl
      obtain ⟨t', rfl, hext, hall⟩ := ht
      rw [Function.update_self, Function.update_idem]
      exact .completed hnone hm hext hall hlen
    · rintro h _ rfl
      exact hstop _ _ ⟨.failed _ h, ht.forget⟩

/-- **How a run of the migration ends**, from any tree of entries. -/
theorem migrateAddressBookV2_spec (hS : AddressLaws S) (hv2 : Sound S mainnet (t₀ .addressBookV2))
    {order : List NativeAddressBookEntry → List NativeAddressBookEntry}
    (horder : ∀ m, (order m).Perm m) : TreeTriple reliable (· = t₀)
    (migrateAddressBookV2 S mainnet order) (MigrationEnds S mainnet reliable t₀) := by
  have hfail : ∀ kind, reliable = false → ∀ t, t = t₀ →
      MigrationEnds S mainnet reliable t₀ (.error (.storageOperation kind)) t := by
    rintro kind h t rfl
    exact .unread kind h
  refine .bind (R := fun b t => t = t₀ ∧
    b = ((t₀ .addressBookV2).lookup migrationMarkerKey).isSome) (.has ?_ (hfail _)) ?_
  · rintro t rfl
    exact ⟨rfl, rfl⟩
  rintro (_ | _)
  case false =>
    refine .of_forall ?_
    rintro t ⟨rfl, hb⟩
    exact migrateLegacy_spec hS hv2 (by simpa using hb.symm) horder
  case true =>
    refine .of_forall ?_
    rintro t ⟨rfl, hb⟩
    obtain ⟨v, hv⟩ := Option.isSome_iff_exists.mp hb.symm
    obtain ⟨n, rfl⟩ := hv2.marker hv
    refine .bind (R := fun v t₁ => t₁ = t ∧ v = encodeMarker n) (.get ?_ (hfail _)) fun v =>
      .of_forall ?_
    · rintro t rfl
      exact ⟨_, hv, rfl, rfl⟩
    rintro t ⟨rfl, rfl⟩
    rw [decodeMarker_encodeMarker]
    refine .bind (R := fun k t₁ => t₁ = t ∧ k = n) (.lift fun t ht => ⟨ht, rfl⟩) fun k => .pure ?_
    rintro t ⟨rfl, rfl⟩
    exact .already hv

end Run

/-! ### What a run leaves as it is, whatever the trees hold -/

section Unchanged

variable {t₀ : Trees} {order : List NativeAddressBookEntry → List NativeAddressBookEntry}

lemma keeps_legacy {l : Tree} :
    Keeps reliable (fun t => t .legacy = l) (migrateAddressBookV2 S mainnet order) := by
  have hset : ∀ k v, ∀ t : Trees, t .legacy = l →
      Function.update t .addressBookV2 ((t .addressBookV2).insert k v) .legacy = l := by
    intro k v t ht
    rw [Function.update_of_ne (by decide), ht]
  have hentry : ∀ e, Keeps reliable (fun t => t .legacy = l) (migrateEntry S mainnet e) := by
    intro e
    refine .bind .has ?_
    rintro (_ | _)
    case false => exact .set (hset _ _)
    case true => exact .bind .get fun _ => .bind (.lift _) fun _ => .lift _
  refine .bind .has ?_
  rintro (_ | _)
  case false =>
    exact .bind .query fun _ => .bind (.lift _) fun _ => .bind (.forEach hentry) fun _ =>
      .bind (.lift _) fun _ => .bind (.set (hset _ _)) fun _ => .lift (.ok _)
  case true => exact .bind .get fun _ => .bind (.lift _) fun _ => .lift (.ok _)

/-- A run writes nothing once the marker is there, or if the older tree is rejected. -/
lemma migrateAddressBookV2_unchanged
    (h : ((t₀ .addressBookV2).lookup migrationMarkerKey).isSome ∨
      ∃ e, collected S mainnet t₀ = .error e) :
    Keeps reliable (· = t₀) (migrateAddressBookV2 S mainnet order) := by
  refine TreeTriple.bind (R := fun b t => t = t₀ ∧
    b = ((t₀ .addressBookV2).lookup migrationMarkerKey).isSome) (.has ?_ fun _ _ h => h) ?_
  · rintro t rfl
    exact ⟨rfl, rfl⟩
  rintro (_ | _)
  case true =>
    refine .of_forall ?_
    rintro t ⟨rfl, -⟩
    exact Keeps.bind .get fun _ => .bind (.lift _) fun _ => .lift (.ok _)
  case false =>
    refine .of_forall ?_
    rintro t ⟨rfl, hb⟩
    obtain ⟨e, he⟩ := h.resolve_left (by simp [← hb])
    refine .bind (R := fun l t₁ => t₁ = t ∧ l = listing (t .legacy)) (.query ?_ fun _ _ h => h)
      fun l => .of_forall ?_
    · rintro t rfl
      exact ⟨rfl, rfl⟩
    rintro t ⟨rfl, rfl⟩
    refine .bind (R := fun _ _ => False) (.lift ?_) fun m => .of_forall fun t h => h.elim
    rintro t rfl
    rw [← collected, he]
    rfl

end Unchanged

end XelisWallet.AddressBook
