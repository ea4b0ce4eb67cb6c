import XelisWallet.AddressBookRestarts
import XelisWallet.Runs

/-!
The address book over whole sequences of calls.

The tree of the entries is a state machine: every call goes through the migration and then reads,
writes or removes one entry, and the storage may stop it anywhere. What is in the tree is always the
encoding of entries under their own ids, so reading it never fails for what is stored.
-/

namespace XelisWallet.AddressBook

open Fallible Text NativeError Programs Runs

variable {A K N : Type} {S : Suite A K N} {mainnet reliable : Bool}
  {order : List NativeAddressBookEntry → List NativeAddressBookEntry}

/-! ### Calls -/

inductive Call (N : Type)
  | migrate
  | list (query : Option String) (skip : ℕ) (take : Option ℕ)
  | upsert (address displayName : String) (destinationLabel note : Option String)
  | remove (entryId : String)
  | find (entryId : String)
  | matchAddress (address : String)
  | matchDestination (baseAddress : String) (integratedData : Option N)

inductive Reply
  | migrated (result : NativeAddressBookMigrationResult)
  | page (page : NativeAddressBookPage)
  | entry (entry : NativeAddressBookEntry)
  | removed
  | matched (found : NativeAddressBookMatch)

def Call.run (S : Suite A K N) (mainnet : Bool)
    (order : List NativeAddressBookEntry → List NativeAddressBookEntry) : Call N → DbM Reply
  | .migrate => do return .migrated (← migrateAddressBookV2 S mainnet order)
  | .list query skip take => do
    return .page (← listAddressBookEntriesV2 S mainnet order query skip take)
  | .upsert address displayName destinationLabel note => do
    return .entry
      (← upsertAddressBookEntryV2 S mainnet order address displayName destinationLabel note)
  | .remove entryId => do
    removeAddressBookEntryV2 S mainnet order entryId
    return .removed
  | .find entryId => do return .entry (← findAddressBookEntryV2 S mainnet order entryId)
  | .matchAddress address => do
    return .matched (← matchAddressBookAddressV2 S mainnet order address)
  | .matchDestination baseAddress integratedData => do
    return .matched (← matchAddressBookDestinationV2 S mainnet order baseAddress integratedData)

/-- The calls that only look at the entries. -/
def Call.Reads : Call N → Prop
  | .list .. | .find _ | .matchAddress _ | .matchDestination .. => True
  | _ => False

/-- The call upserts or removes the canonical address of `e`. -/
def Call.Touches (S : Suite A K N) (mainnet : Bool) (e : NativeAddressBookEntry) : Call N → Prop
  | .upsert address _ _ _ =>
    ∃ d, canonicalDestination S address mainnet = .ok d ∧ d.address = e.destination.address
  | .remove entryId => entryId = e.id
  | _ => False

/-- The reply of a call on the tree `v2`. -/
def Env.reply (S : Suite A K N) (mainnet : Bool) (env : Env) (c : Call N) (v2 : Tree) :
    Except NativeXelisError Reply :=
  (env.exec (c.run S mainnet env.order) v2).1

/-- The tree after a call. -/
def Env.after (S : Suite A K N) (mainnet : Bool) (env : Env) (c : Call N) (v2 : Tree) : Tree :=
  (env.exec (c.run S mainnet env.order) v2).2.trees .addressBookV2

/-- Calls on an address book that was empty. -/
def calling (S : Suite A K N) (mainnet : Bool) : System Tree (Env × Call N) where
  init v2 := v2 = ∅
  step v2 l v2' := v2' = l.1.after S mainnet l.2 v2

/-- Ids have 64 hexadecimal digits, and different addresses have different ids. -/
structure IdLaws (S : Suite A K N) : Prop where
  isHex : ∀ a, JsonText.IsHex 64 (S.entryId (S.address.toText a))
  noCollision : ∀ a b, S.entryId (S.address.toText a) = S.entryId (S.address.toText b) →
    S.address.toText a = S.address.toText b

lemma Call.keeps {I : Trees → Prop} (c : Call N)
    (hmigrate : Keeps reliable I (migrateAddressBookV2 S mainnet order))
    (hset : ∀ address name label note e, c = .upsert address name label note →
      normalizeEntry S address name label note mainnet = .ok e → ∀ t, I t →
      I (Function.update t .addressBookV2
        ((t .addressBookV2).insert (entryKey e.id) (encodeEntry e))))
    (hdelete : ∀ id, c = .remove id → ∀ t, I t →
      I (Function.update t .addressBookV2 ((t .addressBookV2).erase (entryKey id)))) :
    Keeps reliable I (c.run S mainnet order) := by
  have hread : Keeps reliable I (readV2Entries S mainnet) :=
    .bind .query fun _ => .bind (.lift _) fun _ => .lift (.ok _)
  cases c with
  | migrate => exact .bind hmigrate fun _ => .lift (.ok _)
  | list =>
    exact .bind (.bind hmigrate fun _ => .bind (.lift _) fun _ => .bind (.lift _) fun _ =>
      .bind hread fun _ => .bind (.lift _) fun _ => .lift (.ok _)) fun _ => .lift (.ok _)
  | upsert address name label note =>
    exact .bind (.bind hmigrate fun _ => .lift_bind fun e he =>
      .bind (.set (hset address name label note e rfl he)) fun _ => .lift (.ok _))
      fun _ => .lift (.ok _)
  | remove id =>
    exact .bind (.bind hmigrate fun _ => .bind (.lift _) fun _ => .bind .has fun _ =>
      .bind (.lift _) fun _ => .delete (hdelete id rfl)) fun _ => .lift (.ok _)
  | find =>
    exact .bind (.bind hmigrate fun _ => .bind (.lift _) fun _ => .bind .has fun _ =>
      .bind (.lift _) fun _ => .bind .get fun _ => .lift _) fun _ => .lift (.ok _)
  | matchAddress | matchDestination =>
    exact .bind (.bind hmigrate fun _ => .bind (.lift _) fun _ =>
      .bind hread fun _ => .lift (.ok _)) fun _ => .lift (.ok _)

/-! ### The tree stays sound -/

variable {t₀ t : Trees} {e : NativeAddressBookEntry}

lemma MigrationEnds.sound (hS : AddressLaws S)
    {r : Except NativeXelisError NativeAddressBookMigrationResult}
    (h : MigrationEnds S mainnet reliable t₀ r t) (ht : Sound S mainnet (t₀ .addressBookV2)) :
    Sound S mainnet (t .addressBookV2) := by
  cases h with
  | unread | already | rejected => exact ht
  | stopped _ hcol hext _ =>
    rw [Function.update_self]
    exact hext.sound ((collected_of_foldlM hcol).wellFormed hS) ht
  | completed _ hcol hext _ _ =>
    rw [Function.update_self]
    exact (hext.sound ((collected_of_foldlM hcol).wellFormed hS) ht).insert (.inl ⟨rfl, _, rfl⟩)

lemma MigrationEnds.marker {r : NativeAddressBookMigrationResult}
    (h : MigrationEnds S mainnet reliable t₀ (.ok r) t) :
    (t .addressBookV2).lookup migrationMarkerKey ≠ none := by
  cases h with
  | already hmark => simp [hmark]
  | completed => simp [AList.lookup_insert]

lemma keeps_sound (hS : AddressLaws S) (horder : ∀ m, (order m).Perm m) (c : Call N) :
    Keeps reliable (fun t => Sound S mainnet (t .addressBookV2)) (c.run S mainnet order) := by
  refine c.keeps ?_ ?_ ?_
  · exact TreeTriple.of_forall fun t ht =>
      (migrateAddressBookV2_spec hS ht horder).mono (fun _ h => h) fun r t' h => h.sound hS ht
  · intro address name label note e _ he t ht
    rw [Function.update_self]
    exact ht.insert (.inr ⟨e, wellFormed_of_normalizeEntry hS he, rfl, rfl⟩)
  · intro id _ t ht
    rw [Function.update_self]
    exact ht.erase _

lemma sound_of_reachable (hS : AddressLaws S) {v2 : Tree} (h : Reachable (calling S mainnet) v2) :
    Sound S mainnet v2 := by
  refine h.invariant ?_ ?_
  · rintro _ rfl
    exact sound_empty
  · rintro v2 ⟨env, c⟩ _ - hv2 rfl
    exact env.exec_spec (keeps_sound hS env.order_perm c) hv2

/-! ### A stored entry stays -/

/-- The migration is over, and the entry is in the tree. -/
structure Stored (S : Suite A K N) (mainnet : Bool) (e : NativeAddressBookEntry) (t : Tree) :
    Prop where
  sound : Sound S mainnet t
  marker : t.lookup migrationMarkerKey ≠ none
  entry : t.lookup (entryKey e.id) = some (encodeEntry e)

lemma Stored.insert {e' : NativeAddressBookEntry} {t : Tree} (h : Stored S mainnet e t)
    (he' : WellFormed S mainnet e') (hne : e'.id ≠ e.id) :
    Stored S mainnet e (t.insert (entryKey e'.id) (encodeEntry e')) where
  sound := h.sound.insert (.inr ⟨e', he', rfl, rfl⟩)
  marker := by
    rw [AList.lookup_insert_ne (entryKey_ne_marker e'.id).symm]
    exact h.marker
  entry := by
    rw [AList.lookup_insert_ne fun hk => hne (entryKey_inj.mp hk).symm]
    exact h.entry

lemma Stored.erase {id : String} {t : Tree} (h : Stored S mainnet e t) (hne : id ≠ e.id) :
    Stored S mainnet e (t.erase (entryKey id)) where
  sound := h.sound.erase _
  marker := by
    rw [AList.lookup_erase_ne (entryKey_ne_marker id).symm]
    exact h.marker
  entry := by
    rw [AList.lookup_erase_ne fun hk => hne (entryKey_inj.mp hk).symm]
    exact h.entry

lemma canonicalDestination_toText {address : String} {d : CanonicalDestination}
    (h : canonicalDestination S address mainnet = .ok d) : ∃ a, d.address = S.address.toText a := by
  obtain ⟨-, a, -, -, rfl⟩ := canonicalDestination_eq_ok.mp h
  exact ⟨a, rfl⟩

lemma WellFormed.toText (he : WellFormed S mainnet e) :
    ∃ a, e.destination.address = S.address.toText a := by
  obtain ⟨d, hd, heq, -⟩ := normalizeEntry_destination he
  rw [heq]
  exact canonicalDestination_toText hd

lemma Stored.keeps (hS : AddressLaws S) (hid : IdLaws S) (he : WellFormed S mainnet e) {c : Call N}
    (hc : ¬ c.Touches S mainnet e) :
    Keeps reliable (fun t => Stored S mainnet e (t .addressBookV2)) (c.run S mainnet order) := by
  refine c.keeps ?_ ?_ ?_
  · refine TreeTriple.of_forall fun t ht => ?_
    refine (migrateAddressBookV2_unchanged (.inl ?_)).mono (fun _ h => h) ?_
    · exact Option.isSome_iff_ne_none.mpr ht.marker
    · rintro r _ rfl
      exact ht
  · rintro address name label note e' rfl he' t ht
    rw [Function.update_self]
    refine ht.insert (wellFormed_of_normalizeEntry hS he') fun hid' => hc ?_
    obtain ⟨d, hd, -, hide⟩ := normalizeEntry_destination he'
    obtain ⟨a, ha⟩ := canonicalDestination_toText hd
    obtain ⟨b, hb⟩ := he.toText
    rw [hide, he.id_eq, ha, hb] at hid'
    refine ⟨d, hd, ?_⟩
    rw [ha, hb]
    exact hid.noCollision a b hid'
  · rintro id rfl t ht
    rw [Function.update_self]
    exact ht.erase hc

/-- The result of a storage that fails, when it may. -/
def Failed {α : Type} (reliable : Bool) (r : Except NativeXelisError α) : Prop :=
  reliable = false ∧ ∃ kind, r = .error (.storageOperation kind)

lemma MigrationEnds.of_marker {r : Except NativeXelisError NativeAddressBookMigrationResult}
    (h : MigrationEnds S mainnet reliable t₀ r t)
    (hmark : (t₀ .addressBookV2).lookup migrationMarkerKey ≠ none) :
    t = t₀ ∧ ((∃ a, r = .ok a) ∨ Failed reliable r) := by
  cases h with
  | unread kind hfail => exact ⟨rfl, .inr ⟨hfail, kind, rfl⟩⟩
  | already => exact ⟨rfl, .inl ⟨_, rfl⟩⟩
  | rejected hnone | stopped hnone | completed hnone => exact absurd hnone hmark

section Entry

variable {e : NativeAddressBookEntry}

lemma Sound.stored {t : Tree} (ht : Sound S mainnet t) (hmark : t.lookup migrationMarkerKey ≠ none)
    (he : WellFormed S mainnet e) :
    Stored S mainnet e (t.insert (entryKey e.id) (encodeEntry e)) where
  sound := ht.insert (.inr ⟨e, he, rfl, rfl⟩)
  marker := by rwa [AList.lookup_insert_ne (entryKey_ne_marker e.id).symm]
  entry := AList.lookup_insert t

lemma upsert_spec (hS : AddressLaws S) (horder : ∀ m, (order m).Perm m)
    (address name : String) (label note : Option String) :
    TreeTriple reliable (fun t => Sound S mainnet (t .addressBookV2))
      (upsertAddressBookEntryV2 S mainnet order address name label note)
      (OrStop (fun e t => normalizeEntry S address name label note mainnet = .ok e ∧
        Stored S mainnet e (t .addressBookV2)) fun _ _ => True) := by
  refine .of_forall fun t₀ ht₀ => ?_
  refine .bind (R := fun _ t => Sound S mainnet (t .addressBookV2) ∧
    (t .addressBookV2).lookup migrationMarkerKey ≠ none) ?_ fun _ => ?_
  · refine (migrateAddressBookV2_spec hS ht₀ horder).mono (fun _ h => h) fun r t h => ?_
    cases r with
    | error => trivial
    | ok => exact ⟨h.sound hS ht₀, h.marker⟩
  refine .bind (R := fun e t => normalizeEntry S address name label note mainnet = .ok e ∧
    Sound S mainnet (t .addressBookV2) ∧ (t .addressBookV2).lookup migrationMarkerKey ≠ none)
    (.lift fun t ht => ?_) fun e => ?_
  · cases normalizeEntry S address name label note mainnet with
    | error => trivial
    | ok => exact ⟨rfl, ht⟩
  refine .bind (R := fun _ t => normalizeEntry S address name label note mainnet = .ok e ∧
    Stored S mainnet e (t .addressBookV2)) (.set ?_ fun _ _ _ => trivial) fun _ =>
    .pure fun _ h => h
  rintro t ⟨he, ht, hmark⟩
  refine ⟨he, ?_⟩
  rw [Function.update_self]
  exact ht.stored hmark (wellFormed_of_normalizeEntry hS he)

lemma validateEntryId_of_isHex {id : String} (h : JsonText.IsHex 64 id) :
    validateEntryId id = .ok () := by
  have hdigits : "0123456789abcdef".toList.all fun c =>
      c.isDigit || ('a' ≤ c && c ≤ 'f') := by decide
  refine ensure_eq_ok.mpr ⟨?_, List.all_eq_true.mpr fun c hc => ?_⟩
  · rw [← String.utf8Len_toList, (JsonText.utf8Len_of_hex h.2).2, h.1]
  · exact List.all_eq_true.mp hdigits c (h.2 c hc)

lemma WellFormed.validId (hid : IdLaws S) (he : WellFormed S mainnet e) :
    validateEntryId e.id = .ok () := by
  obtain ⟨a, ha⟩ := he.toText
  rw [he.id_eq, ha]
  exact validateEntryId_of_isHex (hid.isHex a)

lemma find_spec (hS : AddressLaws S) (hid : IdLaws S) (horder : ∀ m, (order m).Perm m)
    (he : WellFormed S mainnet e) :
    TreeTriple reliable (fun t => Stored S mainnet e (t .addressBookV2))
      (findAddressBookEntryV2 S mainnet order e.id) fun r _ => r = .ok e ∨ Failed reliable r := by
  refine .of_forall fun t₀ ht₀ => ?_
  refine .bind (R := fun _ t => Stored S mainnet e (t .addressBookV2)) ?_ fun _ => ?_
  · refine (migrateAddressBookV2_spec hS ht₀.sound horder).mono (fun _ h => h) fun r t h => ?_
    obtain ⟨rfl, ⟨a, rfl⟩ | ⟨hf, kind, rfl⟩⟩ := h.of_marker ht₀.marker
    · exact ht₀
    · exact .inr ⟨hf, kind, rfl⟩
  rw [he.validId hid]
  refine .bind (R := fun _ t => Stored S mainnet e (t .addressBookV2)) (.lift fun _ h => h)
    fun _ => ?_
  refine .bind (R := fun b t => b = true ∧ Stored S mainnet e (t .addressBookV2))
    (.has (fun t ht => ⟨by rw [ht.entry]; rfl, ht⟩) fun hf _ _ => .inr ⟨hf, _, rfl⟩) fun b => ?_
  refine .bind (R := fun _ t => Stored S mainnet e (t .addressBookV2)) (.lift ?_) fun _ => ?_
  · rintro t ⟨rfl, ht⟩
    exact ht
  refine .bind (R := fun v _ => v = encodeEntry e)
    (.get (fun t ht => ⟨_, ht.entry, rfl⟩) fun hf _ _ => .inr ⟨hf, _, rfl⟩) fun v => .lift ?_
  rintro t rfl
  exact .inl (decodeEntry_encodeEntry he)

end Entry

/-! ### Reading the entries does not fail for what is stored -/

def IsSerialization : NativeXelisError → Prop
  | .flutter .serialization _ _ => True
  | _ => False

section Errors

variable {error : NativeXelisError}

lemma normalizeOptional_error {value : Option String} {max : ℕ} {kind message : String}
    (h : normalizeOptional value max kind message = .error error) : ¬ IsSerialization error := by
  cases value with
  | none => cases h
  | some =>
    simp only [normalizeOptional] at h
    split at h
    case isTrue => cases h
    case isFalse =>
      simp only [bind_eq_error, ensure_eq_error] at h
      obtain ⟨-, rfl⟩ | ⟨-, -, h⟩ := h
      · exact id
      · cases h

lemma canonicalDestination_error {address : String}
    (h : canonicalDestination S address mainnet = .error error) : ¬ IsSerialization error := by
  simp only [canonicalDestination, bind_eq_error, ensure_eq_error, context_eq_error] at h
  obtain ⟨-, rfl⟩ | ⟨_, -, ⟨-, rfl⟩ | ⟨_, -, ⟨-, rfl⟩ | ⟨_, -, h⟩⟩⟩ := h
  · exact id
  · exact id
  · exact id
  · cases h

lemma canonicalDestinationFromParts_error {base : String} {data : Option N}
    (h : canonicalDestinationFromParts S base data mainnet = .error error) :
    ¬ IsSerialization error := by
  simp only [canonicalDestinationFromParts, bind_eq_error, ensure_eq_error] at h
  obtain h | ⟨d, -, ⟨-, rfl⟩ | ⟨-, -, h⟩⟩ := h
  · exact canonicalDestination_error h
  · exact id
  cases data with
  | none => cases h
  | some data =>
    simp only [bind_eq_error, context_eq_error] at h
    obtain h | ⟨x, -, ⟨-, rfl⟩ | ⟨a, -, h⟩⟩ := h
    · cases hx : S.intoXelis data with
      | error =>
        rw [hx] at h
        cases h
        exact id
      | ok =>
        rw [hx] at h
        cases h
    · exact id
    · exact canonicalDestination_error h

end Errors

lemma readEntry_marker (v : DataElement) : readEntry S mainnet migrationMarkerKey v = .ok none := by
  simp [readEntry, migrationMarkerKey, pure, Except.pure]

lemma readEntry_entry (hid : IdLaws S) (he : WellFormed S mainnet e) :
    readEntry S mainnet (entryKey e.id) (encodeEntry e) = .ok (some e) := by
  have hne : DataValue.string ("entry:" ++ e.id) ≠ migrationMarkerKey := entryKey_ne_marker e.id
  have hstrip : "entry:".toList <+: ("entry:" ++ e.id).toList := by
    rw [String.toList_append]
    exact List.prefix_append _ _
  have hdrop : String.ofList (("entry:" ++ e.id).toList.drop "entry:".length) = e.id := by
    rw [String.toList_append, ← String.length_toList, List.drop_left, String.ofList_toList]
  simp only [readEntry, entryKey, if_neg hne, if_pos hstrip, hdrop, bind_eq_ok, context_eq_ok,
    pure_eq_ok]
  exact ⟨e.id, rfl, (), he.validId hid, e, decodeEntry_encodeEntry he, rfl⟩

lemma Sound.readEntry (hid : IdLaws S) {t : Tree} (ht : Sound S mainnet t) {k : DataValue}
    {v : DataElement} (hk : t.lookup k = some v) : ∃ o, readEntry S mainnet k v = .ok o := by
  obtain ⟨rfl, -⟩ | ⟨e, he, rfl, rfl⟩ := ht k v hk
  · exact ⟨none, readEntry_marker v⟩
  · exact ⟨some e, readEntry_entry hid he⟩

lemma readV2Entries_triple (hid : IdLaws S) :
    TreeTriple reliable (fun t => Sound S mainnet (t .addressBookV2)) (readV2Entries S mainnet)
      (OrStop (fun es t => Sound S mainnet (t .addressBookV2) ∧
        ∃ os, (listing (t .addressBookV2)).mapM (fun p => readEntry S mainnet p.1 p.2) = .ok os ∧
          es = (os.filterMap id).mergeSort (listedBefore S))
        fun error _ => reliable = false ∧ ∃ kind, error = .storageOperation kind) := by
  refine TreeTriple.bind (R := fun l t => Sound S mainnet (t .addressBookV2) ∧
    l = listing (t .addressBookV2)) (.query (fun _ ht => ⟨ht, rfl⟩) fun h _ _ => ⟨h, _, rfl⟩)
    fun l => .of_forall ?_
  rintro t₀ ⟨ht, rfl⟩
  have hread : ∀ p ∈ listing (t₀ .addressBookV2), ∃ o, readEntry S mainnet p.1 p.2 = .ok o := by
    intro p hp
    obtain ⟨⟨k, v⟩, hkv, rfl⟩ := List.mem_map.mp hp
    exact ht.readEntry hid (AList.mem_lookup_iff.mpr hkv)
  obtain ⟨os, hos⟩ := exists_forall₂ hread
  have hos := mapM_eq_ok.mpr hos
  rw [hos]
  refine .bind (R := fun x t => x = os ∧ t = t₀) (.lift fun _ h => ⟨rfl, h⟩) fun x => .pure ?_
  rintro t ⟨rfl, rfl⟩
  exact ⟨ht, x, hos, rfl⟩

/-- The computation keeps a sound tree sound, and its errors are not errors of serialization. -/
def Serves {α : Type} (S : Suite A K N) (mainnet reliable : Bool) (m : DbM α) : Prop :=
  TreeTriple reliable (fun t => Sound S mainnet (t .addressBookV2)) m
    (OrStop (fun _ t => Sound S mainnet (t .addressBookV2)) fun error _ => ¬ IsSerialization error)

namespace Serves

variable {α β : Type}

lemma bind {m : DbM α} {f : α → DbM β} (hm : Serves S mainnet reliable m)
    (hf : ∀ a, Serves S mainnet reliable (f a)) : Serves S mainnet reliable (m >>= f) :=
  TreeTriple.bind hm hf

lemma lift {x : Except NativeXelisError α}
    (hx : ∀ error, x = .error error → ¬ IsSerialization error) :
    Serves S mainnet reliable (Programs.lift x) := by
  refine TreeTriple.lift fun t ht => ?_
  cases x with
  | error error => exact hx error rfl
  | ok => exact ht

lemma ensure {c : Prop} [Decidable c] {error : NativeXelisError} (h : ¬ IsSerialization error) :
    Serves S mainnet reliable (Programs.lift (ensure c error)) :=
  lift fun _ he => (ensure_eq_error.mp he).2 ▸ h

lemma readV2Entries (hid : IdLaws S) : Serves S mainnet reliable (readV2Entries S mainnet) := by
  refine (readV2Entries_triple hid).mono (fun _ h => h) fun r t h => ?_
  cases r with
  | ok => exact h.1
  | error =>
    obtain ⟨-, kind, rfl⟩ := h
    exact id

end Serves

/-- The errors a call that only looks at the entries may return: an error of serialization is one
for which the older tree is rejected. -/
def Excused (S : Suite A K N) (mainnet : Bool) (t₀ : Trees) (error : NativeXelisError) : Prop :=
  IsSerialization error → (t₀ .addressBookV2).lookup migrationMarkerKey = none ∧
    collected S mainnet t₀ = .error error

section Reads

variable {α : Type} {t₀ : Trees}

lemma MigrationEnds.excused {t : Trees} {error : NativeXelisError}
    (h : MigrationEnds S mainnet reliable t₀ (.error error) t) : Excused S mainnet t₀ error := by
  cases h with
  | unread => exact fun h => h.elim
  | rejected hnone hcol => exact fun _ => ⟨hnone, hcol⟩
  | stopped _ _ _ hstop =>
    cases hstop with
    | failed | conflict | overflow => exact fun h => h.elim

lemma excused_of_serves (hS : AddressLaws S) (horder : ∀ m, (order m).Perm m)
    (ht₀ : Sound S mainnet (t₀ .addressBookV2))
    {f : NativeAddressBookMigrationResult → DbM α} (hf : ∀ r, Serves S mainnet reliable (f r)) :
    TreeTriple reliable (· = t₀) (migrateAddressBookV2 S mainnet order >>= f)
      (OrStop (fun _ _ => True) fun error _ => Excused S mainnet t₀ error) := by
  refine .bind (R := fun _ t => Sound S mainnet (t .addressBookV2)) ?_ fun r => ?_
  · refine (migrateAddressBookV2_spec hS ht₀ horder).mono (fun _ h => h) fun r t h => ?_
    cases r with
    | error => exact h.excused
    | ok => exact h.sound hS ht₀
  · refine (hf r).mono (fun _ h => h) fun r t h => ?_
    cases r with
    | error => exact fun hser => absurd hser h
    | ok => trivial

lemma excused_find (hS : AddressLaws S) (horder : ∀ m, (order m).Perm m)
    (ht₀ : Sound S mainnet (t₀ .addressBookV2)) (entryId : String) :
    TreeTriple reliable (· = t₀) (findAddressBookEntryV2 S mainnet order entryId)
      (OrStop (fun _ _ => True) fun error _ => Excused S mainnet t₀ error) := by
  refine excused_of_serves hS horder ht₀ fun _ => .bind (.ensure id) fun _ =>
    TreeTriple.bind (R := fun b t => Sound S mainnet (t .addressBookV2) ∧
      b = ((t .addressBookV2).lookup (entryKey entryId)).isSome)
      (.has (fun _ ht => ⟨ht, rfl⟩) fun _ _ _ => id) fun b => .of_forall ?_
  rintro t ⟨ht, rfl⟩
  cases hv : (t .addressBookV2).lookup (entryKey entryId) with
  | none => exact fun db hdb => ⟨hdb.1, id⟩
  | some v =>
    obtain ⟨e, he, rfl, rfl⟩ := ht.entry hv
    refine .bind (R := fun _ t' => t' = t) (.lift fun _ h => h) fun _ =>
      .bind (R := fun v t' => t' = t ∧ v = encodeEntry e) (.get ?_ fun _ _ _ => id) fun v =>
        .lift ?_
    · rintro t rfl
      exact ⟨_, hv, rfl, rfl⟩
    · rintro t ⟨rfl, rfl⟩
      rwa [decodeEntry_encodeEntry he]

/-- **Reading calls**: only the older tree makes them fail with an error of serialization. -/
lemma Call.excused (hS : AddressLaws S) (hid : IdLaws S) (horder : ∀ m, (order m).Perm m)
    (ht₀ : Sound S mainnet (t₀ .addressBookV2)) {c : Call N} (hc : c.Reads) :
    TreeTriple reliable (· = t₀) (c.run S mainnet order)
      (OrStop (fun _ _ => True) fun error _ => Excused S mainnet t₀ error) := by
  cases c with
  | migrate | upsert | remove => exact hc.elim
  | list query skip take =>
    exact .bind (R := fun _ _ => True) (excused_of_serves hS horder ht₀ fun _ =>
      .bind (.ensure id) fun _ => .bind (.lift fun _ => normalizeOptional_error) fun _ =>
      .bind (.readV2Entries hid) fun _ => .bind (.ensure id) fun _ => .lift fun _ h => by cases h)
      fun _ => .pure fun _ _ => trivial
  | find entryId =>
    exact .bind (R := fun _ _ => True) (excused_find hS horder ht₀ entryId)
      fun _ => .pure fun _ _ => trivial
  | matchAddress address =>
    exact .bind (R := fun _ _ => True) (excused_of_serves hS horder ht₀ fun _ =>
      .bind (.lift fun _ => canonicalDestination_error) fun _ =>
      .bind (.readV2Entries hid) fun _ => .lift fun _ h => by cases h)
      fun _ => .pure fun _ _ => trivial
  | matchDestination base data =>
    exact .bind (R := fun _ _ => True) (excused_of_serves hS horder ht₀ fun _ =>
      .bind (.lift fun _ => canonicalDestinationFromParts_error) fun _ =>
      .bind (.readV2Entries hid) fun _ => .lift fun _ h => by cases h)
      fun _ => .pure fun _ _ => trivial

end Reads

/-! ### Whole sequences of calls -/

section Sequences

variable {v2 : Tree} {e : NativeAddressBookEntry}

lemma Env.stored_of_upsert (hS : AddressLaws S) {env : Env} (hv2 : Sound S mainnet v2)
    {address name : String} {label note : Option String}
    (h : env.reply S mainnet (.upsert address name label note) v2 = .ok (.entry e)) :
    normalizeEntry S address name label note mainnet = .ok e ∧
      Stored S mainnet e (env.after S mainnet (.upsert address name label note) v2) := by
  have hspec : TreeTriple env.budget.isNone (fun t => Sound S mainnet (t .addressBookV2))
      ((Call.upsert address name label note).run S mainnet env.order)
      (OrStop (fun r t => ∀ e, r = .entry e →
        normalizeEntry S address name label note mainnet = .ok e ∧
        Stored S mainnet e (t .addressBookV2)) fun _ _ => True) := by
    refine .bind (upsert_spec hS env.order_perm address name label note) fun e => .pure ?_
    rintro t ht e' heq
    cases heq
    exact ht
  have hout := env.exec_spec hspec hv2
  rw [Env.reply] at h
  rw [h] at hout
  exact hout e rfl

lemma Stored.run (hS : AddressLaws S) (hid : IdLaws S) (he : WellFormed S mainnet e) {v2' : Tree}
    {calls : List (Env × Call N)} (hrun : Run (calling S mainnet) v2 calls v2')
    (h : Stored S mainnet e v2) (hcalls : ∀ l ∈ calls, ¬ l.2.Touches S mainnet e) :
    Stored S mainnet e v2' := by
  refine hrun.history
    (P := fun ls t => (∀ l ∈ ls, ¬ l.2.Touches S mainnet e) → Stored S mainnet e t)
    (fun _ => h) ?_ hcalls
  rintro ls t ⟨env, c⟩ _ - ih rfl hls
  have ht := ih fun l hl => hls l (List.mem_append_left _ hl)
  exact env.exec_spec (Stored.keeps hS hid he (hls _ (by simp))) ht

lemma Stored.find (hS : AddressLaws S) (hid : IdLaws S) (he : WellFormed S mainnet e)
    (h : Stored S mainnet e v2) (env : Env) :
    env.reply S mainnet (.find e.id) v2 = .ok (.entry e) ∨
      Failed env.budget.isNone (env.reply S mainnet (.find e.id) v2) := by
  have hspec : TreeTriple env.budget.isNone (fun t => Stored S mainnet e (t .addressBookV2))
      ((Call.find e.id).run S mainnet env.order)
      fun r _ => r = .ok (.entry e) ∨ Failed env.budget.isNone r := by
    refine .bind (R := fun e' _ => e' = e) ?_ fun e' => .pure ?_
    · refine (find_spec hS hid env.order_perm he).mono (fun _ h => h) ?_
      rintro r t (rfl | ⟨hf, kind, rfl⟩)
      · rfl
      · exact .inr ⟨hf, kind, rfl⟩
    · rintro t rfl
      exact .inl rfl
  exact env.exec_spec hspec h

end Sequences

/-- Ids of one letter each. -/
lemma IdLaws.of_letter (letter : String → Char)
    (hid : ∀ text, S.entryId text = .ofList (List.replicate 64 (letter text)))
    (hhex : ∀ a, letter (S.address.toText a) ∈ "0123456789abcdef".toList)
    (hletter : ∀ a b, letter (S.address.toText a) = letter (S.address.toText b) →
      S.address.toText a = S.address.toText b) : IdLaws S where
  isHex a := by
    rw [JsonText.IsHex, hid, String.toList_ofList, List.length_replicate]
    refine ⟨rfl, fun c hc => ?_⟩
    rw [List.eq_of_mem_replicate hc]
    exact hhex a
  noCollision a b h := by
    rw [hid, hid] at h
    exact hletter a b ((List.replicate_right_inj (by decide)).mp (String.ofList_inj.mp h))

lemma letterIds : IdLaws letterSuite :=
  .of_letter _ (fun _ => rfl) (fun a => by cases a <;> decide)
    fun a b => by cases a <;> cases b <;> decide

/-- A reading call fails with an error of serialization if the migration it starts with rejects the
older tree. -/
theorem list_rejects_invalid_legacy :
    AddressLaws letterSuite ∧ IdLaws letterSuite ∧ Reachable (calling letterSuite true) ∅ ∧
      ∃ env : Env, env.reply letterSuite true (.list none 0 none) ∅ =
        .error (.flutter .serialization "ADDRESS_BOOK_LEGACY_KEY_INVALID"
          "Legacy address-book entry contains an invalid key") :=
  ⟨letterLaws, letterIds, .of_init rfl,
    ⟨AList.singleton (.u8 0) (.value (.bool true)), id, fun _ => .refl _, none⟩, rfl⟩

/-- **The address book is consistent**, after any calls with any inputs, whatever the older tree and
wherever the storage stopped them. Every key is the marker or that of an entry with its id; no two
entries have one canonical address; a call that only looks at the entries fails with an error of
serialization only if its migration rejects the older tree; and an entry that was upserted is found,
and its value is untouched, until its canonical address is upserted or removed. -/
theorem address_book_consistent (hS : AddressLaws S) (hid : IdLaws S) {v2 : Tree}
    (hv2 : Reachable (calling S mainnet) v2) :
    (∀ k v, v2.lookup k = some v → (k = migrationMarkerKey ∧ ∃ n, decodeMarker v = .ok n) ∨
      ∃ id e, k = entryKey id ∧ decodeEntry S id v mainnet = .ok e ∧ e.id = id) ∧
    (∀ id id' v v' e e', v2.lookup (entryKey id) = some v → v2.lookup (entryKey id') = some v' →
      decodeEntry S id v mainnet = .ok e → decodeEntry S id' v' mainnet = .ok e' →
      e.destination.address = e'.destination.address → id = id') ∧
    (∀ (env : Env) (c : Call N), c.Reads → ∀ error, env.reply S mainnet c v2 = .error error →
      IsSerialization error → v2.lookup migrationMarkerKey = none ∧
        collected S mainnet (env.trees v2) = .error error) ∧
    ∀ (env : Env) address name label note e,
      env.reply S mainnet (.upsert address name label note) v2 = .ok (.entry e) →
      normalizeEntry S address name label note mainnet = .ok e ∧
      ∀ calls v2',
        Run (calling S mainnet) (env.after S mainnet (.upsert address name label note) v2)
          calls v2' →
        (∀ l ∈ calls, ¬ l.2.Touches S mainnet e) →
        v2'.lookup (entryKey e.id) = some (encodeEntry e) ∧
        ∀ env' : Env, env'.reply S mainnet (.find e.id) v2' = .ok (.entry e) ∨
          Failed env'.budget.isNone (env'.reply S mainnet (.find e.id) v2') := by
  have hsound := sound_of_reachable hS hv2
  refine ⟨fun k v hk => ?_, fun id id' v v' e e' hv hv' he he' haddr => ?_,
    fun env c hc error herr => ?_, fun env address name label note e hr => ?_⟩
  · obtain ⟨rfl, n, rfl⟩ | ⟨e, he, rfl, rfl⟩ := hsound k v hk
    · exact .inl ⟨rfl, n, decodeMarker_encodeMarker n⟩
    · exact .inr ⟨e.id, e, rfl, decodeEntry_encodeEntry he, rfl⟩
  · obtain ⟨x, hx, rfl, rfl⟩ := hsound.entry hv
    obtain ⟨y, hy, rfl, rfl⟩ := hsound.entry hv'
    rw [decodeEntry_encodeEntry hx] at he
    rw [decodeEntry_encodeEntry hy] at he'
    cases he
    cases he'
    rw [hx.id_eq, hy.id_eq, haddr]
  · have hout := env.exec_spec (c.excused hS hid env.order_perm hsound hc) rfl
    rw [Env.reply] at herr
    rw [herr] at hout
    exact hout
  · obtain ⟨hn, hstored⟩ := env.stored_of_upsert hS hsound hr
    have he := wellFormed_of_normalizeEntry hS hn
    refine ⟨hn, fun calls v2' hrun hcalls => ?_⟩
    have hlater := hstored.run hS hid he hrun hcalls
    exact ⟨hlater.entry, hlater.find hS hid he⟩

/-- An entry is found by its id after another address was upserted. -/
theorem letter_entry_is_found :
    let env : Env := ⟨∅, id, fun _ => .refl _, none⟩
    let first := env.after letterSuite true (.upsert " A " "Ann" none none) ∅
    let second := env.after letterSuite true (.upsert "b" "Bob" none none) first
    env.reply letterSuite true (.find (letterSuite.entryId "a")) second =
      .ok (.entry ⟨letterSuite.entryId "a", "Ann", none, none, ⟨"a", "a", .standard, none⟩⟩) := by
  intro env first second
  have hempty : Reachable (calling letterSuite true) ∅ := .of_init rfl
  obtain ⟨-, -, -, hupsert⟩ := address_book_consistent letterLaws letterIds hempty
  obtain ⟨-, hstays⟩ := hupsert env " A " "Ann" none none
    ⟨letterSuite.entryId "a", "Ann", none, none, ⟨"a", "a", .standard, none⟩⟩ rfl
  have hother : ¬ (Call.upsert "b" "Bob" none none).Touches letterSuite true
      ⟨letterSuite.entryId "a", "Ann", none, none, ⟨"a", "a", .standard, none⟩⟩ := by
    have hd : canonicalDestination letterSuite "b" true = .ok ⟨"b", "b", none, none⟩ := rfl
    rintro ⟨d, hd', haddr⟩
    rw [hd] at hd'
    cases hd'
    exact absurd haddr (by decide)
  obtain ⟨-, hfind⟩ := hstays [(env, .upsert "b" "Bob" none none)] second (.single rfl)
    (by simpa using hother)
  obtain hok | hfail := hfind env
  · exact hok
  · cases hfail.1

end XelisWallet.AddressBook
