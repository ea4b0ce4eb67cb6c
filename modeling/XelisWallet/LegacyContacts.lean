import XelisWallet.AddressBookCalls

/-!
The older address book (`address_book.rs`), and what its contacts become in a migration.

The older calls check the address of a contact and nothing else, so the tree they leave can hold
names and notes that the migration refuses. Which trees it takes is said exactly.
-/

namespace XelisWallet.AddressBook

open Fallible Text NativeError Programs Runs

variable {A K N : Type} {S : Suite A K N} {mainnet : Bool}

/-! ### The older calls -/

structure ContactDetails where
  name : String
  address : String
  note : Option String

inductive ContactError
  | invalidAddress
  | bail (message : String)

def ContactDetails.toDataElement (contact : ContactDetails) : DataElement :=
  .fields ([(.string "name", .value (.string contact.name)),
    (.string "address", .value (.string contact.address))] ++ optionalField "note" contact.note)

lemma ContactDetails.toDataElement_inj {c c' : ContactDetails}
    (h : c.toDataElement = c'.toDataElement) : c = c' := by
  obtain ⟨name, address, note⟩ := c
  obtain ⟨name', address', note'⟩ := c'
  cases note <;> cases note' <;> simp_all [toDataElement, optionalField]

/-- The checks with which both calls begin; the address is not trimmed. -/
def checkAddress (S : Suite A K N) (mainnet : Bool) (address : String) :
    Except ContactError Unit := do
  let address ← context (S.address.ofText address) .invalidAddress
  ensure (S.isMainnet address = mainnet)
    (.bail "Cannot add contact with address from a different network")

def upsertContact (S : Suite A K N) (mainnet : Bool) (entry : ContactDetails) :
    Program ContactError Tree Unit := do
  lift (checkAddress S mainnet entry.address)
  modifies fun t => t.insert (.string entry.address) entry.toDataElement

def removeContact (S : Suite A K N) (mainnet : Bool) (address : String) :
    Program ContactError Tree Unit := do
  lift (checkAddress S mainnet address)
  modifies fun t => t.erase (.string address)

inductive ContactCall
  | upsert (entry : ContactDetails)
  | remove (address : String)

def ContactCall.run (S : Suite A K N) (mainnet : Bool) :
    ContactCall → Program ContactError Tree Unit
  | .upsert entry => upsertContact S mainnet entry
  | .remove address => removeContact S mainnet address

/-- The older calls that return, on a tree that was empty. -/
def contactBook (S : Suite A K N) (mainnet : Bool) : System Tree ContactCall where
  init t := t = ∅
  step t c t' := c.run S mainnet t = (.ok (), t')

lemma checkAddress_eq_ok {address : String} {u : Unit} :
    checkAddress S mainnet address = .ok u ↔
      ∃ a, S.address.ofText address = some a ∧ S.isMainnet a = mainnet := by
  simp [checkAddress, bind_eq_ok, context_eq_ok, ensure_eq_ok]

lemma ContactCall.run_eq_ok {c : ContactCall} {t t' : Tree}
    (h : c.run S mainnet t = (.ok (), t')) :
    (∃ entry a, c = .upsert entry ∧ S.address.ofText entry.address = some a ∧
      S.isMainnet a = mainnet ∧ t' = t.insert (.string entry.address) entry.toDataElement) ∨
    ∃ address, c = .remove address ∧ t' = t.erase (.string address) := by
  have hchecked : ∀ (address : String) (f : Tree → Tree),
      (do lift (checkAddress S mainnet address); modifies f : Program ContactError Tree Unit) t =
        (.ok (), t') →
      (∃ a, S.address.ofText address = some a ∧ S.isMainnet a = mainnet) ∧ t' = f t := by
    intro address f h
    cases hc : checkAddress S mainnet address with
    | error e =>
      rw [bind_error (show lift (checkAddress S mainnet address) t = (.error e, t) by rw [hc]; rfl)]
        at h
      cases h
    | ok u =>
      rw [bind_ok (show lift (checkAddress S mainnet address) t = (.ok u, t) by rw [hc]; rfl)] at h
      cases h
      exact ⟨checkAddress_eq_ok.mp hc, rfl⟩
  cases c with
  | upsert entry =>
    obtain ⟨⟨a, ha, hmain⟩, rfl⟩ := hchecked _ _ h
    exact .inl ⟨entry, a, rfl, ha, hmain, rfl⟩
  | remove address =>
    obtain ⟨-, rfl⟩ := hchecked _ _ h
    exact .inr ⟨address, rfl, rfl⟩

/-! ### The contacts of a tree -/

def HoldsContact (t : Tree) (c : ContactDetails) : Prop :=
  t.lookup (.string c.address) = some c.toDataElement

/-- Everything in the tree is a contact with an address of the network. -/
def OnlyContacts (S : Suite A K N) (mainnet : Bool) (t : Tree) : Prop :=
  ∀ k v, t.lookup k = some v → ∃ (c : ContactDetails) (a : A), k = .string c.address ∧
    v = c.toDataElement ∧ S.address.ofText c.address = some a ∧ S.isMainnet a = mainnet

lemma onlyContacts_of_reachable {t : Tree} (h : Reachable (contactBook S mainnet) t) :
    OnlyContacts S mainnet t := by
  refine h.invariant ?_ ?_
  · rintro _ rfl k v hk
    cases hk
  rintro t c t' - ht hstep k v hk
  obtain ⟨entry, a, -, ha, hmain, rfl⟩ | ⟨address, -, rfl⟩ := ContactCall.run_eq_ok hstep
  · by_cases hkey : k = .string entry.address
    · subst hkey
      rw [AList.lookup_insert, Option.some_inj] at hk
      exact ⟨entry, a, rfl, hk.symm, ha, hmain⟩
    · rw [AList.lookup_insert_ne hkey] at hk
      exact ht k v hk
  · by_cases hkey : k = .string address
    · rw [hkey, AList.lookup_erase] at hk
      cases hk
    · rw [AList.lookup_erase_ne hkey] at hk
      exact ht k v hk

/-- The canonical form of the address of a contact. -/
def canonicalAddress (S : Suite A K N) (c : ContactDetails) : Option String :=
  (S.address.ofText c.address).map S.address.toText

/-- No two contacts of the tree have one canonical address. -/
def DistinctAddresses (S : Suite A K N) (t : Tree) : Prop :=
  ∀ c c', HoldsContact t c → HoldsContact t c' →
    canonicalAddress S c = canonicalAddress S c' → c = c'

/-- What the migration asks of a contact. -/
structure ContactDetails.Fits (c : ContactDetails) : Prop where
  name : trim c.name ≠ "" ∧ (trim c.name).length ≤ maxDisplayNameChars
  note : ∀ text ∈ trimmedText c.note, text.length ≤ maxNoteChars
  address : c.address.utf8ByteSize ≤ maxAddressBytes

/-- The laws of addresses, and a text of an address has no white space around it. -/
structure ContactLaws (S : Suite A K N) : Prop extends AddressLaws S where
  trimmed : ∀ text a, S.address.ofText text = some a → Trimmed text

/-- The entry of a contact for the address `a`. -/
def ContactDetails.entry (S : Suite A K N) (c : ContactDetails) (a : A) :
    NativeAddressBookEntry where
  id := S.entryId (S.address.toText a)
  displayName := trim c.name
  destinationLabel := none
  note := trimmedText c.note
  destination := (destinationOf S a).toNative

section Contact

variable {c : ContactDetails} {a : A}

lemma canonicalDestination_contact (hS : ContactLaws S)
    (ha : S.address.ofText c.address = some a) (hmain : S.isMainnet a = mainnet)
    {d : CanonicalDestination} :
    canonicalDestination S c.address mainnet = .ok d ↔
      c.address.utf8ByteSize ≤ maxAddressBytes ∧ destinationOf S a = d := by
  have hne : c.address ≠ "" := by
    intro hempty
    obtain ⟨htext, -, hle⟩ := hS.canonical _ a ha
    have hzero : (S.address.toText a).utf8ByteSize = 0 := by
      rw [hempty] at hle
      exact Nat.le_zero.mp hle
    exact htext (String.utf8ByteSize_eq_zero_iff.mp hzero)
  rw [canonicalDestination_eq_ok, trim_of_trimmed (hS.trimmed _ a ha), ha]
  constructor
  · rintro ⟨⟨-, hsize⟩, b, hb, -, hd⟩
    cases hb
    exact ⟨hsize, hd⟩
  · rintro ⟨hsize, hd⟩
    exact ⟨⟨hne, hsize⟩, a, rfl, hmain, hd⟩

lemma ContactDetails.toDataElement_fields (c : ContactDetails) : ∃ fields,
    c.toDataElement = .fields fields ∧ requiredField fields "name" = .ok c.name ∧
      requiredField fields "address" = .ok c.address ∧
      stringField fields "note" false = .ok c.note := by
  refine ⟨_, rfl, ?_, ?_, ?_⟩
  · simp [requiredField, stringField, pure, Except.pure, bind, Except.bind]
  · simp [requiredField, stringField, lookup_string, pure, Except.pure, bind, Except.bind]
  · cases c.note <;> simp [stringField, optionalField, lookup_string, pure, Except.pure]

/-- **One contact**: the migration takes it exactly if it fits. -/
lemma legacyEntry_contact (hS : ContactLaws S) (ha : S.address.ofText c.address = some a)
    (hmain : S.isMainnet a = mainnet) {e : NativeAddressBookEntry} :
    legacyEntry S mainnet (.string c.address) c.toDataElement = .ok e ↔
      c.Fits ∧ c.entry S a = e := by
  obtain ⟨fields, hfields, hname, haddress, hnote⟩ := c.toDataElement_fields
  simp only [legacyEntry, hfields, hname, haddress, hnote, bind_eq_ok,
    Except.ok.injEq, exists_eq_left', normalizeEntry, canonicalDestination_contact hS ha hmain,
    normalizeRequired_eq_ok, normalizeOptional_eq_ok, ensure_eq_ok, exists_const, pure_eq_ok]
  constructor
  · rintro ⟨d, ⟨hsize, rfl⟩, _, ⟨d, ⟨-, rfl⟩, n, ⟨hn, rfl⟩, l, ⟨-, rfl⟩, t, ⟨ht, rfl⟩, rfl⟩, -, rfl⟩
    exact ⟨⟨hn, ht, hsize⟩, rfl⟩
  rintro ⟨⟨hn, ht, hsize⟩, rfl⟩
  exact ⟨_, ⟨hsize, rfl⟩, _, ⟨_, ⟨hsize, rfl⟩, _, ⟨hn, rfl⟩, _, ⟨by simp [trimmedText], rfl⟩, _,
    ⟨ht, rfl⟩, rfl⟩, rfl, rfl⟩

end Contact

/-! ### Migrating the contacts -/

section Migrating

variable {t : Tree}

lemma OnlyContacts.exists_contact (ht : OnlyContacts S mainnet t) {p : DataValue × DataElement}
    (hp : p ∈ listing t) : ∃ c a, p = (.string c.address, c.toDataElement) ∧ HoldsContact t c ∧
      S.address.ofText c.address = some a ∧ S.isMainnet a = mainnet := by
  have hlook := mem_listing.mp hp
  obtain ⟨c, a, hk, hv, ha, hmain⟩ := ht _ _ hlook
  rw [hk, hv] at hlook
  exact ⟨c, a, Prod.ext hk hv, hlook, ha, hmain⟩

lemma HoldsContact.mem {c : ContactDetails} (h : HoldsContact t c) :
    (.string c.address, c.toDataElement) ∈ listing t :=
  mem_listing.mpr h

lemma OnlyContacts.collected (hS : ContactLaws S) (hid : IdLaws S)
    (ht : OnlyContacts S mainnet t) (hdistinct : DistinctAddresses S t)
    (hfits : ∀ c, HoldsContact t c → c.Fits) :
    ∃ m, Collected S mainnet (listing t) m ∧ m.length = (listing t).length := by
  have hvalid : ∀ p ∈ listing t, ∃ e, legacyEntry S mainnet p.1 p.2 = .ok e := by
    intro p hp
    obtain ⟨c, a, rfl, hc, ha, hmain⟩ := ht.exists_contact hp
    exact ⟨_, (legacyEntry_contact hS ha hmain).mpr ⟨hfits c hc, rfl⟩⟩
  -- contacts with one id have one canonical address
  have hinj : ∀ p ∈ listing t, ∀ q ∈ listing t, ∀ e e', legacyEntry S mainnet p.1 p.2 = .ok e →
      legacyEntry S mainnet q.1 q.2 = .ok e' → e.id = e'.id → p = q := by
    intro p hp q hq e e' he he' heq
    obtain ⟨c, a, rfl, hc, ha, hmain⟩ := ht.exists_contact hp
    obtain ⟨c', a', rfl, hc', ha', hmain'⟩ := ht.exists_contact hq
    obtain ⟨-, rfl⟩ := (legacyEntry_contact hS ha hmain).mp he
    obtain ⟨-, rfl⟩ := (legacyEntry_contact hS ha' hmain').mp he'
    have haddr : canonicalAddress S c = canonicalAddress S c' := by
      rw [canonicalAddress, canonicalAddress, ha, ha', Option.map_some, Option.map_some,
        hid.noCollision a a' heq]
    rw [hdistinct c c' hc hc' haddr]
  have hcollected : LegacyValid S mainnet t := by
    refine ⟨hvalid, fun p hp q hq e e' he he' heq => ?_⟩
    obtain rfl := hinj p hp q hq e e' he he' heq
    exact Except.ok.inj (he.symm.trans he')
  obtain ⟨m, hm⟩ := hcollected.collected
  obtain ⟨es, hes⟩ := exists_forall₂ hvalid
  have hnodup : es.Nodup := nodup_of_forall₂ hes (nodup_listing t) fun p hp q hq e he he' =>
    hinj p hp q hq e e he he' rfl
  have hmem : ∀ e, e ∈ es ↔ e ∈ m := by
    intro e
    rw [hm.mem, mem_forall₂ hes fun _ _ _ h h' => Except.ok.inj (h.symm.trans h')]
  have hperm : es.Perm m := (List.perm_ext_iff_of_nodup hnodup hm.nodup.of_map).mpr hmem
  exact ⟨m, hm, by rw [← hperm.length_eq, hes.length_eq]⟩

lemma OnlyContacts.fits (hS : ContactLaws S) (ht : OnlyContacts S mainnet t)
    (hvalid : LegacyValid S mainnet t) {c : ContactDetails} (hc : HoldsContact t c) : c.Fits := by
  obtain ⟨e, he⟩ := hvalid.1 _ hc.mem
  obtain ⟨c', a, heq, -, ha, hmain⟩ := ht.exists_contact hc.mem
  obtain ⟨hk, hv⟩ := Prod.mk.inj heq
  rw [hk, hv, legacyEntry_contact hS ha hmain] at he
  rw [ContactDetails.toDataElement_inj hv]
  exact he.1

lemma Env.reply_of_migrate_error {env : Env} {v2 : Tree} {error : NativeXelisError}
    (h : (env.migrate S mainnet v2).1 = .error error) (c : Call N) :
    env.reply S mainnet c v2 = .error error := by
  have hrun : migrateAddressBookV2 S mainnet env.order ⟨env.trees v2, env.budget⟩ =
      (.error error, (env.migrate S mainnet v2).2) := Prod.ext h rfl
  have hstop : ∀ (α β : Type) (f : NativeAddressBookMigrationResult → DbM α) (g : α → DbM β),
      ((migrateAddressBookV2 S mainnet env.order >>= f) >>= g) ⟨env.trees v2, env.budget⟩ =
        (.error error, (env.migrate S mainnet v2).2) :=
    fun α β f g => bind_error (bind_error hrun)
  cases c with
  | migrate => exact congrArg Prod.fst (bind_error hrun)
  | list | upsert | remove | find | matchAddress | matchDestination =>
    exact congrArg Prod.fst (hstop _ _ _ _)

end Migrating

/-! ### Which trees of contacts migrate -/

lemma letterContactLaws : ContactLaws letterSuite where
  toAddressLaws := letterLaws
  trimmed text a h := by
    have htext : text = "a" ∨ text = "A" ∨ text = "b" := by
      simp only [letterSuite] at h
      split at h
      case isTrue hc => exact hc.imp id .inl
      case isFalse =>
        split at h
        case isTrue hc => exact .inr (.inr hc)
        case isFalse => cases h
    obtain rfl | rfl | rfl := htext <;> exact ⟨by rintro c ⟨⟩; rfl, by rintro c ⟨⟩; rfl⟩

/-- The tree with one contact for the address `a`. -/
def letterContact (name : String) : Tree :=
  AList.singleton (.string "a") (ContactDetails.toDataElement ⟨name, "a", none⟩)

lemma letterContact_reachable (name : String) :
    Reachable (contactBook letterSuite true) (letterContact name) := by
  have hinit : Reachable (contactBook letterSuite true) ∅ := .of_init rfl
  exact hinit.step (l := .upsert ⟨name, "a", none⟩) rfl

lemma letterContact_holds {name : String} {c : ContactDetails} :
    HoldsContact (letterContact name) c ↔ c = ⟨name, "a", none⟩ := by
  constructor
  · intro h
    have hmem := List.mem_singleton.mp (show _ ∈ [_] from h.mem)
    exact ContactDetails.toDataElement_inj (Prod.mk.inj hmem).2
  · rintro rfl
    rfl

lemma letterContact_distinct (name : String) :
    DistinctAddresses letterSuite (letterContact name) := by
  intro c c' hc hc' _
  rw [letterContact_holds.mp hc, letterContact_holds.mp hc']

/-- The older calls store a contact without a name, and every call of the address book fails from
then on. -/
theorem contact_without_name_blocks_address_book :
    Reachable (contactBook letterSuite true) (letterContact "") ∧
    DistinctAddresses letterSuite (letterContact "") ∧
    ∀ env : Env, env.Lists (letterContact "") → env.budget = none →
      ∀ c, env.reply letterSuite true c ∅ =
        .error (.flutter .invalidInput "ADDRESS_BOOK_DISPLAY_NAME_INVALID"
          "Address-book display name is empty or exceeds the supported size") := by
  refine ⟨letterContact_reachable "", letterContact_distinct "", fun env henv hb c => ?_⟩
  refine Env.reply_of_migrate_error ?_ c
  obtain ⟨legacy, order, horder, budget⟩ := env
  obtain rfl : legacy = letterContact "" := AList.ext (List.perm_singleton.mp henv)
  obtain rfl : budget = none := hb
  rfl

/-- **Which contacts migrate.** The older calls leave contacts with different canonical addresses.
The migration of them returns, the storage permitting and also after runs that it stopped, exactly
if every contact has a name of 1 to 128 characters and a note of at most 2048, both without the
white space around them, and an address of at most 8192 bytes, and the number of contacts is a
32-bit number. If it does not, every call of the address book fails. -/
theorem contacts_migrate_iff (hS : ContactLaws S) (hid : IdLaws S) {t : Tree}
    (ht : Reachable (contactBook S mainnet) t) (hdistinct : DistinctAddresses S t)
    {runs : List Env} (hruns : ∀ env ∈ runs, env.Lists t) {env : Env} (henv : env.Lists t)
    (hb : env.budget = none) :
    ((∃ r, (env.migrate S mainnet (migrateAll S mainnet runs)).1 = .ok r) ↔
      (∀ c, HoldsContact t c → c.Fits) ∧ (listing t).length ≤ u32Max) ∧
    (¬ ((∀ c, HoldsContact t c → c.Fits) ∧ (listing t).length ≤ u32Max) →
      ∃ error, ∀ c, env.reply S mainnet c (migrateAll S mainnet runs) = .error error) := by
  have honly := onlyContacts_of_reachable ht
  have hiff : (∃ r, (env.migrate S mainnet (migrateAll S mainnet runs)).1 = .ok r) ↔
      (∀ c, HoldsContact t c → c.Fits) ∧ (listing t).length ≤ u32Max := by
    constructor
    · rintro ⟨r, hr⟩
      have hvalid := legacyValid_of_migrateAll hS.toAddressLaws hruns henv hr
      have hfits : ∀ c, HoldsContact t c → c.Fits := fun c => honly.fits hS hvalid
      obtain ⟨m, hm, hlen⟩ := honly.collected hS hid hdistinct hfits
      have hprogress := progress_migrateAll hS.toAddressLaws hm hruns
      have hdone := (hprogress.migrate hS.toAddressLaws henv hm).2.1 r hr
      exact ⟨hfits, hlen ▸ hdone.length⟩
    · rintro ⟨hfits, hlen⟩
      obtain ⟨m, hm, hmlen⟩ := honly.collected hS hid hdistinct hfits
      have hprogress := progress_migrateAll hS.toAddressLaws hm hruns
      exact (hprogress.migrate hS.toAddressLaws henv hm).2.2 hb (hmlen ▸ hlen)
  refine ⟨hiff, fun hnot => ?_⟩
  cases hr : (env.migrate S mainnet (migrateAll S mainnet runs)).1 with
  | ok r => exact absurd (hiff.mp ⟨r, hr⟩) hnot
  | error error => exact ⟨error, fun c => Env.reply_of_migrate_error hr c⟩

/-- Contacts for both addresses. -/
def letterContacts : Tree :=
  (letterContact "Ann").insert (.string "b") (ContactDetails.toDataElement ⟨"Bob", "b", none⟩)

lemma letterContacts_holds {c : ContactDetails} (h : HoldsContact letterContacts c) :
    c = ⟨"Ann", "a", none⟩ ∨ c = ⟨"Bob", "b", none⟩ := by
  obtain hmem | hmem := List.mem_cons.mp (show _ ∈ [_, _] from h.mem)
  · exact .inr (ContactDetails.toDataElement_inj (Prod.mk.inj hmem).2)
  · exact .inl (ContactDetails.toDataElement_inj (Prod.mk.inj (List.mem_singleton.mp hmem)).2)

lemma letterContacts_distinct : DistinctAddresses letterSuite letterContacts := by
  intro c c' hc hc' h
  obtain rfl | rfl := letterContacts_holds hc <;> obtain rfl | rfl := letterContacts_holds hc'
  · rfl
  · exact absurd h (by decide)
  · exact absurd h (by decide)
  · rfl

/-- They migrate after a run that stopped between them. -/
theorem letter_contacts_migrate :
    let run := fun budget : Option ℕ => (⟨letterContacts, id, fun _ => .refl _, budget⟩ : Env)
    ((run (some 4)).migrated letterSuite true ∅).entries.length = 1 ∧
    ∃ r, ((run none).migrate letterSuite true (migrateAll letterSuite true [run (some 4)])).1 =
      .ok r := by
  intro run
  have hlists : ∀ budget, (run budget).Lists letterContacts := fun _ => .refl _
  have hreached : Reachable (contactBook letterSuite true) letterContacts :=
    (letterContact_reachable "Ann").step (l := .upsert ⟨"Bob", "b", none⟩) rfl
  have hruns : ∀ env ∈ [run (some 4)], env.Lists letterContacts := by simp [hlists]
  refine ⟨rfl, (contacts_migrate_iff letterContactLaws letterIds hreached letterContacts_distinct
    hruns (hlists none) rfl).1.mpr ⟨?_, by decide⟩⟩
  intro c hc
  obtain rfl | rfl := letterContacts_holds hc
  all_goals exact ⟨by decide, by simp [trimmedText], by decide⟩

end XelisWallet.AddressBook
