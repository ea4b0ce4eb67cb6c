import XelisWallet.AddressBookCalls
import XelisWallet.DataWire

/-!
Matching an address with the entries of the address book.

A match is asked for with a complete address, or with the parts of one: the base address, and the
data in the form of the wire. The parts of an address are put together to the address again, so both
calls are one. What they return is determined by the entries that are stored, of which no two have
one canonical address.
-/

namespace XelisWallet.AddressBook

open Fallible Text NativeError Programs Runs DataWire

/-! ### The entries of a tree -/

section Entries

variable {A K N : Type} {S : Suite A K N} {mainnet reliable : Bool} {t : Tree}

/-- The entry is stored in the tree. -/
def InBook (S : Suite A K N) (mainnet : Bool) (t : Tree) (e : NativeAddressBookEntry) : Prop :=
  ∃ v, t.lookup (entryKey e.id) = some v ∧ decodeEntry S e.id v mainnet = .ok e

lemma Sound.inBook (ht : Sound S mainnet t) {e : NativeAddressBookEntry} : InBook S mainnet t e ↔
    WellFormed S mainnet e ∧ t.lookup (entryKey e.id) = some (encodeEntry e) := by
  constructor
  · rintro ⟨v, hv, he⟩
    obtain ⟨e', he', hid, rfl⟩ := ht.entry hv
    rw [← hid, decodeEntry_encodeEntry he'] at he
    cases he
    exact ⟨he', hv⟩
  · rintro ⟨he, hv⟩
    exact ⟨_, hv, decodeEntry_encodeEntry he⟩

lemma Sound.inBook_inj (ht : Sound S mainnet t) {e e' : NativeAddressBookEntry}
    (he : InBook S mainnet t e) (he' : InBook S mainnet t e')
    (haddr : e.destination.address = e'.destination.address) : e = e' := by
  obtain ⟨hwf, hv⟩ := ht.inBook.mp he
  obtain ⟨hwf', hv'⟩ := ht.inBook.mp he'
  have hid : e.id = e'.id := by rw [hwf.id_eq, hwf'.id_eq, haddr]
  rw [hid, hv', Option.some_inj] at hv
  exact encodeEntry_inj hwf hwf' hid hv.symm

/-- The list has every entry of the tree, once. -/
structure ListsBook (S : Suite A K N) (mainnet : Bool) (t : Tree)
    (es : List NativeAddressBookEntry) : Prop where
  nodup : es.Nodup
  mem : ∀ e, e ∈ es ↔ InBook S mainnet t e

lemma ListsBook.perm {es es' : List NativeAddressBookEntry} (h : ListsBook S mainnet t es)
    {t' : Tree} (h' : ListsBook S mainnet t' es')
    (hsame : ∀ e, InBook S mainnet t' e ↔ InBook S mainnet t e) : es'.Perm es :=
  (List.perm_ext_iff_of_nodup h'.nodup h.nodup).mpr fun e => by rw [h.mem, h'.mem, hsame]

variable (hid : IdLaws S)
include hid

variable (ht : Sound S mainnet t)
include ht

lemma readEntry_eq_some {p : DataValue × DataElement}
    (hp : t.lookup p.1 = some p.2) {e : NativeAddressBookEntry} : readEntry S mainnet p.1 p.2 = .ok
    (some e) ↔ p = (entryKey e.id, encodeEntry e) ∧ WellFormed S mainnet e := by
  obtain ⟨k, v⟩ := p
  obtain ⟨rfl, n, rfl⟩ | ⟨e', he', rfl, rfl⟩ := ht k v hp
  · constructor
    · intro h
      cases h
    · rintro ⟨h, -⟩
      exact absurd (Prod.mk.inj h).1.symm (entryKey_ne_marker e.id)
  · rw [readEntry_entry hid he']
    constructor
    · intro h
      cases h
      exact ⟨rfl, he'⟩
    · rintro ⟨h, he⟩
      obtain ⟨hk, hv⟩ := Prod.mk.inj h
      rw [encodeEntry_inj he' he (entryKey_inj.mp hk) hv]

lemma readEntry_eq_none {p : DataValue × DataElement} (hp : t.lookup p.1 = some p.2)
    (h : readEntry S mainnet p.1 p.2 = .ok none) : p.1 = migrationMarkerKey := by
  obtain ⟨k, v⟩ := p
  obtain ⟨hk, -⟩ | ⟨e, he, rfl, rfl⟩ := ht k v hp
  · exact hk
  · rw [readEntry_entry hid he] at h
    cases h

lemma listsBook_of_mapM {os : List (Option NativeAddressBookEntry)}
    (hos : (listing t).mapM (fun p => readEntry S mainnet p.1 p.2) = .ok os) : ListsBook S mainnet t
    ((os.filterMap id).mergeSort (listedBefore S)) := by
  have hread := mapM_eq_ok.mp hos
  have hfun : ∀ (p : DataValue × DataElement) o o', readEntry S mainnet p.1 p.2 = .ok o →
      readEntry S mainnet p.1 p.2 = .ok o' → o = o' :=
    fun _ _ _ h h' => Except.ok.inj (h.symm.trans h')
  have hperm := List.mergeSort_perm (os.filterMap id) (listedBefore S)
  refine ⟨hperm.nodup_iff.mpr ?_, fun e => ?_⟩
  · have hnodup : os.Nodup := by
      refine nodup_of_forall₂ hread (nodup_listing t) ?_
      intro p hp q hq o ho ho'
      have hp := mem_listing.mp hp
      have hq := mem_listing.mp hq
      cases o with
      | some =>
        rw [((readEntry_eq_some hid ht hp).mp ho).1, ((readEntry_eq_some hid ht hq).mp ho').1]
      | none =>
        have hk := readEntry_eq_none hid ht hp ho
        rw [← readEntry_eq_none hid ht hq ho'] at hk
        rw [hk, hq, Option.some_inj] at hp
        exact Prod.ext hk hp.symm
    refine hnodup.filterMap ?_
    rintro _ _ e rfl h
    exact h.symm
  · rw [hperm.mem_iff, List.mem_filterMap, ht.inBook]
    constructor
    · rintro ⟨_, ho, rfl⟩
      obtain ⟨p, hp, he⟩ := (mem_forall₂ hread hfun).mp ho
      have hp := mem_listing.mp hp
      obtain ⟨rfl, hwf⟩ := (readEntry_eq_some hid ht hp).mp he
      exact ⟨hwf, hp⟩
    · rintro ⟨hwf, hv⟩
      refine ⟨some e, (mem_forall₂ hread hfun).mpr ⟨(entryKey e.id, encodeEntry e), ?_, ?_⟩, rfl⟩
      · exact mem_listing.mpr hv
      · exact (readEntry_eq_some hid ht hv).mpr ⟨rfl, hwf⟩

omit ht

lemma readV2Entries_spec :
    TreeTriple reliable (fun t => Sound S mainnet (t .addressBookV2)) (readV2Entries S mainnet)
      (OrStop (fun es t => Sound S mainnet (t .addressBookV2) ∧
        ListsBook S mainnet (t .addressBookV2) es) fun _ _ => reliable = false) := by
  refine (readV2Entries_triple hid).mono (fun _ h => h) fun r t h => ?_
  cases r with
  | ok =>
    obtain ⟨ht, os, hos, rfl⟩ := h
    exact ⟨ht, listsBook_of_mapM hid ht hos⟩
  | error => exact h.1

omit hid

end Entries

/-! ### What is matched -/

section Matching

variable {es : List NativeAddressBookEntry} {d : CanonicalDestination}

/-- The kind of a match by the base address. -/
def baseKind (matched : List NativeAddressBookEntry) : NativeAddressBookMatchKind :=
  if matched = [] then .none else if matched.length = 1 then .baseOnly else .ambiguous

lemma matchDestination_exact
    (hinj : ∀ e ∈ es, ∀ e' ∈ es, e.destination.address = e'.destination.address → e = e')
    {e : NativeAddressBookEntry} (he : e ∈ es) (haddr : e.destination.address = d.address) :
    matchDestination es d = ⟨.exact, [e]⟩ := by
  unfold matchDestination
  split
  case h_1 x hx =>
    have hxaddr : x.destination.address = d.address := by simpa using List.find?_some hx
    rw [hinj x (List.mem_of_find?_eq_some hx) e he (hxaddr.trans haddr.symm)]
  case h_2 hnone => exact absurd haddr (by simpa using List.find?_eq_none.mp hnone e he)

lemma matchDestination_base (hnone : ∀ e ∈ es, e.destination.address ≠ d.address) :
    matchDestination es d = ⟨baseKind (es.filter (·.destination.baseAddress = d.baseAddress)),
        es.filter (·.destination.baseAddress = d.baseAddress)⟩ := by
  have hfind : es.find? (·.destination.address = d.address) = none :=
    List.find?_eq_none.mpr (by simpa using hnone)
  rw [matchDestination, hfind]
  generalize es.filter (·.destination.baseAddress = d.baseAddress) = l
  match l with
  | [] => rfl
  | [_] => rfl
  | _ :: _ :: _ => rfl

lemma matchDestination_perm {es' : List NativeAddressBookEntry} (hperm : es'.Perm es)
    (hinj : ∀ e ∈ es, ∀ e' ∈ es, e.destination.address = e'.destination.address → e = e') :
    (matchDestination es' d).kind = (matchDestination es d).kind ∧
      (matchDestination es' d).entries.Perm (matchDestination es d).entries := by
  have hinj' : ∀ e ∈ es', ∀ e' ∈ es', e.destination.address = e'.destination.address → e = e' :=
    fun e he e' he' => hinj e (hperm.mem_iff.mp he) e' (hperm.mem_iff.mp he')
  by_cases hexact : ∃ e ∈ es, e.destination.address = d.address
  · obtain ⟨e, he, haddr⟩ := hexact
    rw [matchDestination_exact hinj he haddr,
      matchDestination_exact hinj' (hperm.mem_iff.mpr he) haddr]
    exact ⟨rfl, .refl _⟩
  · have hnone : ∀ e ∈ es, e.destination.address ≠ d.address :=
      fun e he haddr => hexact ⟨e, he, haddr⟩
    rw [matchDestination_base hnone,
      matchDestination_base fun e he => hnone e (hperm.mem_iff.mp he)]
    have hfilter := hperm.filter (·.destination.baseAddress = d.baseAddress)
    refine ⟨?_, hfilter⟩
    simp [baseKind, hfilter.length_eq, ← List.length_eq_zero_iff]

end Matching

/-! ### The parts of an address -/

structure NativeXelisAddressDescriptor where
  encodedAddress : String
  baseAddress : String
  isMainnet : Bool
  integratedData : Option NativeXelisDataElement

section Parts

variable {A K : Type} {S : Suite A K NativeXelisDataElement} {mainnet : Bool}

def addressDescriptor (S : Suite A K NativeXelisDataElement) (address : A) :
    NativeXelisAddressDescriptor where
  encodedAddress := S.address.toText address
  baseAddress := S.address.toText (S.extractData address).2
  isMainnet := S.isMainnet address
  integratedData := (S.extractData address).1.map .fromXelis

/-- What matching by parts needs: an address is made of its network, its data and the public key of
its base, the text of the base is not longer, and data is read from the wire. -/
structure PartsLaws (S : Suite A K NativeXelisDataElement)
    (hashFromStr : String → Except String String) : Prop extends AddressLaws S where
  wire : S.intoXelis = NativeXelisDataElement.intoXelis hashFromStr
  hash : HashReads hashFromStr
  isMainnet_base : ∀ a, S.isMainnet (S.extractData a).2 = S.isMainnet a
  extract_base : ∀ a, S.extractData (S.extractData a).2 = (none, (S.extractData a).2)
  standard : ∀ a, (S.extractData a).1 = none → (S.extractData a).2 = a
  rebuild : ∀ a data, (S.extractData a).1 = some data →
    S.newIntegrated (S.isMainnet a) data (S.toPublicKey (S.extractData a).2) = a
  base_le : ∀ a, (S.address.toText (S.extractData a).2).utf8ByteSize ≤
    (S.address.toText a).utf8ByteSize

variable {hashFromStr : String → Except String String} {text : String} {a : A}

lemma canonicalDestination_base (hS : PartsLaws S hashFromStr)
    (ha : canonicalDestination S text mainnet = .ok (destinationOf S a)) : canonicalDestination S
    (S.address.toText (S.extractData a).2) mainnet = .ok (destinationOf S (S.extractData a).2) := by
  have hcanonical := canonicalDestination_idem hS.toAddressLaws ha
  obtain ⟨⟨-, hsize⟩, a', ha', hmain, hd⟩ := canonicalDestination_eq_ok.mp hcanonical
  have heq : a' = a := hS.roundTrips.inj.mp (congrArg CanonicalDestination.address hd)
  subst heq
  obtain ⟨-, htrim, -⟩ := hS.canonical _ a' ha'
  obtain ⟨hne, hbase, -⟩ := hS.canonical _ _ (hS.roundTrips (S.extractData a').2)
  refine canonicalDestination_eq_ok.mpr ?_
  rw [trim_of_trimmed hbase]
  refine ⟨⟨hne, ?_⟩, _, hS.roundTrips _, (hS.isMainnet_base a').trans hmain, rfl⟩
  have htext : trim (destinationOf S a').address = S.address.toText a' := trim_of_trimmed htrim
  rw [htext] at hsize
  exact (hS.base_le a').trans hsize

/-- **The parts of an address** make its destination again. -/
lemma canonicalDestinationFromParts_descriptor (hS : PartsLaws S hashFromStr)
    (ha : canonicalDestination S text mainnet = .ok (destinationOf S a))
    (hlimits : ∀ data ∈ (S.extractData a).1, WithinLimits data) :
    canonicalDestinationFromParts S (addressDescriptor S a).baseAddress
      (addressDescriptor S a).integratedData mainnet = .ok (destinationOf S a) := by
  have hbase := canonicalDestination_base hS ha
  have hnone : (destinationOf S (S.extractData a).2).integratedData = none := by
    rw [destinationOf, hS.extract_base]
  have hmain : S.isMainnet a = mainnet := by
    obtain ⟨-, a', -, hmain, hd⟩ := canonicalDestination_eq_ok.mp ha
    rwa [hS.roundTrips.inj.mp (congrArg CanonicalDestination.address hd)] at hmain
  simp only [canonicalDestinationFromParts, addressDescriptor, hbase, bind_eq_ok, ensure_eq_ok,
    exists_const, Except.ok.injEq, exists_eq_left']
  refine ⟨by rw [hnone]; rfl, ?_⟩
  cases hdata : (S.extractData a).1 with
  | none =>
    rw [hS.standard a hdata]
    rfl
  | some data =>
    have hread : S.intoXelis (.fromXelis data) = .ok data := by
      rw [hS.wire, intoXelis_fromXelis hS.hash (hlimits data hdata)]
    have hparse : S.address.ofText (destinationOf S (S.extractData a).2).address =
        some (S.extractData a).2 := hS.roundTrips _
    simp only [Option.map_some, hread, hparse, bind_eq_ok, context_eq_ok, mapError_eq_ok,
      Except.ok.injEq, exists_eq_left', Option.some.injEq]
    have hrebuild := hS.rebuild a data hdata
    rw [hmain] at hrebuild
    rw [hrebuild]
    have hidem := canonicalDestination_idem hS.toAddressLaws ha
    exact hidem

end Parts

/-! ### The calls -/

section Calls

variable {A K N : Type} {S : Suite A K N} {mainnet reliable : Bool} {d : CanonicalDestination}
  {order : List NativeAddressBookEntry → List NativeAddressBookEntry} {v2 : Tree}

/-- What was matched with the entries of a tree. -/
def IsMatch (S : Suite A K N) (mainnet : Bool) (t : Tree) (d : CanonicalDestination)
    (found : NativeAddressBookMatch) : Prop :=
  ∃ es, ListsBook S mainnet t es ∧ found = matchDestination es d

/-- The last part of both calls. -/
def matchEntries (S : Suite A K N) (mainnet : Bool) (d : CanonicalDestination) :
    DbM NativeAddressBookMatch := do
  let entries ← readV2Entries S mainnet
  return matchDestination entries d

/-- Both calls, once the destination is known. -/
def matching (S : Suite A K N) (mainnet : Bool)
    (order : List NativeAddressBookEntry → List NativeAddressBookEntry)
    (d : CanonicalDestination) : DbM NativeAddressBookMatch := do
  let _ ← migrateAddressBookV2 S mainnet order
  matchEntries S mainnet d

lemma matchAddress_eq {text : String} (hd : canonicalDestination S text mainnet = .ok d) :
    matchAddressBookAddressV2 S mainnet order text = matching S mainnet order d := by
  rw [matchAddressBookAddressV2, hd]
  rfl

lemma matchDestination_eq {base : String} {data : Option N}
    (hd : canonicalDestinationFromParts S base data mainnet = .ok d) :
    matchAddressBookDestinationV2 S mainnet order base data = matching S mainnet order d := by
  rw [matchAddressBookDestinationV2, hd]
  rfl

lemma matchEntries_spec (hid : IdLaws S) :
    TreeTriple reliable (fun t => Sound S mainnet (t .addressBookV2)) (matchEntries S mainnet d)
      (OrStop (fun found t => Sound S mainnet (t .addressBookV2) ∧
        IsMatch S mainnet (t .addressBookV2) d found) fun _ _ => reliable = false) :=
  .bind (readV2Entries_spec hid) fun es => .pure fun _ h => ⟨h.1, es, h.2, rfl⟩

lemma matching_spec (hS : AddressLaws S) (hid : IdLaws S) (horder : ∀ m, (order m).Perm m) :
    TreeTriple reliable (fun t => Sound S mainnet (t .addressBookV2)) (matching S mainnet order d)
      (OrStop (fun found t => Sound S mainnet (t .addressBookV2) ∧
        IsMatch S mainnet (t .addressBookV2) d found) fun _ _ => True) := by
  refine .bind (R := fun _ t => Sound S mainnet (t .addressBookV2)) ?_ fun _ => ?_
  · refine .of_forall fun t₀ ht₀ => ?_
    refine (migrateAddressBookV2_spec hS ht₀ horder).mono (fun _ h => h) fun r t h => ?_
    cases r with
    | error => trivial
    | ok => exact h.sound hS ht₀
  · refine (matchEntries_spec hid).mono (fun _ h => h) fun r t h => ?_
    cases r with
    | error => trivial
    | ok => exact h

lemma Env.isMatch_of_reply (hS : AddressLaws S) (hid : IdLaws S) {env : Env}
    (hv2 : Sound S mainnet v2) {text : String} (hd : canonicalDestination S text mainnet = .ok d)
    {found : NativeAddressBookMatch}
    (h : env.reply S mainnet (.matchAddress text) v2 = .ok (.matched found)) :
    Sound S mainnet (env.after S mainnet (.matchAddress text) v2) ∧
      IsMatch S mainnet (env.after S mainnet (.matchAddress text) v2) d found := by
  have hspec : TreeTriple env.budget.isNone (fun t => Sound S mainnet (t .addressBookV2))
      ((Call.matchAddress text).run S mainnet env.order)
      (OrStop (fun r t => ∀ found, r = .matched found → Sound S mainnet (t .addressBookV2) ∧
        IsMatch S mainnet (t .addressBookV2) d found) fun _ _ => True) := by
    refine .bind (R := fun found t => Sound S mainnet (t .addressBookV2) ∧
      IsMatch S mainnet (t .addressBookV2) d found) ?_ fun found => .pure ?_
    · rw [matchAddress_eq hd]
      exact matching_spec hS hid env.order_perm
    rintro t ht _ heq
    cases heq
    exact ht
  have hout := env.exec_spec hspec hv2
  rw [Env.reply] at h
  rw [h] at hout
  exact hout found rfl

lemma Env.match_returns (hS : AddressLaws S) (hid : IdLaws S) {env : Env}
    (hv2 : Sound S mainnet v2) {text : String} (hd : canonicalDestination S text mainnet = .ok d)
    {r : NativeAddressBookMigrationResult} (hr : (env.migrate S mainnet v2).1 = .ok r)
    (hb : env.budget = none) :
    ∃ found, env.reply S mainnet (.matchAddress text) v2 = .ok (.matched found) := by
  have hmigrate : migrateAddressBookV2 S mainnet env.order ⟨env.trees v2, env.budget⟩ =
      (.ok r, (env.migrate S mainnet v2).2) := Prod.ext hr rfl
  obtain ⟨-, hread⟩ := matchEntries_spec hid (env.migrate S mainnet v2).2
    ⟨env.migrate_budget hS hv2, (env.migrate_ends hS hv2).sound hS hv2⟩
  rw [Env.reply, Call.run, matchAddress_eq hd]
  generalize hm : matchEntries S mainnet d (env.migrate S mainnet v2).2 = out at hread
  obtain ⟨result, db⟩ := out
  have hmatching : matching S mainnet env.order d ⟨env.trees v2, env.budget⟩ = (result, db) :=
    (bind_ok hmigrate).trans hm
  cases result with
  | error =>
    rw [hb] at hread
    cases hread
  | ok found => exact ⟨found, congrArg Prod.fst (bind_ok hmatching)⟩

end Calls

section Main

variable {A K : Type} {S : Suite A K NativeXelisDataElement} {mainnet : Bool}
  {hashFromStr : String → Except String String}

/-- **Matching an address.** In every address book that calls can leave, a match asked for with an
accepted address and one asked for with its parts have one reply. The reply is a match unless the
migration or the storage fails. It is the entry with the canonical address if there is one, and
else the entries with the base address, with the kind for their number; and it is the same, up to
the order of the entries, for every other text of the address and every other tree with these
entries. -/
theorem matching_parts_agrees (hS : PartsLaws S hashFromStr) (hid : IdLaws S) {v2 : Tree}
    (hv2 : Reachable (calling S mainnet) v2) {text : String} {a : A}
    (ha : canonicalDestination S text mainnet = .ok (destinationOf S a))
    (hlimits : ∀ data ∈ (S.extractData a).1, WithinLimits data) (env : Env) :
    env.reply S mainnet (.matchDestination (addressDescriptor S a).baseAddress
        (addressDescriptor S a).integratedData) v2 =
      env.reply S mainnet (.matchAddress text) v2 ∧
    (∀ r, (env.migrate S mainnet v2).1 = .ok r → env.budget = none →
      ∃ found, env.reply S mainnet (.matchAddress text) v2 = .ok (.matched found)) ∧
    ∀ found, env.reply S mainnet (.matchAddress text) v2 = .ok (.matched found) →
      (∀ e, InBook S mainnet (env.after S mainnet (.matchAddress text) v2) e →
        e.destination.address = S.address.toText a → found = ⟨.exact, [e]⟩) ∧
      ((∀ e, InBook S mainnet (env.after S mainnet (.matchAddress text) v2) e →
          e.destination.address ≠ S.address.toText a) →
        (∀ e, e ∈ found.entries ↔
          InBook S mainnet (env.after S mainnet (.matchAddress text) v2) e ∧
            e.destination.baseAddress = (addressDescriptor S a).baseAddress) ∧
        found.entries.Nodup ∧ found.kind = baseKind found.entries) ∧
      ∀ (env' : Env) (v2' : Tree) (text' : String) (found' : NativeAddressBookMatch),
        Reachable (calling S mainnet) v2' →
        canonicalDestination S text' mainnet = .ok (destinationOf S a) →
        env'.reply S mainnet (.matchAddress text') v2' = .ok (.matched found') →
        (∀ e, InBook S mainnet (env'.after S mainnet (.matchAddress text') v2') e ↔
          InBook S mainnet (env.after S mainnet (.matchAddress text) v2) e) →
        found'.kind = found.kind ∧ found'.entries.Perm found.entries := by
  have hlaws := hS.toAddressLaws
  have hsound := sound_of_reachable hlaws hv2
  refine ⟨?_, fun r hr hb => env.match_returns hlaws hid hsound ha hr hb, fun found hfound => ?_⟩
  · rw [Env.reply, Env.reply, Call.run, Call.run, matchAddress_eq ha,
      matchDestination_eq (canonicalDestinationFromParts_descriptor hS ha hlimits)]
  obtain ⟨hafter, es, hes, rfl⟩ := env.isMatch_of_reply hlaws hid hsound ha hfound
  generalize env.after S mainnet (.matchAddress text) v2 = t at hafter hes ⊢
  have hinj : ∀ e ∈ es, ∀ e' ∈ es, e.destination.address = e'.destination.address → e = e' :=
    fun e he e' he' => hafter.inBook_inj ((hes.mem e).mp he) ((hes.mem e').mp he')
  refine ⟨fun e he haddr => ?_, fun hnone => ?_, fun env' v2' text' found' hv2' ha' hfound' hsame =>
    ?_⟩
  · exact matchDestination_exact hinj ((hes.mem e).mpr he) haddr
  · have hnone : ∀ e ∈ es, e.destination.address ≠ (destinationOf S a).address :=
      fun e he => hnone e ((hes.mem e).mp he)
    rw [matchDestination_base hnone]
    refine ⟨fun e => ?_, hes.nodup.filter _, rfl⟩
    rw [List.mem_filter, hes.mem, decide_eq_true_eq]
    rfl
  · obtain ⟨-, es', hes', rfl⟩ :=
      env'.isMatch_of_reply hlaws hid (sound_of_reachable hlaws hv2') ha' hfound'
    exact matchDestination_perm (hes.perm hes' hsame) hinj

end Main

/-! ### A small address book with an integrated address -/

inductive NoteAddress
  | plain
  | noted
  | other
  deriving DecidableEq

/-- A suite with an integrated address on the base `a`. -/
def noteSuite : Suite NoteAddress Bool NativeXelisDataElement where
  address :=
    { toText := fun
        | .plain => "a"
        | .noted => "a7"
        | .other => "b"
      ofText := fun text =>
        if text = "a" then some .plain else if text = "a7" then some .noted
        else if text = "b" then some .other else none }
  isMainnet _ := true
  extractData
    | .noted => (some (.value (.u8 7)), .plain)
    | a => (none, a)
  toPublicKey
    | .other => false
    | _ => true
  newIntegrated _ _ _ := .noted
  intoXelis := NativeXelisDataElement.intoXelis .ok
  entryId text :=
    .ofList (List.replicate 64 (if text = "a" then 'a' else if text = "a7" then 'c' else 'b'))
  toLowercase := id

lemma noteLaws : PartsLaws noteSuite .ok where
  roundTrips a := by cases a <;> decide
  canonical text a h := by
    have htext : text = noteSuite.address.toText a := by
      simp only [noteSuite] at h
      split at h
      case isTrue hc => cases h; exact hc
      case isFalse =>
        split at h
        case isTrue hc => cases h; exact hc
        case isFalse =>
          split at h
          case isTrue hc => cases h; exact hc
          case isFalse => cases h
    refine ⟨by cases a <;> decide, ?_, by rw [htext]⟩
    cases a <;> exact ⟨by rintro c ⟨⟩; rfl, by rintro c ⟨⟩; rfl⟩
  wire := rfl
  hash _ _ := rfl
  isMainnet_base _ := rfl
  extract_base a := by cases a <;> rfl
  standard a h := by
    cases a with
    | noted => cases h
    | plain | other => rfl
  rebuild a data h := by
    cases a with
    | noted => rfl
    | plain | other => cases h
  base_le a := by cases a <;> decide

lemma noteIds : IdLaws noteSuite :=
  .of_letter _ (fun _ => rfl) (fun a => by cases a <;> decide)
    fun a b => by cases a <;> cases b <;> decide

/-- An integrated address that was saved is found by its parts. -/
theorem noted_entry_is_matched_by_parts :
    let env : Env := ⟨∅, id, fun _ => .refl _, none⟩
    let v2 := env.after noteSuite true (.upsert "a7" "Ann" none none) ∅
    env.reply noteSuite true
        (.matchDestination "a" (some (.value (.unsignedInteger .u8 "7")))) v2 =
      .ok (.matched ⟨.exact, [⟨noteSuite.entryId "a7", "Ann", none, none,
        ⟨"a7", "a", .integrated, some .u8⟩⟩]⟩) := by
  intro env v2
  have hempty : Reachable (calling noteSuite true) ∅ := .of_init rfl
  have hv2 : Reachable (calling noteSuite true) v2 :=
    hempty.step (l := (env, .upsert "a7" "Ann" none none)) rfl
  have ha : canonicalDestination noteSuite "a7" true = .ok (destinationOf noteSuite .noted) := rfl
  have hlimits : ∀ data ∈ (noteSuite.extractData .noted).1, WithinLimits data := by
    rintro data ⟨⟩
    simp only [WithinLimits, ValueFits]
  obtain ⟨hparts, hreturns, hmatch⟩ := matching_parts_agrees noteLaws noteIds hv2 ha hlimits env
  obtain ⟨found, hfound⟩ := hreturns ⟨0, true⟩ rfl rfl
  have hbook : InBook noteSuite true (env.after noteSuite true (.matchAddress "a7") v2)
      ⟨noteSuite.entryId "a7", "Ann", none, none, ⟨"a7", "a", .integrated, some .u8⟩⟩ :=
    ⟨_, rfl, rfl⟩
  rw [(hmatch found hfound).1 _ hbook rfl] at hfound
  exact hparts.trans hfound

end XelisWallet.AddressBook
