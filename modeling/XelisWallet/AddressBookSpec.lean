import XelisWallet.AddressBook

/-!
What the functions of the address book do.

Normalizing an entry a second time changes nothing, so an entry that was written is read back as it
is. The rules for the accesses to the storage speak of the trees alone; whether an access can fail
is their parameter.
-/

namespace XelisWallet.AddressBook

open Fallible Text NativeError Programs

variable {A K N : Type} {S : Suite A K N} {mainnet : Bool}

/-- What the address book needs of addresses: the canonical text of an address is read back, has no
white space around it, and is not longer than another text of the address. -/
structure AddressLaws (S : Suite A K N) : Prop where
  roundTrips : S.address.RoundTrips
  canonical : ∀ text a, S.address.ofText text = some a → S.address.toText a ≠ "" ∧
    Trimmed (S.address.toText a) ∧ (S.address.toText a).utf8ByteSize ≤ text.utf8ByteSize

/-- The destination of an address. -/
def destinationOf (S : Suite A K N) (a : A) : CanonicalDestination where
  address := S.address.toText a
  baseAddress := S.address.toText (S.extractData a).2
  integratedData := (S.extractData a).1
  integratedDataKind := (S.extractData a).1.map dataKind

variable {address kind message : String} {max : ℕ} {e : NativeAddressBookEntry}

lemma canonicalDestination_eq_ok {d : CanonicalDestination} :
    canonicalDestination S address mainnet = .ok d ↔
      (trim address ≠ "" ∧ (trim address).utf8ByteSize ≤ maxAddressBytes) ∧
      ∃ a, S.address.ofText (trim address) = some a ∧ S.isMainnet a = mainnet ∧
        destinationOf S a = d := by
  simp only [canonicalDestination, bind_eq_ok, ensure_eq_ok, context_eq_ok, exists_const,
    pure_eq_ok]
  rfl

lemma canonicalDestination_idem (hS : AddressLaws S) {d : CanonicalDestination}
    (h : canonicalDestination S address mainnet = .ok d) :
    canonicalDestination S d.address mainnet = .ok d := by
  obtain ⟨⟨-, hsize⟩, a, ha, hmain, rfl⟩ := canonicalDestination_eq_ok.mp h
  obtain ⟨hne, htrim, hle⟩ := hS.canonical _ a ha
  have ht : trim (destinationOf S a).address = S.address.toText a := trim_of_trimmed htrim
  refine canonicalDestination_eq_ok.mpr ⟨⟨?_, ?_⟩, a, ?_, hmain, rfl⟩
  · rwa [ht]
  · rw [ht]
    exact Nat.le_trans hle hsize
  · rw [ht, hS.roundTrips a]

lemma normalizeRequired_eq_ok {value v : String} :
    normalizeRequired value max kind message = .ok v ↔
      (trim value ≠ "" ∧ (trim value).length ≤ max) ∧ trim value = v := by
  simp only [normalizeRequired, bind_eq_ok, ensure_eq_ok, exists_const, pure_eq_ok]

lemma normalizeRequired_idem {value v : String}
    (h : normalizeRequired value max kind message = .ok v) :
    normalizeRequired v max kind message = .ok v := by
  obtain ⟨hv, rfl⟩ := normalizeRequired_eq_ok.mp h
  exact normalizeRequired_eq_ok.mpr (by rw [trim_trim]; exact ⟨hv, rfl⟩)

/-- A text without the white space around it, if anything is left. -/
def trimmedText (value : Option String) : Option String :=
  (value.map trim).filter (· ≠ "")

lemma normalizeOptional_eq_ok {value v : Option String} :
    normalizeOptional value max kind message = .ok v ↔
      (∀ text ∈ v, text.length ≤ max) ∧ trimmedText value = v := by
  cases value with
  | none =>
    simp only [normalizeOptional, pure_eq_ok, trimmedText, Option.map_none, Option.filter_none]
    constructor
    · rintro rfl
      simp
    · exact And.right
  | some value =>
    by_cases hv : trim value = ""
    · simp only [normalizeOptional, hv, if_true, pure_eq_ok, trimmedText, Option.map_some]
      constructor
      · rintro rfl
        simp
      · exact And.right
    · simp only [normalizeOptional, hv, if_false, bind_eq_ok, ensure_eq_ok, exists_const,
        pure_eq_ok, trimmedText, Option.map_some, Option.filter_some, ne_eq, not_false_eq_true,
        decide_true, if_true]
      constructor
      all_goals
        rintro ⟨hle, rfl⟩
        exact ⟨by simpa using hle, rfl⟩

lemma trimmedText_trimmedText (value : Option String) :
    trimmedText (trimmedText value) = trimmedText value := by
  cases value with
  | none => rfl
  | some value =>
    by_cases hv : trim value = "" <;> simp [trimmedText, Option.filter_some, hv, trim_trim]

lemma normalizeOptional_idem {value v : Option String}
    (h : normalizeOptional value max kind message = .ok v) :
    normalizeOptional v max kind message = .ok v := by
  obtain ⟨hle, rfl⟩ := normalizeOptional_eq_ok.mp h
  exact normalizeOptional_eq_ok.mpr ⟨hle, trimmedText_trimmedText value⟩

/-- An entry that normalizing leaves as it is. -/
def WellFormed (S : Suite A K N) (mainnet : Bool) (e : NativeAddressBookEntry) : Prop :=
  normalizeEntry S e.destination.address e.displayName e.destinationLabel e.note mainnet = .ok e

lemma wellFormed_of_normalizeEntry (hS : AddressLaws S) {name : String} {label note : Option String}
    (h : normalizeEntry S address name label note mainnet = .ok e) : WellFormed S mainnet e := by
  simp only [normalizeEntry, bind_eq_ok, pure_eq_ok] at h
  obtain ⟨d, hd, n, hn, l, hl, t, ht, rfl⟩ := h
  simp only [WellFormed, normalizeEntry, bind_eq_ok, pure_eq_ok]
  exact ⟨d, canonicalDestination_idem hS hd, n, normalizeRequired_idem hn, l,
    normalizeOptional_idem hl, t, normalizeOptional_idem ht, rfl⟩

lemma normalizeEntry_destination {name : String} {label note : Option String}
    (h : normalizeEntry S address name label note mainnet = .ok e) :
    ∃ d, canonicalDestination S address mainnet = .ok d ∧ e.destination = d.toNative ∧
      e.id = S.entryId d.address := by
  simp only [normalizeEntry, bind_eq_ok, pure_eq_ok] at h
  obtain ⟨d, hd, n, hn, l, hl, t, ht, rfl⟩ := h
  exact ⟨d, hd, rfl, rfl⟩

lemma WellFormed.id_eq (he : WellFormed S mainnet e) : e.id = S.entryId e.destination.address := by
  obtain ⟨d, -, hd, hid⟩ := normalizeEntry_destination he
  rw [hid, hd]
  rfl

/-! ### What is written is read back -/

lemma lookup_string (name field : String) (value : DataElement)
    (fields : List (DataValue × DataElement)) :
    List.lookup (.string name) ((.string field, value) :: fields) =
      if name = field then some value else List.lookup (.string name) fields := by
  by_cases h : name = field
  · simp [h]
  · have hb : (DataValue.string name == .string field) = false := by simpa using h
    rw [List.lookup_cons, hb, if_neg h]

lemma decodeMarker_encodeMarker (n : UInt32) : decodeMarker (encodeMarker n) = .ok n := by
  simp [decodeMarker, encodeMarker, lookup_string, ensure, bind, Except.bind, pure, Except.pure]

lemma decodeEntry_encodeEntry (he : WellFormed S mainnet e) :
    decodeEntry S e.id (encodeEntry e) mainnet = .ok e := by
  obtain ⟨id, name, label, note, destination⟩ := e
  unfold WellFormed at he
  cases label <;> cases note <;>
    simp [decodeEntry, encodeEntry, optionalField, lookup_string, requiredField, stringField, he,
      ensure, bind, Except.bind, pure, Except.pure]

lemma encodeEntry_inj {e' : NativeAddressBookEntry} (he : WellFormed S mainnet e)
    (he' : WellFormed S mainnet e') (hid : e.id = e'.id) (h : encodeEntry e = encodeEntry e') :
    e = e' := by
  have hread := decodeEntry_encodeEntry he
  rw [h, hid, decodeEntry_encodeEntry he'] at hread
  exact (Except.ok.inj hread).symm

lemma entryKey_inj {id id' : String} : entryKey id = entryKey id' ↔ id = id' := by
  simp [entryKey]

lemma entryKey_ne_marker (id : String) : entryKey id ≠ migrationMarkerKey := by
  intro h
  have h := congrArg String.toList (DataValue.string.inj h)
  rw [String.toList_append] at h
  simpa using congrArg List.head? h

/-! ### The storage -/

lemma mem_listing {t : Tree} {p : DataValue × DataElement} :
    p ∈ listing t ↔ t.lookup p.1 = some p.2 := by
  rw [listing, List.mem_map]
  constructor
  · rintro ⟨⟨k, v⟩, h, rfl⟩
    exact AList.mem_lookup_iff.mpr h
  · intro h
    exact ⟨⟨p.1, p.2⟩, AList.mem_lookup_iff.mp h, rfl⟩

lemma nodup_listing (t : Tree) : (listing t).Nodup := by
  refine t.nodupKeys.nodup.map ?_
  rintro ⟨k, v⟩ ⟨k', v'⟩ h
  cases h
  rfl

abbrev Trees := TreeName → Tree

variable {α β : Type}

/-- Started with trees in `P`, the computation ends with a result and trees in `Q`; `reliable` says
that no access fails. -/
def TreeTriple (reliable : Bool) (P : Trees → Prop) (m : DbM α)
    (Q : Except NativeXelisError α → Trees → Prop) : Prop :=
  Triple (fun db => db.budget.isNone = reliable ∧ P db.trees) m
    fun r db => db.budget.isNone = reliable ∧ Q r db.trees

namespace TreeTriple

variable {reliable : Bool} {P : Trees → Prop} {kind : String} {tree : TreeName} {key : DataValue}

variable {m : DbM α} {Q : Except NativeXelisError α → Trees → Prop}

lemma bind {f : α → DbM β} {R : α → Trees → Prop} {Q : Except NativeXelisError β → Trees → Prop}
    (hm : TreeTriple reliable P m (OrStop R fun e => Q (.error e)))
    (hf : ∀ a, TreeTriple reliable (R a) (f a) Q) : TreeTriple reliable P (m >>= f) Q := by
  refine Triple.bind (R := fun a db => db.budget.isNone = reliable ∧ R a db.trees) ?_ hf
  refine Triple.mono hm fun r db h => ?_
  cases r <;> exact h

lemma lift {x : Except NativeXelisError α} (h : ∀ t, P t → Q x t) :
    TreeTriple reliable P (lift x) Q :=
  Triple.lift fun _ hdb => ⟨hdb.1, h _ hdb.2⟩

lemma pure {a : α} (h : ∀ t, P t → Q (.ok a) t) : TreeTriple reliable P (pure a) Q :=
  Triple.pure fun _ hdb => ⟨hdb.1, h _ hdb.2⟩

lemma mono {P' : Trees → Prop} {Q' : Except NativeXelisError α → Trees → Prop}
    (hm : TreeTriple reliable P m Q) (hP : ∀ t, P' t → P t) (hQ : ∀ r t, Q r t → Q' r t) :
    TreeTriple reliable P' m Q' :=
  fun db hdb => (hm db ⟨hdb.1, hP _ hdb.2⟩).imp id (hQ _ _)

/-- What holds before in every state that satisfies `P` may be assumed. -/
lemma of_forall (h : ∀ t, P t → TreeTriple reliable (· = t) m Q) : TreeTriple reliable P m Q :=
  fun db hdb => h db.trees hdb.2 db ⟨hdb.1, rfl⟩

lemma forEach {as : List α} {f : α → DbM Unit} {Q : Except NativeXelisError Unit → Trees → Prop}
    (I : List α → Trees → Prop)
    (hf : ∀ (done : List α) (a : α) (rest : List α), as = done ++ a :: rest →
      TreeTriple reliable (I done) (f a) (OrStop (fun _ => I (done ++ [a])) fun e => Q (.error e)))
    (hend : ∀ t, I as t → Q (.ok ()) t) : TreeTriple reliable (I []) (forEach as f) Q := by
  refine Triple.forEach (fun done (db : Db) => db.budget.isNone = reliable ∧ I done db.trees)
    (fun done a rest h => Triple.mono (hf done a rest h) fun r db hr => ?_)
    fun db hdb => ⟨hdb.1, hend _ hdb.2⟩
  cases r <;> exact hr

section Access

variable {Q : Except NativeXelisError Unit → Trees → Prop}

lemma access (hok : ∀ t, P t → Q (.ok ()) t)
    (hfail : reliable = false → ∀ t, P t → Q (.error (.storageOperation kind)) t) :
    TreeTriple reliable P (access kind) Q := by
  rintro ⟨t, budget⟩ ⟨hb, ht⟩
  cases budget with
  | none => exact ⟨hb, hok _ ht⟩
  | some n =>
    cases n with
    | zero => exact ⟨hb, hfail hb.symm _ ht⟩
    | succ => exact ⟨hb, hok _ ht⟩

lemma set {value : DataElement}
    (hok : ∀ t, P t → Q (.ok ()) (Function.update t tree ((t tree).insert key value)))
    (hfail : reliable = false → ∀ t, P t → Q (.error (.storageOperation kind)) t) :
    TreeTriple reliable P (setCustomData tree key value kind) Q :=
  bind (R := fun _ => P) (access (fun _ h => h) hfail) fun _ _ hdb => ⟨hdb.1, hok _ hdb.2⟩

lemma delete (hok : ∀ t, P t → Q (.ok ()) (Function.update t tree ((t tree).erase key)))
    (hfail : reliable = false → ∀ t, P t → Q (.error (.storageOperation kind)) t) :
    TreeTriple reliable P (deleteCustomData tree key kind) Q :=
  bind (R := fun _ => P) (access (fun _ h => h) hfail) fun _ _ hdb => ⟨hdb.1, hok _ hdb.2⟩

end Access

lemma has {Q : Except NativeXelisError Bool → Trees → Prop}
    (hok : ∀ t, P t → Q (.ok ((t tree).lookup key).isSome) t)
    (hfail : reliable = false → ∀ t, P t → Q (.error (.storageOperation kind)) t) :
    TreeTriple reliable P (hasCustomData tree key kind) Q :=
  bind (R := fun _ => P) (access (fun _ h => h) hfail) fun _ _ hdb => ⟨hdb.1, hok _ hdb.2⟩

lemma query {Q : Except NativeXelisError (List (DataValue × DataElement)) → Trees → Prop}
    (hok : ∀ t, P t → Q (.ok (listing (t tree))) t)
    (hfail : reliable = false → ∀ t, P t → Q (.error (.storageOperation kind)) t) :
    TreeTriple reliable P (queryDb tree kind) Q :=
  bind (R := fun _ => P) (access (fun _ h => h) hfail) fun _ _ hdb => ⟨hdb.1, hok _ hdb.2⟩

lemma get {Q : Except NativeXelisError DataElement → Trees → Prop}
    (hok : ∀ t, P t → ∃ v, (t tree).lookup key = some v ∧ Q (.ok v) t)
    (hfail : reliable = false → ∀ t, P t → Q (.error (.storageOperation kind)) t) :
    TreeTriple reliable P (getCustomData tree key kind) Q := by
  refine bind (R := fun _ => P) (access (fun _ h => h) hfail) fun _ db hdb => ?_
  obtain ⟨v, hv, hq⟩ := hok _ hdb.2
  have hrun : (do
      let value ← reads fun db : Db => (db.trees tree).lookup key
      Programs.lift (context value (.storageOperation kind)) : DbM DataElement) db =
        (.ok v, db) := by
    simp only [Bind.bind, reads, hv, Programs.lift, context]
  rw [hrun]
  exact ⟨hdb.1, hq⟩

end TreeTriple

/-- The computation keeps `I`, wherever it stops. -/
def Keeps (reliable : Bool) (I : Trees → Prop) (m : DbM α) : Prop :=
  TreeTriple reliable I m fun _ => I

namespace Keeps

variable {reliable : Bool} {I : Trees → Prop} {kind : String} {tree : TreeName} {key : DataValue}

lemma bind {m : DbM α} {f : α → DbM β} (hm : Keeps reliable I m)
    (hf : ∀ a, Keeps reliable I (f a)) : Keeps reliable I (m >>= f) :=
  TreeTriple.bind (R := fun _ => I) (hm.mono (fun _ h => h) fun r _ h => by cases r <;> exact h) hf

lemma lift (x : Except NativeXelisError α) : Keeps reliable I (lift x) :=
  TreeTriple.lift fun _ h => h

lemma lift_bind {x : Except NativeXelisError α} {f : α → DbM β}
    (hf : ∀ a, x = .ok a → Keeps reliable I (f a)) : Keeps reliable I (Programs.lift x >>= f) := by
  cases x with
  | error => exact fun db hdb => hdb
  | ok a => exact hf a rfl

lemma forEach {as : List α} {f : α → DbM Unit} (hf : ∀ a, Keeps reliable I (f a)) :
    Keeps reliable I (forEach as f) := by
  induction as with
  | nil => exact lift (.ok ())
  | cons a as ih => exact bind (hf a) fun _ => ih

lemma has : Keeps reliable I (hasCustomData tree key kind) :=
  TreeTriple.has (fun _ h => h) fun _ _ h => h

lemma query : Keeps reliable I (queryDb tree kind) :=
  TreeTriple.query (fun _ h => h) fun _ _ h => h

lemma get : Keeps reliable I (getCustomData tree key kind) :=
  bind (TreeTriple.access (fun _ h => h) fun _ _ h => h) fun _ _ hdb => hdb

lemma set {value : DataElement}
    (h : ∀ t, I t → I (Function.update t tree ((t tree).insert key value))) :
    Keeps reliable I (setCustomData tree key value kind) :=
  TreeTriple.set h fun _ _ h => h

lemma delete (h : ∀ t, I t → I (Function.update t tree ((t tree).erase key))) :
    Keeps reliable I (deleteCustomData tree key kind) :=
  TreeTriple.delete h fun _ _ h => h

end Keeps

end XelisWallet.AddressBook
