import Mathlib.Data.List.AList
import Mathlib.Data.List.Infix
import XelisWallet.Fallible
import XelisWallet.JsonText
import XelisWallet.NativeError
import XelisWallet.Programs

/-!
The address book of a wallet (`address_book_v2.rs`).

Entries are kept in a tree of the encrypted storage, under ids derived from their canonical address;
an older tree is migrated into it once. The storage is a map for each tree, and every access to it
can fail, which stops the operation. The iteration order of the older tree is the order of its list,
and that of the hash map is a parameter.
-/

namespace XelisWallet.AddressBook

open Fallible Text NativeError Programs

/-! ### Data -/

inductive DataValue
  | bool (value : Bool)
  | string (value : String)
  | u8 (value : UInt8)
  | u16 (value : UInt16)
  | u32 (value : UInt32)
  | u64 (value : UInt64)
  | u128 (value : ℕ)
  | hash (value : String)
  | blob (value : List UInt8)
  deriving DecidableEq

inductive DataElement
  | value (value : DataValue)
  | array (values : List DataElement)
  | fields (fields : List (DataValue × DataElement))

inductive NativeIntegratedDataKind
  | boolValue
  | string
  | u8
  | u16
  | u32
  | u64
  | u128
  | hash
  | blob
  | array
  | fields
  deriving DecidableEq

inductive NativeSavedDestinationKind
  | standard
  | integrated
  deriving DecidableEq

structure NativeSavedDestination where
  address : String
  baseAddress : String
  kind : NativeSavedDestinationKind
  integratedDataKind : Option NativeIntegratedDataKind
  deriving DecidableEq

structure NativeAddressBookEntry where
  id : String
  displayName : String
  destinationLabel : Option String
  note : Option String
  destination : NativeSavedDestination
  deriving DecidableEq

structure NativeAddressBookPage where
  entries : List NativeAddressBookEntry
  total : ℕ
  hasMore : Bool

inductive NativeAddressBookMatchKind
  | exact
  | baseOnly
  | ambiguous
  | none
  deriving DecidableEq

structure NativeAddressBookMatch where
  kind : NativeAddressBookMatchKind
  entries : List NativeAddressBookEntry

structure NativeAddressBookMigrationResult where
  migratedEntries : UInt32
  alreadyComplete : Bool

structure CanonicalDestination where
  address : String
  baseAddress : String
  integratedData : Option DataElement
  integratedDataKind : Option NativeIntegratedDataKind

/-- The functions the address book is given, over addresses `A`, public keys `K` and data elements
of the bridge `N`. -/
structure Suite (A K N : Type) where
  address : Codec A
  isMainnet : A → Bool
  /-- The data of an integrated address, and the address without it. -/
  extractData : A → Option DataElement × A
  toPublicKey : A → K
  /-- `Address::new` with data. -/
  newIntegrated : Bool → DataElement → K → A
  /-- The kind and the message of an error, whose code is that of an invalid input. -/
  intoXelis : N → Except (String × String) DataElement
  /-- The hash of an address text, in hexadecimal. -/
  entryId : String → String
  toLowercase : String → String

variable {A K N : Type}

/-! ### Entries and their encoding -/

def migrationMarkerKey : DataValue := .string "_meta:migration_v1_complete"

def schemaVersion : UInt8 := 2

def maxAddressBytes : ℕ := 8192

def maxDisplayNameChars : ℕ := 128

def maxDestinationLabelChars : ℕ := 128

def maxNoteChars : ℕ := 2048

def maxQueryChars : ℕ := 256

def maxPageSize : ℕ := 500

def CanonicalDestination.toNative (d : CanonicalDestination) : NativeSavedDestination where
  address := d.address
  baseAddress := d.baseAddress
  kind := if d.integratedData.isSome then .integrated else .standard
  integratedDataKind := d.integratedDataKind

def dataKind : DataElement → NativeIntegratedDataKind
  | .value (.bool _) => .boolValue
  | .value (.string _) => .string
  | .value (.u8 _) => .u8
  | .value (.u16 _) => .u16
  | .value (.u32 _) => .u32
  | .value (.u64 _) => .u64
  | .value (.u128 _) => .u128
  | .value (.hash _) => .hash
  | .value (.blob _) => .blob
  | .array _ => .array
  | .fields _ => .fields

def canonicalDestination (S : Suite A K N) (address : String) (expectedMainnet : Bool) :
    Except NativeXelisError CanonicalDestination := do
  let address := trim address
  ensure (address ≠ "" ∧ address.utf8ByteSize ≤ maxAddressBytes)
    (.flutter .invalidInput "ADDRESS_BOOK_ADDRESS_INVALID"
      "Address-book destination is empty or exceeds the supported size")
  let parsed ← context (S.address.ofText address)
    (.flutter .invalidInput "ADDRESS_BOOK_ADDRESS_INVALID"
      "Address-book destination is not a valid XELIS address")
  ensure (S.isMainnet parsed = expectedMainnet)
    (.flutter .networkMismatch "ADDRESS_BOOK_ADDRESS_NETWORK_MISMATCH"
      "Address-book destination belongs to a different network")
  let (integratedData, base) := S.extractData parsed
  return {
    address := S.address.toText parsed
    baseAddress := S.address.toText base
    integratedData
    integratedDataKind := integratedData.map dataKind }

def canonicalDestinationFromParts (S : Suite A K N) (baseAddress : String)
    (integratedData : Option N) (expectedMainnet : Bool) :
    Except NativeXelisError CanonicalDestination := do
  let base ← canonicalDestination S baseAddress expectedMainnet
  ensure base.integratedData.isNone
    (.flutter .invalidInput "ADDRESS_BOOK_BASE_ADDRESS_INTEGRATED"
      "Address-book base address must not contain integrated data")
  match integratedData with
  | none => return base
  | some integratedData => do
    let integratedData ← (S.intoXelis integratedData).mapError fun e =>
      .flutter .invalidInput e.1 e.2
    let address ← context (S.address.ofText base.address)
      (.flutter .internal "ADDRESS_BOOK_BASE_ADDRESS_INCONSISTENT"
        "Canonical address-book base address could not be reconstructed")
    let address := S.newIntegrated expectedMainnet integratedData (S.toPublicKey address)
    canonicalDestination S (S.address.toText address) expectedMainnet

def normalizeRequired (value : String) (maxChars : ℕ) (nativeKind diagnosticMessage : String) :
    Except NativeXelisError String := do
  let value := trim value
  ensure (value ≠ "" ∧ value.length ≤ maxChars)
    (.flutter .invalidInput nativeKind diagnosticMessage)
  return value

def normalizeOptional (value : Option String) (maxChars : ℕ)
    (nativeKind diagnosticMessage : String) : Except NativeXelisError (Option String) :=
  match value with
  | none => return none
  | some value => do
    let value := trim value
    if value = "" then return none
    else
      ensure (value.length ≤ maxChars) (.flutter .invalidInput nativeKind diagnosticMessage)
      return some value

def entryKey (id : String) : DataValue := .string ("entry:" ++ id)

def validateEntryId (id : String) : Except NativeXelisError Unit :=
  ensure (id.utf8ByteSize = 64 ∧ id.toList.all fun c => c.isDigit || ('a' ≤ c && c ≤ 'f'))
    (.flutter .invalidInput "ADDRESS_BOOK_ENTRY_ID_INVALID"
      "Address-book entry identifier is invalid")

def normalizeEntry (S : Suite A K N) (address displayName : String)
    (destinationLabel note : Option String) (mainnet : Bool) :
    Except NativeXelisError NativeAddressBookEntry := do
  let destination ← canonicalDestination S address mainnet
  let displayName ← normalizeRequired displayName maxDisplayNameChars
    "ADDRESS_BOOK_DISPLAY_NAME_INVALID"
    "Address-book display name is empty or exceeds the supported size"
  let destinationLabel ← normalizeOptional destinationLabel maxDestinationLabelChars
    "ADDRESS_BOOK_DESTINATION_LABEL_INVALID"
    "Address-book destination label exceeds the supported size"
  let note ← normalizeOptional note maxNoteChars "ADDRESS_BOOK_NOTE_INVALID"
    "Address-book note exceeds the supported size"
  return {
    id := S.entryId destination.address
    displayName
    destinationLabel
    note
    destination := destination.toNative }

def stringField (fields : List (DataValue × DataElement)) (name : String) (required : Bool) :
    Except NativeXelisError (Option String) :=
  match fields.lookup (.string name) with
  | none =>
    if required then
      .error (.flutter .serialization "ADDRESS_BOOK_ENTRY_SCHEMA_INVALID"
        "Address-book entry is missing a required field")
    else return none
  | some (.value (.string value)) => return some value
  | some _ =>
    .error (.flutter .serialization "ADDRESS_BOOK_ENTRY_SCHEMA_INVALID"
      "Address-book entry contains an invalid field type")

/-- A required field, whose `expect` never fails. -/
def requiredField (fields : List (DataValue × DataElement)) (name : String) :
    Except NativeXelisError String := do
  let value ← stringField fields name true
  return value.getD ""

/-- A field that is written only with a value. -/
def optionalField (name : String) : Option String → List (DataValue × DataElement)
  | none => []
  | some value => [(.string name, .value (.string value))]

def encodeEntry (entry : NativeAddressBookEntry) : DataElement :=
  .fields ([(.string "schema_version", .value (.u8 schemaVersion)),
      (.string "id", .value (.string entry.id)),
      (.string "display_name", .value (.string entry.displayName))] ++
    optionalField "destination_label" entry.destinationLabel ++
    optionalField "note" entry.note ++
    [(.string "address", .value (.string entry.destination.address))])

def decodeEntry (S : Suite A K N) (keyId : String) (value : DataElement) (mainnet : Bool) :
    Except NativeXelisError NativeAddressBookEntry :=
  match value with
  | .fields fields => do
    match fields.lookup (.string "schema_version") with
    | some (.value (.u8 version)) =>
      ensure (version = schemaVersion)
        (.flutter .unsupported "ADDRESS_BOOK_SCHEMA_VERSION_UNSUPPORTED"
          "Address-book entry schema version is unsupported")
    | _ =>
      .error (.flutter .unsupported "ADDRESS_BOOK_SCHEMA_VERSION_UNSUPPORTED"
        "Address-book entry schema version is unsupported")
    let storedId ← requiredField fields "id"
    let displayName ← requiredField fields "display_name"
    let address ← requiredField fields "address"
    let destinationLabel ← stringField fields "destination_label" false
    let note ← stringField fields "note" false
    let normalized ← normalizeEntry S address displayName destinationLabel note mainnet
    ensure (storedId = keyId ∧ normalized.id = keyId)
      (.flutter .serialization "ADDRESS_BOOK_ENTRY_ID_MISMATCH"
        "Address-book entry identifier does not match its canonical destination")
    return normalized
  | _ =>
    .error (.flutter .serialization "ADDRESS_BOOK_ENTRY_SCHEMA_INVALID"
      "Address-book entry is not a fields element")

def encodeMarker (migratedEntries : UInt32) : DataElement :=
  .fields [(.string "schema_version", .value (.u8 schemaVersion)),
    (.string "migrated_entries", .value (.u32 migratedEntries))]

def markerInvalid : NativeXelisError :=
  .flutter .serialization "ADDRESS_BOOK_MIGRATION_MARKER_INVALID"
    "Address-book migration marker is invalid"

def decodeMarker : DataElement → Except NativeXelisError UInt32
  | .fields fields =>
    match fields.lookup (.string "schema_version"), fields.lookup (.string "migrated_entries") with
    | some (.value (.u8 version)), some (.value (.u32 count)) => do
      ensure (version = schemaVersion) markerInvalid
      return count
    | _, _ => .error markerInvalid
  | _ => .error markerInvalid

/-! ### The storage -/

inductive TreeName
  | legacy
  | addressBookV2
  deriving DecidableEq

/-- A tree of the storage: a map, with the order in which it is listed. -/
abbrev Tree := AList fun _ : DataValue => DataElement

/-- What a query of a whole tree lists. -/
def listing (t : Tree) : List (DataValue × DataElement) := t.entries.map fun e => (e.1, e.2)

/-- The storage, and how many more accesses to it succeed before one fails, if any does. -/
structure Db where
  trees : TreeName → Tree
  budget : Option ℕ

abbrev DbM := Program NativeXelisError Db

/-- Every access can fail. -/
def access (nativeKind : String) : DbM Unit := fun db =>
  match db.budget with
  | none => (.ok (), db)
  | some 0 => (.error (.storageOperation nativeKind), db)
  | some (n + 1) => (.ok (), { db with budget := some n })

def hasCustomData (tree : TreeName) (key : DataValue) (nativeKind : String) : DbM Bool := do
  access nativeKind
  reads fun db => ((db.trees tree).lookup key).isSome

def getCustomData (tree : TreeName) (key : DataValue) (nativeKind : String) : DbM DataElement := do
  access nativeKind
  let value ← reads fun db => (db.trees tree).lookup key
  lift (context value (.storageOperation nativeKind))

def setCustomData (tree : TreeName) (key : DataValue) (value : DataElement) (nativeKind : String) :
    DbM Unit := do
  access nativeKind
  modifies fun db =>
    { db with trees := Function.update db.trees tree ((db.trees tree).insert key value) }

def deleteCustomData (tree : TreeName) (key : DataValue) (nativeKind : String) : DbM Unit := do
  access nativeKind
  modifies fun db => { db with trees := Function.update db.trees tree ((db.trees tree).erase key) }

def queryDb (tree : TreeName) (nativeKind : String) : DbM (List (DataValue × DataElement)) := do
  access nativeKind
  reads fun db => listing (db.trees tree)

/-! ### The migration -/

def u32Max : ℕ := 2 ^ 32 - 1

/-- The v2 entry of an entry of the older tree. -/
def legacyEntry (S : Suite A K N) (mainnet : Bool) (key : DataValue) (value : DataElement) :
    Except NativeXelisError NativeAddressBookEntry :=
  match key with
  | .string keyAddress =>
    match value with
    | .fields fields => do
      let displayName ← requiredField fields "name"
      let fieldAddress ← requiredField fields "address"
      let note ← stringField fields "note" false
      let canonicalKey ← canonicalDestination S keyAddress mainnet
      let entry ← normalizeEntry S fieldAddress displayName none note mainnet
      ensure (entry.destination.address = canonicalKey.address)
        (.flutter .serialization "ADDRESS_BOOK_LEGACY_ADDRESS_MISMATCH"
          "Legacy address-book key and stored destination do not match")
      return entry
    | _ =>
      .error (.flutter .serialization "ADDRESS_BOOK_LEGACY_ENTRY_INVALID"
        "Legacy address-book entry has an invalid schema")
  | _ =>
    .error (.flutter .serialization "ADDRESS_BOOK_LEGACY_KEY_INVALID"
      "Legacy address-book entry contains an invalid key")

/-- Inserting in the hash map of the entries to migrate, which keeps one entry for each id. -/
def insertMigrated (migrated : List NativeAddressBookEntry) (entry : NativeAddressBookEntry) :
    Except NativeXelisError (List NativeAddressBookEntry) :=
  match migrated.find? (·.id = entry.id) with
  | none => return migrated ++ [entry]
  | some previous => do
    ensure (previous = entry)
      (.flutter .conflict "ADDRESS_BOOK_MIGRATION_DUPLICATE"
        "Legacy address-book entries conflict after canonicalization")
    return migrated

/-- One turn of the loop over the older tree. -/
def collectLegacy (S : Suite A K N) (mainnet : Bool) (migrated : List NativeAddressBookEntry)
    (p : DataValue × DataElement) : Except NativeXelisError (List NativeAddressBookEntry) := do
  let entry ← legacyEntry S mainnet p.1 p.2
  insertMigrated migrated entry

def entryConflict : NativeXelisError :=
  .flutter .conflict "ADDRESS_BOOK_MIGRATION_ENTRY_CONFLICT"
    "Existing address-book v2 entry conflicts with legacy data"

/-- One turn of the loop over the hash map. -/
def migrateEntry (S : Suite A K N) (mainnet : Bool) (entry : NativeAddressBookEntry) :
    DbM Unit := do
  let key := entryKey entry.id
  if ← hasCustomData .addressBookV2 key "ADDRESS_BOOK_MIGRATION_ENTRY_READ_FAILED" then
    let value ← getCustomData .addressBookV2 key "ADDRESS_BOOK_MIGRATION_ENTRY_READ_FAILED"
    let existing ← lift (decodeEntry S entry.id value mainnet)
    lift (ensure (existing = entry) entryConflict)
  else
    setCustomData .addressBookV2 key (encodeEntry entry) "ADDRESS_BOOK_MIGRATION_ENTRY_WRITE_FAILED"

def countOverflow : NativeXelisError :=
  .flutter .internal "ADDRESS_BOOK_ENTRY_COUNT_OVERFLOW"
    "Address-book entry count exceeds the supported range"

/-- The migration when there is no marker; `order` is the iteration order of the hash map. -/
def migrateLegacy (S : Suite A K N) (mainnet : Bool)
    (order : List NativeAddressBookEntry → List NativeAddressBookEntry) :
    DbM NativeAddressBookMigrationResult := do
  let legacy ← queryDb .legacy "ADDRESS_BOOK_MIGRATION_LEGACY_READ_FAILED"
  let migrated ← lift (legacy.foldlM (collectLegacy S mainnet) [])
  forEach (order migrated) (migrateEntry S mainnet)
  lift (ensure (migrated.length ≤ u32Max) countOverflow)
  let migratedEntries := UInt32.ofNat migrated.length
  setCustomData .addressBookV2 migrationMarkerKey (encodeMarker migratedEntries)
    "ADDRESS_BOOK_MIGRATION_MARKER_WRITE_FAILED"
  return { migratedEntries, alreadyComplete := false }

def migrateAddressBookV2 (S : Suite A K N) (mainnet : Bool)
    (order : List NativeAddressBookEntry → List NativeAddressBookEntry) :
    DbM NativeAddressBookMigrationResult := do
  if ← hasCustomData .addressBookV2 migrationMarkerKey
      "ADDRESS_BOOK_MIGRATION_MARKER_READ_FAILED" then
    let value ← getCustomData .addressBookV2 migrationMarkerKey
      "ADDRESS_BOOK_MIGRATION_MARKER_READ_FAILED"
    let count ← lift (decodeMarker value)
    return { migratedEntries := count, alreadyComplete := true }
  else
    migrateLegacy S mainnet order

/-! ### Reading -/

/-- One turn of the loop over the v2 tree. -/
def readEntry (S : Suite A K N) (mainnet : Bool) (key : DataValue) (value : DataElement) :
    Except NativeXelisError (Option NativeAddressBookEntry) :=
  match key with
  | .string key => do
    if DataValue.string key = migrationMarkerKey then return none
    else
      let id ← context (if "entry:".toList <+: key.toList then
          some (String.ofList (key.toList.drop "entry:".length)) else none)
        (.flutter .serialization "ADDRESS_BOOK_ENTRY_KEY_INVALID"
          "Address-book v2 contains an unknown key")
      validateEntryId id
      let entry ← decodeEntry S id value mainnet
      return some entry
  | _ =>
    .error (.flutter .serialization "ADDRESS_BOOK_ENTRY_KEY_INVALID"
      "Address-book v2 contains an invalid key")

/-- Entries are listed by their name and then by their id. -/
def listedBefore (S : Suite A K N) (left right : NativeAddressBookEntry) : Bool :=
  let leftName := S.toLowercase left.displayName
  let rightName := S.toLowercase right.displayName
  leftName < rightName || (leftName == rightName && left.id ≤ right.id)

def readV2Entries (S : Suite A K N) (mainnet : Bool) : DbM (List NativeAddressBookEntry) := do
  let values ← queryDb .addressBookV2 "ADDRESS_BOOK_LIST_FAILED"
  let entries ← lift (values.mapM fun p => readEntry S mainnet p.1 p.2)
  return (entries.filterMap id).mergeSort (listedBefore S)

def matchDestination (entries : List NativeAddressBookEntry) (destination : CanonicalDestination) :
    NativeAddressBookMatch :=
  match entries.find? (·.destination.address = destination.address) with
  | some entry => ⟨.exact, [entry]⟩
  | none =>
    let baseMatches := entries.filter (·.destination.baseAddress = destination.baseAddress)
    let kind := match baseMatches.length with
      | 0 => .none
      | 1 => .baseOnly
      | _ => .ambiguous
    ⟨kind, baseMatches⟩

/-! ### The operations -/

/-- Whether an entry contains the text of a query. -/
def matchesQuery (S : Suite A K N) (query : String) (entry : NativeAddressBookEntry) : Bool :=
  let contains (text : String) : Bool := query.toList <:+: (S.toLowercase text).toList
  contains entry.displayName || entry.destinationLabel.any contains ||
    contains entry.destination.address

/-- Whether an entry is listed: all of them without a query. -/
def selected (S : Suite A K N) (query : Option String) (e : NativeAddressBookEntry) : Bool :=
  match query with
  | none => true
  | some query => matchesQuery S (S.toLowercase query) e

section Operations

variable (S : Suite A K N) (mainnet : Bool)
  (order : List NativeAddressBookEntry → List NativeAddressBookEntry)

/-- A listing, once the migration has returned. -/
def listEntries (query : Option String) (skip : ℕ) (take : Option ℕ) :
    DbM NativeAddressBookPage := do
  lift (ensure (∀ value ∈ take, value ≠ 0 ∧ value ≤ maxPageSize)
    (.flutter .invalidInput "ADDRESS_BOOK_PAGE_SIZE_INVALID"
      "Address-book page size is outside the supported range"))
  let query ← lift (normalizeOptional query maxQueryChars "ADDRESS_BOOK_QUERY_INVALID"
    "Address-book query exceeds the supported size")
  let entries ← readV2Entries S mainnet
  let entries := entries.filter (selected S query)
  lift (ensure (entries.length ≤ u32Max) countOverflow)
  let page := match take with
    | some take => (entries.drop skip).take take
    | none => entries.drop skip
  return {
    entries := page
    total := entries.length
    hasMore := skip + page.length < entries.length }

def listAddressBookEntriesV2 (query : Option String) (skip : ℕ) (take : Option ℕ) :
    DbM NativeAddressBookPage := do
  let _ ← migrateAddressBookV2 S mainnet order
  listEntries S mainnet query skip take

def upsertAddressBookEntryV2 (address displayName : String)
    (destinationLabel note : Option String) : DbM NativeAddressBookEntry := do
  let _ ← migrateAddressBookV2 S mainnet order
  let entry ← lift (normalizeEntry S address displayName destinationLabel note mainnet)
  setCustomData .addressBookV2 (entryKey entry.id) (encodeEntry entry)
    "ADDRESS_BOOK_ENTRY_WRITE_FAILED"
  return entry

def entryNotFound : NativeXelisError :=
  .flutter .notFound "ADDRESS_BOOK_ENTRY_NOT_FOUND" "Address-book entry was not found"

def removeAddressBookEntryV2 (entryId : String) : DbM Unit := do
  let _ ← migrateAddressBookV2 S mainnet order
  lift (validateEntryId entryId)
  let key := entryKey entryId
  let present ← hasCustomData .addressBookV2 key "ADDRESS_BOOK_ENTRY_READ_FAILED"
  lift (ensure present entryNotFound)
  deleteCustomData .addressBookV2 key "ADDRESS_BOOK_ENTRY_DELETE_FAILED"

def findAddressBookEntryV2 (entryId : String) : DbM NativeAddressBookEntry := do
  let _ ← migrateAddressBookV2 S mainnet order
  lift (validateEntryId entryId)
  let key := entryKey entryId
  let present ← hasCustomData .addressBookV2 key "ADDRESS_BOOK_ENTRY_READ_FAILED"
  lift (ensure present entryNotFound)
  let value ← getCustomData .addressBookV2 key "ADDRESS_BOOK_ENTRY_READ_FAILED"
  lift (decodeEntry S entryId value mainnet)

def matchAddressBookAddressV2 (address : String) : DbM NativeAddressBookMatch := do
  let _ ← migrateAddressBookV2 S mainnet order
  let destination ← lift (canonicalDestination S address mainnet)
  let entries ← readV2Entries S mainnet
  return matchDestination entries destination

def matchAddressBookDestinationV2 (baseAddress : String) (integratedData : Option N) :
    DbM NativeAddressBookMatch := do
  let _ ← migrateAddressBookV2 S mainnet order
  let destination ← lift (canonicalDestinationFromParts S baseAddress integratedData mainnet)
  let entries ← readV2Entries S mainnet
  return matchDestination entries destination

end Operations

end XelisWallet.AddressBook
