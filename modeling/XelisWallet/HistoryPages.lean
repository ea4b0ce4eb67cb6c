import XelisWallet.History

/-!
Pages of the history.

Whatever way the storage is read, by a prefix that ends with the page or as a whole, a page is the
same piece of one list, the fully filtered one. So the pages of a filter are the list, cut after
every so many transactions. A filter without a limit has the whole list on every page.
-/

namespace XelisWallet.Transactions

open Fallible Checked NativeError AddressBook FilteredPagination

variable {A K : Type} [DecidableEq K] {R : ReadSuite A K} {wallet : WalletView K}

/-! ### The fully filtered list -/

lemma classifyHistoryError_ok {α : Type} (code : NativeXelisErrorCode) (kind : String) (a : α) :
    classifyHistoryError code kind (.ok a) = .ok a := rfl

/-- What the exact destination leaves of a transaction: of an outgoing one the transfers to its key
with its data, of an incoming one the transfers with its data, if the key is that of the wallet. -/
def reduced (R : ReadSuite A K) (publicKey walletPublicKey : K) (serializedData : List UInt8)
    (transaction : TransactionEntry K) : Option (TransactionEntry K) :=
  let hasData (data : Option PlaintextExtraData) : Prop :=
    (data.bind (·.data)).map R.toBytes = some serializedData
  match transaction.entry with
  | .incoming «from» transfers =>
    let transfers := transfers.filter fun transfer => hasData transfer.extraData
    if publicKey = walletPublicKey ∧ transfers ≠ [] then
      some { transaction with entry := .incoming «from» transfers }
    else none
  | .outgoing transfers fee nonce =>
    let transfers := transfers.filter fun transfer =>
      transfer.destination = publicKey ∧ hasData transfer.extraData
    if transfers ≠ [] then some { transaction with entry := .outgoing transfers fee nonce }
    else none
  | _ => none

lemma matches_eq (destination : ExactIntegratedHistoryDestination K) (publicKey : K)
    (data : Option DataElement) :
    destination.matches R publicKey data = decide (publicKey = destination.publicKey ∧
      data.map R.toBytes = some destination.serializedData) := by
  cases data <;> simp [ExactIntegratedHistoryDestination.matches]

lemma retainExact_eq (destination : ExactIntegratedHistoryDestination K) (walletPublicKey : K)
    (transaction : TransactionEntry K) :
    (if (retainExact R destination walletPublicKey transaction).1 then
      some (retainExact R destination walletPublicKey transaction).2 else none) =
      reduced R destination.publicKey walletPublicKey destination.serializedData transaction := by
  obtain ⟨hash, topoheight, timestamp, entry⟩ := transaction
  cases entry with
  | incoming =>
    by_cases hkey : walletPublicKey = destination.publicKey
    · simp [retainExact, reduced, ExactIntegratedHistoryDestination.matchesWallet, matches_eq, hkey]
    · simp [retainExact, reduced, ExactIntegratedHistoryDestination.matchesWallet, hkey,
        Ne.symm hkey]
  | outgoing => simp [retainExact, reduced, matches_eq]
  | coinbase | burn | multiSig | invokeContract | deployContract | incomingContract | outgoingBlob
  | incomingBlob => rfl

lemma applyExactIntegratedDestination_eq (transactions : List (TransactionEntry K))
    (destination : ExactIntegratedHistoryDestination K) (walletPublicKey : K) :
    applyExactIntegratedDestination R transactions destination walletPublicKey =
      transactions.filterMap
        (reduced R destination.publicKey walletPublicKey destination.serializedData) := by
  simp [applyExactIntegratedDestination, retainMut, retainExact_eq]

/-- The filter without its page. -/
def HistoryPageFilter.unpaged (filter : HistoryPageFilter) : HistoryPageFilter :=
  { filter with page := 1, limit := none }

/-- Everything the filter selects: what the storage returns without a limit, and of it what the
exact destination leaves, if there is one. -/
def fullyFiltered (R : ReadSuite A K) (wallet : WalletView K) (filter : HistoryPageFilter) :
    Except String (List (TransactionEntry K)) := do
  let prepared ← filter.unpaged.prepare R
  let transactions ← wallet.storage.getFilteredTransactions prepared.options
  return match prepared.exactIntegratedDestination with
    | some destination => transactions.filterMap
        (reduced R destination.publicKey wallet.publicKey destination.serializedData)
    | none => transactions

/-- The positions of a page. -/
def pageOf {α : Type} (page limit : ℕ) (all : List α) : List α :=
  (all.drop ((page - 1) * limit)).take limit

/-- The address and the asset of the filter are valid, and the page and the limit are positive. -/
structure HistoryPageFilter.Valid (R : ReadSuite A K) (filter : HistoryPageFilter) : Prop where
  page : 0 < filter.page
  limit : ∀ limit ∈ filter.limit, 0 < limit
  address : ∃ r, prepareAddress R filter.address = .ok r
  asset : ∃ r, prepareAsset R filter.assetHash = .ok r

/-- With a limit the storage returns the beginning of what it returns without one. -/
def ReadsPrefixes (storage : WalletStorage K) : Prop :=
  ∀ (options : TransactionFilterOptions K) (n : ℕ), options.skip = none → options.limit = none →
    storage.getFilteredTransactions { options with limit := some n } =
      (storage.getFilteredTransactions options).map (List.take n)

/-! ### Preparing a page -/

section Prepare

variable {filter : HistoryPageFilter} {limit : ℕ}

omit [DecidableEq K] in
lemma HistoryPageFilter.Valid.prepare_eq (h : filter.Valid R) {address : Option K}
    {exact : Option (ExactIntegratedHistoryDestination K)} {asset : Option String}
    (haddress : prepareAddress R filter.address = .ok (address, exact))
    (hasset : prepareAsset R filter.assetHash = .ok asset) :
    filter.prepare R = (prepareSkip R filter.page filter.limit).map fun skip =>
      ⟨filter.options address asset skip, exact⟩ := by
  simp only [HistoryPageFilter.prepare, ensure, if_pos h.page, if_pos h.limit, haddress, hasset]
  cases prepareSkip R filter.page filter.limit <;> rfl

omit [DecidableEq K] in
lemma HistoryPageFilter.Valid.unpaged (h : filter.Valid R) : filter.unpaged.Valid R where
  page := Nat.one_pos
  limit := by simp [HistoryPageFilter.unpaged]
  address := h.address
  asset := h.asset

omit [DecidableEq K] in
lemma prepareSkip_eq {page : ℕ} (hpage : 0 < page) :
    prepareSkip R page (some limit) =
      if (page - 1) * limit ≤ R.usizeMax then .ok (some ((page - 1) * limit))
      else .error "Pagination offset is too large" := by
  have hone : 1 ≤ page := hpage
  rw [prepareSkip, if_pos hone, checkedMul]
  split <;> rfl

omit [DecidableEq K] in
lemma FilteredPagination.prepare_eq {options : TransactionFilterOptions K} {offset : ℕ}
    (hskip : options.skip = some offset) (hlimit : options.limit = some limit) :
    prepare R options =
      if offset + limit ≤ R.usizeMax then
        .ok (⟨offset, some limit⟩, { options with skip := none, limit := some (offset + limit) })
      else .error "Pagination range is too large" := by
  rw [prepare, hskip, hlimit, Option.getD_some]
  simp only [checkedAdd]
  split <;> rfl

end Prepare

/-! ### A page of the fully filtered list -/

section Pages

variable {α : Type} {filter : HistoryPageFilter} {limit : ℕ}

lemma page_end {page limit : ℕ} (hpage : 0 < page) : (page - 1) * limit + limit = page * limit := by
  obtain ⟨n, rfl⟩ := Nat.exists_eq_succ_of_ne_zero hpage.ne'
  rw [Nat.succ_sub_one, Nat.succ_mul]

lemma pageOf_take {page limit : ℕ} (hpage : 0 < page) (all : List α) :
    pageOf page limit (all.take (page * limit)) = pageOf page limit all := by
  rw [pageOf, pageOf, ← page_end hpage, List.drop_take, Nat.add_sub_cancel_left, List.take_take,
    Nat.min_self]

/-- **The pages in a row** are the list up to the end of the last one. -/
lemma flatMap_pageOf (all : List α) (limit n : ℕ) :
    (List.range n).flatMap (fun i => pageOf (i + 1) limit all) = all.take (n * limit) := by
  induction n with
  | zero => simp
  | succ n ih =>
    rw [List.range_succ, List.flatMap_append, ih, List.flatMap_singleton, pageOf,
      Nat.add_sub_cancel, Nat.succ_mul, List.take_add]

/-- **One page**, whichever way the storage is read. -/
lemma selectTransactions_eq (hstart : ReadsPrefixes wallet.storage) (h : filter.Valid R)
    (hlimit : filter.limit = some limit) (hfits : filter.page * limit ≤ R.usizeMax)
    (filterKind readKind : String) :
    selectTransactions R wallet filterKind readKind filter = classifyHistoryError .storage readKind
        ((fullyFiltered R wallet filter).map (pageOf filter.page limit)) := by
  obtain ⟨⟨address, exact⟩, haddress⟩ := h.address
  obtain ⟨asset, hasset⟩ := h.asset
  have hoffset : (filter.page - 1) * limit ≤ R.usizeMax := by
    have hend : (filter.page - 1) * limit + limit = filter.page * limit := page_end h.page
    omega
  have hpaged : filter.prepare R =
      .ok ⟨filter.options address asset (some ((filter.page - 1) * limit)), exact⟩ := by
    rw [h.prepare_eq haddress hasset, hlimit, prepareSkip_eq h.page, if_pos hoffset]
    rfl
  have hwhole : filter.unpaged.prepare R =
      .ok ⟨filter.unpaged.options address asset none, exact⟩ := by
    rw [h.unpaged.prepare_eq haddress hasset]
    rfl
  have hpagination : prepare R (filter.options address asset (some ((filter.page - 1) * limit))) =
      .ok (⟨(filter.page - 1) * limit, some limit⟩, { filter.unpaged.options address asset none with
          limit := some (filter.page * limit) }) := by
    rw [prepare_eq rfl hlimit, page_end h.page, if_pos hfits]
    rfl
  simp only [selectTransactions, fullyFiltered, hpaged, hwhole, hpagination,
    classifyHistoryError_ok, ok_bind]
  cases exact with
  | none =>
    have hread := hstart (filter.unpaged.options address asset none) (filter.page * limit) rfl rfl
    simp only [Option.isSome_none, Bool.false_eq_true, if_false, hread]
    cases wallet.storage.getFilteredTransactions (filter.unpaged.options address asset none) with
    | error => rfl
    | ok all => exact congrArg Except.ok (pageOf_take h.page all)
  | some =>
    simp only [Option.isSome_some, if_true, applyExactIntegratedDestination_eq]
    have hunlimited : { filter.unpaged.options address asset none with limit := none } =
        filter.unpaged.options address asset none := rfl
    rw [hunlimited]
    cases wallet.storage.getFilteredTransactions (filter.unpaged.options address asset none) <;> rfl

lemma selectTransactions_overflow (h : filter.Valid R) (hlimit : filter.limit = some limit)
    (hover : R.usizeMax < filter.page * limit) :
    ∃ message ∈ ["Pagination offset is too large", "Pagination range is too large"],
      ∀ filterKind readKind, selectTransactions R wallet filterKind readKind filter =
        .error (.walletOperation message .invalidInput filterKind) := by
  obtain ⟨⟨address, exact⟩, haddress⟩ := h.address
  obtain ⟨asset, hasset⟩ := h.asset
  have hprepare := h.prepare_eq haddress hasset
  rw [hlimit, prepareSkip_eq h.page] at hprepare
  by_cases hoffset : (filter.page - 1) * limit ≤ R.usizeMax
  · have hrange : ¬ (filter.page - 1) * limit + limit ≤ R.usizeMax := by
      rw [page_end h.page]
      omega
    have hpagination : prepare R (filter.options address asset (some ((filter.page - 1) * limit))) =
        .error "Pagination range is too large" := by
      rw [prepare_eq rfl hlimit, if_neg hrange]
    rw [if_pos hoffset] at hprepare
    refine ⟨"Pagination range is too large", by simp, fun filterKind readKind => ?_⟩
    simp only [selectTransactions, hprepare, Except.map, classifyHistoryError_ok, ok_bind,
      hpagination]
    rfl
  · rw [if_neg hoffset] at hprepare
    refine ⟨"Pagination offset is too large", by simp, fun filterKind readKind => ?_⟩
    rw [selectTransactions, hprepare]
    rfl

/-- **Pages of the history.** A valid filter has a limit. If the page ends after the largest number
it is an error; else the history is the page of the fully filtered list, or the error of the
storage. The pages in a row are the list up to the end of the last one, a page after its end is
empty, and the export to CSV is given the transactions of the page. -/
theorem history_pages (hstart : ReadsPrefixes wallet.storage) (h : filter.Valid R)
    (hlimit : filter.limit = some limit) :
    (R.usizeMax < filter.page * limit →
      ∃ message ∈ ["Pagination offset is too large", "Pagination range is too large"],
        (∀ disclosure, history R wallet filter disclosure =
          .error (.walletOperation message .invalidInput "WALLET_HISTORY_FILTER_INVALID")) ∧
        ∀ write, exportCsvTransactions R wallet write filter =
          .error (.walletOperation message .invalidInput "WALLET_HISTORY_CSV_FILTER_INVALID")) ∧
    (filter.page * limit ≤ R.usizeMax →
      (∀ error, fullyFiltered R wallet filter = .error error →
        ∀ disclosure, history R wallet filter disclosure =
          .error (.walletOperation error .storage "WALLET_HISTORY_READ_FAILED")) ∧
      ∀ all, fullyFiltered R wallet filter = .ok all →
        (∀ disclosure, history R wallet filter disclosure =
          .ok ((pageOf filter.page limit all).map (readEntry R wallet disclosure))) ∧
        (all.length ≤ (filter.page - 1) * limit →
          ∀ disclosure, history R wallet filter disclosure = .ok []) ∧
        ∀ write, exportCsvTransactions R wallet write filter = do
          ensureTransactionsToExport (pageOf filter.page limit all).length
          classifyHistoryError .serialization "WALLET_HISTORY_CSV_SERIALIZATION_FAILED"
            (write (pageOf filter.page limit all))) ∧
    ∀ all n, fullyFiltered R wallet filter = .ok all → n * limit ≤ R.usizeMax → ∀ disclosure,
      ∃ pages : ℕ → List NativeWalletTransactionEntry,
        (∀ i < n, history R wallet { filter with page := i + 1 } disclosure = .ok (pages i)) ∧
        (List.range n).flatMap pages =
          (all.take (n * limit)).map (readEntry R wallet disclosure) := by
  refine ⟨fun hover => ?_, fun hfits => ⟨fun error herror disclosure => ?_, fun all hall => ?_⟩,
    fun all n hall hn disclosure => ?_⟩
  · obtain ⟨message, hmem, hselect⟩ := selectTransactions_overflow h hlimit hover
    refine ⟨message, hmem, fun disclosure => ?_, fun write => ?_⟩
    · rw [history, hselect, error_bind]
    · rw [exportCsvTransactions, hselect, error_bind]
  · rw [history, selectTransactions_eq hstart h hlimit hfits, herror]
    rfl
  · have hpage : ∀ disclosure, history R wallet filter disclosure =
        .ok ((pageOf filter.page limit all).map (readEntry R wallet disclosure)) := by
      intro disclosure
      rw [history, selectTransactions_eq hstart h hlimit hfits, hall]
      rfl
    refine ⟨hpage, fun hend disclosure => ?_, fun write => ?_⟩
    · rw [hpage, pageOf, List.drop_of_length_le hend, List.take_nil, List.map_nil]
    · rw [exportCsvTransactions, selectTransactions_eq hstart h hlimit hfits, hall]
      rfl
  · refine ⟨fun i => (pageOf (i + 1) limit all).map (readEntry R wallet disclosure), fun i hi => ?_,
      ?_⟩
    · have hvalid : HistoryPageFilter.Valid R { filter with page := i + 1 } :=
        ⟨Nat.succ_pos i, h.limit, h.address, h.asset⟩
      have hfits : (i + 1) * limit ≤ R.usizeMax := (Nat.mul_le_mul_right limit hi).trans hn
      have hsame : fullyFiltered R wallet { filter with page := i + 1 } = .ok all := hall
      rw [history, selectTransactions_eq hstart hvalid hlimit hfits, hsame]
      rfl
    · rw [← flatMap_pageOf, List.map_flatMap]

end Pages

/-! ### Page after page -/

section Asking

variable {filter : HistoryPageFilter} {all : List (TransactionEntry K)}
  {disclosure : NativeWalletExtraDataDisclosure}

/-- Asking for the page, and then for the next ones until one is empty or an error, at most `fuel`
times: what the pages had, if this comes to an end. -/
def pagesUntilEmpty (R : ReadSuite A K) (wallet : WalletView K) (filter : HistoryPageFilter)
    (disclosure : NativeWalletExtraDataDisclosure) :
    ℕ → ℕ → Option (Except NativeXelisError (List NativeWalletTransactionEntry))
  | 0, _ => none
  | fuel + 1, page =>
    match history R wallet { filter with page } disclosure with
    | .error error => some (.error error)
    | .ok [] => some (.ok [])
    | .ok (entry :: entries) =>
      (pagesUntilEmpty R wallet filter disclosure fuel (page + 1)).map fun rest =>
        rest.map (entry :: entries ++ ·)

omit [DecidableEq K] in
lemma HistoryPageFilter.Valid.atPage (h : filter.Valid R) {page : ℕ} (hpage : 0 < page) :
    HistoryPageFilter.Valid R { filter with page } :=
  ⟨hpage, h.limit, h.address, h.asset⟩

/-- Without a limit every page is the whole list: the page is dropped when the filter is prepared,
and nothing is cut out of what the storage returns. -/
lemma selectTransactions_unlimited (h : filter.Valid R) (hlimit : filter.limit = none)
    (filterKind readKind : String) :
    selectTransactions R wallet filterKind readKind filter =
      classifyHistoryError .storage readKind (fullyFiltered R wallet filter) := by
  obtain ⟨⟨address, exact⟩, haddress⟩ := h.address
  obtain ⟨asset, hasset⟩ := h.asset
  have hprepare : filter.prepare R = .ok ⟨filter.options address asset none, exact⟩ := by
    rw [h.prepare_eq haddress hasset, hlimit]
    rfl
  have hwhole : filter.unpaged.prepare R = .ok ⟨filter.options address asset none, exact⟩ := by
    rw [h.unpaged.prepare_eq haddress hasset]
    simp only [HistoryPageFilter.options, hlimit]
    rfl
  have hpagination : prepare R (filter.options address asset none) =
      .ok (⟨0, none⟩, filter.options address asset none) := by
    simp only [HistoryPageFilter.options, hlimit]
    rfl
  have hoptions : { filter.options address asset none with limit := none } =
      filter.options address asset none := by
    simp only [HistoryPageFilter.options, hlimit]
  simp only [selectTransactions, fullyFiltered, hprepare, hwhole, hpagination,
    classifyHistoryError_ok, ok_bind, hoptions, ite_self, applyExactIntegratedDestination_eq]
  cases wallet.storage.getFilteredTransactions (filter.options address asset none) with
  | error => rfl
  | ok => cases exact <;> rfl

lemma history_unlimited (h : filter.Valid R) (hlimit : filter.limit = none)
    (hall : fullyFiltered R wallet filter = .ok all) {page : ℕ} (hpage : 0 < page) :
    history R wallet { filter with page } disclosure =
      .ok (all.map (readEntry R wallet disclosure)) := by
  have hsame : fullyFiltered R wallet { filter with page } = .ok all := hall
  rw [history, selectTransactions_unlimited (h.atPage hpage) hlimit, hsame]
  rfl

lemma pagesUntilEmpty_unlimited (h : filter.Valid R) (hlimit : filter.limit = none)
    (hall : fullyFiltered R wallet filter = .ok all) (hne : all ≠ []) (fuel : ℕ) {page : ℕ}
    (hpage : 0 < page) : pagesUntilEmpty R wallet filter disclosure fuel page = none := by
  induction fuel generalizing page with
  | zero => rfl
  | succ fuel ih =>
    obtain ⟨transaction, rest, rfl⟩ := List.exists_cons_of_ne_nil hne
    rw [pagesUntilEmpty, history_unlimited h hlimit hall hpage, List.map_cons,
      ih (Nat.succ_pos page)]
    rfl

lemma history_limited {limit : ℕ} (hstart : ReadsPrefixes wallet.storage) (h : filter.Valid R)
    (hlimit : filter.limit = some limit) {page : ℕ} (hpage : 0 < page) :
    (∃ error, history R wallet { filter with page } disclosure = .error error) ∨
      ∃ all, fullyFiltered R wallet filter = .ok all ∧
        history R wallet { filter with page } disclosure =
          .ok ((pageOf page limit all).map (readEntry R wallet disclosure)) := by
  have hvalid := h.atPage hpage
  have hsame : fullyFiltered R wallet { filter with page } = fullyFiltered R wallet filter := rfl
  by_cases hfits : page * limit ≤ R.usizeMax
  · rw [history, selectTransactions_eq hstart hvalid hlimit hfits, hsame]
    cases fullyFiltered R wallet filter with
    | error => exact .inl ⟨_, rfl⟩
    | ok all => exact .inr ⟨all, rfl, rfl⟩
  · obtain ⟨message, -, hselect⟩ := selectTransactions_overflow hvalid hlimit (not_le.mp hfits)
    rw [history, hselect]
    exact .inl ⟨_, rfl⟩

/-- With a limit asking ends: a page that is not empty moves on in the list, of which at most `fuel`
transactions are left. -/
lemma pagesUntilEmpty_ends {limit : ℕ} (hstart : ReadsPrefixes wallet.storage) (h : filter.Valid R)
    (hlimit : filter.limit = some limit) (fuel : ℕ) {page : ℕ} (hpage : 0 < page)
    (hfuel : ∀ all, fullyFiltered R wallet filter = .ok all →
      all.length ≤ (page - 1) * limit + fuel) :
    ∃ r, pagesUntilEmpty R wallet filter disclosure (fuel + 1) page = some r := by
  have hpos : 0 < limit := h.limit limit hlimit
  induction fuel generalizing page with
  | zero =>
    rw [pagesUntilEmpty]
    obtain ⟨error, herror⟩ | ⟨all, hall, hok⟩ := history_limited hstart h hlimit hpage
    · exact ⟨_, by rw [herror]⟩
    have hend : all.length ≤ (page - 1) * limit := hfuel all hall
    rw [pageOf, List.drop_of_length_le hend, List.take_nil, List.map_nil] at hok
    exact ⟨_, by rw [hok]⟩
  | succ fuel ih =>
    have hnext : ∀ all, fullyFiltered R wallet filter = .ok all →
        all.length ≤ (page + 1 - 1) * limit + fuel := by
      intro all hall
      have hleft := hfuel all hall
      have hend : (page - 1) * limit + limit = page * limit := page_end hpage
      rw [Nat.add_sub_cancel]
      omega
    obtain ⟨r, hr⟩ := ih (Nat.succ_pos page) hnext
    rw [pagesUntilEmpty, hr]
    cases history R wallet { filter with page } disclosure with
    | error => exact ⟨_, rfl⟩
    | ok entries =>
      cases entries with
      | nil | cons => exact ⟨_, rfl⟩

/-- **Pages without a limit.** A filter without a limit has the whole list on every page. So a page
is what pages of one whole list would be, everything on the first and nothing on the others, exactly
if it is the first or the list is empty; and asking for page after page until one is empty ends
exactly if the list is empty, while with any limit it ends. -/
theorem unlimited_pages_iff (hstart : ReadsPrefixes wallet.storage) (h : filter.Valid R)
    (hlimit : filter.limit = none) (hall : fullyFiltered R wallet filter = .ok all)
    (disclosure : NativeWalletExtraDataDisclosure) :
    (∀ page, 0 < page → (history R wallet { filter with page } disclosure =
        .ok (if page = 1 then all.map (readEntry R wallet disclosure) else []) ↔
      page = 1 ∨ all = [])) ∧
    ((∃ fuel r, pagesUntilEmpty R wallet filter disclosure fuel 1 = some r) ↔ all = []) ∧
    ∀ limit, 0 < limit → ∃ fuel r,
      pagesUntilEmpty R wallet { filter with limit := some limit } disclosure fuel 1 = some r := by
  refine ⟨fun page hpage => ?_, ⟨?_, ?_⟩, fun limit hpos => ?_⟩
  · rw [history_unlimited h hlimit hall hpage, Except.ok.injEq]
    by_cases hfirst : page = 1
    · simp [hfirst]
    · simp [hfirst]
  · rintro ⟨fuel, r, hr⟩
    by_contra hne
    rw [pagesUntilEmpty_unlimited h hlimit hall hne fuel Nat.one_pos] at hr
    cases hr
  · rintro rfl
    refine ⟨1, .ok [], ?_⟩
    rw [pagesUntilEmpty, history_unlimited h hlimit hall Nat.one_pos]
    rfl
  · have hvalid : HistoryPageFilter.Valid R { filter with limit := some limit } :=
      ⟨h.page, by rintro _ ⟨⟩; exact hpos, h.address, h.asset⟩
    refine ⟨all.length + 1, pagesUntilEmpty_ends hstart hvalid rfl _ Nat.one_pos ?_⟩
    intro all' hall'
    have hsame : fullyFiltered R wallet filter = .ok all' := hall'
    rw [hall] at hsame
    cases hsame
    omega

end Asking

/-! ### A small history -/

/-- Two keys; the address `w7` is integrated, on the key of the wallet. -/
def letterRead : ReadSuite (Bool × Option DataElement) Bool where
  addressFromString text := if text = "w7" then some (true, some (.value (.u8 7))) else none
  addressToString a := if a.1 then "w" else "x"
  extractData a := (a.2, (a.1, none))
  toPublicKey := Prod.fst
  toAddress _ key := (key, none)
  hashFromHex := some
  toBytes
    | .value (.u8 n) => [n]
    | _ => []
  usizeMax := u32Max

/-- A transaction with data, one without, and an incoming one with the data. -/
def letterHistory : List (TransactionEntry Bool) :=
  let data : Option PlaintextExtraData := some ⟨none, some (.value (.u8 7)), .private⟩
  [⟨"1", 1, 1, .outgoing [⟨true, "x", 5, data⟩, ⟨false, "x", 5, data⟩] 1 1⟩,
    ⟨"2", 2, 2, .outgoing [⟨true, "x", 5, none⟩] 1 2⟩,
    ⟨"3", 3, 3, .incoming false [⟨"x", 5, data⟩, ⟨"x", 6, none⟩]⟩]

def letterWallet : WalletView Bool where
  publicKey := true
  mainnet := true
  storage :=
    { getFilteredTransactions := fun options => .ok (match options.limit with
        | some n => letterHistory.take n
        | none => letterHistory)
      getTransaction := fun _ => .error "not found"
      pendingTxs := [] }

lemma letter_readsPrefixes : ReadsPrefixes letterWallet.storage := by
  intro options n hskip hlimit
  simp only [letterWallet, hlimit]
  rfl

/-- The second page of the transactions for the integrated address, with one on a page. -/
theorem letter_second_page :
    history letterRead letterWallet
        ⟨2, some 1, none, some "w7", none, none, true, true, true, true, true, none, none⟩
        .redacted =
      .ok [⟨"3", 3, 3, .incoming "x" [⟨"x", 5, some ⟨.private, true, none, none⟩⟩]⟩] := by
  have hvalid : HistoryPageFilter.Valid letterRead
      ⟨2, some 1, none, some "w7", none, none, true, true, true, true, true, none, none⟩ :=
    ⟨by decide, by simp, ⟨_, rfl⟩, ⟨_, rfl⟩⟩
  obtain ⟨-, hpage, -⟩ := history_pages letter_readsPrefixes hvalid rfl
  exact ((hpage (by decide)).2 _ rfl).1 .redacted

/-- The filter that accepts everything, without a limit. -/
def letterEverything : HistoryPageFilter :=
  ⟨1, none, none, none, none, none, true, true, true, true, true, none, none⟩

lemma letterEverything_valid : letterEverything.Valid letterRead :=
  ⟨by decide, by simp [letterEverything], ⟨_, rfl⟩, ⟨_, rfl⟩⟩

/-- The second page without a limit has the three transactions of the first one again, and asking
for page after page does not end. -/
theorem second_page_repeats_first :
    history letterRead letterWallet { letterEverything with page := 2 } .redacted =
      history letterRead letterWallet letterEverything .redacted ∧
    history letterRead letterWallet { letterEverything with page := 2 } .redacted ≠ .ok [] ∧
    ∀ fuel, pagesUntilEmpty letterRead letterWallet letterEverything .redacted fuel 1 = none := by
  have hall : fullyFiltered letterRead letterWallet letterEverything = .ok letterHistory := rfl
  refine ⟨rfl, ?_, fun fuel => ?_⟩
  · rw [history_unlimited letterEverything_valid rfl hall (Nat.succ_pos 1)]
    simp [letterHistory]
  · exact pagesUntilEmpty_unlimited letterEverything_valid rfl hall (by simp [letterHistory]) fuel
      Nat.one_pos

/-- With a limit of one, asking for the pages of the three transactions ends. -/
theorem limited_pages_end :
    ∃ fuel r, pagesUntilEmpty letterRead letterWallet
      { letterEverything with limit := some 1 } .redacted fuel 1 = some r := by
  have hall : fullyFiltered letterRead letterWallet letterEverything = .ok letterHistory := rfl
  exact (unlimited_pages_iff letter_readsPrefixes letterEverything_valid rfl hall .redacted).2.2 1
    Nat.one_pos

end XelisWallet.Transactions
