import Mathlib.Data.List.Sort
import Mathlib.Data.String.Basic
import XelisWallet.AddressBookMatch

/-!
Pages of the address book.

A client asks for a page, and goes on after its last entry as long as there are more. The storage
may list the tree in another order at every call, and the client may ask for another number of
entries. Sorting makes one list of them all, because no two entries have one id.
-/

namespace XelisWallet.AddressBook

open Fallible Text NativeError Programs Runs

variable {A K N : Type} {S : Suite A K N} {mainnet reliable : Bool}

/-! ### The sorted entries -/

/-- The name, in lower case, comes before, or it is the same and the id comes before. -/
def Before (S : Suite A K N) (left right : NativeAddressBookEntry) : Prop :=
  S.toLowercase left.displayName < S.toLowercase right.displayName ∨
    S.toLowercase left.displayName = S.toLowercase right.displayName ∧ left.id < right.id

lemma Before.asymm {left right : NativeAddressBookEntry} (h : Before S left right) :
    ¬ Before S right left := by
  rintro (hname | ⟨hname, hid⟩)
  · obtain h | ⟨h, -⟩ := h
    · exact lt_asymm h hname
    · exact hname.ne h.symm
  · obtain h | ⟨-, h⟩ := h
    · exact h.ne hname.symm
    · exact lt_asymm h hid

variable {es : List NativeAddressBookEntry} {t : Tree}

lemma nodup_of_before (h : es.Pairwise (Before S)) : es.Nodup := by
  refine h.imp fun {a b} hab heq => ?_
  subst heq
  exact hab.asymm hab

lemma listedBefore_iff {left right : NativeAddressBookEntry} :
    listedBefore S left right = true ↔
      S.toLowercase left.displayName < S.toLowercase right.displayName ∨
        S.toLowercase left.displayName = S.toLowercase right.displayName ∧
          left.id ≤ right.id := by
  simp [listedBefore]

lemma listedBefore_trans {a b c : NativeAddressBookEntry} (hab : listedBefore S a b = true)
    (hbc : listedBefore S b c = true) : listedBefore S a c = true := by
  rw [listedBefore_iff] at hab hbc ⊢
  obtain hab | ⟨hab, hid⟩ := hab
  · obtain hbc | ⟨hbc, -⟩ := hbc
    · exact .inl (hab.trans hbc)
    · exact .inl (hbc ▸ hab)
  · obtain hbc | ⟨hbc, hid'⟩ := hbc
    · exact .inl (hab ▸ hbc)
    · exact .inr ⟨hab.trans hbc, hid.trans hid'⟩

lemma listedBefore_total (a b : NativeAddressBookEntry) :
    (listedBefore S a b || listedBefore S b a) = true := by
  rw [Bool.or_eq_true, listedBefore_iff, listedBefore_iff]
  obtain h | h | h := lt_trichotomy (S.toLowercase a.displayName) (S.toLowercase b.displayName)
  · exact .inl (.inl h)
  · obtain hid | hid := le_total a.id b.id
    · exact .inl (.inr ⟨h, hid⟩)
    · exact .inr (.inr ⟨h.symm, hid⟩)
  · exact .inr (.inl h)

/-- The list has every entry of the tree, in the order of the names and the ids. -/
structure SortedBook (S : Suite A K N) (mainnet : Bool) (t : Tree)
    (es : List NativeAddressBookEntry) : Prop where
  sorted : es.Pairwise (Before S)
  mem : ∀ e, e ∈ es ↔ InBook S mainnet t e

lemma Sound.inBook_id_inj (ht : Sound S mainnet t) {e e' : NativeAddressBookEntry}
    (he : InBook S mainnet t e) (he' : InBook S mainnet t e') (hid : e.id = e'.id) : e = e' := by
  obtain ⟨hwf, hv⟩ := ht.inBook.mp he
  obtain ⟨hwf', hv'⟩ := ht.inBook.mp he'
  rw [hid, hv', Option.some_inj] at hv
  exact encodeEntry_inj hwf hwf' hid hv.symm

lemma sortedBook_of_mapM (hid : IdLaws S) (ht : Sound S mainnet t)
    {os : List (Option NativeAddressBookEntry)}
    (hos : (listing t).mapM (fun p => readEntry S mainnet p.1 p.2) = .ok os) :
    SortedBook S mainnet t ((os.filterMap id).mergeSort (listedBefore S)) := by
  have hlists := listsBook_of_mapM hid ht hos
  have hsorted : ((os.filterMap id).mergeSort (listedBefore S)).Pairwise
      fun a b => listedBefore S a b = true := by
    refine List.pairwise_mergeSort ?_ ?_ _
    · intro a b c
      exact listedBefore_trans
    · intro a b
      exact listedBefore_total a b
  refine ⟨?_, hlists.mem⟩
  refine (hsorted.and hlists.nodup).imp_of_mem fun {a b} ha hb ⟨hab, hne⟩ => ?_
  obtain h | ⟨hname, hle⟩ := listedBefore_iff.mp hab
  · exact .inl h
  · refine .inr ⟨hname, lt_of_le_of_ne hle fun heq => hne ?_⟩
    exact ht.inBook_id_inj ((hlists.mem a).mp ha) ((hlists.mem b).mp hb) heq

lemma SortedBook.nodup (h : SortedBook S mainnet t es) : es.Nodup :=
  nodup_of_before h.sorted

lemma ListsBook.length_le (ht : Sound S mainnet t) (h : ListsBook S mainnet t es) :
    es.length ≤ t.entries.length := by
  have hkeys : (es.map fun e => entryKey e.id).Nodup := by
    refine h.nodup.map_on fun e he e' he' heq => ?_
    exact ht.inBook_id_inj ((h.mem e).mp he) ((h.mem e').mp he') (entryKey_inj.mp heq)
  have hsub : es.map (fun e => entryKey e.id) ⊆ t.keys := by
    intro key hkey
    obtain ⟨e, he, rfl⟩ := List.mem_map.mp hkey
    obtain ⟨v, hv, -⟩ := (h.mem e).mp he
    exact AList.mem_keys.mp (AList.lookup_isSome.mp (by rw [hv]; rfl))
  have hlength := (List.subperm_of_subset hkeys hsub).length_le
  rwa [List.length_map, AList.keys, List.keys, List.length_map] at hlength

/-- **One list**: trees with the same values have the same sorted entries. -/
lemma SortedBook.unique {t' : Tree} {es' : List NativeAddressBookEntry}
    (h : SortedBook S mainnet t es) (h' : SortedBook S mainnet t' es')
    (hsame : ∀ key, t'.lookup key = t.lookup key) : es' = es := by
  have hperm : es'.Perm es := by
    refine (List.perm_ext_iff_of_nodup h'.nodup h.nodup).mpr fun e => ?_
    rw [h.mem, h'.mem]
    simp [InBook, hsame]
  exact hperm.eq_of_pairwise (fun a b _ _ hab hba => absurd hba hab.asymm) h'.sorted h.sorted

/-! ### One page -/

/-- The page of a list after `skip` entries. -/
def pageAt (skip take : ℕ) (all : List NativeAddressBookEntry) : NativeAddressBookPage where
  entries := (all.drop skip).take take
  total := all.length
  hasMore := skip + ((all.drop skip).take take).length < all.length

/-- The query is accepted, and is this one after trimming. -/
def Accepts (query normalized : Option String) : Prop :=
  normalizeOptional query maxQueryChars "ADDRESS_BOOK_QUERY_INVALID"
    "Address-book query exceeds the supported size" = .ok normalized

lemma readV2Entries_at (hid : IdLaws S) {t₀ : Trees} (ht : Sound S mainnet (t₀ .addressBookV2)) :
    TreeTriple reliable (· = t₀) (readV2Entries S mainnet)
      (OrStop (fun es t => t = t₀ ∧ SortedBook S mainnet (t₀ .addressBookV2) es)
        fun _ _ => reliable = false) := by
  rintro db ⟨hb, rfl⟩
  have hkeeps : Keeps reliable (· = db.trees) (readV2Entries S mainnet) :=
    .bind .query fun _ => .bind (.lift _) fun _ => .lift (.ok _)
  obtain ⟨hbudget, hsame⟩ := hkeeps db ⟨hb, rfl⟩
  obtain ⟨-, hread⟩ := readV2Entries_triple hid db ⟨hb, ht⟩
  refine ⟨hbudget, ?_⟩
  generalize readV2Entries S mainnet db = out at hread hsame
  obtain ⟨r, db'⟩ := out
  cases r with
  | error => exact hread.1
  | ok =>
    obtain ⟨-, os, hos, rfl⟩ := hread
    rw [hsame] at hos
    exact ⟨hsame, sortedBook_of_mapM hid ht hos⟩

section Call

variable {order : List NativeAddressBookEntry → List NativeAddressBookEntry}
  {query q : Option String} {skip take : ℕ}

lemma listEntries_at (hid : IdLaws S) {t₀ : Trees} (ht : Sound S mainnet (t₀ .addressBookV2))
    (hq : Accepts query q) (htake : take ≠ 0 ∧ take ≤ maxPageSize) :
    TreeTriple true (· = t₀) (listEntries S mainnet query skip (some take)) fun r t =>
      t = t₀ ∧ ∃ es, SortedBook S mainnet (t₀ .addressBookV2) es ∧
        ((es.filter (selected S q)).length ≤ u32Max →
          r = .ok (pageAt skip take (es.filter (selected S q)))) := by
  have hsize : ∀ value ∈ some take, value ≠ 0 ∧ value ≤ maxPageSize := by
    rintro _ ⟨⟩
    exact htake
  unfold listEntries
  rw [ensure, if_pos hsize, hq]
  refine .bind (R := fun _ t => t = t₀) (.lift fun _ h => h) fun _ => ?_
  refine .bind (R := fun x t => x = q ∧ t = t₀) (.lift fun _ h => ⟨rfl, h⟩) fun x => ?_
  refine .of_forall ?_
  rintro t ⟨rfl, rfl⟩
  refine .bind (R := fun es t' => t' = t ∧ SortedBook S mainnet (t .addressBookV2) es) ?_
    fun es => ?_
  · refine (readV2Entries_at hid ht).mono (fun _ h => h) fun r t h => ?_
    cases r with
    | error => cases h
    | ok => exact h
  refine .of_forall ?_
  rintro t ⟨rfl, hes⟩
  dsimp only
  by_cases hcount : (es.filter (selected S x)).length ≤ u32Max
  · rw [ensure, if_pos hcount]
    refine .bind (R := fun _ t' => t' = t) (.lift fun _ h => h) fun _ => .pure fun _ h => ?_
    exact ⟨h, es, hes, fun _ => rfl⟩
  · rw [ensure, if_neg hcount]
    refine .bind (R := fun _ _ => False) (.lift fun _ h => ?_) fun _ _ h => h.2.elim
    exact ⟨h, es, hes, fun h => absurd h hcount⟩

lemma Env.list_returns (hS : AddressLaws S) (hid : IdLaws S) {env : Env} {v2 : Tree}
    (hv2 : Sound S mainnet v2) {r : NativeAddressBookMigrationResult}
    (hr : (env.migrate S mainnet v2).1 = .ok r) (hb : env.budget = none) (hq : Accepts query q)
    (htake : take ≠ 0 ∧ take ≤ maxPageSize) (skip : ℕ) :
    env.after S mainnet (.list query skip (some take)) v2 = env.migrated S mainnet v2 ∧
      ∃ es, SortedBook S mainnet (env.migrated S mainnet v2) es ∧
        ((es.filter (selected S q)).length ≤ u32Max →
          env.reply S mainnet (.list query skip (some take)) v2 =
            .ok (.page (pageAt skip take (es.filter (selected S q))))) := by
  have hmigrate : migrateAddressBookV2 S mainnet env.order ⟨env.trees v2, env.budget⟩ =
      (.ok r, (env.migrate S mainnet v2).2) := Prod.ext hr rfl
  have hbudget := env.migrate_budget hS hv2
  rw [hb] at hbudget
  have hentries : TreeTriple true _ (listEntries S mainnet query skip (some take)) _ :=
    listEntries_at hid ((env.migrate_ends hS hv2).sound hS hv2) hq htake
  obtain ⟨-, hread⟩ := hentries (env.migrate S mainnet v2).2 ⟨hbudget, rfl⟩
  have hlist : listAddressBookEntriesV2 S mainnet env.order query skip (some take)
      ⟨env.trees v2, env.budget⟩ =
      listEntries S mainnet query skip (some take) (env.migrate S mainnet v2).2 :=
    bind_ok hmigrate
  rw [Env.after, Env.reply, Env.exec, Call.run]
  generalize listEntries S mainnet query skip (some take) (env.migrate S mainnet v2).2 = out
    at hread hlist
  obtain ⟨result, db⟩ := out
  obtain ⟨hsame, es, hes, hpage⟩ := hread
  cases result with
  | error =>
    rw [bind_error hlist]
    refine ⟨congrFun hsame .addressBookV2, es, hes, fun hcount => ?_⟩
    cases hpage hcount
  | ok =>
    rw [bind_ok hlist]
    refine ⟨congrFun hsame .addressBookV2, es, hes, fun hcount => ?_⟩
    cases hpage hcount
    rfl

end Call

/-! ### Page after page -/

/-- A call for a page: what the call finds, how many entries it asks for, and the order in which the
storage lists the tree. -/
structure Visit where
  env : Env
  take : ℕ
  listed : Tree → Tree
  listed_lookup : ∀ t key, (listed t).lookup key = t.lookup key

/-- The pages from `skip` on, with the visits from the `n`th on, in at most `fuel` calls. -/
def readPages (S : Suite A K N) (mainnet : Bool) (query : Option String) (visits : ℕ → Visit) :
    ℕ → ℕ → ℕ → Tree → Option (Except NativeXelisError (List NativeAddressBookPage))
  | 0, _, _, _ => none
  | fuel + 1, n, skip, t =>
    let visit := visits n
    let call : Call N := .list query skip (some visit.take)
    match visit.env.reply S mainnet call (visit.listed t) with
    | .error error => some (.error error)
    | .ok (.page page) =>
      if page.hasMore then
        (readPages S mainnet query visits fuel (n + 1) (skip + page.entries.length)
          (visit.env.after S mainnet call (visit.listed t))).map fun rest =>
            rest.map (page :: ·)
      else some (.ok [page])
    | .ok _ => none

/-- The pages are the list from `skip` on. -/
structure PagesOf (all : List NativeAddressBookEntry) (skip : ℕ)
    (pages : List NativeAddressBookPage) : Prop where
  entries : pages.flatMap (·.entries) = all.drop skip
  total : ∀ page ∈ pages, page.total = all.length
  hasMore : ∀ earlier page later, pages = earlier ++ page :: later →
    (page.hasMore = false ↔
      all.drop (skip + (earlier.flatMap (·.entries)).length + page.entries.length) = [])

section Pages

variable {all : List NativeAddressBookEntry} {skip take : ℕ}

lemma pageAt_hasMore : (pageAt skip take all).hasMore = false ↔
    all.drop (skip + (pageAt skip take all).entries.length) = [] := by
  simp [pageAt]

lemma pageAt_append : (pageAt skip take all).entries ++
    all.drop (skip + (pageAt skip take all).entries.length) = all.drop skip := by
  rw [← List.drop_drop]
  exact List.prefix_iff_eq_append.mp (List.take_prefix take (all.drop skip))

lemma pagesOf_last (hlast : (pageAt skip take all).hasMore = false) :
    PagesOf all skip [pageAt skip take all] where
  entries := by
    rw [List.flatMap_singleton, ← pageAt_append, pageAt_hasMore.mp hlast, List.append_nil]
  total := by simp [pageAt]
  hasMore earlier page later h := by
    have hlen := congrArg List.length h
    simp only [List.length_append, List.length_cons, List.length_nil] at hlen
    obtain rfl : earlier = [] := List.length_eq_zero_iff.mp (by omega)
    cases h
    exact pageAt_hasMore

lemma PagesOf.cons {pages : List NativeAddressBookPage}
    (h : PagesOf all (skip + (pageAt skip take all).entries.length) pages) :
    PagesOf all skip (pageAt skip take all :: pages) where
  entries := by
    rw [List.flatMap_cons, h.entries, pageAt_append]
  total := by
    rintro page (- | ⟨-, hpage⟩)
    · rfl
    · exact h.total page hpage
  hasMore earlier page later heq := by
    cases earlier with
    | nil =>
      cases heq
      exact pageAt_hasMore
    | cons first earlier =>
      cases heq
      rw [List.flatMap_cons, List.length_append, ← Nat.add_assoc]
      exact h.hasMore earlier page later rfl

lemma pageAt_moves_on (htake : take ≠ 0) (hmore : (pageAt skip take all).hasMore = true) :
    skip < skip + (pageAt skip take all).entries.length ∧
      skip + (pageAt skip take all).entries.length < all.length := by
  have hend : skip + (pageAt skip take all).entries.length < all.length := of_decide_eq_true hmore
  refine ⟨?_, hend⟩
  simp only [pageAt, List.length_take, List.length_drop] at hend ⊢
  omega

end Pages

section Loop

variable {query q : Option String} {visits : ℕ → Visit} {book : Tree}

variable {t : Tree}

lemma Sound.congr {t' : Tree} (h : Sound S mainnet t)
    (hsame : ∀ key, t'.lookup key = t.lookup key) : Sound S mainnet t' :=
  fun k v hv => h k v (by rw [← hsame, hv])

/-- The next call finds the tree `t`, and its migration leaves what is in `book`. -/
structure Finds (S : Suite A K N) (mainnet : Bool) (book : Tree) (visit : Visit) (t : Tree) :
    Prop where
  sound : Sound S mainnet t
  migrates : ∃ r, (visit.env.migrate S mainnet (visit.listed t)).1 = .ok r
  migrated : ∀ key, (visit.env.migrated S mainnet (visit.listed t)).lookup key = book.lookup key

lemma Finds.of_marker (hS : AddressLaws S) {visit : Visit} (ht : Sound S mainnet t)
    (hmark : t.lookup migrationMarkerKey ≠ none) (hb : visit.env.budget = none)
    (hsame : ∀ key, t.lookup key = book.lookup key) : Finds S mainnet book visit t := by
  have hmark' : (visit.listed t).lookup migrationMarkerKey ≠ none := by
    rwa [visit.listed_lookup]
  have hlisted : Sound S mainnet (visit.listed t) := ht.congr (visit.listed_lookup t)
  refine ⟨ht, ?_, fun key => ?_⟩
  · obtain ⟨-, hok | ⟨hfail, -⟩⟩ := (visit.env.migrate_ends hS hlisted).of_marker hmark'
    · exact hok
    · rw [hb] at hfail
      cases hfail
  · rw [visit.env.migrated_of_marker hmark', visit.listed_lookup, hsame]

lemma Finds.next (hS : AddressLaws S) {visit visit' : Visit} (h : Finds S mainnet book visit t)
    (hb : visit'.env.budget = none) :
    Finds S mainnet book visit' (visit.env.migrated S mainnet (visit.listed t)) := by
  obtain ⟨r, hr⟩ := h.migrates
  have hlisted : Sound S mainnet (visit.listed t) := h.sound.congr (visit.listed_lookup t)
  have hends := visit.env.migrate_ends hS hlisted
  have hsound := hends.sound hS hlisted
  rw [hr] at hends
  exact .of_marker hS hsound hends.marker hb h.migrated

/-- **The client's loop** ends, with the pages of the list. The measure is what is left of the list
after `skip`. -/
lemma readPages_ends (hS : AddressLaws S) (hid : IdLaws S) (hq : Accepts query q)
    (hsize : ∀ n, (visits n).take ≠ 0 ∧ (visits n).take ≤ maxPageSize)
    (hreliable : ∀ n, (visits n).env.budget = none) {es : List NativeAddressBookEntry}
    (hes : SortedBook S mainnet book es)
    (hcount : (es.filter (selected S q)).length ≤ u32Max) (fuel : ℕ) :
    ∀ n skip t, Finds S mainnet book (visits n) t → skip ≤ (es.filter (selected S q)).length →
      (es.filter (selected S q)).length < skip + fuel →
      ∃ pages, (∀ spare, readPages S mainnet query visits (fuel + spare) n skip t =
          some (.ok pages)) ∧
        PagesOf (es.filter (selected S q)) skip pages := by
  induction fuel with
  | zero =>
    intro n skip t _ hskip hfuel
    omega
  | succ fuel ih =>
    intro n skip t ht hskip hfuel
    have hlisted : Sound S mainnet ((visits n).listed t) :=
      ht.sound.congr ((visits n).listed_lookup t)
    obtain ⟨r, hr⟩ := ht.migrates
    obtain ⟨hafter, es', hes', hreply⟩ :=
      Env.list_returns hS hid hlisted hr (hreliable n) hq (hsize n) skip
    obtain rfl : es' = es := hes.unique hes' ht.migrated
    cases hmore : (pageAt skip (visits n).take (es'.filter (selected S q))).hasMore with
    | false =>
      refine ⟨[pageAt skip (visits n).take (es'.filter (selected S q))], fun spare => ?_,
        pagesOf_last hmore⟩
      rw [Nat.add_right_comm, readPages]
      simp only [hreply hcount, hmore]
      rfl
    | true =>
      obtain ⟨hlt, hend⟩ := pageAt_moves_on (hsize n).1 hmore
      obtain ⟨pages, hpages, hof⟩ :=
        ih (n + 1) _ _ (ht.next hS (hreliable (n + 1))) hend.le (by omega)
      refine ⟨pageAt skip (visits n).take (es'.filter (selected S q)) :: pages, fun spare => ?_,
        hof.cons⟩
      rw [Nat.add_right_comm, readPages]
      simp only [hreply hcount, hafter, hmore, hpages]
      rfl

/-- **Paging through the address book.** In every address book that calls can leave, whose migration
is over or returns at the first call, the client that begins at the first entry and goes on as long
as there is more comes to an end, whatever order the storage lists the tree in and whatever page
size it uses at each call. The pages together are the entries that match the query, each once, in
the order of their names and ids; every page has their number; and a page has no more exactly if
none of them is after it. -/
theorem pages_list_the_book (hS : AddressLaws S) (hid : IdLaws S) {v2 : Tree}
    (hv2 : Reachable (calling S mainnet) v2) (hq : Accepts query q) (visits : ℕ → Visit)
    (hsize : ∀ n, 1 ≤ (visits n).take ∧ (visits n).take ≤ maxPageSize)
    (hreliable : ∀ n, (visits n).env.budget = none)
    (hmigrated : v2.lookup migrationMarkerKey ≠ none ∨
      ∃ r, ((visits 0).env.migrate S mainnet ((visits 0).listed v2)).1 = .ok r)
    (hcount : ∀ es, ListsBook S mainnet
      ((visits 0).env.migrated S mainnet ((visits 0).listed v2)) es → es.length < 2 ^ 32) :
    ∃ all : List NativeAddressBookEntry, all.Pairwise (Before S) ∧
      (∀ e, e ∈ all ↔ InBook S mainnet
        ((visits 0).env.migrated S mainnet ((visits 0).listed v2)) e ∧ selected S q e = true) ∧
      ∃ pages, (∀ fuel, all.length < fuel →
          readPages S mainnet query visits fuel 0 0 v2 = some (.ok pages)) ∧
        pages.flatMap (·.entries) = all ∧ (∀ page ∈ pages, page.total = all.length) ∧
        ∀ earlier page later, pages = earlier ++ page :: later → (page.hasMore = false ↔
          all.drop ((earlier.flatMap (·.entries)).length + page.entries.length) = []) := by
  have hsound := sound_of_reachable hS hv2
  have hlisted : Sound S mainnet ((visits 0).listed v2) :=
    hsound.congr ((visits 0).listed_lookup v2)
  have hpositive : ∀ n, (visits n).take ≠ 0 ∧ (visits n).take ≤ maxPageSize :=
    fun n => ⟨Nat.one_le_iff_ne_zero.mp (hsize n).1, (hsize n).2⟩
  have hmigrates : ∃ r, ((visits 0).env.migrate S mainnet ((visits 0).listed v2)).1 = .ok r := by
    obtain hmark | hr := hmigrated
    · exact (Finds.of_marker hS hsound hmark (hreliable 0) fun _ => rfl).migrates
    · exact hr
  have hfinds : Finds S mainnet ((visits 0).env.migrated S mainnet ((visits 0).listed v2))
      (visits 0) v2 := ⟨hsound, hmigrates, fun _ => rfl⟩
  obtain ⟨r, hr⟩ := hmigrates
  obtain ⟨-, es, hes, -⟩ := Env.list_returns hS hid hlisted hr (hreliable 0) hq (hpositive 0) 0
  have hbound : (es.filter (selected S q)).length ≤ u32Max := by
    have hbook := hcount es ⟨hes.nodup, hes.mem⟩
    have hfilter := List.length_filter_le (selected S q) es
    rw [u32Max]
    omega
  obtain ⟨pages, hpages, hof⟩ := readPages_ends hS hid hq hpositive hreliable hes hbound
    ((es.filter (selected S q)).length + 1) 0 0 v2 hfinds (Nat.zero_le _) (by omega)
  refine ⟨es.filter (selected S q), hes.sorted.filter _, fun e => ?_, pages, fun fuel hfuel => ?_,
    hof.entries, hof.total, fun earlier page later heq => ?_⟩
  · rw [List.mem_filter, hes.mem]
  · obtain ⟨spare, rfl⟩ := Nat.exists_eq_add_of_le hfuel
    exact hpages spare
  · have hmore := hof.hasMore earlier page later heq
    rwa [Nat.zero_add] at hmore

end Loop

/-- Two entries are read on pages of one entry. -/
theorem two_pages_of_one :
    let env : Env := ⟨∅, id, fun _ => .refl _, none⟩
    let v2 := env.after noteSuite true (.upsert "b" "Bob" none none)
      (env.after noteSuite true (.upsert "a7" "Ann" none none) ∅)
    ∃ all pages, all.length < 4 ∧
      readPages noteSuite true none (fun _ => ⟨env, 1, id, fun _ _ => rfl⟩) 4 0 0 v2 =
        some (.ok pages) ∧
      pages.flatMap (·.entries) = all ∧ ∀ page ∈ pages, page.total = all.length := by
  intro env v2
  have hempty : Reachable (calling noteSuite true) ∅ := .of_init rfl
  have hfirst := hempty.step (l := (env, .upsert "a7" "Ann" none none)) rfl
  have hv2 : Reachable (calling noteSuite true) v2 :=
    hfirst.step (l := (env, .upsert "b" "Bob" none none)) rfl
  have hsound := sound_of_reachable noteLaws.toAddressLaws hv2
  have hmark : v2.lookup migrationMarkerKey ≠ none := by decide
  have hbook : env.migrated noteSuite true v2 = v2 := env.migrated_of_marker hmark
  have hcount : ∀ es, ListsBook noteSuite true (env.migrated noteSuite true v2) es →
      es.length ≤ 3 := by
    intro es hes
    rw [hbook] at hes
    exact hes.length_le hsound
  have hq : Accepts none none := rfl
  obtain ⟨all, hsorted, hmem, pages, hpages, hentries, htotal, -⟩ :=
    pages_list_the_book noteLaws.toAddressLaws noteIds hv2 hq
      (fun _ => ⟨env, 1, id, fun _ _ => rfl⟩) (fun _ => ⟨le_rfl, by decide⟩) (fun _ => rfl)
      (.inl hmark) fun es hes => by
        have hes := hcount es hes
        omega
  have hlength : all.length ≤ 3 := by
    refine hcount all ⟨nodup_of_before hsorted, fun e => (hmem e).trans ?_⟩
    exact and_iff_left rfl
  exact ⟨all, pages, by omega, hpages 4 (by omega), hentries, htotal⟩

end XelisWallet.AddressBook
