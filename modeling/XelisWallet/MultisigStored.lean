import XelisWallet.MultisigWallet

/-!
A request that the source stores shows what was declared for it.

The source writes the request, reads its own text again and keeps what a participant would be
shown. The text is read as it was written, so every amount that is shown is one that was declared.
-/

namespace XelisWallet.Multisig

open Fallible JsonText Text NativeError PendingMultisig

variable {T : Types} {S : Suite T}

section Shown

variable {network : Network} {keypair : T.KeyPair} {source : T.PublicKey}

lemma transfer_shown_as_declared {declared : TransferBuilder T} {actual actual' : TransferPayload T}
    {t : MultisigSigningRequestTransfer} {shown : NativeMultisigSigningTransfer}
    (hbuild : buildSigningRequestTransfer S network keypair declared actual = .ok t)
    (hshown : validateAndBuildTransferPreview S network source t actual' = .ok shown) :
    shown = declaredTransfer S network declared := by
  simp only [buildSigningRequestTransfer, validateTransferPublicDetails, bind_eq_ok, ensure_eq_ok,
    context_eq_ok, exists_const, pure_eq_ok] at hbuild
  obtain ⟨⟨-, hdestination, hasset, hextraData⟩, _, -, rfl⟩ := hbuild
  simp only [validateAndBuildTransferPreview, bind_eq_ok, ensure_eq_ok, context_eq_ok,
    exists_const, pure_eq_ok] at hshown
  obtain ⟨-, -, -, _, -, -, -, _, -, -, rfl⟩ := hshown
  rw [declaredTransfer, hdestination, hasset, hextraData]

/-- The induction is on the declared transfers; the checked lengths make the other lists follow. -/
lemma transfers_shown_as_declared {declared : List (TransferBuilder T)}
    {actual actual' : List (TransferPayload T)} {ts : List MultisigSigningRequestTransfer}
    {shown : List NativeMultisigSigningTransfer} (hlength : declared.length = actual.length)
    (hbuild : List.Forall₂
      (fun p t => buildSigningRequestTransfer S network keypair p.1 p.2 = .ok t)
      (declared.zip actual) ts)
    (hlength' : ts.length = actual'.length)
    (hshown : List.Forall₂
      (fun p s => validateAndBuildTransferPreview S network source p.1 p.2 = .ok s)
      (ts.zip actual') shown) :
    shown = declared.map (declaredTransfer S network) := by
  induction declared generalizing actual actual' ts shown with
  | nil =>
    cases hbuild
    cases hshown
    rfl
  | cons d declared ih =>
    obtain ⟨a, actual, rfl⟩ := List.exists_cons_of_length_eq_add_one hlength.symm
    rw [List.zip_cons_cons, List.forall₂_cons_left_iff] at hbuild
    obtain ⟨t, ts, ht, hts, rfl⟩ := hbuild
    obtain ⟨a', actual', rfl⟩ := List.exists_cons_of_length_eq_add_one hlength'.symm
    rw [List.zip_cons_cons, List.forall₂_cons_left_iff] at hshown
    obtain ⟨s, shown, hs, hrest, rfl⟩ := hshown
    rw [List.map_cons, transfer_shown_as_declared ht hs,
      ih (Nat.succ.inj hlength) hts (Nat.succ.inj hlength') hrest]

/-- A preview that was made of a request shows what the request was made of, whatever transaction
it is checked against. -/
lemma shown_as_declared {declared : TransactionTypeBuilder T} {actual actual' : TransactionType T}
    {t : MultisigSigningRequestTransaction} {shown : NativeMultisigSigningTransaction}
    (hbuild : buildSigningRequestTransaction S declared actual network keypair = .ok t)
    (hshown : validateAndBuildTransactionPreview S t actual' network source = .ok shown) :
    declaredPreview S network declared = some shown := by
  unfold buildSigningRequestTransaction at hbuild
  split at hbuild
  case h_1 declared actual =>
    simp only [bind_eq_ok, ensure_eq_ok, exists_const, pure_eq_ok, mapM_eq_ok] at hbuild
    obtain ⟨hlength, ts, hts, rfl⟩ := hbuild
    cases actual' with
    | transfers =>
      simp only [validateAndBuildTransactionPreview, bind_eq_ok, ensure_eq_ok, exists_const,
        pure_eq_ok, mapM_eq_ok] at hshown
      obtain ⟨hlength', ss, hss, rfl⟩ := hshown
      rw [declaredPreview, transfers_shown_as_declared hlength hts hlength' hss]
    | burn | multiSig | unsupported => cases hshown
  case h_2 declared actual =>
    simp only [bind_eq_ok, ensure_eq_ok, exists_const, pure_eq_ok] at hbuild
    obtain ⟨⟨hasset, hamount⟩, rfl⟩ := hbuild
    cases actual' with
    | burn =>
      simp only [validateAndBuildTransactionPreview, bind_eq_ok, ensure_eq_ok, exists_const,
        pure_eq_ok] at hshown
      obtain ⟨⟨hasset', hamount'⟩, rfl⟩ := hshown
      rw [declaredPreview, hasset, hamount, hasset', hamount']
    | transfers | multiSig | unsupported => cases hshown
  case h_3 declared actual =>
    simp only [bind_eq_ok, ensure_eq_ok, exists_const, pure_eq_ok] at hbuild
    obtain ⟨hthreshold, ⟨hlength, -⟩, hdelete, rfl⟩ := hbuild
    obtain ⟨hzero, hnone⟩ := isDelete_iff.mp hdelete
    have hdeclared : declared.threshold = 0 ∧ declared.participants.items = [] := by
      rw [hnone, List.length_nil, List.length_eq_zero_iff] at hlength
      exact ⟨hthreshold.trans hzero, hlength⟩
    cases actual' with
    | multiSig =>
      simp only [validateAndBuildTransactionPreview, bind_eq_ok, ensure_eq_ok, exists_const,
        pure_eq_ok] at hshown
      obtain ⟨-, rfl⟩ := hshown
      rw [declaredPreview, if_pos hdeclared]
    | transfers | burn | unsupported => cases hshown
  case h_4 => cases hbuild

end Shown

section Stored

variable {ephemeral : T.KeyPair} {unsigned : UnsignedTransaction T}
  {declared : TransactionTypeBuilder T} {configuration : MultiSigPayload T} {network : Network}
  {keypair : T.KeyPair} {request : NativeMultisigSigningRequest}

lemma create_shows_declared
    (hread : ∀ e : MultisigSigningRequestEnvelope, S.requestFromStr (e.toDoc S).text = some e)
    (h : createMultisigSigningRequest S ephemeral unsigned declared configuration network keypair =
      .ok request) : declaredPreview S network declared = some request.transaction := by
  simp only [createMultisigSigningRequest, encodeMultisigSigningRequest, bind_eq_ok,
    pure_eq_ok] at h
  obtain ⟨_, ⟨t, hbuild, rfl⟩, parsed, hparse, rfl⟩ := h
  obtain ⟨envelope, unsigned', source, haccepted⟩ := parseMultisigSigningRequest_eq_ok.mp hparse
  have hsame := haccepted.read
  rw [MultisigSigningRequestEnvelope.toDoc, trim_text_obj,
    ← MultisigSigningRequestEnvelope.toDoc, hread] at hsame
  cases hsame
  exact shown_as_declared hbuild haccepted.preview

variable {wallet : Wallet T} {store : PendingStore T} {state : T.BuilderState} {targetFee : UInt64}

lemma storePending_cases (S : Suite T) (wallet : Wallet T) (ephemeral : T.KeyPair)
    (store : PendingStore T) (unsigned : UnsignedTransaction T) (state : T.BuilderState)
    (declared : TransactionTypeBuilder T) (configuration : MultiSigPayload T) (targetFee : UInt64) :
    (∃ e, (storePendingMultisigTransaction S wallet ephemeral store unsigned state declared
        configuration targetFee).1 = .error e ∧
      ∀ text kind, e ≠ .walletOperation text .insufficientFunds kind) ∨
    ∃ made requestId, createMultisigSigningRequest S ephemeral unsigned declared configuration
        wallet.network wallet.keypair = .ok made ∧ made.fee = targetFee ∧
      (storePendingMultisigTransaction S wallet ephemeral store unsigned state declared
        configuration targetFee).1 = .ok { made with requestId := some requestId } := by
  cases hmade : createMultisigSigningRequest S ephemeral unsigned declared configuration
      wallet.network wallet.keypair with
  | error =>
    refine .inl ⟨_, by simp only [storePendingMultisigTransaction, hmade]; rfl, ?_⟩
    intro text kind h
    cases h
  | ok made =>
    by_cases hfee : made.fee = targetFee
    · subst hfee
      simp only [storePendingMultisigTransaction, hmade, ne_eq, not_true_eq_false, if_false]
      obtain ⟨error, hinsert⟩ | ⟨-, -, hinsert⟩ := store.insert_cases (E := String)
        (S.getHashForMultisig unsigned) ⟨unsigned, state, configuration, made.transaction⟩
      · refine .inl ⟨_, by rw [hinsert], ?_⟩
        intro text kind h
        cases error <;> cases h
      · exact .inr ⟨made, _, rfl, rfl, by rw [hinsert]⟩
    · refine .inl ⟨_, by simp only [storePendingMultisigTransaction, hmade, if_pos hfee]; rfl, ?_⟩
      intro text kind h
      cases h

lemma storePending_eq_ok
    (hread : ∀ e : MultisigSigningRequestEnvelope, S.requestFromStr (e.toDoc S).text = some e)
    (h : (storePendingMultisigTransaction S wallet ephemeral store unsigned state declared
      configuration targetFee).1 = .ok request) :
    request.fee = targetFee ∧
      declaredPreview S wallet.network declared = some request.transaction := by
  obtain ⟨e, he, -⟩ | ⟨made, requestId, hmade, hfee, hstored⟩ :=
    storePending_cases S wallet ephemeral store unsigned state declared configuration targetFee
  · cases he.symm.trans h
  cases hstored.symm.trans h
  have hshown := create_shows_declared hread hmade
  exact ⟨hfee, hshown⟩

end Stored

end XelisWallet.Multisig
