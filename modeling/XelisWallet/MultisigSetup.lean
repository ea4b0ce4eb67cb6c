import XelisWallet.PrepareSpec

/-!
Setting up a multisig.

The number of participants and the threshold are checked on the texts as they were given; two
texts that name one participant are found when they are parsed, by comparing addresses. A normal
address of a network is determined by its key, so different addresses are different participants.
-/

namespace XelisWallet.Prepare

open Fallible NativeError Builders Flows Flow
open Multisig hiding TransferBuilder TransactionTypeBuilder

variable {T : Types} {S : BuilderSuite T}

/-! ### Accepted texts -/

/-- The text is that of a participant for a wallet of the network with the key. -/
structure NamesParticipant (S : BuilderSuite T) (mainnet : Bool) (walletPublicKey : T.Key)
    (text : String) (address : T.Address) : Prop where
  parses : S.addressText.ofText text = some address
  normal : S.isNormal address
  network : S.addressIsMainnet address = mainnet
  other : S.addressGetPublicKey address ≠ walletPublicKey

section Loop

variable [DecidableEq T.Address] {mainnet : Bool} {walletPublicKey : T.Key}
  {addresses addresses' : IndexSet T.Address}

omit [DecidableEq T.Address] in
lemma isMultisigParticipantAddressValid_iff {address : T.Address} :
    isMultisigParticipantAddressValid S address mainnet walletPublicKey ↔
      S.isNormal address ∧ S.addressIsMainnet address = mainnet ∧
      S.addressGetPublicKey address ≠ walletPublicKey := by
  simp [isMultisigParticipantAddressValid, and_assoc]

lemma addParticipant_eq_ok {text : String} :
    addParticipant S mainnet walletPublicKey addresses text = .ok addresses' ↔
      ∃ address, NamesParticipant S mainnet walletPublicKey text address ∧
        address ∉ addresses.items ∧ addresses'.items = addresses.items ++ [address] := by
  simp only [addParticipant, bind_eq_ok, context_eq_ok, ensure_eq_ok, exists_const,
    isMultisigParticipantAddressValid_iff]
  constructor
  · rintro ⟨address, hparses, ⟨hnormal, hnetwork, hother⟩, h⟩
    by_cases hmem : address ∈ addresses.items
    · rw [insertIndex, dif_pos hmem] at h
      cases h
    rw [insertIndex, dif_neg hmem] at h
    cases h
    exact ⟨address, ⟨hparses, hnormal, hnetwork, hother⟩, hmem, rfl⟩
  · rintro ⟨address, hnames, hmem, hitems⟩
    refine ⟨address, hnames.parses, ⟨hnames.normal, hnames.network, hnames.other⟩, ?_⟩
    obtain ⟨items, nodup⟩ := addresses'
    obtain rfl : items = addresses.items ++ [address] := hitems
    rw [insertIndex, dif_neg hmem]
    rfl

/-- **The loop** goes through exactly if every text names a participant and no address comes
twice, and then the set has grown by the addresses in their order. The induction is on the texts;
the set so far is arbitrary. -/
lemma foldlM_addParticipant {texts : List String} :
    texts.foldlM (addParticipant S mainnet walletPublicKey) addresses = .ok addresses' ↔
      ∃ added, List.Forall₂ (NamesParticipant S mainnet walletPublicKey) texts added ∧
        addresses'.items = addresses.items ++ added := by
  induction texts generalizing addresses with
  | nil =>
    rw [List.foldlM_nil, pure_eq_ok]
    constructor
    · rintro rfl
      exact ⟨[], .nil, (List.append_nil _).symm⟩
    rintro ⟨_, ⟨⟩, hitems⟩
    obtain ⟨items, nodup⟩ := addresses
    obtain ⟨items', nodup'⟩ := addresses'
    obtain rfl : items' = items := hitems.trans (List.append_nil _)
    rfl
  | cons text texts ih =>
    simp only [List.foldlM_cons, bind_eq_ok, addParticipant_eq_ok, ih]
    constructor
    · rintro ⟨grown, ⟨address, hnames, -, hgrown⟩, added, hadded, hitems⟩
      refine ⟨address :: added, .cons hnames hadded, ?_⟩
      rw [hitems, hgrown, List.append_assoc, List.singleton_append]
    · rintro ⟨_, hall, hitems⟩
      obtain ⟨address, added, hnames, hadded, rfl⟩ := List.forall₂_cons_left_iff.mp hall
      -- the addresses of the result are different, and so are those of a part of it
      have hsplit : addresses'.items = (addresses.items ++ [address]) ++ added := by
        rw [hitems, List.append_assoc, List.singleton_append]
      have hnodup : (addresses.items ++ [address]).Nodup := by
        have := addresses'.nodup
        rw [hsplit] at this
        exact (List.nodup_append.mp this).1
      have hnew : address ∉ addresses.items := by
        intro hmem
        exact (List.nodup_append.mp hnodup).2.2 address hmem address (List.mem_singleton_self _) rfl
      exact ⟨⟨_, hnodup⟩, ⟨address, hnames, hnew, rfl⟩, added, hadded, hsplit⟩

lemma parseMultisigParticipants_eq_ok {texts : List String} :
    parseMultisigParticipants S texts mainnet walletPublicKey = .ok addresses ↔
      List.Forall₂ (NamesParticipant S mainnet walletPublicKey) texts addresses.items := by
  rw [parseMultisigParticipants, foldlM_addParticipant]
  constructor
  · rintro ⟨added, hadded, hitems⟩
    rwa [hitems]
  · intro h
    exact ⟨addresses.items, h, rfl⟩

end Loop

lemma validateMultisigSetup_eq_ok_iff {threshold : UInt8} {n : ℕ} {u : Unit} :
    validateMultisigSetup threshold n = .ok u ↔
      1 ≤ n ∧ n ≤ maxMultisigParticipants ∧ 1 ≤ threshold.toNat ∧ threshold.toNat ≤ n := by
  have hzero : threshold ≠ 0 ↔ 1 ≤ threshold.toNat := by
    rw [ne_eq, ← UInt8.toNat_inj, Nat.one_le_iff_ne_zero]
    rfl
  simp only [validateMultisigSetup, bind_eq_ok, ensure_eq_ok, exists_const, hzero,
    Nat.one_le_iff_ne_zero]

/-! ### The whole check -/

/-- Normal addresses of one network with one key are the same. -/
def KeysDetermineAddresses (S : BuilderSuite T) : Prop :=
  ∀ a b, S.isNormal a → S.isNormal b → S.addressIsMainnet a = S.addressIsMainnet b →
    S.addressGetPublicKey a = S.addressGetPublicKey b → a = b

/-- The checks of a setup, with the participants that it has. -/
def validatedSetup [DecidableEq T.Address] (S : BuilderSuite T) (mainnet : Bool)
    (walletPublicKey : T.Key) (threshold : UInt8) (texts : List String) :
    Except String (IndexSet T.Address) := do
  validateMultisigSetup threshold texts.length
  parseMultisigParticipants S texts mainnet walletPublicKey

variable {mainnet : Bool} {walletPublicKey : T.Key} {threshold : UInt8} {texts : List String}

/-- Texts and the participants that they name, one for each text and no key twice. -/
structure NamesSetup (S : BuilderSuite T) (mainnet : Bool) (walletPublicKey : T.Key)
    (threshold : UInt8) (texts : List String) (participants : List T.Address) : Prop where
  count : 1 ≤ texts.length ∧ texts.length ≤ maxMultisigParticipants
  threshold_le : 1 ≤ threshold.toNat ∧ threshold.toNat ≤ texts.length
  named : List.Forall₂ (NamesParticipant S mainnet walletPublicKey) texts participants
  keys : (participants.map S.addressGetPublicKey).Nodup

lemma nodup_keys (hS : KeysDetermineAddresses S) {participants : List T.Address}
    (hnamed : List.Forall₂ (NamesParticipant S mainnet walletPublicKey) texts participants) :
    (participants.map S.addressGetPublicKey).Nodup ↔ participants.Nodup := by
  refine ⟨List.Nodup.of_map _, fun hnodup => hnodup.map_on ?_⟩
  have hall : ∀ a ∈ participants, S.isNormal a ∧ S.addressIsMainnet a = mainnet :=
    forall_of_forall₂ (hnamed.imp fun _ _ h => ⟨h.normal, h.network⟩)
  intro a ha b hb hkey
  obtain ⟨hanormal, hanetwork⟩ := hall a ha
  obtain ⟨hbnormal, hbnetwork⟩ := hall b hb
  exact hS a b hanormal hbnormal (hanetwork.trans hbnetwork.symm) hkey

lemma validatedSetup_eq_ok [DecidableEq T.Address] (hS : KeysDetermineAddresses S)
    {addresses : IndexSet T.Address} :
    validatedSetup S mainnet walletPublicKey threshold texts = .ok addresses ↔
      NamesSetup S mainnet walletPublicKey threshold texts addresses.items := by
  simp only [validatedSetup, bind_eq_ok, validateMultisigSetup_eq_ok_iff,
    parseMultisigParticipants_eq_ok, exists_const]
  constructor
  · rintro ⟨⟨hone, hmax, hthreshold, hle⟩, hnamed⟩
    exact ⟨⟨hone, hmax⟩, ⟨hthreshold, hle⟩, hnamed, (nodup_keys hS hnamed).mpr addresses.nodup⟩
  · rintro ⟨⟨hone, hmax⟩, ⟨hthreshold, hle⟩, hnamed, -⟩
    exact ⟨⟨hone, hmax, hthreshold, hle⟩, hnamed⟩

lemma preparedParticipants_getElem? {addresses : IndexSet T.Address}
    (hlength : addresses.items.length ≤ maxMultisigParticipants) {i : ℕ} {address : T.Address}
    (hi : addresses.items[i]? = some address) :
    ∃ participant, (preparedParticipants S addresses)[i]? = some participant ∧
      participant.id.toNat = i ∧ participant.address = S.addressText.toText address := by
  refine ⟨⟨UInt8.ofNat i, S.addressText.toText address⟩, ?_, ?_, rfl⟩
  · rw [preparedParticipants, List.getElem?_mapIdx, hi]
    rfl
  have hlt : i < addresses.items.length := (List.getElem?_eq_some_iff.mp hi).1
  unfold maxMultisigParticipants at hlength
  rw [UInt8.toNat_ofNat']
  omega

/-! ### The flow -/

section Flow

variable [DecidableEq T.Address] {feePolicy : NativeTransactionFeePolicy}

lemma multisigSetup_asks_iff {fee : UInt64} (hfee : applyFeePolicy 0 feePolicy = .ok fee) :
    (multisigSetup S mainnet walletPublicKey threshold texts feePolicy).Asks .multisigState ↔
      ∃ addresses, validatedSetup S mainnet walletPublicKey threshold texts = .ok addresses := by
  rw [multisigSetup, hfee, validatedSetup]
  cases validateMultisigSetup threshold texts.length with
  | error =>
    refine iff_of_false ?_ ?_
    · intro h
      cases h
    · rintro ⟨_, h⟩
      cases h
  | ok =>
    cases parseMultisigParticipants S texts mainnet walletPublicKey with
    | error =>
      refine iff_of_false ?_ ?_
      · intro h
        cases h
      · rintro ⟨_, h⟩
        cases h
    | ok addresses => exact iff_of_true (.here _ _) ⟨addresses, rfl⟩

lemma run_multisigSetup_eq_ok {env : ∀ q : Question T, Answer q}
    {prepared : NativePreparedTransaction}
    (h : (multisigSetup S mainnet walletPublicKey threshold texts feePolicy).run env =
      .ok prepared) :
    ∃ addresses, validatedSetup S mainnet walletPublicKey threshold texts = .ok addresses ∧
      ∃ fee tx state,
        env (.createTransaction (.multiSig ⟨addresses, threshold⟩) fee) = some (tx, state) ∧
        prepared.hash = S.hashHex.toText (S.transactionHash tx) ∧
        prepared.transaction = .multisigSetup threshold (preparedParticipants S addresses) := by
  simp only [multisigSetup, run_bind, run_lift, run_request, Fallible.ok_bind, bind_eq_ok,
    mapError_eq_ok] at h
  obtain ⟨_, -, _, hvalid, addresses, hparse, _, -, _, -, _, -, fee, -, h⟩ := h
  obtain ⟨tx, state, hcreated, -, _, -, rfl⟩ := run_createAndCommit_eq_ok.mp h
  exact ⟨addresses, bind_eq_ok.mpr ⟨_, hvalid, hparse⟩, fee, tx, state, hcreated, rfl, rfl⟩

end Flow

/-- **A multisig is set up with the given participants.** A threshold and texts are accepted exactly
if there are between one and 255 texts, the threshold is one of their number or less, and the texts
name participants with different keys, however they are spelled. The participants for review are
then the named ones in their order, numbered by their places, and those of the transaction that is
built. -/
theorem multisig_setup_as_given [DecidableEq T.Address] (hS : KeysDetermineAddresses S)
    (mainnet : Bool) (walletPublicKey : T.Key) (threshold : UInt8) (texts : List String) :
    ((∃ addresses, validatedSetup S mainnet walletPublicKey threshold texts = .ok addresses) ↔
      ∃ participants, NamesSetup S mainnet walletPublicKey threshold texts participants) ∧
    (∀ addresses, validatedSetup S mainnet walletPublicKey threshold texts = .ok addresses →
      addresses.items.length = texts.length ∧
      (preparedParticipants S addresses).length = texts.length ∧
      ∀ (i : ℕ) text, texts[i]? = some text → ∃ address participant,
        S.addressText.ofText text = some address ∧ addresses.items[i]? = some address ∧
        (preparedParticipants S addresses)[i]? = some participant ∧
        participant.id.toNat = i ∧ participant.address = S.addressText.toText address) ∧
    ∀ feePolicy,
      (∀ fee, applyFeePolicy 0 feePolicy = .ok fee →
        ((multisigSetup S mainnet walletPublicKey threshold texts feePolicy).Asks .multisigState ↔
          ∃ addresses, validatedSetup S mainnet walletPublicKey threshold texts =
            .ok addresses)) ∧
      ∀ (env : ∀ q : Question T, Answer q) prepared,
        (multisigSetup S mainnet walletPublicKey threshold texts feePolicy).run env =
          .ok prepared →
        ∃ addresses, validatedSetup S mainnet walletPublicKey threshold texts = .ok addresses ∧
          ∃ fee tx state,
            env (.createTransaction (.multiSig ⟨addresses, threshold⟩) fee) = some (tx, state) ∧
            prepared.hash = S.hashHex.toText (S.transactionHash tx) ∧
            prepared.transaction =
              .multisigSetup threshold (preparedParticipants S addresses) := by
  refine ⟨⟨?_, ?_⟩, ?_, fun feePolicy =>
    ⟨fun _ => multisigSetup_asks_iff, fun _ _ => run_multisigSetup_eq_ok⟩⟩
  · rintro ⟨addresses, h⟩
    exact ⟨addresses.items, (validatedSetup_eq_ok hS).mp h⟩
  · rintro ⟨participants, h⟩
    have hnodup : participants.Nodup := (nodup_keys hS h.named).mp h.keys
    exact ⟨⟨participants, hnodup⟩, (validatedSetup_eq_ok hS).mpr h⟩
  · intro addresses h
    have hnames := (validatedSetup_eq_ok hS).mp h
    have hlength : addresses.items.length = texts.length := hnames.named.length_eq.symm
    refine ⟨hlength, by rw [preparedParticipants, List.length_mapIdx, hlength], ?_⟩
    intro i text htext
    have hi : i < addresses.items.length :=
      hlength ▸ (List.getElem?_eq_some_iff.mp htext).1
    have haddress : addresses.items[i]? = some addresses.items[i] := List.getElem?_eq_getElem hi
    obtain ⟨participant, hparticipant, hid, hshown⟩ :=
      preparedParticipants_getElem? (S := S) (hlength ▸ hnames.count.2) haddress
    exact ⟨_, participant, (forall₂_getElem? hnames.named htext haddress).parses, haddress,
      hparticipant, hid, hshown⟩

/-- Two participants, who both have to sign. -/
theorem flag_setup_as_given :
    ∃ addresses, validatedSetup flagBuilders false none 2 ["1", "0"] = .ok addresses ∧
      ∃ participant, (preparedParticipants flagBuilders addresses)[1]? = some participant ∧
        participant.id.toNat = 1 ∧ participant.address = "0" := by
  have hS : KeysDetermineAddresses flagBuilders := fun _ _ _ _ _ h => Option.some.inj h
  obtain ⟨haccepted, hshown, -⟩ := multisig_setup_as_given hS false none 2 ["1", "0"]
  have hnamed : NamesSetup flagBuilders false none 2 ["1", "0"] [true, false] := {
    count := by decide
    threshold_le := by decide
    named := .cons ⟨rfl, rfl, rfl, Option.some_ne_none _⟩
      (.cons ⟨rfl, rfl, rfl, Option.some_ne_none _⟩ .nil)
    keys := (by decide : [some true, some false].Nodup) }
  obtain ⟨addresses, h⟩ := haccepted.mpr ⟨_, hnamed⟩
  obtain ⟨-, -, hall⟩ := hshown addresses h
  obtain ⟨address, participant, hparses, -, hparticipant, hid, htext⟩ := hall 1 "0" rfl
  cases hparses
  exact ⟨addresses, h, participant, hparticipant, hid, htext⟩

end XelisWallet.Prepare
