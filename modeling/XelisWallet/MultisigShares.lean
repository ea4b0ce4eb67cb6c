import XelisWallet.MultisigProtocol

/-!
Signature shares: a share has one encoding, and names the request it was made for.

The spec `parseMultisigSignatureShare_eq_ok` says which texts are accepted: the text that
`createMultisigSignatureShare` writes, with white space around it.
-/

namespace XelisWallet.Multisig

open Fallible JsonText Text MultisigSignatureShareEnvelope

variable {T : Types} {S : Suite T}

/-- What shares need of the codecs: hashes and signatures are read back from hexadecimal text of a
fixed length, and the envelope from its JSON text. -/
structure ShareLaws (S : Suite T) : Prop where
  hashHex : S.hashHex.RoundTrips
  isHex_hash : ∀ h, IsHex 64 (S.hashHex.toText h)
  signatureHex : S.signatureHex.RoundTrips
  isHex_signature : ∀ s, IsHex 128 (S.signatureHex.toText s)
  shareFromStr : ∀ e : MultisigSignatureShareEnvelope, S.shareFromStr e.toDoc.text = some e

/-- The envelope of the share of a signature. -/
def shareEnvelope (S : Suite T) (signingHash : T.Hash) (signerId : UInt8)
    (signature : T.Signature) : MultisigSignatureShareEnvelope :=
  ⟨multisigSignatureShareVersion, S.hashHex.toText signingHash, signerId,
    S.signatureHex.toText signature⟩

lemma createMultisigSignatureShare_eq (S : Suite T) (signingHash : T.Hash) (signerId : UInt8)
    (signature : T.Signature) : createMultisigSignatureShare S signingHash signerId signature =
      .ok ⟨(shareEnvelope S signingHash signerId signature).toDoc.text,
        S.hashHex.toText signingHash, signerId, S.signatureHex.toText signature⟩ := rfl

lemma utf8Len_toDigits_le (id : UInt8) : String.utf8Len (Nat.toDigits 10 id.toNat) ≤ 3 := by
  have h : ∀ n < 256, String.utf8Len (Nat.toDigits 10 n) ≤ 3 := by decide +kernel
  exact h _ id.toNat_lt

variable (hS : ShareLaws S)
include hS

lemma utf8ByteSize_share_le (h : T.Hash) (id : UInt8) (s : T.Signature) :
    (shareEnvelope S h id s).toDoc.text.utf8ByteSize ≤ maxMultisigSignatureShareSize := by
  have hid := utf8Len_toDigits_le id
  have hversion := utf8Len_toDigits_le multisigSignatureShareVersion
  have hv : String.utf8Len (quoted "version") = 9 := by decide +kernel
  have hh : String.utf8Len (quoted "signing_hash") = 14 := by decide +kernel
  have hi : String.utf8Len (quoted "signer_id") = 11 := by decide +kernel
  have hs : String.utf8Len (quoted "signature") = 11 := by decide +kernel
  simp only [utf8ByteSize_text, shareEnvelope, toDoc, render,
    renderFields, String.utf8Len_cons, String.utf8Len_append, String.utf8Len_nil,
    (hS.isHex_hash h).utf8Len_quoted, (hS.isHex_signature s).utf8Len_quoted, hv, hh, hi, hs,
    show Char.utf8Size '\x7b' = 1 from rfl, show Char.utf8Size '\x7d' = 1 from rfl,
    show Char.utf8Size ':' = 1 from rfl, show Char.utf8Size ',' = 1 from rfl]
  unfold maxMultisigSignatureShareSize
  omega

lemma shareEnvelope_text_inj {h h' : T.Hash} {id id' : UInt8} {s s' : T.Signature} :
    (shareEnvelope S h id s).toDoc.text = (shareEnvelope S h' id' s').toDoc.text ↔ h = h' ∧ id = id'
    ∧ s = s' := by
  constructor
  · intro he
    have hread := hS.shareFromStr (shareEnvelope S h id s)
    rw [he, hS.shareFromStr, Option.some.injEq] at hread
    simp only [shareEnvelope, mk.injEq, hS.hashHex.inj, hS.signatureHex.inj] at hread
    obtain ⟨-, hh, hid, hs⟩ := hread
    exact ⟨hh.symm, hid.symm, hs.symm⟩
  · rintro ⟨rfl, rfl, rfl⟩
    rfl

/-- **What is accepted as a share** of the request with hash `h`. -/
lemma parseMultisigSignatureShare_eq_ok {encoded : String} {h : T.Hash} {m : MultisigSignature} :
    parseMultisigSignatureShare S encoded h = .ok m ↔ encoded.utf8ByteSize ≤
    maxMultisigSignatureShareSize ∧ ∃ signature, m = ⟨m.id, S.signatureHex.toText signature⟩ ∧ trim
    encoded = (shareEnvelope S h m.id signature).toDoc.text := by
  simp only [parseMultisigSignatureShare, bind_eq_ok, ensure_eq_ok, context_eq_ok, exists_const,
    pure_eq_ok]
  constructor
  · rintro ⟨hsize, ⟨version, signingHash, id, text⟩, -, rfl, rfl, htrim, signature, -, rfl, rfl⟩
    exact ⟨hsize, signature, rfl, htrim.symm⟩
  rintro ⟨hsize, signature, hm, htrim⟩
  refine ⟨hsize, shareEnvelope S h m.id signature, ?_, rfl, rfl, htrim.symm, signature, ?_, rfl,
    hm.symm⟩
  · rw [htrim, hS.shareFromStr]
  · exact hS.signatureHex signature

lemma parse_shareEnvelope (h : T.Hash) (id : UInt8) (s : T.Signature) : parseMultisigSignatureShare
    S (shareEnvelope S h id s).toDoc.text h = .ok ⟨id, S.signatureHex.toText s⟩ :=
  (parseMultisigSignatureShare_eq_ok hS).mpr
    ⟨utf8ByteSize_share_le hS h id s, s, rfl, trim_text_obj _⟩

lemma hash_of_parse_shareEnvelope {h h' : T.Hash} {id : UInt8} {s : T.Signature}
    {m : MultisigSignature}
    (hm : parseMultisigSignatureShare S (shareEnvelope S h id s).toDoc.text h' = .ok m) :
    h' = h := by
  obtain ⟨-, s', -, htrim⟩ := (parseMultisigSignatureShare_eq_ok hS).mp hm
  rw [toDoc, trim_text_obj] at htrim
  exact ((shareEnvelope_text_inj hS).mp htrim).1.symm

omit hS

/-- **A share has one encoding.** The share made for a hash, an id and a signature is read back
under that hash and under no other one; a text that is accepted is, without the white space around
it, the share made for what was read; and two texts accepted as the same share differ only in the
white space around them. -/
theorem signature_share_canonical (hS : ShareLaws S) (h : T.Hash) :
    (∀ id signature, ∃ share, createMultisigSignatureShare S h id signature = .ok share ∧
      parseMultisigSignatureShare S share.encoded h =
        .ok ⟨id, S.signatureHex.toText signature⟩ ∧
      ∀ h' ≠ h, ∃ e, parseMultisigSignatureShare S share.encoded h' = .error e) ∧
    (∀ encoded m, parseMultisigSignatureShare S encoded h = .ok m →
      ∃ signature share, S.signatureHex.ofText m.signature = some signature ∧
        m.signature = S.signatureHex.toText signature ∧
        createMultisigSignatureShare S h m.id signature = .ok share ∧
        share.encoded = trim encoded) ∧
    ∀ encoded encoded' m, parseMultisigSignatureShare S encoded h = .ok m →
      parseMultisigSignatureShare S encoded' h = .ok m → trim encoded = trim encoded' := by
  refine ⟨fun id s => ?_, fun encoded m hm => ?_, fun encoded encoded' m hm hm' => ?_⟩
  · refine ⟨_, createMultisigSignatureShare_eq S h id s, parse_shareEnvelope hS h id s,
      fun h' hne => ?_⟩
    cases hp : parseMultisigSignatureShare S (shareEnvelope S h id s).toDoc.text h' with
    | error e => exact ⟨e, rfl⟩
    | ok => exact absurd (hash_of_parse_shareEnvelope hS hp) hne
  · obtain ⟨-, s, hs, htrim⟩ := (parseMultisigSignatureShare_eq_ok hS).mp hm
    have hs : m.signature = S.signatureHex.toText s := congrArg MultisigSignature.signature hs
    exact ⟨s, _, by rw [hs, hS.signatureHex], hs, createMultisigSignatureShare_eq S h m.id s,
      htrim.symm⟩
  · obtain ⟨-, s, hs, htrim⟩ := (parseMultisigSignatureShare_eq_ok hS).mp hm
    obtain ⟨-, s', hs', htrim'⟩ := (parseMultisigSignatureShare_eq_ok hS).mp hm'
    rw [hs, MultisigSignature.mk.injEq, hS.signatureHex.inj] at hs'
    rw [htrim, htrim', hs'.2]

/-! ### A small suite -/

/-- Two hashes, two key pairs and a key of neither, amounts that are zero or one. -/
def flagTypes : Types where
  Hash := Bool
  Signature := Bool
  Key := Option Bool
  PublicKey := Bool
  KeyPair := Bool
  BalanceProof := Bool
  CompressedCiphertext := Bool
  Ciphertext := Bool
  Address := Bool
  ExtraData := Unit
  Unsupported := Unit
  Proofs := Unit
  BuilderState := Unit

/-- A flag, written as `n` equal digits. -/
def flagHex (n : ℕ) : Codec Bool where
  toText b := .ofList (List.replicate n (if b then '1' else '0'))
  ofText s :=
    if s = .ofList (List.replicate n '1') then some true
    else if s = .ofList (List.replicate n '0') then some false
    else none

def flagAmount (b : Bool) : UInt64 := if b then 1 else 0

def flagNetwork : Network → String
  | .mainnet => "mainnet"
  | .testnet => "testnet"
  | .stagenet => "stagenet"
  | .devnet => "devnet"

/-- The envelope of a document in its canonical form. -/
def MultisigSignatureShareEnvelope.ofDoc : Doc → Option MultisigSignatureShareEnvelope
  | .obj [("version", .nat version), ("signing_hash", .str signingHash),
      ("signer_id", .nat signerId), ("signature", .str signature)] =>
    if version < 256 ∧ signerId < 256 then
      some ⟨.ofNat version, signingHash, .ofNat signerId, signature⟩
    else none
  | _ => none

lemma MultisigSignatureShareEnvelope.ofDoc_toDoc (e : MultisigSignatureShareEnvelope) :
    ofDoc e.toDoc = some e := by
  have hversion : e.version.toNat < 256 := e.version.toNat_lt
  have hsignerId : e.signerId.toNat < 256 := e.signerId.toNat_lt
  simp [ofDoc, toDoc, hversion, hsignerId]

/-- A signature is the key it was made with, a proof the ciphertext it was made for. -/
def flagSuite : Suite flagTypes where
  hashHex := flagHex 64
  hashAsBytes _ := .empty
  signatureHex := flagHex 128
  proofHex := flagHex 1
  unsignedHex := ⟨fun _ => "", fun _ => none⟩
  unsignedSize _ := 1
  getHashForMultisig u := u.nonce == 1
  transactionHash t := t.nonce == 1
  addressText := flagHex 1
  addressIsMainnet _ := false
  addressGetPublicKey := some
  addressGetExtraData _ := none
  toAddress key _ := key.getD false
  decompress := id
  decompressCiphertext := some
  getPublicKey := some
  sign keypair _ := keypair
  verify := fun (s : Bool) _ (key : Bool) => s == key
  signTransaction keypair _ := keypair
  newProof _ _ ciphertext := ciphertext
  proofAmount := flagAmount
  proofVerify := fun (p : Bool) _ (ciphertext : Bool) => p == ciphertext
  networkToString := flagNetwork
  networkDoc network := .str (flagNetwork network)
  requestFromStr _ := none
  shareFromStr s := (parse s).bind MultisigSignatureShareEnvelope.ofDoc
  maxTransactionSize := 1024

lemma flagHex_roundTrips {n : ℕ} (hn : 0 < n) : (flagHex n).RoundTrips := by
  intro b
  cases b <;> simp [flagHex, String.ofList_inj, List.replicate_right_inj hn.ne.symm]

lemma isHex_flagHex (n : ℕ) (b : Bool) : IsHex n ((flagHex n).toText b) := by
  rw [IsHex, flagHex, String.toList_ofList, List.length_replicate]
  refine ⟨rfl, fun c hc => ?_⟩
  obtain rfl := List.eq_of_mem_replicate hc
  cases b <;> decide

lemma flagSuite_shareLaws : ShareLaws flagSuite where
  hashHex := flagHex_roundTrips (by decide)
  isHex_hash := isHex_flagHex 64
  signatureHex := flagHex_roundTrips (by decide)
  isHex_signature := isHex_flagHex 128
  shareFromStr e := by
    simp [flagSuite, parse_text, ofDoc_toDoc]

/-- Shares of the small suite. -/
theorem flag_share_canonical : ∃ share,
    createMultisigSignatureShare flagSuite true 7 false = .ok share ∧
    parseMultisigSignatureShare flagSuite share.encoded true =
      .ok ⟨7, (flagHex 128).toText false⟩ := by
  obtain ⟨share, hc, hp, -⟩ := (signature_share_canonical flagSuite_shareLaws true).1 7 false
  exact ⟨share, hc, hp⟩

end XelisWallet.Multisig
