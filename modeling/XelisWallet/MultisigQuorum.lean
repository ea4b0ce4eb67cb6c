import XelisWallet.MultisigProtocol

/-!
What the source wallet counts towards the threshold.

The signatures are verified one after the other, each for the participant that its id designates,
and collected in a set that has every id once. So a set that is complete has one signature each of
as many different participants as the threshold says.
-/

namespace XelisWallet.Multisig

open Fallible

variable {T : Types} {S : Suite T} {h : T.Hash} {configuration : MultiSigPayload T}

/-- The text of the share is the canonical one of the signature, which verifies for the hash under
the key of the participant with the id of the share. -/
def Signs (S : Suite T) (h : T.Hash) (configuration : MultiSigPayload T)
    (share : MultisigSignature) (signature : T.Signature) : Prop :=
  ∃ participant key, configuration.participants.getIndex share.id.toNat = some participant ∧
    S.decompress participant = some key ∧
    S.signatureHex.ofText share.signature = some signature ∧
    S.signatureHex.toText signature = share.signature ∧
    S.verify signature (S.hashAsBytes h) key

lemma verifyMultisigSignature_eq_ok {share : MultisigSignature} {verified : SignatureId T} :
    verifyMultisigSignature S h configuration share = .ok verified ↔
      verified.id = share.id ∧ Signs S h configuration share verified.signature := by
  obtain ⟨id, signature⟩ := verified
  simp only [verifyMultisigSignature, bind_eq_ok, context_eq_ok, ensure_eq_ok, exists_const,
    pure_eq_ok, SignatureId.mk.injEq, Signs]
  constructor
  · rintro ⟨participant, hindex, key, hkey, _, hparse, hcanonical, hverify, rfl, rfl⟩
    exact ⟨rfl, participant, key, hindex, hkey, hparse, hcanonical, hverify⟩
  · rintro ⟨rfl, participant, key, hindex, hkey, hparse, hcanonical, hverify⟩
    exact ⟨participant, hindex, key, hkey, signature, hparse, hcanonical, hverify, rfl, rfl⟩

/-! ### The loop -/

lemma MultiSig.addSignature_cases (m : MultiSig T) (s : SignatureId T) :
    (s.id ∈ m.signatures.map (·.id) ∧ m.addSignature s = (false, m)) ∨
      (s.id ∉ m.signatures.map (·.id) ∧
        ∃ m', m.addSignature s = (true, m') ∧ m'.signatures = m.signatures ++ [s]) := by
  by_cases hs : s.id ∈ m.signatures.map (·.id)
  · exact .inl ⟨hs, dif_pos hs⟩
  · exact .inr ⟨hs, _, dif_neg hs, rfl⟩

lemma MultiSig.ext {m m' : MultiSig T} (hm : m.signatures = m'.signatures) : m = m' := by
  cases m
  cases m'
  cases hm
  rfl

variable {multisig : MultiSig T} {shares : List MultisigSignature}

lemma addVerified_eq_ok {result : MultiSig T} {share : MultisigSignature} :
    addVerified S h configuration multisig share = .ok result ↔
      ∃ verified, verifyMultisigSignature S h configuration share = .ok verified ∧
        verified.id ∉ multisig.signatures.map (·.id) ∧
        result.signatures = multisig.signatures ++ [verified] := by
  rw [addVerified, bind_eq_ok]
  refine exists_congr fun verified => and_congr_right fun _ => ?_
  obtain ⟨hmem, hadd⟩ | ⟨hnew, multisig', hadd, hsignatures⟩ := multisig.addSignature_cases verified
  all_goals rw [hadd]
  · exact ⟨fun herror => (by cases herror), fun hok => absurd hmem hok.1⟩
  constructor
  · intro hok
    cases hok
    exact ⟨hnew, hsignatures⟩
  · rintro ⟨-, hresult⟩
    exact congrArg Except.ok (MultiSig.ext (hsignatures.trans hresult.symm))

/-- **The loop** goes through exactly if every signature verifies and no id comes twice, and then
the set has grown by them all. The induction is on the signatures; the set so far is arbitrary. -/
lemma foldlM_addVerified {signatures : List MultisigSignature} {result : MultiSig T} :
    signatures.foldlM (addVerified S h configuration) multisig = .ok result ↔
      ∃ verified, List.Forall₂ (fun s v => verifyMultisigSignature S h configuration s = .ok v)
          signatures verified ∧
        (multisig.signatures.map (·.id) ++ verified.map (·.id)).Nodup ∧
        result.signatures = multisig.signatures ++ verified := by
  induction signatures generalizing multisig with
  | nil =>
    rw [List.foldlM_nil, pure_eq_ok]
    constructor
    · rintro rfl
      exact ⟨[], .nil, by simpa using multisig.nodup, (List.append_nil _).symm⟩
    rintro ⟨_, ⟨⟩, -, hresult⟩
    rw [List.append_nil] at hresult
    exact MultiSig.ext hresult.symm
  | cons share signatures ih =>
    simp only [List.foldlM_cons, bind_eq_ok, addVerified_eq_ok, ih]
    constructor
    · rintro ⟨multisig', ⟨v, hv, hnew, hsignatures⟩, verified, hall, hnodup, hresult⟩
      rw [hsignatures] at hnodup hresult
      refine ⟨v :: verified, .cons hv hall, ?_, ?_⟩
      · simpa using hnodup
      · simpa using hresult
    · rintro ⟨_, hall, hnodup, hresult⟩
      obtain ⟨v, verified, hv, hrest, rfl⟩ := List.forall₂_cons_left_iff.mp hall
      have hnew : v.id ∉ multisig.signatures.map (·.id) := fun hmem =>
        (List.nodup_append.mp hnodup).2.2 _ hmem _ List.mem_cons_self rfl
      obtain ⟨hmem, -⟩ | ⟨-, multisig', -, hsignatures⟩ := multisig.addSignature_cases v
      · exact absurd hmem hnew
      refine ⟨multisig', ⟨v, hv, hnew, hsignatures⟩, verified, hrest, ?_, ?_⟩
      · simpa [hsignatures] using hnodup
      · simpa [hsignatures] using hresult

lemma ids_of_verified {verified : List (SignatureId T)}
    (hall : List.Forall₂ (fun share verified => verified.id = share.id ∧
      Signs S h configuration share verified.signature) shares verified) :
    verified.map (·.id) = shares.map (·.id) := by
  rw [← List.forall₂_eq_eq_eq, List.forall₂_map_left_iff, List.forall₂_map_right_iff]
  exact hall.flip.imp fun _ _ hv => hv.1

lemma buildVerifiedMultisig_eq_ok :
    buildVerifiedMultisig S h configuration shares = .ok multisig ↔
      shares.length = configuration.threshold.toNat ∧ (shares.map (·.id)).Nodup ∧
      List.Forall₂ (fun share verified => verified.id = share.id ∧
        Signs S h configuration share verified.signature) shares multisig.signatures := by
  simp only [buildVerifiedMultisig, bind_eq_ok, ensure_eq_ok, exists_const, foldlM_addVerified,
    verifyMultisigSignature_eq_ok, MultiSig.new, List.map_nil, List.nil_append]
  refine and_congr_right fun _ => ?_
  constructor
  · rintro ⟨verified, hall, hnodup, rfl⟩
    exact ⟨ids_of_verified hall ▸ hnodup, hall⟩
  · rintro ⟨hnodup, hall⟩
    exact ⟨_, hall, (ids_of_verified hall).symm ▸ hnodup, rfl⟩

/-! ### The quorum -/

lemma IndexSet.getIndex_inj {α : Type} {s : IndexSet α} {i j : ℕ} {a : α}
    (hi : s.getIndex i = some a) (hj : s.getIndex j = some a) : i = j := by
  obtain ⟨hlt, -⟩ := List.getElem?_eq_some_iff.mp hi
  exact (List.getElem?_inj hlt s.nodup).mp (hi.trans hj.symm)

lemma participants_of_verified {verified : List (SignatureId T)}
    (hall : List.Forall₂ (fun share verified => verified.id = share.id ∧
      Signs S h configuration share verified.signature) shares verified)
    (hnodup : (verified.map (·.id)).Nodup) :
    ∃ participants : List T.Key, participants.Nodup ∧ List.Forall₂ (fun verified participant =>
        configuration.participants.getIndex verified.id.toNat = some participant)
        verified participants := by
  have hdesignates : ∀ v ∈ verified, ∃ participant,
      configuration.participants.getIndex v.id.toNat = some participant := by
    refine forall_of_forall₂ (hall.imp ?_)
    rintro share v ⟨hid, participant, key, hindex, -⟩
    exact ⟨participant, by rw [hid, hindex]⟩
  obtain ⟨participants, hparticipants⟩ := exists_forall₂ hdesignates
  refine ⟨participants, ?_, hparticipants⟩
  have hids : List.Forall₂ (fun (id : UInt8) participant =>
      configuration.participants.getIndex id.toNat = some participant)
      (verified.map (·.id)) participants :=
    List.forall₂_map_left_iff.mpr hparticipants
  refine nodup_of_forall₂ hids hnodup fun id _ id' _ participant hid hid' => ?_
  exact UInt8.toNat_inj.mp (IndexSet.getIndex_inj hid hid')

/-- **A quorum of different participants.** The signatures of a list of shares are accepted exactly
if there are as many as the threshold says, their ids are different, and each is the canonical text
of a signature that verifies for the hash under the valid key of the participant with its id. Then
the result has these ids and signatures, in order, and nothing else, and every one is from another
participant. -/
theorem multisig_built_iff (S : Suite T) (h : T.Hash) (configuration : MultiSigPayload T)
    (shares : List MultisigSignature) :
    ((∃ multisig, buildVerifiedMultisig S h configuration shares = .ok multisig) ↔
      shares.length = configuration.threshold.toNat ∧ (shares.map (·.id)).Nodup ∧
        ∀ share ∈ shares, ∃ signature, Signs S h configuration share signature) ∧
    ∀ multisig, buildVerifiedMultisig S h configuration shares = .ok multisig →
      List.Forall₂ (fun share verified => verified.id = share.id ∧
        Signs S h configuration share verified.signature) shares multisig.signatures ∧
      multisig.signatures.map (fun verified => (verified.id,
        S.signatureHex.toText verified.signature)) =
        shares.map (fun share => (share.id, share.signature)) ∧
      ∃ participants : List T.Key, participants.Nodup ∧
        participants.length = configuration.threshold.toNat ∧
        List.Forall₂ (fun verified participant =>
          configuration.participants.getIndex verified.id.toNat = some participant)
          multisig.signatures participants := by
  refine ⟨⟨?_, ?_⟩, fun multisig hbuild => ?_⟩
  · rintro ⟨multisig, hbuild⟩
    obtain ⟨hlength, hnodup, hall⟩ := buildVerifiedMultisig_eq_ok.mp hbuild
    refine ⟨hlength, hnodup, forall_of_forall₂ (hall.flip.imp fun v share hv => ?_)⟩
    exact ⟨v.signature, hv.2⟩
  · rintro ⟨hlength, hnodup, hsigned⟩
    have hverified : ∀ share ∈ shares, ∃ verified : SignatureId T, verified.id = share.id ∧
        Signs S h configuration share verified.signature := by
      intro share hshare
      obtain ⟨signature, hsignature⟩ := hsigned share hshare
      exact ⟨⟨share.id, signature⟩, rfl, hsignature⟩
    obtain ⟨verified, hall⟩ := exists_forall₂ hverified
    have hids : (verified.map (·.id)).Nodup := by rwa [ids_of_verified hall]
    exact ⟨⟨verified, hids⟩, buildVerifiedMultisig_eq_ok.mpr ⟨hlength, hnodup, hall⟩⟩
  · obtain ⟨hlength, hnodup, hall⟩ := buildVerifiedMultisig_eq_ok.mp hbuild
    obtain ⟨participants, hdifferent, hparticipants⟩ :=
      participants_of_verified hall multisig.nodup
    refine ⟨hall, ?_, participants, hdifferent, ?_, hparticipants⟩
    · rw [← List.forall₂_eq_eq_eq, List.forall₂_map_left_iff, List.forall₂_map_right_iff]
      refine hall.flip.imp ?_
      rintro v share ⟨hid, _, _, -, -, -, hcanonical, -⟩
      exact Prod.ext hid hcanonical
    · rw [← hparticipants.length_eq, ← hall.length_eq, hlength]

end XelisWallet.Multisig
