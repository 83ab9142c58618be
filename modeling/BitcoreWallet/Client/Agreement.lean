import BitcoreWallet.Lifecycle
import BitcoreWallet.Client.Verifier

namespace BitcoreWallet

namespace Client

/-- The client builds `btc` with the server's bitcore, whose fee ignores sequence numbers. -/
structure SameBitcore (L : ClientLib) (c : BtcChain) : Prop where
  lib_eq : L.bitcore "btc" = c.bitcoreLib
  estimateFee_enableRBF : ∀ t, c.bitcoreLib.estimateFee t.enableRBF = c.bitcoreLib.estimateFee t

variable {L : ClientLib} {K : ClientConstants} {c : BtcChain} {txp : TxProposal}
  {t t' : Transaction}

theorem setVersionAndLock_unlocked
    (hlock : txp.version ≤ 3 ∨ txp.lockUntilBlockHeight.getD 0 = 0) (t : Transaction) :
    BtcChain.setVersionAndLock txp t = .ok (t.setVersion (if 4 ≤ txp.version then 2 else 1)) := by
  unfold BtcChain.setVersionAndLock
  by_cases hv : txp.version ≤ 3
  · rw [if_pos hv, if_neg (by omega)]
  · have h0 := hlock.resolve_left hv
    rw [if_neg hv, if_pos (by omega)]
    split
    · rename_i n hn
      simp only [hn, Option.getD_some] at h0
      simp [h0]
    · rfl

theorem addTxInputs_of_server (h : c.addTxInputs txp t = .ok t') :
    addTxInputs c.bitcoreLib txp t = .ok t' := by
  unfold BtcChain.addTxInputs at h
  unfold addTxInputs
  cases hty : txp.addressType <;> rw [hty] at h
  all_goals first
    | exact h
    | exact foldlM_of_ok (fun t i t' h => by split_ifs at h; exact h) _ _ _ h

theorem addCurrentSignatures_of_no_accept (hsig : ∀ a ∈ txp.actions, a.type ≠ .accept) :
    c.addCurrentSignatures txp t = .ok t := by
  have : txp.getCurrentSignatures = [] := by
    simpa [TxProposal.getCurrentSignatures, List.filter_eq_nil_iff] using hsig
  simp only [BtcChain.addCurrentSignatures, this]
  rfl

theorem getBitcoreTx_of_no_accept (hsig : ∀ a ∈ txp.actions, a.type ≠ .accept) :
    c.getBitcoreTx txp = c.getBitcoreTx txp false := by
  simp only [BtcChain.getBitcoreTx, if_true, addCurrentSignatures_of_no_accept hsig]
  rfl

theorem addChange_enableRBF
    (hfee : ∀ t, c.bitcoreLib.estimateFee t.enableRBF = c.bitcoreLib.estimateFee t)
    {a : AddressRecord}
    (ha : txp.changeAddress = some a) (rbf : Bool) :
    c.addChange txp (if rbf then t.enableRBF else t) =
      if rbf then (t.change c.bitcoreLib a.address).enableRBF
      else t.change c.bitcoreLib a.address := by
  simp only [BtcChain.addChange, ha]
  split_ifs
  · exact Transaction.change_enableRBF hfee _ _
  · rfl

theorem buildUtxoTx_eq_getBitcoreTx
    (hfee : ∀ t, c.bitcoreLib.estimateFee t.enableRBF = c.bitcoreLib.estimateFee t)
    (hlock : txp.version ≤ 3 ∨ txp.lockUntilBlockHeight.getD 0 = 0) {maxTxFee : Option ℤ}
    (hu : buildUtxoTx c.bitcoreLib maxTxFee txp = .ok t)
    (hs : c.getBitcoreTx txp false = .ok t') : t = t' := by
  simp only [buildUtxoTx, except_bind_eq_ok] at hu
  obtain ⟨u₁, hu₁, u₂, hu₂, u₃, hu₃, u₄, hu₄, u₅, hu₅, u₆, hu₆, hu₇⟩ := hu
  simp only [BtcChain.getBitcoreTx, except_bind_eq_ok, setVersionAndLock_unlocked hlock,
    Except.ok.injEq, exists_eq_left', Bool.false_eq_true, if_false] at hs
  obtain ⟨s₁, hs₁, s₂, hs₂, s₃, hs₃, s₄, hs₄, s₅, hs₅, s₆, hs₆, s₇, hs₇, rfl⟩ := hs
  obtain rfl := BtcChain.rejectMultiTx_eq hs₁
  obtain rfl : u₁ = s₂ := Except.ok.inj (hu₁.symm.trans (addTxInputs_of_server hs₂))
  obtain rfl : u₂ = s₃ :=
    Except.ok.inj (hu₂.symm.trans
      (foldlM_of_ok (fun _ _ _ => ProposalTx.addTxOutput_msg) _ _ _ hs₃))
  obtain rfl : u₃ = s₄ := Except.ok.inj (hu₃.symm.trans hs₄)
  obtain rfl : u₄ = s₅ := Except.ok.inj (hu₄.symm.trans hs₅)
  obtain ⟨a, ha, rfl⟩ := addChange_eq hu₅
  rw [addChange_enableRBF hfee ha] at hs₆
  obtain rfl : u₆ = s₆ := Except.ok.inj (hu₆.symm.trans (ProposalTx.shuffleOutputs_msg hs₆))
  rw [checkAmounts_eq hu₇, BtcChain.checkAmounts_eq hs₇]

/-- Without a lock time to set, the client rebuilds the server's transaction. -/
theorem buildTx_eq_getBitcoreTx (hL : SameBitcore L c) (hchain : proposalChain K txp = "btc")
    (hlock : txp.version ≤ 3 ∨ txp.lockUntilBlockHeight.getD 0 = 0)
    (hsig : ∀ a ∈ txp.actions, a.type ≠ .accept)
    (hc : buildTx L K txp = .ok (.utxo t)) (hs : c.getBitcoreTx txp = .ok t') : t = t' := by
  obtain ⟨t₀, ht₀, hu⟩ := buildTx_utxo (by rw [hchain]; decide) hc
  cases ht₀
  rw [hchain, hL.lib_eq] at hu
  rw [getBitcoreTx_of_no_accept hsig] at hs
  exact buildUtxoTx_eq_getBitcoreTx hL.estimateFee_enableRBF hlock hu hs

theorem buildTx_eq_getBitcoreTx_sample :
    ∃ t t', buildTx sampleClientLib sampleConstants sampleSignedTxp = .ok (.utxo t) ∧
      BtcChain.getBitcoreTx BtcChain.sampleChain sampleSignedTxp = .ok t' ∧ t = t' :=
  ⟨_, _, rfl, rfl, @buildTx_eq_getBitcoreTx sampleClientLib sampleConstants BtcChain.sampleChain
    sampleSignedTxp _ _ ⟨rfl, fun _ => rfl⟩ (by decide) (.inl (by decide))
    (by simp [sampleSignedTxp, sampleRawSignedTxp, sampleTxp]) rfl rfl⟩

/-- On every run of the service, the client rebuilds the server's transaction. -/
theorem buildTx_eq_getBitcoreTx_of_reachable (hL : SameBitcore L c) {Tx : Type}
    {cs : ChainService Tx} {getChain : String → String} {networks : String → List String}
    {shuffle : List ℕ → List ℕ} (hx : Reachable cs getChain networks shuffle txp)
    (hchain : proposalChain K txp = "btc") (hc : buildTx L K txp = .ok (.utxo t))
    (hs : c.getBitcoreTx txp false = .ok t') : t = t' := by
  obtain ⟨t₀, ht₀, hu⟩ := buildTx_utxo (by rw [hchain]; decide) hc
  cases ht₀
  rw [hchain, hL.lib_eq] at hu
  exact buildUtxoTx_eq_getBitcoreTx hL.estimateFee_enableRBF
    (.inl (Reachable.version_le _ _ _ _ hx).1) hu hs

theorem buildTx_eq_getBitcoreTx_of_reachable_sample :
    ∃ x t t', Reachable (BtcChain.service BtcChain.sampleChain) (fun _ => "btc")
        (fun _ => ["livenet"]) id x ∧ x.status = .pending ∧ x.actions.length = 1 ∧
      buildTx sampleClientLib sampleConstants x = .ok (.utxo t) ∧
      BtcChain.getBitcoreTx BtcChain.sampleChain x false = .ok t' ∧ t = t' := by
  have hx := Reachable.step (.step (@Reachable.create _ (BtcChain.service BtcChain.sampleChain)
    (fun _ => "btc") (fun _ => ["livenet"]) id sampleMultisigOpts _ (by decide) (by decide) rfl)
    (.publish rfl)) (.sign "c1" ["sigA"] "xpub1" (by decide))
  exact ⟨_, _, _, hx, by decide, by decide, rfl, rfl,
    @buildTx_eq_getBitcoreTx_of_reachable sampleClientLib sampleConstants BtcChain.sampleChain _ _ _
      ⟨rfl, fun _ => rfl⟩ _ _ _ _ _ hx (by decide) rfl rfl⟩

/-- The creator's signature covers the transaction the server builds. -/
theorem checkTxProposal_covers_getBitcoreTx (hL : SameBitcore L c)
    (hchain : proposalChain K txp = "btc")
    (hlock : txp.version ≤ 3 ∨ txp.lockUntilBlockHeight.getD 0 = 0)
    (hraw : ¬Truthy txp.prePublishRaw) (hsig : ∀ a ∈ txp.actions, a.type ≠ .accept)
    {useRegtest : Bool} {credentials : Credentials} {paypro : Option PayProOpts}
    (h : checkTxProposal L K useRegtest credentials txp paypro = .ok true)
    (hs : c.getBitcoreTx txp = .ok t) :
    ∃ creatorKeys ∈ credentials.publicKeyRing,
      xPubToCopayerId L "btc" creatorKeys.xPubKey = txp.creatorId ∧
      ∃ pubKey, creatorSigningPubKey L txp creatorKeys = .ok (some pubKey) ∧
        verifyMessage L (L.serialize t.uncheckedSerialize) txp.proposalSignature pubKey =
          .ok true := by
  obtain ⟨creatorKeys, pubKey, b, hfind, hpk, -, hb, hok, -⟩ :=
    checkTxProposalSignature_eq_true (checkTxProposal_eq_true h).1
  obtain ⟨t₀, rfl, hu⟩ := buildTx_utxo (by rw [hchain]; decide) hb
  rw [hchain, hL.lib_eq] at hu
  rw [getBitcoreTx_of_no_accept hsig] at hs
  obtain rfl := buildUtxoTx_eq_getBitcoreTx hL.estimateFee_enableRBF hlock hu hs
  rw [hchain] at hfind
  refine ⟨creatorKeys, List.mem_of_find?_eq_some hfind, by simpa using List.find?_some hfind,
    pubKey, hpk, ?_⟩
  exact (proposalSignatureVerifies_eq_true hok).resolve_right fun h => hraw h.1

theorem checkTxProposal_covers_getBitcoreTx_sample :
    ∃ t, BtcChain.getBitcoreTx BtcChain.sampleChain sampleSignedTxp = .ok t ∧
      ∃ creatorKeys ∈ sampleSingleCredentials.publicKeyRing,
        xPubToCopayerId sampleClientLib "btc" creatorKeys.xPubKey = sampleSignedTxp.creatorId ∧
        ∃ pubKey, creatorSigningPubKey sampleClientLib sampleSignedTxp creatorKeys =
            .ok (some pubKey) ∧
          verifyMessage sampleClientLib (sampleClientLib.serialize t.uncheckedSerialize)
            sampleSignedTxp.proposalSignature pubKey = .ok true :=
  ⟨_, rfl, @checkTxProposal_covers_getBitcoreTx sampleClientLib sampleConstants
    BtcChain.sampleChain sampleSignedTxp _ ⟨rfl, fun _ => rfl⟩ (by decide) (.inl (by decide))
    (by decide) (by simp [sampleSignedTxp, sampleRawSignedTxp, sampleTxp]) false
    sampleSingleCredentials none (by decide) rfl⟩

def sampleLockedTxp : TxProposal :=
  { sampleTxp with
    version := 4
    lockUntilBlockHeight := some 100
    inputs := [⟨"prev", 0, 5000, 0.00005, "addrA", "m/0/0", none, 1, false⟩]
    fee := some 500 }

/-- The client rebuilds a locked proposal without its lock time. -/
theorem buildTx_drops_lockUntilBlockHeight :
    ∃ t t', buildTx sampleClientLib sampleConstants sampleLockedTxp = .ok (.utxo t) ∧
      BtcChain.getBitcoreTx BtcChain.sampleChain sampleLockedTxp = .ok t' ∧
      t.nLockTime = 0 ∧ t'.nLockTime = 100 ∧ t.uncheckedSerialize ≠ t'.uncheckedSerialize :=
  ⟨_, _, rfl, rfl, rfl, rfl, by decide⟩

end Client

end BitcoreWallet
