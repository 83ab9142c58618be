import Mathlib.Logic.Relation
import BitcoreWallet.Lifecycle

namespace BitcoreWallet

structure TxProposalObject extends TxProposal where
  isPending : Bool

def TxProposalAction.fromObj (a : TxProposalAction) : TxProposalAction where
  copayerId := a.copayerId
  type := a.type
  signatures := a.signatures
  xpub := a.xpub
  comment := a.comment

@[simp] theorem TxProposalAction.map_fromObj (l : List TxProposalAction) :
    l.map TxProposalAction.fromObj = l :=
  List.map_id'' (fun _ => rfl) l

namespace TxProposal

def toObject (x : TxProposal) : TxProposalObject := { toTxProposal := x, isPending := x.isPending }

def chainOf (getChain : String → String) (chain coin : String) : String :=
  if toLowerCase chain ≠ "" then toLowerCase chain else getChain coin

/-- `TxProposal.fromObj`; `none` is the legacy reader, for versions below 3. -/
def fromObj (getChain : String → String) (obj : TxProposalObject) : Option TxProposal :=
  if ¬3 ≤ obj.version then none
  else
    let coin := if obj.coin ≠ "" then obj.coin else Defaults.coin
    some
      { version := obj.version, id := obj.id, walletId := obj.walletId,
        creatorId := obj.creatorId, coin, chain := chainOf getChain obj.chain coin,
        network := obj.network, toAddress := none, outputs := obj.outputs,
        amount := obj.amount, message := obj.message, payProUrl := obj.payProUrl,
        changeAddress := obj.changeAddress, escrowAddress := obj.escrowAddress,
        instantAcceptanceEscrow := obj.instantAcceptanceEscrow, inputs := obj.inputs,
        walletM := obj.walletM, walletN := obj.walletN,
        requiredSignatures := obj.requiredSignatures,
        requiredRejections := obj.requiredRejections, status := obj.status, txid := obj.txid,
        txids := obj.txids, broadcastedOn := obj.broadcastedOn, inputPaths := obj.inputPaths,
        actions := obj.actions.map TxProposalAction.fromObj, outputOrder := obj.outputOrder,
        fee := obj.fee, feeLevel := obj.feeLevel, feePerKb := obj.feePerKb,
        excludeUnconfirmedUtxos := obj.excludeUnconfirmedUtxos,
        addressType := obj.addressType, customData := obj.customData,
        proposalSignature := obj.proposalSignature, signingMethod := obj.signingMethod,
        proposalSignaturePubKey := obj.proposalSignaturePubKey,
        proposalSignaturePubKeySig := obj.proposalSignaturePubKeySig,
        lockUntilBlockHeight := obj.lockUntilBlockHeight, enableRBF := obj.enableRBF,
        replaceTxByFee := obj.replaceTxByFee,
        coinSpecific :=
          { gasPrice := obj.coinSpecific.gasPrice, maxGasFee := obj.coinSpecific.maxGasFee,
            priorityGasFee := obj.coinSpecific.priorityGasFee,
            txType := obj.coinSpecific.txType, «from» := obj.coinSpecific.«from»,
            nonce := obj.coinSpecific.nonce, gasLimit := obj.coinSpecific.gasLimit,
            data := obj.coinSpecific.data, tokenAddress := obj.coinSpecific.tokenAddress,
            isTokenSwap := obj.coinSpecific.isTokenSwap,
            multiSendContractAddress := obj.coinSpecific.multiSendContractAddress,
            multisigContractAddress := obj.coinSpecific.multisigContractAddress,
            destinationTag := obj.coinSpecific.destinationTag,
            invoiceID := obj.coinSpecific.invoiceID, space := obj.coinSpecific.space,
            blockHash := obj.coinSpecific.blockHash, blockHeight := obj.coinSpecific.blockHeight,
            nonceAddress := obj.coinSpecific.nonceAddress,
            category := obj.coinSpecific.category,
            computeUnits := obj.coinSpecific.computeUnits, memo := obj.coinSpecific.memo,
            fromAta := obj.coinSpecific.fromAta, decimals := obj.coinSpecific.decimals,
            priorityFee := obj.coinSpecific.priorityFee },
        multisigTxId := obj.multisigTxId, multiTx := obj.multiTx,
        refreshOnPublish := obj.refreshOnPublish, prePublishRaw := obj.prePublishRaw,
        raw := if obj.status = .broadcasted then obj.raw else none,
        type := none, creatorName := none }

variable {getChain : String → String}

theorem chainOf_chainOf (hlower : ∀ coin, toLowerCase (getChain coin) = getChain coin)
    (chain coin : String) :
    chainOf getChain (chainOf getChain chain coin) coin = chainOf getChain chain coin := by
  unfold chainOf
  by_cases h : toLowerCase chain = ""
  · by_cases h' : toLowerCase (getChain coin) = "" <;> simp [h, h', hlower]
  · simp [h]

theorem create_persisted {networks : String → List String} {shuffle : List ℕ → List ℕ}
    {opts : CreateOpts} {x : TxProposal} (h : create getChain networks shuffle opts = .ok x) :
    3 ≤ x.version ∧ x.coin = opts.coin ∧ x.chain = chainOf getChain opts.chain opts.coin ∧
      x.toAddress = none ∧ x.type = none ∧ x.creatorName = none := by
  unfold create at h
  obtain ⟨-, h⟩ := ite_error_eq_ok h
  obtain ⟨hv, h⟩ := ite_error_eq_ok h
  obtain ⟨-, h⟩ := ite_error_eq_ok h
  cases h
  refine ⟨?_, rfl, rfl, rfl, rfl, rfl⟩
  dsimp only [setInputs]
  split_ifs <;> omega

end TxProposal

open TxProposal

section Persist

variable {Tx : Type} {cs : ChainService Tx} {getChain : String → String}

/-- What `fromObj` needs to read a proposal's stored form back as itself. -/
structure Persistable (getChain : String → String) (x : TxProposal) : Prop where
  version : 3 ≤ x.version
  chain : chainOf getChain x.chain x.coin = x.chain
  toAddress : x.toAddress = none
  type : x.type = none
  creatorName : x.creatorName = none

theorem Persistable.fromObj_toObject {x : TxProposal} (h : Persistable getChain x)
    (hcoin : x.coin ≠ "") :
    fromObj getChain x.toObject =
      some { x with raw := if x.status = .broadcasted then x.raw else none } := by
  obtain ⟨hv, hchain, hto, htype, hname⟩ := h
  simp only [fromObj, toObject, if_neg (not_not.2 hv), if_pos hcoin, hchain,
    TxProposalAction.map_fromObj, hto, htype, hname]

theorem persistable_create (hlower : ∀ coin, toLowerCase (getChain coin) = getChain coin)
    {networks : String → List String} {shuffle : List ℕ → List ℕ} {opts : CreateOpts}
    {x : TxProposal} (h : create getChain networks shuffle opts = .ok x) :
    Persistable getChain x := by
  obtain ⟨hv, hcoin, hchain, hto, htype, hname⟩ := create_persisted h
  exact ⟨hv, by rw [hchain, hcoin, chainOf_chainOf hlower], hto, htype, hname⟩

theorem Persistable.step {x y : TxProposal} (h : Persistable getChain x) (hs : Step cs x y) :
    Persistable getChain y := by
  obtain ⟨_, _, _, _, _, _, rfl⟩ := hs.frame
  exact ⟨h.1, h.2, h.3, h.4, h.5⟩

theorem Persistable.run {x y : TxProposal} (h : Persistable getChain x)
    (hr : Relation.ReflTransGen (Step cs) x y) : Persistable getChain y := by
  induction hr with
  | refl => exact h
  | tail _ hs ih => exact ih.step hs

/-- On every run from `create`, a stored proposal reads back as itself. -/
theorem fromObj_toObject_of_run (hlower : ∀ coin, toLowerCase (getChain coin) = getChain coin)
    {networks : String → List String} {shuffle : List ℕ → List ℕ} {opts : CreateOpts}
    {x₀ x : TxProposal} (hcreate : create getChain networks shuffle opts = .ok x₀)
    (hrun : Relation.ReflTransGen (Step cs) x₀ x) (hcoin : x.coin ≠ "") :
    fromObj getChain x.toObject =
      some { x with raw := if x.status = .broadcasted then x.raw else none } :=
  ((persistable_create hlower hcreate).run hrun).fromObj_toObject hcoin

theorem fromObj_toObject_of_run_sample :
    ∃ x y, create (fun _ => "btc") (fun _ => ["livenet"]) id sampleOpts = .ok x ∧
      Relation.ReflTransGen (Step (BtcChain.service BtcChain.sampleChain)) x y ∧
      fromObj (fun _ => "btc") y.toObject =
        some { y with raw := if y.status = .broadcasted then y.raw else none } :=
  ⟨_, _, rfl, .single (.publish rfl),
    @fromObj_toObject_of_run _ (BtcChain.service BtcChain.sampleChain) (fun _ => "btc")
      (fun _ => rfl) (fun _ => ["livenet"]) id sampleOpts _ _ rfl (.single (.publish rfl))
      (by decide)⟩

end Persist

end BitcoreWallet
