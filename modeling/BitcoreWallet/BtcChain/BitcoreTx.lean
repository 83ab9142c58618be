import BitcoreWallet.ProposalTx
import BitcoreWallet.BtcChain.Size

namespace BitcoreWallet

namespace BtcChain

variable (c : BtcChain)

/-- One signature of `addSignaturesToBitcoreTx`'s loop, tried at input `k`. -/
def trySignature (xpub : String) (inputPaths : List String) (signingMethod : String)
    (k : ℕ) (tx : Transaction) (signatureHex : String) : Except String Transaction :=
  match c.bitcoreLib.signatureFromString signatureHex,
      (inputPaths.get? k).bind (c.bitcoreLib.deriveChild xpub) with
  | some signature, some pub =>
    tx.applySignature c.bitcoreLib k ⟨k, signature, c.bitcoreLib.sighashType, pub⟩ signingMethod
  | _, _ => .error "signature"

/-- The loop's state after one signature: `i` advances only when it was added. -/
def signatureStep (xpub : String) (inputPaths : List String) (signingMethod : String)
    (st : ℕ × Transaction) (signatureHex : String) : ℕ × Transaction :=
  match c.trySignature xpub inputPaths signingMethod st.1 st.2 signatureHex with
  | .ok tx => (st.1 + 1, tx)
  | .error _ => st

def signingMethodOrDefault (signingMethod : Option String) : String :=
  if Truthy signingMethod then signingMethod.getD "" else "ecdsa"

def addSignaturesToBitcoreTx (tx : Transaction) (inputs : List Utxo) (inputPaths : List String)
    (signatures : List String) (xpub : String) (signingMethod : Option String) :
    Except String Transaction :=
  let signingMethod := signingMethodOrDefault signingMethod
  if signatures.length ≠ inputs.length then
    .error "Number of signatures does not match number of inputs"
  else if ¬c.bitcoreLib.isHDPublicKey xpub then .error "Invalid xpub"
  else
    let (i, tx) := signatures.foldl (c.signatureStep xpub inputPaths signingMethod) (0, tx)
    if i ≠ tx.inputs.length then .error "Wrong signatures" else .ok tx

/-- Signatures tried at consecutive inputs from `k` on, each of them added. -/
def addSignaturesInOrder (xpub : String) (inputPaths : List String) (signingMethod : String) :
    ℕ → Transaction → List String → Except String Transaction
  | _, tx, [] => .ok tx
  | k, tx, s :: ss => do
    let tx' ← c.trySignature xpub inputPaths signingMethod k tx s
    addSignaturesInOrder xpub inputPaths signingMethod (k + 1) tx' ss

section SignatureLoop

variable {c} {xpub : String} {inputPaths : List String} {signingMethod : String}

theorem inputs_length_trySignature {k : ℕ} {tx tx' : Transaction} {s : String}
    (h : c.trySignature xpub inputPaths signingMethod k tx s = .ok tx') :
    tx'.inputs.length = tx.inputs.length := by
  unfold trySignature at h
  split at h
  · exact Transaction.inputs_length_applySignature _ h
  · cases h

theorem inputs_length_foldl_signatureStep (ss : List String) (st : ℕ × Transaction) :
    (ss.foldl (c.signatureStep xpub inputPaths signingMethod) st).2.inputs.length =
      st.2.inputs.length := by
  induction ss generalizing st with
  | nil => rfl
  | cons s ss ih =>
    rw [List.foldl_cons, ih]
    cases h : c.trySignature xpub inputPaths signingMethod st.1 st.2 s with
    | ok tx' => simp only [signatureStep, h]; exact inputs_length_trySignature h
    | error e => simp only [signatureStep, h]

theorem foldl_signatureStep_fst_le (ss : List String) (k : ℕ) (tx : Transaction) :
    (ss.foldl (c.signatureStep xpub inputPaths signingMethod) (k, tx)).1 ≤ k + ss.length := by
  induction ss generalizing k tx with
  | nil => simp
  | cons s ss ih =>
    rw [List.foldl_cons, List.length_cons]
    cases h : c.trySignature xpub inputPaths signingMethod k tx s with
    | ok tx' =>
      simp only [signatureStep, h]
      have := ih (k + 1) tx'
      omega
    | error e =>
      simp only [signatureStep, h]
      have := ih k tx
      omega

/-- An index that advanced at every signature: each was added at its own input. -/
theorem addSignaturesInOrder_of_foldl (ss : List String) (k : ℕ) (tx : Transaction)
    (h : (ss.foldl (c.signatureStep xpub inputPaths signingMethod) (k, tx)).1 = k + ss.length) :
    c.addSignaturesInOrder xpub inputPaths signingMethod k tx ss =
      .ok (ss.foldl (c.signatureStep xpub inputPaths signingMethod) (k, tx)).2 := by
  induction ss generalizing k tx with
  | nil => rfl
  | cons s ss ih =>
    rw [List.foldl_cons, List.length_cons] at h
    rw [List.foldl_cons]
    cases htx : c.trySignature xpub inputPaths signingMethod k tx s with
    | ok tx' =>
      simp only [signatureStep, htx] at h ⊢
      simp only [addSignaturesInOrder, htx]
      exact ih (k + 1) tx' (by omega)
    | error e =>
      simp only [signatureStep, htx] at h
      have := @foldl_signatureStep_fst_le c xpub inputPaths signingMethod ss k tx
      omega

theorem foldl_signatureStep_of_addSignaturesInOrder (ss : List String) (k : ℕ)
    (tx tx' : Transaction)
    (h : c.addSignaturesInOrder xpub inputPaths signingMethod k tx ss = .ok tx') :
    ss.foldl (c.signatureStep xpub inputPaths signingMethod) (k, tx) = (k + ss.length, tx') := by
  induction ss generalizing k tx with
  | nil => cases h; rfl
  | cons s ss ih =>
    obtain ⟨tx₁, h₁, h₂⟩ := except_bind_eq_ok.1 h
    rw [List.foldl_cons, List.length_cons, ← Nat.add_comm 1, ← Nat.add_assoc]
    simp only [signatureStep, h₁]
    exact ih (k + 1) tx₁ h₂

end SignatureLoop

theorem addSignaturesToBitcoreTx_ok {tx tx' : Transaction} {inputs : List Utxo}
    {inputPaths signatures : List String} {xpub : String} {signingMethod : Option String}
    (h : c.addSignaturesToBitcoreTx tx inputs inputPaths signatures xpub signingMethod = .ok tx')
    (hlen : tx.inputs.length = inputs.length) :
    signatures.length = inputs.length ∧
      c.addSignaturesInOrder xpub inputPaths (signingMethodOrDefault signingMethod) 0 tx
        signatures = .ok tx' := by
  simp only [addSignaturesToBitcoreTx] at h
  split_ifs at h with h₁ h₂ h₃
  cases h
  rw [not_not] at h₁ h₃
  refine ⟨h₁, addSignaturesInOrder_of_foldl _ _ _ ?_⟩
  rw [h₃, inputs_length_foldl_signatureStep, hlen, h₁, Nat.zero_add]

theorem inputs_length_addSignaturesToBitcoreTx {tx tx' : Transaction} {inputs : List Utxo}
    {inputPaths signatures : List String} {xpub : String} {signingMethod : Option String}
    (h : c.addSignaturesToBitcoreTx tx inputs inputPaths signatures xpub signingMethod = .ok tx') :
    tx'.inputs.length = tx.inputs.length := by
  simp only [addSignaturesToBitcoreTx] at h
  split_ifs at h
  cases h
  exact inputs_length_foldl_signatureStep _ _

/-- `addSignaturesToBitcoreTx` returns exactly when each signature is added at its input. -/
theorem addSignaturesToBitcoreTx_eq_ok_iff {tx tx' : Transaction} {inputs : List Utxo}
    {inputPaths signatures : List String} {xpub : String} {signingMethod : Option String}
    (hlen : tx.inputs.length = inputs.length) :
    c.addSignaturesToBitcoreTx tx inputs inputPaths signatures xpub signingMethod = .ok tx' ↔
      signatures.length = inputs.length ∧ c.bitcoreLib.isHDPublicKey xpub = true ∧
        c.addSignaturesInOrder xpub inputPaths (signingMethodOrDefault signingMethod) 0 tx
          signatures = .ok tx' := by
  constructor
  · intro h
    obtain ⟨h₁, h₂⟩ := c.addSignaturesToBitcoreTx_ok h hlen
    refine ⟨h₁, by_contra fun hx => ?_, h₂⟩
    simp [addSignaturesToBitcoreTx, h₁, hx] at h
  · rintro ⟨h₁, h₂, h₃⟩
    have hfold := foldl_signatureStep_of_addSignaturesInOrder _ _ _ _ h₃
    have hlen' := @inputs_length_foldl_signatureStep c xpub inputPaths
      (signingMethodOrDefault signingMethod) signatures (0, tx)
    rw [hfold] at hlen'
    simp [addSignaturesToBitcoreTx, h₁, h₂, hfold, hlen', hlen]

def sampleChain : BtcChain := ⟨sampleLib, 0, 0, fun _ => "pubkeyhash"⟩

def sampleUnsignedTx : Transaction :=
  { Transaction.empty with
    inputs := [⟨"prev", 0, 5000, Transaction.maxInt, .single none⟩]
    outputs := [⟨1000, .address "addr1"⟩, ⟨3500, .address "change"⟩] }

theorem addSignaturesToBitcoreTx_eq_ok_iff_sample :
    ∃ t', sampleChain.addSignaturesInOrder "xpub1" ["m/0/0"] (signingMethodOrDefault none) 0
        sampleUnsignedTx ["sigA"] = .ok t' ∧
      sampleUnsignedTx.inputs.length = sampleInputTxp.inputs.length ∧
      (sampleChain.addSignaturesToBitcoreTx sampleUnsignedTx sampleInputTxp.inputs ["m/0/0"]
          ["sigA"] "xpub1" none = .ok t' ↔
        ["sigA"].length = sampleInputTxp.inputs.length ∧
          sampleChain.bitcoreLib.isHDPublicKey "xpub1" = true ∧
          sampleChain.addSignaturesInOrder "xpub1" ["m/0/0"] (signingMethodOrDefault none) 0
            sampleUnsignedTx ["sigA"] = .ok t') :=
  ⟨_, rfl, rfl, sampleChain.addSignaturesToBitcoreTx_eq_ok_iff rfl⟩

/-- Without inputs an invalid xpub still throws: the key is built before the loop. -/
theorem addSignaturesToBitcoreTx_rejects_xpub_without_inputs :
    Transaction.empty.inputs.length = ([] : List Utxo).length ∧
      ([] : List String).length = ([] : List Utxo).length ∧
      sampleChain.addSignaturesInOrder "bad" [] "ecdsa" 0 .empty [] = .ok .empty ∧
      sampleChain.addSignaturesToBitcoreTx .empty [] [] [] "bad" none = .error "Invalid xpub" :=
  ⟨rfl, rfl, rfl, rfl⟩

def addTxInputs (txp : TxProposal) (t : Transaction) : Except String Transaction :=
  match txp.addressType with
  | .P2WSH | .P2SH => txp.inputs.foldlM (fun t i =>
      if i.publicKeys.isSome then t.from c.bitcoreLib i i.publicKeys txp.requiredSignatures
      else .error "Failed state: Inputs should include public keys at <getBitcoreTx()>") t
  | .P2WPKH | .P2PKH | .P2TR => txp.inputs.foldlM (fun t i => t.from c.bitcoreLib i none 0) t

/-- The version, and for a version above 3 the lock time. -/
def setVersionAndLock (txp : TxProposal) (t : Transaction) : Except String Transaction :=
  if txp.version ≤ 3 then .ok (t.setVersion 1)
  else match txp.lockUntilBlockHeight with
    | some h => if h ≠ 0 then (t.setVersion 2).lockUntilBlockHeight h else .ok (t.setVersion 2)
    | none => .ok (t.setVersion 2)

def rejectMultiTx (txp : TxProposal) (t : Transaction) : Except String Transaction :=
  if txp.multiTx then .error "MULTI_TX_UNSUPPORTED" else .ok t

def addChange (txp : TxProposal) (t : Transaction) : Transaction :=
  match txp.changeAddress with
  | some a => t.change c.bitcoreLib a.address
  | none => t

def checkAmounts (txp : TxProposal) (t : Transaction) : Except String Transaction :=
  if ¬(0 < t.inputAmount ∧ 0 < t.outputAmount ∧ t.outputAmount ≤ t.inputAmount) then
    .error "Failed state: not-enough-inputs at <getBitcoreTx()>"
  else if ¬∃ m, Defaults.maxTxFee txp.coin = some m ∧ t.inputAmount - t.outputAmount ≤ m then
    .error "Failed state: fee-too-high at <getBitcoreTx()>"
  else .ok t

def addCurrentSignatures (txp : TxProposal) (t : Transaction) : Except String Transaction :=
  txp.getCurrentSignatures.foldlM (fun t s =>
    c.addSignaturesToBitcoreTx t txp.inputs txp.inputPaths (s.1.getD []) (s.2.getD "")
      txp.signingMethod) t

/-- `getBitcoreTx(txp, {signed})`. -/
def getBitcoreTx (txp : TxProposal) (signed : Bool := true) : Except String Transaction := do
  let t ← setVersionAndLock txp Transaction.empty
  let t ← rejectMultiTx txp t
  let t ← c.addTxInputs txp t
  let t ← txp.outputs.foldlM (ProposalTx.addTxOutput c.bitcoreLib
    "Failed state: Output should have either toAddress or script specified at <getBitcoreTx()>") t
  let t ← t.setFee c.bitcoreLib txp.fee
  let t ← ProposalTx.addEscrow c.bitcoreLib txp t
  let t ← ProposalTx.shuffleOutputs
    "Failed state: t.outputs.length not equal to outputOrder.length at <getBitcoreTx()>"
    txp.outputOrder (c.addChange txp (if txp.enableRBF then t.enableRBF else t))
  let t ← checkAmounts txp t
  if signed then c.addCurrentSignatures txp t else .ok t

section InputCount

variable {c} {txp : TxProposal} {t t' : Transaction}

theorem rejectMultiTx_eq (h : rejectMultiTx txp t = .ok t') : t' = t := by
  unfold rejectMultiTx at h
  split_ifs at h
  exact (Except.ok.inj h).symm

theorem checkAmounts_eq (h : checkAmounts txp t = .ok t') : t' = t := by
  unfold checkAmounts at h
  split_ifs at h
  exact (Except.ok.inj h).symm

theorem inputs_length_setVersionAndLock (h : setVersionAndLock txp t = .ok t') :
    t'.inputs.length = t.inputs.length := by
  unfold setVersionAndLock at h
  split_ifs at h
  · cases h; rfl
  · split at h
    · split_ifs at h
      · have := Transaction.inputs_length_lockUntilBlockHeight h
        exact this
      · cases h; rfl
    · cases h; rfl

theorem inputs_length_addTxInputs (h : c.addTxInputs txp t = .ok t') :
    t'.inputs.length = t.inputs.length + txp.inputs.length := by
  have hfrom {u : Utxo} {ks : Option (List String)} {m : ℕ} {t t' : Transaction}
      (h : t.from c.bitcoreLib u ks m = .ok t') : t'.inputs.length = t.inputs.length + 1 :=
    Transaction.inputs_length_from _ h
  unfold addTxInputs at h
  split at h <;> simpa using foldlM_measure (·.inputs.length) 1 (fun t u t' h' => by
    first
      | exact hfrom h'
      | (split_ifs at h'; exact hfrom h')) _ _ _ h

theorem inputs_length_addCurrentSignatures (h : c.addCurrentSignatures txp t = .ok t') :
    t'.inputs.length = t.inputs.length :=
  (foldlM_measure (·.inputs.length) 0 (fun _ _ _ h => by
    simpa using inputs_length_addSignaturesToBitcoreTx _ h) _ _ _ h).trans (by simp)

theorem inputs_length_getBitcoreTx {signed : Bool} (h : c.getBitcoreTx txp signed = .ok t) :
    t.inputs.length = txp.inputs.length := by
  simp only [getBitcoreTx, except_bind_eq_ok] at h
  obtain ⟨t₀, h₀, t₁, h₁, t₂, h₂, t₃, h₃, t₃', h₃', t₄, h₄, t₅, h₅, t₆, h₆, h₇⟩ := h
  have e₁ := rejectMultiTx_eq h₁
  have e₂ := inputs_length_addTxInputs h₂
  have e₅ := ProposalTx.inputs_length_shuffleOutputs h₅
  have e₆ := checkAmounts_eq h₆
  have e₇ : t.inputs.length = t₆.inputs.length := by
    split_ifs at h₇
    · exact inputs_length_addCurrentSignatures h₇
    · cases h₇; rfl
  have e₄ : (c.addChange txp (if txp.enableRBF then t₄.enableRBF else t₄)).inputs.length =
      t₄.inputs.length := by
    unfold addChange
    split <;> split_ifs <;> simp
  rw [e₇, e₆, e₅, e₄, ProposalTx.inputs_length_addEscrow h₄, Transaction.inputs_length_setFee _ h₃',
    ProposalTx.inputs_length_addTxOutputs h₃, e₂, e₁, inputs_length_setVersionAndLock h₀]
  simp [Transaction.empty]

/-- Over bitcore-lib, which has no `escrow`, no escrow proposal builds. -/
theorem getBitcoreTx_ne_ok_of_escrow (hlib : c.bitcoreLib.hasEscrow = false)
    (hslot : ProposalTx.escrowSlot txp = 1) (signed : Bool) (t : Transaction) :
    c.getBitcoreTx txp signed ≠ .ok t := by
  intro h
  simp only [getBitcoreTx, except_bind_eq_ok] at h
  obtain ⟨-, -, -, -, -, -, -, -, t₄, -, t₅, h₅, -⟩ := h
  obtain ⟨e, he⟩ := ProposalTx.addEscrow_eq_error (t := t₄) hlib hslot
  rw [he] at h₅
  cases h₅

end InputCount

def service : ChainService Transaction where
  getBitcoreTx txp := c.getBitcoreTx txp
  addSignaturesToBitcoreTx _ tx inputs inputPaths signatures xpub signingMethod :=
    c.addSignaturesToBitcoreTx tx inputs inputPaths signatures xpub signingMethod
  uncheckedSerialize := Transaction.uncheckedSerialize
  id := Transaction.id c.bitcoreLib
  txids _ := none

/-- `sign` on a BTC-family chain is all or nothing. -/
theorem sign_atomic (x : TxProposal) (copayerId : String) (signatures : List String)
    (xpub : String) :
    ((x.sign c.service copayerId signatures xpub).1 = false →
      (x.sign c.service copayerId signatures xpub).2 = x) ∧
    ((x.sign c.service copayerId signatures xpub).1 = true → ∃ tx s,
      s = (x.addAction copayerId .accept none (some signatures) (some xpub)).status ∧
      (x.sign c.service copayerId signatures xpub).2 =
        { x with actions := x.actions ++ [⟨copayerId, .accept, some signatures, some xpub, none⟩],
                 status := s,
                 raw := if s = .accepted then some (c.service.uncheckedSerialize tx) else x.raw,
                 txid := if s = .accepted then some (c.service.id tx) else x.txid,
                 txids := if s = .accepted ∧ x.multiTx then
                   some ((c.service.txids tx).getD [c.service.id tx]) else x.txids } ∧
      signatures.length = x.inputs.length ∧
      ∃ t₀, c.getBitcoreTx x = .ok t₀ ∧
        c.addSignaturesInOrder xpub x.inputPaths (signingMethodOrDefault x.signingMethod) 0 t₀
          signatures = .ok tx) := by
  rcases TxProposal.sign_eq c.service x copayerId signatures xpub with h | ⟨tx, htx, h⟩ <;>
    rw [h]
  · exact ⟨fun _ => rfl, fun h => by cases h⟩
  · refine ⟨fun h => (by cases h), fun _ => ⟨tx, _, rfl,
      TxProposal.recordSignatures_eq _ _ _ _ _ _ rfl, ?_⟩⟩
    obtain ⟨t₀, h₀, h₁⟩ := except_bind_eq_ok.1 htx
    obtain ⟨hlen, hord⟩ := c.addSignaturesToBitcoreTx_ok h₁ (inputs_length_getBitcoreTx h₀)
    exact ⟨hlen, t₀, h₀, hord⟩

section OutputCount

variable {c} {txp : TxProposal} {t t' : Transaction}

theorem setVersionAndLock_outputs (h : setVersionAndLock txp t = .ok t') :
    t'.changeScript = t.changeScript ∧ t'.outputs = t.outputs := by
  unfold setVersionAndLock at h
  split_ifs at h
  · cases h; exact ⟨rfl, rfl⟩
  · split at h
    · split_ifs at h
      · unfold Transaction.lockUntilBlockHeight at h
        split_ifs at h
        cases h; exact ⟨rfl, rfl⟩
      · cases h; exact ⟨rfl, rfl⟩
    · cases h; exact ⟨rfl, rfl⟩

theorem addTxInputs_outputs (hc : t.changeScript = none) (h : c.addTxInputs txp t = .ok t') :
    t'.changeScript = none ∧ t'.outputs.length = t.outputs.length := by
  have hfrom {u : Utxo} {ks : Option (List String)} {m : ℕ} {t t' : Transaction}
      (hc : t.changeScript = none) (h : t.from c.bitcoreLib u ks m = .ok t') :
      t'.changeScript = none ∧ t'.outputs.length = t.outputs.length + 0 := by
    obtain ⟨h₁, h₂⟩ := Transaction.from_of_none hc h
    exact ⟨h₁, by rw [h₂]; rfl⟩
  unfold addTxInputs at h
  split at h <;> simpa using foldlM_measure_of_inv (fun t : Transaction => t.changeScript = none)
    (·.outputs.length) 0 (fun t u t' hc h' => by
      first
        | exact hfrom hc h'
        | (split_ifs at h'; exact hfrom hc h')) _ _ _ hc h

theorem outputs_length_addChange (t : Transaction) :
    (c.addChange txp t).outputs.length ≤ t.outputs.length + 1 := by
  unfold addChange
  split
  · exact Transaction.outputs_length_change _ _
  · omega

/-- What `getBitcoreTx` reorders: the outputs, at most an escrow and a change output. -/
theorem getBitcoreTx_reorder_outputs {msg : String} {t₀ t₁ t₂ t₃ t₄ t₅ : Transaction}
    (h₀ : setVersionAndLock txp .empty = .ok t₀) (h₁ : rejectMultiTx txp t₀ = .ok t₁)
    (h₂ : c.addTxInputs txp t₁ = .ok t₂)
    (h₃ : txp.outputs.foldlM (ProposalTx.addTxOutput c.bitcoreLib msg) t₂ = .ok t₃)
    (h₄ : t₃.setFee c.bitcoreLib txp.fee = .ok t₄)
    (h₅ : ProposalTx.addEscrow c.bitcoreLib txp t₄ = .ok t₅) :
    (c.addChange txp (if txp.enableRBF then t₅.enableRBF else t₅)).outputs.length ≤
      txp.outputs.length + ProposalTx.escrowSlot txp + 1 := by
  obtain ⟨c₀, o₀⟩ := setVersionAndLock_outputs h₀
  cases rejectMultiTx_eq h₁
  obtain ⟨c₂, o₂⟩ := addTxInputs_outputs c₀ h₂
  obtain ⟨c₃, o₃⟩ := ProposalTx.addTxOutputs_outputs c₂ h₃
  obtain ⟨c₄, o₄⟩ := Transaction.setFee_of_none c₃ h₄
  have o₅ := ProposalTx.addEscrow_outputs c₄ h₅
  have o₆ : (if txp.enableRBF then t₅.enableRBF else t₅).outputs = t₅.outputs := by
    split_ifs <;> rfl
  have := @outputs_length_addChange c txp (if txp.enableRBF then t₅.enableRBF else t₅)
  simp only [o₆, o₄, o₀, Transaction.empty, List.length_nil] at this o₅ o₃ o₂
  omega

end OutputCount

theorem getBitcoreTx_reorder_outputs_sample :
    ∃ t₀ t₁ t₂ t₃ t₄ t₅, setVersionAndLock sampleInputTxp .empty = .ok t₀ ∧
      rejectMultiTx sampleInputTxp t₀ = .ok t₁ ∧
      sampleChain.addTxInputs sampleInputTxp t₁ = .ok t₂ ∧
      sampleInputTxp.outputs.foldlM (ProposalTx.addTxOutput sampleChain.bitcoreLib "") t₂ = .ok t₃ ∧
      t₃.setFee sampleChain.bitcoreLib sampleInputTxp.fee = .ok t₄ ∧
      ProposalTx.addEscrow sampleChain.bitcoreLib sampleInputTxp t₄ = .ok t₅ ∧
      (sampleChain.addChange sampleInputTxp
          (if sampleInputTxp.enableRBF then t₅.enableRBF else t₅)).outputs.length ≤
        sampleInputTxp.outputs.length + ProposalTx.escrowSlot sampleInputTxp + 1 :=
  ⟨_, _, _, _, _, _, rfl, rfl, rfl, rfl, rfl, rfl,
    @getBitcoreTx_reorder_outputs sampleChain sampleInputTxp "" _ _ _ _ _ _ rfl rfl rfl rfl rfl rfl⟩

end BtcChain

end BitcoreWallet
