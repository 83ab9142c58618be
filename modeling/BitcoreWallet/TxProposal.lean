import BitcoreWallet.Bitcore

namespace BitcoreWallet

inductive TxProposalStatus
  | temporary
  | pending
  | accepted
  | rejected
  | broadcasted
  deriving DecidableEq, Repr

inductive ActionType
  | accept
  | reject
  deriving DecidableEq, Repr

structure TxProposalAction where
  copayerId : String
  type : ActionType
  signatures : Option (List String)
  xpub : Option String
  comment : Option String
  deriving DecidableEq, Repr

/-- An output as `create` copies it; `tag` is held as the text `Number` reads. -/
structure TxOutput where
  amount : ℕ
  toAddress : Option String
  script : Option String
  message : Option String
  data : Option String
  gasLimit : Option ℕ
  tag : Option String
  deriving DecidableEq, Repr

structure AddressRecord where
  address : String
  path : String
  type : Option ScriptType
  publicKeys : List String
  deriving DecidableEq, Repr

/-- The ETH, XRP and SOL fields of a proposal, which `create` and `fromObj` copy. -/
structure CoinSpecific where
  gasPrice : Option ℚ := none
  maxGasFee : Option ℚ := none
  priorityGasFee : Option ℚ := none
  txType : Option String := none
  «from» : Option String := none
  nonce : Option String := none
  gasLimit : Option ℕ := none
  data : Option String := none
  tokenAddress : Option String := none
  multiSendContractAddress : Option String := none
  isTokenSwap : Option Bool := none
  multisigContractAddress : Option String := none
  destinationTag : Option String := none
  invoiceID : Option String := none
  space : Option ℕ := none
  blockHash : Option String := none
  blockHeight : Option ℕ := none
  nonceAddress : Option String := none
  category : Option String := none
  computeUnits : Option ℕ := none
  memo : Option String := none
  fromAta : Option String := none
  decimals : Option ℕ := none
  priorityFee : Option ℚ := none
  deriving DecidableEq, Repr

/-- The service's `TxProposal`, with the fields the modelled operations read or write. -/
structure TxProposal where
  version : ℕ
  id : String
  walletId : String
  creatorId : String
  coin : String
  chain : String
  network : String
  toAddress : Option String
  message : Option String
  payProUrl : Option String
  changeAddress : Option AddressRecord
  escrowAddress : Option AddressRecord
  instantAcceptanceEscrow : Option ℕ
  outputs : List TxOutput
  outputOrder : List ℕ
  walletM : ℕ
  walletN : ℕ
  requiredSignatures : ℕ
  requiredRejections : ℤ
  status : TxProposalStatus
  actions : List TxProposalAction
  feePerKb : ℚ
  excludeUnconfirmedUtxos : Bool
  customData : Option String
  addressType : ScriptType
  amount : ℕ
  inputs : List Utxo
  inputPaths : List String
  fee : Option ℤ
  lockUntilBlockHeight : Option ℕ
  enableRBF : Bool
  replaceTxByFee : Bool
  multiTx : Bool
  signingMethod : Option String
  proposalSignature : Option String
  proposalSignaturePubKey : Option String
  proposalSignaturePubKeySig : Option String
  prePublishRaw : Option String
  raw : Option RawTx
  txid : Option String
  txids : Option (List String)
  broadcastedOn : Option ℕ
  feeLevel : Option String := none
  refreshOnPublish : Option Bool := none
  multisigTxId : Option String := none
  coinSpecific : CoinSpecific := {}
  type : Option String := none
  creatorName : Option String := none
  deriving DecidableEq, Repr

def sampleTxp : TxProposal where
  version := 3
  id := "txp2"
  walletId := "w1"
  creatorId := "c1"
  coin := "btc"
  chain := "btc"
  network := "livenet"
  toAddress := none
  message := none
  payProUrl := none
  changeAddress := some ⟨"change", "m/1/0", none, []⟩
  escrowAddress := none
  instantAcceptanceEscrow := none
  outputs := [⟨1000, some "addr1", none, none, none, none, none⟩]
  outputOrder := [0, 1]
  walletM := 1
  walletN := 1
  requiredSignatures := 1
  requiredRejections := 1
  status := .temporary
  actions := []
  feePerKb := 1000
  excludeUnconfirmedUtxos := false
  customData := none
  addressType := .P2PKH
  amount := 1000
  inputs := []
  inputPaths := []
  fee := none
  lockUntilBlockHeight := none
  enableRBF := false
  replaceTxByFee := false
  multiTx := false
  signingMethod := none
  proposalSignature := none
  proposalSignaturePubKey := none
  proposalSignaturePubKeySig := none
  prePublishRaw := none
  raw := none
  txid := none
  txids := none
  broadcastedOn := none

def sampleInputTxp : TxProposal :=
  { sampleTxp with
    inputs := [⟨"prev", 0, 5000, 0.00005, "in1", "m/0/0", none, 6, false⟩], fee := some 500 }

structure CreateOpts where
  version : Option ℕ
  id : String
  walletId : String
  creatorId : String
  coin : String
  chain : String
  network : String
  signingMethod : Option String
  message : Option String
  payProUrl : Option String
  changeAddress : Option AddressRecord
  escrowAddress : Option AddressRecord
  instantAcceptanceEscrow : Option ℕ
  outputs : List TxOutput
  multiTx : Bool
  noShuffleOutputs : Bool
  walletM : ℕ
  walletN : ℕ
  feePerKb : ℚ
  excludeUnconfirmedUtxos : Bool
  customData : Option String
  addressType : Option ScriptType
  amount : Option ℕ
  inputs : Option (List Utxo)
  fee : Option ℤ
  lockUntilBlockHeight : Option ℕ
  enableRBF : Bool
  replaceTxByFee : Bool
  feeLevel : Option String := none
  refreshOnPublish : Option Bool := none
  coinSpecific : CoinSpecific := {}
  deriving DecidableEq, Repr

def sampleOpts : CreateOpts where
  version := none
  id := "txp1"
  walletId := "w1"
  creatorId := "c1"
  coin := "btc"
  chain := "btc"
  network := "livenet"
  signingMethod := none
  message := none
  payProUrl := none
  changeAddress := some ⟨"change", "m/1/0", none, []⟩
  escrowAddress := none
  instantAcceptanceEscrow := none
  outputs := [⟨1000, some "addr1", none, none, none, none, none⟩]
  multiTx := false
  noShuffleOutputs := true
  walletM := 1
  walletN := 1
  feePerKb := 1000
  excludeUnconfirmedUtxos := false
  customData := none
  addressType := none
  amount := none
  inputs := some [⟨"prev", 0, 5000, 0.00005, "in1", "m/0/0", none, 6, false⟩]
  fee := some 500
  lockUntilBlockHeight := none
  enableRBF := false
  replaceTxByFee := false

def sampleMultisigOpts : CreateOpts :=
  { sampleOpts with
    walletM := 2, walletN := 3,
    inputs := some [⟨"prev", 0, 5000, 0.00005, "in1", "m/0/0", some ["pub1", "pub2", "pub3"], 6,
      false⟩] }

namespace TxProposal

def getTotalAmount (x : TxProposal) : ℕ := (x.outputs.map (·.amount)).sum

def setInputs (inputs : Option (List Utxo)) (x : TxProposal) : TxProposal :=
  { x with inputs := inputs.getD [], inputPaths := (inputs.getD []).map (·.path) }

def numOutputs (opts : CreateOpts) : ℕ :=
  opts.outputs.length + (if opts.multiTx then 0 else 1) +
    (if opts.instantAcceptanceEscrow.getD 0 ≠ 0 then 1 else 0)

/-- `TxProposal.create`; `networks chain` is `Constants.NETWORKS[chain]`. -/
def create (getChain : String → String) (networks : String → List String)
    (shuffle : List ℕ → List ℕ) (opts : CreateOpts) : Except String TxProposal :=
  let chain := if toLowerCase opts.chain ≠ "" then toLowerCase opts.chain else getChain opts.coin
  if opts.network ∉ networks chain then
    .error s!"Invalid network: {opts.network} at TxProposal.create()"
  else if opts.version.getD 0 ≠ 0 ∧ opts.version.getD 0 < 3 then .error "Illegal Argument."
  else
    let version := if opts.version.getD 0 = 0 then 3 else opts.version.getD 0
    if 3 < version then .error "Failed state: txp version 4 not allowed yet at TxProposal.create()"
    else
      let order := List.range (numOutputs opts)
      let x : TxProposal :=
        { version, id := opts.id, walletId := opts.walletId, creatorId := opts.creatorId,
          coin := opts.coin, chain, network := opts.network, toAddress := none,
          message := opts.message,
          payProUrl := opts.payProUrl, changeAddress := opts.changeAddress,
          escrowAddress := opts.escrowAddress,
          instantAcceptanceEscrow := opts.instantAcceptanceEscrow, outputs := opts.outputs,
          outputOrder := if opts.noShuffleOutputs then order else shuffle order,
          walletM := opts.walletM, walletN := opts.walletN,
          requiredSignatures := opts.walletM,
          requiredRejections := min (opts.walletM : ℤ) (opts.walletN - opts.walletM + 1),
          status := .temporary, actions := [], feePerKb := opts.feePerKb,
          excludeUnconfirmedUtxos := opts.excludeUnconfirmedUtxos, customData := opts.customData,
          addressType := opts.addressType.getD (if 1 < opts.walletN then .P2SH else .P2PKH),
          amount := 0, inputs := [], inputPaths := [], fee := opts.fee,
          lockUntilBlockHeight := none, enableRBF := opts.enableRBF,
          replaceTxByFee := opts.replaceTxByFee, multiTx := opts.multiTx,
          signingMethod := opts.signingMethod, proposalSignature := none,
          proposalSignaturePubKey := none, proposalSignaturePubKeySig := none,
          prePublishRaw := none, raw := none, txid := none, txids := none,
          broadcastedOn := none, feeLevel := opts.feeLevel,
          refreshOnPublish := opts.refreshOnPublish, multisigTxId := none,
          coinSpecific := opts.coinSpecific, type := none, creatorName := none }
      .ok ({ x with amount := if opts.amount.getD 0 ≠ 0 then opts.amount.getD 0
                                else x.getTotalAmount }.setInputs opts.inputs)

theorem create_ok {getChain : String → String} {networks : String → List String}
    {shuffle : List ℕ → List ℕ} {opts : CreateOpts} {x : TxProposal}
    (h : create getChain networks shuffle opts = .ok x) :
    x.status = .temporary ∧ x.actions = [] ∧ x.walletM = opts.walletM ∧
      x.walletN = opts.walletN ∧ x.requiredSignatures = opts.walletM ∧
      x.requiredRejections = min (opts.walletM : ℤ) (opts.walletN - opts.walletM + 1) ∧
      x.raw = none ∧ x.txid = none := by
  unfold create at h
  obtain ⟨-, h⟩ := ite_error_eq_ok h
  obtain ⟨-, h⟩ := ite_error_eq_ok h
  obtain ⟨-, h⟩ := ite_error_eq_ok h
  cases h
  exact ⟨rfl, rfl, rfl, rfl, rfl, rfl, rfl, rfl⟩

theorem create_version {getChain : String → String} {networks : String → List String}
    {shuffle : List ℕ → List ℕ} {opts : CreateOpts} {x : TxProposal}
    (h : create getChain networks shuffle opts = .ok x) :
    x.version ≤ 3 ∧ x.lockUntilBlockHeight = none := by
  unfold create at h
  obtain ⟨-, h⟩ := ite_error_eq_ok h
  obtain ⟨-, h⟩ := ite_error_eq_ok h
  obtain ⟨hv, h⟩ := ite_error_eq_ok h
  cases h
  exact ⟨not_lt.1 hv, rfl⟩

theorem create_outputs {getChain : String → String} {networks : String → List String}
    {shuffle : List ℕ → List ℕ} {opts : CreateOpts} {x : TxProposal}
    (h : create getChain networks shuffle opts = .ok x) :
    x.outputs = opts.outputs ∧ x.instantAcceptanceEscrow = opts.instantAcceptanceEscrow ∧
      x.outputOrder = if opts.noShuffleOutputs then List.range (numOutputs opts)
        else shuffle (List.range (numOutputs opts)) := by
  unfold create at h
  obtain ⟨-, h⟩ := ite_error_eq_ok h
  obtain ⟨-, h⟩ := ite_error_eq_ok h
  obtain ⟨-, h⟩ := ite_error_eq_ok h
  cases h
  exact ⟨rfl, rfl, rfl⟩

def votes (x : TxProposal) (type : ActionType) : Option ℕ :=
  let n := x.actions.countP (·.type = type)
  if n = 0 then none else some n

def count (x : TxProposal) (type : ActionType) : ℕ := x.actions.countP (·.type = type)

/-- `isAccepted`; an absent count compares false, as `undefined >= m` does. -/
def isAccepted (x : TxProposal) : Bool :=
  match x.votes .accept with
  | some n => decide (x.requiredSignatures ≤ n)
  | none => false

def isRejected (x : TxProposal) : Bool :=
  match x.votes .reject with
  | some n => decide (x.requiredRejections ≤ n)
  | none => false

def isPending (x : TxProposal) : Bool :=
  x.status ∉ [TxProposalStatus.temporary, .broadcasted, .rejected]

def isTemporary (x : TxProposal) : Bool := decide (x.status = .temporary)

def isBroadcasted (x : TxProposal) : Bool := decide (x.status = .broadcasted)

def isRepublishEnabled (x : TxProposal) : Bool := x.refreshOnPublish.getD false

/-- `_updateStatus`: only a pending proposal is decided, rejection first. -/
def updateStatus (x : TxProposal) : TxProposal :=
  if x.status ≠ .pending then x
  else if x.isRejected then { x with status := .rejected }
  else if x.isAccepted then { x with status := .accepted }
  else x

def addAction (copayerId : String) (type : ActionType) (comment : Option String)
    (signatures : Option (List String)) (xpub : Option String) (x : TxProposal) : TxProposal :=
  updateStatus { x with actions := x.actions ++ [⟨copayerId, type, signatures, xpub, comment⟩] }

def getCurrentSignatures (x : TxProposal) : List (Option (List String) × Option String) :=
  (x.actions.filter (·.type = .accept)).map fun a => (a.signatures, a.xpub)

def getActionBy (x : TxProposal) (copayerId : String) : Option TxProposalAction :=
  x.actions.find? (·.copayerId = copayerId)

def getActors (x : TxProposal) : List String := x.actions.map (·.copayerId)

def getApprovers (x : TxProposal) : List String :=
  (x.actions.filter (·.type = .accept)).map (·.copayerId)

@[simp] theorem count_eq (x : TxProposal) (type : ActionType) :
    x.count type = x.actions.countP (·.type = type) := rfl

@[simp] theorem countP_type_append (l : List TxProposalAction) (a : TxProposalAction)
    (type : ActionType) :
    (l ++ [a]).countP (·.type = type) =
      l.countP (·.type = type) + if a.type = type then 1 else 0 := by
  simp [List.countP_append, List.countP_cons]

theorem isAccepted_iff (x : TxProposal) :
    x.isAccepted ↔ x.count .accept ≠ 0 ∧ x.requiredSignatures ≤ x.count .accept := by
  unfold isAccepted votes count
  by_cases h : x.actions.countP (·.type = .accept) = 0 <;> simp [h]

theorem isRejected_iff (x : TxProposal) :
    x.isRejected ↔ x.count .reject ≠ 0 ∧ x.requiredRejections ≤ x.count .reject := by
  unfold isRejected votes count
  by_cases h : x.actions.countP (·.type = .reject) = 0 <;> simp [h]

theorem isPending_iff (x : TxProposal) :
    x.isPending ↔ x.status = .pending ∨ x.status = .accepted := by
  unfold isPending
  cases x.status <;> decide

theorem updateStatus_eq (x : TxProposal) : ∃ s, updateStatus x = { x with status := s } := by
  unfold updateStatus
  split_ifs
  exacts [⟨x.status, rfl⟩, ⟨_, rfl⟩, ⟨_, rfl⟩, ⟨x.status, rfl⟩]

theorem updateStatus_status (x : TxProposal) :
    (updateStatus x).status =
      if x.status = .pending then
        (if x.isRejected then .rejected else if x.isAccepted then .accepted else .pending)
      else x.status := by
  unfold updateStatus
  by_cases h : x.status = .pending <;> simp [h]
  split_ifs <;> simp [h]

theorem addAction_eq (x : TxProposal) (copayerId : String) (type : ActionType)
    (comment : Option String) (signatures : Option (List String)) (xpub : Option String) :
    x.addAction copayerId type comment signatures xpub =
      { x with actions := x.actions ++ [⟨copayerId, type, signatures, xpub, comment⟩],
               status := (x.addAction copayerId type comment signatures xpub).status } := by
  obtain ⟨s, hs⟩ := updateStatus_eq
    { x with actions := x.actions ++ [⟨copayerId, type, signatures, xpub, comment⟩] }
  simp only [addAction, hs]

end TxProposal

/-- What `TxProposal.sign` asks of `ChainService` for one chain. -/
structure ChainService (Tx : Type) where
  getBitcoreTx : TxProposal → Except String Tx
  addSignaturesToBitcoreTx :
    String → Tx → List Utxo → List String → List String → String → Option String →
      Except String Tx
  uncheckedSerialize : Tx → RawTx
  id : Tx → String
  txids : Tx → Option (List String)

namespace TxProposal

variable {Tx : Type} (cs : ChainService Tx)

def signedTx (x : TxProposal) (signatures : List String) (xpub : String) : Except String Tx := do
  let tx ← cs.getBitcoreTx x
  cs.addSignaturesToBitcoreTx x.chain tx x.inputs x.inputPaths signatures xpub x.signingMethod

def recordSignatures (tx : Tx) (copayerId : String) (signatures : List String) (xpub : String)
    (x : TxProposal) : TxProposal :=
  let y := x.addAction copayerId .accept none (some signatures) (some xpub)
  if y.status = .accepted then
    { y with raw := some (cs.uncheckedSerialize tx), txid := some (cs.id tx),
             txids := if y.multiTx then some ((cs.txids tx).getD [cs.id tx]) else y.txids }
  else y

/-- `sign`: its result and the proposal after the call; a throw returns `false`. -/
def sign (x : TxProposal) (copayerId : String) (signatures : List String) (xpub : String) :
    Bool × TxProposal :=
  match signedTx cs x signatures xpub with
  | .ok tx => (true, recordSignatures cs tx copayerId signatures xpub x)
  | .error _ => (false, x)

theorem recordSignatures_eq (tx : Tx) (copayerId : String) (signatures : List String)
    (xpub : String) (x : TxProposal) {s : TxProposalStatus}
    (hs : s = (x.addAction copayerId .accept none (some signatures) (some xpub)).status) :
    recordSignatures cs tx copayerId signatures xpub x =
      { x with actions := x.actions ++ [⟨copayerId, .accept, some signatures, some xpub, none⟩],
               status := s,
               raw := if s = .accepted then some (cs.uncheckedSerialize tx) else x.raw,
               txid := if s = .accepted then some (cs.id tx) else x.txid,
               txids := if s = .accepted ∧ x.multiTx then some ((cs.txids tx).getD [cs.id tx])
                 else x.txids } := by
  unfold recordSignatures
  rw [addAction_eq, ← hs]
  by_cases h : s = .accepted <;> simp [h]

theorem sign_eq (x : TxProposal) (copayerId : String) (signatures : List String) (xpub : String) :
    x.sign cs copayerId signatures xpub = (false, x) ∨
      ∃ tx, signedTx cs x signatures xpub = .ok tx ∧
        x.sign cs copayerId signatures xpub =
          (true, recordSignatures cs tx copayerId signatures xpub x) := by
  unfold sign
  cases signedTx cs x signatures xpub with
  | ok tx => exact .inr ⟨tx, rfl, rfl⟩
  | error e => exact .inl rfl

def getRawTx (x : TxProposal) : Except String RawTx :=
  (cs.getBitcoreTx x).map cs.uncheckedSerialize

def reject (x : TxProposal) (copayerId : String) (reason : Option String) : TxProposal :=
  x.addAction copayerId .reject reason none none

/-- `setBroadcasted`, at time `now`: refused without a transaction id. -/
def setBroadcasted (x : TxProposal) (now : ℕ) : Except String TxProposal :=
  if Truthy x.txid then .ok { x with status := .broadcasted, broadcastedOn := some now }
  else .error "Failed state: this.txid at <setBroadcasted()>"

end TxProposal

end BitcoreWallet
