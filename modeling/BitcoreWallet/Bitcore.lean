import BitcoreWallet.Common

namespace BitcoreWallet

structure TransactionSignature where
  inputIndex : ℕ
  signature : String
  sigtype : ℕ
  publicKey : String
  deriving DecidableEq, Repr

inductive InputScript
  | multisig (publicKeys : List String) (threshold : ℕ)
      (signatures : List (Option TransactionSignature))
  | single (signature : Option TransactionSignature)
  deriving DecidableEq, Repr

structure Input where
  prevTxId : String
  outputIndex : ℕ
  satoshis : ℕ
  sequenceNumber : ℕ
  script : InputScript
  deriving DecidableEq, Repr

inductive OutputScript
  | address (a : String)
  | script (hex : String)
  deriving DecidableEq, Repr

structure Output where
  satoshis : ℤ
  script : OutputScript
  deriving DecidableEq, Repr

/-- bitcore-lib's `Transaction` as the builders drive it, with `_fee` and the change. -/
structure Transaction where
  version : ℕ
  nLockTime : ℕ
  inputs : List Input
  outputs : List Output
  fee : Option ℤ
  changeScript : Option String
  changeIndex : Option ℕ
  deriving DecidableEq, Repr

structure RawInput where
  prevTxId : String
  outputIndex : ℕ
  sequenceNumber : ℕ
  scriptSig : List (String × ℕ)
  deriving DecidableEq, Repr

structure RawTx where
  version : ℕ
  inputs : List RawInput
  outputs : List Output
  nLockTime : ℕ
  deriving DecidableEq, Repr

/-- The parts of bitcore-lib left abstract; only bitcore-lib-cash has `escrow`. -/
structure BitcoreLib where
  dustAmount : ℕ
  hasEscrow : Bool
  estimateFee : Transaction → ℤ
  isValidSignature : Transaction → TransactionSignature → String → Bool
  signatureFromString : String → Option String
  isHDPublicKey : String → Bool
  deriveChild : String → String → Option String
  hash : RawTx → String
  sighashType : ℕ

def sampleKeys : List (String × String) := [("xpub1", "pub1"), ("xpub2", "pub2"), ("xpub3", "pub3")]

/-- A small bitcore-lib: signatures are valid exactly under the children of `sampleKeys`. -/
def sampleLib : BitcoreLib where
  dustAmount := 546
  hasEscrow := false
  estimateFee _ := 0
  isValidSignature _ sig _ := (sampleKeys.map Prod.snd).contains sig.publicKey
  signatureFromString s := some s
  isHDPublicKey x := (sampleKeys.lookup x).isSome
  deriveChild x _ := sampleKeys.lookup x
  hash r := String.join (r.inputs.flatMap fun i => i.scriptSig.map Prod.fst)
  sighashType := 1

namespace InputScript

def countSignatures : InputScript → ℕ
  | multisig _ _ sigs => sigs.countP Option.isSome
  | single sig => if sig.isSome then 1 else 0

def clearSignatures : InputScript → InputScript
  | multisig keys m sigs => multisig keys m (sigs.map fun _ => none)
  | single _ => single none

def scriptSig : InputScript → List (String × ℕ)
  | multisig _ _ sigs => sigs.filterMap (Option.map fun s => (s.signature, s.sigtype))
  | single sig => (sig.map fun s => (s.signature, s.sigtype)).toList

end InputScript

/-- `input.addSignature(transaction, signature, signingMethod)`. -/
def Input.addSignature (lib : BitcoreLib) (tx : Transaction) (sig : TransactionSignature)
    (signingMethod : String) (i : Input) : Except String Input :=
  match i.script with
  | .multisig keys m sigs =>
    if i.script.countSignatures = m then .error "All needed signatures have already been added"
    else if sig.publicKey ∈ keys then
      if lib.isValidSignature tx sig signingMethod then
        .ok { i with script := .multisig keys m (sigs.set (keys.indexOf sig.publicKey) (some sig)) }
      else .error "Invalid Signature"
    else .error "Signature has no matching public key"
  | .single _ =>
    if lib.isValidSignature tx sig signingMethod then .ok { i with script := .single (some sig) }
    else .error "Signature is invalid"

namespace Transaction

def empty : Transaction := ⟨1, 0, [], [], none, none, none⟩

def maxInt : ℕ := 0xffffffff

def inputAmount (t : Transaction) : ℤ := (t.inputs.map (·.satoshis : Input → ℤ)).sum

def outputAmount (t : Transaction) : ℤ := (t.outputs.map (·.satoshis)).sum

def uncheckedSerialize (t : Transaction) : RawTx :=
  ⟨t.version,
    t.inputs.map fun i => ⟨i.prevTxId, i.outputIndex, i.sequenceNumber, i.script.scriptSig⟩,
    t.outputs, t.nLockTime⟩

def id (lib : BitcoreLib) (t : Transaction) : String := lib.hash t.uncheckedSerialize

variable (lib : BitcoreLib)

def getFee (t : Transaction) : ℤ :=
  match t.fee with
  | some f => f
  | none => if t.changeScript.isNone then t.inputAmount - t.outputAmount else lib.estimateFee t

def clearSignatures (t : Transaction) : Transaction :=
  { t with inputs := t.inputs.map fun i => { i with script := i.script.clearSignatures } }

def removeChangeOutput (t : Transaction) : Transaction :=
  match t.changeIndex with
  | some i => { t with outputs := t.outputs.eraseIdx i, changeIndex := none }
  | none => t

/-- `_updateChangeOutput`: the change recomputed from the unspent value and the fee. -/
def updateChangeOutput (t : Transaction) : Transaction :=
  match t.changeScript with
  | none => t
  | some addr =>
    let t := t.clearSignatures.removeChangeOutput
    let changeAmount := t.inputAmount - t.outputAmount - t.getFee lib
    if (lib.dustAmount : ℤ) < changeAmount then
      { t with outputs := t.outputs ++ [⟨changeAmount, .address addr⟩],
               changeIndex := some t.outputs.length }
    else t

def setVersion (v : ℕ) (t : Transaction) : Transaction := { t with version := v }

/-- `lockUntilBlockHeight`: heights from `NLOCKTIME_BLOCKHEIGHT_LIMIT` on are refused. -/
def lockUntilBlockHeight (h : ℕ) (t : Transaction) : Except String Transaction :=
  if h < 500000000 then
    .ok { t with
      nLockTime := h,
      inputs := t.inputs.map fun i =>
        if i.sequenceNumber = maxInt then { i with sequenceNumber := maxInt - 1 } else i }
  else .error "Block Height can be at most 2^32 -1"

def «from» (u : Utxo) (pubkeys : Option (List String)) (threshold : ℕ) (t : Transaction) :
    Except String Transaction :=
  let script : Except String InputScript :=
    match pubkeys with
    | some keys =>
      if threshold = 0 then .ok (.single none)
      else if threshold ≤ keys.length then .ok (.multisig keys threshold (keys.map fun _ => none))
      else .error "Number of required signatures must be greater than the number of public keys"
    | none => .ok (.single none)
  script.map fun s =>
    updateChangeOutput lib
      { t with inputs := t.inputs ++ [⟨u.txid, u.vout, u.satoshis, maxInt, s⟩] }

def «to» (address : String) (amount : ℕ) (t : Transaction) : Transaction :=
  updateChangeOutput lib { t with outputs := t.outputs ++ [⟨amount, .address address⟩] }

def addOutput (o : Output) (t : Transaction) : Transaction :=
  updateChangeOutput lib { t with outputs := t.outputs ++ [o] }

/-- `fee(amount)`, which checks that the amount is a number. -/
def setFee (amount : Option ℤ) (t : Transaction) : Except String Transaction :=
  match amount with
  | some f => .ok (updateChangeOutput lib { t with fee := some f })
  | none => .error "Invalid Argument: amount must be a number"

/-- `escrow(address, amount)` of bitcore-lib-cash, paid as `to` pays. -/
def escrow (address : String) (amount : Option ℤ) (t : Transaction) : Except String Transaction :=
  if !lib.hasEscrow then .error "TypeError: t.escrow is not a function"
  else match amount with
    | some n => if 0 ≤ n then .ok (t.to lib address n.toNat)
      else .error "Amount is expected to be a positive integer"
    | none => .error "Amount is expected to be a positive integer"

def change (address : String) (t : Transaction) : Transaction :=
  updateChangeOutput lib { t with changeScript := some address }

/-- `enableRBF`: every final input signals replaceability. -/
def enableRBF (t : Transaction) : Transaction :=
  { t with inputs := t.inputs.map fun i =>
      if maxInt - 1 ≤ i.sequenceNumber then { i with sequenceNumber := maxInt - 2 } else i }

/-- `sortOutputs`: the new order must be a rearrangement of every output. -/
def sortOutputs (order : List ℕ) (t : Transaction) : Except String Transaction :=
  if order.length = t.outputs.length ∧ (∀ i ∈ order, i < t.outputs.length) ∧
      ∀ i < t.outputs.length, i ∈ order then
    .ok { t with outputs := order.filterMap (t.outputs.get? ·),
                 changeIndex := t.changeIndex.map order.indexOf }
  else .error "Invalid sorting: outputs are not the same"

@[simp] theorem inputs_length_clearSignatures (t : Transaction) :
    t.clearSignatures.inputs.length = t.inputs.length := by simp [clearSignatures]

@[simp] theorem inputs_removeChangeOutput (t : Transaction) :
    t.removeChangeOutput.inputs = t.inputs := by
  unfold removeChangeOutput
  split <;> rfl

theorem inputs_updateChangeOutput (t : Transaction) :
    (t.updateChangeOutput lib).inputs =
      if t.changeScript.isSome then t.clearSignatures.inputs else t.inputs := by
  unfold updateChangeOutput
  split
  · simp [*]
  · dsimp only
    split_ifs <;> simp_all

@[simp] theorem inputs_length_updateChangeOutput (t : Transaction) :
    (t.updateChangeOutput lib).inputs.length = t.inputs.length := by
  rw [inputs_updateChangeOutput]
  split_ifs <;> simp

@[simp] theorem inputs_length_to (a : String) (n : ℕ) (t : Transaction) :
    (t.to lib a n).inputs.length = t.inputs.length := by simp [«to»]

@[simp] theorem inputs_length_addOutput (o : Output) (t : Transaction) :
    (t.addOutput lib o).inputs.length = t.inputs.length := by simp [addOutput]

theorem inputs_length_setFee {f : Option ℤ} {t t' : Transaction} (h : t.setFee lib f = .ok t') :
    t'.inputs.length = t.inputs.length := by
  unfold setFee at h
  split at h <;> cases h
  simp

theorem inputs_length_escrow {a : String} {n : Option ℤ} {t t' : Transaction}
    (h : t.escrow lib a n = .ok t') : t'.inputs.length = t.inputs.length := by
  unfold escrow at h
  split_ifs at h
  split at h <;> (try split_ifs at h) <;> cases h
  simp

@[simp] theorem inputs_length_change (a : String) (t : Transaction) :
    (t.change lib a).inputs.length = t.inputs.length := by simp [change]

@[simp] theorem inputs_length_enableRBF (t : Transaction) :
    t.enableRBF.inputs.length = t.inputs.length := by simp [enableRBF]

theorem inputs_length_from {u : Utxo} {pubkeys : Option (List String)} {m : ℕ}
    {t t' : Transaction} (h : t.from lib u pubkeys m = .ok t') :
    t'.inputs.length = t.inputs.length + 1 := by
  unfold «from» at h
  split at h <;> (try split_ifs at h) <;> cases h <;> simp

theorem inputs_length_sortOutputs {order : List ℕ} {t t' : Transaction}
    (h : t.sortOutputs order = .ok t') : t'.inputs.length = t.inputs.length := by
  unfold sortOutputs at h
  split_ifs at h
  cases h
  rfl

theorem inputs_length_lockUntilBlockHeight {n : ℕ} {t t' : Transaction}
    (h : t.lockUntilBlockHeight n = .ok t') : t'.inputs.length = t.inputs.length := by
  unfold lockUntilBlockHeight at h
  split_ifs at h
  cases h
  simp

section RBF

@[simp] theorem inputAmount_enableRBF (t : Transaction) :
    t.enableRBF.inputAmount = t.inputAmount := by
  simp only [enableRBF, inputAmount, List.map_map]
  congr 1
  refine List.map_congr_left fun i _ => ?_
  simp only [Function.comp_apply]
  split_ifs <;> rfl

@[simp] theorem outputAmount_enableRBF (t : Transaction) :
    t.enableRBF.outputAmount = t.outputAmount := rfl

theorem clearSignatures_enableRBF (t : Transaction) :
    t.enableRBF.clearSignatures = t.clearSignatures.enableRBF := by
  simp only [enableRBF, clearSignatures, List.map_map, Transaction.mk.injEq, and_true, true_and]
  refine List.map_congr_left fun i _ => ?_
  simp only [Function.comp_apply]
  split_ifs <;> rfl

theorem removeChangeOutput_enableRBF (t : Transaction) :
    t.enableRBF.removeChangeOutput = t.removeChangeOutput.enableRBF := by
  unfold removeChangeOutput
  split <;> rename_i h <;> simp only [enableRBF] at h <;> simp [h, enableRBF]

variable {lib}

theorem getFee_enableRBF (hfee : ∀ t, lib.estimateFee t.enableRBF = lib.estimateFee t)
    (t : Transaction) : t.enableRBF.getFee lib = t.getFee lib := by
  simp only [getFee, hfee, inputAmount_enableRBF, outputAmount_enableRBF]
  rfl

theorem updateChangeOutput_enableRBF (hfee : ∀ t, lib.estimateFee t.enableRBF = lib.estimateFee t)
    (t : Transaction) :
    t.enableRBF.updateChangeOutput lib = (t.updateChangeOutput lib).enableRBF := by
  unfold updateChangeOutput
  cases hcs : t.changeScript with
  | none => simp only [enableRBF, hcs]
  | some a =>
    simp only [show t.enableRBF.changeScript = some a from hcs, removeChangeOutput_enableRBF,
      clearSignatures_enableRBF, inputAmount_enableRBF, outputAmount_enableRBF,
      getFee_enableRBF hfee]
    split_ifs <;> rfl

theorem change_enableRBF (hfee : ∀ t, lib.estimateFee t.enableRBF = lib.estimateFee t)
    (a : String) (t : Transaction) : t.enableRBF.change lib a = (t.change lib a).enableRBF :=
  updateChangeOutput_enableRBF hfee { t with changeScript := some a }

end RBF

/-- `tx.inputs[k].addSignature(...)`; a missing input is a `TypeError`. -/
def applySignature (t : Transaction) (k : ℕ) (sig : TransactionSignature)
    (signingMethod : String) : Except String Transaction :=
  match t.inputs.get? k with
  | some i =>
    (i.addSignature lib t sig signingMethod).map fun i' => { t with inputs := t.inputs.set k i' }
  | none => .error "TypeError: Cannot read properties of undefined (reading 'addSignature')"

theorem inputs_length_applySignature {t t' : Transaction} {k : ℕ} {sig : TransactionSignature}
    {signingMethod : String} (h : t.applySignature lib k sig signingMethod = .ok t') :
    t'.inputs.length = t.inputs.length := by
  unfold applySignature at h
  split at h
  · obtain ⟨i', -, rfl⟩ := except_map_eq_ok.1 h
    simp
  · cases h

section OutputCount

variable {lib} {t t' : Transaction}

theorem updateChangeOutput_of_none (h : t.changeScript = none) : t.updateChangeOutput lib = t := by
  simp [updateChangeOutput, h]

theorem to_of_none (h : t.changeScript = none) (a : String) (n : ℕ) :
    (t.to lib a n).changeScript = none ∧ (t.to lib a n).outputs.length = t.outputs.length + 1 := by
  simp [«to», updateChangeOutput, h]

theorem addOutput_of_none (h : t.changeScript = none) (o : Output) :
    (t.addOutput lib o).changeScript = none ∧
      (t.addOutput lib o).outputs.length = t.outputs.length + 1 := by
  simp [addOutput, updateChangeOutput, h]

theorem setFee_of_none (h : t.changeScript = none) {f : Option ℤ} (hf : t.setFee lib f = .ok t') :
    t'.changeScript = none ∧ t'.outputs = t.outputs := by
  unfold setFee at hf
  split at hf <;> cases hf
  simp [updateChangeOutput, h]

theorem escrow_of_none (h : t.changeScript = none) {a : String} {n : Option ℤ}
    (he : t.escrow lib a n = .ok t') : t'.outputs.length = t.outputs.length + 1 := by
  unfold escrow at he
  split_ifs at he
  split at he <;> (try split_ifs at he) <;> cases he
  exact (to_of_none h _ _).2

theorem from_of_none (h : t.changeScript = none) {u : Utxo} {pubkeys : Option (List String)}
    {m : ℕ} (hf : t.from lib u pubkeys m = .ok t') :
    t'.changeScript = none ∧ t'.outputs = t.outputs := by
  unfold «from» at hf
  obtain ⟨s, -, rfl⟩ := except_map_eq_ok.1 hf
  simp [updateChangeOutput, h]

theorem outputs_length_change (a : String) (t : Transaction) :
    (t.change lib a).outputs.length ≤ t.outputs.length + 1 := by
  have hremove (t : Transaction) :
      t.clearSignatures.removeChangeOutput.outputs.length ≤ t.outputs.length := by
    unfold removeChangeOutput
    split
    · exact List.length_eraseIdx_le _ _
    · exact le_rfl
  have := hremove { t with changeScript := some a }
  simp only at this
  simp only [change, updateChangeOutput]
  split_ifs
  · simp only [List.length_append, List.length_singleton]
    omega
  · omega

end OutputCount

end Transaction

end BitcoreWallet
