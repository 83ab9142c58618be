import BitcoreWallet.ProposalTx

namespace BitcoreWallet

namespace Client

/-- The libraries the client's `Utils` calls, left abstract. -/
structure ClientLib where
  bitcore : String → BitcoreLib
  buildOther : TxProposal → Except String String
  serialize : RawTx → String
  verify : String → String → String → Bool
  publicKeyOf : String → String
  sha256Hex : String → String
  requestKeyAuth : String → String
  deriveChild : String → String → String → String
  createMultisig : String → List String → ℕ → String → Bool → Option String → String
  createEscrow : String → List String → String → String → String
  fromPublicKey : String → String → String → Option String → String
  deriverGetAddress : String → String → String → ScriptType → String
  deriverDeriveAddress : String → String → String → String → Bool → String
  bchAddress : Option String → Except String String
  decrypt : String → String → Except String String

structure ClientConstants where
  chains : List String
  ethErc20 : List String
  maxTxFee : String → Option ℤ

variable (L : ClientLib) (K : ClientConstants)

def getChain (coin : String) : String :=
  let normalizedChain := toLowerCase coin
  if normalizedChain ∈ K.ethErc20 ∨ normalizedChain ∉ K.chains then "eth" else normalizedChain

def proposalChain (txp : TxProposal) : String :=
  if toLowerCase txp.chain ≠ "" then toLowerCase txp.chain else getChain K txp.coin

def getCopayerHash (name xPubKey requestPubKey : String) : String :=
  "|".intercalate [name, xPubKey, requestPubKey]

theorem getCopayerHash_eq (name xPubKey requestPubKey : String) :
    getCopayerHash name xPubKey requestPubKey = name ++ "|" ++ xPubKey ++ "|" ++ requestPubKey :=
  rfl

/-- The copayer hash determines its fields when the keys hold no separator. -/
theorem getCopayerHash_inj {name xPubKey requestPubKey name' xPubKey' requestPubKey' : String}
    (hx : '|' ∉ xPubKey.data) (hr : '|' ∉ requestPubKey.data) (hx' : '|' ∉ xPubKey'.data)
    (hr' : '|' ∉ requestPubKey'.data) :
    getCopayerHash name xPubKey requestPubKey = getCopayerHash name' xPubKey' requestPubKey' ↔
      name = name' ∧ xPubKey = xPubKey' ∧ requestPubKey = requestPubKey' := by
  refine ⟨fun h => ?_, fun ⟨h₁, h₂, h₃⟩ => h₁ ▸ h₂ ▸ h₃ ▸ rfl⟩
  rw [getCopayerHash_eq, getCopayerHash_eq] at h
  obtain ⟨h₁, h₃⟩ := join_sep_inj '|' hr hr' h
  obtain ⟨h₁, h₂⟩ := join_sep_inj '|' hx hx' h₁
  exact ⟨h₁, h₂, h₃⟩

theorem getCopayerHash_inj_sample :
    '|' ∉ "xpub1".data ∧ '|' ∉ "req1".data ∧ '|' ∉ "xpub2".data ∧ '|' ∉ "req2".data ∧
      (getCopayerHash "a|b" "xpub1" "req1" = getCopayerHash "a|b" "xpub2" "req2" ↔
        "a|b" = "a|b" ∧ "xpub1" = "xpub2" ∧ "req1" = "req2") :=
  ⟨by decide, by decide, by decide, by decide,
    getCopayerHash_inj (by decide) (by decide) (by decide) (by decide)⟩

/-- `verifyMessage`: an empty message or key is refused. -/
def verifyMessage (message : String) (signature : Option String) (pubKey : String) :
    Except String Bool :=
  if message = "" then .error "Illegal Argument."
  else if pubKey = "" then .error "Illegal Argument."
  else match signature with
    | some s => if s = "" then .ok false else .ok (L.verify message s pubKey)
    | none => .ok false

def decryptMessage (cyphertextJson encryptingKey : Option String) : Except String (Option String) :=
  if ¬Truthy cyphertextJson then .ok none
  else if ¬Truthy encryptingKey then .error "No key"
  else (L.decrypt (encryptingKey.getD "") (cyphertextJson.getD "")).map some

def xPubToCopayerId (chain xpub : String) : String :=
  let chain := toLowerCase chain
  L.sha256Hex (if chain = "btc" then xpub else chain ++ xpub)

def verifyRequestPubKey (requestPubKey : String) (signature : Option String) (xPubKey : String) :
    Except String Bool :=
  verifyMessage L requestPubKey signature (L.requestKeyAuth xPubKey)

def matchAfterM : List Char → Option (List Char × List Char)
  | '/' :: rest =>
    match rest.dropWhile Char.isDigit with
    | '/' :: rest' => some (rest.takeWhile Char.isDigit, rest'.takeWhile Char.isDigit)
    | _ => none
  | _ => none

def matchPathIndex : List Char → Option (List Char × List Char)
  | [] => none
  | c :: rest => if c = 'm' then matchAfterM rest <|> matchPathIndex rest else matchPathIndex rest

def digitsValue (digits : List Char) : ℕ := digits.foldl (fun n c => 10 * n + (c.toNat - 48)) 0

structure DerivationPath where
  _input : String
  addressIndex : String
  isChange : Bool
  deriving DecidableEq, Repr

/-- `parseDerivationPath(path)`; `none` is the `TypeError` of a path that does not match. -/
def parseDerivationPath (path : String) : Option DerivationPath :=
  (matchPathIndex path.data).map fun groups =>
    ⟨⟨'m' :: '/' :: groups.1 ++ '/' :: groups.2⟩, ⟨groups.2⟩, decide (0 < digitsValue groups.1)⟩

structure RingEntry where
  xPubKey : String
  requestPubKey : Option String
  deriving DecidableEq, Repr

structure DerivedAddress where
  address : String
  path : String
  publicKeys : List String
  deriving DecidableEq, Repr

def noPublicKey : String := "First argument is required, please include public key data."

/-- `deriveAddress(scriptType, publicKeyRing, path, m, network, chain, ...)`. -/
def deriveAddress (scriptType : ScriptType) (publicKeyRing : List RingEntry) (path : String)
    (m : ℕ) (network chain : String) (escrowInputs : Option (List Utxo))
    (hardwareSourcePublicKey clientDerivedPublicKey : Option String) :
    Except String DerivedAddress :=
  let externSourcePublicKey := jsOr hardwareSourcePublicKey clientDerivedPublicKey
  if Truthy externSourcePublicKey then
    let key := externSourcePublicKey.getD ""
    .ok ⟨L.deriverGetAddress (toUpperCase chain) network key scriptType, path, [key]⟩
  else
    let chain := if chain = "" then "btc" else chain
    let publicKeys := publicKeyRing.map fun item => L.deriveChild chain item.xPubKey path
    match scriptType, publicKeys with
    | .P2WSH, _ =>
      .ok ⟨L.createMultisig chain publicKeys m network false (some "witnessscripthash"), path,
        publicKeys⟩
    | .P2SH, publicKeys =>
      match escrowInputs, publicKeyRing, publicKeys with
      | some inputs, item :: _, key :: _ =>
        let inputPublicKeys := inputs.map fun input => L.deriveChild chain item.xPubKey input.path
        .ok ⟨L.createEscrow chain inputPublicKeys key network, path, key :: inputPublicKeys⟩
      | some _, _, _ => .error noPublicKey
      | none, _, _ =>
        .ok ⟨L.createMultisig chain publicKeys m network false none, path, publicKeys⟩
    | .P2WPKH, key :: _ =>
      .ok ⟨L.fromPublicKey chain key network (some "witnesspubkeyhash"), path, publicKeys⟩
    | .P2PKH, [key] =>
      if chain ∈ utxoChains then .ok ⟨L.fromPublicKey chain key network none, path, [key]⟩
      else match parseDerivationPath path, publicKeyRing with
        | some p, item :: _ =>
          .ok ⟨L.deriverDeriveAddress (toUpperCase chain) network item.xPubKey p.addressIndex
            p.isChange, path, [key]⟩
        | none, _ => .error "TypeError: object null is not iterable"
        | some _, [] => .error noPublicKey
    | .P2PKH, _ => .error "publicKeys array undefined"
    | .P2TR, key :: _ =>
      .ok ⟨L.fromPublicKey chain key network (some "taproot"), path, publicKeys⟩
    | _, [] => .error noPublicKey

def addTxInputs (lib : BitcoreLib) (txp : TxProposal) (t : Transaction) :
    Except String Transaction :=
  match txp.addressType with
  | .P2WSH | .P2SH =>
    txp.inputs.foldlM (fun t i => t.from lib i i.publicKeys txp.requiredSignatures) t
  | .P2WPKH | .P2PKH | .P2TR => txp.inputs.foldlM (fun t i => t.from lib i none 0) t

def addChange (lib : BitcoreLib) (txp : TxProposal) (t : Transaction) :
    Except String Transaction :=
  match txp.changeAddress with
  | some a => .ok (t.change lib a.address)
  | none => .error "TypeError: Cannot read properties of undefined (reading 'address')"

def checkAmounts (maxTxFee : Option ℤ) (txp : TxProposal) (t : Transaction) :
    Except String Transaction :=
  let totalInputs : ℤ := (txp.inputs.map (·.satoshis)).sum
  if ¬0 ≤ totalInputs - t.outputAmount then
    .error "Failed state: totalInputs - totalOutputs >= 0 at buildTx"
  else if ¬∃ m, maxTxFee = some m ∧ totalInputs - t.outputAmount ≤ m then
    .error "Failed state: totalInputs - totalOutputs <= Defaults.MAX_TX_FEE(chain) at buildTx"
  else .ok t

/-- The UTXO branch of `buildTx`, with the chain's library and fee limit. -/
def buildUtxoTx (lib : BitcoreLib) (maxTxFee : Option ℤ) (txp : TxProposal) :
    Except String Transaction := do
  let t := Transaction.empty.setVersion (if 4 ≤ txp.version then 2 else 1)
  let t ← addTxInputs lib txp t
  let t ← txp.outputs.foldlM
    (ProposalTx.addTxOutput lib "Output should have either toAddress or script specified") t
  let t ← t.setFee lib txp.fee
  let t ← ProposalTx.addEscrow lib txp t
  let t ← addChange lib txp t
  let t ← ProposalTx.shuffleOutputs
    "Failed state: t.ouputs.length == outputOrder.length at buildTx()" txp.outputOrder
    (if txp.enableRBF then t.enableRBF else t)
  checkAmounts maxTxFee txp t

inductive BuiltTx
  | utxo (t : Transaction)
  | other (serialized : String)
  deriving DecidableEq, Repr

def BuiltTx.uncheckedSerialize : BuiltTx → String
  | utxo t => L.serialize t.uncheckedSerialize
  | other s => s

def buildTx (txp : TxProposal) : Except String BuiltTx :=
  let chain := proposalChain K txp
  if chain ∈ utxoChains then (buildUtxoTx (L.bitcore chain) (K.maxTxFee chain) txp).map .utxo
  else (L.buildOther txp).map .other

section Steps

variable {L K} {lib : BitcoreLib} {txp : TxProposal} {t t' : Transaction}

theorem addChange_eq (h : addChange lib txp t = .ok t') :
    ∃ a, txp.changeAddress = some a ∧ t' = t.change lib a.address := by
  unfold addChange at h
  split at h
  · exact ⟨_, ‹_›, (Except.ok.inj h).symm⟩
  · cases h

theorem checkAmounts_eq {maxTxFee : Option ℤ} (h : checkAmounts maxTxFee txp t = .ok t') :
    t' = t := by
  simp only [checkAmounts] at h
  split_ifs at h
  exact (Except.ok.inj h).symm

theorem buildTx_utxo {b : BuiltTx} (hc : proposalChain K txp ∈ utxoChains)
    (h : buildTx L K txp = .ok b) :
    ∃ t, b = .utxo t ∧
      buildUtxoTx (L.bitcore (proposalChain K txp)) (K.maxTxFee (proposalChain K txp)) txp =
        .ok t := by
  simp only [buildTx, hc, if_true] at h
  obtain ⟨t, ht, rfl⟩ := except_map_eq_ok.1 h
  exact ⟨t, rfl, ht⟩

theorem addTxInputs_outputs (hc : t.changeScript = none) (h : addTxInputs lib txp t = .ok t') :
    t'.changeScript = none ∧ t'.outputs.length = t.outputs.length := by
  have hfrom {u : Utxo} {ks : Option (List String)} {m : ℕ} {t t' : Transaction}
      (hc : t.changeScript = none) (h : t.from lib u ks m = .ok t') :
      t'.changeScript = none ∧ t'.outputs.length = t.outputs.length + 0 := by
    obtain ⟨h₁, h₂⟩ := Transaction.from_of_none hc h
    exact ⟨h₁, by rw [h₂]; rfl⟩
  unfold addTxInputs at h
  split at h <;> simpa using foldlM_measure_of_inv (fun t : Transaction => t.changeScript = none)
    (·.outputs.length) 0 (fun t u t' hc h' => hfrom hc h') _ _ _ hc h

/-- What `buildTx` reorders: the outputs, at most an escrow and a change output. -/
theorem buildUtxoTx_reorder_outputs {msg : String} {t₂ t₃ t₄ t₅ t₆ : Transaction}
    (h₂ : addTxInputs lib txp (Transaction.empty.setVersion (if 4 ≤ txp.version then 2 else 1)) =
      .ok t₂)
    (h₃ : txp.outputs.foldlM (ProposalTx.addTxOutput lib msg) t₂ = .ok t₃)
    (h₄ : t₃.setFee lib txp.fee = .ok t₄) (h₅ : ProposalTx.addEscrow lib txp t₄ = .ok t₅)
    (h₆ : addChange lib txp t₅ = .ok t₆) :
    (if txp.enableRBF then t₆.enableRBF else t₆).outputs.length ≤
      txp.outputs.length + ProposalTx.escrowSlot txp + 1 := by
  obtain ⟨c₂, o₂⟩ := addTxInputs_outputs rfl h₂
  obtain ⟨c₃, o₃⟩ := ProposalTx.addTxOutputs_outputs c₂ h₃
  obtain ⟨c₄, o₄⟩ := Transaction.setFee_of_none c₃ h₄
  have o₅ := ProposalTx.addEscrow_outputs c₄ h₅
  obtain ⟨a, -, rfl⟩ := addChange_eq h₆
  have o₆ := @Transaction.outputs_length_change lib a.address t₅
  have o₇ : (if txp.enableRBF then (t₅.change lib a.address).enableRBF
      else t₅.change lib a.address).outputs = (t₅.change lib a.address).outputs := by
    split_ifs <;> rfl
  simp only [o₇, o₄, Transaction.setVersion, Transaction.empty, List.length_nil] at o₆ o₅ o₃ o₂ ⊢
  omega

theorem buildUtxoTx_reorder_outputs_sample :
    ∃ t₂ t₃ t₄ t₅ t₆, addTxInputs sampleLib sampleInputTxp
        (Transaction.empty.setVersion (if 4 ≤ sampleInputTxp.version then 2 else 1)) = .ok t₂ ∧
      sampleInputTxp.outputs.foldlM (ProposalTx.addTxOutput sampleLib "") t₂ = .ok t₃ ∧
      t₃.setFee sampleLib sampleInputTxp.fee = .ok t₄ ∧
      ProposalTx.addEscrow sampleLib sampleInputTxp t₄ = .ok t₅ ∧
      addChange sampleLib sampleInputTxp t₅ = .ok t₆ ∧
      (if sampleInputTxp.enableRBF then t₆.enableRBF else t₆).outputs.length ≤
        sampleInputTxp.outputs.length + ProposalTx.escrowSlot sampleInputTxp + 1 :=
  ⟨_, _, _, _, _, rfl, rfl, rfl, rfl, rfl,
    @buildUtxoTx_reorder_outputs sampleLib sampleInputTxp "" _ _ _ _ _ rfl rfl rfl rfl rfl⟩

end Steps

end Client

end BitcoreWallet
