import BitcoreWallet.Client.Utils

namespace BitcoreWallet

namespace Client

structure Recipient where
  amount : ℕ
  address : Option String
  data : Option String
  gasLimit : Option ℕ
  tag : Option String
  deriving DecidableEq, Repr

def Recipient.payment (r : Recipient) : ℕ × Option String := (r.amount, r.address)

inductive NonceArg
  | text (nonce : Option String)
  | num (value : Option ℚ)
  deriving DecidableEq, Repr

/-- The options of one `Transactions.create({...txp, ...})` call, after the spread. -/
structure CreateArgs where
  chain : String
  nonce : NonceArg
  recipients : List Recipient
  amount : ℕ
  address : Option String
  data : Option String
  gasLimit : Option ℕ
  tag : Option String
  contractAddress : Option String
  deriving DecidableEq, Repr

def CreateArgs.paid (a : CreateArgs) : List (ℕ × Option String) := a.recipients.map (·.payment)

variable (K : ClientConstants) (svmChains : List String) (number : String → Option ℚ)

def nonceNumber (nonce : Option String) : Option ℚ := nonce.bind number

def formatNonce (chain : String) (nonce : Option String) (index : ℕ) : NonceArg :=
  if toLowerCase chain ∈ svmChains then .text nonce
  else .num ((nonceNumber number nonce).map (· + index))

/-- The recipients, the proposal's `data` on the first; `none` is the `TypeError`. -/
def recipientsOf (txp : TxProposal) : Option (List Recipient) :=
  let recipients := txp.outputs.map fun output =>
    (⟨output.amount, output.toAddress, output.data, output.gasLimit, none⟩ : Recipient)
  if Truthy txp.coinSpecific.data then
    match recipients with
    | r :: rest => some ({ r with data := txp.coinSpecific.data } :: rest)
    | [] => none
  else some recipients

def createChain (txp : TxProposal) (chainName : String) : String :=
  let isToken := Truthy txp.coinSpecific.tokenAddress ∧ ¬Truthy txp.payProUrl ∧
    txp.coinSpecific.isTokenSwap ≠ some true
  let tokenType := if chainName = "SOL" then "SPL" else "ERC20"
  if Truthy txp.coinSpecific.multisigContractAddress then chainName ++ "MULTISIG"
  else if isToken then chainName ++ tokenType
  else chainName

def tagOf (txp : TxProposal) (tag : Option String) : Option String :=
  let tag := jsOr tag txp.coinSpecific.destinationTag
  if Truthy tag then tag else none

/-- The `multiTx` loop: one call per entry of `outputOrder`, or the index error. -/
def multiTxLoop (txp : TxProposal) (chain chainName : String) :
    ℕ → List ℕ → Except String (List CreateArgs)
  | _, [] => .ok []
  | index, outputIdx :: rest =>
    match txp.outputs.get? outputIdx with
    | none => .error "Output index out of range"
    | some output =>
      let recepient : Recipient := ⟨output.amount, output.toAddress, none, none, output.tag⟩
      (multiTxLoop txp chain chainName (index + 1) rest).map fun txs =>
        ⟨chain, formatNonce svmChains number chainName txp.coinSpecific.nonce index, [recepient],
          output.amount, output.toAddress, txp.coinSpecific.data, txp.coinSpecific.gasLimit,
          tagOf txp output.tag, none⟩ :: txs

def recipientLoop (txp : TxProposal) (chain chainName : String) :
    ℕ → List Recipient → List CreateArgs
  | _, [] => []
  | index, r :: rest =>
    ⟨chain, formatNonce svmChains number chainName txp.coinSpecific.nonce index, [r], r.amount,
      r.address, r.data, r.gasLimit, tagOf txp none, none⟩ ::
      recipientLoop txp chain chainName (index + 1) rest

/-- The ETH, ERC20, XRP and SOL branch of `buildTx`: its `Transactions.create` calls. -/
def buildOtherTxs (txp : TxProposal) : Except String (List CreateArgs) :=
  match recipientsOf txp with
  | none => .error "TypeError: Cannot set properties of undefined (setting 'data')"
  | some recipients =>
    let chainName := toUpperCase (proposalChain K txp)
    let chain := createChain txp chainName
    if Truthy txp.coinSpecific.multiSendContractAddress then
      .ok [⟨chain, .num (nonceNumber number txp.coinSpecific.nonce), recipients, txp.amount, none,
        txp.coinSpecific.data, txp.coinSpecific.gasLimit, none,
        txp.coinSpecific.multiSendContractAddress⟩]
    else if txp.multiTx then multiTxLoop svmChains number txp chain chainName 0 txp.outputOrder
    else if chainName = "SOL" then
      .ok [⟨chain, .text txp.coinSpecific.nonce, recipients, txp.amount, none,
        txp.coinSpecific.data, txp.coinSpecific.gasLimit, none, none⟩]
    else .ok (recipientLoop svmChains number txp chain chainName 0 recipients)

section Loops

variable {txp : TxProposal} (chain chainName : String)

theorem recipientsOf_payment {recipients : List Recipient}
    (h : recipientsOf txp = some recipients) :
    recipients.map (·.payment) = txp.outputs.map fun o => (o.amount, o.toAddress) := by
  unfold recipientsOf at h
  dsimp only at h
  split_ifs at h
  · cases hout : txp.outputs with
    | nil => simp only [hout, List.map_nil, reduceCtorEq] at h
    | cons o os =>
      simp only [hout, List.map_cons, Option.some.injEq] at h
      subst h
      rw [List.map_cons, List.map_cons, List.map_map]
      rfl
  · cases h
    rw [List.map_map]
    rfl

theorem recipientsOf_isSome (hdata : Truthy txp.coinSpecific.data → txp.outputs ≠ []) :
    ∃ recipients, recipientsOf txp = some recipients := by
  unfold recipientsOf
  split_ifs with h
  · cases hout : txp.outputs with
    | nil => exact absurd hout (hdata h)
    | cons o os => exact ⟨_, rfl⟩
  · exact ⟨_, rfl⟩

theorem multiTxLoop_ok : ∀ (index : ℕ) {order : List ℕ}, (∀ j ∈ order, j < txp.outputs.length) →
    ∃ txs, multiTxLoop svmChains number txp chain chainName index order = .ok txs ∧
      txs.flatMap CreateArgs.paid =
        (order.filterMap txp.outputs.get?).map (fun o => (o.amount, o.toAddress)) ∧
      txs.map (·.nonce) = (List.range' index order.length).map
        (formatNonce svmChains number chainName txp.coinSpecific.nonce)
  | _, [], _ => ⟨[], rfl, rfl, rfl⟩
  | index, j :: rest, h => by
    obtain ⟨txs, hl, hp, hn⟩ := multiTxLoop_ok (index + 1) fun i hi => h i (.tail _ hi)
    have hj := List.get?_eq_get (h j (.head _))
    refine ⟨_, by rw [multiTxLoop, hj, hl]; rfl, ?_, ?_⟩
    · rw [List.filterMap_cons, hj, List.flatMap_cons, hp]
      rfl
    · rw [List.map_cons, hn, List.length_cons, List.range'_succ]
      rfl

theorem multiTxLoop_error : ∀ {index : ℕ} {order : List ℕ}, (∃ j ∈ order, txp.outputs.length ≤ j) →
    multiTxLoop svmChains number txp chain chainName index order =
      .error "Output index out of range"
  | _, [], ⟨_, hj, _⟩ => absurd hj (List.not_mem_nil _)
  | index, j :: rest, ⟨i, hi, hle⟩ => by
    rw [multiTxLoop]
    split
    · rfl
    · rename_i o ho
      rcases List.mem_cons.1 hi with rfl | hi
      · rw [List.get?_eq_none.2 hle] at ho
        cases ho
      · rw [multiTxLoop_error ⟨i, hi, hle⟩]
        rfl

theorem recipientLoop_spec : ∀ (index : ℕ) (recipients : List Recipient),
    (recipientLoop svmChains number txp chain chainName index recipients).flatMap CreateArgs.paid =
        recipients.map (·.payment) ∧
      (recipientLoop svmChains number txp chain chainName index recipients).map (·.nonce) =
        (List.range' index recipients.length).map
          (formatNonce svmChains number chainName txp.coinSpecific.nonce)
  | _, [] => ⟨rfl, rfl⟩
  | index, r :: rest => by
    obtain ⟨hp, hn⟩ := recipientLoop_spec (index + 1) rest
    refine ⟨?_, ?_⟩
    · rw [recipientLoop, List.flatMap_cons, hp]
      rfl
    · rw [recipientLoop, List.map_cons, hn, List.length_cons, List.range'_succ]
      rfl

end Loops

section Build

variable {K svmChains number} {txp : TxProposal}

theorem buildOtherTxs_multiTx {recipients : List Recipient}
    (hr : recipientsOf txp = some recipients)
    (hsend : ¬Truthy txp.coinSpecific.multiSendContractAddress) (hmulti : txp.multiTx = true) :
    buildOtherTxs K svmChains number txp =
      multiTxLoop svmChains number txp (createChain txp (toUpperCase (proposalChain K txp)))
        (toUpperCase (proposalChain K txp)) 0 txp.outputOrder := by
  simp only [buildOtherTxs, hr, if_neg hsend, hmulti, if_true]

theorem buildOtherTxs_pays_outputs (hdata : Truthy txp.coinSpecific.data → txp.outputs ≠ [])
    (horder : ¬Truthy txp.coinSpecific.multiSendContractAddress → txp.multiTx = true →
      txp.outputOrder.Perm (List.range txp.outputs.length)) :
    ∃ txs, buildOtherTxs K svmChains number txp = .ok txs ∧
      (txs.flatMap CreateArgs.paid).Perm (txp.outputs.map fun o => (o.amount, o.toAddress)) ∧
      (¬Truthy txp.coinSpecific.multiSendContractAddress →
        (txp.multiTx = true ∨ toUpperCase (proposalChain K txp) ≠ "SOL") →
        txs.map (·.nonce) = (List.range txp.outputs.length).map
          (formatNonce svmChains number (toUpperCase (proposalChain K txp))
            txp.coinSpecific.nonce)) := by
  obtain ⟨recipients, hr⟩ := recipientsOf_isSome hdata
  have hpay := recipientsOf_payment hr
  have hlen : recipients.length = txp.outputs.length := by
    simpa using congrArg List.length hpay
  by_cases hsend : Truthy txp.coinSpecific.multiSendContractAddress
  · simp only [buildOtherTxs, hr, if_pos hsend]
    refine ⟨_, rfl, ?_, fun h => absurd hsend h⟩
    simp [CreateArgs.paid, hpay]
  by_cases hmulti : txp.multiTx = true
  · have hperm := horder hsend hmulti
    obtain ⟨txs, hl, hp, hn⟩ := multiTxLoop_ok svmChains number
      (createChain txp (toUpperCase (proposalChain K txp))) (toUpperCase (proposalChain K txp)) 0
      fun j hj => List.mem_range.1 (hperm.subset hj)
    refine ⟨txs, (buildOtherTxs_multiTx hr hsend hmulti).trans hl, ?_, fun _ _ => ?_⟩
    · have := hperm.filterMap txp.outputs.get?
      rw [ProposalTx.filterMap_get?_range] at this
      exact hp ▸ this.map _
    · rw [hn, hperm.length_eq, List.length_range, List.range_eq_range']
  obtain ⟨hp, hn⟩ := @recipientLoop_spec svmChains number txp
    (createChain txp (toUpperCase (proposalChain K txp))) (toUpperCase (proposalChain K txp)) 0
    recipients
  by_cases hsol : toUpperCase (proposalChain K txp) = "SOL" <;>
  simp only [buildOtherTxs, hr, if_neg hsend, hmulti, hsol, if_true, if_false, Bool.false_eq_true]
  · refine ⟨_, rfl, ?_, fun _ h => by simp at h⟩
    simp [CreateArgs.paid, hpay]
  · exact ⟨_, rfl, by rw [hp, hpay], fun _ _ => by rw [hn, hlen, List.range_eq_range']⟩

theorem create_coinSpecific {getChain : String → String} {networks : String → List String}
    {shuffle : List ℕ → List ℕ} {opts : CreateOpts} {x : TxProposal}
    (h : TxProposal.create getChain networks shuffle opts = .ok x) :
    x.multiTx = opts.multiTx ∧ x.coinSpecific = opts.coinSpecific := by
  unfold TxProposal.create at h
  obtain ⟨-, h⟩ := ite_error_eq_ok h
  obtain ⟨-, h⟩ := ite_error_eq_ok h
  obtain ⟨-, h⟩ := ite_error_eq_ok h
  cases h
  exact ⟨rfl, rfl⟩

/-- The non-UTXO build of a created proposal throws as described or pays each output once. -/
theorem create_buildOtherTxs {getChain : String → String} {networks : String → List String}
    {shuffle : List ℕ → List ℕ} (hshuffle : ∀ l, (shuffle l).Perm l) {opts : CreateOpts}
    {x : TxProposal} (hcreate : TxProposal.create getChain networks shuffle opts = .ok x)
    (hdata : Truthy opts.coinSpecific.data → opts.outputs ≠ []) :
    (opts.multiTx = true → opts.instantAcceptanceEscrow.getD 0 ≠ 0 →
      ¬Truthy opts.coinSpecific.multiSendContractAddress →
      buildOtherTxs K svmChains number x = .error "Output index out of range") ∧
    ((opts.multiTx = true → ¬Truthy opts.coinSpecific.multiSendContractAddress →
        opts.instantAcceptanceEscrow.getD 0 = 0) →
      ∃ txs, buildOtherTxs K svmChains number x = .ok txs ∧
        (txs.flatMap CreateArgs.paid).Perm (opts.outputs.map fun o => (o.amount, o.toAddress)) ∧
        (¬Truthy opts.coinSpecific.multiSendContractAddress →
          (opts.multiTx = true ∨ toUpperCase (proposalChain K x) ≠ "SOL") →
          txs.map (·.nonce) = (List.range opts.outputs.length).map
            (formatNonce svmChains number (toUpperCase (proposalChain K x))
              opts.coinSpecific.nonce))) := by
  obtain ⟨hout, hesc, horder⟩ := TxProposal.create_outputs hcreate
  obtain ⟨hmulti, hcoin⟩ := create_coinSpecific hcreate
  have hperm : x.outputOrder.Perm (List.range (TxProposal.numOutputs opts)) := by
    rw [horder]
    split_ifs
    exacts [List.Perm.refl _, hshuffle _]
  have hdata' : Truthy x.coinSpecific.data → x.outputs ≠ [] := hcoin ▸ hout ▸ hdata
  have hnum : TxProposal.numOutputs opts = x.outputs.length + (if x.multiTx then 0 else 1) +
      (if x.instantAcceptanceEscrow.getD 0 ≠ 0 then 1 else 0) := by
    rw [hout, hmulti, hesc]
    rfl
  rw [← hout, ← hcoin, ← hmulti, ← hesc]
  constructor
  · intro hm he hsend
    obtain ⟨recipients, hr⟩ := recipientsOf_isSome hdata'
    rw [buildOtherTxs_multiTx hr hsend hm]
    refine multiTxLoop_error _ _ _ _
      ⟨x.outputs.length, hperm.symm.subset (List.mem_range.2 ?_), le_rfl⟩
    rw [hnum, if_pos hm, if_pos he]
    omega
  · intro he
    refine buildOtherTxs_pays_outputs hdata' fun hsend hm => ?_
    rwa [hnum, if_pos hm, if_neg (not_not.2 (he hm hsend))] at hperm

def sampleEthConstants : ClientConstants := ⟨["btc", "eth", "sol"], [], fun _ => none⟩

def sampleMultiTxOpts : CreateOpts :=
  { sampleOpts with
    coin := "eth", chain := "eth", changeAddress := none, inputs := none, fee := none,
    outputs := [⟨1000, some "addr1", none, none, none, none, none⟩,
      ⟨2000, some "addr2", none, none, none, none, none⟩],
    multiTx := true, noShuffleOutputs := false, coinSpecific := { nonce := some "7" } }

theorem create_buildOtherTxs_sample :
    ∃ x, TxProposal.create (fun _ => "eth") (fun _ => ["livenet"]) List.reverse
        sampleMultiTxOpts = .ok x ∧
      (Truthy sampleMultiTxOpts.coinSpecific.data → sampleMultiTxOpts.outputs ≠ []) ∧
      (sampleMultiTxOpts.multiTx = true → sampleMultiTxOpts.instantAcceptanceEscrow.getD 0 ≠ 0 →
        ¬Truthy sampleMultiTxOpts.coinSpecific.multiSendContractAddress →
        buildOtherTxs sampleEthConstants ["sol"] (fun s => s.toNat?.map (↑)) x =
          .error "Output index out of range") ∧
      ((sampleMultiTxOpts.multiTx = true →
          ¬Truthy sampleMultiTxOpts.coinSpecific.multiSendContractAddress →
          sampleMultiTxOpts.instantAcceptanceEscrow.getD 0 = 0) →
        ∃ txs, buildOtherTxs sampleEthConstants ["sol"] (fun s => s.toNat?.map (↑)) x = .ok txs ∧
          (txs.flatMap CreateArgs.paid).Perm
            (sampleMultiTxOpts.outputs.map fun o => (o.amount, o.toAddress)) ∧
          (¬Truthy sampleMultiTxOpts.coinSpecific.multiSendContractAddress →
            (sampleMultiTxOpts.multiTx = true ∨
              toUpperCase (proposalChain sampleEthConstants x) ≠ "SOL") →
            txs.map (·.nonce) = (List.range sampleMultiTxOpts.outputs.length).map
              (formatNonce ["sol"] (fun s => s.toNat?.map (↑))
                (toUpperCase (proposalChain sampleEthConstants x))
                sampleMultiTxOpts.coinSpecific.nonce))) :=
  ⟨_, rfl, fun h => h.elim, @create_buildOtherTxs sampleEthConstants ["sol"] _ (fun _ => "eth")
    (fun _ => ["livenet"]) List.reverse List.reverse_perm sampleMultiTxOpts _ rfl fun h => h.elim⟩

end Build

end Client

end BitcoreWallet
