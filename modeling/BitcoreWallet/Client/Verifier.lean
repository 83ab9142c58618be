import Mathlib.Data.List.Forall2
import BitcoreWallet.Client.Utils

namespace BitcoreWallet

namespace Client

structure Credentials where
  walletPrivKey : Option String
  n : ℕ
  m : ℕ
  xPubKey : Option String
  network : String
  chain : String
  addressType : ScriptType
  publicKeyRing : List RingEntry
  hardwareSourcePublicKey : Option String
  clientDerivedPublicKey : Option String
  complete : Bool
  deriving DecidableEq, Repr

structure Copayer where
  name : Option String
  encryptedName : Option String
  xPubKey : Option String
  requestPubKey : Option String
  signature : Option String
  deriving DecidableEq, Repr

structure Instruction where
  amount : ℕ
  toAddress : Option String
  deriving DecidableEq, Repr

structure PayProOpts where
  instructions : Option (List Instruction)
  deriving DecidableEq, Repr

inductive JsSlot
  | undefined
  | nan
  | num (n : ℤ)
  deriving DecidableEq, Repr

def JsSlot.postIncrement : JsSlot → JsSlot × JsSlot
  | .num n => (.num n, .num (n + 1))
  | _ => (.nan, .nan)

def JsSlot.truthy : JsSlot → Bool
  | .num n => n ≠ 0
  | _ => false

variable (L : ClientLib) (K : ClientConstants) (useRegtest : Bool)

/-- `copayers.xPubKey`, the key `checkCopayers` counts under: always `undefined`. -/
def copayersXPubKey (_copayers : List Copayer) : Option String := none

structure CopayersState where
  uniq : Option String → JsSlot
  error : Bool

def checkCopayer (walletPubKey : String) (copayers : List Copayer) (st : CopayersState)
    (copayer : Copayer) : Except String CopayersState :=
  let key := copayersXPubKey copayers
  let (seen, slot) := (st.uniq key).postIncrement
  let st : CopayersState :=
    { uniq := Function.update st.uniq key slot, error := st.error || seen.truthy }
  match jsOr copayer.encryptedName copayer.name, copayer.xPubKey, copayer.requestPubKey,
      copayer.signature with
  | name, some xPubKey, some requestPubKey, some signature =>
    if Truthy name ∧ xPubKey ≠ "" ∧ requestPubKey ≠ "" ∧ signature ≠ "" then
      (verifyMessage L (getCopayerHash (name.getD "") xPubKey requestPubKey) (some signature)
        walletPubKey).map fun ok => { st with error := st.error || !ok }
    else .ok { st with error := true }
  | _, _, _, _ => .ok { st with error := true }

def checkCopayersLoop (walletPubKey : String) (copayers : List Copayer) :
    CopayersState → List Copayer → Except String (Option CopayersState)
  | st, [] => .ok (some st)
  | st, copayer :: rest =>
    if st.error then .ok none
    else (checkCopayer L walletPubKey copayers st copayer).bind fun st =>
      checkCopayersLoop walletPubKey copayers st rest

/-- `checkCopayers(credentials, copayers)`; `none` is the `undefined` of `return;`. -/
def checkCopayers (credentials : Credentials) (copayers : List Copayer) :
    Except String (Option Bool) :=
  match credentials.walletPrivKey with
  | none => .error "Failed state: credentials at <checkCopayers>"
  | some walletPrivKey =>
    if walletPrivKey = "" then .error "Failed state: credentials at <checkCopayers>"
    else
      let walletPubKey := L.publicKeyOf walletPrivKey
      if copayers.length ≠ credentials.n then .ok (some false)
      else (checkCopayersLoop L walletPubKey copayers ⟨fun _ => .undefined, false⟩ copayers).map
        fun
        | none => none
        | some st =>
          if st.error then some false
          else some (decide (credentials.xPubKey ∈ copayers.map (·.xPubKey)))

/-- What `checkCopayers` asks of one copayer. -/
def CopayerValid (walletPubKey : String) : Copayer → Prop
  | ⟨name, encryptedName, some xPubKey, some requestPubKey, some signature⟩ =>
    Truthy (jsOr encryptedName name) ∧ xPubKey ≠ "" ∧ requestPubKey ≠ "" ∧ signature ≠ "" ∧
      L.verify (getCopayerHash ((jsOr encryptedName name).getD "") xPubKey requestPubKey) signature
        walletPubKey = true
  | _ => False

instance (walletPubKey : String) : DecidablePred (CopayerValid L walletPubKey) := fun c => by
  unfold CopayerValid; split <;> infer_instance

def CopayersState.NoCount (st : CopayersState) : Prop := ∀ k n, st.uniq k ≠ .num n

/-- `checkAddress(credentials, address, escrowInputs)`. -/
def checkAddress (credentials : Credentials) (address : Option AddressRecord)
    (escrowInputs : Option (List Utxo)) : Except String Bool :=
  if ¬credentials.complete then .error "Failed state: credentials at <checkAddress>"
  else match address with
    | none => .error "TypeError: Cannot read properties of undefined (reading 'type')"
    | some address =>
      let network :=
        if credentials.network = "testnet" ∧ useRegtest then "regtest" else credentials.network
      (deriveAddress L (address.type.getD credentials.addressType) credentials.publicKeyRing
          address.path credentials.m network credentials.chain escrowInputs
          credentials.hardwareSourcePublicKey credentials.clientDerivedPublicKey).map fun loc =>
        decide (loc.address = address.address) &&
          (loc.publicKeys.filter (· ∉ address.publicKeys)).isEmpty

def strEqual (str1 str2 : Option String) : Bool :=
  (!decide (Truthy str1) && !decide (Truthy str2)) || decide (str1 = str2)

structure ProposalArgs where
  outputs : List TxOutput
  changeAddress : Option String
  feePerKb : Option ℚ
  payProUrl : Option String
  message : Option String
  customData : Option String
  deriving DecidableEq, Repr

def checkOutput (encryptingKey : Option String) (o1 o2 : TxOutput) : Bool :=
  strEqual o1.toAddress o2.toAddress && strEqual o1.script o2.script && o1.amount == o2.amount &&
    match decryptMessage L o2.message encryptingKey with
    | .ok decryptedMessage => strEqual o1.message decryptedMessage
    | .error _ => false

def checkProposalCreation (args : ProposalArgs) (txp : TxProposal)
    (encryptingKey : Option String) : Bool :=
  txp.outputs.length == args.outputs.length &&
    (txp.outputs.zip args.outputs).all (fun o => checkOutput L encryptingKey o.1 o.2) &&
    (!decide (Truthy args.changeAddress) ||
      strEqual (txp.changeAddress.map (·.address)) args.changeAddress) &&
    args.feePerKb.all (fun f => decide (txp.feePerKb = f)) &&
    strEqual txp.payProUrl args.payProUrl &&
    (match decryptMessage L args.message encryptingKey with
      | .ok decryptedMessage => strEqual txp.message decryptedMessage
      | .error _ => false) &&
    (!(args.customData.isSome || txp.customData.isSome) ||
      decide (txp.customData = args.customData))

def creatorSigningPubKey (txp : TxProposal) (creatorKeys : RingEntry) :
    Except String (Option String) :=
  if Truthy txp.proposalSignaturePubKey then
    (verifyRequestPubKey L (txp.proposalSignaturePubKey.getD "") txp.proposalSignaturePubKeySig
        creatorKeys.xPubKey).map fun ok => if ok then txp.proposalSignaturePubKey else none
  else .ok (if Truthy creatorKeys.requestPubKey then creatorKeys.requestPubKey else none)

def proposalSignatureVerifies (txp : TxProposal) (hash pubKey : String) : Except String Bool :=
  (verifyMessage L hash txp.proposalSignature pubKey).bind fun verified =>
    if verified then .ok true
    else if Truthy txp.prePublishRaw then
      verifyMessage L (txp.prePublishRaw.getD "") txp.proposalSignature pubKey
    else .ok false

def checkProposalAddresses (credentials : Credentials) (txp : TxProposal) (chain : String) :
    Except String Bool :=
  if chain ∈ utxoChains then
    (checkAddress L useRegtest credentials txp.changeAddress none).bind fun ok =>
      if ¬ok then .ok false
      else match txp.escrowAddress with
        | some a => checkAddress L useRegtest credentials (some a) (some txp.inputs)
        | none => .ok true
  else .ok true

/-- `checkTxProposalSignature(credentials, txp)`. -/
def checkTxProposalSignature (credentials : Credentials) (txp : TxProposal) : Except String Bool :=
  if txp.creatorId = "" then .error "Illegal Argument."
  else if ¬credentials.complete then
    .error "Failed state: credentials at checkTxProposalSignature"
  else
    let chain := proposalChain K txp
    match credentials.publicKeyRing.find? (xPubToCopayerId L chain ·.xPubKey = txp.creatorId) with
    | none => .ok false
    | some creatorKeys =>
      (creatorSigningPubKey L txp creatorKeys).bind fun
        | none => .ok false
        | some pubKey =>
          if txp.version < 3 then .error "Transaction proposal not supported"
          else (buildTx L K txp).bind fun t =>
            (proposalSignatureVerifies L txp (t.uncheckedSerialize L) pubKey).bind fun ok =>
              if ok then checkProposalAddresses L useRegtest credentials txp chain else .ok false

def firstInstruction (payproOpts : PayProOpts) : Except String Instruction :=
  match payproOpts.instructions with
  | some (i :: _) => .ok i
  | _ => .error "TypeError: Cannot read properties of undefined (reading 'toAddress')"

/-- `checkPaypro(txp, payproOpts)`. -/
def checkPaypro (txp : TxProposal) (payproOpts : PayProOpts) : Except String Bool :=
  let first : Except String (Option String) :=
    if 3 ≤ txp.version then
      match txp.outputs with
      | o :: _ => .ok o.toAddress
      | [] => .error "TypeError: Cannot read properties of undefined (reading 'toAddress')"
    else .ok txp.toAddress
  first.bind fun toAddress =>
    if txp.amount ≠ ((payproOpts.instructions.getD []).map (·.amount)).sum then .ok false
    else if txp.coin = "btc" then
      (firstInstruction payproOpts).map fun i => decide (toAddress = i.toAddress)
    else if txp.coin = "bch" then
      (L.bchAddress toAddress).bind fun a =>
        (firstInstruction payproOpts).bind fun i => (L.bchAddress i.toAddress).map (a = ·)
    else .ok true

def checkTxProposal (credentials : Credentials) (txp : TxProposal) (paypro : Option PayProOpts) :
    Except String Bool :=
  (checkTxProposalSignature L K useRegtest credentials txp).bind fun ok =>
    if ¬ok then .ok false
    else match paypro with
      | some p => checkPaypro L txp p
      | none => .ok true

/-- A concrete client library: keys and addresses are strings built from their parts. -/
def sampleClientLib : ClientLib where
  bitcore _ := sampleLib
  buildOther _ := .error "unsupported chain"
  serialize r := "tx:" ++ String.join (r.inputs.map (·.prevTxId))
  verify m s pk := s = pk ++ "/" ++ m
  publicKeyOf k := "pub:" ++ k
  sha256Hex s := "id:" ++ s
  requestKeyAuth x := x ++ "/auth"
  deriveChild _ x path := x ++ path
  createMultisig _ keys _ _ _ _ := "ms:" ++ String.join keys
  createEscrow _ _ key _ := "escrow:" ++ key
  fromPublicKey _ key _ type := type.getD "pkh" ++ ":" ++ key
  deriverGetAddress _ _ key _ := key
  deriverDeriveAddress _ _ x index isChange := x ++ (if isChange then "/1/" else "/0/") ++ index
  bchAddress a := .ok (a.getD "")
  decrypt key c := if key = "k" then .ok c else .error "ccm: tag doesn't match"

def sampleConstants : ClientConstants :=
  ⟨["btc", "bch", "doge", "ltc", "eth"], [], fun _ => some 5000000⟩

def sampleCredentials : Credentials where
  walletPrivKey := some "wallet"
  n := 2
  m := 2
  xPubKey := some "xpubA"
  network := "livenet"
  chain := "btc"
  addressType := .P2SH
  publicKeyRing := [⟨"xpubA", some "reqA"⟩, ⟨"xpubB", some "reqB"⟩]
  hardwareSourcePublicKey := none
  clientDerivedPublicKey := none
  complete := true

def sampleSingleCredentials : Credentials :=
  { sampleCredentials with
    n := 1
    m := 1
    addressType := .P2PKH
    publicKeyRing := [⟨"xpubA", some "reqA"⟩] }

def sampleRawSignedTxp : TxProposal :=
  { sampleTxp with
    creatorId := "id:xpubA"
    changeAddress := some ⟨"pkh:xpubAm/1/0", "m/1/0", none, ["xpubAm/1/0"]⟩
    inputs := [⟨"prev", 0, 5000, 0.00005, "addrA", "m/0/0", none, 1, false⟩]
    fee := some 500
    proposalSignature := some "reqA/raw"
    prePublishRaw := some "raw" }

def sampleSignedTxp : TxProposal :=
  { sampleRawSignedTxp with proposalSignature := some "reqA/tx:prev", prePublishRaw := none }

theorem JsSlot.postIncrement_of_ne_num {s : JsSlot} (h : ∀ n, s ≠ .num n) :
    s.postIncrement = (.nan, .nan) := by
  cases s <;> simp_all [JsSlot.postIncrement]

theorem getCopayerHash_ne_empty (name xPubKey requestPubKey : String) :
    getCopayerHash name xPubKey requestPubKey ≠ "" := by
  simp only [getCopayerHash, String.intercalate, String.intercalate.go]
  intro h
  have hlen := congrArg String.length h
  have hbar : "|".length = 1 := rfl
  have hnil : "".length = 0 := rfl
  simp only [String.length_append, hbar, hnil] at hlen
  omega

section Copayers

variable {L} {walletPubKey : String} {copayers : List Copayer}

theorem checkCopayer_of_noCount {st : CopayersState} (c : Copayer) (hst : st.NoCount)
    (hw : walletPubKey ≠ "") :
    ∃ st', checkCopayer L walletPubKey copayers st c = .ok st' ∧ st'.NoCount ∧
      st'.error = (st.error || !decide (CopayerValid L walletPubKey c)) := by
  have hslot := JsSlot.postIncrement_of_ne_num (hst (copayersXPubKey copayers))
  have hcount (e : Bool) : CopayersState.NoCount
      ⟨Function.update st.uniq (copayersXPubKey copayers) .nan, e⟩ := fun k n => by
    by_cases hk : k = copayersXPubKey copayers
    · subst hk; simp
    · simpa [Function.update_noteq hk] using hst k n
  refine ⟨⟨_, st.error || !decide (CopayerValid L walletPubKey c)⟩, ?_, hcount _, rfl⟩
  obtain ⟨name, encryptedName, _ | x, _ | r, _ | s⟩ := c <;>
    simp [checkCopayer, hslot, CopayerValid, verifyMessage, hw, getCopayerHash_ne_empty]
  split_ifs with hv hs <;> simp_all [Except.map, JsSlot.truthy]
  tauto

theorem valid_of_checkCopayer {st st' : CopayersState} {c : Copayer}
    (h : checkCopayer L walletPubKey copayers st c = .ok st') (he : st'.error = false) :
    st.error = false ∧ CopayerValid L walletPubKey c := by
  simp only [checkCopayer] at h
  generalize (st.uniq (copayersXPubKey copayers)).postIncrement = p at h
  obtain ⟨seen, slot⟩ := p
  obtain ⟨name, encryptedName, _ | x, _ | r, _ | s⟩ := c <;> simp only [verifyMessage] at h
  case mk.mk.some.some.some =>
    split_ifs at h with hv <;> cases h <;> simp_all [CopayerValid]
  all_goals cases h; simp at he

theorem checkCopayersLoop_of_valid (hw : walletPubKey ≠ "") :
    ∀ (cs : List Copayer) (st : CopayersState), st.NoCount → st.error = false →
      (∀ c ∈ cs, CopayerValid L walletPubKey c) →
      ∃ st', checkCopayersLoop L walletPubKey copayers st cs = .ok (some st') ∧ st'.error = false
  | [], st, _, he, _ => ⟨st, rfl, he⟩
  | c :: cs, st, hst, he, hv => by
    obtain ⟨st₁, h₁, hst₁, he₁⟩ := @checkCopayer_of_noCount L walletPubKey copayers st c hst hw
    have he₁' : st₁.error = false := by simp [he₁, he, hv c (List.mem_cons_self c cs)]
    simp only [checkCopayersLoop, he, h₁, Bool.false_eq_true, if_false, Except.bind]
    exact checkCopayersLoop_of_valid hw cs st₁ hst₁ he₁' fun c h => hv c (List.mem_cons_of_mem _ h)

theorem valid_of_checkCopayersLoop :
    ∀ (cs : List Copayer) (st st' : CopayersState),
      checkCopayersLoop L walletPubKey copayers st cs = .ok (some st') → st'.error = false →
      st.error = false ∧ ∀ c ∈ cs, CopayerValid L walletPubKey c
  | [], st, st', h, he => by cases h; exact ⟨he, by simp⟩
  | c :: cs, st, st', h, he => by
    by_cases hst : st.error
    · simp [checkCopayersLoop, hst] at h
    simp only [checkCopayersLoop, hst, Bool.false_eq_true, if_false] at h
    obtain ⟨st₁, h₁, h₂⟩ := except_bind_eq_ok.1 h
    obtain ⟨he₁, hv⟩ := valid_of_checkCopayersLoop cs st₁ st' h₂ he
    obtain ⟨-, hc⟩ := valid_of_checkCopayer h₁ he₁
    exact ⟨by simpa using hst, List.forall_mem_cons.2 ⟨hc, hv⟩⟩

theorem checkCopayers_start_noCount : CopayersState.NoCount ⟨fun _ => .undefined, false⟩ :=
  fun _ _ => JsSlot.noConfusion

variable {credentials : Credentials} {walletPrivKey : String}

/-- `checkCopayers` returns `true` exactly for `n` valid copayers, the wallet's among them. -/
theorem checkCopayers_eq_true_iff (hk : credentials.walletPrivKey = some walletPrivKey)
    (hk' : walletPrivKey ≠ "") (hp : L.publicKeyOf walletPrivKey ≠ "") :
    checkCopayers L credentials copayers = .ok (some true) ↔
      copayers.length = credentials.n ∧
      (∀ c ∈ copayers, CopayerValid L (L.publicKeyOf walletPrivKey) c) ∧
      credentials.xPubKey ∈ copayers.map (·.xPubKey) := by
  simp only [checkCopayers, hk, hk', if_false]
  by_cases hn : copayers.length = credentials.n
  case neg => simp [hn]
  simp only [hn, ne_eq, not_true_eq_false, if_false, true_and]
  constructor
  · intro h
    obtain ⟨_ | st, hst, hr⟩ := except_map_eq_ok.1 h
    · cases hr
    by_cases he : st.error
    · simp [he] at hr
    · simp only [he, Bool.false_eq_true, if_false, Option.some.injEq, decide_eq_true_eq] at hr
      exact ⟨(valid_of_checkCopayersLoop copayers _ st hst (by simpa using he)).2, hr⟩
  · rintro ⟨hv, hx⟩
    obtain ⟨st, hst, he⟩ :=
      @checkCopayersLoop_of_valid L _ copayers hp copayers _ checkCopayers_start_noCount rfl hv
    simp [hst, he, hx, Except.map]

/-- A wallet of two accepts one valid copayer listed twice. -/
theorem checkCopayers_accepts_repeated {copayer : Copayer}
    (hk : credentials.walletPrivKey = some walletPrivKey) (hk' : walletPrivKey ≠ "")
    (hp : L.publicKeyOf walletPrivKey ≠ "") (hn : credentials.n = 2)
    (hx : credentials.xPubKey = copayer.xPubKey)
    (hc : CopayerValid L (L.publicKeyOf walletPrivKey) copayer) :
    checkCopayers L credentials [copayer, copayer] = .ok (some true) ∧
      ¬([copayer, copayer].map (·.xPubKey)).Nodup := by
  have hv : ∀ c ∈ [copayer, copayer], CopayerValid L (L.publicKeyOf walletPrivKey) c := by
    simp [hc]
  obtain ⟨st, hst, he⟩ :=
    @checkCopayersLoop_of_valid L _ [copayer, copayer] hp _ _ checkCopayers_start_noCount rfl hv
  simp [checkCopayers, hk, hk', hn, hst, he, hx, Except.map]

end Copayers

def sampleCopayer : Copayer :=
  ⟨some "alice", none, some "xpubA", some "reqA", some "pub:wallet/alice|xpubA|reqA"⟩

theorem checkCopayers_accepts_repeated_sample :
    checkCopayers sampleClientLib sampleCredentials [sampleCopayer, sampleCopayer] =
        .ok (some true) ∧
      ¬([sampleCopayer, sampleCopayer].map (·.xPubKey)).Nodup :=
  checkCopayers_accepts_repeated (show sampleCredentials.walletPrivKey = some "wallet" from rfl)
    (by decide) (by decide) rfl rfl (by decide)

def sampleCopayerB : Copayer :=
  ⟨some "bob", none, some "xpubB", some "reqB", some "pub:wallet/bob|xpubB|reqB"⟩

theorem checkCopayers_eq_true_iff_sample :
    checkCopayers sampleClientLib sampleCredentials [sampleCopayer, sampleCopayerB] =
        .ok (some true) ∧
      (checkCopayers sampleClientLib sampleCredentials [sampleCopayer, sampleCopayerB] =
          .ok (some true) ↔
        [sampleCopayer, sampleCopayerB].length = sampleCredentials.n ∧
        (∀ c ∈ [sampleCopayer, sampleCopayerB],
          CopayerValid sampleClientLib (sampleClientLib.publicKeyOf "wallet") c) ∧
        sampleCredentials.xPubKey ∈ [sampleCopayer, sampleCopayerB].map (·.xPubKey)) :=
  ⟨by decide, checkCopayers_eq_true_iff
    (show sampleCredentials.walletPrivKey = some "wallet" from rfl) (by decide) (by decide)⟩

section Address

variable {L K useRegtest}

/-- What `checkAddress` accepts: the derived address, with its keys among those reported. -/
theorem checkAddress_sound {credentials : Credentials} {address : AddressRecord}
    {escrowInputs : Option (List Utxo)}
    (h : checkAddress L useRegtest credentials (some address) escrowInputs = .ok true) :
    ∃ loc, deriveAddress L (address.type.getD credentials.addressType) credentials.publicKeyRing
        address.path credentials.m
        (if credentials.network = "testnet" ∧ useRegtest then "regtest" else credentials.network)
        credentials.chain escrowInputs credentials.hardwareSourcePublicKey
        credentials.clientDerivedPublicKey = .ok loc ∧
      loc.address = address.address ∧ ∀ k ∈ loc.publicKeys, k ∈ address.publicKeys := by
  unfold checkAddress at h
  obtain ⟨loc, hloc, hok⟩ := except_map_eq_ok.1 (ite_error_eq_ok h).2
  simp only [Bool.and_eq_true, decide_eq_true_eq, List.isEmpty_iff, List.filter_eq_nil_iff,
    not_not] at hok
  exact ⟨loc, hloc, hok⟩

theorem creatorSigningPubKey_eq_some {txp : TxProposal} {creatorKeys : RingEntry} {pubKey : String}
    (h : creatorSigningPubKey L txp creatorKeys = .ok (some pubKey)) :
    (Truthy txp.proposalSignaturePubKey → txp.proposalSignaturePubKey = some pubKey ∧
      verifyRequestPubKey L pubKey txp.proposalSignaturePubKeySig creatorKeys.xPubKey = .ok true) ∧
    (¬Truthy txp.proposalSignaturePubKey →
      creatorKeys.requestPubKey = some pubKey ∧ pubKey ≠ "") := by
  unfold creatorSigningPubKey at h
  split_ifs at h with hs hr
  · obtain ⟨ok, hok, hsome⟩ := except_map_eq_ok.1 h
    cases ok
    · cases hsome
    · simp only [if_true] at hsome
      simp only [hsome, Option.getD_some] at hok
      exact ⟨fun _ => ⟨hsome, hok⟩, fun hn => absurd hs hn⟩
  · simp only [Except.ok.injEq] at h
    rw [h] at hr
    exact ⟨fun ht => absurd ht hs, fun _ => ⟨h, hr⟩⟩
  · cases h

theorem proposalSignatureVerifies_eq_true {txp : TxProposal} {hash pubKey : String}
    (h : proposalSignatureVerifies L txp hash pubKey = .ok true) :
    verifyMessage L hash txp.proposalSignature pubKey = .ok true ∨
      Truthy txp.prePublishRaw ∧
        verifyMessage L (txp.prePublishRaw.getD "") txp.proposalSignature pubKey = .ok true := by
  obtain ⟨verified, hv, h⟩ := except_bind_eq_ok.1 h
  cases verified
  · simp only [Bool.false_eq_true, if_false] at h
    split_ifs at h with hp
    · exact .inr ⟨hp, h⟩
    · cases h
  · exact .inl hv

theorem checkProposalAddresses_eq_true {credentials : Credentials} {txp : TxProposal}
    {chain : String} (h : checkProposalAddresses L useRegtest credentials txp chain = .ok true)
    (hc : chain ∈ utxoChains) :
    checkAddress L useRegtest credentials txp.changeAddress none = .ok true ∧
      ∀ a, txp.escrowAddress = some a →
        checkAddress L useRegtest credentials (some a) (some txp.inputs) = .ok true := by
  simp only [checkProposalAddresses, hc, if_true] at h
  obtain ⟨ok, hok, h⟩ := except_bind_eq_ok.1 h
  cases ok
  · cases h
  simp only [not_true_eq_false, if_false] at h
  refine ⟨hok, fun a ha => ?_⟩
  simpa [ha] using h

theorem checkTxProposalSignature_eq_true {credentials : Credentials} {txp : TxProposal}
    (h : checkTxProposalSignature L K useRegtest credentials txp = .ok true) :
    ∃ creatorKeys pubKey t,
      credentials.publicKeyRing.find?
          (xPubToCopayerId L (proposalChain K txp) ·.xPubKey = txp.creatorId) = some creatorKeys ∧
      creatorSigningPubKey L txp creatorKeys = .ok (some pubKey) ∧ 3 ≤ txp.version ∧
      buildTx L K txp = .ok t ∧
      proposalSignatureVerifies L txp (t.uncheckedSerialize L) pubKey = .ok true ∧
      checkProposalAddresses L useRegtest credentials txp (proposalChain K txp) = .ok true := by
  unfold checkTxProposalSignature at h
  obtain ⟨-, h⟩ := ite_error_eq_ok h
  obtain ⟨-, h⟩ := ite_error_eq_ok h
  dsimp only at h
  split at h
  · cases h
  rename_i creatorKeys hfind
  obtain ⟨_ | pubKey, hpk, h⟩ := except_bind_eq_ok.1 h
  · cases h
  obtain ⟨hv, h⟩ := ite_error_eq_ok h
  obtain ⟨t, ht, h⟩ := except_bind_eq_ok.1 h
  obtain ⟨_ | _, hok, h⟩ := except_bind_eq_ok.1 h
  · cases h
  exact ⟨creatorKeys, pubKey, t, hfind, hpk, by omega, ht, hok, h⟩

/-- What `checkTxProposalSignature` accepts: the creator's key signed the transaction. -/
theorem checkTxProposalSignature_sound {credentials : Credentials} {txp : TxProposal}
    (h : checkTxProposalSignature L K useRegtest credentials txp = .ok true) :
    ∃ creatorKeys ∈ credentials.publicKeyRing,
      xPubToCopayerId L (proposalChain K txp) creatorKeys.xPubKey = txp.creatorId ∧
      ∃ pubKey,
        (Truthy txp.proposalSignaturePubKey → txp.proposalSignaturePubKey = some pubKey ∧
          verifyRequestPubKey L pubKey txp.proposalSignaturePubKeySig creatorKeys.xPubKey =
            .ok true) ∧
        (¬Truthy txp.proposalSignaturePubKey →
          creatorKeys.requestPubKey = some pubKey ∧ pubKey ≠ "") ∧
        3 ≤ txp.version ∧
        ∃ t, buildTx L K txp = .ok t ∧
          (verifyMessage L (t.uncheckedSerialize L) txp.proposalSignature pubKey = .ok true ∨
            Truthy txp.prePublishRaw ∧
              verifyMessage L (txp.prePublishRaw.getD "") txp.proposalSignature pubKey = .ok true) ∧
          (proposalChain K txp ∈ utxoChains →
            checkAddress L useRegtest credentials txp.changeAddress none = .ok true ∧
            ∀ a, txp.escrowAddress = some a →
              checkAddress L useRegtest credentials (some a) (some txp.inputs) = .ok true) := by
  obtain ⟨creatorKeys, pubKey, t, hfind, hpk, hv, ht, hok, h⟩ := checkTxProposalSignature_eq_true h
  exact ⟨creatorKeys, List.mem_of_find?_eq_some hfind, by simpa using List.find?_some hfind,
    pubKey, creatorSigningPubKey_eq_some hpk |>.1, creatorSigningPubKey_eq_some hpk |>.2,
    hv, t, ht, proposalSignatureVerifies_eq_true hok, checkProposalAddresses_eq_true h⟩

theorem checkTxProposalSignature_sound_sample :
    ∃ creatorKeys ∈ sampleSingleCredentials.publicKeyRing,
      xPubToCopayerId sampleClientLib (proposalChain sampleConstants sampleSignedTxp)
        creatorKeys.xPubKey = sampleSignedTxp.creatorId ∧
      ∃ pubKey,
        (Truthy sampleSignedTxp.proposalSignaturePubKey →
          sampleSignedTxp.proposalSignaturePubKey = some pubKey ∧
          verifyRequestPubKey sampleClientLib pubKey sampleSignedTxp.proposalSignaturePubKeySig
            creatorKeys.xPubKey = .ok true) ∧
        (¬Truthy sampleSignedTxp.proposalSignaturePubKey →
          creatorKeys.requestPubKey = some pubKey ∧ pubKey ≠ "") ∧
        3 ≤ sampleSignedTxp.version ∧
        ∃ t, buildTx sampleClientLib sampleConstants sampleSignedTxp = .ok t ∧
          (verifyMessage sampleClientLib (t.uncheckedSerialize sampleClientLib)
              sampleSignedTxp.proposalSignature pubKey = .ok true ∨
            Truthy sampleSignedTxp.prePublishRaw ∧
              verifyMessage sampleClientLib (sampleSignedTxp.prePublishRaw.getD "")
                sampleSignedTxp.proposalSignature pubKey = .ok true) ∧
          (proposalChain sampleConstants sampleSignedTxp ∈ utxoChains →
            checkAddress sampleClientLib false sampleSingleCredentials sampleSignedTxp.changeAddress
              none = .ok true ∧
            ∀ a, sampleSignedTxp.escrowAddress = some a →
              checkAddress sampleClientLib false sampleSingleCredentials (some a)
                (some sampleSignedTxp.inputs) = .ok true) :=
  @checkTxProposalSignature_sound sampleClientLib sampleConstants false sampleSingleCredentials
    sampleSignedTxp (by decide)

/-- A signature over `prePublishRaw` alone passes `checkTxProposalSignature`. -/
theorem checkTxProposalSignature_accepts_prePublishRaw :
    checkTxProposalSignature sampleClientLib sampleConstants false sampleSingleCredentials
      sampleRawSignedTxp = .ok true ∧
    (buildTx sampleClientLib sampleConstants sampleRawSignedTxp).bind (fun t =>
      verifyMessage sampleClientLib (t.uncheckedSerialize sampleClientLib)
        sampleRawSignedTxp.proposalSignature "reqA") = .ok false := by
  decide

/-- What `checkPaypro` accepts: the invoice's total as `amount`, and its first address. -/
theorem checkPaypro_sound {txp : TxProposal} {i : Instruction} {is : List Instruction}
    (hv : 3 ≤ txp.version) (h : checkPaypro L txp ⟨some (i :: is)⟩ = .ok true) :
    ∃ o os, txp.outputs = o :: os ∧ txp.amount = ((i :: is).map (·.amount)).sum ∧
      (txp.coin = "btc" → o.toAddress = i.toAddress) ∧
      (txp.coin = "bch" →
        ∃ a, L.bchAddress o.toAddress = .ok a ∧ L.bchAddress i.toAddress = .ok a) := by
  unfold checkPaypro at h
  rw [if_pos hv] at h
  cases hout : txp.outputs with
  | nil => simp [hout, bind, Except.bind] at h
  | cons o os => ?_
  simp only [hout] at h
  obtain ⟨toAddress, hto, h⟩ := except_bind_eq_ok.1 h
  cases hto
  refine ⟨o, os, rfl, ?_⟩
  split_ifs at h with ha hbtc hbch
  · cases h
  · simp only [firstInstruction, Except.map, Except.ok.injEq, decide_eq_true_eq] at h
    exact ⟨by simpa using ha, fun _ => h, fun hc => absurd (hc.symm.trans hbtc) (by decide)⟩
  · obtain ⟨a, ha', h⟩ := except_bind_eq_ok.1 h
    obtain ⟨b, hb, hab⟩ := except_map_eq_ok.1 h
    simp only [decide_eq_true_eq] at hab
    exact ⟨by simpa using ha, fun hc => absurd hc hbtc, fun _ => ⟨a, ha', hab ▸ hb⟩⟩
  · exact ⟨by simpa using ha, fun hc => absurd hc hbtc, fun hc => absurd hc hbch⟩

def sampleInvoice : PayProOpts := ⟨some [⟨1000, some "addr1"⟩]⟩

theorem checkPaypro_sound_sample :
    ∃ o os, sampleTxp.outputs = o :: os ∧
      sampleTxp.amount = (([⟨1000, some "addr1"⟩] : List Instruction).map (·.amount)).sum ∧
      (sampleTxp.coin = "btc" → o.toAddress = some "addr1") ∧
      (sampleTxp.coin = "bch" → ∃ a, sampleClientLib.bchAddress o.toAddress = .ok a ∧
        sampleClientLib.bchAddress (some "addr1") = .ok a) :=
  @checkPaypro_sound sampleClientLib sampleTxp ⟨1000, some "addr1"⟩ [] (by decide) (by decide)

def sampleLtcTxp : TxProposal :=
  { sampleTxp with
    coin := "ltc", chain := "ltc", outputs := [⟨5000, some "addr2", none, none, none, none, none⟩] }

/-- `checkPaypro` compares the reported `amount`, not what the outputs pay. -/
theorem checkPaypro_accepts_other_outputs :
    checkPaypro sampleClientLib sampleLtcTxp sampleInvoice = .ok true ∧
    (sampleLtcTxp.outputs.map (·.amount)).sum ≠
      ((sampleInvoice.instructions.getD []).map (·.amount)).sum ∧
    (sampleLtcTxp.outputs.map (·.toAddress)).head? ≠
      ((sampleInvoice.instructions.getD []).map (·.toAddress)).head? := by
  decide

theorem checkTxProposal_eq_true {credentials : Credentials} {txp : TxProposal}
    {paypro : Option PayProOpts}
    (h : checkTxProposal L K useRegtest credentials txp paypro = .ok true) :
    checkTxProposalSignature L K useRegtest credentials txp = .ok true ∧
      ∀ p, paypro = some p → checkPaypro L txp p = .ok true := by
  obtain ⟨_ | _, hs, h⟩ := except_bind_eq_ok.1 h
  · cases h
  refine ⟨hs, fun p hp => ?_⟩
  simpa [hp] using h

end Address

def sampleAddress : AddressRecord :=
  ⟨"ms:xpubAm/0/1xpubBm/0/1", "m/0/1", none, ["xpubAm/0/1", "xpubBm/0/1"]⟩

theorem checkAddress_sound_sample :
    ∃ loc, deriveAddress sampleClientLib .P2SH sampleCredentials.publicKeyRing "m/0/1" 2 "livenet"
        "btc" none none none = .ok loc ∧
      loc.address = sampleAddress.address ∧ ∀ k ∈ loc.publicKeys, k ∈ sampleAddress.publicKeys :=
  @checkAddress_sound sampleClientLib false sampleCredentials sampleAddress none (by decide)

def sampleForeignAddress : AddressRecord :=
  ⟨"witnesspubkeyhash:xpubAm/0/1", "m/0/1", some .P2WPKH,
    ["xpubAm/0/1", "xpubBm/0/1", "xpubCm/0/1"]⟩

/-- A 2-of-2 P2SH wallet accepts a P2WPKH address of one copayer's key. -/
theorem checkAddress_accepts_foreign_type :
    checkAddress sampleClientLib false sampleCredentials (some sampleForeignAddress) none =
      .ok true ∧
    deriveAddress sampleClientLib sampleCredentials.addressType sampleCredentials.publicKeyRing
      sampleForeignAddress.path sampleCredentials.m "livenet" "btc" none none none =
      .ok ⟨sampleAddress.address, "m/0/1", sampleAddress.publicKeys⟩ ∧
    sampleAddress.address ≠ sampleForeignAddress.address ∧
    sampleAddress.publicKeys ≠ sampleForeignAddress.publicKeys := by
  decide

end Client

end BitcoreWallet
