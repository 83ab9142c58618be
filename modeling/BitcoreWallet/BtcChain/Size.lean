import BitcoreWallet.TxProposal

namespace BitcoreWallet

/-- A `BtcChain` instance: its bitcore library, size margins and address-type lookup. -/
structure BtcChain where
  bitcoreLib : BitcoreLib
  sizeEstimationMargin : ℚ
  inputSizeEstimationMargin : ℚ
  addressType : String → String

structure BtcConfig where
  sizeEstimationMargin : Option ℚ := none
  inputSizeEstimationMargin : Option ℚ := none
  deriving DecidableEq, Repr

def BtcChain.new (bitcoreLib : BitcoreLib) (addressType : String → String) (config : BtcConfig) :
    BtcChain where
  bitcoreLib := bitcoreLib
  sizeEstimationMargin := config.sizeEstimationMargin.getD (1 / 100)
  inputSizeEstimationMargin := config.inputSizeEstimationMargin.getD 2
  addressType := addressType

structure FeeOpts where
  conservativeEstimation : Bool
  instantAcceptanceEscrow : Option ℕ
  deriving DecidableEq, Repr

namespace BtcChain

variable (c : BtcChain)

def getSizeSafetyMargin (opts : FeeOpts) : ℚ :=
  if opts.conservativeEstimation then c.sizeEstimationMargin else 0

def getInputSizeSafetyMargin (opts : FeeOpts) : ℚ :=
  if opts.conservativeEstimation then c.inputSizeEstimationMargin else 0

def getEstimatedSizeForSingleInput (txp : TxProposal) (opts : FeeOpts) : ℚ :=
  let inputSafetyMargin := c.getInputSizeSafetyMargin opts
  match txp.addressType with
  | .P2PKH => 148 + inputSafetyMargin
  | .P2WPKH => 69 + inputSafetyMargin
  | .P2TR => 58 + inputSafetyMargin
  | .P2WSH =>
    jsCeil (32 + 4 + 1 + (5 + txp.requiredSignatures * 74 + txp.walletN * 34) / 4 + 4) +
      inputSafetyMargin
  | .P2SH => 46 + txp.requiredSignatures * 73 + txp.walletN * 34 + inputSafetyMargin

def getEstimatedSizeForAddressType (addressType : String) : ℕ :=
  let scriptSize := match addressType with
    | "pubkeyhash" => 25
    | "scripthash" => 23
    | "witnesspubkeyhash" => 22
    | "witnessscripthash" => 34
    | _ => 34
  scriptSize + 8 + 1

def getEstimatedSizeForSingleOutput (address : Option String) : ℕ :=
  getEstimatedSizeForAddressType (if Truthy address then c.addressType (address.getD "") else "")

def outputsSize (txp : TxProposal) (opts : FeeOpts) : ℕ :=
  let addresses := txp.outputs.map (·.toAddress) ++
    (txp.changeAddress.map fun a => some a.address).toList
  let outputsSize := (addresses.map c.getEstimatedSizeForSingleOutput).sum +
    if opts.instantAcceptanceEscrow.getD 0 ≠ 0 then getEstimatedSizeForAddressType "scripthash"
    else 0
  if outputsSize = 0 then c.getEstimatedSizeForSingleOutput none else outputsSize

def getEstimatedSize (txp : TxProposal) (opts : FeeOpts) : ℤ :=
  let overhead : ℚ := 4 + 4 + 1 + 1
  let size := overhead + c.getEstimatedSizeForSingleInput txp opts * txp.inputs.length +
    c.outputsSize txp opts
  jsCeil (size * 1 + c.getSizeSafetyMargin opts)

section Nonneg

variable {c} (txp : TxProposal) (opts : FeeOpts)

theorem getEstimatedSizeForSingleInput_nonneg (hm : 0 ≤ c.inputSizeEstimationMargin) :
    0 ≤ c.getEstimatedSizeForSingleInput txp opts := by
  have hmargin : 0 ≤ c.getInputSizeSafetyMargin opts := by
    unfold getInputSizeSafetyMargin
    split_ifs <;> simp [hm]
  unfold getEstimatedSizeForSingleInput
  split
  case h_4 =>
    have : (0 : ℚ) ≤ jsCeil (32 + 4 + 1 + (5 + txp.requiredSignatures * 74 +
        txp.walletN * 34) / 4 + 4) := by
      exact_mod_cast Int.ceil_nonneg (by positivity)
    positivity
  all_goals positivity

theorem getEstimatedSize_nonneg (hm : 0 ≤ c.sizeEstimationMargin)
    (hm' : 0 ≤ c.inputSizeEstimationMargin) : 0 ≤ c.getEstimatedSize txp opts := by
  have hmargin : 0 ≤ c.getSizeSafetyMargin opts := by
    unfold getSizeSafetyMargin
    split_ifs <;> simp [hm]
  have := getEstimatedSizeForSingleInput_nonneg txp opts hm'
  exact Int.ceil_nonneg (by positivity)

end Nonneg

section Inputs

variable {c} (txp : TxProposal) (opts : FeeOpts)

theorem getEstimatedSizeForSingleInput_int (hm : ∃ k : ℤ, c.inputSizeEstimationMargin = k) :
    ∃ k : ℤ, c.getEstimatedSizeForSingleInput txp opts = k := by
  obtain ⟨j, hj⟩ : ∃ j : ℤ, c.getInputSizeSafetyMargin opts = j := by
    unfold getInputSizeSafetyMargin
    split_ifs
    exacts [hm, ⟨0, by simp⟩]
  unfold getEstimatedSizeForSingleInput
  split <;> simp only [hj]
  · exact ⟨148 + j, by push_cast; ring⟩
  · exact ⟨69 + j, by push_cast; ring⟩
  · exact ⟨58 + j, by push_cast; ring⟩
  · exact ⟨jsCeil (32 + 4 + 1 + (5 + txp.requiredSignatures * 74 + txp.walletN * 34) / 4 + 4) + j,
      by push_cast; ring⟩
  · exact ⟨46 + txp.requiredSignatures * 73 + txp.walletN * 34 + j, by push_cast; ring⟩

theorem getEstimatedSize_setInputs {k : ℤ} (hk : c.getEstimatedSizeForSingleInput txp opts = k)
    (S : List Utxo) :
    c.getEstimatedSize { txp with inputs := S } opts =
      c.getEstimatedSize txp opts + k * ((S.length : ℤ) - txp.inputs.length) := by
  have hsingle : c.getEstimatedSizeForSingleInput { txp with inputs := S } opts = k := hk
  have houts : c.outputsSize { txp with inputs := S } opts = c.outputsSize txp opts := rfl
  simp only [getEstimatedSize, jsCeil]
  rw [hsingle, houts, hk, ← Int.ceil_add_int]
  congr 1
  push_cast
  ring

end Inputs

def unmarginedSize (txp : TxProposal) (opts : FeeOpts) : ℚ :=
  4 + 4 + 1 + 1 + c.getEstimatedSizeForSingleInput txp opts * txp.inputs.length +
    c.outputsSize txp opts

section Margin

variable {c}

theorem getEstimatedSize_eq (txp : TxProposal) (opts : FeeOpts) :
    c.getEstimatedSize txp opts = jsCeil (c.unmarginedSize txp opts + c.getSizeSafetyMargin opts) :=
  by simp only [getEstimatedSize, unmarginedSize, mul_one]

/-- The size margin is added before rounding up, not applied in proportion. -/
theorem getEstimatedSize_margin_one_byte (hm : 0 < c.sizeEstimationMargin)
    (hm1 : c.sizeEstimationMargin ≤ 1) (hint : ∃ k : ℤ, c.inputSizeEstimationMargin = k)
    (txp : TxProposal) (opts : FeeOpts) (hcons : opts.conservativeEstimation = true) :
    (c.getEstimatedSize txp opts : ℚ) = c.unmarginedSize txp opts + 1 ∧
      (1 < c.sizeEstimationMargin * c.unmarginedSize txp opts →
        (c.getEstimatedSize txp opts : ℚ) <
          (1 + c.sizeEstimationMargin) * c.unmarginedSize txp opts) := by
  obtain ⟨k, hk⟩ := getEstimatedSizeForSingleInput_int txp opts hint
  have hsize : c.unmarginedSize txp opts =
      ((10 + k * txp.inputs.length + c.outputsSize txp opts : ℤ) : ℚ) := by
    rw [unmarginedSize, hk]
    push_cast
    ring
  have hceil : c.getEstimatedSize txp opts =
      10 + k * txp.inputs.length + c.outputsSize txp opts + 1 := by
    rw [getEstimatedSize_eq, getSizeSafetyMargin, if_pos hcons, hsize, jsCeil, Int.ceil_eq_iff]
    push_cast
    constructor <;> linarith
  have hone : (c.getEstimatedSize txp opts : ℚ) = c.unmarginedSize txp opts + 1 := by
    rw [hceil, hsize]
    push_cast
    ring
  exact ⟨hone, fun _ => by rw [hone]; linarith⟩

def sampleDefaultChain : BtcChain := BtcChain.new sampleLib (fun _ => "pubkeyhash") {}

theorem getEstimatedSize_margin_one_byte_sample :
    sampleDefaultChain.unmarginedSize sampleInputTxp ⟨true, none⟩ = 228 ∧
      ((sampleDefaultChain.getEstimatedSize sampleInputTxp ⟨true, none⟩ : ℚ) =
          sampleDefaultChain.unmarginedSize sampleInputTxp ⟨true, none⟩ + 1 ∧
        (1 < sampleDefaultChain.sizeEstimationMargin *
            sampleDefaultChain.unmarginedSize sampleInputTxp ⟨true, none⟩ →
          (sampleDefaultChain.getEstimatedSize sampleInputTxp ⟨true, none⟩ : ℚ) <
            (1 + sampleDefaultChain.sizeEstimationMargin) *
              sampleDefaultChain.unmarginedSize sampleInputTxp ⟨true, none⟩)) := by
  have hout : sampleDefaultChain.outputsSize sampleInputTxp ⟨true, none⟩ = 68 := by decide
  refine ⟨?_, getEstimatedSize_margin_one_byte (by norm_num [sampleDefaultChain, BtcChain.new])
    (by norm_num [sampleDefaultChain, BtcChain.new]) ⟨2, by simp [sampleDefaultChain, BtcChain.new]⟩
    _ _ rfl⟩
  simp only [unmarginedSize, hout]
  norm_num [getEstimatedSizeForSingleInput, getInputSizeSafetyMargin, sampleDefaultChain,
    BtcChain.new, sampleInputTxp, sampleTxp]

end Margin

/-- `parseInt(x.toFixed(0))`: the nearest integer, a half rounded away from zero. -/
def toFixed0 (x : ℚ) : ℤ := if 0 ≤ x then ⌊x + 1 / 2⌋ else -⌊-x + 1 / 2⌋

/-- `getEstimatedFee`: the rate times the estimated size, at least the dust amount. -/
def getEstimatedFee (txp : TxProposal) (opts : FeeOpts) : ℤ :=
  let totalInputs := (txp.inputs.map (·.satoshis)).sum
  let totalOutputs := (txp.outputs.map (·.amount)).sum
  let fee : ℚ :=
    if txp.inputs.length ≠ 0 ∧ txp.changeAddress.isNone ∧ txp.outputs.length ≠ 0 ∧
        totalInputs ≠ 0 ∧ totalOutputs ≠ 0 then (totalInputs : ℚ) - totalOutputs
    else 0
  if fee ≠ 0 then toFixed0 fee
  else toFixed0 (max (txp.feePerKb * c.getEstimatedSize txp opts / 1000) c.bitcoreLib.dustAmount)

end BtcChain

end BitcoreWallet
