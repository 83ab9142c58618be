import Mathlib.Data.List.Sort
import Mathlib.Algebra.Order.BigOperators.Group.List
import BitcoreWallet.BtcChain.BitcoreTx

namespace BitcoreWallet

inductive SelectError
  | insufficientFunds
  | insufficientFundsForFee (requiredFee : Option ℚ)
  | txMaxSizeExceeded
  deriving DecidableEq, Repr

structure SelectOpts where
  payProUrl : Option String
  instantAcceptanceEscrow : Option ℕ
  deriving DecidableEq, Repr

/-- The values `select` reads from the scope of `selectTxInputs`. -/
structure SelectEnv where
  escrowAmount : ℕ
  txpAmount : ℕ
  baseTxpSize : ℤ
  baseTxpFee : ℚ
  sizePerInput : ℚ
  feePerInput : ℚ
  replaceTxByFee : Bool
  dustThreshold : ℕ
  deriving DecidableEq, Repr

structure SelectState where
  total : ℕ
  netTotal : ℚ
  selected : List Utxo
  fullTxpAmount : ℤ
  fee : Option ℤ
  error : Option SelectError

namespace BtcChain

variable (c : BtcChain)

/-- The preamble of `selectTxInputs`: the sizes, and the fees in doubles. -/
def selectEnv (txp : TxProposal) (opts : SelectOpts) : SelectEnv :=
  let feeOpts : FeeOpts := ⟨Truthy opts.payProUrl, opts.instantAcceptanceEscrow⟩
  let escrowAmount := opts.instantAcceptanceEscrow.getD 0
  let baseTxpSize := c.getEstimatedSize txp feeOpts
  let sizePerInput := c.getEstimatedSizeForSingleInput txp feeOpts
  { escrowAmount, txpAmount := txp.getTotalAmount + escrowAmount, baseTxpSize,
    baseTxpFee := fl (fl (baseTxpSize * txp.feePerKb) / 1000), sizePerInput,
    feePerInput := fl (fl (sizePerInput * txp.feePerKb) / 1000),
    replaceTxByFee := txp.replaceTxByFee,
    dustThreshold := max Defaults.minOutputAmount c.bitcoreLib.dustAmount }

theorem selectEnv_fees_nonneg {txp : TxProposal} (opts : SelectOpts) (hk : 0 ≤ txp.feePerKb)
    (hm : 0 ≤ c.sizeEstimationMargin) (hm' : 0 ≤ c.inputSizeEstimationMargin) :
    0 ≤ (c.selectEnv txp opts).baseTxpFee ∧ 0 ≤ (c.selectEnv txp opts).feePerInput := by
  have hs : (0 : ℚ) ≤
      c.getEstimatedSize txp ⟨Truthy opts.payProUrl, opts.instantAcceptanceEscrow⟩ := by
    exact_mod_cast getEstimatedSize_nonneg txp _ hm hm'
  have hi := getEstimatedSizeForSingleInput_nonneg txp
    ⟨Truthy opts.payProUrl, opts.instantAcceptanceEscrow⟩ hm'
  exact ⟨fl_nonneg (div_nonneg (fl_nonneg (mul_nonneg hs hk)) (by norm_num)),
    fl_nonneg (div_nonneg (fl_nonneg (mul_nonneg hi hk)) (by norm_num))⟩

end BtcChain

theorem subperm_map {α β : Type} (f : α → β) {l₁ l₂ : List α} (h : l₁.Subperm l₂) :
    (l₁.map f).Subperm (l₂.map f) := by
  obtain ⟨l, hp, hs⟩ := h
  exact ⟨l.map f, hp.map f, hs.map f⟩

theorem Subperm.sum_le_sum {T L : List ℕ} (h : T.Subperm L) : T.sum ≤ L.sum := by
  obtain ⟨T', hp, hs⟩ := h
  exact hp.sum_eq ▸ hs.sum_le_sum fun _ _ => Nat.zero_le _

namespace SelectEnv

variable (e : SelectEnv)

def sortByRequired (requiredTxids : List String) (key : Utxo → ℤ) (utxos : List Utxo) :
    List Utxo :=
  let rank (u : Utxo) : ℕ := if u.txid ∈ requiredTxids then 0 else 1
  utxos.insertionSort fun a b => rank a < rank b ∨ (rank a = rank b ∧ key a ≤ key b)

/-- `Math.round(baseTxpFee + n * feePerInput)`, in doubles. -/
def selectFee (n : ℕ) : ℤ := jsRound (fl (e.baseTxpFee + fl (n * e.feePerInput)))

def fullTxpAmountFor (fee : ℤ) : ℤ := if e.escrowAmount ≠ 0 then e.txpAmount + fee else e.txpAmount

/-- One turn of `_.each(smallInputs, ...)`: the state after `input`, and whether to go on. -/
def selectStep (hasBigInputs : Bool) (s : SelectState) (input : Utxo) : SelectState × Bool :=
  let netInputAmount := fl (input.satoshis - e.feePerInput)
  let selected := s.selected ++ [input]
  let total := s.total + input.satoshis
  let netTotal := fl (s.netTotal + netInputAmount)
  let txpSize := fl (e.baseTxpSize + fl (selected.length * e.sizePerInput))
  let fee := e.selectFee selected.length
  let fullTxpAmount := e.fullTxpAmountFor fee
  let s : SelectState := { s with total, netTotal, selected, fullTxpAmount, fee := some fee }
  if (Defaults.maxTxSizeInKbBtc : ℚ) < fl (txpSize / 1000) then
    ({ s with error := some .txMaxSizeExceeded }, false)
  else if hasBigInputs ∧
      DivLt netInputAmount fullTxpAmount Defaults.utxoSelectionMinTxAmountVsUtxoFactor then
    (s, false)
  else if hasBigInputs ∧ DivGt fee fullTxpAmount Defaults.utxoSelectionMaxFeeVsTxAmountFactor ∧
      DivGt fee (fl (e.baseTxpFee + e.feePerInput))
        Defaults.utxoSelectionMaxFeeVsSingleUtxoFeeFactor then
    (s, false)
  else if (fullTxpAmount : ℚ) ≤ netTotal then
    let changeAmount := jsRound (total - fullTxpAmount - fee)
    if 0 < changeAmount ∧ changeAmount ≤ e.dustThreshold then
      ({ s with fee := some (fee + changeAmount) }, false)
    else (s, false)
  else (s, true)

def selectLoop (hasBigInputs : Bool) : SelectState → List Utxo → SelectState
  | s, [] => s
  | s, input :: inputs =>
    match e.selectStep hasBigInputs s input with
    | (s, true) => selectLoop hasBigInputs s inputs
    | (s, false) => s

@[simp] theorem selectLoop_nil (hasBigInputs : Bool) (s : SelectState) :
    e.selectLoop hasBigInputs s [] = s := rfl

theorem selectLoop_cons (hasBigInputs : Bool) (s : SelectState) (input : Utxo)
    (inputs : List Utxo) :
    e.selectLoop hasBigInputs s (input :: inputs) =
      if (e.selectStep hasBigInputs s input).2 then
        e.selectLoop hasBigInputs (e.selectStep hasBigInputs s input).1 inputs
      else (e.selectStep hasBigInputs s input).1 := by
  simp only [selectLoop]
  rcases e.selectStep hasBigInputs s input with ⟨s', _ | _⟩ <;> rfl

def useBigInput (s : SelectState) : List Utxo → SelectState
  | input :: _ =>
    let fee := jsRound (fl (e.baseTxpFee + e.feePerInput))
    { s with total := input.satoshis, fee := some fee, netTotal := input.satoshis - fee,
             selected := [input] }
  | [] => { s with selected := [] }

def selectStart : SelectState := ⟨0, -e.baseTxpFee, [], e.txpAmount, none, none⟩

def bigInputThreshold : ℚ :=
  fl (fl (e.txpAmount * Defaults.utxoSelectionMaxSingleUtxoFactor) +
    fl (e.baseTxpFee + e.feePerInput))

def selectFinish (s : SelectState) (bigInputs : List Utxo) :
    Except SelectError (List Utxo × Option ℤ) :=
  let s := if s.netTotal < s.fullTxpAmount then e.useBigInput s bigInputs else s
  if s.selected.isEmpty then .error (s.error.getD (.insufficientFundsForFee (s.fee.map (↑))))
  else .ok (s.selected, s.fee)

/-- `select(utxos, requiredInputs, cb)`: the selected inputs and the fee, or the error. -/
def select (utxos requiredInputs : List Utxo) : Except SelectError (List Utxo × Option ℤ) :=
  let requiredTxids :=
    if 0 < requiredInputs.length ∧ e.replaceTxByFee then requiredInputs.map (·.txid) else []
  if (utxos.map (·.satoshis)).sum < e.txpAmount then .error .insufficientFunds
  else
    let utxos := utxos.filter fun u => u.txid ∈ requiredTxids ∨ e.feePerInput < u.satoshis
    let totalValueInUtxos := (utxos.map (·.satoshis)).sum
    let netValueInUtxos :=
      fl (totalValueInUtxos - fl (e.baseTxpFee - fl (utxos.length * e.feePerInput)))
    if netValueInUtxos < e.txpAmount then .error (.insufficientFundsForFee (some e.baseTxpFee))
    else
      let bigInputs := sortByRequired requiredTxids (·.satoshis)
        (utxos.filter fun u => e.bigInputThreshold < u.satoshis)
      let smallInputs := sortByRequired requiredTxids (-·.satoshis)
        (utxos.filter fun u => ¬e.bigInputThreshold < u.satoshis)
      e.selectFinish (e.selectLoop (!bigInputs.isEmpty) e.selectStart smallInputs) bigInputs

def exactNet (s : SelectState) : ℚ := s.total - (e.baseTxpFee + s.selected.length * e.feePerInput)

def magnitude (U N : ℕ) : ℚ := 2 * U + e.baseTxpFee + N * e.feePerInput + 1

def roundingError (U N : ℕ) : ℚ := (e.magnitude U N + 1) / 2 ^ 53

/-- Candidates small enough that a run of `select` errs by under an eighth of a satoshi. -/
def WithinPrecision (U N : ℕ) : Prop := ((N : ℚ) + 1) * (e.magnitude U N + 1) ≤ 2 ^ 49

/-- What the loop keeps: the selected value, and `netTotal` near the exact net value. -/
structure SelectInv (U N : ℕ) (s : SelectState) : Prop where
  total_eq : s.total = (s.selected.map (·.satoshis)).sum
  total_le : s.total ≤ U
  length_le : s.selected.length ≤ N
  netTotal_near : |s.netTotal - e.exactNet s| ≤ s.selected.length * (2 * e.roundingError U N)
  covers : s.selected ≠ [] → (s.fullTxpAmount : ℚ) ≤ s.netTotal →
    ∃ f, s.fee = some f ∧ (e.txpAmount : ℤ) + f ≤ s.total

section Bound

variable {e} {U N : ℕ}

theorem add_jsRound_le {T : ℕ} {F ε : ℚ} {full : ℤ} (hfull : (e.txpAmount : ℤ) ≤ full)
    (hε : ε < 1 / 2) (h : (full : ℚ) ≤ T - F + ε) : (e.txpAmount : ℤ) + jsRound F ≤ T := by
  have hr := jsRound_le F
  have hfull' : ((e.txpAmount : ℤ) : ℚ) ≤ full := by exact_mod_cast hfull
  have hq : ((e.txpAmount + jsRound F : ℤ) : ℚ) < ((T : ℤ) + 1 : ℤ) := by
    push_cast at hfull' ⊢
    linarith
  exact Int.lt_add_one_iff.1 (by exact_mod_cast hq)

theorem txpAmount_le_fullTxpAmountFor {fee : ℤ} (h : 0 ≤ fee) :
    (e.txpAmount : ℤ) ≤ e.fullTxpAmountFor fee := by
  unfold fullTxpAmountFor
  split_ifs <;> omega

theorem one_le_magnitude (hb : 0 ≤ e.baseTxpFee) (hf : 0 ≤ e.feePerInput) :
    1 ≤ e.magnitude U N := by
  unfold magnitude
  have := mul_nonneg (Nat.cast_nonneg N : (0 : ℚ) ≤ N) hf
  have : (0 : ℚ) ≤ U := Nat.cast_nonneg U
  linarith

theorem roundingError_nonneg (hb : 0 ≤ e.baseTxpFee) (hf : 0 ≤ e.feePerInput) :
    0 ≤ e.roundingError U N := by
  unfold roundingError
  have := one_le_magnitude (U := U) (N := N) hb hf
  positivity

theorem roundingError_le (hprec : e.WithinPrecision U N) :
    ((N : ℚ) + 1) * e.roundingError U N ≤ 1 / 16 := by
  unfold roundingError
  rw [← mul_div_assoc, div_le_iff₀ (by positivity)]
  unfold WithinPrecision at hprec
  linarith

theorem run_error_le (hb : 0 ≤ e.baseTxpFee) (hf : 0 ≤ e.feePerInput)
    (hprec : e.WithinPrecision U N) {k : ℕ} (hk : k ≤ N) :
    (k : ℚ) * (2 * e.roundingError U N) ≤ 1 / 8 := by
  have h := roundingError_le hprec
  have h0 := roundingError_nonneg (U := U) (N := N) hb hf
  have hk' : (k : ℚ) ≤ N + 1 := by exact_mod_cast Nat.le_succ_of_le hk
  linarith only [h, mul_le_mul_of_nonneg_right hk' h0]

theorem abs_fl_sub_le_roundingError {x : ℚ} (h : |x| ≤ e.magnitude U N) :
    |fl x - x| ≤ e.roundingError U N :=
  (abs_fl_sub_le x).trans (div_le_div_of_nonneg_right (by linarith) (by positivity))

theorem abs_fee_sub_le (hb : 0 ≤ e.baseTxpFee) (hf : 0 ≤ e.feePerInput)
    (hprec : e.WithinPrecision U N) {k : ℕ} (hk : k ≤ N) :
    |fl (e.baseTxpFee + fl (k * e.feePerInput)) - (e.baseTxpFee + k * e.feePerInput)| ≤
      2 * e.roundingError U N := by
  have hρ := roundingError_le hprec
  have hρ0 := roundingError_nonneg (U := U) (N := N) hb hf
  have hkN : (k : ℚ) * e.feePerInput ≤ N * e.feePerInput :=
    mul_le_mul_of_nonneg_right (by exact_mod_cast hk) hf
  have hk0 := mul_nonneg (Nat.cast_nonneg k : (0 : ℚ) ≤ k) hf
  have hU : (0 : ℚ) ≤ U := Nat.cast_nonneg U
  have hN : (0 : ℚ) ≤ N * e.roundingError U N := mul_nonneg (Nat.cast_nonneg N) hρ0
  have hM : e.magnitude U N = 2 * U + e.baseTxpFee + N * e.feePerInput + 1 := rfl
  have h1 := abs_le.1 (abs_fl_sub_le_roundingError (e := e) (U := U) (N := N)
    (x := k * e.feePerInput) (abs_le.2 ⟨by linarith only [hM, hk0, hU, hb, hkN],
      by linarith only [hM, hkN, hU, hb]⟩))
  have h2 := abs_le.1 (abs_fl_sub_le_roundingError (e := e) (U := U) (N := N)
    (x := e.baseTxpFee + fl (k * e.feePerInput))
    (abs_le.2 ⟨by linarith only [hM, h1.1, hk0, hU, hb, hkN, hρ, hN],
      by linarith only [hM, h1.2, hU, hb, hkN, hρ, hN]⟩))
  exact abs_le.2 ⟨by linarith only [h1.1, h2.1], by linarith only [h1.2, h2.2]⟩

theorem selectFee_nonneg (hb : 0 ≤ e.baseTxpFee) (hf : 0 ≤ e.feePerInput) (n : ℕ) :
    0 ≤ e.selectFee n :=
  jsRound_nonneg (fl_nonneg (by linarith [fl_nonneg (mul_nonneg (Nat.cast_nonneg n) hf)]))

theorem selectStep_fst (hasBigInputs : Bool) (s : SelectState) (input : Utxo) :
    ∃ f error, (e.selectStep hasBigInputs s input).1 =
      ⟨s.total + input.satoshis, fl (s.netTotal + fl (input.satoshis - e.feePerInput)),
        s.selected ++ [input], e.fullTxpAmountFor (e.selectFee (s.selected ++ [input]).length),
        some f, error⟩ ∧
      (f = e.selectFee (s.selected ++ [input]).length ∨
        ((e.fullTxpAmountFor (e.selectFee (s.selected ++ [input]).length) : ℚ) ≤
            fl (s.netTotal + fl (input.satoshis - e.feePerInput)) ∧
          f = e.selectFee (s.selected ++ [input]).length +
            jsRound ((s.total + input.satoshis : ℕ) -
              e.fullTxpAmountFor (e.selectFee (s.selected ++ [input]).length) -
              e.selectFee (s.selected ++ [input]).length))) := by
  generalize hr : e.selectStep hasBigInputs s input = r
  unfold selectStep at hr
  dsimp only at hr
  -- only the dust branch adds the change to the fee
  split_ifs at hr with _ _ _ hreach <;> subst hr <;>
    first | exact ⟨_, _, rfl, .inl rfl⟩ | exact ⟨_, _, rfl, .inr ⟨hreach, rfl⟩⟩

/-- A turn of the loop keeps the invariant, whichever way it exits. -/
theorem selectInv_selectStep (hb : 0 ≤ e.baseTxpFee) (hf : 0 ≤ e.feePerInput)
    (hprec : e.WithinPrecision U N) (hasBigInputs : Bool) {s : SelectState}
    (hs : e.SelectInv U N s) (input : Utxo) (hU : s.total + input.satoshis ≤ U)
    (hN : s.selected.length + 1 ≤ N) : e.SelectInv U N (e.selectStep hasBigInputs s input).1 := by
  obtain ⟨f, error, h, hfee⟩ := e.selectStep_fst hasBigInputs s input
  set n := s.selected.length with hn
  set ρ := e.roundingError U N
  have hρ := roundingError_le hprec
  have hρ0 : 0 ≤ ρ := roundingError_nonneg hb hf
  have hnN : (n : ℚ) + 1 ≤ N := by exact_mod_cast hN
  have hUq : (s.total : ℚ) + input.satoshis ≤ U := by exact_mod_cast hU
  have hs0 : (0 : ℚ) ≤ s.total := Nat.cast_nonneg _
  have hi0 : (0 : ℚ) ≤ input.satoshis := Nat.cast_nonneg _
  have hnρ : ((n : ℚ) + 2) * ρ ≤ (N + 1) * ρ := mul_le_mul_of_nonneg_right (by linarith only [hnN]) hρ0
  have hnf : ((n : ℚ) + 1) * e.feePerInput ≤ N * e.feePerInput := mul_le_mul_of_nonneg_right hnN hf
  have hn0 := mul_nonneg (Nat.cast_nonneg n : (0 : ℚ) ≤ n) hf
  have hnear := abs_le.1 hs.netTotal_near
  rw [show e.exactNet s = s.total - (e.baseTxpFee + n * e.feePerInput) from rfl] at hnear
  have hM : e.magnitude U N = 2 * U + e.baseTxpFee + N * e.feePerInput + 1 := rfl
  -- the two roundings of the turn: the input's net value and the running net total
  have hv := abs_le.1 (abs_fl_sub_le_roundingError (e := e) (U := U) (N := N)
    (x := input.satoshis - e.feePerInput)
    (abs_le.2 ⟨by linarith only [hM, hi0, hnf, hn0, hUq, hs0, hb],
      by linarith only [hM, hUq, hs0, hf, hb, hnf, hn0]⟩))
  have hw := abs_le.1 (abs_fl_sub_le_roundingError (e := e) (U := U) (N := N)
    (x := s.netTotal + fl (input.satoshis - e.feePerInput))
    (abs_le.2 ⟨by linarith only [hM, hnear.1, hv.1, hs0, hi0, hnf, hn0, hnρ, hρ, hρ0, hUq, hb],
      by linarith only [hM, hnear.2, hv.2, hUq, hs0, hi0, hb, hf, hn0, hnf, hnρ, hρ, hρ0]⟩))
  have hnet : |fl (s.netTotal + fl (input.satoshis - e.feePerInput)) -
      ((s.total + input.satoshis : ℕ) - (e.baseTxpFee + (n + 1 : ℕ) * e.feePerInput))| ≤
        ((n + 1 : ℕ) : ℚ) * (2 * ρ) := by
    push_cast
    exact abs_le.2 ⟨by linarith only [hw.1, hnear.1, hv.1], by linarith only [hw.2, hnear.2, hv.2]⟩
  have hF := abs_le.1 (abs_fee_sub_le hb hf hprec (k := n + 1) hN)
  have hfull := txpAmount_le_fullTxpAmountFor (e := e)
    (selectFee_nonneg hb hf (s.selected ++ [input]).length)
  rw [h]
  refine ⟨?_, ?_, ?_, ?_, ?_⟩ <;> dsimp only [exactNet]
  · simp [hs.total_eq, List.sum_append]
  · exact hU
  · simpa using hN
  · simpa using hnet
  · intro _ hle
    refine ⟨f, rfl, ?_⟩
    rcases hfee with rfl | ⟨-, rfl⟩
    · -- the fee of the selection: the target reached covers it up to the rounding errors
      refine add_jsRound_le hfull (ε := 1 / 4) (by norm_num) ?_
      have hn' := abs_le.1 hnet
      rw [List.length_append, List.length_singleton, ← hn] at hle ⊢
      push_cast at hle hF hn' ⊢
      linarith only [hle, hF.2, hn'.2, hnρ, hρ]
    · -- the change folded into the fee makes them add up to the selected value exactly
      have hc : ((s.total + input.satoshis : ℕ) : ℚ) -
          e.fullTxpAmountFor (e.selectFee (s.selected ++ [input]).length) -
          e.selectFee (s.selected ++ [input]).length =
          ((s.total + input.satoshis -
            e.fullTxpAmountFor (e.selectFee (s.selected ++ [input]).length) -
            e.selectFee (s.selected ++ [input]).length : ℤ) : ℚ) := by
        push_cast
        ring
      rw [hc, jsRound_intCast]
      omega

theorem selectInv_selectLoop (hb : 0 ≤ e.baseTxpFee) (hf : 0 ≤ e.feePerInput)
    (hprec : e.WithinPrecision U N) (hasBigInputs : Bool) :
    ∀ (inputs : List Utxo) {s : SelectState}, e.SelectInv U N s →
      s.total + (inputs.map (·.satoshis)).sum ≤ U → s.selected.length + inputs.length ≤ N →
      e.SelectInv U N (e.selectLoop hasBigInputs s inputs)
  | [], _, hs, _, _ => hs
  | input :: inputs, s, hs, hU, hN => by
    simp only [List.map_cons, List.sum_cons, List.length_cons] at hU hN
    have hstep := selectInv_selectStep hb hf hprec hasBigInputs hs input (by omega) (by omega)
    obtain ⟨f, error, h, -⟩ := e.selectStep_fst hasBigInputs s input
    rw [selectLoop_cons]
    split_ifs
    · refine selectInv_selectLoop hb hf hprec hasBigInputs inputs hstep ?_ ?_ <;>
        simp only [h, List.length_append, List.length_singleton] <;> omega
    · exact hstep

theorem selectInv_selectStart : e.SelectInv U N e.selectStart :=
  ⟨rfl, Nat.zero_le _, Nat.zero_le _, by simp [selectStart, exactNet], fun h => absurd rfl h⟩

theorem mem_sortByRequired {requiredTxids : List String} {key : Utxo → ℤ} {utxos : List Utxo}
    {u : Utxo} : u ∈ sortByRequired requiredTxids key utxos ↔ u ∈ utxos :=
  (List.perm_insertionSort _ _).mem_iff

theorem perm_sortByRequired (requiredTxids : List String) (key : Utxo → ℤ) (utxos : List Utxo) :
    (sortByRequired requiredTxids key utxos).Perm utxos :=
  List.perm_insertionSort _ _

theorem subperm_sortByRequired_filter (requiredTxids : List String) (key : Utxo → ℤ)
    (p q : Utxo → Bool) (utxos : List Utxo) :
    (sortByRequired requiredTxids key ((utxos.filter q).filter p)).Subperm utxos :=
  (perm_sortByRequired _ _ _).subperm.trans
    ((List.filter_sublist _).trans (List.filter_sublist _)).subperm

theorem selectFinish_covers (hb : 0 ≤ e.baseTxpFee) (hf : 0 ≤ e.feePerInput)
    (hprec : e.WithinPrecision U N) (htxp : e.txpAmount ≤ U)
    {s : SelectState} (hs : e.SelectInv U N s) {bigInputs selected : List Utxo} {fee : Option ℤ}
    (hbigN : bigInputs.length ≤ N) (hbig : ∀ u ∈ bigInputs, e.bigInputThreshold < u.satoshis)
    (h : e.selectFinish s bigInputs = .ok (selected, fee)) :
    ∃ f, fee = some f ∧ (e.txpAmount : ℤ) + f ≤ (selected.map (·.satoshis)).sum := by
  simp only [selectFinish] at h
  split_ifs at h with hlt hemp hemp
  · cases bigInputs with
    | nil => simp [useBigInput] at hemp
    | cons u _ =>
      simp only [useBigInput] at h
      cases h
      have hu := hbig u (List.mem_cons_self _ _)
      simp only [bigInputThreshold, Defaults.utxoSelectionMaxSingleUtxoFactor] at hu
      -- the threshold is within three roundings of twice the amount and a one-input fee
      have hρ := roundingError_le hprec
      have hρ0 := roundingError_nonneg (U := U) (N := N) hb hf
      have htxpq : (e.txpAmount : ℚ) ≤ U := by exact_mod_cast htxp
      have ht0 : (0 : ℚ) ≤ e.txpAmount := Nat.cast_nonneg _
      have hNq : (1 : ℚ) ≤ N := by
        simp only [List.length_cons] at hbigN
        exact_mod_cast (show 1 ≤ N by omega)
      have hfN : e.feePerInput ≤ N * e.feePerInput := le_mul_of_one_le_left hf hNq
      have hM : e.magnitude U N = 2 * U + e.baseTxpFee + N * e.feePerInput + 1 := rfl
      have h1 := abs_le.1 (abs_fl_sub_le_roundingError (e := e) (U := U) (N := N)
        (x := e.baseTxpFee + e.feePerInput)
        (abs_le.2 ⟨by linarith only [hM, hb, hf, hfN, htxpq, ht0],
          by linarith only [hM, hfN, htxpq, ht0]⟩))
      have h2 := abs_le.1 (abs_fl_sub_le_roundingError (e := e) (U := U) (N := N)
        (x := e.txpAmount * 2) (abs_le.2 ⟨by linarith only [hM, ht0, htxpq, hb, hf, hfN],
          by linarith only [hM, htxpq, hb, hf, hfN]⟩))
      have hNρ : (N : ℚ) * e.roundingError U N ≥ 0 := mul_nonneg (Nat.cast_nonneg N) hρ0
      have h3 := abs_le.1 (abs_fl_sub_le_roundingError (e := e) (U := U) (N := N)
        (x := fl (e.txpAmount * 2) + fl (e.baseTxpFee + e.feePerInput))
        (abs_le.2 ⟨by linarith only [hM, h1.1, h2.1, hρ, hNρ, ht0, htxpq, hb, hf, hfN],
          by linarith only [hM, h1.2, h2.2, hρ, hNρ, ht0, htxpq, hb, hf, hfN]⟩))
      have hle : ((e.txpAmount : ℤ) : ℚ) ≤
          u.satoshis - fl (e.baseTxpFee + e.feePerInput) + 1 / 4 := by
        push_cast
        linarith only [hu, h2.1, h3.1, hρ, hNρ]
      exact ⟨_, rfl, by simpa using add_jsRound_le (T := u.satoshis) le_rfl (by norm_num) hle⟩
  · cases h
    obtain ⟨f, hf, hle⟩ := hs.covers (by simpa using hemp) (not_lt.1 hlt)
    exact ⟨f, hf, hs.total_eq ▸ hle⟩

end Bound

/-- Whichever way `select` succeeds, the selected inputs pay the amount and the fee. -/
theorem select_covers (hb : 0 ≤ e.baseTxpFee) (hf : 0 ≤ e.feePerInput)
    {utxos requiredInputs selected : List Utxo} {fee : Option ℤ}
    (hprec : e.WithinPrecision (utxos.map (·.satoshis)).sum utxos.length)
    (h : e.select utxos requiredInputs = .ok (selected, fee)) :
    ∃ f, fee = some f ∧ (e.txpAmount : ℤ) + f ≤ (selected.map (·.satoshis)).sum := by
  simp only [select] at h
  split_ifs at h with htot <;>
  refine selectFinish_covers hb hf hprec (not_lt.1 htot) (selectInv_selectLoop hb hf hprec _ _
    selectInv_selectStart ?_ ?_) (subperm_sortByRequired_filter _ _ _ _ utxos).length_le
    (fun u hu => by simpa using (List.mem_filter.1 (mem_sortByRequired.1 hu)).2) h
  all_goals first
    | (simp only [selectStart, zero_add]
       exact Subperm.sum_le_sum (subperm_map _ (subperm_sortByRequired_filter _ _ _ _ utxos)))
    | (simp only [selectStart, List.length_nil, zero_add]
       exact (subperm_sortByRequired_filter _ _ _ _ utxos).length_le)

instance (U N : ℕ) : Decidable (e.WithinPrecision U N) :=
  inferInstanceAs (Decidable (((N : ℚ) + 1) * (e.magnitude U N + 1) ≤ 2 ^ 49))

/-- What `select` selects pays the proposal's outputs, the escrow and the fee. -/
theorem selectTxInputs_select_covers (c : BtcChain) {txp : TxProposal} {opts : SelectOpts}
    (hk : 0 ≤ txp.feePerKb) (hm : 0 ≤ c.sizeEstimationMargin)
    (hm' : 0 ≤ c.inputSizeEstimationMargin) {utxos requiredInputs selected : List Utxo}
    {fee : Option ℤ}
    (hprec : (c.selectEnv txp opts).WithinPrecision (utxos.map (·.satoshis)).sum utxos.length)
    (h : (c.selectEnv txp opts).select utxos requiredInputs = .ok (selected, fee)) :
    ∃ f, fee = some f ∧ ((txp.getTotalAmount + opts.instantAcceptanceEscrow.getD 0 : ℕ) : ℤ) + f ≤
      (selected.map (·.satoshis)).sum :=
  have hfees := c.selectEnv_fees_nonneg opts hk hm hm'
  select_covers _ hfees.1 hfees.2 hprec h

def sampleEscrowTxp : TxProposal :=
  { sampleTxp with
    escrowAddress := some ⟨"escrow", "m/1/1", none, []⟩, instantAcceptanceEscrow := some 500,
    outputOrder := [0, 1, 2], feePerKb := 20000 }

def sampleBigUtxo : Utxo := ⟨"big", 0, 8161, 0.00008161, "in1", "m/0/0", none, 6, false⟩

def sampleSmallUtxo : Utxo := ⟨"small", 0, 2100, 0.000021, "in1", "m/0/0", none, 6, false⟩

/-- With an escrow, `select` can return less than the amount and twice the fee. -/
theorem select_escrow_short :
    (BtcChain.sampleChain.selectEnv sampleEscrowTxp ⟨none, some 500⟩).select [sampleBigUtxo] [] =
        .ok ([sampleBigUtxo], some 5160) ∧
      sampleBigUtxo.satoshis < sampleEscrowTxp.getTotalAmount + 500 + 2 * 5160 ∧
    (BtcChain.sampleChain.selectEnv { sampleEscrowTxp with feePerKb := 1000 }
        ⟨none, some 500⟩).select [sampleSmallUtxo] [] = .ok ([sampleSmallUtxo], some 342) ∧
      sampleSmallUtxo.satoshis < sampleEscrowTxp.getTotalAmount + 500 + 2 * 342 := by
  decide!

def sampleBigInput : Utxo := ⟨"big", 0, 3000, 0.00003, "in1", "m/0/0", none, 6, false⟩

def sampleFirstInput : Utxo := ⟨"first", 0, 1200, 0.000012, "in1", "m/0/0", none, 6, false⟩

def sampleLastInput : Utxo := ⟨"last", 0, 200, 0.000002, "in1", "m/0/0", none, 6, false⟩

theorem selectTxInputs_select_covers_sample :
    ∃ f, (some 374 : Option ℤ) = some f ∧ ((sampleTxp.getTotalAmount + 0 : ℕ) : ℤ) + f ≤
      ([sampleFirstInput, sampleLastInput].map (·.satoshis)).sum :=
  @selectTxInputs_select_covers BtcChain.sampleChain sampleTxp ⟨none, none⟩
    (by norm_num [sampleTxp]) le_rfl le_rfl [sampleBigInput, sampleFirstInput, sampleLastInput] []
    _ _ (by decide!) (by decide!)

/-- Without escrow, a selection's change can be dust left out of the fee. -/
theorem select_leaves_dust_change :
    (BtcChain.sampleChain.selectEnv sampleTxp ⟨none, none⟩).select
        [sampleBigInput, sampleFirstInput, sampleLastInput] [] =
      .ok ([sampleFirstInput, sampleLastInput], some 374) ∧
    (BtcChain.sampleChain.selectEnv sampleTxp ⟨none, none⟩).escrowAmount = 0 ∧
    0 < (([sampleFirstInput, sampleLastInput].map (·.satoshis)).sum : ℤ) -
      (BtcChain.sampleChain.selectEnv sampleTxp ⟨none, none⟩).txpAmount - 374 ∧
    (([sampleFirstInput, sampleLastInput].map (·.satoshis)).sum : ℤ) -
        (BtcChain.sampleChain.selectEnv sampleTxp ⟨none, none⟩).txpAmount - 374 ≤
      (BtcChain.sampleChain.selectEnv sampleTxp ⟨none, none⟩).dustThreshold := by
  decide!

/-- An input at which an early-stop check fires stays in the selection. -/
theorem select_keeps_early_stop_input :
    (BtcChain.sampleChain.selectEnv sampleTxp ⟨none, none⟩).select
        [sampleBigInput, sampleFirstInput, sampleLastInput] [] =
      .ok ([sampleFirstInput, sampleLastInput], some 374) ∧
    (BtcChain.sampleChain.selectEnv sampleTxp ⟨none, none⟩).bigInputThreshold <
      sampleBigInput.satoshis ∧
    DivLt (sampleLastInput.satoshis -
        (BtcChain.sampleChain.selectEnv sampleTxp ⟨none, none⟩).feePerInput)
      ((BtcChain.sampleChain.selectEnv sampleTxp ⟨none, none⟩).fullTxpAmountFor
        ((BtcChain.sampleChain.selectEnv sampleTxp ⟨none, none⟩).selectFee 2))
      Defaults.utxoSelectionMinTxAmountVsUtxoFactor := by
  decide!

def sampleReplacedInput : Utxo := ⟨"replaced", 0, 100, 0.000001, "in1", "m/0/0", none, 6, false⟩

def sampleRbfTxp : TxProposal :=
  { sampleTxp with replaceTxByFee := true, inputs := [sampleReplacedInput] }

/-- Under replace-by-fee the required input can be left out. -/
theorem select_drops_replaced_inputs :
    sampleRbfTxp.replaceTxByFee = true ∧ sampleRbfTxp.inputs ≠ [] ∧
    sampleReplacedInput ∈ [sampleReplacedInput, sampleBigInput] ∧
    (BtcChain.sampleChain.selectEnv sampleRbfTxp ⟨none, none⟩).select
        [sampleReplacedInput, sampleBigInput] sampleRbfTxp.inputs =
      .ok ([sampleBigInput], some 374) ∧
    ∀ u ∈ [sampleBigInput], ∀ i ∈ sampleRbfTxp.inputs, (u.txid, u.vout) ≠ (i.txid, i.vout) := by
  decide!

/-- Under replace-by-fee the base size already counts the proposal's inputs. -/
theorem select_size_counts_replaced_inputs :
    (∃ k : ℤ, BtcChain.sampleChain.inputSizeEstimationMargin = k) ∧
    (BtcChain.sampleChain.selectEnv sampleRbfTxp ⟨none, none⟩).select
        [sampleReplacedInput, sampleBigInput] sampleRbfTxp.inputs =
      .ok ([sampleBigInput], some 374) ∧
    ((BtcChain.sampleChain.selectEnv sampleRbfTxp ⟨none, none⟩).baseTxpSize +
        [sampleBigInput].length *
          (BtcChain.sampleChain.selectEnv sampleRbfTxp ⟨none, none⟩).sizePerInput : ℚ) = 374 ∧
    BtcChain.sampleChain.getEstimatedSize { sampleRbfTxp with inputs := [sampleBigInput] }
      ⟨false, none⟩ = 226 ∧
    (BtcChain.sampleChain.selectEnv sampleRbfTxp ⟨none, none⟩).selectFee [sampleBigInput].length =
      374 ∧
    jsRound (BtcChain.sampleChain.getEstimatedSize { sampleRbfTxp with inputs := [sampleBigInput] }
      ⟨false, none⟩ * sampleRbfTxp.feePerKb / 1000) = 226 :=
  ⟨⟨0, by simp [BtcChain.sampleChain]⟩, by decide!⟩

end SelectEnv

end BitcoreWallet
