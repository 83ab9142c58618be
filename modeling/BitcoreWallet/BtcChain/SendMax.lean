import Mathlib.Data.List.Sort
import Mathlib.Algebra.BigOperators.Group.List
import BitcoreWallet.BtcChain.BitcoreTx

namespace BitcoreWallet

structure SendMaxInfo where
  size : ℤ
  amount : ℤ
  fee : ℤ
  feePerKb : ℚ
  inputs : List Utxo
  utxosBelowFee : ℕ
  amountBelowFee : ℕ
  utxosAboveMaxSize : ℕ
  amountAboveMaxSize : ℕ
  deriving DecidableEq, Repr

def SendMaxInfo.empty : SendMaxInfo := ⟨0, 0, 0, 0, [], 0, 0, 0, 0⟩

namespace BtcChain

variable (c : BtcChain)

section Loop

variable {inputs : List Utxo} {baseTxpSize : ℤ} {sizePerInput : ℚ}

end Loop

section Accounts

variable {c}

end Accounts

end BtcChain

end BitcoreWallet
