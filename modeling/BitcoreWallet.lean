import BitcoreWallet.Binary64
import BitcoreWallet.Common
import BitcoreWallet.Bitcore
import BitcoreWallet.TxProposal
import BitcoreWallet.ProposalTx
import BitcoreWallet.BtcChain.Size
import BitcoreWallet.BtcChain.BitcoreTx
import BitcoreWallet.BtcChain.Select
import BitcoreWallet.BtcChain.Greedy
import BitcoreWallet.BtcChain.SelectTxInputs
import BitcoreWallet.BtcChain.SendMax
import BitcoreWallet.BtcChain.Wallet
import BitcoreWallet.Lifecycle
import BitcoreWallet.Persistence
import BitcoreWallet.Quorum
import BitcoreWallet.Client.Utils
import BitcoreWallet.Client.OtherChains
import BitcoreWallet.Client.Verifier
import BitcoreWallet.Client.Agreement
