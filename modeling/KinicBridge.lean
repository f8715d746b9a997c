import KinicBridge.Base.Epochs
import KinicBridge.Core.Replays
import KinicBridge.CrossChain.DoubleSpend
import KinicBridge.CrossChain.MintSignature
import KinicBridge.Deposits.Identifiers
import KinicBridge.Deposits.NeverLost
import KinicBridge.Deposits.NeverStuck
import KinicBridge.Deposits.SnapshotRefresh
import KinicBridge.Governance.Emergencies
import KinicBridge.Governance.Nonces
import KinicBridge.Governance.Roles
import KinicBridge.Governance.Signatures
import KinicBridge.Jobs.QuotaCounts
import KinicBridge.Ledger.ScanFinishes
import KinicBridge.Rpc.HexText
import KinicBridge.Settlement.AtMostOne
import KinicBridge.Settlement.DepositWrites
import KinicBridge.Settlement.FeePayoutRuns
import KinicBridge.Storage.DepositQuotaRuns
import KinicBridge.Storage.ScanKeys
import KinicBridge.Ui.Amounts
import KinicBridge.Ui.TransferState
import KinicBridge.Withdrawals.NotificationGuards
import KinicBridge.Withdrawals.OneRecord
