import KinicBridge.Settlement.Changes
import KinicBridge.Ledger.LateScan
import KinicBridge.Library.Attempts

/-! The settlement tasks that send releases and refunds to the ledger, cut at their inter-canister
calls. A reply is applied to the store as it then is. Leases decide only whether a reply is still
applied, so here any reply may also be dropped. -/
namespace KinicBridge

open Checked

structure BridgeConfig where
  self : Account
  ledgerId : List UInt8
  ledgerFee : Nat
  sha256 : List UInt8 → Bytes32
  baseChainId : Nat

def beBytes64 (value : Nat) : List UInt8 :=
  (List.range 8).map fun i => UInt8.ofNat (value >>> (8 * (7 - i)))

namespace BridgeConfig

variable (config : BridgeConfig)

def retryMemo (domain : String) (holdId : Nat) (identity : LedgerTransferIdentity) : Bytes32 :=
  config.sha256 (domain.toUTF8.toList ++ beBytes64 holdId ++ beBytes64 identity.createdAtTimeNs)

def depositRefundMemo (depositId : Bytes32) (attemptNo : Nat) : Bytes32 :=
  config.sha256 ("KINIC-DEPOSIT-REFUND".toUTF8.toList ++ memoBytes depositId ++ beBytes64 attemptNo)

def nextIdentity (domain : String) (now holdId : Nat)
    (transfer : LedgerTransferIdentity) : LedgerTransferIdentity :=
  let moved := { transfer with
    createdAtTimeNs := max now (saturatingAdd 64 transfer.createdAtTimeNs 1) }
  { moved with memo := config.retryMemo domain holdId moved }

def releaseIdentity (now : Nat) (withdrawal : WithdrawalRecord)
    (valid : withdrawal.owner ≠ [] ∧ withdrawal.owner.length ≤ 29 ∧ withdrawal.owner ≠ [4]) :
    LedgerTransferIdentity where
  operation := .releaseWithdrawal
  createdAtTimeNs := now
  memo := withdrawal.payloadHash
  amount := withdrawal.amountOut
  fee := config.ledgerFee
  from_ := { config.self with subaccount := 0 }
  to_ := ⟨withdrawal.owner, withdrawal.subaccount, valid⟩
  spender := none

def startRelease (now : Nat) (store : SettlementStore) (id : Bytes32) :
    Except StorageError SettlementStore :=
  match store.withdrawals.get id with
  | none => .error .recordNotFound
  | some withdrawal =>
    if withdrawal.state ≠ .observed ∨ withdrawal.chargedServiceFee < config.ledgerFee then
      .error (.core .settlementMismatch)
    else if valid : withdrawal.owner ≠ [] ∧ withdrawal.owner.length ≤ 29 ∧
        withdrawal.owner ≠ [4] then
      store.applyWithdrawal id (.startRelease ⟨0, config.releaseIdentity now withdrawal valid⟩
        ⟨withdrawal.amountOut, withdrawal.chargedServiceFee, config.ledgerFee⟩)
    else .error (.core .invalidPrincipal)

theorem startRelease_ok {config : BridgeConfig} {store written : SettlementStore} {id : Bytes32}
    (started : config.startRelease now store id = .ok written) :
    ∃ withdrawal valid, store.withdrawals.get id = some withdrawal ∧ withdrawal.state = .observed ∧
      store.applyWithdrawal id (.startRelease ⟨0, config.releaseIdentity now withdrawal valid⟩
        ⟨withdrawal.amountOut, withdrawal.chargedServiceFee, config.ledgerFee⟩) = .ok written := by
  unfold startRelease at started
  split at started
  · contradiction
  next withdrawal found =>
    obtain ⟨ready, started⟩ := guarded_ok.mp started
    split at started
    · exact ⟨withdrawal, _, found, not_not.mp (not_or.mp ready).1, started⟩
    · contradiction

def refundIdentity (now : Nat) (deposit : DepositRecord) (amount : Nat) :
    LedgerTransferIdentity where
  operation := .refundDeposit
  createdAtTimeNs := now
  memo := config.depositRefundMemo deposit.id 0
  amount := amount
  fee := config.ledgerFee
  from_ := deposit.transfer.to_
  to_ := deposit.transfer.from_
  spender := none

def prepareDepositRefund (now : Nat) (store : SettlementStore)
    (id : Bytes32) (reason : DepositRefundReason) (expiryEvidence : Option MintExpiryEvidence) :
    Except StorageError SettlementStore := do
  let deposit ← okOr .recordNotFound (store.deposits.get id)
  let amount ← okOr .recordNotFound (Kernel.depositRefundAmount deposit.grossAmount
    deposit.chargedServiceFee config.ledgerFee)
  store.applyDeposit id (.startRefund reason ⟨0, config.refundIdentity now deposit amount⟩
    expiryEvidence)

end BridgeConfig

inductive PayoutTask where
  | release (id : Bytes32) (attempt : TransferAttempt)
  | refund (id : Bytes32) (attempt : TransferAttempt)
  | holdCall (hold : ReconciliationHoldRecord)
  | holdScan (hold : ReconciliationHoldRecord) (progress : ReconciliationScanProgress)
  deriving DecidableEq

namespace SettlementStore

variable (store : SettlementStore)

def holdScan (hold : ReconciliationHoldRecord) :
    Except StorageError (SettlementStore × ReconciliationScanProgress) :=
  match store.scans.get (.hold hold.id) with
  | some progress => .ok (store, progress)
  | none =>
    let progress := .new (.hold hold.id) hold.transfer
    (store.putReconciliationScan progress).map fun store => (store, progress)

/-- The first half of `advance_hold`: send the transfer again while the ledger may still
accept it, scan for it afterwards. -/
def beginHold (now : Nat) (store : SettlementStore) (hold : ReconciliationHoldRecord) :
    Except StorageError (SettlementStore × PayoutTask) :=
  if ledgerIdentityCanStillBeAccepted hold.transfer.createdAtTimeNs now then
    if hold.transfer.operation = .feePayout then .error .recordNotFound
    else .ok (store, .holdCall hold)
  else (store.holdScan hold).map fun (store, progress) => (store, .holdScan hold progress)

variable (config : BridgeConfig) (now : Nat)

def beginWithdrawal (store : SettlementStore) (id : Bytes32) :
    Except StorageError (SettlementStore × PayoutTask) := do
  let withdrawal ← okOr .recordNotFound (store.withdrawals.get id)
  match withdrawal.state with
  | .releasePending attempt _ =>
    -- a release prepared under another fee waits for an operator
    if attempt.identity.fee ≠ config.ledgerFee then throw (.core .settlementMismatch)
    return (store, .release id attempt)
  | .reconciliationHold holdId _ _ =>
    let hold ← okOr .recordNotFound (store.holds.get holdId)
    store.beginHold now hold
  | .observed | .paid .. => throw .recordNotFound

def beginDeposit (store : SettlementStore) (id : Bytes32) :
    Except StorageError (SettlementStore × PayoutTask) := do
  let deposit ← okOr .recordNotFound (store.deposits.get id)
  match deposit.state with
  | .refundPending _ _ attempt => return (store, .refund id attempt)
  | .fundingReconciliationHold holdId | .refundReconciliationHold _ _ holdId _ =>
    let hold ← okOr .recordNotFound (store.holds.get holdId)
    store.beginHold now hold
  | _ => throw .recordNotFound

def resolveFound (hold : ReconciliationHoldRecord) (block : Nat)
    (scanTarget : Option ReconciliationTarget) : Except StorageError SettlementStore :=
  match hold.request with
  | .depositFunding id =>
    store.resolveDepositHoldAndScan id hold.id (.fundingSucceeded block) scanTarget
  | .depositRefund id =>
    store.resolveDepositHoldAndScan id hold.id (.refundSucceeded block) scanTarget
  | .withdrawal id =>
    store.resolveWithdrawalHoldAndScan id hold.id (.succeeded block) scanTarget

def resolveAbsent (store : SettlementStore)
    (hold : ReconciliationHoldRecord) (transfer : LedgerTransferIdentity) (watermark : Nat) :
    Except StorageError SettlementStore :=
  let target := some (.hold hold.id)
  match hold.request with
  | .depositFunding id =>
    store.resolveDepositHoldAndScan id hold.id (.fundingAbsent watermark) target
  | .depositRefund id =>
    store.resolveDepositHoldAndScan id hold.id (.refundAbsent watermark
      (config.nextIdentity "KINIC-DEPOSIT-REFUND-RETRY" now hold.id transfer)) target
  | .withdrawal id =>
    store.resolveWithdrawalHoldAndScan id hold.id (.absent watermark
      (config.nextIdentity "KINIC-WITHDRAWAL-RETRY" now hold.id transfer)) target

/-- The ledger's answer to a transfer. Answers that are neither a block nor ambiguous stop
the task without a write. -/
def resumeCall (task : PayoutTask) (outcome : LedgerCallOutcome) :
    Except StorageError SettlementStore :=
  match task, outcome with
  | .release id _, .succeeded block | .release id _, .duplicate block =>
    store.applyWithdrawal id (.releaseSucceeded block)
  | .release id attempt, .ambiguous => store.parkWithdrawal id attempt.identity
  | .refund id _, .succeeded block | .refund id _, .duplicate block =>
    store.applyDeposit id (.refundSucceeded block)
  | .refund id attempt, .ambiguous =>
    store.parkDeposit id .refundAmbiguous .depositRefund fun _ => attempt.identity
  | .holdCall hold, .succeeded block | .holdCall hold, .duplicate block =>
    store.resolveFound hold block none
  | _, _ => .ok store

def resumeScan (store : SettlementStore)
    (hold : ReconciliationHoldRecord) (outcome : ReconciliationOutcome) :
    Except StorageError SettlementStore :=
  match outcome with
  | .noProgress _ => .ok store
  | .progress saved => store.putReconciliationScan saved
  | .succeeded block => do
    let current ← okOr .recordNotFound (store.holds.get hold.id)
    store.resolveFound current block (some (.hold hold.id))
  | .absent ledgerWatermark indexWatermark =>
    if indexWatermark < ledgerWatermark then .ok store
    else do
      let current ← okOr .recordNotFound (store.holds.get hold.id)
      store.resolveAbsent config now current hold.transfer indexWatermark

end SettlementStore

end KinicBridge
