import KinicBridge.Core.Kernel

/-! Mint authorizations: the payload the canister signs, the durable record of its
signature, and the Base evidence a deposit stores when it is minted or refunded. -/
namespace KinicBridge

def mintAuthorizationTtlSeconds : Nat := 15 * 60
def mintAuthorizationDomainName : String := "KINIC Bridge"
def mintAuthorizationDomainVersion : String := "1"

structure MintAuthorizationDomain where
  name : String
  version : String
  chainId : Nat
  verifyingContract : Bytes20
  deriving DecidableEq

structure MintAuthorization where
  depositId : Bytes32
  recipient : Bytes20
  grossAmount : Nat
  maxServiceFee : Nat
  chargedServiceFee : Nat
  deadline : Nat
  authorizationEpoch : Nat
  deriving DecidableEq

structure MintAuthorizationOrigin where
  finalizedBlockNumber : Nat
  finalizedBlockHash : Bytes32
  finalizedBlockTimestamp : Nat
  issuedAtTimestamp : Nat
  deriving DecidableEq

/-- Proof that an authorization can no longer be accepted on Base. The signer and the
epoch are observations; a refund waits for the original deadline all the same. -/
structure MintExpiryEvidence where
  depositId : Bytes32
  authorizationDigest : Bytes32
  chainId : Nat
  verifyingContract : Bytes20
  depositProcessed : Bool
  finalizedBlockNumber : Nat
  finalizedBlockHash : Bytes32
  finalizedBlockTimestamp : Nat
  bridgeSigner : Bytes20
  mintAuthorizationEpoch : Nat
  runtimeSha256 : Bytes32
  rpcRequestDigest : Bytes32
  rpcResponseDigest : Bytes32
  deriving DecidableEq

/-- Proof binding a minted deposit to one authorization, receipt and finalized head. -/
structure MintFinalizationEvidence where
  depositId : Bytes32
  recipient : Bytes20
  authorizationDigest : Bytes32
  chainId : Nat
  verifyingContract : Bytes20
  grossAmount : Nat
  chargedServiceFee : Nat
  mintedAmount : Nat
  transactionHash : Bytes32
  logIndex : Nat
  receiptSucceeded : Bool
  receiptBlockNumber : Nat
  receiptBlockHash : Bytes32
  finalizedBlockNumber : Nat
  finalizedBlockHash : Bytes32
  rpcRequestDigest : Bytes32
  rpcResponseDigest : Bytes32
  deriving DecidableEq

structure MintAuthorizationRecord where
  authorization : MintAuthorization
  domain : MintAuthorizationDomain
  digest : Bytes32
  origin : MintAuthorizationOrigin
  signatureDispatchAttempt : Nat
  signatureDispatched : Bool
  signature : Option (List UInt8)
  deriving DecidableEq

namespace MintAuthorizationRecord

variable (record : MintAuthorizationRecord)

/-- Recorded before the threshold signature is requested; a signed record refuses. -/
def dispatchSignature : Option MintAuthorizationRecord :=
  if record.signature.isSome then none
  else (Checked.add 32 record.signatureDispatchAttempt 1).map fun attempt =>
    { record with signatureDispatchAttempt := attempt, signatureDispatched := true }

def installSignature (signature : List UInt8) : Option MintAuthorizationRecord :=
  if signature.length ≠ 65 ∨ record.signature.isSome ∨ record.signatureDispatched = false then none
  else some { record with signature := some signature }

theorem dispatch_eq_some {record next : MintAuthorizationRecord}
    (dispatched : record.dispatchSignature = some next) : record.signature = none ∧ ∃ attempt,
      next = { record with signatureDispatchAttempt := attempt, signatureDispatched := true } := by
  unfold dispatchSignature at dispatched
  split at dispatched
  · contradiction
  next unsigned =>
    obtain ⟨attempt, _, rfl⟩ := Option.map_eq_some_iff.mp dispatched
    exact ⟨Option.not_isSome_iff_eq_none.mp unsigned, attempt, rfl⟩

theorem install_eq_some {record next : MintAuthorizationRecord} {signature : List UInt8}
    (installed : record.installSignature signature = some next) :
    record.signature = none ∧ record.signatureDispatched = true ∧
      next = { record with signature := some signature } := by
  unfold installSignature at installed
  split at installed
  · contradiction
  next fresh =>
    simp only [not_or, Bool.not_eq_false] at fresh
    exact ⟨Option.not_isSome_iff_eq_none.mp fresh.2.1, fresh.2.2, (Option.some.inj installed).symm⟩

end MintAuthorizationRecord

end KinicBridge
