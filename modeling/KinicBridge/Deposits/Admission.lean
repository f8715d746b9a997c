import KinicBridge.Settlement.Payout

/-! What a deposit passes before tokens are pulled and before an authorization is committed: the
checks of `request_deposit`, the Base snapshot and `commit_deposit_authorization`. -/
namespace KinicBridge

inductive DepositError where
  | invalidRequest (message : String)
  | baseObservationUnavailable
  | rejected (reason : String)
  | storageFailure
  deriving DecidableEq

structure DepositArgs where
  ownerSequence : Nat
  baseRecipient : List UInt8
  fromSubaccount : Option (List UInt8)
  grossAmount : Nat
  maxServiceFee : Nat

structure ValidatedDepositArgs where
  ownerSequence : Nat
  baseRecipient : List UInt8
  fromSubaccount : List UInt8
  grossAmount : Nat
  maxServiceFee : Nat

def boundedAmount (value : Nat) : Except DepositError Nat :=
  Checked.okOr (.invalidRequest "amount exceeds u128") (natU128 value)

def validSubaccount : Option (List UInt8) → Except DepositError (List UInt8)
  | none => .ok (List.replicate 32 0)
  | some bytes =>
    if bytes.length = 32 then .ok bytes
    else .error (.invalidRequest "from_subaccount must be 32 bytes")

variable (config : BridgeConfig)

def validateDepositArgs (caller : List UInt8) (args : DepositArgs) :
    Except DepositError ValidatedDepositArgs :=
  if caller = [4] then .error (.invalidRequest "anonymous caller is not allowed")
  else if args.baseRecipient.length ≠ 20 then
    .error (.invalidRequest "base_recipient must be 20 bytes")
  else if args.baseRecipient = List.replicate 20 0 then
    .error (.invalidRequest "zero Base recipient is not allowed")
  else do
    let fromSubaccount ← validSubaccount args.fromSubaccount
    let grossAmount ← boundedAmount args.grossAmount
    let maxServiceFee ← boundedAmount args.maxServiceFee
    if grossAmount ≤ config.ledgerFee then
      throw (.invalidRequest "gross_amount must exceed the fixed ledger fee")
    return ⟨args.ownerSequence, args.baseRecipient, fromSubaccount, grossAmount, maxServiceFee⟩

theorem validateDepositArgs_ok {config : BridgeConfig} {args : DepositArgs}
    (valid : validateDepositArgs config caller args = .ok checked) :
    config.ledgerFee < checked.grossAmount ∧ checked.grossAmount ≤ Checked.limit 128 := by
  obtain ⟨_, rest⟩ := guarded_ok.mp valid
  obtain ⟨_, rest⟩ := guarded_ok.mp rest
  obtain ⟨_, rest⟩ := guarded_ok.mp rest
  obtain ⟨_, _, rest⟩ := bind_ok.mp rest
  obtain ⟨gross, present, rest⟩ := found_ok.mp rest
  obtain ⟨_, _, rest⟩ := bind_ok.mp rest
  have fits : gross ≤ Checked.limit 128 := by
    unfold natU128 at present
    split at present <;> cases present
    assumption
  split at rest
  · exact absurd rest throw_ne_ok
  next enough =>
    cases pure_ok.mp rest
    exact ⟨Nat.lt_of_not_le enough, fits⟩

/-- The Base deployment the canister was installed for, and what was attested of it. -/
structure Deployment where
  baseChainId : Nat
  bridgeContract : Bytes20
  expectedBridgeRuntimeSha256 : Bytes32
  expectedBsnsRuntimeSha256 : Bytes32
  deriving DecidableEq

structure ActivationAttestation where
  chainId : Nat
  bridgeRuntimeSha256 : Bytes32
  bsnsRuntimeSha256 : Bytes32
  bsnsBridge : Bytes20
  bsnsAddress : Bytes20
  deriving DecidableEq

def Kernel.depositRecipientAllowed (isZero isBridge isToken : Bool) : Bool :=
  !isZero && !isBridge && !isToken

def depositRecipientAllowed (deployment : Deployment) (attestation : Option ActivationAttestation)
    (recipient : Bytes20) : Except DepositError Bool :=
  match attestation with
  | none => .error .baseObservationUnavailable
  | some attested =>
    if attested.chainId ≠ deployment.baseChainId ∨
        attested.bridgeRuntimeSha256 ≠ deployment.expectedBridgeRuntimeSha256 ∨
        attested.bsnsRuntimeSha256 ≠ deployment.expectedBsnsRuntimeSha256 ∨
        attested.bsnsBridge ≠ deployment.bridgeContract ∨ attested.bsnsAddress = 0 then
      .error .baseObservationUnavailable
    else .ok (Kernel.depositRecipientAllowed (recipient == 0)
      (recipient == deployment.bridgeContract) (recipient == attested.bsnsAddress))

/-- Why an authorization that is not signed yet must not be signed: its recipient, or an amount
that would leave nothing to refund. -/
def unsignedAuthorizationRejection (deployment : Deployment)
    (attestation : Option ActivationAttestation) (record : MintAuthorizationRecord) :
    Except DepositError (Option DepositRefundReason) :=
  if record.signature.isSome then .ok none
  else do
    let allowed ← depositRecipientAllowed deployment attestation record.authorization.recipient
    if allowed = false then return some .invalidRecipient
    if (Kernel.depositRefundAmount record.authorization.grossAmount
        record.authorization.chargedServiceFee config.ledgerFee).isNone then
      return some .refundAmountTooSmall
    return none

theorem unrejected_refundable {config : BridgeConfig} {record : MintAuthorizationRecord}
    (unsigned : record.signature = none)
    (passed : unsignedAuthorizationRejection config deployment attestation record = .ok none) :
    record.authorization.chargedServiceFee + config.ledgerFee <
      record.authorization.grossAmount := by
  simp only [unsignedAuthorizationRejection, unsigned, Option.isSome_none, Bool.false_eq_true,
    if_false] at passed
  obtain ⟨allowed, _, rest⟩ := bind_ok.mp passed
  split at rest
  · cases pure_ok.mp rest
  split at rest
  · cases pure_ok.mp rest
  next refundable =>
    unfold Kernel.depositRefundAmount at refundable
    split at refundable
    · simp at refundable
    · omega

end KinicBridge
