import KinicBridge.Base.Bridge
import KinicBridge.CrossChain.Digest

/-! What the contract shows of itself, byte by byte: the log of a withdrawal and the answers to
`getWithdrawal` and `bridgeSnapshot`, in the ABI encoding. -/
namespace KinicBridge

structure ContractLog where
  address : Bytes20
  topics : List Bytes32
  data : List UInt8
  deriving DecidableEq

/-- The signature whose hash is the first topic of `WithdrawalCommitted`. -/
def withdrawalCommittedEvent : List UInt8 := asBytes
  "WithdrawalCommitted(uint256,address,uint256,uint256,uint256,uint256,bytes,bytes32)"

/-- A `bytes` value in the tail of an encoding: its length, and its bytes padded to whole words. -/
def abiBytes (bytes : List UInt8) : List UInt8 :=
  Bytes.ofNat 32 bytes.length ++ bytes ++
    List.replicate ((bytes.length + 31) / 32 * 32 - bytes.length) 0

namespace StoredWithdrawal

variable (withdrawal : StoredWithdrawal)

def amountOut : Nat :=
  withdrawal.amount - withdrawal.chargedServiceFee

def committedData : List UInt8 :=
  abiEncode [withdrawal.amount, withdrawal.maxServiceFee, withdrawal.chargedServiceFee,
    withdrawal.amountOut, 6 * 32, withdrawal.subaccount.toNat] ++ abiBytes withdrawal.owner

def committedLog (keccak : Keccak) (bridge : Bytes20) (id : Nat) (withdrawal : StoredWithdrawal) :
    ContractLog where
  address := bridge
  topics := [keccak withdrawalCommittedEvent, BitVec.ofNat 256 id,
    withdrawal.requester.setWidth 256]
  data := withdrawal.committedData

/-- The answer for a withdrawal that exists: a dynamic tuple, with the status `Committed`. -/
def returned : List UInt8 :=
  abiEncode [32, withdrawal.requester.toNat, withdrawal.amount, withdrawal.maxServiceFee,
    withdrawal.chargedServiceFee, withdrawal.amountOut, 8 * 32, withdrawal.subaccount.toNat, 1] ++
    abiBytes withdrawal.owner

end StoredWithdrawal

namespace BridgeState

/-- An unknown withdrawal has no owner and the status `None`. -/
def getWithdrawal (state : BridgeState) (id : Nat) : List UInt8 :=
  match state.withdrawals id with
  | some withdrawal => withdrawal.returned
  | none => abiEncode [32, 0, 0, 0, 0, 0, 8 * 32, 0, 0] ++ abiBytes []

def bridgeSnapshot (params : BridgeParameters) (number timestamp : Nat) (state : BridgeState) :
    List UInt8 :=
  abiEncode [number, timestamp, state.bridgeSigner.toNat, state.mintAuthorizationEpoch,
    state.serviceFee, params.maxServiceFee, params.perDepositLimit,
    params.mintWindowLimit, params.mintWindowDuration, state.mintWindowStartedAt,
    state.mintedInWindow, state.depositMintsPaused.toNat, state.withdrawalsPaused.toNat]

end BridgeState

end KinicBridge
