import KinicBridge.Library.Bytes
import KinicBridge.Rpc.Quorum

/-! What the canister reads out of the answers about Base: the words of an ABI encoding, the
bridge's snapshot, and a withdrawal as its log and as its stored record. -/
namespace KinicBridge

open Checked

def abiWordBytes : Nat := 32

def hexDigit (digit : Char) : Option Nat :=
  if '0' ≤ digit ∧ digit ≤ '9' then some (digit.toNat - '0'.toNat)
  else if 'a' ≤ digit ∧ digit ≤ 'f' then some (digit.toNat - 'a'.toNat + 10)
  else if 'A' ≤ digit ∧ digit ≤ 'F' then some (digit.toNat - 'A'.toNat + 10)
  else none

/-- `u8::from_str_radix` of two characters; the first may be a sign. -/
def hexByte (high low : Char) : Option UInt8 :=
  if high = '+' then (hexDigit low).map UInt8.ofNat
  else (hexDigit high).bind fun high => (hexDigit low).map fun low => UInt8.ofNat (16 * high + low)

def decodeHex : List Char → Except ObservationError (List UInt8)
  | [] => .ok []
  | [_] => .error .invalidResponse
  | high :: low :: rest => do
    let byte ← okOr .invalidResponse (hexByte high low)
    let bytes ← decodeHex rest
    return byte :: bytes

def trimQuotes (value : List Char) : List Char :=
  ((value.dropWhile (· = '"')).reverse.dropWhile (· = '"')).reverse

def stripHexPrefix : List Char → Except ObservationError (List Char)
  | '0' :: 'x' :: rest => .ok rest
  | _ => .error .invalidResponse

def decodeAnswer (value : List Char) : Except ObservationError (List UInt8) := do
  decodeHex (← stripHexPrefix (trimQuotes value))

def abiWord (bytes : List UInt8) (index : Nat) : Except ObservationError (List UInt8) :=
  if (index + 1) * abiWordBytes ≤ bytes.length then
    .ok ((bytes.drop (index * abiWordBytes)).take abiWordBytes)
  else .error .invalidResponse

variable (word : List UInt8)

def wordU128 : Except ObservationError Nat :=
  if word.length ≠ 32 ∨ (word.take 16).any (· ≠ 0) then .error .overflow
  else .ok (Bytes.toNat (word.drop 16))

def wordWithin (width : Nat) (word : List UInt8) : Except ObservationError Nat := do
  let value ← wordU128 word
  if value ≤ limit width then return value else throw .overflow

def wordU64 : Except ObservationError Nat := wordWithin 64 word

/-- Offsets and lengths are 32 bits wide in the canister. -/
def wordUsize : Except ObservationError Nat := wordWithin 32 word

def wordAddress : Except ObservationError Bytes20 :=
  if (word.take 12).any (· ≠ 0) then .error .invalidResponse
  else .ok (BitVec.ofNat 160 (Bytes.toNat (word.drop 12)))

def wordBool : Except ObservationError Bool := do
  match ← wordU128 word with
  | 0 => return false
  | 1 => return true
  | _ => throw .invalidResponse

structure BaseMintSnapshot where
  finalizedHeadBlockNumber : Nat
  confirmedBlockTimestamp : Nat
  serviceFee : Nat
  maxServiceFee : Nat
  perDepositLimit : Nat
  mintWindowLimit : Nat
  mintWindowStartedAt : Nat
  mintWindowDuration : Nat
  mintedInWindow : Nat
  deriving DecidableEq

structure BridgeSnapshot where
  mint : BaseMintSnapshot
  bridgeSigner : Bytes20
  mintAuthorizationEpoch : Nat
  depositsPaused : Bool
  withdrawalsPaused : Bool
  deriving DecidableEq

variable (value : List Char)

def decodeBridgeSnapshot : Except ObservationError BridgeSnapshot := do
  let bytes ← decodeAnswer value
  if bytes.length ≠ 13 * abiWordBytes then throw .invalidResponse
  let bridgeSigner ← wordAddress (← abiWord bytes 2)
  return {
    mint := {
      finalizedHeadBlockNumber := ← wordU64 (← abiWord bytes 0)
      confirmedBlockTimestamp := ← wordU64 (← abiWord bytes 1)
      serviceFee := ← wordU128 (← abiWord bytes 4)
      maxServiceFee := ← wordU128 (← abiWord bytes 5)
      perDepositLimit := ← wordU128 (← abiWord bytes 6)
      mintWindowLimit := ← wordU128 (← abiWord bytes 7)
      mintWindowDuration := ← wordU64 (← abiWord bytes 8)
      mintWindowStartedAt := ← wordU64 (← abiWord bytes 9)
      mintedInWindow := ← wordU128 (← abiWord bytes 10) }
    bridgeSigner
    mintAuthorizationEpoch := ← wordU64 (← abiWord bytes 3)
    depositsPaused := ← wordBool (← abiWord bytes 11)
    withdrawalsPaused := ← wordBool (← abiWord bytes 12) }

structure ObservedWithdrawal where
  id : Bytes32
  requester : Bytes20
  amount : Nat
  maxServiceFee : Nat
  chargedServiceFee : Nat
  amountOut : Nat
  owner : List UInt8
  subaccount : Bytes32
  deriving DecidableEq

structure CurrentWithdrawal where
  requester : Bytes20
  amount : Nat
  maxServiceFee : Nat
  chargedServiceFee : Nat
  amountOut : Nat
  owner : List UInt8
  subaccount : Bytes32
  status : Nat
  deriving DecidableEq

def wordBytes32 : Bytes32 := BitVec.ofNat 256 (Bytes.toNat word)

/-- The owner behind a tail of fixed words, padded with zeros to a whole word. -/
def decodeOwner (bytes : List UInt8) (start length : Nat) :
    Except ObservationError (List UInt8) := do
  if ¬(1 ≤ length ∧ length ≤ 29) then throw .invalidResponse
  let expected := start + (length + abiWordBytes - 1) / abiWordBytes * abiWordBytes
  if bytes.length ≠ expected ∨ (bytes.drop (start + length)).any (· ≠ 0) then
    throw .invalidResponse
  return (bytes.drop start).take length

def decodeWithdrawalCreatedLog (log : LogEntry) : Except ObservationError ObservedWithdrawal := do
  let data := log.data
  if data.length < 8 * abiWordBytes then throw .invalidResponse
  if (← wordUsize (← abiWord data 4)) ≠ 6 * abiWordBytes then throw .invalidResponse
  let owner ← decodeOwner data (7 * abiWordBytes) (← wordUsize (← abiWord data 6))
  let id ← okOr .invalidResponse log.topics[1]?
  let requester ← okOr .invalidResponse log.topics[2]?
  return {
    id
    requester := BitVec.ofNat 160 requester.toNat
    amount := ← wordU128 (← abiWord data 0)
    maxServiceFee := ← wordU128 (← abiWord data 1)
    chargedServiceFee := ← wordU128 (← abiWord data 2)
    amountOut := ← wordU128 (← abiWord data 3)
    owner
    subaccount := wordBytes32 (← abiWord data 5) }

def decodeCurrentWithdrawal : Except ObservationError CurrentWithdrawal := do
  let bytes ← decodeAnswer value
  if bytes.length < 10 * abiWordBytes then throw .invalidResponse
  if (← wordU128 (bytes.take abiWordBytes)) ≠ abiWordBytes then throw .invalidResponse
  -- the tuple starts behind its offset
  let requester ← wordAddress (← abiWord bytes 1)
  if (← wordUsize (← abiWord bytes 6)) ≠ 8 * abiWordBytes then throw .invalidResponse
  let owner ← decodeOwner bytes (10 * abiWordBytes) (← wordUsize (← abiWord bytes 9))
  let status ← wordU128 (← abiWord bytes 8)
  if limit 8 < status then throw .invalidResponse
  return {
    requester
    amount := ← wordU128 (← abiWord bytes 2)
    maxServiceFee := ← wordU128 (← abiWord bytes 3)
    chargedServiceFee := ← wordU128 (← abiWord bytes 4)
    amountOut := ← wordU128 (← abiWord bytes 5)
    owner
    subaccount := wordBytes32 (← abiWord bytes 7)
    status }

end KinicBridge
