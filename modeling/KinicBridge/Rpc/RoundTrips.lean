import KinicBridge.Base.Transactions
import KinicBridge.Rpc.Decoding

/-! The canister reads back what the contract wrote: hexadecimal answers, words and owners, and
from them a withdrawal's log, its stored record and the bridge's snapshot. -/
namespace KinicBridge

open Bytes Checked List StoredWithdrawal

def hexChar (digit : Nat) : Char :=
  if digit < 10 then Char.ofNat ('0'.toNat + digit) else Char.ofNat ('a'.toNat + (digit - 10))

section

variable (bytes : List UInt8)

def hexChars : List Char :=
  bytes.flatMap fun byte => [hexChar (byte.toNat / 16), hexChar (byte.toNat % 16)]

def hexAnswer (quoted : Bool) (bytes : List UInt8) : List Char :=
  if quoted then '"' :: ('0' :: 'x' :: hexChars bytes ++ ['"']) else '0' :: 'x' :: hexChars bytes

theorem hexByte_hexChar (byte : UInt8) :
    hexByte (hexChar (byte.toNat / 16)) (hexChar (byte.toNat % 16)) = some byte := by
  have digits : ∀ number : Fin 256, hexByte (hexChar (number.val / 16)) (hexChar (number.val % 16)) =
      some (UInt8.ofNat number.val) := by decide +kernel
  rw [digits ⟨byte.toNat, byte.toNat_lt⟩, UInt8.ofNat_toNat]

theorem decodeHex_hexChars : decodeHex (hexChars bytes) = .ok bytes := by
  induction bytes with
  | nil => rfl
  | cons byte bytes decoded =>
    have split : hexChars (byte :: bytes) =
        hexChar (byte.toNat / 16) :: hexChar (byte.toNat % 16) :: hexChars bytes := by
      simp [hexChars]
    rw [split, decodeHex, hexByte_hexChar, decoded]
    rfl

theorem hexChar_ne_quote : ∀ digit < 16, hexChar digit ≠ '"' := by
  decide +kernel

theorem quote_notMem_hexChars : '"' ∉ hexChars bytes := by
  intro quoted
  obtain ⟨byte, -, found⟩ := mem_flatMap.mp quoted
  have bounded := byte.toNat_lt
  simp only [mem_cons, not_mem_nil, or_false] at found
  rcases found with high | low
  · exact hexChar_ne_quote _ (by omega) high.symm
  · exact hexChar_ne_quote _ (by omega) low.symm

end

theorem dropWhile_quote {value : List Char} (plain : '"' ∉ value) :
    value.dropWhile (· = '"') = value := by
  cases value with
  | nil => rfl
  | cons first rest =>
    have different : first ≠ '"' := fun same => plain (by simp [same])
    simp [different]

theorem decodeAnswer_hexAnswer (quoted : Bool) (bytes : List UInt8) :
    decodeAnswer (hexAnswer quoted bytes) = .ok bytes := by
  have plain : '"' ∉ '0' :: 'x' :: hexChars bytes := by simp [quote_notMem_hexChars]
  have trimmed : trimQuotes (hexAnswer quoted bytes) = '0' :: 'x' :: hexChars bytes := by
    have reversed := dropWhile_quote (mt mem_reverse.mp plain)
    cases quoted with
    | false =>
      rw [trimQuotes, hexAnswer, if_neg Bool.false_ne_true, dropWhile_quote plain, reversed,
        reverse_reverse]
    | true =>
      have opened : (hexAnswer true bytes).dropWhile (· = '"') =
          '0' :: 'x' :: hexChars bytes ++ ['"'] := by simp [hexAnswer]
      have closed : ('"' :: ('0' :: 'x' :: hexChars bytes).reverse).dropWhile (· = '"') =
          ('0' :: 'x' :: hexChars bytes).reverse := by
        rw [dropWhile_cons_of_pos (by simp), reversed]
      rw [trimQuotes, opened, reverse_append]
      simpa using congrArg reverse closed
  rw [decodeAnswer, trimmed, stripHexPrefix, ok_bind, decodeHex_hexChars]

section

variable (words : List Nat)

theorem abiEncode_append_word (value : Nat) (rest : List UInt8) :
    abiEncode words ++ (ofNat 32 value ++ rest) = abiEncode (words ++ [value]) ++ rest := by
  simp [abiEncode]

theorem abiEncode_sized : ∀ word ∈ words.map (ofNat 32), word.length = 32 := by
  simp

theorem length_abiEncode : (abiEncode words).length = words.length * 32 := by
  rw [abiEncode, length_flatten (abiEncode_sized words), length_map]

end

theorem abiWord_abiEncode {words : List Nat} (found : words[i]? = some value) (tail : List UInt8) :
    abiWord (abiEncode words ++ tail) i = .ok (ofNat 32 value) := by
  have bounded : i < words.length := (List.getElem?_eq_some_iff.mp found).1
  have long : (i + 1) * abiWordBytes ≤ (abiEncode words ++ tail).length := by
    rw [List.length_append, length_abiEncode, abiWordBytes]
    omega
  unfold abiWord
  rw [if_pos long]
  congr 1
  exact take_drop_flatten (abiEncode_sized words) (by simp [found]) tail

theorem wordU128_ofNat (fits : value ≤ limit 128) : wordU128 (ofNat 32 value) = .ok value := by
  have small : value < 256 ^ 16 := by
    have : limit 128 < 256 ^ 16 := by decide
    omega
  have split : ofNat 32 value = replicate 16 0 ++ ofNat 16 value :=
    ofNat_add 16 small
  unfold wordU128
  rw [split]
  simp [toNat_ofNat small]

theorem wordWithin_ofNat (fits : value ≤ limit width) (narrow : width ≤ 128) :
    wordWithin width (ofNat 32 value) = .ok value := by
  have wide : limit width ≤ limit 128 :=
    Nat.sub_le_sub_right (Nat.pow_le_pow_right (by decide) narrow) 1
  simp [wordWithin, wordU128_ofNat (fits.trans wide), fits, ok_bind, pure, Except.pure]

theorem wordAddress_ofNat (address : Bytes20) :
    wordAddress (ofNat 32 address.toNat) = .ok address := by
  have small : address.toNat < 256 ^ 20 := by
    have : (256 : Nat) ^ 20 = 2 ^ 160 := by norm_num
    rw [this]
    exact address.isLt
  have split : ofNat 32 address.toNat =
      replicate 12 0 ++ ofNat 20 address.toNat := ofNat_add 12 small
  unfold wordAddress
  rw [split]
  simp [toNat_ofNat small]

theorem wordBytes32_ofNat (word : Bytes32) : wordBytes32 (ofNat 32 word.toNat) = word := by
  have small : word.toNat < 256 ^ 32 := by
    have : (256 : Nat) ^ 32 = 2 ^ 256 := by norm_num
    rw [this]
    exact word.isLt
  rw [wordBytes32, toNat_ofNat small, BitVec.ofNat_toNat, BitVec.setWidth_eq]

theorem wordBool_ofNat (flag : Bool) : wordBool (ofNat 32 flag.toNat) = .ok flag := by
  have fits : flag.toNat ≤ limit 128 := by cases flag <;> decide
  rw [wordBool, wordU128_ofNat fits, ok_bind]
  cases flag <;> rfl

section Owner

variable (words : List Nat) {owner : List UInt8} (nonempty : 1 ≤ owner.length)
  (short : owner.length ≤ 29)

theorem abiEncode_abiBytes : abiEncode words ++ abiBytes owner =
    abiEncode (words ++ [owner.length]) ++ (owner ++
      replicate ((owner.length + 31) / 32 * 32 - owner.length) 0) := by
  rw [abiBytes, append_assoc, abiEncode_append_word]

theorem abiWord_abiBytes (found : (words ++ [owner.length])[i]? = some value) :
    abiWord (abiEncode words ++ abiBytes owner) i = .ok (ofNat 32 value) := by
  rw [abiEncode_abiBytes]
  exact abiWord_abiEncode found _

include nonempty short

theorem length_abiBytes :
    (abiEncode words ++ abiBytes owner).length = (words.length + 2) * abiWordBytes := by
  simp only [abiBytes, length_append, length_abiEncode, length_ofNat,
    length_replicate, abiWordBytes]
  omega

theorem decodeOwner_abiBytes :
    decodeOwner (abiEncode words ++ abiBytes owner) ((words.length + 1) * abiWordBytes)
      owner.length = .ok owner := by
  have long : (abiEncode (words ++ [owner.length])).length = (words.length + 1) * abiWordBytes := by
    rw [length_abiEncode, length_append]
    rfl
  have whole : (abiEncode words ++ abiBytes owner).length = (words.length + 1) * abiWordBytes +
      (owner.length + abiWordBytes - 1) / abiWordBytes * abiWordBytes := by
    rw [length_abiBytes words nonempty short, abiWordBytes]
    omega
  have padding : ((abiEncode words ++ abiBytes owner).drop
      ((words.length + 1) * abiWordBytes + owner.length)).any (· ≠ 0) = false := by
    rw [abiEncode_abiBytes, ← long, ← append_assoc, ← length_append, drop_left]
    simp
  have read : ((abiEncode words ++ abiBytes owner).drop
      ((words.length + 1) * abiWordBytes)).take owner.length = owner := by
    rw [abiEncode_abiBytes, ← long, drop_left, take_left]
  have bounds : 1 ≤ owner.length ∧ owner.length ≤ 29 := ⟨nonempty, short⟩
  simp only [decodeOwner, bounds, whole, padding, read, and_self, not_true_eq_false, if_false,
    ne_eq, Bool.false_eq_true, or_self]
  rfl

end Owner

def StoredWithdrawal.observed (withdrawal : StoredWithdrawal) (id : Nat) : ObservedWithdrawal where
  id := BitVec.ofNat 256 id
  requester := withdrawal.requester
  amount := withdrawal.amount
  maxServiceFee := withdrawal.maxServiceFee
  chargedServiceFee := withdrawal.chargedServiceFee
  amountOut := withdrawal.amountOut
  owner := withdrawal.owner
  subaccount := withdrawal.subaccount

def StoredWithdrawal.current (withdrawal : StoredWithdrawal) : CurrentWithdrawal where
  requester := withdrawal.requester
  amount := withdrawal.amount
  maxServiceFee := withdrawal.maxServiceFee
  chargedServiceFee := withdrawal.chargedServiceFee
  amountOut := withdrawal.amountOut
  owner := withdrawal.owner
  subaccount := withdrawal.subaccount
  status := 1

section Withdrawal

variable {withdrawal : StoredWithdrawal} (formed : withdrawal.WellFormed) (id : Nat)

include formed

theorem decodeWithdrawalCreatedLog_committed {log : LogEntry}
    (topics : log.topics = (withdrawal.committedLog keccak bridge id).topics)
    (data : log.data = withdrawal.committedData) :
    decodeWithdrawalCreatedLog log = .ok (withdrawal.observed id) := by
  obtain ⟨nonempty, short⟩ := formed.owner_length
  have long : ¬log.data.length < 8 * abiWordBytes := by
    rw [data, committedData, length_abiBytes _ nonempty short]
    simp
  have owner : decodeOwner log.data (7 * abiWordBytes) withdrawal.owner.length =
      .ok withdrawal.owner := by
    rw [data]
    exact decodeOwner_abiBytes _ nonempty short
  have word : ∀ {i value}, [withdrawal.amount, withdrawal.maxServiceFee,
      withdrawal.chargedServiceFee, withdrawal.amountOut, 6 * 32, withdrawal.subaccount.toNat,
      withdrawal.owner.length][i]? = some value → abiWord log.data i = .ok (ofNat 32 value) :=
    fun found => by rw [data]; exact abiWord_abiBytes _ found
  have offset : wordUsize (ofNat 32 (6 * 32)) = .ok (6 * abiWordBytes) :=
    wordWithin_ofNat (by decide) (by decide)
  have length : wordUsize (ofNat 32 withdrawal.owner.length) = .ok withdrawal.owner.length :=
    wordWithin_ofNat (short.trans (by decide)) (by decide)
  unfold decodeWithdrawalCreatedLog
  simp only [long, word (i := 0) rfl, word (i := 1) rfl, word (i := 2) rfl, word (i := 3) rfl,
    word (i := 4) rfl, word (i := 5) rfl, word (i := 6) rfl, if_false, ok_bind, offset,
    length, owner, topics, committedLog, wordU128_ofNat formed.amount,
    wordU128_ofNat formed.maximum, wordU128_ofNat formed.charged, wordU128_ofNat formed.amountOut,
    wordBytes32_ofNat, ne_eq, not_true_eq_false]
  simp [okOr, ok_bind, observed, pure, Except.pure]

theorem decodeCurrentWithdrawal_returned (quoted : Bool) :
    decodeCurrentWithdrawal (hexAnswer quoted withdrawal.returned) = .ok withdrawal.current := by
  obtain ⟨nonempty, short⟩ := formed.owner_length
  have long : ¬withdrawal.returned.length < 10 * abiWordBytes := by
    rw [returned, length_abiBytes _ nonempty short]
    simp [abiWordBytes]
  have owner : decodeOwner withdrawal.returned (10 * abiWordBytes) withdrawal.owner.length =
      .ok withdrawal.owner := decodeOwner_abiBytes _ nonempty short
  have word : ∀ {i value}, [32, withdrawal.requester.toNat, withdrawal.amount,
      withdrawal.maxServiceFee, withdrawal.chargedServiceFee, withdrawal.amountOut, 8 * 32,
      withdrawal.subaccount.toNat, 1, withdrawal.owner.length][i]? = some value →
      abiWord withdrawal.returned i = .ok (ofNat 32 value) :=
    fun found => abiWord_abiBytes _ found
  have first : withdrawal.returned.take abiWordBytes = ofNat 32 32 := by
    have := word (i := 0) rfl
    rw [abiWord, if_pos (by omega)] at this
    simpa using Except.ok.inj this
  have start : wordU128 (ofNat 32 32) = .ok abiWordBytes := wordU128_ofNat (by decide)
  have status : wordU128 (ofNat 32 1) = .ok 1 := wordU128_ofNat (by decide)
  have offset : wordUsize (ofNat 32 (8 * 32)) = .ok (8 * abiWordBytes) :=
    wordWithin_ofNat (by decide) (by decide)
  have length : wordUsize (ofNat 32 withdrawal.owner.length) = .ok withdrawal.owner.length :=
    wordWithin_ofNat (short.trans (by decide)) (by decide)
  unfold decodeCurrentWithdrawal
  simp only [decodeAnswer_hexAnswer, long, first, start, status, word (i := 1) rfl,
    word (i := 2) rfl, word (i := 3) rfl, word (i := 4) rfl, word (i := 5) rfl, word (i := 6) rfl,
    word (i := 7) rfl, word (i := 8) rfl, word (i := 9) rfl, if_false, ok_bind, offset,
    length, owner, wordU128_ofNat formed.amount, wordAddress_ofNat,
    wordU128_ofNat formed.maximum, wordU128_ofNat formed.charged, wordU128_ofNat formed.amountOut,
    wordBytes32_ofNat, ne_eq, not_true_eq_false]
  rfl

end Withdrawal

def BridgeState.snapshot (params : BridgeParameters) (number timestamp : Nat)
    (state : BridgeState) : BridgeSnapshot where
  mint := {
    finalizedHeadBlockNumber := number
    confirmedBlockTimestamp := timestamp
    serviceFee := state.serviceFee
    maxServiceFee := params.maxServiceFee
    perDepositLimit := params.perDepositLimit
    mintWindowLimit := params.mintWindowLimit
    mintWindowStartedAt := state.mintWindowStartedAt
    mintWindowDuration := params.mintWindowDuration
    mintedInWindow := state.mintedInWindow }
  bridgeSigner := state.bridgeSigner
  mintAuthorizationEpoch := state.mintAuthorizationEpoch
  depositsPaused := state.depositMintsPaused
  withdrawalsPaused := state.withdrawalsPaused

section Snapshot

variable {params : BridgeParameters} {number timestamp : Nat} {state : BridgeState}

theorem abiWord_snapshot (found : [number, timestamp, state.bridgeSigner.toNat,
    state.mintAuthorizationEpoch, state.serviceFee, params.maxServiceFee,
    params.perDepositLimit, params.mintWindowLimit, params.mintWindowDuration,
    state.mintWindowStartedAt, state.mintedInWindow, state.depositMintsPaused.toNat,
    state.withdrawalsPaused.toNat][i]? = some value) :
    abiWord (state.bridgeSnapshot params number timestamp) i = .ok (ofNat 32 value) := by
  have word := abiWord_abiEncode found []
  rwa [append_nil] at word

theorem decodeBridgeSnapshot_signer {quoted : Bool} (decoded : decodeBridgeSnapshot
      (hexAnswer quoted (state.bridgeSnapshot params number timestamp)) = .ok snapshot) :
    snapshot.bridgeSigner = state.bridgeSigner := by
  rw [decodeBridgeSnapshot, decodeAnswer_hexAnswer, ok_bind] at decoded
  obtain ⟨_, decoded⟩ := thrown_ok.mp decoded
  rw [abiWord_snapshot (i := 2) rfl, ok_bind, wordAddress_ofNat, ok_bind] at decoded
  iterate 24 obtain ⟨_, _, decoded⟩ := bind_ok.mp decoded
  cases pure_ok.mp decoded
  rfl

theorem decodeBridgeSnapshot_snapshot (quoted : Bool) (sound : state.Sound params timestamp)
    (numbered : number ≤ limit 64) (timed : timestamp ≤ limit 64)
    (epoch : state.mintAuthorizationEpoch ≤ limit 64) :
    decodeBridgeSnapshot (hexAnswer quoted (state.bridgeSnapshot params number timestamp)) =
      .ok (state.snapshot params number timestamp) := by
  have long : (state.bridgeSnapshot params number timestamp).length = 13 * abiWordBytes :=
    length_abiEncode _
  obtain ⟨deposit, window, fee⟩ := params.fits
  have u64 : ∀ {value}, value ≤ limit 64 → wordU64 (ofNat 32 value) = .ok value :=
    fun fits => wordWithin_ofNat fits (by decide)
  have duration : params.mintWindowDuration ≤ limit 64 :=
    params.duration_bounded.2.trans (by decide)
  unfold decodeBridgeSnapshot
  simp only [decodeAnswer_hexAnswer, long, abiWord_snapshot (i := 0) rfl,
    abiWord_snapshot (i := 1) rfl, abiWord_snapshot (i := 2) rfl, abiWord_snapshot (i := 3) rfl,
    abiWord_snapshot (i := 4) rfl, abiWord_snapshot (i := 5) rfl, abiWord_snapshot (i := 6) rfl,
    abiWord_snapshot (i := 7) rfl, abiWord_snapshot (i := 8) rfl, abiWord_snapshot (i := 9) rfl,
    abiWord_snapshot (i := 10) rfl, abiWord_snapshot (i := 11) rfl, abiWord_snapshot (i := 12) rfl,
    if_false, ok_bind, ne_eq, not_true_eq_false, wordAddress_ofNat,
    wordBool_ofNat, u64 numbered, u64 timed, u64 epoch, u64 duration,
    u64 (sound.started.trans timed), wordU128_ofNat (sound.fee.trans fee), wordU128_ofNat fee,
    wordU128_ofNat deposit, wordU128_ofNat window, wordU128_ofNat (sound.consumed.trans window)]
  rfl

end Snapshot

end KinicBridge
