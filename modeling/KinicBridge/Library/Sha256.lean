import KinicBridge.Library.Bytes

/-! SHA-256 of byte strings, after FIPS 180-4. -/
namespace KinicBridge.Sha256

def constants : List UInt32 := [
  0x428a2f98, 0x71374491, 0xb5c0fbcf, 0xe9b5dba5, 0x3956c25b, 0x59f111f1, 0x923f82a4, 0xab1c5ed5,
  0xd807aa98, 0x12835b01, 0x243185be, 0x550c7dc3, 0x72be5d74, 0x80deb1fe, 0x9bdc06a7, 0xc19bf174,
  0xe49b69c1, 0xefbe4786, 0x0fc19dc6, 0x240ca1cc, 0x2de92c6f, 0x4a7484aa, 0x5cb0a9dc, 0x76f988da,
  0x983e5152, 0xa831c66d, 0xb00327c8, 0xbf597fc7, 0xc6e00bf3, 0xd5a79147, 0x06ca6351, 0x14292967,
  0x27b70a85, 0x2e1b2138, 0x4d2c6dfc, 0x53380d13, 0x650a7354, 0x766a0abb, 0x81c2c92e, 0x92722c85,
  0xa2bfe8a1, 0xa81a664b, 0xc24b8b70, 0xc76c51a3, 0xd192e819, 0xd6990624, 0xf40e3585, 0x106aa070,
  0x19a4c116, 0x1e376c08, 0x2748774c, 0x34b0bcb5, 0x391c0cb3, 0x4ed8aa4a, 0x5b9cca4f, 0x682e6ff3,
  0x748f82ee, 0x78a5636f, 0x84c87814, 0x8cc70208, 0x90befffa, 0xa4506ceb, 0xbef9a3f7, 0xc67178f2]

structure Work where
  (a b c d e f g h : UInt32)

def initial : Work := ⟨0x6a09e667, 0xbb67ae85, 0x3c6ef372, 0xa54ff53a, 0x510e527f, 0x9b05688c,
  0x1f83d9ab, 0x5be0cd19⟩

def rotr (x n : UInt32) : UInt32 := x >>> n ||| x <<< (32 - n)

def round (work : Work) (input : UInt32 × UInt32) : Work :=
  let ⟨a, b, c, d, e, f, g, h⟩ := work
  let t := h + (rotr e 6 ^^^ rotr e 11 ^^^ rotr e 25) + (e &&& f ^^^ ~~~e &&& g) + input.1 + input.2
  ⟨t + (rotr a 2 ^^^ rotr a 13 ^^^ rotr a 22) + (a &&& b ^^^ a &&& c ^^^ b &&& c), a, b, c, d + t,
    e, f, g⟩

def schedule : Nat → List UInt32 → List UInt32
  | 0, _ => []
  | count + 1, words =>
    let w i := words.getD i 0
    let next := w 0 + (rotr (w 1) 7 ^^^ rotr (w 1) 18 ^^^ w 1 >>> 3) + w 9 +
      (rotr (w 14) 17 ^^^ rotr (w 14) 19 ^^^ w 14 >>> 10)
    w 0 :: schedule count (words.drop 1 ++ [next])

def compress (work : Work) (block : List UInt32) : Work :=
  let v := (constants.zip (schedule 64 block)).foldl round work
  ⟨work.a + v.a, work.b + v.b, work.c + v.c, work.d + v.d, work.e + v.e, work.f + v.f, work.g + v.g,
    work.h + v.h⟩

variable (message : List UInt8)

def pad : List UInt8 :=
  message ++ 0x80 :: List.replicate ((119 - message.length % 64) % 64) 0 ++
    Bytes.ofNat 8 (8 * message.length)

def words : List UInt8 → List UInt32
  | a :: b :: c :: d :: rest =>
    (a.toUInt32 <<< 24 ||| b.toUInt32 <<< 16 ||| c.toUInt32 <<< 8 ||| d.toUInt32) :: words rest
  | _ => []

def absorb : Nat → Work → List UInt32 → Work
  | 0, work, _ => work
  | blocks + 1, work, words => absorb blocks (compress work (words.take 16)) (words.drop 16)

def hash : BitVec 256 :=
  let padded := words (pad message)
  let ⟨a, b, c, d, e, f, g, h⟩ := absorb (padded.length / 16) initial padded
  a.toBitVec ++ b.toBitVec ++ c.toBitVec ++ d.toBitVec ++ e.toBitVec ++ f.toBitVec ++ g.toBitVec ++
    h.toBitVec

example : hash [0x61, 0x62, 0x63] =
    0xba7816bf8f01cfea414140de5dae2223b00361a396177a9cb410ff61f20015ad := by
  decide +kernel

end KinicBridge.Sha256
