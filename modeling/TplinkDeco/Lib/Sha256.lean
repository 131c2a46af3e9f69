-- The hash SHA-256 of a text, as its hexadecimal digest.
import TplinkDeco.Lib.Bytes

open bytes

namespace sha256

def K : List UInt32 := [
  0x428a2f98, 0x71374491, 0xb5c0fbcf, 0xe9b5dba5, 0x3956c25b, 0x59f111f1, 0x923f82a4, 0xab1c5ed5,
  0xd807aa98, 0x12835b01, 0x243185be, 0x550c7dc3, 0x72be5d74, 0x80deb1fe, 0x9bdc06a7, 0xc19bf174,
  0xe49b69c1, 0xefbe4786, 0x0fc19dc6, 0x240ca1cc, 0x2de92c6f, 0x4a7484aa, 0x5cb0a9dc, 0x76f988da,
  0x983e5152, 0xa831c66d, 0xb00327c8, 0xbf597fc7, 0xc6e00bf3, 0xd5a79147, 0x06ca6351, 0x14292967,
  0x27b70a85, 0x2e1b2138, 0x4d2c6dfc, 0x53380d13, 0x650a7354, 0x766a0abb, 0x81c2c92e, 0x92722c85,
  0xa2bfe8a1, 0xa81a664b, 0xc24b8b70, 0xc76c51a3, 0xd192e819, 0xd6990624, 0xf40e3585, 0x106aa070,
  0x19a4c116, 0x1e376c08, 0x2748774c, 0x34b0bcb5, 0x391c0cb3, 0x4ed8aa4a, 0x5b9cca4f, 0x682e6ff3,
  0x748f82ee, 0x78a5636f, 0x84c87814, 0x8cc70208, 0x90befffa, 0xa4506ceb, 0xbef9a3f7, 0xc67178f2]

structure Words where
  a : UInt32
  b : UInt32
  c : UInt32
  d : UInt32
  e : UInt32
  f : UInt32
  g : UInt32
  h : UInt32

def initial : Words := {
  a := 0x6a09e667
  b := 0xbb67ae85
  c := 0x3c6ef372
  d := 0xa54ff53a
  e := 0x510e527f
  f := 0x9b05688c
  g := 0x1f83d9ab
  h := 0x5be0cd19 }

def rotr (x n : UInt32) : UInt32 := (x >>> n) ||| (x <<< (32 - n))

/-- The message, a one bit, zeros, and the length in bits, in blocks of 64 bytes. -/
def pad (message : List UInt8) : List UInt8 :=
  message ++ [0x80] ++ List.replicate ((119 - message.length % 64) % 64) 0 ++
    bigEndian 8 (8 * message.length)

def word (bs : List UInt8) : UInt32 := UInt32.ofNat (ofBigEndian bs)

/-- The words of a block, the latest first. -/
def words : Nat → List UInt8 → List UInt32 → List UInt32
  | 0, _, ws => ws
  | n + 1, block, ws => words n (block.drop 4) (word (block.take 4) :: ws)

/-- Add `n` words to the schedule, the latest first. -/
def extend : Nat → List UInt32 → List UInt32
  | 0, ws => ws
  | n + 1, ws =>
    let w2 := ws.getD 1 0
    let w15 := ws.getD 14 0
    let s0 := rotr w15 7 ^^^ rotr w15 18 ^^^ (w15 >>> 3)
    let s1 := rotr w2 17 ^^^ rotr w2 19 ^^^ (w2 >>> 10)
    extend n ((ws.getD 15 0 + s0 + ws.getD 6 0 + s1) :: ws)

def round (v : Words) (kw : UInt32 × UInt32) : Words :=
  let s1 := rotr v.e 6 ^^^ rotr v.e 11 ^^^ rotr v.e 25
  let ch := (v.e &&& v.f) ^^^ (~~~v.e &&& v.g)
  let t1 := v.h + s1 + ch + kw.1 + kw.2
  let s0 := rotr v.a 2 ^^^ rotr v.a 13 ^^^ rotr v.a 22
  let maj := (v.a &&& v.b) ^^^ (v.a &&& v.c) ^^^ (v.b &&& v.c)
  { a := t1 + (s0 + maj), b := v.a, c := v.b, d := v.c
    e := v.d + t1, f := v.e, g := v.f, h := v.g }

def compress (v : Words) (block : List UInt8) : Words :=
  let r := (K.zip (extend 48 (words 16 block [])).reverse).foldl round v
  { a := v.a + r.a, b := v.b + r.b, c := v.c + r.c, d := v.d + r.d
    e := v.e + r.e, f := v.f + r.f, g := v.g + r.g, h := v.h + r.h }

def blocks : Nat → List UInt8 → Words → Words
  | 0, _, v => v
  | n + 1, bs, v => blocks n (bs.drop 64) (compress v (bs.take 64))

def digest (message : List UInt8) : List UInt8 :=
  let padded := pad message
  let v := blocks (padded.length / 64) padded initial
  [v.a, v.b, v.c, v.d, v.e, v.f, v.g, v.h].flatMap fun x => bigEndian 4 x.toNat

/-- `hashlib.sha256(message).hexdigest()`. -/
def hexdigest (message : List UInt8) : String :=
  String.ofList ((digest message).flatMap fun b =>
    [Nat.digitChar (b.toNat / 16), Nat.digitChar (b.toNat % 16)])

theorem length_digest (message : List UInt8) : (digest message).length = 32 := by
  simp [digest]

theorem hexdigest_ne_empty (message : List UInt8) : hexdigest message ≠ "" := by
  unfold hexdigest
  cases hdigest : digest message with
  | nil =>
    have hlength := length_digest message
    rw [hdigest] at hlength
    cases hlength
  | cons b bs => simp [← String.toList_inj]

example : hexdigest [0x61, 0x62, 0x63] =
    "ba7816bf8f01cfea414140de5dae2223b00361a396177a9cb410ff61f20015ad" := by
  decide +kernel

end sha256
