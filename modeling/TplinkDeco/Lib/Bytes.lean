-- Numbers as bytes: the big-endian formats of the `struct` module of Python,
-- and the CRC-32 of `zlib`.
import Mathlib.Tactic.Common
import Mathlib.Tactic.Ring

namespace bytes

/-! ## Big-endian numbers -/

/-- The `n` low bytes of `v`, the most significant one first. -/
def bigEndian : Nat → Nat → List UInt8
  | 0, _ => []
  | n + 1, v => UInt8.ofNat (v / 256 ^ n % 256) :: bigEndian n (v % 256 ^ n)

def ofBigEndian : List UInt8 → Nat
  | [] => 0
  | b :: bs => b.toNat * 256 ^ bs.length + ofBigEndian bs

@[simp] theorem bigEndian_length (n v : Nat) : (bigEndian n v).length = n := by
  induction n generalizing v with
  | zero => rfl
  | succ n ih => simp [bigEndian, ih]

theorem ofBigEndian_lt (bs : List UInt8) : ofBigEndian bs < 256 ^ bs.length := by
  induction bs with
  | nil => simp [ofBigEndian]
  | cons b bs ih =>
    have hb : b.toNat < 256 := b.toNat_lt
    calc ofBigEndian (b :: bs) < b.toNat * 256 ^ bs.length + 256 ^ bs.length := by
          simp only [ofBigEndian]; omega
      _ = (b.toNat + 1) * 256 ^ bs.length := by ring
      _ ≤ 256 * 256 ^ bs.length := Nat.mul_le_mul_right _ hb
      _ = 256 ^ (b :: bs).length := by simp [Nat.pow_succ, Nat.mul_comm]

theorem ofBigEndian_bigEndian {n v : Nat} (h : v < 256 ^ n) :
    ofBigEndian (bigEndian n v) = v := by
  induction n generalizing v with
  | zero =>
    have : v = 0 := by simpa using h
    simp [bigEndian, ofBigEndian, this]
  | succ n ih =>
    have hpos : 0 < 256 ^ n := Nat.pow_pos (by decide)
    have hq : v / 256 ^ n < 256 := by
      rw [Nat.div_lt_iff_lt_mul hpos, Nat.mul_comm]
      simpa [Nat.pow_succ] using h
    simp only [bigEndian, ofBigEndian, bigEndian_length, ih (Nat.mod_lt v hpos)]
    rw [UInt8.toNat_ofNat', Nat.mod_mod, Nat.mod_eq_of_lt (by simpa using hq)]
    exact Nat.div_add_mod' v (256 ^ n)

theorem bigEndian_ofBigEndian (bs : List UInt8) : bigEndian bs.length (ofBigEndian bs) = bs := by
  induction bs with
  | nil => rfl
  | cons b bs ih =>
    have hlt := ofBigEndian_lt bs
    have hpos : 0 < 256 ^ bs.length := Nat.pow_pos (by decide)
    have hdiv : (b.toNat * 256 ^ bs.length + ofBigEndian bs) / 256 ^ bs.length = b.toNat := by
      rw [Nat.add_comm, Nat.add_mul_div_right _ _ hpos, Nat.div_eq_of_lt hlt, Nat.zero_add]
    have hmod : (b.toNat * 256 ^ bs.length + ofBigEndian bs) % 256 ^ bs.length =
        ofBigEndian bs := by
      rw [Nat.add_comm, Nat.add_mul_mod_self_right, Nat.mod_eq_of_lt hlt]
    simp only [ofBigEndian, List.length_cons, bigEndian, hdiv, hmod, ih]
    simp [Nat.mod_eq_of_lt b.toNat_lt]

/-! ## The formats of `struct` -/

/-- The unsigned codes of a big-endian format. -/
inductive Code where
  | B
  | H
  | I
deriving DecidableEq, Repr

def Code.size : Code → Nat
  | .B => 1
  | .H => 2
  | .I => 4

def calcsize (fmt : List Code) : Nat := (fmt.map Code.size).sum

/-- `struct.pack`: nothing when a value is out of the range of its code, or when the
number of values is wrong. -/
def pack : List Code → List Nat → Option (List UInt8)
  | [], [] => some []
  | c :: fmt, v :: vs =>
    if v < 256 ^ c.size then (pack fmt vs).map (bigEndian c.size v ++ ·) else none
  | _, _ => none

/-- `struct.unpack`: nothing when the number of bytes is wrong. -/
def unpack : List Code → List UInt8 → Option (List Nat)
  | [], [] => some []
  | [], _ :: _ => none
  | c :: fmt, bs =>
    if bs.length < c.size then none
    else (unpack fmt (bs.drop c.size)).map (ofBigEndian (bs.take c.size) :: ·)

@[simp] theorem calcsize_nil : calcsize [] = 0 := rfl

@[simp] theorem calcsize_cons (c : Code) (fmt : List Code) :
    calcsize (c :: fmt) = c.size + calcsize fmt := by simp [calcsize]

/-- The values fit their codes. -/
def Fits : List Code → List Nat → Prop
  | [], [] => True
  | c :: fmt, v :: vs => v < 256 ^ c.size ∧ Fits fmt vs
  | _, _ => False

theorem pack_eq_some (fmt : List Code) (vs : List Nat) (h : Fits fmt vs) :
    ∃ bs, pack fmt vs = some bs := by
  induction fmt generalizing vs with
  | nil => cases vs with
    | nil => exact ⟨[], rfl⟩
    | cons v vs => exact h.elim
  | cons c fmt ih => cases vs with
    | nil => exact h.elim
    | cons v vs =>
      obtain ⟨bs, hbs⟩ := ih vs h.2
      exact ⟨_, by simp [pack, h.1, hbs]; rfl⟩

theorem pack_length {fmt : List Code} {vs : List Nat} {bs : List UInt8}
    (h : pack fmt vs = some bs) : bs.length = calcsize fmt := by
  induction fmt generalizing vs bs with
  | nil => cases vs with
    | nil => simp only [pack, Option.some.injEq] at h; subst h; rfl
    | cons v vs => simp [pack] at h
  | cons c fmt ih => cases vs with
    | nil => simp [pack] at h
    | cons v vs =>
      simp only [pack] at h
      split at h
      · obtain ⟨r, hr, rfl⟩ := Option.map_eq_some_iff.mp h
        simp [ih hr]
      · cases h

/-- What was packed is unpacked as it was. -/
theorem unpack_pack {fmt : List Code} {vs : List Nat} {bs : List UInt8}
    (h : pack fmt vs = some bs) : unpack fmt bs = some vs := by
  induction fmt generalizing vs bs with
  | nil => cases vs with
    | nil => simp only [pack, Option.some.injEq] at h; subst h; rfl
    | cons v vs => simp [pack] at h
  | cons c fmt ih => cases vs with
    | nil => simp [pack] at h
    | cons v vs =>
      simp only [pack] at h
      split at h
      · rename_i hv
        obtain ⟨r, hr, rfl⟩ := Option.map_eq_some_iff.mp h
        have htake : (bigEndian c.size v ++ r).take c.size = bigEndian c.size v := by
          rw [List.take_append_of_le_length (by simp), List.take_of_length_le (by simp)]
        have hdrop : (bigEndian c.size v ++ r).drop c.size = r := by
          rw [List.drop_append_of_le_length (by simp), List.drop_of_length_le (by simp)]
          rfl
        have hlen : ¬ (bigEndian c.size v ++ r).length < c.size := by simp
        simp only [unpack, hlen, if_false, htake, hdrop, ih hr, Option.map_some,
          ofBigEndian_bigEndian hv]
      · cases h

/-- What was unpacked fits the format, and packs to the bytes that it came from. -/
theorem pack_unpack {fmt : List Code} {vs : List Nat} {bs : List UInt8}
    (h : unpack fmt bs = some vs) : Fits fmt vs ∧ pack fmt vs = some bs := by
  induction fmt generalizing vs bs with
  | nil => cases bs with
    | nil => simp only [unpack, Option.some.injEq] at h; subst h; exact ⟨trivial, rfl⟩
    | cons b bs => simp [unpack] at h
  | cons c fmt ih =>
    simp only [unpack] at h
    split at h
    · cases h
    · rename_i hlen
      obtain ⟨r, hr, rfl⟩ := Option.map_eq_some_iff.mp h
      have htake : (bs.take c.size).length = c.size := by rw [List.length_take]; omega
      have hlt : ofBigEndian (bs.take c.size) < 256 ^ c.size := by
        have := ofBigEndian_lt (bs.take c.size)
        rwa [htake] at this
      have hbe : bigEndian c.size (ofBigEndian (bs.take c.size)) = bs.take c.size := by
        have := bigEndian_ofBigEndian (bs.take c.size)
        rwa [htake] at this
      obtain ⟨hfit, hpack⟩ := ih hr
      refine ⟨⟨hlt, hfit⟩, ?_⟩
      simp [pack, hlt, hpack, hbe]

theorem unpack_eq_some {fmt : List Code} {bs : List UInt8} (h : bs.length = calcsize fmt) :
    ∃ vs, unpack fmt bs = some vs ∧ vs.length = fmt.length := by
  induction fmt generalizing bs with
  | nil =>
    have : bs = [] := List.length_eq_zero_iff.mp h
    subst this
    exact ⟨[], rfl, rfl⟩
  | cons c fmt ih =>
    rw [calcsize_cons] at h
    have hrest : (bs.drop c.size).length = calcsize fmt := by rw [List.length_drop]; omega
    obtain ⟨vs, hvs, hlen⟩ := ih hrest
    have hc : ¬ bs.length < c.size := by omega
    exact ⟨ofBigEndian (bs.take c.size) :: vs,
      by simp only [unpack, hc, if_false, hvs, Option.map_some], by simp [hlen]⟩

/-! ## CRC-32 -/

def crcBit (c : UInt32) : UInt32 :=
  if c &&& 1 = 1 then (c >>> 1) ^^^ 0xEDB88320 else c >>> 1

def crcByte (c : UInt32) (b : UInt8) : UInt32 := Nat.iterate crcBit 8 (c ^^^ b.toUInt32)

/-- `zlib.crc32`. -/
def crc32 (bs : List UInt8) : UInt32 := bs.foldl crcByte 0xFFFFFFFF ^^^ 0xFFFFFFFF

-- The check value of CRC-32: the ASCII digits from 1 to 9.
example : crc32 [49, 50, 51, 52, 53, 54, 55, 56, 57] = 0xCBF43926 := by decide +kernel

end bytes
