-- The RSA encryption of the request signature, and the decryption of the other side. The
-- logarithm that gives the block size is a float, so that its floor is a parameter here.
import TplinkDeco.Exceptions
import TplinkDeco.Lib.Blocks
import TplinkDeco.Lib.Bytes
import TplinkDeco.Lib.Hex
import TplinkDeco.Lib.Modular
import Mathlib.Tactic.NormNum.Prime
import Mathlib.Tactic.ReduceModChar

open tplink_deco_api.exceptions bytes

namespace tplink_deco_api.crypto

structure RsaKey where
  n : Nat
  e : Nat
deriving DecidableEq, Repr

/-! ## The random bytes -/

/-- The bytes that `secrets.token_bytes(1)` gives, one call after another. Each call has a
byte other than zero at it or after it. -/
structure Tokens where
  token : Nat → UInt8
  goes_on : ∀ call, ∃ later, call ≤ later ∧ token later ≠ 0

/-- The first call from here on that gives a byte other than zero. -/
def Tokens.next (tokens : Tokens) (call : Nat) : Nat := Nat.find (tokens.goes_on call)

theorem Tokens.token_next_ne_zero (tokens : Tokens) (call : Nat) :
    tokens.token (tokens.next call) ≠ 0 := (Nat.find_spec (tokens.goes_on call)).2

/-- The loop that draws the padding, with the number of bytes that it still needs: the bytes,
and the call after the last one. -/
def draw_pad (tokens : Tokens) : Nat → Nat → List UInt8 × Nat
  | 0, call => ([], call)
  | need + 1, call =>
    let later := tokens.next call
    let rest := draw_pad tokens need (later + 1)
    (tokens.token later :: rest.1, rest.2)

theorem length_draw_pad (tokens : Tokens) (need call : Nat) :
    (draw_pad tokens need call).1.length = need := by
  induction need generalizing call with
  | zero => rfl
  | succ need ih => exact congrArg Nat.succ (ih _)

theorem draw_pad_ne_zero {tokens : Tokens} {need call : Nat} :
    ∀ b ∈ (draw_pad tokens need call).1, b ≠ 0 := by
  induction need generalizing call with
  | zero => exact fun _ hb => nomatch hb
  | succ need ih =>
    intro b hb
    rcases List.mem_cons.mp hb with rfl | hb
    · exact tokens.token_next_ne_zero call
    · exact ih b hb

/-! ## The encryption -/

/-- The message of a block: `00 02`, the padding, `00` and the block. -/
def padded (pad block : List UInt8) : List UInt8 := [0, 2] ++ pad ++ [0] ++ block

def encrypt_block (n e k : Nat) (block : List UInt8) (tokens : Tokens) (call : Nat) :
    Except PyError (List Char × Nat) :=
  if (k : Int) - 11 < block.length then
    .error { cls := .CryptoError
             message := "Failed to encrypt RSA block: length " ++ toString block.length ++ " > " ++
               toString ((k : Int) - 11) }
  else
    let drawn := draw_pad tokens (k - block.length - 3) call
    let ct := ofBigEndian (padded drawn.1 block) ^ e % n
    .ok (hexadecimal.format (k * 2) ct, drawn.2)

/-- The loop over the blocks. -/
def encrypt_blocks (n e k : Nat) (tokens : Tokens) :
    List (List UInt8) → Nat → Except PyError (List Char × Nat)
  | [], call => .ok ([], call)
  | block :: rest, call => do
    let first ← encrypt_block n e k block tokens call
    let others ← encrypt_blocks n e k tokens rest first.2
    return (first.1 ++ others.1, others.2)

section

variable (log2_floor : Nat → Nat)

/-- `(int(math.log2(n)) + 8) >> 3`. -/
def block_size (n : Nat) : Nat := (log2_floor n + 8) / 8

def rsa_encrypt (n e : Nat) (plaintext : List UInt8) (tokens : Tokens) (call : Nat) :
    Except PyError (List Char × Nat) :=
  if n = 0 then .error (value_error "math domain error")
  else
    let k := block_size log2_floor n
    -- the step of the range is the number of bytes of a block
    if k = 11 then .error (value_error "range() arg 3 must not be zero")
    else if k < 11 then .ok ([], call)
    else encrypt_blocks n e k tokens (blockwise.blocks (k - 11) plaintext) call

end

/-- What `int(math.log2(n))` is known to be: the rounding to a float takes the logarithm to
the next whole number, but not past it. -/
structure Rounded (log2_floor : Nat → Nat) : Prop where
  at_least : ∀ n, 0 < n → Nat.log2 n ≤ log2_floor n
  at_most : ∀ n, 0 < n → log2_floor n ≤ Nat.log2 n + 1

/-! ## The other side -/

/-- The bytes of a modulus. -/
def byte_length (n : Nat) : Nat := Nat.log2 n / 8 + 1

/-- The block behind `00 02`, eight bytes of padding or more, and `00`. -/
def unpad : List UInt8 → Option (List UInt8)
  | 0 :: 2 :: rest =>
    if 8 ≤ (rest.takeWhile (· != 0)).length then
      match rest.dropWhile (· != 0) with
      | _ :: block => some block
      | [] => none
    else none
  | _ => none

/-- A block that is not as long as the modulus is refused. -/
def decrypt_block (n d : Nat) (digits : List Char) : Option (List UInt8) :=
  if digits.length = 2 * byte_length n then
    (hexadecimal.number digits).bind fun ct =>
      if ct < n then unpad (bigEndian (byte_length n) (ct ^ d % n)) else none
  else none

def decrypt (n d : Nat) (digits : List Char) : Option (List UInt8) :=
  ((blockwise.blocks (2 * byte_length n) digits).mapM (decrypt_block n d)).map List.flatten

/-- The blocks have the size of the modulus, unless the logarithm is rounded up to the bits of
its bytes. -/
theorem block_size_cases {log2_floor : Nat → Nat} (hlog : Rounded log2_floor) {n : Nat}
    (hn : 0 < n) :
    log2_floor n ≠ 8 * byte_length n ∧ block_size log2_floor n = byte_length n ∨
      log2_floor n = 8 * byte_length n ∧ block_size log2_floor n = byte_length n + 1 := by
  have hleast := hlog.at_least n hn
  have hmost := hlog.at_most n hn
  unfold block_size byte_length
  omega

/-! ## One block -/

theorem pos_of_byte_length {n : Nat} (h : 12 ≤ byte_length n) : 0 < n := by
  rw [Nat.pos_iff_ne_zero]
  rintro rfl
  exact absurd h (by decide)

theorem lt_pow_byte_length (n : Nat) : n < 256 ^ byte_length n := by
  have hlog : n < 2 ^ (Nat.log2 n + 1) := Nat.lt_log2_self
  have hle : 2 ^ (Nat.log2 n + 1) ≤ 2 ^ (8 * byte_length n) := by
    apply Nat.pow_le_pow_right (by decide)
    unfold byte_length
    omega
  have hpow : 2 ^ (8 * byte_length n) = 256 ^ byte_length n := by rw [Nat.pow_mul]
  omega

theorem pow_le_of_byte_length {n k : Nat} (hn : 0 < n) (hk : byte_length n = k + 1) :
    256 ^ k ≤ n := by
  have hlog : 2 ^ Nat.log2 n ≤ n := Nat.log2_self_le (Nat.ne_of_gt hn)
  have hle : 2 ^ (8 * k) ≤ 2 ^ Nat.log2 n := by
    apply Nat.pow_le_pow_right (by decide)
    unfold byte_length at hk
    omega
  have hpow : 2 ^ (8 * k) = 256 ^ k := by rw [Nat.pow_mul]
  omega

theorem unpad_padded {pad block : List UInt8} (hpad : ∀ b ∈ pad, b ≠ 0) (hlen : 8 ≤ pad.length) :
    unpad (padded pad block) = some block := by
  have hne : ∀ b ∈ pad, (b != 0) = true := fun b hb => bne_iff_ne.mpr (hpad b hb)
  have hshape : padded pad block = 0 :: 2 :: (pad ++ 0 :: block) := by
    simp [padded]
  rw [hshape, unpad, List.takeWhile_append_of_pos hne, List.dropWhile_append_of_pos hne]
  simp [hlen]

/-- The message of a block is below every modulus with as many bytes. -/
theorem padded_lt {n : Nat} {pad block : List UInt8} (hn : 0 < n)
    (hlen : (padded pad block).length = byte_length n) : ofBigEndian (padded pad block) < n := by
  have hshape : padded pad block = 0 :: (2 :: (pad ++ 0 :: block)) := by
    simp [padded]
  rw [hshape, List.length_cons] at hlen
  rw [hshape, ofBigEndian]
  have hlt := ofBigEndian_lt (2 :: (pad ++ 0 :: block))
  have hle := pow_le_of_byte_length hn hlen.symm
  have hzero : (0 : UInt8).toNat = 0 := rfl
  rw [hzero, Nat.zero_mul, Nat.zero_add]
  exact Nat.lt_of_lt_of_le hlt hle

/-- The digits are those of the block, encrypted with some padding. -/
def Encrypts (n e k : Nat) (block : List UInt8) (digits : List Char) : Prop :=
  ∃ pad : List UInt8, pad.length = k - block.length - 3 ∧ (∀ b ∈ pad, b ≠ 0) ∧
    digits = hexadecimal.format (k * 2) (ofBigEndian (padded pad block) ^ e % n)

theorem encrypt_block_spec (n e : Nat) {k : Nat} {block : List UInt8} (tokens : Tokens)
    (call : Nat) (hk : 11 ≤ k) (hlen : block.length ≤ k - 11) :
    ∃ digits later, encrypt_block n e k block tokens call = .ok (digits, later) ∧
      Encrypts n e k block digits := by
  have hfits : ¬ (k : Int) - 11 < block.length := by omega
  refine ⟨_, _, if_neg hfits, ?_⟩
  exact ⟨_, length_draw_pad tokens _ call, draw_pad_ne_zero, rfl⟩

theorem length_of_encrypts {n e k : Nat} {block : List UInt8} {digits : List Char} (hn : 0 < n)
    (hk : 0 < k) (hsize : n ≤ 256 ^ k) (h : Encrypts n e k block digits) :
    digits.length = k * 2 := by
  obtain ⟨pad, -, -, rfl⟩ := h
  apply hexadecimal.length_format (by omega)
  have hpow : 16 ^ (k * 2) = 256 ^ k := by rw [Nat.mul_comm, Nat.pow_mul]
  have hlt := Nat.mod_lt (ofBigEndian (padded pad block) ^ e) hn
  omega

/-- A block of the size of the modulus is read back. -/
theorem decrypt_block_of_encrypts {n e d : Nat} {block : List UInt8} {digits : List Char}
    (hn : 0 < n) (hsize : 11 ≤ byte_length n) (hlen : block.length ≤ byte_length n - 11)
    (hkey : modular.Undoes n e d) (h : Encrypts n e (byte_length n) block digits) :
    decrypt_block n d digits = some block := by
  have hdigits := length_of_encrypts hn (by omega) (Nat.le_of_lt (lt_pow_byte_length n)) h
  obtain ⟨pad, hpad, hne, rfl⟩ := h
  have hpadded : (padded pad block).length = byte_length n := by
    simp only [padded, List.length_append, List.length_cons, List.length_nil, hpad]
    omega
  have hback := hkey _ (padded_lt hn hpadded)
  rw [decrypt_block, if_pos (by omega), hexadecimal.number_format, Option.bind_some,
    if_pos (Nat.mod_lt _ hn), hback, ← hpadded, bigEndian_ofBigEndian]
  exact unpad_padded hne (by omega)

/-! ## A text of many blocks -/

theorem encrypt_blocks_spec (n e : Nat) {k : Nat} (tokens : Tokens) {blocks : List (List UInt8)}
    (hk : 11 ≤ k) (hlen : ∀ block ∈ blocks, block.length ≤ k - 11) (call : Nat) :
    ∃ groups later, encrypt_blocks n e k tokens blocks call = .ok (groups.flatten, later) ∧
      List.Forall₂ (Encrypts n e k) blocks groups := by
  induction blocks generalizing call with
  | nil => exact ⟨[], call, rfl, .nil⟩
  | cons block blocks ih =>
    obtain ⟨digits, later, hfirst, hdigits⟩ :=
      encrypt_block_spec n e tokens call hk (hlen block List.mem_cons_self)
    obtain ⟨groups, last, hrest, hgroups⟩ :=
      ih (fun other hother => hlen other (List.mem_cons_of_mem block hother)) later
    refine ⟨digits :: groups, last, ?_, .cons hdigits hgroups⟩
    rw [encrypt_blocks, hfirst]
    change (encrypt_blocks n e k tokens blocks later >>= _) = _
    rw [hrest]
    rfl

/-- The text of an encryption with a usable block size is the digits of its blocks. -/
theorem rsa_encrypt_spec {log2_floor : Nat → Nat} {n : Nat} (e : Nat) (plaintext : List UInt8)
    (tokens : Tokens) (call : Nat) (hn : 0 < n) (hk : 11 < block_size log2_floor n) :
    ∃ groups later, rsa_encrypt log2_floor n e plaintext tokens call =
        .ok (groups.flatten, later) ∧
      List.Forall₂ (Encrypts n e (block_size log2_floor n))
        (blockwise.blocks (block_size log2_floor n - 11) plaintext) groups := by
  have hblocks : ∀ block ∈ blockwise.blocks (block_size log2_floor n - 11) plaintext,
      block.length ≤ block_size log2_floor n - 11 :=
    fun block hblock => blockwise.length_le_of_mem_blocks (by omega) hblock
  obtain ⟨groups, later, hrun, hgroups⟩ :=
    encrypt_blocks_spec n e tokens (Nat.le_of_lt hk) hblocks call
  refine ⟨groups, later, ?_, hgroups⟩
  rw [rsa_encrypt, if_neg (by omega)]
  dsimp only
  rw [if_neg (by omega), if_neg (by omega), hrun]

theorem length_of_forall₂_encrypts {n e k : Nat} {blocks : List (List UInt8)}
    {groups : List (List Char)} (hn : 0 < n) (hk : 0 < k) (hsize : n ≤ 256 ^ k)
    (h : List.Forall₂ (Encrypts n e k) blocks groups) : ∀ group ∈ groups, group.length = k * 2 := by
  induction h with
  | nil => exact fun _ hgroup => nomatch hgroup
  | cons hdigits _ ih =>
    intro group hgroup
    rcases List.mem_cons.mp hgroup with rfl | hgroup
    · exact length_of_encrypts hn hk hsize hdigits
    · exact ih group hgroup

theorem digits_of_forall₂_encrypts {n e k : Nat} {blocks : List (List UInt8)}
    {groups : List (List Char)} (h : List.Forall₂ (Encrypts n e k) blocks groups) :
    hexadecimal.Digits groups.flatten := by
  induction h with
  | nil => exact fun _ hc => nomatch hc
  | cons hdigits _ ih =>
    obtain ⟨pad, -, -, rfl⟩ := hdigits
    intro c hc
    rcases List.mem_append.mp hc with hc | hc
    · exact hexadecimal.digits_format _ _ c hc
    · exact ih c hc

/-- An encryption with blocks of the size of the modulus is read back. -/
theorem decrypt_groups {n e d : Nat} {blocks : List (List UInt8)} {groups : List (List Char)}
    (hn : 0 < n) (hsize : 11 ≤ byte_length n) (hkey : modular.Undoes n e d)
    (hlen : ∀ block ∈ blocks, block.length ≤ byte_length n - 11)
    (h : List.Forall₂ (Encrypts n e (byte_length n)) blocks groups) :
    decrypt n d groups.flatten = some blocks.flatten := by
  have hgroups := length_of_forall₂_encrypts hn (by omega)
    (Nat.le_of_lt (lt_pow_byte_length n)) h
  have hread : groups.mapM (decrypt_block n d) = some blocks := by
    clear hgroups
    induction h with
    | nil => rfl
    | @cons block digits blocks groups hdigits _ ih =>
      have hfirst := decrypt_block_of_encrypts hn hsize (hlen block List.mem_cons_self) hkey hdigits
      have hrest := ih fun other hother => hlen other (List.mem_cons_of_mem block hother)
      rw [List.mapM_cons, hfirst, hrest]
      rfl
  rw [decrypt, blockwise.blocks_flatten (by omega), hread]
  · rfl
  · intro group hgroup
    rw [hgroups group hgroup, Nat.mul_comm]

theorem decrypt_rsa_encrypt {log2_floor : Nat → Nat} {n e d : Nat} (plaintext : List UInt8)
    (tokens : Tokens) (call : Nat) (hsize : 12 ≤ byte_length n) (hkey : modular.Undoes n e d)
    (hk : block_size log2_floor n = byte_length n) :
    ∃ digits later, rsa_encrypt log2_floor n e plaintext tokens call = .ok (digits, later) ∧
      hexadecimal.Digits digits ∧ decrypt n d digits = some plaintext := by
  have hn := pos_of_byte_length hsize
  obtain ⟨groups, later, hrun, hgroups⟩ :=
    rsa_encrypt_spec e plaintext tokens call hn (by omega : 11 < block_size log2_floor n)
  rw [hk] at hgroups
  refine ⟨_, later, hrun, digits_of_forall₂_encrypts hgroups, ?_⟩
  rw [decrypt_groups hn (by omega) hkey
    (fun block hblock => blockwise.length_le_of_mem_blocks (by omega) hblock) hgroups,
    blockwise.flatten_blocks (by omega)]

/-! ## A block size past the modulus -/

/-- Only blocks as long as the modulus are read. -/
theorem length_of_mapM_decrypt_block {n d : Nat} {groups : List (List Char)}
    {blocks : List (List UInt8)} (h : groups.mapM (decrypt_block n d) = some blocks) :
    ∀ group ∈ groups, group.length = 2 * byte_length n := by
  induction groups generalizing blocks with
  | nil => exact fun _ hgroup => nomatch hgroup
  | cons first groups ih =>
    rw [List.mapM_cons] at h
    obtain ⟨block, hfirst, hnext⟩ := Option.bind_eq_some_iff.mp h
    obtain ⟨rest, hrest, -⟩ := Option.bind_eq_some_iff.mp hnext
    intro group hgroup
    rcases List.mem_cons.mp hgroup with rfl | hgroup
    · unfold decrypt_block at hfirst
      split at hfirst
      · assumption
      · cases hfirst
    · exact ih hrest group hgroup

theorem dvd_of_decrypt {n d : Nat} {digits : List Char} {plaintext : List UInt8}
    (h : decrypt n d digits = some plaintext) : 2 * byte_length n ∣ digits.length := by
  obtain ⟨blocks, hblocks, -⟩ := Option.map_eq_some_iff.mp h
  have hpos : 0 < 2 * byte_length n := by
    unfold byte_length
    omega
  exact blockwise.dvd_of_blocks hpos (length_of_mapM_decrypt_block hblocks)

/-- With blocks of one byte too many, the other side reads no text whose number of blocks is
not a multiple of the size of the modulus. -/
theorem undecryptable {log2_floor : Nat → Nat} {n e : Nat} {plaintext : List UInt8}
    {tokens : Tokens} {call later : Nat} {digits : List Char} (hsize : 12 ≤ byte_length n)
    (hk : block_size log2_floor n = byte_length n + 1)
    (hrun : rsa_encrypt log2_floor n e plaintext tokens call = .ok (digits, later))
    (hcount : ¬ byte_length n ∣ (blockwise.blocks (byte_length n - 10) plaintext).length)
    (d : Nat) : decrypt n d digits = none := by
  have hn := pos_of_byte_length hsize
  obtain ⟨groups, last, hspec, hgroups⟩ :=
    rsa_encrypt_spec e plaintext tokens call hn (by omega : 11 < block_size log2_floor n)
  rw [hrun] at hspec
  cases hspec
  rw [hk] at hgroups
  have hbound : n ≤ 256 ^ (byte_length n + 1) := by
    have hlt := lt_pow_byte_length n
    rw [Nat.pow_succ]
    omega
  have hlength := blockwise.length_flatten
    (length_of_forall₂_encrypts hn (by omega) hbound hgroups)
  cases hread : decrypt n d groups.flatten with
  | none => rfl
  | some text =>
    exfalso
    apply hcount
    have hdvd := dvd_of_decrypt hread
    have hcount' := hgroups.length_eq
    have hsub : byte_length n + 1 - 11 = byte_length n - 10 := by omega
    rw [hsub] at hcount'
    rw [hlength, ← hcount', ← Nat.mul_assoc, Nat.mul_comm _ 2] at hdvd
    have hhalf := Nat.dvd_of_mul_dvd_mul_left (by decide) hdvd
    have hcoprime : (byte_length n).Coprime (byte_length n + 1) := by
      rw [Nat.coprime_self_add_right]
      exact Nat.coprime_one_right _
    exact hcoprime.dvd_of_dvd_mul_right hhalf

/-! ## The exact logarithm -/

/-- With the logarithm taken exactly, the blocks have the size of the modulus. -/
theorem block_size_log2 (n : Nat) : block_size Nat.log2 n = byte_length n := by
  unfold block_size byte_length
  omega

/-- Two exponents undo each other for a product of two primes. -/
theorem undoes_of_lcm {p q e d : Nat} (hp : p.Prime) (hq : q.Prime) (hne : p ≠ q)
    (h : e * d ≡ 1 [MOD Nat.lcm (p - 1) (q - 1)]) : modular.Undoes (p * q) e d := by
  have hprod : p * q = [p, q].prod := by rw [List.prod_cons, List.prod_singleton]
  have hp1 := h.of_dvd (Nat.dvd_lcm_left (p - 1) (q - 1))
  have hq1 := h.of_dvd (Nat.dvd_lcm_right (p - 1) (q - 1))
  have hpos : 0 < e * d := by
    rw [Nat.pos_iff_ne_zero]
    intro hzero
    rw [hzero] at hp1 hq1
    have htwo : ∀ r, r.Prime → 0 ≡ 1 [MOD r - 1] → r = 2 := by
      intro r hr hmod
      have hone := Nat.dvd_one.mp (Nat.modEq_zero_iff_dvd.mp hmod.symm)
      omega
    exact hne ((htwo p hp hp1).trans (htwo q hq hq1).symm)
  rw [hprod]
  apply modular.undoes_of_primes
  · simp [hp, hq]
  · simp [hne]
  · exact hpos
  · simp [hp1, hq1]

/-- With two different primes and the exact logarithm, the text of an encryption is blocks of
twice the bytes of the modulus, which give the plaintext back, and no message reaches the
modulus. -/
theorem rsa_encrypt_recoverable {p q e d : Nat} (hp : p.Prime) (hq : q.Prime) (hne : p ≠ q)
    (hsize : 12 ≤ byte_length (p * q)) (hkey : e * d ≡ 1 [MOD Nat.lcm (p - 1) (q - 1)])
    (plaintext : List UInt8) (tokens : Tokens) (call : Nat) :
    ∃ digits later, rsa_encrypt Nat.log2 (p * q) e plaintext tokens call = .ok (digits, later) ∧
      hexadecimal.Digits digits ∧
      (∀ group ∈ blockwise.blocks (2 * byte_length (p * q)) digits,
        group.length = 2 * byte_length (p * q)) ∧
      decrypt (p * q) d digits = some plaintext ∧
      ∀ block ∈ blockwise.blocks (byte_length (p * q) - 11) plaintext, ∀ pad : List UInt8,
        pad.length = byte_length (p * q) - block.length - 3 →
          ofBigEndian (padded pad block) < p * q := by
  obtain ⟨digits, later, hrun, hdigits, hdecrypt⟩ := decrypt_rsa_encrypt plaintext tokens call
    hsize (undoes_of_lcm hp hq hne hkey) (block_size_log2 (p * q))
  obtain ⟨blocks, hblocks, -⟩ := Option.map_eq_some_iff.mp hdecrypt
  refine ⟨digits, later, hrun, hdigits, length_of_mapM_decrypt_block hblocks, hdecrypt, ?_⟩
  intro block hblock pad hpad
  have hlen := blockwise.length_le_of_mem_blocks (by omega) hblock
  apply padded_lt (pos_of_byte_length hsize)
  simp only [padded, List.length_append, List.length_cons, List.length_nil, hpad]
  omega

/-! ## Two sign keys -/

theorem prime_281474975622853 : Nat.Prime 281474975622853 := by
  apply modular.prime_of_factors 2 [2, 2, 3, 3, 11, 157, 619, 751, 9739]
  · norm_num
  · norm_num
  · reduce_mod_char
  · simp only [List.forall_mem_cons, Nat.reduceSub, Nat.reduceDiv]
    reduce_mod_char
    decide

theorem prime_281474977798459 : Nat.Prime 281474977798459 := by
  apply modular.prime_of_factors 3 [2, 3, 3, 41, 113, 191, 2557, 6911]
  · norm_num
  · norm_num
  · reduce_mod_char
  · simp only [List.forall_mem_cons, Nat.reduceSub, Nat.reduceDiv]
    reduce_mod_char
    decide

theorem prime_263882790666241 : Nat.Prime 263882790666241 := by
  apply modular.prime_of_factors 7 (List.replicate 44 2 ++ [3, 5])
  · norm_num
  · norm_num
  · reduce_mod_char
  · simp only [List.forall_mem_append, List.forall_mem_cons, List.forall_mem_replicate,
      Nat.reduceSub, Nat.reduceDiv]
    reduce_mod_char
    decide

def plain_key : RsaKey := ⟨281474975622853 * 263882790666241, 65537⟩

/-- The modulus is so close to `2 ^ 96` that it is this number as a float. -/
def close_key : RsaKey := ⟨281474975622853 * 281474977798459, 65537⟩

theorem undoes_plain_key :
    modular.Undoes plain_key.n plain_key.e 5418832833323503982118633473 :=
  undoes_of_lcm prime_281474975622853 prime_263882790666241 (by decide) (by decide)

theorem undoes_close_key :
    modular.Undoes close_key.n close_key.e 2909907208697636884264988525 :=
  undoes_of_lcm prime_281474975622853 prime_281474977798459 (by decide) (by decide)

/-- The calls of `token_bytes` that all give a one. -/
def ones : Tokens := ⟨fun _ => 1, fun call => ⟨call, Nat.le_refl call, by decide⟩⟩

/-- With the exact logarithm, the close key serves as well. -/
theorem the_close_key_recovers :
    ∃ digits later, rsa_encrypt Nat.log2 (281474975622853 * 281474977798459) 65537
        [107, 61, 49] ones 0 = .ok (digits, later) ∧
      hexadecimal.Digits digits ∧
      (∀ group ∈ blockwise.blocks (2 * byte_length (281474975622853 * 281474977798459)) digits,
        group.length = 2 * byte_length (281474975622853 * 281474977798459)) ∧
      decrypt (281474975622853 * 281474977798459) 2909907208697636884264988525 digits =
        some [107, 61, 49] ∧
      ∀ block ∈ blockwise.blocks (byte_length (281474975622853 * 281474977798459) - 11)
        [107, 61, 49], ∀ pad : List UInt8,
        pad.length = byte_length (281474975622853 * 281474977798459) - block.length - 3 →
          ofBigEndian (padded pad block) < 281474975622853 * 281474977798459 :=
  rsa_encrypt_recoverable prime_281474975622853 prime_281474977798459 (by decide) (by decide)
    (by decide) [107, 61, 49] ones 0

end tplink_deco_api.crypto
