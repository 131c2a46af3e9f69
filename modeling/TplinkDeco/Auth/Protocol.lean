-- The encrypted body of a request, and what the other side reads from it. The body is read
-- back under a sign key exactly if the logarithm of the modulus is not rounded up to the bits
-- of its bytes.
import TplinkDeco.Crypto.Aes
import TplinkDeco.Crypto.Rsa
import TplinkDeco.Lib.Form
import TplinkDeco.Lib.JsonText

open tplink_deco_api.exceptions tplink_deco_api.crypto json

namespace tplink_deco_api.auth

structure SessionKeys where
  aes_key : String
  aes_iv : String
  session_hash : String
  seq : Int
deriving DecidableEq, Repr

/-! ## The body -/

section

variable (log2_floor : Nat → Nat) (cbc : Cbc) (dumps : JsonObject → String)

/-- `dumps` is `json.dumps` with its compact separators. -/
def encode_data (keys : SessionKeys) (data : JsonObject) : Except PyError String :=
  aes_encrypt cbc keys.aes_key keys.aes_iv (dumps data)

def sign_text (keys : SessionKeys) (data_len : Nat) : String :=
  "k=" ++ keys.aes_key ++ "&i=" ++ keys.aes_iv ++ "&h=" ++ keys.session_hash ++ "&s=" ++
    toString (keys.seq + data_len)

def encode_sign (keys : SessionKeys) (sign_key : RsaKey) (data_len : Nat) (tokens : Tokens)
    (call : Nat) : Except PyError (List Char × Nat) :=
  rsa_encrypt log2_floor sign_key.n sign_key.e (text.encode (sign_text keys data_len)) tokens call

def build_payload (keys : SessionKeys) (sign_key : RsaKey) (data : JsonObject) (tokens : Tokens)
    (call : Nat) : Except PyError String := do
  let data_b64 ← encode_data cbc dumps keys data
  let (sign, _) ← encode_sign log2_floor keys sign_key data_b64.length tokens call
  return "sign=" ++ String.ofList sign ++ "&data=" ++ String.ofList (form.quote_plus data_b64)

end

/-! ## The other side -/

/-- The other side reads the two fields, the text of the body, and the text of the signature
with the length of the data that it received. -/
def RoundTrips (cbc : Cbc) (dumps : JsonObject → String) (keys : SessionKeys)
    (sign_key : RsaKey) (d : Nat) (data : JsonObject) (payload : String) : Prop :=
  ∃ sign data_b64, form.fields payload.toList = some [("sign", sign), ("data", data_b64)] ∧
    open_data cbc keys.aes_key keys.aes_iv data_b64 = some (dumps data) ∧
    (decrypt sign_key.n d sign.toList).bind text.decode = some (sign_text keys data_b64.length)

/-- The 16 digits of a key or of an initial vector. -/
def Digits16 (s : String) : Prop := s.toList.length = 16 ∧ ∀ c ∈ s.toList, c.isDigit = true

structure SessionKeys.Valid (keys : SessionKeys) : Prop where
  aes_key : Digits16 keys.aes_key
  aes_iv : Digits16 keys.aes_iv
  session_hash : hexadecimal.Digits keys.session_hash.toList
  seq : 0 ≤ keys.seq

theorem Digits16.length_encode {s : String} (h : Digits16 s) : (text.encode s).length = 16 := by
  rw [text.length_encode, h.1]
  intro c hc
  have hdigit := h.2 c hc
  rw [Char.isDigit, Bool.and_eq_true, decide_eq_true_eq, decide_eq_true_eq] at hdigit
  have hle : c.toNat ≤ 57 := hdigit.2
  omega

/-- The fields of a body are its two texts. -/
theorem fields_of_payload {digits : List Char} (hdigits : hexadecimal.Digits digits)
    (data_b64 : String) :
    form.fields ("sign=" ++ String.ofList digits ++ "&data=" ++
      String.ofList (form.quote_plus data_b64)).toList =
        some [("sign", String.ofList digits), ("data", data_b64)] := by
  have hsign : form.quote_plus (String.ofList digits) = digits := by
    rw [form.quote_plus_of_digits, String.toList_ofList]
    rwa [String.toList_ofList]
  have hnames : form.quote_plus "sign" = "sign".toList ∧
      form.quote_plus "data" = "data".toList := by
    decide +kernel
  have hbody : ("sign=" ++ String.ofList digits ++ "&data=" ++
      String.ofList (form.quote_plus data_b64)).toList =
        form.body [("sign", String.ofList digits), ("data", data_b64)] := by
    unfold form.body
    simp only [List.map_cons, List.map_nil, hsign, hnames, String.toList_append,
      String.toList_ofList]
    simp
  rw [hbody, form.fields_body (by simp)]

/-- A body comes from a text of data and from the digits of a signature. -/
theorem build_payload_spec {log2_floor : Nat → Nat} {cbc : Cbc} {dumps : JsonObject → String}
    {keys : SessionKeys} {sign_key : RsaKey} {data : JsonObject} {data_b64 : String}
    (hencode : encode_data cbc dumps keys data = .ok data_b64) (hn : 0 < sign_key.n)
    (hsize : 11 < block_size log2_floor sign_key.n) (tokens : Tokens) (call : Nat) :
    ∃ digits later,
      encode_sign log2_floor keys sign_key data_b64.length tokens call = .ok (digits, later) ∧
      build_payload log2_floor cbc dumps keys sign_key data tokens call =
        .ok ("sign=" ++ String.ofList digits ++ "&data=" ++
          String.ofList (form.quote_plus data_b64)) ∧
      hexadecimal.Digits digits := by
  obtain ⟨groups, later, hsign, hgroups⟩ := rsa_encrypt_spec sign_key.e
    (text.encode (sign_text keys data_b64.length)) tokens call hn hsize
  refine ⟨_, later, hsign, ?_, digits_of_forall₂_encrypts hgroups⟩
  rw [build_payload, hencode]
  change (encode_sign log2_floor keys sign_key data_b64.length tokens call >>= _) = _
  rw [encode_sign, hsign]
  rfl

section

variable {log2_floor : Nat → Nat} {cbc : Cbc} {dumps : JsonObject → String} {keys : SessionKeys}
  {sign_key : RsaKey} {d : Nat} {data : JsonObject}

/-- With blocks of the size of the modulus, the body is read back. -/
theorem round_trips_of_block_size (hcbc : cbc.Correct) (hkeys : keys.Valid)
    (hsize : 12 ≤ byte_length sign_key.n) (hkey : modular.Undoes sign_key.n sign_key.e d)
    (hblock : block_size log2_floor sign_key.n = byte_length sign_key.n) (tokens : Tokens)
    (call : Nat) :
    ∃ payload, build_payload log2_floor cbc dumps keys sign_key data tokens call = .ok payload ∧
      RoundTrips cbc dumps keys sign_key d data payload := by
  have hn := pos_of_byte_length hsize
  obtain ⟨data_b64, hencode, hopen⟩ := open_aes_encrypt hcbc hkeys.aes_key.length_encode
    hkeys.aes_iv.length_encode (dumps data)
  obtain ⟨digits, later, hsign, hpayload, hdigits⟩ :=
    build_payload_spec hencode hn (by omega : 11 < block_size log2_floor sign_key.n) tokens call
  obtain ⟨digits', later', hsign', -, hdecrypt⟩ := decrypt_rsa_encrypt
    (text.encode (sign_text keys data_b64.length)) tokens call hsize hkey hblock
  rw [encode_sign, hsign'] at hsign
  have heq : digits' = digits := congrArg Prod.fst (Except.ok.inj hsign)
  rw [heq] at hdecrypt
  refine ⟨_, hpayload, String.ofList digits, data_b64, fields_of_payload hdigits data_b64,
    hopen, ?_⟩
  rw [String.toList_ofList, hdecrypt, Option.bind_some, text.decode_encode]

/-- With blocks of one byte too many, the other side does not read a signature whose number of
blocks is not a multiple of the size of the modulus. -/
theorem not_round_trips_of_block_size {data_b64 : String}
    (hencode : encode_data cbc dumps keys data = .ok data_b64)
    (hsize : 12 ≤ byte_length sign_key.n)
    (hblock : block_size log2_floor sign_key.n = byte_length sign_key.n + 1)
    (hcount : ¬ byte_length sign_key.n ∣ (blockwise.blocks (byte_length sign_key.n - 10)
      (text.encode (sign_text keys data_b64.length))).length)
    (tokens : Tokens) (call : Nat) {payload : String}
    (hrun : build_payload log2_floor cbc dumps keys sign_key data tokens call = .ok payload) :
    ¬ RoundTrips cbc dumps keys sign_key d data payload := by
  have hn := pos_of_byte_length hsize
  obtain ⟨digits, later, hsign, hpayload, hdigits⟩ :=
    build_payload_spec hencode hn (by omega : 11 < block_size log2_floor sign_key.n) tokens call
  rw [hrun] at hpayload
  cases hpayload
  rintro ⟨sign, received, hfields, -, hread⟩
  rw [fields_of_payload hdigits] at hfields
  cases hfields
  rw [String.toList_ofList, undecryptable hsize hblock hsign hcount d] at hread
  cases hread

end

/-! ## Every sign key -/

/-- Some number of more bytes takes the number of blocks off the multiples of `k`. -/
theorem exists_count {k size : Nat} (hk : 1 < k) (hsize : 0 < size) (bytes : Nat) :
    ∃ more, ¬ k ∣ (bytes + more + (size - 1)) / size := by
  by_cases h : k ∣ (bytes + 0 + (size - 1)) / size
  · refine ⟨size, fun hnext => ?_⟩
    have hsum : bytes + size + (size - 1) = bytes + 0 + (size - 1) + size := by omega
    rw [hsum, Nat.add_div_right _ hsize] at hnext
    have hone := (Nat.dvd_add_right h).mp hnext
    exact absurd (Nat.le_of_dvd (by decide) hone) (by omega)
  · exact ⟨0, h⟩

/-- A hash of zeros, and a key and an initial vector of digits. -/
def zero_keys (zeros : Nat) : SessionKeys where
  aes_key := "1234567890123456"
  aes_iv := "6543210987654321"
  session_hash := String.ofList (List.replicate zeros '0')
  seq := 0

theorem zero_keys_valid (zeros : Nat) : (zero_keys zeros).Valid where
  aes_key := (⟨rfl, List.all_eq_true.mp (by decide)⟩ : Digits16 "1234567890123456")
  aes_iv := (⟨rfl, List.all_eq_true.mp (by decide)⟩ : Digits16 "6543210987654321")
  session_hash := by
    intro c hc
    rw [zero_keys, String.toList_ofList] at hc
    rw [List.eq_of_mem_replicate hc]
    rfl
  seq := Int.le_refl 0

theorem length_sign_text_zeros (zeros data_len : Nat) :
    (text.encode (sign_text (zero_keys zeros) data_len)).length =
      (text.encode (sign_text (zero_keys 0) data_len)).length + zeros := by
  have hzeros : (text.encode (zero_keys zeros).session_hash).length = zeros := by
    rw [zero_keys, text.length_encode, String.toList_ofList, List.length_replicate]
    intro c hc
    rw [String.toList_ofList] at hc
    rw [List.eq_of_mem_replicate hc]
    decide
  have hnone : (text.encode (zero_keys 0).session_hash).length = 0 := rfl
  simp only [sign_text, text.encode_append, List.length_append, hzeros, hnone]
  dsimp only [zero_keys]
  omega

/-- Under a sign key of twelve bytes or more, every body is read back exactly if the logarithm
of the modulus is not rounded up to the bits of its bytes. -/
theorem payloads_round_trip_exactly {log2_floor : Nat → Nat} (hlog : Rounded log2_floor)
    {cbc : Cbc} (hcbc : cbc.Correct) (dumps : JsonObject → String) {sign_key : RsaKey} {d : Nat}
    (hsize : 12 ≤ byte_length sign_key.n)
    (hkey : modular.Undoes sign_key.n sign_key.e d) :
    (∀ keys : SessionKeys, keys.Valid → ∀ data tokens call, ∃ payload,
      build_payload log2_floor cbc dumps keys sign_key data tokens call = .ok payload ∧
        RoundTrips cbc dumps keys sign_key d data payload) ↔
      log2_floor sign_key.n ≠ 8 * byte_length sign_key.n := by
  rcases block_size_cases hlog (pos_of_byte_length hsize) with ⟨hlog2, hblock⟩ | ⟨hlog2, hblock⟩
  · refine iff_of_true ?_ hlog2
    exact fun keys hkeys data tokens call =>
      round_trips_of_block_size hcbc hkeys hsize hkey hblock tokens call
  · refine iff_of_false ?_ (not_not_intro hlog2)
    intro h
    obtain ⟨data_b64, hdata, -⟩ := open_aes_encrypt hcbc
      (zero_keys_valid 0).aes_key.length_encode (zero_keys_valid 0).aes_iv.length_encode (dumps [])
    -- a longer hash takes the signature to another number of blocks
    obtain ⟨zeros, hcount⟩ := exists_count (by omega : 1 < byte_length sign_key.n)
      (by omega : 0 < byte_length sign_key.n - 10)
      (text.encode (sign_text (zero_keys 0) data_b64.length)).length
    have hblocks : ¬ byte_length sign_key.n ∣ (blockwise.blocks (byte_length sign_key.n - 10)
        (text.encode (sign_text (zero_keys zeros) data_b64.length))).length := by
      rwa [blockwise.length_blocks (by omega), length_sign_text_zeros]
    have hencode : encode_data cbc dumps (zero_keys zeros) [] = .ok data_b64 := hdata
    obtain ⟨payload, hrun, hround⟩ := h (zero_keys zeros) (zero_keys_valid zeros) [] ones 0
    exact not_round_trips_of_block_size hencode hsize hblock hblocks ones 0 hrun hround

/-! ## Two sign keys -/

/-- The logarithm as a float has it, where only the conversion of the number is rounded. -/
def nearest_log2 (n : Nat) : Nat := Nat.log2 (n + n / 2 ^ 54)

theorem nearest_log2_rounded : Rounded nearest_log2 where
  at_least n hn := by
    have hle : 2 ^ Nat.log2 n ≤ n := Nat.log2_self_le (Nat.ne_of_gt hn)
    rw [nearest_log2, Nat.le_log2 (by omega)]
    omega
  at_most n hn := by
    have hlt : n < 2 ^ (Nat.log2 n + 1) := Nat.lt_log2_self
    have hmore : n / 2 ^ 54 ≤ n := Nat.div_le_self n _
    have hstrict : Nat.log2 (n + n / 2 ^ 54) < Nat.log2 n + 2 := by
      have hnext : 2 ^ (Nat.log2 n + 2) = 2 ^ (Nat.log2 n + 1) * 2 := Nat.pow_succ ..
      rw [Nat.log2_lt (by omega)]
      omega
    exact Nat.le_of_lt_succ hstrict

def request_keys : SessionKeys where
  aes_key := "1234567890123456"
  aes_iv := "6543210987654321"
  session_hash := "aaaaaaaaaaaaaaaaaaaaaaaaaaaaaaaa"
  seq := 1000

theorem request_keys_valid : request_keys.Valid where
  aes_key := (⟨rfl, List.all_eq_true.mp (by decide)⟩ : Digits16 "1234567890123456")
  aes_iv := (⟨rfl, List.all_eq_true.mp (by decide)⟩ : Digits16 "6543210987654321")
  session_hash := List.all_eq_true.mp (by decide)
  seq := by decide

def read_request : JsonObject := [("operation", .str "read")]

/-- `{"operation":"read"}` with its padding. -/
def plain_blocks : List UInt8 :=
  [123, 34, 111, 112, 101, 114, 97, 116, 105, 111, 110, 34, 58, 34, 114, 101, 97, 100, 34, 125,
    12, 12, 12, 12, 12, 12, 12, 12, 12, 12, 12, 12]

/-- These blocks, encrypted under the key and the initial vector of `request_keys`. -/
def cipher_blocks : List UInt8 :=
  [125, 21, 172, 90, 229, 62, 100, 175, 97, 49, 215, 98, 188, 132, 82, 14,
    237, 151, 239, 179, 210, 22, 30, 116, 40, 99, 223, 246, 25, 36, 29, 168]

def exchange (data : List UInt8) : List UInt8 :=
  if data = plain_blocks then cipher_blocks
  else if data = cipher_blocks then plain_blocks
  else data

/-- A cipher that encrypts the read request as AES does. -/
def request_cbc : Cbc where
  pad := pkcs7_pad
  encrypt _ _ data := .ok (exchange data)
  decrypt _ _ data := .ok (exchange data)

theorem request_cbc_correct : request_cbc.Correct where
  pads _ := rfl
  decrypt_encrypt _ _ data _ _ _ := by
    have hdiffer : cipher_blocks ≠ plain_blocks := by decide
    refine ⟨exchange data, rfl, congrArg Except.ok ?_⟩
    by_cases hplain : data = plain_blocks
    · rw [hplain, exchange, exchange, if_pos rfl, if_neg hdiffer, if_pos rfl]
    · by_cases hcipher : data = cipher_blocks
      · rw [hcipher, exchange, exchange, if_neg hdiffer, if_pos rfl, if_pos rfl]
      · have hsame : exchange data = data := by rw [exchange, if_neg hplain, if_neg hcipher]
        rw [hsame, hsame]

/-- Under a key that is not close to a power of 2, the read request is read back. -/
theorem the_read_request_round_trips :
    ∃ payload, build_payload nearest_log2 request_cbc (fun data => dumps (fun _ => "") (.obj data))
        request_keys plain_key read_request ones 0 = .ok payload ∧
      RoundTrips request_cbc (fun data => dumps (fun _ => "") (.obj data)) request_keys plain_key
        5418832833323503982118633473 read_request payload :=
  (payloads_round_trip_exactly nearest_log2_rounded request_cbc_correct _ (by decide)
    undoes_plain_key).mpr (by decide) request_keys request_keys_valid read_request ones 0

theorem encode_read_request :
    encode_data request_cbc (fun data => dumps (fun _ => "") (.obj data)) request_keys
      read_request = .ok "fRWsWuU+ZK9hMddivIRSDu2X77PSFh50KGPf9hkkHag=" := by
  decide +kernel

/-- Under the key close to a power of 256, the signature of the read request is not read back:
its 40 blocks have 26 digits each, and 1040 digits are no blocks of 24. -/
theorem the_read_request_is_lost :
    Rounded nearest_log2 ∧ request_cbc.Correct ∧ request_keys.Valid ∧
      12 ≤ byte_length close_key.n ∧
      modular.Undoes close_key.n close_key.e 2909907208697636884264988525 ∧
      ∃ payload, build_payload nearest_log2 request_cbc
          (fun data => dumps (fun _ => "") (.obj data)) request_keys close_key read_request ones 0 =
            .ok payload ∧
        ¬ RoundTrips request_cbc (fun data => dumps (fun _ => "") (.obj data)) request_keys
          close_key 2909907208697636884264988525 read_request payload := by
  refine ⟨nearest_log2_rounded, request_cbc_correct, request_keys_valid, by decide,
    undoes_close_key, ?_⟩
  have hblock : block_size nearest_log2 close_key.n = 13 := by decide
  have hbytes : byte_length close_key.n = 12 := by decide
  obtain ⟨digits, later, -, hrun, -⟩ := build_payload_spec encode_read_request
    (by decide : 0 < close_key.n) (by omega : 11 < block_size nearest_log2 close_key.n) ones 0
  refine ⟨_, hrun, not_round_trips_of_block_size encode_read_request (by omega) (by omega) ?_
    ones 0 hrun⟩
  have hlength : (text.encode (sign_text request_keys
      "fRWsWuU+ZK9hMddivIRSDu2X77PSFh50KGPf9hkkHag=".length)).length = 79 := by
    decide +kernel
  rw [hbytes, blockwise.length_blocks (by decide), hlength]
  decide

end tplink_deco_api.auth
