-- The AES-CBC encryption of the requests, the decryption of the responses, and that of the other
-- side. The cipher and its padder are a parameter.
import TplinkDeco.Exceptions
import TplinkDeco.Lib.Base64
import TplinkDeco.Lib.Text
import Mathlib.Logic.Equiv.Basic

open tplink_deco_api.exceptions

namespace tplink_deco_api.crypto

/-- What the cipher package gives: `PKCS7(128).padder()` on all of the data, and
`Cipher(algorithms.AES(key), modes.CBC(iv))` in its two directions, on the key, the initial vector
and all of the data. -/
structure Cbc where
  pad : List UInt8 → List UInt8
  encrypt : List UInt8 → List UInt8 → List UInt8 → Except PyError (List UInt8)
  decrypt : List UInt8 → List UInt8 → List UInt8 → Except PyError (List UInt8)

/-! ## The padding -/

/-- PKCS#7 for blocks of 16 bytes: one to sixteen bytes, each of which is their number. -/
def pkcs7_pad (data : List UInt8) : List UInt8 :=
  let missing := 16 - data.length % 16
  data ++ List.replicate missing (UInt8.ofNat missing)

/-- The padder pads as PKCS#7 has it. With a key and an initial vector of one block, whole blocks
are read back. -/
structure Cbc.Correct (cbc : Cbc) : Prop where
  pads : ∀ data, cbc.pad data = pkcs7_pad data
  decrypt_encrypt : ∀ key iv data, key.length = 16 → iv.length = 16 → 16 ∣ data.length →
    ∃ enc, cbc.encrypt key iv data = .ok enc ∧ cbc.decrypt key iv enc = .ok data

/-- The data in front of a valid padding. -/
def pkcs7_unpad (padded : List UInt8) : Option (List UInt8) :=
  padded.getLast?.bind fun last =>
    let n := last.toNat
    let size := padded.length - n
    if 1 ≤ n ∧ n ≤ 16 ∧ padded.drop size = List.replicate n last then some (padded.take size)
    else none

theorem dvd_length_pkcs7_pad (data : List UInt8) : 16 ∣ (pkcs7_pad data).length := by
  rw [pkcs7_pad, List.length_append, List.length_replicate]
  omega

theorem getLast?_pkcs7_pad (data : List UInt8) :
    (pkcs7_pad data).getLast? = some (UInt8.ofNat (16 - data.length % 16)) := by
  have hmod : data.length % 16 < 16 := Nat.mod_lt _ (by decide)
  rw [pkcs7_pad, List.getLast?_append_of_ne_nil, List.getLast?_replicate, if_neg (by omega)]
  rw [Ne, List.replicate_eq_nil_iff]
  omega

theorem pkcs7_unpad_pad (data : List UInt8) : pkcs7_unpad (pkcs7_pad data) = some data := by
  have hmod : data.length % 16 < 16 := Nat.mod_lt _ (by decide)
  have hback : (UInt8.ofNat (16 - data.length % 16)).toNat = 16 - data.length % 16 :=
    UInt8.toNat_ofNat_of_lt' (Nat.lt_of_le_of_lt (Nat.sub_le 16 _) (by decide))
  have hsize : (pkcs7_pad data).length - (16 - data.length % 16) = data.length := by
    rw [pkcs7_pad, List.length_append, List.length_replicate, Nat.add_sub_cancel]
  rw [pkcs7_unpad, getLast?_pkcs7_pad, Option.bind_some]
  dsimp only
  rw [hback, hsize, pkcs7_pad, List.drop_left, List.take_left,
    if_pos ⟨by omega, Nat.sub_le 16 _, rfl⟩]

/-! ## The text -/

def aes_encrypt (cbc : Cbc) (key iv plaintext : String) : Except PyError String := do
  let padded := cbc.pad (text.encode plaintext)
  let enc ← cbc.encrypt (text.encode key) (text.encode iv) padded
  return String.ofList (base64.encode enc)

/-- The text behind Base64, the cipher and the padding. -/
def open_data (cbc : Cbc) (key iv data : String) : Option String := do
  let enc ← (base64.decode data.toList).toOption
  let padded ← (cbc.decrypt (text.encode key) (text.encode iv) enc).toOption
  let plaintext ← pkcs7_unpad padded
  text.decode plaintext

theorem open_aes_encrypt {cbc : Cbc} (hcbc : cbc.Correct) {key iv : String}
    (hkey : (text.encode key).length = 16) (hiv : (text.encode iv).length = 16)
    (plaintext : String) : ∃ data, aes_encrypt cbc key iv plaintext = .ok data ∧
      open_data cbc key iv data = some plaintext := by
  obtain ⟨enc, hencrypt, hdecrypt⟩ :=
    hcbc.decrypt_encrypt _ _ _ hkey hiv (dvd_length_pkcs7_pad (text.encode plaintext))
  refine ⟨String.ofList (base64.encode enc), ?_, ?_⟩
  · rw [aes_encrypt, hcbc.pads, hencrypt]
    rfl
  · rw [open_data, String.toList_ofList, base64.decode_encode]
    change ((cbc.decrypt (text.encode key) (text.encode iv) enc).toOption.bind fun padded =>
      (pkcs7_unpad padded).bind text.decode) = _
    rw [hdecrypt, Except.toOption, Option.bind_some, pkcs7_unpad_pad, Option.bind_some,
      text.decode_encode]

/-! ## The responses -/

/-- The padder pads as PKCS#7 has it. The cipher takes the keys of AES and whole blocks, and reads
back all that it gave. -/
structure Cbc.Inverse (cbc : Cbc) : Prop where
  pads : ∀ data, cbc.pad data = pkcs7_pad data
  encrypts : ∀ key iv data, key.length ∈ [16, 24, 32] → iv.length = 16 → 16 ∣ data.length →
    ∃ enc, cbc.encrypt key iv data = .ok enc
  decrypts : ∀ key iv data enc, cbc.encrypt key iv data = .ok enc →
    cbc.decrypt key iv enc = .ok data

theorem Cbc.Inverse.correct {cbc : Cbc} (h : cbc.Inverse) : cbc.Correct where
  pads := h.pads
  decrypt_encrypt key iv data hkey hiv hdata := by
    obtain ⟨enc, henc⟩ := h.encrypts key iv data (by simp [hkey]) hiv hdata
    exact ⟨enc, henc, h.decrypts key iv data enc henc⟩

/-- `raw[:-n]`, in which `-0` is the start. -/
def slice_to_last (raw : List UInt8) (n : Nat) : List UInt8 :=
  if n = 0 then [] else raw.take (raw.length - n)

section

variable (cbc : Cbc) (undecodable : List UInt8 → String) (key iv : String)

def b64decode (ciphertext_b64 : String) : Except PyError (List UInt8) :=
  (base64.decode ciphertext_b64.toList).mapError value_error

/-- What the cipher gives for a text in Base64. -/
def raw_data (ciphertext_b64 : String) : Except PyError (List UInt8) := do
  let ct ← b64decode ciphertext_b64
  cbc.decrypt (text.encode key) (text.encode iv) ct

/-- `raw[:-raw[-1]].decode()`. The text of a `UnicodeDecodeError` is a parameter. -/
def strip_pad (raw : List UInt8) : Except PyError String :=
  match raw.getLast? with
  -- an `IndexError`
  | none => .error { cls := .LookupError, message := "index out of range" }
  | some n_pad =>
    let data := slice_to_last raw n_pad.toNat
    match text.decode data with
    | some plaintext => .ok plaintext
    | none => .error { cls := .UnicodeDecodeError, message := undecodable data }

def aes_decrypt (ciphertext_b64 : String) : Except PyError String :=
  let attempt := do
    let raw ← raw_data cbc key iv ciphertext_b64
    strip_pad undecodable raw
  attempt.mapError fun exc =>
    { cls := .CryptoError, message := s!"Failed to decrypt AES payload: {exc.message}" }

end

section

variable {cbc : Cbc} {undecodable : List UInt8 → String} {key iv ciphertext_b64 : String}
  {raw : List UInt8}

theorem slice_to_last_pad (data : List UInt8) :
    ∃ last, (pkcs7_pad data).getLast? = some last ∧
      slice_to_last (pkcs7_pad data) last.toNat = data := by
  have hback : (UInt8.ofNat (16 - data.length % 16)).toNat = 16 - data.length % 16 :=
    UInt8.toNat_ofNat_of_lt' (Nat.lt_of_le_of_lt (Nat.sub_le 16 _) (by decide))
  refine ⟨UInt8.ofNat (16 - data.length % 16), getLast?_pkcs7_pad data, ?_⟩
  rw [slice_to_last, hback, if_neg (by omega), pkcs7_pad, List.length_append,
    List.length_replicate, Nat.add_sub_cancel, List.take_left]

theorem decode_nil : text.decode [] = some "" := text.decode_encode ""

/-- What is raised: only that there is no last byte, or that the bytes in front of the last ones
are no text. -/
theorem strip_pad_raises_iff (raw : List UInt8) :
    (∃ exc, strip_pad undecodable raw = .error exc) ↔
      raw = [] ∨ ∃ n ∈ raw.getLast?, 1 ≤ n.toNat ∧ n.toNat < raw.length ∧
        text.decode (raw.take (raw.length - n.toNat)) = none := by
  unfold strip_pad
  cases hlast : raw.getLast? with
  | none => simp [List.getLast?_eq_none_iff.mp hlast]
  | some n =>
    have hne : raw ≠ [] := by
      rintro rfl
      cases hlast
    simp only [hne, false_or, Option.mem_some_iff, exists_eq_left']
    by_cases hzero : n.toNat = 0
    · simp [slice_to_last, hzero, decode_nil]
    · by_cases hsize : n.toNat < raw.length
      · have hone : 1 ≤ n.toNat := by omega
        simp only [slice_to_last, if_neg hzero, hone, hsize, true_and]
        cases text.decode (raw.take (raw.length - n.toNat)) <;> simp
      · have hstart : raw.length - n.toNat = 0 := by omega
        simp [slice_to_last, hzero, hstart, hsize, decode_nil]

theorem raw_data_encode (data : List UInt8) :
    raw_data cbc key iv (String.ofList (base64.encode data)) =
      cbc.decrypt (text.encode key) (text.encode iv) data := by
  rw [raw_data, b64decode, String.toList_ofList, base64.decode_encode]
  rfl

theorem aes_decrypt_of_raw (h : raw_data cbc key iv ciphertext_b64 = .ok raw) :
    aes_decrypt cbc undecodable key iv ciphertext_b64 =
      (strip_pad undecodable raw).mapError fun exc =>
        { cls := .CryptoError, message := s!"Failed to decrypt AES payload: {exc.message}" } := by
  rw [aes_decrypt, h]
  rfl

theorem aes_decrypt_raises_iff (h : raw_data cbc key iv ciphertext_b64 = .ok raw) :
    (∃ exc, aes_decrypt cbc undecodable key iv ciphertext_b64 = .error exc ∧
      exc.cls = .CryptoError) ↔ ∃ exc, strip_pad undecodable raw = .error exc := by
  rw [aes_decrypt_of_raw h]
  cases strip_pad undecodable raw <;> simp [Except.mapError]

/-- What was encrypted is read back. -/
theorem aes_decrypt_aes_encrypt (hcbc : cbc.Inverse) {plaintext : String}
    (h : aes_encrypt cbc key iv plaintext = .ok ciphertext_b64) :
    aes_decrypt cbc undecodable key iv ciphertext_b64 = .ok plaintext := by
  rw [aes_encrypt, bind_eq_ok, hcbc.pads] at h
  obtain ⟨enc, henc, h⟩ := h
  obtain rfl := Except.ok.inj h
  have hraw : raw_data cbc key iv (String.ofList (base64.encode enc)) =
      .ok (pkcs7_pad (text.encode plaintext)) := by
    rw [raw_data_encode, hcbc.decrypts _ _ _ _ henc]
  obtain ⟨last, hlast, hdata⟩ := slice_to_last_pad (text.encode plaintext)
  rw [aes_decrypt_of_raw hraw, strip_pad, hlast]
  simp only [hdata, text.decode_encode]
  rfl

end

/-- A text is read back. The padding of other data is not checked: they raise only where they are
empty, or where the bytes in front of the last ones are no text. -/
theorem aes_decrypt_checks_no_padding {cbc : Cbc} (hcbc : cbc.Inverse)
    (undecodable : List UInt8 → String) (key iv : String) :
    ((text.encode key).length ∈ [16, 24, 32] → (text.encode iv).length = 16 →
      ∀ plaintext, ∃ data, aes_encrypt cbc key iv plaintext = .ok data) ∧
    (∀ plaintext data, aes_encrypt cbc key iv plaintext = .ok data →
      aes_decrypt cbc undecodable key iv data = .ok plaintext) ∧
    ∀ ciphertext_b64 raw, raw_data cbc key iv ciphertext_b64 = .ok raw →
      ((pkcs7_unpad raw = none →
          ∃ exc, aes_decrypt cbc undecodable key iv ciphertext_b64 = .error exc ∧
            exc.cls = .CryptoError) ↔
        pkcs7_unpad raw ≠ none ∨ raw = [] ∨ ∃ n ∈ raw.getLast?,
          1 ≤ n.toNat ∧ n.toNat < raw.length ∧
            text.decode (raw.take (raw.length - n.toNat)) = none) := by
  refine ⟨?_, ?_, ?_⟩
  · intro hkey hiv plaintext
    obtain ⟨enc, henc⟩ :=
      hcbc.encrypts _ _ _ hkey hiv (dvd_length_pkcs7_pad (text.encode plaintext))
    rw [aes_encrypt, hcbc.pads, henc]
    exact ⟨_, rfl⟩
  · exact fun plaintext data h => aes_decrypt_aes_encrypt hcbc h
  · intro ciphertext_b64 raw hraw
    rw [aes_decrypt_raises_iff hraw, strip_pad_raises_iff]
    by_cases hpad : pkcs7_unpad raw = none <;> simp [hpad]

/-! ### A block that is not padded -/

/-- `{"error_code":0}`. -/
def bare_block : List UInt8 :=
  [123, 34, 101, 114, 114, 111, 114, 95, 99, 111, 100, 101, 34, 58, 48, 125]

/-- The block, encrypted under the key `1234567890123456` and the initial vector
`6543210987654321`. -/
def bare_cipher : List UInt8 :=
  [73, 54, 79, 9, 189, 241, 92, 122, 151, 215, 193, 60, 102, 119, 155, 101]

/-- A cipher that encrypts the block as AES does. -/
def bare_cbc : Cbc where
  pad := pkcs7_pad
  encrypt _ _ data := .ok (Equiv.swap bare_block bare_cipher data)
  decrypt _ _ data := .ok (Equiv.swap bare_block bare_cipher data)

theorem bare_cbc_inverse : bare_cbc.Inverse where
  pads _ := rfl
  encrypts _ _ data _ _ _ := ⟨_, rfl⟩
  decrypts _ _ data enc h := by
    rw [← Except.ok.inj h]
    exact congrArg Except.ok (Equiv.swap_apply_self bare_block bare_cipher data)

theorem bare_raw : raw_data bare_cbc "1234567890123456" "6543210987654321"
    "STZPCb3xXHqX18E8ZnebZQ==" = .ok bare_block := by
  have htext : "STZPCb3xXHqX18E8ZnebZQ==" = String.ofList (base64.encode bare_cipher) := by decide
  rw [htext, raw_data_encode]
  exact congrArg Except.ok (Equiv.swap_apply_right bare_block bare_cipher)

/-- The last byte is larger than the block, so that nothing is left of it. -/
theorem bare_text (undecodable : List UInt8 → String) :
    aes_decrypt bare_cbc undecodable "1234567890123456" "6543210987654321"
      "STZPCb3xXHqX18E8ZnebZQ==" = .ok "" := by
  have hlast : bare_block.getLast? = some 125 := rfl
  have hdata : slice_to_last bare_block (125 : UInt8).toNat = [] := by decide
  rw [aes_decrypt_of_raw bare_raw, strip_pad, hlast]
  simp only [hdata, decode_nil]
  rfl

/-- Data without a padding, of which the empty text is read. -/
theorem the_bare_block_is_accepted :
    bare_cbc.Inverse ∧
    raw_data bare_cbc "1234567890123456" "6543210987654321" "STZPCb3xXHqX18E8ZnebZQ==" =
      .ok bare_block ∧
    pkcs7_unpad bare_block = none ∧
    aes_decrypt bare_cbc (fun _ => "") "1234567890123456" "6543210987654321"
      "STZPCb3xXHqX18E8ZnebZQ==" = .ok "" :=
  ⟨bare_cbc_inverse, bare_raw, by decide, bare_text _⟩

theorem the_bare_block_meets_no_check :
    (∃ data, aes_encrypt bare_cbc "1234567890123456" "6543210987654321" "ok" = .ok data ∧
      aes_decrypt bare_cbc (fun _ => "") "1234567890123456" "6543210987654321" data = .ok "ok") ∧
    ¬ (pkcs7_unpad bare_block ≠ none ∨ bare_block = [] ∨ ∃ n ∈ bare_block.getLast?,
      1 ≤ n.toNat ∧ n.toNat < bare_block.length ∧
        text.decode (bare_block.take (bare_block.length - n.toNat)) = none) := by
  obtain ⟨hencrypt, hdecrypt, hraises⟩ := aes_decrypt_checks_no_padding bare_cbc_inverse
    (fun _ => "") "1234567890123456" "6543210987654321"
  constructor
  · obtain ⟨data, hdata⟩ := hencrypt (by decide) (by decide) "ok"
    exact ⟨data, hdata, hdecrypt "ok" data hdata⟩
  · intro hcondition
    obtain ⟨exc, hexc, -⟩ := (hraises _ _ bare_raw).mpr hcondition (by decide)
    rw [bare_text] at hexc
    cases hexc

end tplink_deco_api.crypto
