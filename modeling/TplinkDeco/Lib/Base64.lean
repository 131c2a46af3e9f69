-- The Base64 of the `binascii` module of Python. The decoder skips every character that is not
-- a letter of the code.
import Mathlib.Tactic.Common

namespace base64

/-! ## The letters -/

def letter (n : Nat) : Char :=
  if n < 26 then Char.ofNat (65 + n)
  else if n < 52 then Char.ofNat (97 + (n - 26))
  else if n < 62 then Char.ofNat (48 + (n - 52))
  else if n = 62 then '+'
  else '/'

def value (c : Char) : Option Nat :=
  let code := c.toNat
  if 65 ≤ code ∧ code ≤ 90 then some (code - 65)
  else if 97 ≤ code ∧ code ≤ 122 then some (code - 97 + 26)
  else if 48 ≤ code ∧ code ≤ 57 then some (code - 48 + 52)
  else if c = '+' then some 62
  else if c = '/' then some 63
  else none

theorem value_letter : ∀ n < 64, value (letter n) = some n := by decide

theorem letter_ne_pad : ∀ n < 64, letter n ≠ '=' := by decide

/-- The letters are ASCII. -/
theorem letter_lt : ∀ n < 64, (letter n).toNat < 128 := by decide

/-! ## The codec -/

/-- `b64encode(data).decode()`. -/
def encode : List UInt8 → List Char
  | [] => []
  | [a] => [letter (a.toNat / 4), letter (a.toNat % 4 * 16), '=', '=']
  | [a, b] => [letter (a.toNat / 4), letter (a.toNat % 4 * 16 + b.toNat / 16),
      letter (b.toNat % 16 * 4), '=']
  | a :: b :: c :: rest => letter (a.toNat / 4) :: letter (a.toNat % 4 * 16 + b.toNat / 16) ::
      letter (b.toNat % 16 * 4 + c.toNat / 64) :: letter (c.toNat % 64) :: encode rest

/-- The scan of `a2b_base64`: the place in the group of four, the bits that are left of the
letter before, and the padding so far. The error is the text of a `binascii.Error`. -/
def scan : List Char → Nat → Nat → Nat → List UInt8 → Except String (List UInt8)
  | [], place, _, _, out =>
    if place = 0 then .ok out
    else if place = 1 then
      .error ("Invalid base64-encoded string: number of data characters (" ++
        toString (out.length / 3 * 4 + 1) ++ ") cannot be 1 more than a multiple of 4")
    else .error "Incorrect padding"
  | c :: cs, place, left, pads, out =>
    if c = '=' then
      if place < 2 then scan cs place left pads out
      -- enough padding ends the data
      else if place + pads + 1 ≥ 4 then .ok out
      else scan cs place left (pads + 1) out
    else
      match value c with
      | none => scan cs place left pads out
      | some v =>
        match place with
        | 0 => scan cs 1 v 0 out
        | 1 => scan cs 2 (v % 16) 0 (out ++ [UInt8.ofNat (left * 4 + v / 16)])
        | 2 => scan cs 3 (v % 4) 0 (out ++ [UInt8.ofNat (left * 16 + v / 4)])
        | _ => scan cs 0 0 0 (out ++ [UInt8.ofNat (left * 64 + v)])

/-- `b64decode(text)`. -/
def decode (text : List Char) : Except String (List UInt8) :=
  if text.all fun c => c.toNat < 128 then scan text 0 0 0 []
  else .error "string argument should contain only ASCII characters"

example : encode [77, 97, 110, 33] = "TWFuIQ==".toList ∧ decode "TWF\nuIQ==x".toList =
    .ok [77, 97, 110, 33] := by decide

/-! ## The round trip -/

section

variable {v left pads : Nat} {cs : List Char} {out : List UInt8}

theorem scan_first (hv : v < 64) : scan (letter v :: cs) 0 left pads out = scan cs 1 v 0 out := by
  rw [scan, if_neg (letter_ne_pad v hv), value_letter v hv]
  rfl

theorem scan_second (hv : v < 64) : scan (letter v :: cs) 1 left pads out =
    scan cs 2 (v % 16) 0 (out ++ [UInt8.ofNat (left * 4 + v / 16)]) := by
  rw [scan, if_neg (letter_ne_pad v hv), value_letter v hv]
  rfl

theorem scan_third (hv : v < 64) : scan (letter v :: cs) 2 left pads out =
    scan cs 3 (v % 4) 0 (out ++ [UInt8.ofNat (left * 16 + v / 4)]) := by
  rw [scan, if_neg (letter_ne_pad v hv), value_letter v hv]
  rfl

theorem scan_fourth (hv : v < 64) : scan (letter v :: cs) 3 left pads out =
    scan cs 0 0 0 (out ++ [UInt8.ofNat (left * 64 + v)]) := by
  rw [scan, if_neg (letter_ne_pad v hv), value_letter v hv]
  rfl

end

theorem scan_encode (data out : List UInt8) : scan (encode data) 0 0 0 out = .ok (out ++ data) := by
  induction data using encode.induct generalizing out with
  | case1 => rw [encode, scan, if_pos rfl, List.append_nil]
  | case2 a =>
    have ha := a.toNat_lt
    have h1 : a.toNat / 4 * 4 + a.toNat % 4 * 16 / 16 = a.toNat := by omega
    rw [encode, scan_first (by omega), scan_second (by omega), h1, UInt8.ofNat_toNat]
    rfl
  | case3 a b =>
    have ha := a.toNat_lt
    have hb := b.toNat_lt
    have h1 : a.toNat / 4 * 4 + (a.toNat % 4 * 16 + b.toNat / 16) / 16 = a.toNat := by omega
    have h2 : (a.toNat % 4 * 16 + b.toNat / 16) % 16 * 16 + b.toNat % 16 * 4 / 4 = b.toNat := by
      omega
    rw [encode, scan_first (by omega), scan_second (by omega), scan_third (by omega), h1, h2,
      UInt8.ofNat_toNat, UInt8.ofNat_toNat, List.append_assoc]
    rfl
  | case4 a b c rest ih =>
    have ha := a.toNat_lt
    have hb := b.toNat_lt
    have hc := c.toNat_lt
    have h1 : a.toNat / 4 * 4 + (a.toNat % 4 * 16 + b.toNat / 16) / 16 = a.toNat := by omega
    have h2 : (a.toNat % 4 * 16 + b.toNat / 16) % 16 * 16 + (b.toNat % 16 * 4 + c.toNat / 64) / 4 =
        b.toNat := by omega
    have h3 : (b.toNat % 16 * 4 + c.toNat / 64) % 4 * 64 + c.toNat % 64 = c.toNat := by omega
    rw [encode, scan_first (by omega), scan_second (by omega), scan_third (by omega),
      scan_fourth (by omega), h1, h2, h3, UInt8.ofNat_toNat, UInt8.ofNat_toNat,
      UInt8.ofNat_toNat, ih]
    simp

/-- The text is ASCII. -/
theorem encode_ascii (data : List UInt8) : ∀ c ∈ encode data, c.toNat < 128 := by
  have hpad : '='.toNat < 128 := by decide
  induction data using encode.induct with
  | case1 => simp [encode]
  | case2 a =>
    have ha := a.toNat_lt
    simp only [encode, List.forall_mem_cons]
    exact ⟨letter_lt _ (by omega), letter_lt _ (by omega), hpad, hpad, by simp⟩
  | case3 a b =>
    have ha := a.toNat_lt
    have hb := b.toNat_lt
    simp only [encode, List.forall_mem_cons]
    exact ⟨letter_lt _ (by omega), letter_lt _ (by omega), letter_lt _ (by omega), hpad, by simp⟩
  | case4 a b c rest ih =>
    have ha := a.toNat_lt
    have hb := b.toNat_lt
    have hc := c.toNat_lt
    simp only [encode, List.forall_mem_cons]
    exact ⟨letter_lt _ (by omega), letter_lt _ (by omega), letter_lt _ (by omega),
      letter_lt _ (by omega), ih⟩

theorem decode_encode (data : List UInt8) : decode (encode data) = .ok data := by
  unfold decode
  rw [if_pos (by simpa using encode_ascii data), scan_encode, List.nil_append]

end base64
