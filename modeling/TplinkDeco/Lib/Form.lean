-- The body of a form: the `quote_plus` of `urllib.parse`, and the fields that the other side
-- reads.
import TplinkDeco.Lib.Hex
import TplinkDeco.Lib.Text

namespace form

/-! ## The quoting of a text -/

/-- The letters, the digits and `_.-~`. -/
def safe (b : UInt8) : Bool :=
  let code := b.toNat
  (48 ≤ code && code ≤ 57) || (65 ≤ code && code ≤ 90) || (97 ≤ code && code ≤ 122) ||
    code = 95 || code = 46 || code = 45 || code = 126

/-- A digit of the `X` format. -/
def digit (d : Nat) : Char := d.digitChar.toUpper

def quote_byte (b : UInt8) : List Char :=
  if safe b then [Char.ofNat b.toNat]
  else if b = 32 then ['+']
  else ['%', digit (b.toNat / 16), digit (b.toNat % 16)]

def quote_plus (s : String) : List Char := (text.encode s).flatMap quote_byte

/-- The bytes of a character outside a `%` sequence. -/
def plain (c : Char) : List UInt8 := if c = '+' then [32] else String.utf8EncodeChar c

/-- The bytes that a quoted text stands for. A `%` without two digits stands for itself. -/
def unquote : List Char → List UInt8
  | c :: a :: b :: rest =>
    match if c = '%' then hexadecimal.number [a, b] else none with
    | some n => UInt8.ofNat n :: unquote rest
    | none => plain c ++ unquote (a :: b :: rest)
  | cs => cs.flatMap plain

def unquote_plus (cs : List Char) : Option String := text.decode (unquote cs)

/-! ## The fields -/

/-- The name and the value of a part, up to the first `=` and from there. -/
def field (part : List Char) : Option (String × String) := do
  let name ← unquote_plus (part.takeWhile (· != '='))
  let value ← unquote_plus ((part.dropWhile (· != '=')).drop 1)
  return (name, value)

def fields (body : List Char) : Option (List (String × String)) := (body.splitOn '&').mapM field

example : quote_plus "a b+é=" = "a+b%2B%C3%A9%3D".toList ∧
    fields "k=a+b%2B&%6b=v=1".toList = some [("k", "a b+"), ("k", "v=1")] := by decide +kernel

/-! ## The round trip of a text -/

theorem unquote_cons {c : Char} (h : c ≠ '%') (rest : List Char) :
    unquote (c :: rest) = plain c ++ unquote rest := by
  match rest with
  | [] => rfl
  | [_] => rfl
  | _ :: _ :: _ =>
    rw [unquote, if_neg h]

theorem number_digits : ∀ high < 16, ∀ low < 16,
    hexadecimal.number [digit high, digit low] = some (16 * high + low) := by decide

theorem unquote_quote_byte (b : UInt8) (rest : List Char) :
    unquote (quote_byte b ++ rest) = b :: unquote rest := by
  have hb := b.toNat_lt
  unfold quote_byte
  split
  case isTrue h =>
    have hsafe : ∀ n < 256, safe (UInt8.ofNat n) →
        Char.ofNat n ≠ '%' ∧ plain (Char.ofNat n) = [UInt8.ofNat n] := by decide +kernel
    rw [← UInt8.ofNat_toNat (x := b)] at h
    obtain ⟨hne, hplain⟩ := hsafe b.toNat hb h
    rw [List.singleton_append, unquote_cons hne, hplain, UInt8.ofNat_toNat]
    rfl
  case isFalse h =>
    split
    case isTrue hspace =>
      rw [hspace, List.singleton_append, unquote_cons (by decide)]
      rfl
    case isFalse =>
      have hsum : 16 * (b.toNat / 16) + b.toNat % 16 = b.toNat := Nat.div_add_mod _ _
      simp only [List.cons_append, List.nil_append]
      rw [unquote, if_pos rfl, number_digits _ (by omega) _ (by omega), hsum]
      dsimp only
      rw [UInt8.ofNat_toNat]

theorem unquote_quote (data : List UInt8) : unquote (data.flatMap quote_byte) = data := by
  induction data with
  | nil => rfl
  | cons b data ih => rw [List.flatMap_cons, unquote_quote_byte, ih]

/-- A quoted text is read back. -/
theorem unquote_plus_quote_plus (s : String) : unquote_plus (quote_plus s) = some s := by
  rw [unquote_plus, quote_plus, unquote_quote, text.decode_encode]

/-- A text of safe characters stays as it is. -/
theorem quote_plus_of_safe {s : String}
    (h : ∀ c ∈ s.toList, c.toNat < 128 ∧ safe (UInt8.ofNat c.toNat)) : quote_plus s = s.toList := by
  have hchars : ∀ cs : List Char, (∀ c ∈ cs, c.toNat < 128 ∧ safe (UInt8.ofNat c.toNat)) →
      (cs.flatMap String.utf8EncodeChar).flatMap quote_byte = cs := by
    intro cs
    induction cs with
    | nil => exact fun _ => rfl
    | cons c cs ih =>
      intro h
      obtain ⟨hascii, hsafe⟩ := h c List.mem_cons_self
      have hback : (UInt8.ofNat c.toNat).toNat = c.toNat :=
        UInt8.toNat_ofNat_of_lt' (Nat.lt_trans hascii (by decide))
      have hbyte : quote_byte (UInt8.ofNat c.toNat) = [c] := by
        rw [quote_byte, if_pos hsafe, hback, Char.ofNat_toNat]
      rw [List.flatMap_cons, List.flatMap_append, text.encode_char hascii,
        ih fun d hd => h d (List.mem_cons_of_mem c hd), List.flatMap_singleton, hbyte]
      rfl
  exact hchars s.toList h

/-- Hexadecimal text stays as it is. -/
theorem quote_plus_of_digits {s : String} (h : hexadecimal.Digits s.toList) :
    quote_plus s = s.toList := by
  have hsafe : ∀ n < 128, (hexadecimal.value (Char.ofNat n)).isSome → safe (UInt8.ofNat n) := by
    decide +kernel
  apply quote_plus_of_safe
  intro c hc
  have hascii : c.toNat < 128 := by
    have hbounds := hexadecimal.digit_bounds (h c hc)
    omega
  refine ⟨hascii, hsafe c.toNat hascii ?_⟩
  rw [Char.ofNat_toNat]
  exact h c hc

/-- No separator is left in a quoted text. -/
theorem separators_not_mem (s : String) : '&' ∉ quote_plus s ∧ '=' ∉ quote_plus s := by
  have hbytes : ∀ n < 256, '&' ∉ quote_byte (UInt8.ofNat n) ∧ '=' ∉ quote_byte (UInt8.ofNat n) := by
    decide +kernel
  have hbyte : ∀ b : UInt8, '&' ∉ quote_byte b ∧ '=' ∉ quote_byte b := by
    intro b
    have h := hbytes b.toNat b.toNat_lt
    rwa [UInt8.ofNat_toNat] at h
  unfold quote_plus
  constructor <;> intro h <;> obtain ⟨b, -, hb⟩ := List.mem_flatMap.mp h
  · exact (hbyte b).1 hb
  · exact (hbyte b).2 hb

/-! ## The round trip of the fields -/

theorem field_pair {name value : String} :
    field (quote_plus name ++ '=' :: quote_plus value) = some (name, value) := by
  have hname : ∀ c ∈ quote_plus name, (c != '=') = true := by
    intro c hc
    rw [bne_iff_ne]
    rintro rfl
    exact (separators_not_mem name).2 hc
  have htake : (quote_plus name ++ '=' :: quote_plus value).takeWhile (· != '=') =
      quote_plus name := by
    rw [List.takeWhile_append_of_pos hname, List.takeWhile_cons_of_neg (by decide),
      List.append_nil]
  have hdrop : (quote_plus name ++ '=' :: quote_plus value).dropWhile (· != '=') =
      '=' :: quote_plus value := by
    rw [List.dropWhile_append_of_pos hname, List.dropWhile_cons_of_neg (by decide)]
  unfold field
  rw [htake, hdrop, unquote_plus_quote_plus, List.drop_one, List.tail_cons,
    unquote_plus_quote_plus]
  rfl

/-- The body with these fields, joined as in `f"{name}={value}&..."`. -/
def body (pairs : List (String × String)) : List Char :=
  ['&'].intercalate (pairs.map fun pair => quote_plus pair.1 ++ '=' :: quote_plus pair.2)

theorem ampersand_not_mem_part (name value : String) :
    '&' ∉ quote_plus name ++ '=' :: quote_plus value := by
  rw [List.mem_append, List.mem_cons]
  rintro (h | h | h)
  · exact (separators_not_mem name).1 h
  · cases h
  · exact (separators_not_mem value).1 h

/-- The fields of a body are read back. -/
theorem fields_body {pairs : List (String × String)} (h : pairs ≠ []) :
    fields (body pairs) = some pairs := by
  have hsplit : (body pairs).splitOn '&' =
      pairs.map fun pair => quote_plus pair.1 ++ '=' :: quote_plus pair.2 := by
    apply List.splitOn_intercalate
    · intro part hpart
      obtain ⟨pair, -, rfl⟩ := List.mem_map.mp hpart
      exact ampersand_not_mem_part pair.1 pair.2
    · rwa [Ne, List.map_eq_nil_iff]
  have hmap : ∀ pairs : List (String × String),
      (pairs.map fun pair => quote_plus pair.1 ++ '=' :: quote_plus pair.2).mapM field =
        some pairs := by
    intro pairs
    induction pairs with
    | nil => rfl
    | cons pair pairs ih =>
      rw [List.map_cons, List.mapM_cons, field_pair, ih]
      rfl
  rw [fields, hsplit, hmap]

end form
