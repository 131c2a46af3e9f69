-- A byte stream behind `recv`. The outside world delivers segments; a call of
-- `recv` gives the next segment, cut to the size it asked for. Everything that
-- reads whole blocks depends on the items of the stream alone, and not on
-- where the segments are cut.
import Mathlib.Tactic.Common
import Mathlib.Data.List.Basic

namespace segments

/-- What one call of `recv` meets: a segment (an empty one is the end of the stream), or
an exception. -/
inductive Arrival (ε : Type) where
  | data (bytes : List UInt8)
  | fail (error : ε)
deriving DecidableEq, Repr

/-- The stream with no segment bounds. -/
inductive Item (ε : Type) where
  | byte (b : UInt8)
  | eof
  | fail (error : ε)
deriving DecidableEq, Repr

/-- What a call of `recv` gives. -/
inductive Received (ε : Type) where
  | bytes (bs : List UInt8)
  | failed (error : ε)
  | nothing
deriving DecidableEq, Repr

variable {ε : Type}

def Arrival.items : Arrival ε → List (Item ε)
  | .data [] => [.eof]
  | .data (b :: bs) => (b :: bs).map .byte
  | .fail e => [.fail e]

def itemsOf (as : List (Arrival ε)) : List (Item ε) := as.flatMap Arrival.items

def Item.byte? : Item ε → Option UInt8
  | .byte b => some b
  | _ => none

/-- The bytes of a stream, in order. -/
def bytesOf (is : List (Item ε)) : List UInt8 := is.filterMap Item.byte?

/-- One `recv` for at most `n` bytes. The rest of a longer segment stays for the next call. -/
def receive (n : Nat) : List (Arrival ε) → Received ε × List (Arrival ε)
  | [] => (.nothing, [])
  | .fail e :: rest => (.failed e, rest)
  | .data bs :: rest =>
    if bs.length ≤ n then (.bytes bs, rest) else (.bytes (bs.take n), .data (bs.drop n) :: rest)

/-! ## Blocks of the stream -/

/-- How the read of a block ends. -/
inductive Taken (ε : Type) where
  | full
  | eof
  | failed (error : ε)
  | nothing
deriving DecidableEq, Repr

/-- Take `n` bytes, or as many as come before something that is no byte. That thing is
taken as well. -/
def takeBlock : Nat → List (Item ε) → List UInt8 × Taken ε × List (Item ε)
  | 0, is => ([], .full, is)
  | _ + 1, [] => ([], .nothing, [])
  | n + 1, .byte b :: is =>
    (b :: (takeBlock n is).1, (takeBlock n is).2.1, (takeBlock n is).2.2)
  | _ + 1, .eof :: is => ([], .eof, is)
  | _ + 1, .fail e :: is => ([], .failed e, is)

@[simp] theorem takeBlock_zero (is : List (Item ε)) : takeBlock 0 is = ([], .full, is) := by
  cases is <;> rfl

@[simp] theorem itemsOf_nil : itemsOf ([] : List (Arrival ε)) = [] := rfl

@[simp] theorem itemsOf_fail (e : ε) (as : List (Arrival ε)) :
    itemsOf (.fail e :: as) = .fail e :: itemsOf as := rfl

@[simp] theorem itemsOf_eof (as : List (Arrival ε)) :
    itemsOf (.data [] :: as) = .eof :: itemsOf as := rfl

theorem itemsOf_data {bs : List UInt8} (h : bs ≠ []) (as : List (Arrival ε)) :
    itemsOf (.data bs :: as) = bs.map .byte ++ itemsOf as := by
  cases bs with
  | nil => exact absurd rfl h
  | cons b bs => rfl

@[simp] theorem bytesOf_nil : bytesOf ([] : List (Item ε)) = [] := rfl

@[simp] theorem bytesOf_byte (b : UInt8) (is : List (Item ε)) :
    bytesOf (.byte b :: is) = b :: bytesOf is := rfl

@[simp] theorem bytesOf_eof (is : List (Item ε)) : bytesOf (.eof :: is) = bytesOf is := rfl

@[simp] theorem bytesOf_fail (e : ε) (is : List (Item ε)) :
    bytesOf (.fail e :: is) = bytesOf is := rfl

@[simp] theorem bytesOf_append (is js : List (Item ε)) :
    bytesOf (is ++ js) = bytesOf is ++ bytesOf js := List.filterMap_append

@[simp] theorem bytesOf_map_byte (bs : List UInt8) :
    bytesOf (bs.map .byte : List (Item ε)) = bs := by
  induction bs with
  | nil => rfl
  | cons b bs ih => simp [ih]

/-- A block of `m + n` bytes is a block of `m` bytes and, if that one is full, a block of
`n` bytes after it. -/
theorem takeBlock_add (m n : Nat) (is : List (Item ε)) :
    takeBlock (m + n) is =
      match takeBlock m is with
      | (bs, .full, rest) => (bs ++ (takeBlock n rest).1, (takeBlock n rest).2)
      | r => r := by
  induction m generalizing is with
  | zero => simp
  | succ m ih =>
    rw [Nat.succ_add]
    cases is with
    | nil => rfl
    | cons i is =>
      cases i with
      | eof => rfl
      | fail e => rfl
      | byte b =>
        simp only [takeBlock]
        rw [ih is]
        rcases takeBlock m is with ⟨bs, t, rest⟩
        cases t <;> rfl

/-- A block that stands in the stream is taken whole. -/
theorem takeBlock_append (bs : List UInt8) (is : List (Item ε)) :
    takeBlock bs.length (bs.map .byte ++ is) = (bs, .full, is) := by
  induction bs with
  | nil => simp
  | cons b bs ih => simp [takeBlock, ih]

/-- The bytes that stand before the end of what is delivered are taken, and nothing comes. -/
theorem takeBlock_short (bs : List UInt8) (n : Nat) (is : List (Item ε)) (h : bs.length < n) :
    takeBlock n (bs.map .byte ++ is) =
      (bs ++ (takeBlock (n - bs.length) is).1, (takeBlock (n - bs.length) is).2) := by
  have hn : n = bs.length + (n - bs.length) := by omega
  conv_lhs => rw [hn, takeBlock_add, takeBlock_append]

theorem takeBlock_full_length {n : Nat} {is rest : List (Item ε)} {bs : List UInt8}
    (h : takeBlock n is = (bs, .full, rest)) : bs.length = n ∧ is = bs.map .byte ++ rest := by
  induction n generalizing is bs with
  | zero =>
    simp only [takeBlock_zero, Prod.mk.injEq, true_and] at h
    obtain ⟨rfl, rfl⟩ := h
    simp
  | succ n ih =>
    cases is with
    | nil => simp [takeBlock] at h
    | cons i is =>
      cases i with
      | eof => simp [takeBlock] at h
      | fail e => simp [takeBlock] at h
      | byte b =>
        simp only [takeBlock, Prod.mk.injEq] at h
        obtain ⟨rfl, ht, hr⟩ := h
        have hn : takeBlock n is = ((takeBlock n is).1, .full, rest) := by rw [← ht, ← hr]
        simp [(ih hn).1, ← (ih hn).2]

/-- A block that failed took what stands before the failure. -/
theorem takeBlock_failed {n : Nat} {is rest : List (Item ε)} {bs : List UInt8} {e : ε}
    (h : takeBlock n is = (bs, .failed e, rest)) :
    bs.length < n ∧ is = bs.map .byte ++ .fail e :: rest := by
  induction n generalizing is bs with
  | zero => simp at h
  | succ n ih =>
    cases is with
    | nil => simp [takeBlock] at h
    | cons i is =>
      cases i with
      | eof => simp [takeBlock] at h
      | fail e' =>
        simp only [takeBlock, Prod.mk.injEq, Taken.failed.injEq] at h
        obtain ⟨rfl, rfl, rfl⟩ := h
        simp
      | byte b =>
        simp only [takeBlock, Prod.mk.injEq] at h
        obtain ⟨rfl, ht, hr⟩ := h
        have hn : takeBlock n is = ((takeBlock n is).1, .failed e, rest) := by rw [← ht, ← hr]
        simp [(ih hn).1, ← (ih hn).2]

theorem takeBlock_suffix (n : Nat) (is : List (Item ε)) : (takeBlock n is).2.2 <:+ is := by
  induction n generalizing is with
  | zero => simp
  | succ n ih =>
    cases is with
    | nil => exact List.suffix_refl _
    | cons i is =>
      cases i with
      | eof => exact List.suffix_cons _ _
      | fail e => exact List.suffix_cons _ _
      | byte b => exact (ih is).trans (List.suffix_cons _ _)

/-- A block that asks for a byte takes an item, unless the stream holds none. -/
theorem takeBlock_shorter {n : Nat} (hn : 0 < n) {is : List (Item ε)} (h : is ≠ []) :
    (takeBlock n is).2.2.length < is.length := by
  obtain ⟨n, rfl⟩ : ∃ k, n = k + 1 := ⟨n - 1, by omega⟩
  cases is with
  | nil => exact absurd rfl h
  | cons i is =>
    have hle := (takeBlock_suffix n is).length_le
    cases i with
    | eof => simp [takeBlock]
    | fail e => simp [takeBlock]
    | byte b => simp only [takeBlock, List.length_cons]; omega

/-! ## One `recv` as a block -/

/-- A `recv` for `n` bytes gives the first bytes of the stream, or what stands at its head
is no byte. -/
theorem receive_cases {n : Nat} (hn : 0 < n) (as : List (Arrival ε)) :
    (receive n as = (.nothing, []) ∧ as = []) ∨
    (∃ e rest, receive n as = (.failed e, rest) ∧ itemsOf as = .fail e :: itemsOf rest) ∨
    (∃ rest, receive n as = (.bytes [], rest) ∧ itemsOf as = .eof :: itemsOf rest) ∨
    (∃ bs rest, receive n as = (.bytes bs, rest) ∧ bs ≠ [] ∧ bs.length ≤ n ∧
      itemsOf as = bs.map .byte ++ itemsOf rest) := by
  rcases as with _ | ⟨a, rest⟩
  · exact Or.inl ⟨rfl, rfl⟩
  · cases a with
    | fail e => exact Or.inr (Or.inl ⟨e, rest, rfl, rfl⟩)
    | data bs =>
      by_cases hb : bs = []
      · subst hb
        exact Or.inr (Or.inr (Or.inl ⟨rest, by simp [receive], rfl⟩))
      · refine Or.inr (Or.inr (Or.inr ?_))
        by_cases hl : bs.length ≤ n
        · exact ⟨bs, rest, by simp [receive, hl], hb, hl, itemsOf_data hb rest⟩
        · refine ⟨bs.take n, .data (bs.drop n) :: rest, by simp [receive, hl], ?_, ?_, ?_⟩
          · simp [hb]
            omega
          · rw [List.length_take]
            omega
          · rw [itemsOf_data hb, itemsOf_data (by simp; omega), ← List.append_assoc,
              ← List.map_append, List.take_append_drop]

/-! ## Streams without some failures -/

variable (keep : ε → Bool)

def Arrival.kept : Arrival ε → Bool
  | .fail e => keep e
  | .data _ => true

def Item.kept : Item ε → Bool
  | .fail e => keep e
  | _ => true

theorem filter_map_byte (bs : List UInt8) :
    (bs.map Item.byte).filter (Item.kept keep) = bs.map .byte := by
  rw [List.filter_eq_self]
  intro i hi
  obtain ⟨b, -, rfl⟩ := List.mem_map.mp hi
  rfl

theorem itemsOf_filter (as : List (Arrival ε)) :
    itemsOf (as.filter (Arrival.kept keep)) = (itemsOf as).filter (Item.kept keep) := by
  induction as with
  | nil => rfl
  | cons a as ih =>
    cases a with
    | fail e =>
      rw [itemsOf_fail]
      cases h : keep e <;> simp [Arrival.kept, Item.kept, h, ih]
    | data bs =>
      rw [List.filter_cons_of_pos (by rfl)]
      by_cases hb : bs = []
      · subst hb
        rw [itemsOf_eof, itemsOf_eof, List.filter_cons_of_pos (by rfl), ih]
      · rw [itemsOf_data hb, itemsOf_data hb, List.filter_append, filter_map_byte, ih]

theorem bytesOf_filter (is : List (Item ε)) :
    bytesOf (is.filter (Item.kept keep)) = bytesOf is := by
  induction is with
  | nil => rfl
  | cons i is ih =>
    cases i with
    | byte b => rw [List.filter_cons_of_pos (by rfl), bytesOf_byte, bytesOf_byte, ih]
    | eof => rw [List.filter_cons_of_pos (by rfl), bytesOf_eof, bytesOf_eof, ih]
    | fail e => cases h : keep e <;> simp [Item.kept, h, ih]

/-- A block that meets none of those failures is the same without them. -/
theorem takeBlock_filter (n : Nat) (is : List (Item ε)) :
    (∃ e, (takeBlock n is).2.1 = .failed e ∧ keep e = false) ∨
      takeBlock n (is.filter (Item.kept keep)) = ((takeBlock n is).1, (takeBlock n is).2.1,
        (takeBlock n is).2.2.filter (Item.kept keep)) := by
  induction n generalizing is with
  | zero => simp
  | succ n ih =>
    cases is with
    | nil => exact Or.inr rfl
    | cons i is =>
      cases i with
      | eof => exact Or.inr rfl
      | fail e =>
        cases h : keep e with
        | false => exact Or.inl ⟨e, rfl, h⟩
        | true =>
          refine Or.inr ?_
          rw [List.filter_cons_of_pos (by simpa [Item.kept] using h)]
          rfl
      | byte b =>
        rw [List.filter_cons_of_pos (by rfl)]
        rcases ih is with hfail | hsame
        · exact Or.inl hfail
        · refine Or.inr ?_
          simp only [takeBlock]
          rw [hsame]

end segments
