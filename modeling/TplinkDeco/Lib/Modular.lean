-- Powers modulo a product of different primes, and certificates that a number is prime.
import Mathlib.Data.Nat.ChineseRemainder
import Mathlib.FieldTheory.Finite.Basic
import Mathlib.NumberTheory.LucasPrimality

namespace modular

/-! ## Powers that are undone -/

/-- `d` undoes the power `e` of the numbers below `n`. -/
def Undoes (n e d : Nat) : Prop := ∀ m < n, (m ^ e % n) ^ d % n = m

/-- An exponent that is one turn of the order too many makes no difference. -/
theorem pow_modEq_self {p k : Nat} (hp : p.Prime) (hpos : 0 < k) (hk : k ≡ 1 [MOD p - 1])
    (m : Nat) : m ^ k ≡ m [MOD p] := by
  by_cases hdvd : p ∣ m
  · have hzero : m ≡ 0 [MOD p] := Nat.modEq_zero_iff_dvd.mpr hdvd
    calc m ^ k ≡ 0 ^ k [MOD p] := hzero.pow k
      _ = 0 := Nat.zero_pow hpos
      _ ≡ m [MOD p] := hzero.symm
  · have hcoprime : m.Coprime p := ((Nat.Prime.coprime_iff_not_dvd hp).mpr hdvd).symm
    have hturn : m ^ (p - 1) ≡ 1 [MOD p] := by
      have h := Nat.ModEq.pow_totient hcoprime
      rwa [Nat.totient_prime hp] at h
    obtain ⟨turns, hturns⟩ := (Nat.modEq_iff_dvd' hpos).mp hk.symm
    have hsum : k = (p - 1) * turns + 1 := by omega
    calc m ^ k = (m ^ (p - 1)) ^ turns * m := by rw [hsum, Nat.pow_succ, Nat.pow_mul]
      _ ≡ 1 ^ turns * m [MOD p] := (hturn.pow turns).mul_right m
      _ = m := by rw [Nat.one_pow, Nat.one_mul]

/-- Two exponents undo each other modulo a product of different primes if they do so in the
order of each prime. -/
theorem undoes_of_primes {primes : List Nat} {e d : Nat} (hprime : ∀ p ∈ primes, p.Prime)
    (hdiff : primes.Nodup) (hpos : 0 < e * d) (h : ∀ p ∈ primes, e * d ≡ 1 [MOD p - 1]) :
    Undoes primes.prod e d := by
  intro m hm
  have hcoprime : primes.Pairwise Nat.Coprime := by
    apply hdiff.imp_of_mem
    intro p q hp hq hne
    exact (Nat.coprime_primes (hprime p hp) (hprime q hq)).mpr hne
  have hself : m ^ (e * d) ≡ m [MOD primes.prod] := by
    rw [Nat.modEq_list_prod_iff hcoprime]
    intro i
    exact pow_modEq_self (hprime _ (List.get_mem primes i)) hpos (h _ (List.get_mem primes i)) m
  calc (m ^ e % primes.prod) ^ d % primes.prod = (m ^ e) ^ d % primes.prod :=
        (Nat.pow_mod (m ^ e) d primes.prod).symm
    _ = m ^ (e * d) % primes.prod := by rw [Nat.pow_mul]
    _ = m % primes.prod := hself
    _ = m := Nat.mod_eq_of_lt hm

/-! ## Prime numbers -/

/-- A number is prime if `a` has the full order modulo it, as the prime factors of the order
show. -/
theorem prime_of_factors {p : Nat} (a : ZMod p) (factors : List Nat)
    (hprime : ∀ q ∈ factors, q.Prime) (hprod : factors.prod = p - 1) (hone : a ^ (p - 1) = 1)
    (hne : ∀ q ∈ factors, a ^ ((p - 1) / q) ≠ 1) : p.Prime := by
  apply lucas_primality p a hone
  intro q hq hdvd
  rw [← hprod, hq.prime.dvd_prod_iff] at hdvd
  obtain ⟨r, hr, hqr⟩ := hdvd
  rw [(Nat.prime_dvd_prime_iff_eq hq (hprime r hr)).mp hqr]
  exact hne r hr

end modular
