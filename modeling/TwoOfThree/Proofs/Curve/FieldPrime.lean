-- SUMMARY: The modulus of the coordinates of curve points is prime, by a certificate that is checked here.
import Mathlib.Data.List.Prime
import Mathlib.NumberTheory.LucasPrimality
import Mathlib.Tactic.NormNum.Prime
import TwoOfThree.Curve.Coordinate

/-!
# The prime of the coordinate field

A number `n` is prime if some power of a root becomes 1 modulo `n` at the exponent
`n - 1` and at none of its quotients by its prime factors. The factors have to be
primes themselves, so the numbers of a certificate are checked one after another,
down to primes that are small enough to be divided out.
-/

namespace TwoOfThree.Curve

/-! ## Powers -/

/-- The power `base ^ exponent` modulo `m`, by repeated squaring. The first argument bounds the
number of bits of the exponent. -/
def powMod (m : Nat) : (bits : Nat) → (base exponent : Nat) → Nat
  | 0, _, _ => 1 % m
  | bits + 1, base, exponent =>
    let rest := powMod m bits (base * base % m) (exponent / 2)
    if exponent % 2 = 1 then rest * base % m else rest

theorem cast_powMod (m : Nat) {bits exponent : Nat} (h : exponent < 2 ^ bits) (base : Nat) :
    (powMod m bits base exponent : ZMod m) = (base : ZMod m) ^ exponent := by
  induction bits generalizing base exponent with
  | zero =>
    obtain rfl : exponent = 0 := by omega
    simp [powMod]
  | succ bits ih =>
    have hhalf : exponent / 2 < 2 ^ bits := by omega
    have hsquare : ((base : ZMod m) * base) ^ (exponent / 2) = base ^ (2 * (exponent / 2)) := by
      rw [← pow_two, ← pow_mul]
    have hrest := ih hhalf (base * base % m)
    rw [ZMod.natCast_mod, Nat.cast_mul, hsquare] at hrest
    unfold powMod
    split
    · next hodd =>
      have hexponent : 2 * (exponent / 2) + 1 = exponent := by omega
      rw [ZMod.natCast_mod, Nat.cast_mul, hrest, ← pow_succ, hexponent]
    · next heven =>
      have hexponent : 2 * (exponent / 2) = exponent := by omega
      rw [hrest, hexponent]

/-! ## Certificates -/

/-- A number with a root, and the prime factors of the number below it, as often as they occur. -/
structure Certificate where
  number : Nat
  root : Nat
  factors : List Nat

namespace Certificate

/-- The number of bits of the numbers that are certified. -/
def bits : Nat := 256

/-- What shows that the number is prime if those in `primes` are. -/
structure Holds (primes : List Nat) (certificate : Certificate) : Prop where
  factors : ∀ q ∈ certificate.factors, q ∈ primes
  product : certificate.factors.prod + 1 = certificate.number
  bounds : 1 < certificate.number ∧ certificate.number ≤ 2 ^ bits
  root : powMod certificate.number bits certificate.root certificate.factors.prod = 1
  order : ∀ q ∈ certificate.factors,
    powMod certificate.number bits certificate.root (certificate.factors.prod / q) ≠ 1

instance (primes : List Nat) (certificate : Certificate) :
    Decidable (certificate.Holds primes) :=
  decidable_of_iff
    ((∀ q ∈ certificate.factors, q ∈ primes) ∧
      certificate.factors.prod + 1 = certificate.number ∧
      (1 < certificate.number ∧ certificate.number ≤ 2 ^ bits) ∧
      powMod certificate.number bits certificate.root certificate.factors.prod = 1 ∧
      ∀ q ∈ certificate.factors,
        powMod certificate.number bits certificate.root (certificate.factors.prod / q) ≠ 1)
    ⟨fun ⟨factors, product, bounds, root, order⟩ => ⟨factors, product, bounds, root, order⟩,
      fun h => ⟨h.factors, h.product, h.bounds, h.root, h.order⟩⟩

theorem powMod_lt {m bits : Nat} (hm : 0 < m) (base exponent : Nat) :
    powMod m bits base exponent < m := by
  induction bits generalizing base exponent with
  | zero => exact Nat.mod_lt _ hm
  | succ bits ih =>
    unfold powMod
    split
    · exact Nat.mod_lt _ hm
    · exact ih _ _

theorem Holds.prime {primes : List Nat} {certificate : Certificate}
    (h : certificate.Holds primes) (hprimes : ∀ q ∈ primes, q.Prime) :
    certificate.number.Prime := by
  obtain ⟨number, root, factors⟩ := certificate
  obtain ⟨hfactors, hproduct, ⟨hone, hbits⟩, hroot, horder⟩ := h
  dsimp only at hfactors hproduct hone hbits hroot horder ⊢
  subst hproduct
  have hpow {exponent : Nat} (hexponent : exponent ≤ factors.prod) :
      (root : ZMod (factors.prod + 1)) ^ exponent = 1 ↔
        powMod (factors.prod + 1) bits root exponent = 1 := by
    have hlt : exponent < 2 ^ bits := by omega
    have hpowMod : powMod (factors.prod + 1) bits root exponent < factors.prod + 1 :=
      powMod_lt (Nat.zero_lt_of_lt hone) root exponent
    rw [← cast_powMod _ hlt]
    constructor
    · intro hcast
      rw [← Nat.cast_one (R := ZMod _), ZMod.natCast_eq_natCast_iff'] at hcast
      rwa [Nat.mod_eq_of_lt hpowMod, Nat.mod_eq_of_lt hone] at hcast
    · intro heq
      rw [heq, Nat.cast_one]
  apply lucas_primality _ (root : ZMod _) ((hpow (Nat.le_refl _)).2 hroot)
  intro q hq hdvd
  -- a prime that divides the product of the factors is one of them
  obtain ⟨factor, hfactor, hqf⟩ := (Prime.dvd_prod_iff hq.prime).1 hdvd
  obtain rfl := (Nat.prime_dvd_prime_iff_eq hq (hprimes factor (hfactors factor hfactor))).1 hqf
  exact fun heq => horder q hfactor ((hpow (Nat.div_le_self _ _)).1 heq)

/-- Every certificate holds, given the primes and the numbers of the certificates before it. -/
def Chain (primes : List Nat) : List Certificate → Prop
  | [] => True
  | certificate :: rest =>
    certificate.Holds primes ∧ Chain (certificate.number :: primes) rest

instance (primes : List Nat) : (certificates : List Certificate) →
    Decidable (Chain primes certificates)
  | [] => isTrue trivial
  | certificate :: rest =>
    have := instDecidableChain (certificate.number :: primes) rest
    inferInstanceAs (Decidable (_ ∧ _))

theorem Chain.prime {primes : List Nat} {certificates : List Certificate}
    (h : Chain primes certificates) (hprimes : ∀ q ∈ primes, q.Prime) :
    ∀ certificate ∈ certificates, certificate.number.Prime := by
  induction certificates generalizing primes with
  | nil => exact nofun
  | cons certificate rest ih =>
    have hfirst := h.1.prime hprimes
    exact List.forall_mem_cons.2 ⟨hfirst, ih h.2 (List.forall_mem_cons.2 ⟨hfirst, hprimes⟩)⟩

end Certificate

/-! ## The modulus -/

/-- The primes below 100000 that the certificates rest on. -/
def smallPrimes : List Nat :=
  [2, 3, 5, 7, 11, 29, 31, 53, 971, 1373, 1627, 2621, 2657, 4423, 5323, 7723, 13441, 20113, 24809,
    41201, 96557]

def certificates : List Certificate := [
  ⟨13331831, 13, [2, 5, 971, 1373]⟩,
  ⟨173378833005251801, 6, [2, 2, 2, 5, 5, 2621, 24809, 13331831]⟩,
  ⟨22149492674086928081353, 5, [2, 2, 2, 3, 5323, 173378833005251801]⟩,
  ⟨132896956044521568488119, 6, [2, 3, 22149492674086928081353]⟩,
  ⟨1206781, 10, [2, 2, 3, 5, 20113]⟩,
  ⟨7240687, 3, [2, 3, 1206781]⟩,
  ⟨107590001, 3, [2, 2, 2, 2, 5, 5, 5, 5, 7, 29, 53]⟩,
  ⟨255515944373312847190720520512484175977, 3,
    [2, 2, 2, 7, 7, 11, 1627, 2657, 4423, 41201, 96557, 7240687, 107590001]⟩,
  ⟨205115282021455665897114700593932402728804164701536103180137503955397371, 10,
    [2, 3, 5, 29, 29, 31, 7723, 132896956044521568488119,
      255515944373312847190720520512484175977]⟩,
  ⟨p, 3,
    [2, 3, 7, 13441, 205115282021455665897114700593932402728804164701536103180137503955397371]⟩]

theorem prime_p : p.Prime := by
  have hsmall : ∀ q ∈ smallPrimes, q.Prime := by norm_num [smallPrimes]
  have hchain : Certificate.Chain smallPrimes certificates := by decide +kernel
  exact hchain.prime hsmall _ (List.mem_of_getElem? (i := 9) rfl)

end TwoOfThree.Curve
