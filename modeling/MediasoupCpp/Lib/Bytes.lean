import Mathlib.Data.List.Induction
import Mathlib.Data.UInt

/-!
# Numbers in bytes

A number as a fixed count of bytes, the lowest or the highest first, and back.  Programs do this
by shifting machine words and putting the bytes together with bitwise or; for the highest byte
first it is shown to be the same.

## Main results

* `ofLe_toLe`, `ofBe_toBe` — **a number that fits is read back**.
-/

namespace Bytes

open List

def toLe : ℕ → ℕ → List UInt8
  | 0, _ => []
  | w + 1, n => UInt8.ofNat n :: toLe w (n / 256)

def ofLe : List UInt8 → ℕ
  | [] => 0
  | b :: bs => b.toNat + 256 * ofLe bs

@[simp] theorem length_toLe (w n : ℕ) : (toLe w n).length = w := by
  induction w generalizing n with
  | zero => rfl
  | succ w ih => rw [toLe, length_cons, ih]

theorem ofLe_toLe {w n : ℕ} (h : n < 256 ^ w) : ofLe (toLe w n) = n := by
  induction w generalizing n with
  | zero =>
    rw [Nat.lt_one_iff.mp h]
    rfl
  | succ w ih =>
    have hdiv : n / 256 < 256 ^ w := by
      rw [Nat.div_lt_iff_lt_mul (by decide), ← pow_succ]
      exact h
    have hlow : (UInt8.ofNat n).toNat = n % 256 := UInt8.toNat_ofNat'
    rw [toLe, ofLe, ih hdiv, hlow, Nat.mod_add_div]

def toBe (w n : ℕ) : List UInt8 := (toLe w n).reverse

variable (bs : List UInt8)

def ofBe : ℕ := ofLe bs.reverse

@[simp] theorem length_toBe (w n : ℕ) : (toBe w n).length = w := by
  rw [toBe, length_reverse, length_toLe]

theorem ofBe_toBe {w n : ℕ} (h : n < 256 ^ w) : ofBe (toBe w n) = n := by
  rw [ofBe, toBe, reverse_reverse, ofLe_toLe h]

theorem ofBe_concat (b : UInt8) : ofBe (bs ++ [b]) = 256 * ofBe bs + b.toNat := by
  rw [ofBe, reverse_append, reverse_singleton, singleton_append, ofLe, Nat.add_comm]
  rfl

/-! ### Machine words -/

theorem mul_or_of_lt {i b : ℕ} (a : ℕ) (h : b < 2 ^ i) : 2 ^ i * a ||| b = 2 ^ i * a + b :=
  (Nat.two_pow_add_eq_or_of_lt h a).symm

private theorem and_255 (n : ℕ) : n &&& 255 = n % 256 := Nat.and_two_pow_sub_one_eq_mod n 8

theorem be16_eq (n : UInt16) : [(n >>> 8).toUInt8, (n &&& 0xFF).toUInt8] = toBe 2 n.toNat := by
  have hhigh : (n >>> 8).toUInt8 = UInt8.ofNat (n.toNat / 256) := by
    apply UInt8.toNat_inj.mp
    rw [UInt16.toNat_toUInt8, UInt16.toNat_shiftRight, UInt8.toNat_ofNat',
      Nat.shiftRight_eq_div_pow]
    rfl
  have hlow : (n &&& 0xFF).toUInt8 = UInt8.ofNat n.toNat := by
    apply UInt8.toNat_inj.mp
    rw [UInt16.toNat_toUInt8, UInt16.toNat_and, UInt8.toNat_ofNat', show (255 : UInt16).toNat = 255
      from rfl, and_255, Nat.mod_mod]
  rw [hhigh, hlow]
  rfl

theorem toNat_or_be16 (b₀ b₁ : UInt8) :
    (b₀.toUInt16 <<< 8 ||| b₁.toUInt16).toNat = ofBe [b₀, b₁] := by
  have h₀ := b₀.toNat_lt
  have h₁ := b₁.toNat_lt
  have hhigh : (b₀.toUInt16 <<< 8).toNat = 2 ^ 8 * b₀.toNat := by
    rw [UInt16.toNat_shiftLeft, UInt8.toNat_toUInt16, Nat.shiftLeft_eq]
    simp only [UInt16.reduceToNat, Nat.reduceMod, Nat.reducePow]
    omega
  rw [UInt16.toNat_or, hhigh, UInt8.toNat_toUInt16, mul_or_of_lt _ h₁]
  simp only [ofBe, ofLe, reverse_cons, reverse_nil, nil_append, cons_append]
  omega

theorem or_be16 (n : UInt16) :
    (n >>> 8).toUInt8.toUInt16 <<< 8 ||| (n &&& 0xFF).toUInt8.toUInt16 = n := by
  apply UInt16.toNat_inj.mp
  rw [toNat_or_be16, be16_eq, ofBe_toBe n.toNat_lt]

theorem be32_eq (n : UInt32) :
    [(n >>> 24).toUInt8, (n >>> 16).toUInt8, (n >>> 8).toUInt8, (n &&& 0xFF).toUInt8]
      = toBe 4 n.toNat := by
  have hshift : ∀ k : UInt32, k.toNat < 32 →
      (n >>> k).toUInt8 = UInt8.ofNat (n.toNat / 2 ^ k.toNat) := by
    intro k hk
    apply UInt8.toNat_inj.mp
    rw [UInt32.toNat_toUInt8, UInt32.toNat_shiftRight, UInt8.toNat_ofNat',
      Nat.shiftRight_eq_div_pow, Nat.mod_eq_of_lt hk]
  have hlow : (n &&& 0xFF).toUInt8 = UInt8.ofNat n.toNat := by
    apply UInt8.toNat_inj.mp
    rw [UInt32.toNat_toUInt8, UInt32.toNat_and, UInt8.toNat_ofNat', show (255 : UInt32).toNat = 255
      from rfl, and_255, Nat.mod_mod]
  rw [hshift 24 (by decide), hshift 16 (by decide), hshift 8 (by decide), hlow]
  simp only [toBe, toLe, reverse_cons, reverse_nil, nil_append, cons_append, Nat.div_div_eq_div_mul]
  rfl

theorem toNat_or_be32 (b₀ b₁ b₂ b₃ : UInt8) :
    (b₀.toUInt32 <<< 24 ||| b₁.toUInt32 <<< 16 ||| b₂.toUInt32 <<< 8 ||| b₃.toUInt32).toNat
      = ofBe [b₀, b₁, b₂, b₃] := by
  have h₁ := b₁.toNat_lt
  have h₂ := b₂.toNat_lt
  have h₃ := b₃.toNat_lt
  have hshift : ∀ (b : UInt8) (k : UInt32), k.toNat ≤ 24 →
      (b.toUInt32 <<< k).toNat = 2 ^ k.toNat * b.toNat := by
    intro b k hk
    have hlt : 2 ^ k.toNat * b.toNat < 2 ^ 32 :=
      calc 2 ^ k.toNat * b.toNat < 2 ^ k.toNat * 2 ^ 8 :=
            Nat.mul_lt_mul_of_pos_left b.toNat_lt (Nat.two_pow_pos _)
        _ ≤ 2 ^ 24 * 2 ^ 8 := Nat.mul_le_mul_right _ (Nat.pow_le_pow_right (by decide) hk)
    rw [UInt32.toNat_shiftLeft, UInt8.toNat_toUInt32, Nat.shiftLeft_eq,
      Nat.mod_eq_of_lt (Nat.lt_of_le_of_lt hk (by decide)), Nat.mul_comm, Nat.mod_eq_of_lt hlt]
  rw [UInt32.toNat_or, UInt32.toNat_or, UInt32.toNat_or, hshift b₀ 24 (by decide),
    hshift b₁ 16 (by decide), hshift b₂ 8 (by decide), UInt8.toNat_toUInt32]
  -- from the left, each byte is below what is there already
  calc 2 ^ 24 * b₀.toNat ||| 2 ^ 16 * b₁.toNat ||| 2 ^ 8 * b₂.toNat ||| b₃.toNat
      = 2 ^ 16 * (2 ^ 8 * b₀.toNat + b₁.toNat) ||| 2 ^ 8 * b₂.toNat ||| b₃.toNat := by
        rw [mul_or_of_lt _ (show 2 ^ 16 * b₁.toNat < 2 ^ 24 by omega), Nat.mul_add,
          ← Nat.mul_assoc, ← pow_add]
    _ = 2 ^ 8 * (2 ^ 8 * (2 ^ 8 * b₀.toNat + b₁.toNat) + b₂.toNat) ||| b₃.toNat := by
        rw [mul_or_of_lt _ (show 2 ^ 8 * b₂.toNat < 2 ^ 16 by omega),
          Nat.mul_add (2 ^ 8) _ b₂.toNat, ← Nat.mul_assoc (2 ^ 8) (2 ^ 8), ← pow_add]
    _ = 2 ^ 8 * (2 ^ 8 * (2 ^ 8 * b₀.toNat + b₁.toNat) + b₂.toNat) + b₃.toNat :=
        mul_or_of_lt _ h₃
    _ = ofBe [b₀, b₁, b₂, b₃] := by
        simp only [ofBe, ofLe, reverse_cons, reverse_nil, nil_append, cons_append]
        omega

theorem or_be32 (n : UInt32) :
    (n >>> 24).toUInt8.toUInt32 <<< 24 ||| (n >>> 16).toUInt8.toUInt32 <<< 16
      ||| (n >>> 8).toUInt8.toUInt32 <<< 8 ||| (n &&& 0xFF).toUInt8.toUInt32 = n := by
  apply UInt32.toNat_inj.mp
  rw [toNat_or_be32, be32_eq, ofBe_toBe n.toNat_lt]

theorem foldl_or_eq_ofBe : bs.foldl (fun n b => n <<< 8 ||| b.toNat) 0 = ofBe bs := by
  induction bs using List.reverseRecOn with
  | nil => rfl
  | append_singleton bs b ih =>
    rw [foldl_append, foldl_cons, foldl_nil, ih, ofBe_concat, Nat.shiftLeft_eq,
      Nat.mul_comm, mul_or_of_lt _ b.toNat_lt]
    rfl

/-- What is said of all bytes can be tried out. -/
instance decidableForall {P : UInt8 → Prop} [DecidablePred P] : Decidable (∀ b, P b) :=
  decidable_of_iff (∀ n : Fin (2 ^ 8), P ⟨⟨n⟩⟩) ⟨fun h b => h b.toBitVec.toFin, fun h _ => h _⟩

end Bytes
