import Mathlib.Data.List.Infix
import Mathlib.Data.Nat.Basic
import Mathlib.Data.String.Basic
import Mathlib.Tactic.Positivity
import Mathlib.Tactic.Ring

/-!
# Decimal numerals in texts that are compared by their characters

Numerals of any width, each followed by a character above all digits: when the
order of the texts is the order of the numbers.
-/
namespace Numerals

def digitValue (c : Char) : Nat := c.toNat - '0'.toNat

/-- The number a list of digits stands for. -/
def value (digits : List Char) : Nat := digits.foldl (fun n c => 10 * n + digitValue c) 0

def Digits (digits : List Char) : Prop := ∀ c ∈ digits, c.isDigit = true

instance (digits : List Char) : Decidable (Digits digits) :=
  inferInstanceAs (Decidable (∀ c ∈ digits, _))

theorem foldl_value (digits : List Char) (n : Nat) :
    digits.foldl (fun n c => 10 * n + digitValue c) n = n * 10 ^ digits.length + value digits := by
  induction digits generalizing n with
  | nil => simp [value]
  | cons c digits ih =>
      have whole : value (c :: digits) = 0 * 10 ^ digits.length +
          (digitValue c * 10 ^ digits.length + value digits) := by
        rw [value, List.foldl_cons, ih]
        ring
      rw [List.foldl_cons, ih, whole, List.length_cons]
      ring

theorem value_cons (c : Char) (digits : List Char) :
    value (c :: digits) = digitValue c * 10 ^ digits.length + value digits := by
  rw [value, List.foldl_cons, foldl_value, Nat.mul_zero, Nat.zero_add]

theorem value_append (digits more : List Char) :
    value (digits ++ more) = value digits * 10 ^ more.length + value more := by
  rw [value, List.foldl_append, ← value, foldl_value]

section digits

variable {c d : Char} {digits : List Char}

theorem isDigit_bounds (h : c.isDigit = true) : 48 ≤ c.toNat ∧ c.toNat ≤ 57 := by
  simpa [Char.isDigit, UInt32.le_iff_toNat_le] using h

theorem digitValue_lt (h : c.isDigit = true) : digitValue c < 10 := by
  have := isDigit_bounds h
  have zero : '0'.toNat = 48 := rfl
  simp only [digitValue, zero]
  omega

theorem digitValue_lt_iff (hc : c.isDigit = true) (hd : d.isDigit = true) :
    digitValue c < digitValue d ↔ c < d := by
  have := isDigit_bounds hc
  have := isDigit_bounds hd
  have zero : '0'.toNat = 48 := rfl
  have order : c < d ↔ c.toNat < d.toNat := Iff.rfl
  simp only [digitValue, zero, order]
  omega

theorem value_lt (h : Digits digits) : value digits < 10 ^ digits.length := by
  induction digits with
  | nil => simp [value]
  | cons c digits ih =>
      rw [Digits, List.forall_mem_cons] at h
      have rest := ih h.2
      have first := digitValue_lt h.1
      calc value (c :: digits) = digitValue c * 10 ^ digits.length + value digits := value_cons ..
        _ < digitValue c * 10 ^ digits.length + 10 ^ digits.length := by omega
        _ = (digitValue c + 1) * 10 ^ digits.length := by ring
        _ ≤ 10 * 10 ^ digits.length := by gcongr; omega
        _ = 10 ^ (c :: digits).length := by rw [List.length_cons]; ring

end digits

/-- As decimal fractions of one: `0.a` is less than `0.b`. -/
def FractionLt (a b : List Char) : Prop :=
  value a * 10 ^ b.length < value b * 10 ^ a.length

instance (a b : List Char) : Decidable (FractionLt a b) := inferInstanceAs (Decidable (_ < _))

variable {a b : List Char}

theorem FractionLt.asymm (h : FractionLt a b) : ¬ FractionLt b a := Nat.lt_asymm h

theorem fractionLt_cons_self (c : Char) : FractionLt (c :: a) (c :: b) ↔ FractionLt a b := by
  have left : value (c :: a) * 10 ^ (c :: b).length =
      10 * (digitValue c * 10 ^ (a.length + b.length)) + 10 * (value a * 10 ^ b.length) := by
    rw [value_cons, List.length_cons]
    ring
  have right : value (c :: b) * 10 ^ (c :: a).length =
      10 * (digitValue c * 10 ^ (a.length + b.length)) + 10 * (value b * 10 ^ a.length) := by
    rw [value_cons, List.length_cons]
    ring
  rw [FractionLt, FractionLt, left, right]
  omega

/-- The first digit that differs decides. -/
theorem fractionLt_cons {c d : Char} (ha : Digits (c :: a)) (hd : d.isDigit = true) (lt : c < d) :
    FractionLt (c :: a) (d :: b) := by
  rw [Digits, List.forall_mem_cons] at ha
  have smaller : digitValue c + 1 ≤ digitValue d := (digitValue_lt_iff ha.1 hd).mpr lt
  have tail := value_lt ha.2
  calc value (c :: a) * 10 ^ (d :: b).length
      = (digitValue c * 10 ^ a.length + value a) * 10 ^ (d :: b).length := by rw [value_cons]
    _ < (digitValue c * 10 ^ a.length + 10 ^ a.length) * 10 ^ (d :: b).length := by gcongr
    _ = (digitValue c + 1) * 10 ^ b.length * 10 ^ (c :: a).length := by
      rw [List.length_cons, List.length_cons]
      ring
    _ ≤ digitValue d * 10 ^ b.length * 10 ^ (c :: a).length := by gcongr
    _ ≤ value (d :: b) * 10 ^ (c :: a).length := by
      gcongr
      rw [value_cons]
      exact Nat.le_add_right _ _

/-- Numerals of one width are in the order of their fractions when they are in the order of their
numbers. -/
theorem fractionLt_of_width (width : a.length = b.length) (lt : value a < value b) :
    FractionLt a b := by
  rw [FractionLt, width]
  gcongr

/-- A longer numeral with the same digits in front is not a smaller number. -/
theorem value_le_of_initial (h : a <+: b) : value a ≤ value b := by
  obtain ⟨more, rfl⟩ := h
  rw [value_append]
  exact (Nat.le_mul_of_pos_right _ (by positivity)).trans (Nat.le_add_right ..)

/-! ## The order of the texts -/

variable {stop : Char} {x y : List Char}

/-- Which of two texts comes first, by the digit that differs or the end of a numeral. -/
theorem terminated_lt_iff (above : ∀ c : Char, c.isDigit = true → c < stop) (ha : Digits a)
    (hb : Digits b) : a ++ stop :: x < b ++ stop :: y ↔
      FractionLt a b ∧ ¬ a <+: b ∨ b <+: a ∧ a ≠ b ∨ a = b ∧ x < y := by
  induction a generalizing b with
  | nil =>
      cases b with
      | nil => simp [List.cons_lt_cons_iff, FractionLt]
      | cons d b =>
          rw [Digits, List.forall_mem_cons] at hb
          have after : ¬ stop < d := lt_asymm (above d hb.1)
          have other : stop ≠ d := (above d hb.1).ne'
          simp [List.cons_lt_cons_iff, after, other]
  | cons c a ih =>
      have hc := List.forall_mem_cons.mp ha
      cases b with
      | nil => simp [List.cons_lt_cons_iff, above c hc.1]
      | cons d b =>
          have hd := List.forall_mem_cons.mp hb
          rw [List.cons_append, List.cons_append, List.cons_lt_cons_iff]
          rcases lt_trichotomy c d with lt | rfl | gt
          · simp [lt, fractionLt_cons ha hd.1 lt, List.cons_prefix_cons, lt.ne]
          · rw [ih hc.2 hd.2, fractionLt_cons_self, List.cons_prefix_cons, List.cons_prefix_cons]
            simp
          · have later : ¬ FractionLt (c :: a) (d :: b) := (fractionLt_cons hb hc.1 gt).asymm
            simp [later, lt_asymm gt, gt.ne', gt.ne, List.cons_prefix_cons]

/-- For numerals of different numbers only their digits count. -/
theorem terminated_lt_iff_of_lt (above : ∀ c : Char, c.isDigit = true → c < stop) (ha : Digits a)
    (hb : Digits b) (lt : value a < value b) :
    a ++ stop :: x < b ++ stop :: y ↔ FractionLt a b ∧ ¬ a <+: b := by
  have longer : ¬ b <+: a := fun h => absurd (value_le_of_initial h) (not_le.mpr lt)
  have other : a ≠ b := fun h => absurd (congrArg value h) lt.ne
  simp [terminated_lt_iff above ha hb, longer, other]

end Numerals
