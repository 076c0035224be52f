import Mathlib.Tactic.Common
/-!
# `time.struct_time` and how Python orders it

`is_expired`, `is_not_yet_valid` and `is_temporally_valid_at` compare
`struct_time` values with Python's operators. A `struct_time` compares as the
tuple of its nine fields, and CPython compares two tuples at the first
position where they differ, or by their lengths when one is a prefix of the
other. The lemmas below show that this `<` is a strict order whose negation,
read the other way round, is `<=`.
-/

namespace CtCert

/-- `time.struct_time`, the nine fields in the order they compare. -/
structure StructTime where
  tmYear : Int
  tmMon : Int
  tmMday : Int
  tmHour : Int
  tmMin : Int
  tmSec : Int
  tmWday : Int
  tmYday : Int
  tmIsdst : Int
deriving DecidableEq, Repr

def StructTime.toTuple (t : StructTime) : List Int :=
  [t.tmYear, t.tmMon, t.tmMday, t.tmHour, t.tmMin, t.tmSec, t.tmWday, t.tmYday, t.tmIsdst]

/-- CPython's `tuplerichcompare` for the ordering operator `op`. -/
def richCompare (op : Int → Int → Bool) : List Int → List Int → Bool
  | [], bs => op 0 bs.length
  | _ :: as, [] => op (as.length + 1) 0
  | a :: as, b :: bs => if a = b then richCompare op as bs else op a b

section

variable {op op' : Int → Int → Bool}

theorem richCompare_swap (h : ∀ a b, op' a b = op b a) :
    ∀ xs ys, richCompare op' xs ys = richCompare op ys xs
  | [], [] | [], _ :: _ | _ :: _, [] => by simp [richCompare, h]
  | a :: as, b :: bs => by
      by_cases hab : a = b
      · simp [richCompare, hab, richCompare_swap h as bs]
      · simp [richCompare, hab, Ne.symm hab, h]

theorem richCompare_not (h : ∀ a b, op' a b = !op b a) :
    ∀ xs ys, richCompare op' xs ys = !richCompare op ys xs
  | [], [] | [], _ :: _ | _ :: _, [] => by simp [richCompare, h]
  | a :: as, b :: bs => by
      by_cases hab : a = b
      · simp [richCompare, hab, richCompare_not h as bs]
      · simp [richCompare, hab, Ne.symm hab, h]

end

/-- Python's `<`, `<=` and `>` on integer tuples. -/
def tupleLt (xs ys : List Int) : Bool := richCompare (fun a b => decide (a < b)) xs ys
def tupleLe (xs ys : List Int) : Bool := richCompare (fun a b => decide (a ≤ b)) xs ys
def tupleGt (xs ys : List Int) : Bool := richCompare (fun a b => decide (a > b)) xs ys

theorem tupleGt_eq (xs ys : List Int) : tupleGt xs ys = tupleLt ys xs :=
  richCompare_swap (fun _ _ => rfl) xs ys

theorem tupleLe_eq (xs ys : List Int) : tupleLe xs ys = !tupleLt ys xs :=
  richCompare_not (fun _ _ => by rw [← decide_not]; exact decide_eq_decide.mpr Int.not_lt.symm) xs ys

theorem tupleLt_irrefl : ∀ xs, tupleLt xs xs = false
  | [] => by simp [tupleLt, richCompare]
  | a :: as => by simpa [tupleLt, richCompare] using tupleLt_irrefl as

theorem tupleLt_of_lt_of_le : ∀ {xs ys zs : List Int},
    tupleLt xs ys → tupleLe ys zs → tupleLt xs zs
  | [], [], _, h, _ | _ :: _, [], _, h, _ => by simp [tupleLt, richCompare] at h <;> omega
  | _, _ :: _, [], _, h => by simp [tupleLe, richCompare] at h; omega
  | [], _ :: _, _ :: _, _, _ => by simp [tupleLt, richCompare]
  | a :: as, b :: bs, c :: cs, h₁, h₂ => by
      simp only [tupleLt, tupleLe, richCompare] at h₁ h₂ ⊢
      split_ifs at h₁ h₂ ⊢ <;>
        first | exact tupleLt_of_lt_of_le h₁ h₂ | (simp only [decide_eq_true_eq] at *; omega)

theorem tupleLt_asymm : ∀ {xs ys : List Int}, tupleLt xs ys → tupleLt ys xs = false
  | [], [], h | _ :: _, [], h => by simp [tupleLt, richCompare] at h <;> omega
  | [], _ :: _, _ => by simp [tupleLt, richCompare]; omega
  | a :: as, b :: bs, h => by
      simp only [tupleLt, richCompare] at h ⊢
      by_cases hab : a = b
      · simpa [hab] using tupleLt_asymm (by simpa [hab] using h)
      · simp only [hab, Ne.symm hab, ite_false, decide_eq_true_eq, decide_eq_false_iff_not] at h ⊢
        omega

theorem tupleLt_of_le_of_lt {xs ys zs : List Int} (h₁ : tupleLe xs ys) (h₂ : tupleLt ys zs) :
    tupleLt xs zs := by
  by_contra h
  have hzx : tupleLe zs xs := by simpa [tupleLe_eq] using h
  have hyx : tupleLt ys xs := tupleLt_of_lt_of_le h₂ hzx
  simp [tupleLe_eq, hyx] at h₁

/-! ## Python's operators on `struct_time` -/

namespace StructTime

/-- `a < b` -/
def lt (a b : StructTime) : Bool := tupleLt a.toTuple b.toTuple
/-- `a <= b` -/
def le (a b : StructTime) : Bool := tupleLe a.toTuple b.toTuple
/-- `a > b` -/
def gt (a b : StructTime) : Bool := tupleGt a.toTuple b.toTuple

theorem gt_eq_lt (a b : StructTime) : a.gt b = b.lt a := tupleGt_eq _ _

theorem le_eq_not_lt (a b : StructTime) : a.le b = !b.lt a := tupleLe_eq _ _

theorem lt_irrefl (a : StructTime) : a.lt a = false := tupleLt_irrefl _

theorem le_refl (a : StructTime) : a.le a = true := by simp [le_eq_not_lt, lt_irrefl]

theorem lt_of_lt_of_le {a b c : StructTime} : a.lt b → b.le c → a.lt c := tupleLt_of_lt_of_le

theorem lt_of_le_of_lt {a b c : StructTime} : a.le b → b.lt c → a.lt c := tupleLt_of_le_of_lt

theorem lt_asymm {a b : StructTime} : a.lt b → b.lt a = false := tupleLt_asymm

theorem le_of_lt {a b : StructTime} (h : a.lt b) : a.le b := by
  simp [le_eq_not_lt, lt_asymm h]

theorem lt_trans {a b c : StructTime} (h₁ : a.lt b) (h₂ : b.lt c) : a.lt c :=
  lt_of_lt_of_le h₁ (le_of_lt h₂)

end StructTime

/-- 2024-01-01T00:00:00Z, as `time.gmtime` gives it. -/
def newYear2024 : StructTime := ⟨2024, 1, 1, 0, 0, 0, 0, 1, 0⟩

/-- 2025-01-01T00:00:00Z, as `time.gmtime` gives it. -/
def newYear2025 : StructTime := ⟨2025, 1, 1, 0, 0, 0, 2, 1, 0⟩

end CtCert
