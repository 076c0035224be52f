import Mathlib.Data.List.Nodup
/-!
# `collections.Counter`

`_has_multiple_extension_values` counts the identifiers of a certificate's
extensions with a `Counter` and asks whether any count exceeds one. A
`Counter` built from a list is a dictionary from the distinct elements, in
order of first appearance, to their numbers of occurrences; here it is an
association list filled by update-or-append, one element at a time. The main
result, `any_values_gt_one_counter`, says the check finds a repeat exactly
when the list is not duplicate-free.
-/

namespace CtCert

variable {α : Type} [DecidableEq α]

/-- `counter[a] += 1` on the association list: bump the entry of `a`, or append one. -/
def counterAdd : List (α × Nat) → α → List (α × Nat)
  | [], a => [(a, 1)]
  | (k, n) :: rest, a => if k = a then (k, n + 1) :: rest else (k, n) :: counterAdd rest a

/-- `collections.Counter(xs)`. -/
def counter (xs : List α) : List (α × Nat) := xs.foldl counterAdd []

/-- `counter[a]`: the count of `a`, `0` when `a` is not a key. -/
def counterGet : List (α × Nat) → α → Nat
  | [], _ => 0
  | (k, n) :: rest, a => if k = a then n else counterGet rest a

theorem counterGet_counterAdd (m : List (α × Nat)) (a b : α) :
    counterGet (counterAdd m a) b = counterGet m b + if a = b then 1 else 0 := by
  induction m with
  | nil => by_cases h : a = b <;> simp [counterAdd, counterGet, h]
  | cons p rest ih =>
      obtain ⟨k, n⟩ := p
      by_cases hk : k = a
      · subst hk; by_cases h : k = b <;> simp [counterAdd, counterGet, h]
      · by_cases h : k = b
        · subst h; simp [counterAdd, counterGet, hk, Ne.symm hk]
        · simp [counterAdd, counterGet, hk, h, ih]

theorem counterGet_foldl (xs : List α) (m : List (α × Nat)) (b : α) :
    counterGet (xs.foldl counterAdd m) b = counterGet m b + xs.count b := by
  induction xs generalizing m with
  | nil => simp
  | cons a xs ih =>
      simp only [List.foldl_cons, ih, counterGet_counterAdd, List.count_cons, beq_iff_eq]
      by_cases h : a = b <;> simp [h, Ne.symm]; omega

theorem counterGet_counter (xs : List α) (b : α) : counterGet (counter xs) b = xs.count b := by
  simp [counter, counterGet_foldl, counterGet]

/-- A key the counter reports a nonzero count for has an entry holding that count. -/
theorem mem_of_counterGet_ne_zero {m : List (α × Nat)} {a : α} (h : counterGet m a ≠ 0) :
    (a, counterGet m a) ∈ m := by
  induction m with
  | nil => simp [counterGet] at h
  | cons p rest ih =>
      obtain ⟨k, n⟩ := p
      by_cases hk : k = a
      · simp [counterGet, hk]
      · simp only [counterGet, hk, ite_false] at h ⊢
        exact List.mem_cons_of_mem _ (ih h)

theorem mem_counterAdd {m : List (α × Nat)} {a : α} {p : α × Nat} (h : p ∈ counterAdd m a) :
    p ∈ m ∨ (∃ n, (a, n) ∈ m ∧ p = (a, n + 1)) ∨ p = (a, 1) := by
  induction m with
  | nil => simp_all [counterAdd]
  | cons q rest ih =>
      obtain ⟨k, n⟩ := q
      by_cases hk : k = a
      · subst hk
        simp only [counterAdd, ite_true, List.mem_cons] at h
        rcases h with rfl | h
        · exact .inr (.inl ⟨n, by simp⟩)
        · exact .inl (List.mem_cons_of_mem _ h)
      · simp only [counterAdd, hk, ite_false, List.mem_cons] at h
        rcases h with rfl | h
        · exact .inl (List.mem_cons_self _ _)
        · rcases ih h with h | ⟨n', hn', rfl⟩ | rfl
          · exact .inl (List.mem_cons_of_mem _ h)
          · exact .inr (.inl ⟨n', List.mem_cons_of_mem _ hn', rfl⟩)
          · exact .inr (.inr rfl)

/-- No entry of a counter over-counts: the loop invariant of `counter`. -/
theorem le_count_of_mem_foldl (xs pre : List α) (m : List (α × Nat))
    (hm : ∀ p ∈ m, p.2 ≤ pre.count p.1) :
    ∀ p ∈ xs.foldl counterAdd m, p.2 ≤ (pre ++ xs).count p.1 := by
  induction xs generalizing pre m with
  | nil => simpa using hm
  | cons a xs ih =>
      rw [List.foldl_cons, show pre ++ a :: xs = (pre ++ [a]) ++ xs by simp]
      refine ih _ _ fun p hp => ?_
      rcases mem_counterAdd hp with hp | ⟨n, hn, rfl⟩ | rfl
      · exact Nat.le_trans (hm p hp) (List.Sublist.count_le (List.sublist_append_left _ _) _)
      · simpa using hm _ hn
      · simp

theorem le_count_of_mem_counter {xs : List α} {p : α × Nat} (h : p ∈ counter xs) :
    p.2 ≤ xs.count p.1 := by
  simpa using le_count_of_mem_foldl xs [] [] (by simp) p h

/-- `any(c > 1 for c in Counter(xs).values())` holds exactly when some element repeats. -/
theorem any_values_gt_one_counter (xs : List α) :
    ((counter xs).map Prod.snd).any (· > 1) = true ↔ ¬ xs.Nodup := by
  rw [List.nodup_iff_count_le_one]
  simp only [List.any_eq_true, List.mem_map, decide_eq_true_eq, not_forall, Nat.not_le]
  constructor
  · rintro ⟨_, ⟨p, hp, rfl⟩, hgt⟩
    exact ⟨p.1, Nat.lt_of_lt_of_le hgt (le_count_of_mem_counter hp)⟩
  · rintro ⟨a, ha⟩
    rw [← counterGet_counter] at ha
    exact ⟨_, ⟨_, mem_of_counterGet_ne_zero (by omega), rfl⟩, ha⟩

end CtCert
