import Mathlib.Data.ENat.Lattice

namespace SpriteStage.Runs

variable {β : Type}

def length : List (β × ℕ∞) → ℕ∞
  | [] => 0
  | (_, count) :: rest => count + length rest

/-- How many of `n` places a run fills that is so long. -/
def places (n : Nat) : ℕ∞ → Nat
  | ⊤ => n
  | (k : Nat) => min n k

/-- The first `n` entries, or all of them if there are fewer. -/
def take (n : Nat) : List (β × ℕ∞) → List β
  | [] => []
  | (x, count) :: rest => List.replicate (places n count) x ++ take (n - places n count) rest

@[simp] theorem places_zero (count : ℕ∞) : places 0 count = 0 := by
  cases count with
  | top => rfl
  | coe k => exact Nat.zero_min k

@[simp] theorem places_of_zero (n : Nat) : places n 0 = 0 :=
  Nat.min_zero n

theorem places_succ (n k : Nat) :
    places (n + 1) ((k + 1 : Nat) : ℕ∞) = places n (k : ℕ∞) + 1 :=
  Nat.succ_min_succ n k

/-- A bound on the count that is beyond the number asked for makes no difference. -/
theorem places_min {n limit : Nat} (hn : n ≤ limit) (count : ℕ∞) :
    places n (min count limit) = places n count := by
  rcases le_total count limit with hle | hle
  · rw [min_eq_left hle]
  · rw [min_eq_right hle]
    cases count with
    | top => exact Nat.min_eq_left hn
    | coe k =>
      have hk : limit ≤ k := by exact_mod_cast hle
      change min n limit = min n k
      omega

@[simp] theorem take_zero (runs : List (β × ℕ∞)) : take 0 runs = [] := by
  induction runs with
  | nil => rfl
  | cons run rest ih => simp [take, ih]

/-- A run of length zero is no run. -/
@[simp] theorem take_cons_zero (n : Nat) (x : β) (rest : List (β × ℕ∞)) :
    take n ((x, 0) :: rest) = take n rest := by
  simp [take]

/-- The first entry read off a run is its item, and the run is one shorter behind it. -/
theorem take_cons_succ (n k : Nat) (x : β) (rest : List (β × ℕ∞)) :
    take (n + 1) ((x, ((k + 1 : Nat) : ℕ∞)) :: rest) = x :: take n ((x, (k : ℕ∞)) :: rest) := by
  simp only [take, places_succ, List.replicate_succ, List.cons_append, Nat.add_sub_add_right]

/-- A run of one is an item. -/
theorem take_cons_one (n : Nat) (x : β) (rest : List (β × ℕ∞)) :
    take (n + 1) ((x, 1) :: rest) = x :: take n rest := by
  have hone := take_cons_succ n 0 x rest
  rwa [Nat.zero_add, Nat.cast_one, Nat.cast_zero, take_cons_zero] at hone

/-- A run may be cut down to a limit as long as no more entries than the limit are read. -/
theorem take_cons_min {n limit : Nat} (hn : n ≤ limit) (count : ℕ∞) (x : β) (rest : List (β × ℕ∞)) :
    take n ((x, min count limit) :: rest) = take n ((x, count) :: rest) := by
  simp only [take, places_min hn]

/-- A bound on a count beyond the length asked for makes no difference either. -/
theorem lt_length_cons_min {n limit : Nat} (hn : n < limit) (count : ℕ∞) (x : β)
    (rest : List (β × ℕ∞)) :
    (n : ℕ∞) < length ((x, min count limit) :: rest) ↔ (n : ℕ∞) < length ((x, count) :: rest) := by
  have hlt : (n : ℕ∞) < limit := by exact_mod_cast hn
  rcases le_total count limit with hle | hle
  · rw [min_eq_left hle]
  · rw [min_eq_right hle, length, length]
    exact ⟨fun _ => lt_of_lt_of_le hlt (hle.trans le_self_add), fun _ => lt_of_lt_of_le hlt le_self_add⟩

theorem length_cons_zero (x : β) (rest : List (β × ℕ∞)) : length ((x, 0) :: rest) = length rest :=
  zero_add _

/-- Taking an entry off a run takes one off the length. -/
theorem succ_lt_length_cons_succ (n k : Nat) (x : β) (rest : List (β × ℕ∞)) :
    ((n + 1 : Nat) : ℕ∞) < length ((x, ((k + 1 : Nat) : ℕ∞)) :: rest) ↔
      (n : ℕ∞) < length ((x, (k : ℕ∞)) :: rest) := by
  rw [length, length, Nat.cast_succ, Nat.cast_succ, add_right_comm,
    ENat.add_lt_add_iff_right ENat.one_ne_top]

/-- Taking off a run of one takes one off the length. -/
theorem succ_lt_length_cons_one (n : Nat) (x : β) (rest : List (β × ℕ∞)) :
    ((n + 1 : Nat) : ℕ∞) < length ((x, 1) :: rest) ↔ (n : ℕ∞) < length rest := by
  have hone := succ_lt_length_cons_succ n 0 x rest
  rwa [Nat.zero_add, Nat.cast_one, Nat.cast_zero, length_cons_zero] at hone

end SpriteStage.Runs
