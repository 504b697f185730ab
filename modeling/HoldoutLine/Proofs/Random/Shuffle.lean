import HoldoutLine.Random.Shuffle
import Mathlib.Data.Nat.Factorial.Basic

/-! # Every shuffle reorders the rows

A draw holds back a value below the product of the bounds that it still has to serve. Taking it apart by
division therefore gives each position a place up to its own, for every stream of words, and no exchange
reaches outside the rows. Exchanges only reorder, so the result is a permutation of the rows whatever is drawn.

`order?` is the same shuffle with exchanges that have no answer outside the rows. That it always answers,
and with the same order, is the sense in which the shuffle never leaves the rows.
-/

namespace HoldoutLine.Shuffle

/-- Growth multiplies in consecutive bounds and stops at the first one left out. -/
theorem growProduct_eq (product next : Nat) :
    ∃ count, growProduct product next = (product * next.ascFactorial count, next + count) := by
  induction product, next using growProduct.induct with
  | case1 product next grows ih =>
    obtain ⟨count, grown⟩ := ih
    have ascending : next * (next + 1).ascFactorial count = next.ascFactorial (count + 1) := by
      rw [Nat.succ_ascFactorial, Nat.ascFactorial_succ]
    refine ⟨count + 1, ?_⟩
    rw [growProduct, if_pos grows, grown, Nat.mul_assoc, ascending, Nat.add_right_comm, Nat.add_assoc]
  | case2 product next stops =>
    refine ⟨0, ?_⟩
    rw [growProduct, if_neg stops, Nat.ascFactorial_zero, Nat.mul_one, Nat.add_zero]

namespace Drawer

variable (words : Nat → UInt32)

/-- The greatest value leaves too little room for a carry, so even a carried value is below the bound. -/
theorem below_lt (position : Nat) {bound : Nat} (positive : 0 < bound) :
    (below words position bound).1 < bound := by
  have room : (words position).toNat * bound + bound ≤ wordRange * bound := by
    have word : (words position).toNat + 1 ≤ wordRange := (words position).toNat_lt
    calc (words position).toNat * bound + bound = ((words position).toNat + 1) * bound := by
          rw [Nat.add_mul, Nat.one_mul]
      _ ≤ wordRange * bound := Nat.mul_le_mul_right bound word
  have parts := Nat.div_add_mod ((words position).toNat * bound) wordRange
  unfold below
  dsimp only
  split_ifs with tight carried
  all_goals simp only [wordRange] at *
  all_goals omega

/-- What is held back of the last draw is below the product of the bounds, from `bound` on, that it still
has to serve. -/
def Serves (drawer : Drawer) (bound : Nat) : Prop :=
  drawer.left ≠ 0 → drawer.reserve < bound.ascFactorial drawer.left

private theorem initial_serves : initial.Serves 1 := fun _ => Nat.zero_lt_one

/-- After a refill there is something to hand out, and it still serves its bounds. -/
theorem refill_serves {drawer : Drawer} {bound : Nat} (positive : 0 < bound) (serves : drawer.Serves bound) :
    (drawer.refill words bound).left ≠ 0 ∧ (drawer.refill words bound).Serves bound := by
  unfold refill
  split_ifs with spent
  · obtain ⟨count, grown⟩ := growProduct_eq bound (bound + 1)
    have served : bound + 1 + count - bound = count + 1 := by omega
    have product : bound * (bound + 1).ascFactorial count = bound.ascFactorial (count + 1) := by
      rw [Nat.succ_ascFactorial, Nat.ascFactorial_succ]
    rw [grown]
    refine ⟨by simp only [served]; omega, fun _ => ?_⟩
    simp only [served]
    rw [← product]
    exact below_lt words drawer.position (Nat.mul_pos positive (Nat.ascFactorial_pos bound count))
  · exact ⟨spent, serves⟩

/-- A draw stays below its bound, and what it leaves serves the next one. -/
theorem draw_serves {drawer : Drawer} {bound : Nat} (positive : 0 < bound) (serves : drawer.Serves bound) :
    (drawer.draw words bound).1 < bound ∧ (drawer.draw words bound).2.Serves (bound + 1) := by
  obtain ⟨filled, held⟩ := refill_serves words positive serves
  have reserve := held filled
  unfold draw
  dsimp only
  split_ifs with last
  · have single : (drawer.refill words bound).left = 1 := by omega
    rw [single, Nat.ascFactorial_succ, Nat.ascFactorial_zero, Nat.mul_one, Nat.add_zero] at reserve
    exact ⟨reserve, fun more => (more last).elim⟩
  · refine ⟨Nat.mod_lt _ positive, fun _ => Nat.div_lt_of_lt_mul ?_⟩
    have split : (drawer.refill words bound).left = (drawer.refill words bound).left - 1 + 1 := by omega
    rw [split, Nat.ascFactorial_succ, ← Nat.succ_ascFactorial] at reserve
    exact reserve

end Drawer

section Exchange

variable (words : Nat → UInt32)

/-- The exchange of `swapInto`, with no answer where one of the two positions does not exist. -/
def swapInto? (state : Array Nat × Drawer) (i : Nat) : Option (Array Nat × Drawer) :=
  let (j, drawer) := state.2.draw words (i + 1)
  if inside : i < state.1.size ∧ j < state.1.size then
    some (state.1.swap i j inside.1 inside.2, drawer)
  else none

/-- The order of `order`, with no answer where an exchange has none. -/
def order? (count : Nat) : Option (List Nat) :=
  ((List.range count).foldlM (swapInto? words) (Array.range count, Drawer.initial)).map fun state =>
    state.1.toList

/-- What holds when the first `done` positions have been exchanged: nothing but the order has changed, and
the next draw can be served. -/
structure Shuffled (count done : Nat) (state : Array Nat × Drawer) : Prop where
  perm : state.1.toList.Perm (List.range count)
  serves : state.2.Serves (done + 1)

private theorem Shuffled.size_eq {count done : Nat} {state : Array Nat × Drawer}
    (shuffled : Shuffled count done state) : state.1.size = count := by
  simpa only [Array.length_toList, List.length_range] using shuffled.perm.length_eq

theorem Shuffled.start (count : Nat) : Shuffled count 0 (Array.range count, Drawer.initial) where
  perm := by rw [Array.toList_range]
  serves := Drawer.initial_serves

/-- One exchange stays inside the rows and keeps all of them. -/
theorem Shuffled.step {count done : Nat} {state : Array Nat × Drawer} (shuffled : Shuffled count done state)
    (more : done < count) :
    swapInto? words state done = some (swapInto words state done) ∧
      Shuffled count (done + 1) (swapInto words state done) := by
  have drawn := Drawer.draw_serves words (show 0 < done + 1 by omega) shuffled.serves
  have inside : done < state.1.size ∧ (state.2.draw words (done + 1)).1 < state.1.size := by
    rw [shuffled.size_eq]
    exact ⟨more, by omega⟩
  have exchanged : swapInto words state done =
      (state.1.swap done (state.2.draw words (done + 1)).1 inside.1 inside.2,
        (state.2.draw words (done + 1)).2) := by
    simp only [swapInto, Array.swapIfInBounds_def, dif_pos inside.1, dif_pos inside.2]
  rw [exchanged]
  refine ⟨?_, ?_, drawn.2⟩
  · simp only [swapInto?, dif_pos inside]
  · exact (Array.swap_perm inside.1 inside.2).toList.trans shuffled.perm

/-- Any number of exchanges stays inside the rows and keeps all of them. -/
theorem Shuffled.run {count done : Nat} (within : done ≤ count) :
    ∃ state, Shuffled count done state ∧
      (List.range done).foldl (swapInto words) (Array.range count, Drawer.initial) = state ∧
      (List.range done).foldlM (swapInto? words) (Array.range count, Drawer.initial) = some state := by
  induction done with
  | zero => exact ⟨_, Shuffled.start count, rfl, rfl⟩
  | succ done ih =>
    obtain ⟨state, shuffled, ran, ran?⟩ := ih (by omega)
    obtain ⟨answered, next⟩ := shuffled.step words within
    refine ⟨swapInto words state done, next, ?_, ?_⟩
    · rw [List.range_succ, List.foldl_append, ran, List.foldl_cons, List.foldl_nil]
    · rw [List.range_succ, List.foldlM_append, ran?]
      simp only [List.foldlM_cons, List.foldlM_nil, bind, Option.bind_some, answered]
      rfl

/-- Whatever is drawn, the order is a permutation of the rows. -/
theorem order_perm (count : Nat) : (order words count).Perm (List.range count) := by
  obtain ⟨state, shuffled, ran, _⟩ := Shuffled.run words (Nat.le_refl count)
  rw [order, ran]
  exact shuffled.perm

/-- Whatever is drawn, every exchange stays inside the rows. -/
theorem order?_eq_some (count : Nat) : order? words count = some (order words count) := by
  obtain ⟨state, _, ran, ran?⟩ := Shuffled.run words (Nat.le_refl count)
  rw [order?, order, ran, ran?, Option.map_some]

end Exchange

/-- The order of `seededOrder`, with no answer where an exchange has none. -/
def seededOrder? (seed : UInt64) (count : Nat) : Option (List Nat) :=
  order? (WordStream.word (WordStream.key seed)) count

theorem seededOrder?_eq_some (seed : UInt64) (count : Nat) :
    seededOrder? seed count = some (seededOrder seed count) :=
  order?_eq_some _ count

/-- The rows in the order that a seed gives are all of them, each once. -/
theorem seededOrder_perm (seed : UInt64) (count : Nat) : (seededOrder seed count).Perm (List.range count) :=
  order_perm _ count

@[simp] theorem length_seededOrder (seed : UInt64) (count : Nat) : (seededOrder seed count).length = count := by
  simpa only [List.length_range] using (seededOrder_perm seed count).length_eq

theorem seededOrder_lt {seed : UInt64} {count i : Nat} (member : i ∈ seededOrder seed count) : i < count :=
  List.mem_range.mp ((seededOrder_perm seed count).mem_iff.mp member)

end HoldoutLine.Shuffle
