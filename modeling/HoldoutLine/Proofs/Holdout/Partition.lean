import HoldoutLine.Holdout
import HoldoutLine.Proofs.Binary64.Unpacked
import HoldoutLine.Proofs.Random.Shuffle
import Mathlib.Data.List.Forall2

/-! # A holdout accounts for every row

Three things can come of holding rows out: a share that is not a proper part is refused, a size that leaves one
side without rows is refused, and otherwise the rows fall into test and training rows, none lost, shared or
repeated. Which of them happens is decided by the plan and the number of rows alone.

`ofDataset?` looks at every position before it uses it. It always answers, so neither an exchange of the
shuffle, nor the cut between the parts, nor a look-up of a row ever reaches outside the rows.
-/

namespace HoldoutLine

namespace HoldoutPlan

/-- The share is a proper part: an exact number of units, more than nothing and fewer than make one. -/
def IsProper (plan : HoldoutPlan) : Prop :=
  ∃ units, Binary64.ofFloat plan.testFraction = .finite false units ∧ 0 < units ∧ units < Binary64.unitsPerOne

theorem isProper_iff (plan : HoldoutPlan) : plan.IsProper ↔ 0.0 < plan.testFraction ∧ plan.testFraction < 1.0 :=
  (Binary64.between_zero_and_one_iff plan.testFraction).symm

end HoldoutPlan

namespace Holdout

section Positions

variable {rows : List Observation} {indices : List Nat}

/-- The first `size` positions of an order and the others, with no answer where there are not so many. -/
def cut? (order : List Nat) (size : Nat) : Option (List Nat × List Nat) :=
  if size ≤ order.length then some (order.take size, order.drop size) else none

/-- The rows at the given indices, with no answer where one of them is no row. -/
def pick? (rows : Array Observation) (indices : List Nat) : Option (List Observation) :=
  indices.mapM fun i => rows[i]?

/-- Picked rows stand at their indices, position by position. -/
theorem forall₂_pick (within : ∀ i ∈ indices, i < rows.length) :
    List.Forall₂ (fun i row => rows[i]? = some row) indices (pick rows.toArray indices) := by
  induction indices with
  | nil => exact .nil
  | cons i rest ih =>
    have bound : i < rows.length := within i List.mem_cons_self
    have found : rows[i]? = some rows[i] := List.getElem?_eq_getElem bound
    have picked : pick rows.toArray (i :: rest) = rows[i] :: pick rows.toArray rest := by
      simp only [pick, List.filterMap_cons, List.getElem?_toArray, found]
    rw [picked]
    exact .cons found (ih fun other member => within other (List.mem_cons_of_mem i member))

private theorem pick?_eq_some (within : ∀ i ∈ indices, i < rows.length) :
    pick? rows.toArray indices = some (pick rows.toArray indices) := by
  have picked := forall₂_pick within
  generalize pick rows.toArray indices = found at picked
  induction picked with
  | nil => rfl
  | cons here _ ih =>
    rw [pick?] at ih ⊢
    rw [List.mapM_cons, List.getElem?_toArray, here,
      ih fun other member => within other (List.mem_cons_of_mem _ member)]
    rfl

private theorem pick_append (rows : Array Observation) (left right : List Nat) :
    pick rows (left ++ right) = pick rows left ++ pick rows right :=
  List.filterMap_append

/-- All rows, picked in their own order. -/
theorem pick_range (rows : List Observation) : pick rows.toArray (List.range rows.length) = rows := by
  induction rows with
  | nil => rfl
  | cons row rest ih =>
    rw [pick] at ih ⊢
    rw [List.length_cons, List.range_succ_eq_map, List.filterMap_cons, List.filterMap_map]
    simpa only [List.getElem?_toArray, List.getElem?_cons_zero, Function.comp_def, List.getElem?_cons_succ,
      List.cons.injEq, true_and] using ih

end Positions

/-- The shuffled rows of a dataset, cut after as many as the plan holds out. -/
def parted (plan : HoldoutPlan) (dataset : Dataset) : Holdout :=
  let order := Shuffle.seededOrder plan.seed dataset.size
  let rows := dataset.observations.toArray
  let test := plan.testSize dataset.size
  ⟨order.drop test, order.take test, pick rows (order.drop test), pick rows (order.take test)⟩

/-- `ofDataset` with every position looked at first: there is no answer where an exchange, the cut or a look-up
would reach outside the rows. -/
def ofDataset? (plan : HoldoutPlan) (dataset : Dataset) : Option (Except HoldoutError Holdout) :=
  let fraction := plan.testFraction
  if 0.0 < fraction ∧ fraction < 1.0 then
    let total := dataset.size
    let test := plan.testSize total
    let train := total - test
    if test = 0 ∨ train = 0 then some (.error (.emptyPartition total fraction train test))
    else do
      let order ← Shuffle.seededOrder? plan.seed total
      let (testIndices, trainIndices) ← cut? order test
      let rows := dataset.observations.toArray
      let train ← pick? rows trainIndices
      let test ← pick? rows testIndices
      return .ok ⟨trainIndices, testIndices, train, test⟩
  else some (.error (.invalidFraction fraction))

/-- What a holdout of `testRows` rows owes to its dataset. -/
structure Partitions (holdout : Holdout) (dataset : Dataset) (testRows : Nat) : Prop where
  test_length : holdout.testIndices.length = testRows
  train_length : holdout.trainIndices.length = dataset.size - testRows
  every_row_once : (holdout.testIndices ++ holdout.trainIndices).Perm (List.range dataset.size)
  /-- Position by position, the test rows are the rows at the test indices. -/
  test_rows : List.Forall₂ (fun i row => dataset.observations[i]? = some row) holdout.testIndices holdout.test
  /-- Position by position, the training rows are the rows at the training indices. -/
  train_rows : List.Forall₂ (fun i row => dataset.observations[i]? = some row) holdout.trainIndices holdout.train

namespace Partitions

variable {holdout : Holdout} {dataset : Dataset} {testRows : Nat}

theorem length_test (parts : holdout.Partitions dataset testRows) : holdout.test.length = testRows :=
  parts.test_rows.length_eq.symm.trans parts.test_length

theorem length_train (parts : holdout.Partitions dataset testRows) :
    holdout.train.length = dataset.size - testRows :=
  parts.train_rows.length_eq.symm.trans parts.train_length

/-- No training row is a test row. -/
theorem notMem_test (parts : holdout.Partitions dataset testRows) {i : Nat} (member : i ∈ holdout.trainIndices) :
    i ∉ holdout.testIndices := by
  have once : (holdout.testIndices ++ holdout.trainIndices).Nodup :=
    parts.every_row_once.nodup_iff.mpr List.nodup_range
  intro alsoTest
  exact (List.nodup_append.mp once).2.2 i alsoTest i member rfl

end Partitions

section Outcomes

variable {plan : HoldoutPlan} {dataset : Dataset}

private theorem ofDataset_of_improper (improper : ¬ plan.IsProper) :
    ofDataset plan dataset = .error (.invalidFraction plan.testFraction) := by
  rw [ofDataset, if_neg (mt plan.isProper_iff.mpr improper)]

theorem ofDataset_of_empty (proper : plan.IsProper)
    (empty : plan.testSize dataset.size = 0 ∨ dataset.size ≤ plan.testSize dataset.size) :
    ofDataset plan dataset = .error (.emptyPartition dataset.size plan.testFraction
      (dataset.size - plan.testSize dataset.size) (plan.testSize dataset.size)) := by
  rw [ofDataset, if_pos (plan.isProper_iff.mp proper), if_pos (by omega)]

theorem ofDataset_of_parts (proper : plan.IsProper) (nonempty : 0 < plan.testSize dataset.size)
    (remainder : plan.testSize dataset.size < dataset.size) :
    ofDataset plan dataset = .ok (parted plan dataset) := by
  rw [ofDataset, if_pos (plan.isProper_iff.mp proper), if_neg (by omega)]
  rfl

/-- The share and the size of the test part decide between three outcomes. -/
theorem ofDataset_cases (plan : HoldoutPlan) (dataset : Dataset) :
    (¬ plan.IsProper ∧ ofDataset plan dataset = .error (.invalidFraction plan.testFraction)) ∨
    (plan.IsProper ∧ (plan.testSize dataset.size = 0 ∨ dataset.size ≤ plan.testSize dataset.size) ∧
      ofDataset plan dataset = .error (.emptyPartition dataset.size plan.testFraction
        (dataset.size - plan.testSize dataset.size) (plan.testSize dataset.size))) ∨
    (plan.IsProper ∧ 0 < plan.testSize dataset.size ∧ plan.testSize dataset.size < dataset.size ∧
      ofDataset plan dataset = .ok (parted plan dataset)) := by
  by_cases proper : plan.IsProper
  · by_cases empty : plan.testSize dataset.size = 0 ∨ dataset.size ≤ plan.testSize dataset.size
    · exact .inr (.inl ⟨proper, empty, ofDataset_of_empty proper empty⟩)
    · have nonempty : 0 < plan.testSize dataset.size := by omega
      have remainder : plan.testSize dataset.size < dataset.size := by omega
      exact .inr (.inr ⟨proper, nonempty, remainder, ofDataset_of_parts proper nonempty remainder⟩)
  · exact .inl ⟨proper, ofDataset_of_improper proper⟩

/-- Rows are held out exactly if the share is proper and leaves both sides a row. -/
theorem ofDataset_eq_ok_iff {holdout : Holdout} :
    ofDataset plan dataset = .ok holdout ↔
      plan.IsProper ∧ 0 < plan.testSize dataset.size ∧ plan.testSize dataset.size < dataset.size ∧
        parted plan dataset = holdout := by
  constructor
  · intro held
    rcases ofDataset_cases plan dataset with
      ⟨-, refused⟩ | ⟨-, -, refused⟩ | ⟨proper, nonempty, remainder, parts⟩
    · cases held.symm.trans refused
    · cases held.symm.trans refused
    · exact ⟨proper, nonempty, remainder, Except.ok.inj (parts.symm.trans held)⟩
  · rintro ⟨proper, nonempty, remainder, rfl⟩
    exact ofDataset_of_parts proper nonempty remainder

/-- A share that is refused, or a size that is, leaves nothing to look up; otherwise every index comes from the
order, and that has only rows. -/
theorem ofDataset?_eq_some (plan : HoldoutPlan) (dataset : Dataset) :
    ofDataset? plan dataset = some (ofDataset plan dataset) := by
  have testWithin : ∀ i ∈ (Shuffle.seededOrder plan.seed dataset.size).take (plan.testSize dataset.size),
      i < dataset.observations.length := fun i member => Shuffle.seededOrder_lt (List.mem_of_mem_take member)
  have trainWithin : ∀ i ∈ (Shuffle.seededOrder plan.seed dataset.size).drop (plan.testSize dataset.size),
      i < dataset.observations.length := fun i member => Shuffle.seededOrder_lt (List.mem_of_mem_drop member)
  unfold ofDataset? ofDataset
  dsimp only
  split_ifs with proper empty
  · rfl
  · have cut : cut? (Shuffle.seededOrder plan.seed dataset.size) (plan.testSize dataset.size) = some
        ((Shuffle.seededOrder plan.seed dataset.size).take (plan.testSize dataset.size),
          (Shuffle.seededOrder plan.seed dataset.size).drop (plan.testSize dataset.size)) := by
      rw [cut?, if_pos]
      rw [Shuffle.length_seededOrder]
      omega
    rw [Shuffle.seededOrder?_eq_some]
    simp only [bind, Option.bind_some, cut, pick?_eq_some testWithin, pick?_eq_some trainWithin]
    rfl
  · rfl

/-- The parts of the shuffled rows account for every row. -/
theorem parted_partitions (within : plan.testSize dataset.size ≤ dataset.size) :
    (parted plan dataset).Partitions dataset (plan.testSize dataset.size) where
  test_length := by
    simp only [parted, List.length_take, Shuffle.length_seededOrder]
    omega
  train_length := by simp only [parted, List.length_drop, Shuffle.length_seededOrder]
  every_row_once := by
    simp only [parted, List.take_append_drop]
    exact Shuffle.seededOrder_perm plan.seed dataset.size
  test_rows := forall₂_pick fun i member => Shuffle.seededOrder_lt (List.mem_of_mem_take member)
  train_rows := forall₂_pick fun i member => Shuffle.seededOrder_lt (List.mem_of_mem_drop member)

theorem partitions_of_held {holdout : Holdout} (held : ofDataset plan dataset = .ok holdout) :
    holdout.Partitions dataset (plan.testSize dataset.size) := by
  obtain ⟨-, -, remainder, rfl⟩ := ofDataset_eq_ok_iff.mp held
  exact parted_partitions remainder.le

/-- The test rows and the training rows together are the rows of the dataset. -/
theorem rows_of_held {holdout : Holdout} (held : ofDataset plan dataset = .ok holdout) :
    (holdout.test ++ holdout.train).Perm dataset.observations := by
  obtain ⟨-, -, -, rfl⟩ := ofDataset_eq_ok_iff.mp held
  have picked : (pick dataset.observations.toArray (Shuffle.seededOrder plan.seed dataset.size)).Perm
      (pick dataset.observations.toArray (List.range dataset.size)) :=
    (Shuffle.seededOrder_perm plan.seed dataset.size).filterMap _
  simp only [parted]
  rw [← pick_append, List.take_append_drop]
  exact picked.trans (.of_eq (pick_range dataset.observations))

theorem train_finite {holdout : Holdout} (held : ofDataset plan dataset = .ok holdout) :
    ∀ row ∈ holdout.train, row.isFinite = true := by
  intro row member
  apply dataset.all_finite
  exact (rows_of_held held).mem_iff.mp (List.mem_append_right holdout.test member)

theorem test_finite {holdout : Holdout} (held : ofDataset plan dataset = .ok holdout) :
    ∀ row ∈ holdout.test, row.isFinite = true := by
  intro row member
  apply dataset.all_finite
  exact (rows_of_held held).mem_iff.mp (List.mem_append_left holdout.train member)

theorem test_ne_nil {holdout : Holdout} (held : ofDataset plan dataset = .ok holdout) : holdout.test ≠ [] := by
  obtain ⟨-, nonempty, -⟩ := ofDataset_eq_ok_iff.mp held
  rw [← List.length_pos_iff, (partitions_of_held held).length_test]
  exact nonempty

theorem train_ne_nil {holdout : Holdout} (held : ofDataset plan dataset = .ok holdout) : holdout.train ≠ [] := by
  obtain ⟨-, -, remainder, -⟩ := ofDataset_eq_ok_iff.mp held
  rw [← List.length_pos_iff, (partitions_of_held held).length_train]
  omega

/-- Holding rows out always answers, and in one of three ways. The share and the size of the test part decide
between them: the share is no proper part, or one side is left without rows, or the parts account for every
row of the dataset. -/
theorem ofDataset_trichotomy (plan : HoldoutPlan) (dataset : Dataset) :
    let total := dataset.size
    let test := plan.testSize total
    ofDataset? plan dataset = some (ofDataset plan dataset) ∧
    (¬ plan.IsProper ↔ ofDataset plan dataset = .error (.invalidFraction plan.testFraction)) ∧
    (plan.IsProper ∧ (test = 0 ∨ total ≤ test) ↔
      ofDataset plan dataset = .error (.emptyPartition total plan.testFraction (total - test) test)) ∧
    (plan.IsProper ∧ 0 < test ∧ test < total ↔
      ∃ holdout, ofDataset plan dataset = .ok holdout ∧ holdout.Partitions dataset test) := by
  refine ⟨ofDataset?_eq_some plan dataset, ⟨ofDataset_of_improper, ?_⟩,
    ⟨fun empty => ofDataset_of_empty empty.1 empty.2, ?_⟩, ?_, ?_⟩
  · intro refused
    rcases ofDataset_cases plan dataset with ⟨improper, -⟩ | ⟨-, -, empty⟩ | ⟨-, -, -, held⟩
    · exact improper
    · cases refused.symm.trans empty
    · cases refused.symm.trans held
  · intro refused
    rcases ofDataset_cases plan dataset with ⟨-, improper⟩ | ⟨proper, empty, -⟩ | ⟨-, -, -, held⟩
    · cases refused.symm.trans improper
    · exact ⟨proper, empty⟩
    · cases refused.symm.trans held
  · rintro ⟨proper, nonempty, remainder⟩
    exact ⟨parted plan dataset, ofDataset_of_parts proper nonempty remainder, parted_partitions remainder.le⟩
  · rintro ⟨holdout, held, -⟩
    obtain ⟨proper, nonempty, remainder, -⟩ := ofDataset_eq_ok_iff.mp held
    exact ⟨proper, nonempty, remainder⟩

end Outcomes

end Holdout

end HoldoutLine
