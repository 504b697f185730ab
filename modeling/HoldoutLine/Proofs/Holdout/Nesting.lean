import HoldoutLine.Proofs.Holdout.Partition

/-! # Holdouts of one seed are nested

The seed and the number of rows give one order of the rows, and the share only says where it is cut. So of two
holdouts of one seed, over as many rows, the one with the smaller test part is the other one cut earlier, whatever
the rows hold: both test parts begin the same order, and both training parts end it.
-/

namespace HoldoutLine.Holdout

/-- The second holdout holds out what the first one does, and perhaps more, of rows in the same order. -/
structure Nested (fewer more : Holdout) : Prop where
  same_order : more.testIndices ++ more.trainIndices = fewer.testIndices ++ fewer.trainIndices
  test_begins : fewer.testIndices <+: more.testIndices
  train_ends : more.trainIndices <:+ fewer.trainIndices
  /-- The rows that only the second one holds out were the first training rows of the other. -/
  moved : ∃ rows, more.testIndices = fewer.testIndices ++ rows ∧ fewer.trainIndices = rows ++ more.trainIndices
  never_back : ∀ i ∈ fewer.testIndices, i ∉ more.trainIndices

section Order

variable {plan : HoldoutPlan} {dataset : Dataset} {holdout fewer more : Holdout}

/-- Together the parts of a holdout are the rows in the order that the seed gives. -/
theorem order_of_held (held : ofDataset plan dataset = .ok holdout) :
    holdout.testIndices ++ holdout.trainIndices = Shuffle.seededOrder plan.seed dataset.size := by
  obtain ⟨-, -, -, rfl⟩ := ofDataset_eq_ok_iff.mp held
  exact List.take_append_drop ..

/-- Of two cuts through one order, the later one moves rows from behind it to before it. -/
theorem moved_of_same_order
    (same : more.testIndices ++ more.trainIndices = fewer.testIndices ++ fewer.trainIndices)
    (le : fewer.testIndices.length ≤ more.testIndices.length) :
    ∃ rows, more.testIndices = fewer.testIndices ++ rows ∧ fewer.trainIndices = rows ++ more.trainIndices := by
  have begins : fewer.testIndices <+: more.testIndices ++ more.trainIndices := same ▸ List.prefix_append _ _
  obtain ⟨rows, grown⟩ := List.prefix_of_prefix_length_le begins (List.prefix_append _ _) le
  refine ⟨rows, grown.symm, ?_⟩
  rw [← grown, List.append_assoc] at same
  exact (List.append_cancel_left same).symm

end Order

/-- Two holdouts of one seed, over as many rows in datasets that need not have anything else in common, are nested as
soon as the second holds out no fewer rows. -/
theorem nested_of_same_seed {smaller larger : HoldoutPlan} {first second : Dataset} {fewer more : Holdout}
    (sameSize : first.size = second.size) (sameSeed : smaller.seed = larger.seed)
    (heldFewer : ofDataset smaller first = .ok fewer) (heldMore : ofDataset larger second = .ok more)
    (le : fewer.testIndices.length ≤ more.testIndices.length) : Nested fewer more := by
  have same : more.testIndices ++ more.trainIndices = fewer.testIndices ++ fewer.trainIndices := by
    rw [order_of_held heldMore, order_of_held heldFewer, sameSize, sameSeed]
  obtain ⟨rows, grown, shrunk⟩ := moved_of_same_order same le
  exact
    { same_order := same
      test_begins := grown ▸ List.prefix_append _ _
      train_ends := shrunk ▸ List.suffix_append _ _
      moved := ⟨rows, grown, shrunk⟩
      never_back := by
        intro i test train
        have stillTest : i ∈ more.testIndices := grown ▸ List.mem_append_left rows test
        exact (partitions_of_held heldMore).notMem_test train stillTest }

def quarter : HoldoutPlan := { testFraction := 0.25, seed := 7 }

/-- Three fifths of the rows, in the same order. -/
def threeFifths : HoldoutPlan := { testFraction := 0.6, seed := 7 }

def sixRows : Dataset where
  predictorName := "x"
  targetName := "y"
  observations := [⟨1.0, 2.0⟩, ⟨2.0, 4.0⟩, ⟨3.0, 6.0⟩, ⟨4.0, 8.0⟩, ⟨5.0, 10.0⟩, ⟨6.0, 12.0⟩]
  observations_ne_nil := List.cons_ne_nil _ _
  all_finite := by decide +kernel

def sixRepeats : Dataset where
  predictorName := "hours"
  targetName := "score"
  observations := List.replicate 6 ⟨0.5, -7.0⟩
  observations_ne_nil := List.cons_ne_nil _ _
  all_finite := by decide +kernel

def quarterHeld : Holdout where
  trainIndices := [4, 2, 0, 5]
  testIndices := [1, 3]
  train := [⟨5.0, 10.0⟩, ⟨3.0, 6.0⟩, ⟨1.0, 2.0⟩, ⟨6.0, 12.0⟩]
  test := [⟨2.0, 4.0⟩, ⟨4.0, 8.0⟩]

/-- What `threeFifths` holds out of `sixRepeats`. -/
def threeFifthsHeld : Holdout where
  trainIndices := [0, 5]
  testIndices := [1, 3, 4, 2]
  train := List.replicate 2 ⟨0.5, -7.0⟩
  test := List.replicate 4 ⟨0.5, -7.0⟩

theorem sixRows_nested :
    sixRows.size = sixRepeats.size ∧ ofDataset quarter sixRows = .ok quarterHeld ∧
      ofDataset threeFifths sixRepeats = .ok threeFifthsHeld ∧ Nested quarterHeld threeFifthsHeld := by
  have sameSize : sixRows.size = sixRepeats.size := by decide
  have heldFewer : ofDataset quarter sixRows = .ok quarterHeld := by decide +kernel
  have heldMore : ofDataset threeFifths sixRepeats = .ok threeFifthsHeld := by decide +kernel
  have sameSeed : quarter.seed = threeFifths.seed := rfl
  exact ⟨sameSize, heldFewer, heldMore, nested_of_same_seed sameSize sameSeed heldFewer heldMore (by decide)⟩

end HoldoutLine.Holdout
