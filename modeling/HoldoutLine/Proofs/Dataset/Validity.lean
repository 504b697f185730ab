import HoldoutLine.Dataset.Bundled
import HoldoutLine.Proofs.Binary64.Unpacked
import HoldoutLine.Proofs.Dataset.Defects
import HoldoutLine.Proofs.Dataset.Sheet

/-! # Every dataset has rows, and only finite ones

A dataset is made of observations at hand or read from a table. The two ways check the values in different places,
the one over the whole list and the other field by field, and many numerals read as an infinity or as no number.
`ofObservations_eq_iff` and `ofFeed_eq_ok_iff` say what each of them makes, and of what; `Sound` is what both of them
ask for, told by the units of the doubles.
-/

namespace HoldoutLine

/-- Both values are numbers of units, so neither infinite nor not a number. -/
def Observation.HasNumbers (o : Observation) : Prop :=
  (∃ negative units, Binary64.ofFloat o.predictor = .finite negative units) ∧
    ∃ negative units, Binary64.ofFloat o.target = .finite negative units

theorem Observation.isFinite_iff (o : Observation) : o.isFinite = true ↔ o.HasNumbers := by
  rw [Observation.isFinite, Bool.and_eq_true, Binary64.isFinite_iff, Binary64.isFinite_iff, HasNumbers]

/-- The text in bytes is the one that they encode. -/
theorem Utf8.decode_eq_ok_iff {encoded : List UInt8} {text : String} :
    Utf8.decode ⟨encoded.toArray⟩ = .ok text ↔ encoded = Utf8.bytes text.toList := by
  rw [Utf8.decode_eq_iff, ← Utf8.toList_toUTF8, ByteArray.ext_iff, ← Array.toList_inj]

def Sheet.fields (sheet : Sheet) : List (List (List UInt8)) :=
  (sheet.header :: sheet.rows).map (List.map Utf8.bytes)

namespace Dataset

open Table

/-- What rows must be like to be those of a dataset. -/
structure Sound (rows : List Observation) : Prop where
  nonempty : 0 < rows.length
  numbers : ∀ o ∈ rows, o.HasNumbers

/-- The rows of a dataset are sound, whatever made it. -/
theorem sound (dataset : Dataset) : Sound dataset.observations where
  nonempty := List.length_pos_iff.mpr dataset.observations_ne_nil
  numbers o member := o.isFinite_iff.mp (dataset.all_finite o member)

/-- Names and rows make up a dataset. -/
theorem eq_of_parts {dataset other : Dataset} (predictorName : dataset.predictorName = other.predictorName)
    (targetName : dataset.targetName = other.targetName) (observations : dataset.observations = other.observations) :
    dataset = other := by
  cases dataset
  cases other
  cases predictorName
  cases targetName
  cases observations
  rfl

section AtHand

/-- A row without numbers, while all those before it have some. -/
structure FirstUnsound (rows : List Observation) (row : Nat) (o : Observation) : Prop where
  found : rows[row]? = some o
  unsound : ¬ o.HasNumbers
  earlier : ∀ k other, k < row → rows[k]? = some other → other.HasNumbers

variable {predictorName targetName : String} {rows : List Observation} {row : Nat} {o : Observation}

/-- The search finds the first row that is not finite. -/
theorem firstNonFinite_eq_some_iff : firstNonFinite? rows = some (row, o) ↔ FirstUnsound rows row o := by
  have unpaired : firstNonFinite? rows = some (row, o) ↔
      (rows.zipIdx.find? fun entry => !entry.1.isFinite) = some (o, row) := by
    simp [firstNonFinite?]
  rw [unpaired, List.find?_eq_some_iff_getElem]
  constructor
  · rintro ⟨unsound, place, inside, here, earlier⟩
    rw [List.getElem_zipIdx, Prod.mk.injEq, Nat.zero_add] at here
    obtain ⟨here, rfl⟩ := here
    rw [List.length_zipIdx] at inside
    refine ⟨here ▸ List.getElem?_eq_getElem inside, ?_, fun k other before found => ?_⟩
    · rw [← o.isFinite_iff]
      simpa using unsound
    · obtain ⟨within, rfl⟩ := List.getElem?_eq_some_iff.mp found
      rw [← Observation.isFinite_iff]
      simpa using earlier k before
  · rintro ⟨found, unsound, earlier⟩
    obtain ⟨inside, rfl⟩ := List.getElem?_eq_some_iff.mp found
    rw [← Observation.isFinite_iff] at unsound
    refine ⟨by simpa using unsound, row, by simpa using inside, by simp, fun k before => ?_⟩
    have sound := (Observation.isFinite_iff _).mpr
      (earlier k _ before (List.getElem?_eq_getElem (before.trans inside)))
    simpa using sound

/-- Rows that are not all finite have a first one that is not. -/
theorem exists_firstNonFinite (unsound : ¬ ∀ o ∈ rows, o.isFinite = true) :
    ∃ row o, firstNonFinite? rows = some (row, o) := by
  cases found : firstNonFinite? rows with
  | some first => exact ⟨first.1, first.2, rfl⟩
  | none =>
    simp only [firstNonFinite?, Option.map_eq_none_iff, List.find?_eq_none] at found
    refine (unsound fun o member => ?_).elim
    obtain ⟨row, here⟩ := List.mem_iff_getElem?.mp member
    simpa using found (o, row) (List.mem_zipIdx_iff_getElem?.mpr here)

/-- A list has one first unsound row at most. -/
theorem FirstUnsound.unique {other : Nat} {o' : Observation} (first : FirstUnsound rows row o)
    (also : FirstUnsound rows other o') : row = other ∧ o = o' := by
  have same := (firstNonFinite_eq_some_iff.mpr first).symm.trans (firstNonFinite_eq_some_iff.mpr also)
  exact ⟨congrArg Prod.fst (Option.some.inj same), congrArg Prod.snd (Option.some.inj same)⟩

private theorem FirstUnsound.ne_nil (first : FirstUnsound rows row o) : rows ≠ [] :=
  List.ne_nil_of_mem (List.mem_of_getElem? first.found)

private theorem FirstUnsound.not_sound (first : FirstUnsound rows row o) : ¬ Sound rows :=
  fun sound => first.unsound (sound.numbers o (List.mem_of_getElem? first.found))

/-- What is to come of rows at hand: a complaint that there are none or about the first unsound one, or a dataset
that keeps them as they are. -/
inductive Made (predictorName targetName : String) (rows : List Observation) : Except DatasetError Dataset → Prop where
  | noRows (empty : rows = []) : Made predictorName targetName rows (.error .noRows)
  | unsound {row : Nat} {o : Observation} (first : FirstUnsound rows row o) :
      Made predictorName targetName rows (.error (.nonFiniteRow row o))
  | kept {dataset : Dataset} (sound : Sound rows) (predictor : dataset.predictorName = predictorName)
      (target : dataset.targetName = targetName) (same : dataset.observations = rows) :
      Made predictorName targetName rows (.ok dataset)

/-- The fallback of the search for an unsound row is never reached. -/
theorem made_ofObservations (predictorName targetName : String) (rows : List Observation) :
    Made predictorName targetName rows (ofObservations predictorName targetName rows) := by
  unfold ofObservations
  split_ifs with empty finite
  · exact .noRows empty
  · exact .kept (sound ⟨predictorName, targetName, rows, empty, finite⟩) rfl rfl rfl
  · obtain ⟨row, o, found⟩ := exists_firstNonFinite finite
    rw [found]
    exact .unsound (firstNonFinite_eq_some_iff.mp found)

theorem Made.unique {outcome other : Except DatasetError Dataset} (made : Made predictorName targetName rows outcome)
    (also : Made predictorName targetName rows other) : outcome = other := by
  cases made with
  | noRows empty =>
    cases also with
    | noRows => rfl
    | unsound first => exact (first.ne_nil empty).elim
    | kept sound => exact (sound.nonempty.ne' (List.length_eq_zero_iff.mpr empty)).elim
  | unsound first =>
    cases also with
    | noRows empty => exact (first.ne_nil empty).elim
    | unsound second =>
      obtain ⟨rfl, rfl⟩ := first.unique second
      rfl
    | kept sound => exact (first.not_sound sound).elim
  | kept sound predictor target same =>
    cases also with
    | noRows empty => exact (sound.nonempty.ne' (List.length_eq_zero_iff.mpr empty)).elim
    | unsound first => exact (first.not_sound sound).elim
    | kept _ alsoPredictor alsoTarget alsoSame =>
      rw [eq_of_parts (predictor.trans alsoPredictor.symm) (target.trans alsoTarget.symm) (same.trans alsoSame.symm)]

theorem ofObservations_eq_iff {outcome : Except DatasetError Dataset} :
    ofObservations predictorName targetName rows = outcome ↔ Made predictorName targetName rows outcome := by
  constructor
  · rintro rfl
    exact made_ofObservations predictorName targetName rows
  · exact (made_ofObservations predictorName targetName rows).unique

/-- There is a dataset of rows exactly if they are sound, and it keeps them. -/
theorem exists_ofObservations_iff :
    (∃ dataset, ofObservations predictorName targetName rows = .ok dataset ∧ dataset.observations = rows) ↔
      Sound rows := by
  constructor
  · rintro ⟨dataset, -, rfl⟩
    exact dataset.sound
  · intro sound
    have made := made_ofObservations predictorName targetName rows
    generalize ofObservations predictorName targetName rows = outcome at made ⊢
    cases made with
    | noRows empty => exact (sound.nonempty.ne' (List.length_eq_zero_iff.mpr empty)).elim
    | unsound first => exact (first.not_sound sound).elim
    | kept _ _ _ same => exact ⟨_, rfl, same⟩

/-- The rows of a dataset at some places, in whichever order. -/
def selection (dataset : Dataset) (places : List (Fin dataset.observations.length)) : List Observation :=
  places.map dataset.observations.get

private theorem sound_selection_iff (dataset : Dataset) (places : List (Fin dataset.observations.length)) :
    Sound (dataset.selection places) ↔ places ≠ [] := by
  constructor
  · rintro sound rfl
    exact sound.nonempty.ne rfl
  · intro nonempty
    refine ⟨?_, fun o member => ?_⟩
    · rw [selection, List.length_map]
      exact List.length_pos_iff.mpr nonempty
    · obtain ⟨place, -, rfl⟩ := List.mem_map.mp member
      exact dataset.sound.numbers _ (List.get_mem ..)

end AtHand

section FromTables

variable {scanned : Scanned} {record : Record}

private theorem exists_cells_of_textsFrom {index : Nat} {fields : List (List UInt8)} {texts : List String}
    (decoded : record.textsFrom index fields = .ok texts) :
    fields = (texts.map String.toList).map Utf8.bytes := by
  induction fields generalizing index texts with
  | nil =>
    cases decoded
    rfl
  | cons field rest ih =>
    rw [Record.textsFrom] at decoded
    split at decoded
    · cases decoded
    · next text here =>
      cases tail : record.textsFrom (index + 1) rest with
      | error earlier => simp only [tail, Except.map, reduceCtorEq] at decoded
      | ok others =>
        simp only [tail, Except.map, Except.ok.injEq] at decoded
        subst decoded
        rw [List.map_cons, List.map_cons, ← ih tail, ← Utf8.decode_eq_ok_iff.mp here]

/-- A record that is read as a row is a row of texts. -/
theorem exists_cells_of_readRow {row : FiniteObservation} (read : readRow record = .ok row) :
    ∃ cells : List (List Char), record.fields = cells.map Utf8.bytes := by
  unfold readRow at read
  cases texts : record.texts with
  | error earlier =>
    rw [texts] at read
    cases read
  | ok cells => exact ⟨_, exists_cells_of_textsFrom texts⟩

private theorem exists_cells_of_readHeader {names : String × String} (read : readHeader record = .ok names) :
    ∃ cells : List (List Char), record.fields = cells.map Utf8.bytes := by
  unfold readHeader at read
  cases texts : record.texts with
  | error earlier =>
    rw [texts] at read
    cases read
  | ok cells => exact ⟨_, exists_cells_of_textsFrom texts⟩

/-- Cells are written in some records exactly if the fields are their bytes. -/
theorem written_iff {cells : List (List (List Char))} {rows : List Record} :
    List.Forall₂ (fun cells record => record.fields = cells.map Utf8.bytes) cells rows ↔
      rows.map Record.fields = cells.map (List.map Utf8.bytes) := by
  have pairs : rows.map Record.fields = cells.map (List.map Utf8.bytes) ↔
      List.Forall₂ Eq (rows.map Record.fields) (cells.map (List.map Utf8.bytes)) := by
    rw [List.forall₂_eq_eq_eq]
  rw [pairs, List.forall₂_map_left_iff, List.forall₂_map_right_iff]
  exact ⟨List.Forall₂.flip, List.Forall₂.flip⟩

/-- Records that are read as rows are rows of texts. -/
theorem exists_cells_of_rows {rows : List Record} {observations : List FiniteObservation}
    (each : List.Forall₂ (fun row observation => readRow row = .ok observation) rows observations) :
    ∃ cells : List (List (List Char)), rows.map Record.fields = cells.map (List.map Utf8.bytes) := by
  induction each with
  | nil => exact ⟨[], rfl⟩
  | cons here _ ih =>
    obtain ⟨cells, fields⟩ := exists_cells_of_readRow here
    obtain ⟨others, tail⟩ := ih
    refine ⟨cells :: others, ?_⟩
    rw [List.map_cons, List.map_cons, fields, tail]

/-- A table that makes a dataset is a sheet that says what the dataset holds. -/
theorem heldBy_of_ofScanned {dataset : Dataset} (read : ofScanned scanned = .ok dataset) :
    scanned.failure = none ∧
      ∃ sheet : Sheet, scanned.records.map Record.fields = sheet.fields ∧ sheet.HeldBy dataset := by
  have sound : defect? scanned.records = none := by
    by_contra defective
    obtain ⟨error, found⟩ := Option.ne_none_iff_exists'.mp defective
    cases read.symm.trans (ofScanned_of_defect found)
  have whole : scanned.failure = none := by
    by_contra failing
    obtain ⟨reason, failed⟩ := Option.ne_none_iff_exists'.mp failing
    cases read.symm.trans (ofScanned_of_failure sound failed)
  refine ⟨whole, ?_⟩
  cases records : scanned.records with
  | nil => cases read.symm.trans (ofScanned_of_empty records whole)
  | cons header rows =>
    obtain ⟨names, observations, readNames, each, -⟩ := ofScanned_of_sound records sound whole
    obtain ⟨headerCells, headerFields⟩ := exists_cells_of_readHeader readNames
    obtain ⟨rowCells, rowFields⟩ := exists_cells_of_rows each
    have judged : Judged (Sheet.mk headerCells rowCells).defect? (Sheet.mk headerCells rowCells).HeldBy
        (ofScanned ⟨header :: rows, none⟩) :=
      judged_ofScanned headerFields (written_iff.mpr rowFields)
    rw [← records, ← whole, read] at judged
    cases judged with
    | accepted _ held => exact ⟨⟨headerCells, rowCells⟩, by rw [List.map_cons, headerFields, rowFields]; rfl, held⟩

end FromTables

section Sheets

open Sheet

variable {sheet : Sheet} {dataset other : Dataset}

private theorem cellDefect_of_writes {cell : List Char} {x : Float}
    (writes : Numeral.Writes (trimBlanks cell) x) (finite : x.isFinite = true) : cellDefect? cell = none := by
  have numeral : Numeral.IsNumeral (trimBlanks cell) := (Numeral.isNumeral_iff_writes _).mpr ⟨x, writes⟩
  rw [cellDefect?, if_neg (not_not_intro numeral), if_pos ⟨x, writes, finite⟩]

private theorem rowDefect_of_held {cells : List (List Char)} {o : Observation} (held : RowHeldBy cells o)
    (finite : o.isFinite = true) : rowDefect? cells = none := by
  rw [RowHeldBy, List.forall₂_map_left_iff] at held
  obtain ⟨finitePredictor, finiteTarget⟩ := Bool.and_eq_true_iff.mp finite
  match held with
  | .cons left (.cons right .nil) =>
    rw [rowDefect?, cellDefect_of_writes left finitePredictor, cellDefect_of_writes right finiteTarget]
    rfl

/-- Nothing is wrong with a sheet that says what a dataset holds. -/
theorem defect_of_heldBy (held : sheet.HeldBy dataset) : sheet.defect? = none := by
  have two : sheet.header.length = 2 := by
    rw [← List.length_map cleanNameChars, held.names]
    rfl
  have fine : sheet.rows.findSome? rowDefect? = none := by
    rw [List.findSome?_eq_none_iff]
    intro cells member
    obtain ⟨row, inside, rfl⟩ := List.mem_iff_getElem.mp member
    have there : row < dataset.observations.length := held.rows.length_eq ▸ inside
    exact rowDefect_of_held (held.rows.get inside there) (dataset.all_finite _ (List.getElem_mem there))
  have some_rows : sheet.rows ≠ [] := by
    rw [← List.length_pos_iff, held.rows.length_eq, List.length_pos_iff]
    exact dataset.observations_ne_nil
  rw [Sheet.defect?, headerDefect?, if_pos two, fine, if_neg some_rows]
  rfl

/-- A sheet says what one dataset holds. -/
theorem eq_of_heldBy (held : sheet.HeldBy dataset) (also : sheet.HeldBy other) : dataset = other := by
  have names := held.names.symm.trans also.names
  simp only [List.cons.injEq, and_true, String.toList_inj] at names
  refine eq_of_parts names.1 names.2 (List.right_unique_forall₂' ?_ held.rows also.rows)
  intro cells o o' here there
  have unique : Relator.RightUnique Numeral.Writes := fun _ _ _ => Numeral.Writes.unique
  have values := List.right_unique_forall₂' unique here there
  simp only [List.cons.injEq, and_true] at values
  cases o
  cases o'
  cases values.1
  cases values.2
  rfl

/-- A dataset holds all that a source hands out: the source comes to its end, and its records are a sheet that says
what the dataset holds. -/
structure ReadFrom (feed : Feed) (dataset : Dataset) : Prop where
  sound : Sound dataset.observations
  whole : feed.scan.failure = none
  held : ∃ sheet : Sheet, feed.scan.records.map Record.fields = sheet.fields ∧ sheet.HeldBy dataset

/-- Only values that were found finite come out of the loop over the records, and nothing is left out. -/
theorem ofFeed_eq_ok_iff {feed : Feed} : ofFeed feed = .ok dataset ↔ ReadFrom feed dataset := by
  constructor
  · intro read
    obtain ⟨whole, held⟩ := heldBy_of_ofScanned read
    exact ⟨dataset.sound, whole, held⟩
  · rintro ⟨-, whole, sheet, fields, held⟩
    obtain ⟨header, rows, records, headerFields, rowFields⟩ := List.map_eq_cons_iff.mp fields
    have judged : Judged sheet.defect? sheet.HeldBy (ofScanned ⟨header :: rows, none⟩) :=
      judged_ofScanned headerFields (written_iff.mpr rowFields)
    rw [← records, ← whole] at judged
    change Judged sheet.defect? sheet.HeldBy (ofFeed feed) at judged
    generalize ofFeed feed = outcome at judged
    cases judged with
    | refused line wrong => cases wrong.symm.trans (defect_of_heldBy held)
    | accepted _ also => rw [eq_of_heldBy held also]

end Sheets

section Beginning

/-- The rows in front of a place; there are none if there is no such place. -/
def rowsBefore? (stop : Nat) (rows : List Observation) : Option (List Observation) :=
  if stop ≤ rows.length then some (rows.take stop) else none

/-- The rows at the beginning of a dataset, as many as are asked for, or all of them. -/
structure HeadOf (dataset : Dataset) (count : Nat) (rows : List Observation) : Prop where
  inside : rowsBefore? (min count dataset.size) dataset.observations = some rows
  beginning : rows <+: dataset.observations
  length_eq : rows.length = min count dataset.size

/-- A head ends at a place that is there, however many rows are asked for. -/
theorem headOf_head (dataset : Dataset) (count : Nat) : HeadOf dataset count (dataset.head count) where
  inside := by
    have within : min count dataset.size ≤ dataset.observations.length := Nat.min_le_right ..
    have same : dataset.observations.take (min count dataset.size) = dataset.head count :=
      List.take_eq_take_min.symm
    rw [rowsBefore?, if_pos within, same]
  beginning := List.take_prefix count dataset.observations
  length_eq := List.length_take

end Beginning

/-- Rows make a dataset exactly if they are sound, and otherwise the error tells that there are none or which is the
first unsound one; a source makes a dataset of what its records say, if that is sound. The rows of a dataset are sound
under whatever names; those at any places, at least one, make a dataset again; and a head of any length is there. -/
theorem valid_however_made :
    (∀ predictorName targetName rows outcome,
        ofObservations predictorName targetName rows = outcome ↔ Made predictorName targetName rows outcome) ∧
      (∀ feed dataset, ofFeed feed = .ok dataset ↔ ReadFrom feed dataset) ∧
      (∀ text dataset, ofText text = .ok dataset ↔ ReadFrom (Feed.ofText text) dataset) ∧
      (∀ dataset, bundled = .ok dataset ↔ ReadFrom (Feed.ofText bundledTable) dataset) ∧
      ∀ (dataset : Dataset) (predictorName targetName : String),
        Sound (dataset.rename predictorName targetName).observations ∧
          (∀ places, (∃ again, ofObservations predictorName targetName (dataset.selection places) = .ok again ∧
            again.observations = dataset.selection places) ↔ places ≠ []) ∧
          ∀ count, HeadOf dataset count (dataset.head count) := by
  refine ⟨fun _ _ _ _ => ofObservations_eq_iff, fun _ _ => ofFeed_eq_ok_iff, fun _ _ => ofFeed_eq_ok_iff,
    fun _ => ofFeed_eq_ok_iff, fun dataset predictorName targetName => ⟨?_, ?_, ?_⟩⟩
  · exact (dataset.rename predictorName targetName).sound
  · intro places
    rw [exists_ofObservations_iff, sound_selection_iff]
  · exact headOf_head dataset

end Dataset

end HoldoutLine
