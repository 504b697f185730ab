import HoldoutLine.Json.Printer
import HoldoutLine.Proofs.Json.Numbers
import HoldoutLine.Proofs.Json.Reader

/-! # Every value is printed as a document

The indented form of a value is a document in the grammar, and it writes the value itself, except that null stands
where a double is not finite (`Json.shown`, `shown_eq_self_iff`). So reading what was printed gives that back:
`isDocument_pretty`, `read_pretty`. The proof is one induction over the parts of a value (`induction_parts`).
-/

namespace HoldoutLine.Json

section Shown

mutual

/-- What a document shows of a value: null in the place of every double that is not finite, and the rest as it is. -/
def shown : Json → Json
  | .null => .null
  | .bool value => .bool value
  | .count value => .count value
  | .number value => if value.isFinite then .number value else .null
  | .text value => .text value
  | .list items => .list (shownItems items)
  | .object members => .object (shownMembers members)

def shownItems : List Json → List Json
  | [] => []
  | item :: rest => item.shown :: shownItems rest

def shownMembers : List (String × Json) → List (String × Json)
  | [] => []
  | (name, value) :: rest => (name, value.shown) :: shownMembers rest

end

mutual

/-- The doubles in a value, in the order in which they are written. -/
def doubles : Json → List Float
  | .number value => [value]
  | .list items => itemDoubles items
  | .object members => memberDoubles members
  | _ => []

def itemDoubles : List Json → List Float
  | [] => []
  | item :: rest => item.doubles ++ itemDoubles rest

def memberDoubles : List (String × Json) → List Float
  | [] => []
  | (_, value) :: rest => value.doubles ++ memberDoubles rest

end

/-- What holds of a value if it holds of its parts holds of every value. -/
theorem induction_parts {motive : Json → Prop} (null : motive .null) (bool : ∀ value, motive (.bool value))
    (count : ∀ value, motive (.count value)) (number : ∀ value, motive (.number value))
    (text : ∀ value, motive (.text value)) (list : ∀ items, (∀ item ∈ items, motive item) → motive (.list items))
    (object : ∀ members, (∀ member ∈ members, motive member.2) → motive (.object members)) (json : Json) :
    motive json :=
  @Json.rec motive (fun items => ∀ item ∈ items, motive item) (fun members => ∀ member ∈ members, motive member.2)
    (fun member => motive member.2) null bool count number text list object nofun
    (fun _ _ first others => List.forall_mem_cons.mpr ⟨first, others⟩) nofun
    (fun _ _ first others => List.forall_mem_cons.mpr ⟨first, others⟩) (fun _ _ value => value) json

@[simp] theorem shownItems_eq (items : List Json) : shownItems items = items.map shown := by
  induction items with
  | nil => rfl
  | cons item rest ih => rw [shownItems, ih, List.map_cons]

@[simp] theorem shownMembers_eq (members : List (String × Json)) :
    shownMembers members = members.map fun member => (member.1, member.2.shown) := by
  induction members with
  | nil => rfl
  | cons member rest ih => rw [shownMembers, ih, List.map_cons]

@[simp] theorem itemDoubles_eq (items : List Json) : itemDoubles items = items.flatMap doubles := by
  induction items with
  | nil => rfl
  | cons item rest ih => rw [itemDoubles, ih, List.flatMap_cons]

@[simp] theorem memberDoubles_eq (members : List (String × Json)) :
    memberDoubles members = members.flatMap fun member => member.2.doubles := by
  induction members with
  | nil => rfl
  | cons member rest ih => rw [memberDoubles, ih, List.flatMap_cons]

/-- A value is shown as it is exactly if its doubles are finite. -/
theorem shown_eq_self_iff (json : Json) : json.shown = json ↔ ∀ x ∈ json.doubles, x.isFinite = true := by
  induction json using induction_parts with
  | number value =>
    rw [shown, doubles, List.forall_mem_singleton]
    split_ifs with finite
    · exact iff_of_true rfl finite
    · exact iff_of_false nofun finite
  | list items ih =>
    have same : items.map shown = items ↔ ∀ item ∈ items, item.shown = item := by
      simpa using @List.map_inj_left _ _ items shown id
    rw [shown, shownItems_eq, Json.list.injEq, same, doubles, itemDoubles_eq, List.forall_mem_flatMap]
    exact forall₂_congr ih
  | object members ih =>
    have same : (members.map fun member => (member.1, member.2.shown)) = members ↔
        ∀ member ∈ members, member.2.shown = member.2 := by
      simpa [Prod.ext_iff] using @List.map_inj_left _ _ members (fun member => (member.1, member.2.shown)) id
    rw [shown, shownMembers_eq, Json.object.injEq, same, doubles, memberDoubles_eq, List.forall_mem_flatMap]
    exact forall₂_congr ih
  | _ => exact iff_of_true rfl nofun

@[simp] theorem prettyItems_eq (depth : Nat) (items : List Json) :
    prettyItems depth items = items.map (pretty depth) := by
  induction items with
  | nil => rfl
  | cons item rest ih => rw [prettyItems, ih, List.map_cons]

@[simp] theorem prettyMembers_eq (depth : Nat) (members : List (String × Json)) : prettyMembers depth members =
    members.map fun member => quoted member.1 ++ ": " ++ pretty depth member.2 := by
  induction members with
  | nil => rfl
  | cons member rest ih => rw [prettyMembers, ih, List.map_cons]

end Shown

section Texts

/-- A control character as four hexadecimal digits. -/
theorem isFourHex_control {code : Nat} (control : code < 0x20) : IsFourHex (fourHex code) code := by
  have digits : ∀ code < 0x20, fourHex code = ['0', '0', Nat.digitChar (code / 16), Nat.digitChar (code % 16)] := by
    decide
  have digit : ∀ n < 16, hexDigit? (Nat.digitChar n) = some n := by decide
  have hex := IsFourHex.digits (digit 0 (by decide)) (digit 0 (by decide)) (digit (code / 16) (by omega))
    (digit (code % 16) (Nat.mod_lt _ (by decide)))
  have value : ((16 * 0 + 0) * 16 + code / 16) * 16 + code % 16 = code := by omega
  rw [value] at hex
  rwa [digits code control]

/-- What is written for a character means that character. -/
theorem isBody_escapedChar (c : Char) {written meant : List Char} (rest : IsBody written meant) :
    IsBody (escapedChar c ++ written) (c :: meant) := by
  unfold escapedChar
  split_ifs with mark backspace formFeed newline carriageReturn tab control
  · rcases mark with rfl | rfl
    · exact .escaped .quote rest
    · exact .escaped .backslash rest
  · rw [← Char.ofNat_toNat c, backspace]
    exact .escaped .backspace rest
  · rw [← Char.ofNat_toNat c, formFeed]
    exact .escaped .formFeed rest
  · subst newline
    exact .escaped .newline rest
  · subst carriageReturn
    exact .escaped .carriageReturn rest
  · subst tab
    exact .escaped .tab rest
  · have escape := IsEscape.unicode (isFourHex_control control) (.inl (by omega))
    rw [Char.ofNat_toNat] at escape
    exact .escaped escape rest
  · exact .plain (by omega) (not_or.mp mark).1 (not_or.mp mark).2 rest

private theorem isBody_flatMap (meant : List Char) : IsBody (meant.flatMap escapedChar) meant := by
  induction meant with
  | nil => exact .empty
  | cons c rest ih => exact isBody_escapedChar c ih

/-- A text is written as itself between quotes, whatever its characters are. -/
theorem isQuoted_quoted (meant : String) : IsQuoted (quoted meant).toList meant := by
  refine ⟨meant.toList.flatMap escapedChar, ?_, isBody_flatMap meant.toList⟩
  rw [quoted, String.toList_ofList, List.cons_append]

end Texts

section Layout

variable {gap tail : List Char}

/-- Entries one to a line, each line behind a gap, and what stands behind the last of them. -/
def entryLines (gap tail : List Char) : List (List Char) → List Char
  | [] => []
  | [entry] => entry ++ tail
  | entry :: next :: rest => entry ++ ',' :: ('\n' :: gap ++ entryLines gap tail (next :: rest))

/-- Joining the indented lines comes to the same. -/
theorem intercalate_eq_entryLines (gap tail : List Char) (entry : List Char) (rest : List (List Char)) :
    [',', '\n'].intercalate ((entry :: rest).map (gap ++ ·)) ++ tail = gap ++ entryLines gap tail (entry :: rest) := by
  induction rest generalizing entry with
  | nil => simp [List.intercalate, entryLines]
  | cons next rest ih =>
    have step := ih next
    simp only [List.map_cons] at step
    simp only [List.map_cons, List.intercalate_cons_cons, entryLines, List.append_assoc]
    rw [step]
    simp

/-- Lines between brackets. -/
theorem toList_bracketed (opening closing : String) (depth : Nat) {lines : List String} (some : lines ≠ []) :
    (bracketed opening closing depth lines).toList =
      opening.toList ++ (('\n' :: (indent (depth + 1)).toList) ++
        (entryLines (indent (depth + 1)).toList ('\n' :: (indent depth).toList) (lines.map String.toList) ++
          closing.toList)) := by
  obtain ⟨line, rest, rfl⟩ := List.exists_cons_of_ne_nil some
  have indented : ((line :: rest).map (indent (depth + 1) ++ ·)).map String.toList =
      ((line :: rest).map String.toList).map ((indent (depth + 1)).toList ++ ·) := by
    rw [List.map_map, List.map_map]
    exact List.map_congr_left fun entry _ => String.toList_append
  have joined := intercalate_eq_entryLines (indent (depth + 1)).toList ('\n' :: (indent depth).toList) line.toList
    (rest.map String.toList)
  have comma : ",\n".toList = [',', '\n'] := rfl
  have newline : "\n".toList = ['\n'] := rfl
  rw [← List.map_cons, ← indented] at joined
  have closed := congrArg (· ++ closing.toList) joined
  simp only [List.append_assoc, List.cons_append] at closed
  simp only [bracketed, String.toList_append, String.toList_intercalate, comma, newline, List.append_assoc,
    List.cons_append, List.nil_append]
  rw [closed]

private theorem isGap_nil : IsGap [] := nofun

private theorem isGap_indent (depth : Nat) : IsGap ('\n' :: (indent depth).toList) := by
  intro c member
  rw [indent, String.toList_ofList, List.mem_cons] at member
  rcases member with rfl | blank
  · rfl
  · rw [List.eq_of_mem_replicate blank]
    rfl

section Entries

variable {depth : Nat} (spaced : IsGap ('\n' :: gap)) (blank : IsGap tail)

include spaced blank

/-- Written items, one to a line, are the items of a list. -/
theorem writes_items {item : Json} {rest : List Json}
    (written : ∀ entry ∈ item :: rest, Writes (entry.pretty depth).toList (.value entry.shown)) :
    Writes (entryLines gap tail (((item :: rest).map (pretty depth)).map String.toList))
      (.items ((item :: rest).map shown)) := by
  induction rest generalizing item with
  | nil => exact .lastItem (written item List.mem_cons_self) blank
  | cons next rest ih =>
    obtain ⟨here, others⟩ := List.forall_mem_cons.mp written
    exact .nextItem here isGap_nil spaced (ih others)

/-- Written members, one to a line, are the members of an object. -/
theorem writes_members {member : String × Json} {rest : List (String × Json)}
    (written : ∀ entry ∈ member :: rest, Writes (entry.2.pretty depth).toList (.value entry.2.shown)) :
    Writes
      (entryLines gap tail
        (((member :: rest).map fun entry => quoted entry.1 ++ ": " ++ pretty depth entry.2).map String.toList))
      (.members ((member :: rest).map fun entry => (entry.1, entry.2.shown))) := by
  have behind : IsGap [' '] := by simp [IsGap, isJsonBlank]
  have colon : ": ".toList = [':', ' '] := rfl
  induction rest generalizing member with
  | nil =>
    have last := Writes.lastMember (isQuoted_quoted member.1) isGap_nil behind (written member List.mem_cons_self) blank
    simpa [entryLines, colon] using last
  | cons next rest ih =>
    obtain ⟨here, others⟩ := List.forall_mem_cons.mp written
    have more := Writes.nextMember (isQuoted_quoted member.1) isGap_nil behind here isGap_nil spaced (ih others)
    simpa [entryLines, colon] using more

end Entries

end Layout

/-- The indented form of a value writes what it shows. -/
theorem writes_pretty (json : Json) (depth : Nat) : Writes (json.pretty depth).toList (.value json.shown) := by
  have absent : Writes "null".toList (.value .null) := .null
  have affirmed : Writes "true".toList (.value (.bool true)) := .yes
  have denied : Writes "false".toList (.value (.bool false)) := .no
  induction json using induction_parts generalizing depth with
  | null => exact absent
  | bool value =>
    cases value with
    | true => exact affirmed
    | false => exact denied
  | count value => exact .number (isNumber_count value)
  | number value =>
    rw [pretty, shown]
    split_ifs with finite
    · exact .number (isNumber_numberText finite)
    · rwa [numberText_of_not_finite finite]
  | text value => exact .text (isQuoted_quoted value)
  | list items ih =>
    have blank := isGap_indent (depth + 1)
    rw [pretty, shown, prettyItems_eq, shownItems_eq]
    cases items with
    | nil =>
      have empty : Writes ("[".toList ++ "]".toList) (.value (.list [])) := .emptyList isGap_nil
      rwa [← String.toList_append] at empty
    | cons item rest =>
      have inside := writes_items blank (isGap_indent depth) fun entry member => ih entry member (depth + 1)
      rw [toList_bracketed _ _ _ (mt List.map_eq_nil_iff.mp (List.cons_ne_nil item rest))]
      exact .list blank inside
  | object members ih =>
    have blank := isGap_indent (depth + 1)
    rw [pretty, shown, prettyMembers_eq, shownMembers_eq]
    cases members with
    | nil =>
      have empty : Writes ("\x7b".toList ++ "\x7d".toList) (.value (.object [])) := .emptyObject isGap_nil
      rwa [← String.toList_append] at empty
    | cons member rest =>
      have inside := writes_members blank (isGap_indent depth) fun entry member => ih entry member (depth + 1)
      rw [toList_bracketed _ _ _ (mt List.map_eq_nil_iff.mp (List.cons_ne_nil member rest))]
      exact .object blank inside

/-- A printed value is a document, and writes what the value shows. -/
theorem isDocument_pretty (json : Json) : IsDocument (json.pretty 0).toList json.shown :=
  ⟨[], _, [], (List.append_nil _).symm, isGap_nil, writes_pretty json 0, isGap_nil⟩

/-- Reading what was printed gives back what it shows. -/
theorem read_pretty (json : Json) : read? (json.pretty 0) = some json.shown :=
  read_of_isDocument (isDocument_pretty json)

end HoldoutLine.Json
