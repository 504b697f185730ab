import HoldoutLine.Proofs.Json.Grammar
import Mathlib.Data.Option.Basic

/-! # The reader takes every document

A text in the grammar is read as what it writes: `read_of_isDocument`. One lemma for each kind of phrase says what the
reader makes of it, whatever follows, and an induction over the derivation puts them together (`isRead_of_writes`). A
number ends only where no character follows that could belong to it; in a document that is always so, since blanks, a
comma or a bracket follow.
-/

namespace HoldoutLine.Json

open Numeral

variable {text rest gap : List Char} {json : Json}

section Gaps

/-- What stands behind blanks does not begin with one. -/
def IsSolid (text : List Char) : Prop := ∀ c ∈ text.head?, isJsonBlank c = false

private theorem skipBlanks_append (blank : IsGap gap) (solid : IsSolid rest) :
    skipBlanks (gap ++ rest) = rest := by
  have kept : rest.dropWhile isJsonBlank = rest := by
    cases rest with
    | nil => rfl
    | cons c tail => exact List.dropWhile_cons_of_neg (by simp [solid c rfl])
  rw [skipBlanks, List.dropWhile_append_of_pos blank, kept]

private theorem skipBlanks_gap (blank : IsGap gap) : skipBlanks gap = [] := by
  simpa using skipBlanks_append blank (show IsSolid [] from nofun)

/-- Nothing follows that could belong to a number. -/
def Stops (rest : List Char) : Prop := ∀ c ∈ rest.head?, c.isDigit = false ∧ c ≠ '.' ∧ c ≠ 'e' ∧ c ≠ 'E'

/-- Blanks and the marks between values stop a number. -/
theorem stops_of_gap (blank : IsGap gap) (stops : Stops rest) : Stops (gap ++ rest) := by
  cases gap with
  | nil => exact stops
  | cons c tail =>
    intro first same
    cases same
    have kind := blank c List.mem_cons_self
    rw [isJsonBlank, decide_eq_true_iff] at kind
    rcases kind with rfl | rfl | rfl | rfl <;> decide

private theorem stops_cons {c : Char} (mark : c = ',' ∨ c = ']' ∨ c = '\x7d') (rest :
    List Char) : Stops (c :: rest) := by
  intro first same
  cases same
  rcases mark with rfl | rfl | rfl <;> decide

end Gaps

section Numbers

variable {whole point fraction tail digits : List Char} {power : Option Int}

private theorem splitSign_of_isSign {sign : List Char} (signed : IsSign sign) (stated : digits ≠ [])
    (numbered : IsDigits digits) : splitSign (sign ++ (digits ++ rest)) = (decide (sign = ['-']), digits ++ rest) := by
  obtain ⟨c, others, rfl, digit⟩ := head_of_digits stated numbered
  rcases signed with rfl | rfl | rfl
  · have notSign := ne_sign_of_isDigit digit
    simp only [List.nil_append, List.cons_append]
    unfold splitSign
    split
    · next same => exact (notSign.1 (List.cons.inj same).1).elim
    · next same => exact (notSign.2 (List.cons.inj same).1).elim
    · rfl
  · rfl
  · rfl

/-- A power of ten is read where its digits end. -/
theorem power_of_isPower (powered : IsPower tail power) (stops : Stops rest) :
    power? (tail ++ rest) = some (power, rest) := by
  cases powered with
  | absent =>
    cases rest with
    | nil => rfl
    | cons c others =>
      have mark := (stops c rfl).2.2
      exact if_neg (not_or.mpr mark)
  | @present mark sign digits marked signed stated numbered =>
    have spanned := span_digits numbered fun c first => (stops c first).1
    have split := @splitSign_of_isSign rest digits sign signed stated numbered
    rw [List.cons_append, List.append_assoc, power?, if_pos marked, split]
    dsimp only
    rw [spanned]
    dsimp only
    rw [if_neg (mt List.isEmpty_iff.mp stated)]
    by_cases negative : sign = ['-'] <;> simp [negative]

/-- Neither a digit nor a point begins what follows the fraction. -/
theorem head_of_isPower (powered : IsPower tail power) (stops : Stops rest) :
    ∀ c ∈ (tail ++ rest).head?, c.isDigit = false ∧ c ≠ '.' := by
  intro c first
  cases powered with
  | absent => exact ⟨(stops c first).1, (stops c first).2.1⟩
  | present marked =>
    cases first
    rcases marked with rfl | rfl <;> decide

private theorem fraction_of_isFraction (pointed : IsFraction point fraction) (powered : IsPower tail power)
    (stops : Stops rest) : fraction? (point ++ (tail ++ rest)) = some (fraction, tail ++ rest) := by
  have head := head_of_isPower powered stops
  cases pointed with
  | absent =>
    rw [List.nil_append]
    unfold fraction?
    split
    · next same => exact ((head '.' (by rw [same]; rfl)).2 rfl).elim
    · rfl
  | present stated numbered =>
    have spanned := span_digits numbered fun c first => (head c first).1
    rw [List.cons_append, fraction?, spanned]
    exact if_neg (mt List.isEmpty_iff.mp stated)

private theorem head_of_isFraction (pointed : IsFraction point fraction) (powered : IsPower tail power)
    (stops : Stops rest) : ∀ c ∈ (point ++ (tail ++ rest)).head?, c.isDigit = false := by
  intro c first
  cases pointed with
  | absent => exact (head_of_isPower powered stops c first).1
  | present =>
    cases first
    rfl

/-- A number after its sign is read in its three parts. -/
theorem magnitude_of_parts (negative : Bool) (plain : IsWhole whole) (pointed : IsFraction point fraction)
    (powered : IsPower tail power) (stops : Stops rest) :
    magnitude? negative (whole ++ (point ++ (tail ++ rest))) =
      if !negative && fraction.isEmpty && power.isNone then some (.count (ofDigits whole), rest)
      else some (.number
        (nearest negative (ofDigits (whole ++ fraction)) (power.getD 0 - fraction.length)).toFloat, rest) := by
  have taken : (!whole.isEmpty && (whole.length == 1 || whole.head? != some '0')) = true := by
    have some := plain.some
    by_cases zero : whole.head? = .some '0'
    · simp [some, plain.plain zero]
    · simp [some, zero]
  rw [magnitude?, span_digits plain.numbered (head_of_isFraction pointed powered stops)]
  simp only [taken, guard_true, fraction_of_isFraction pointed powered stops, power_of_isPower powered stops,
    bind, Option.bind, pure]

private theorem number_of_digit (plain : IsWhole whole) (rest : List Char) :
    number? (whole ++ rest) = magnitude? false (whole ++ rest) := by
  obtain ⟨c, others, rfl, digit⟩ := head_of_digits plain.some plain.numbered
  rw [List.cons_append]
  unfold number?
  split
  · next same => exact ((ne_sign_of_isDigit digit).1 (List.cons.inj same).1).elim
  · rfl

/-- A number is read where it ends. -/
theorem number_of_isNumber (number : IsNumber text json) (stops : Stops rest) :
    number? (text ++ rest) = some (json, rest) := by
  cases number with
  | count plain =>
    have read := magnitude_of_parts false plain .absent .absent stops
    rw [number_of_digit plain]
    exact read
  | @double negative whole point fraction tail power plain pointed powered marked =>
    have read := magnitude_of_parts negative plain pointed powered stops
    have noCount : (!negative && fraction.isEmpty && power.isNone) = false := by
      rcases marked with rfl | stated | stated
      · rfl
      · simp [stated]
      · simp [Option.isNone_eq_false_iff.mpr (Option.isSome_iff_ne_none.mpr stated)]
    rw [noCount, if_neg Bool.false_ne_true] at read
    simp only [List.append_assoc]
    cases negative with
    | true => exact read
    | false =>
      rw [Binary64.signText, if_neg Bool.false_ne_true, List.nil_append, number_of_digit plain]
      exact read

end Numbers

section Texts

variable {digits escape written meant : List Char} {code : Nat} {c : Char}

private theorem fourHex_of_isFourHex (hex : IsFourHex digits code) (rest : List Char) :
    fourHex? (digits ++ rest) = some (code, rest) := by
  obtain ⟨one, two, three, four⟩ := hex
  simp [fourHex?, one, two, three, four]

/-- An escape is read behind its backslash. -/
theorem escape_of_isEscape (stands : IsEscape escape c) (rest : List Char) :
    escape? (escape ++ rest) = some (c, rest) := by
  cases stands with
  | @unicode digits code hex single =>
    have notHigh : ¬ (0xD800 ≤ code ∧ code ≤ 0xDBFF) := by omega
    have notLow : ¬ (0xDC00 ≤ code ∧ code ≤ 0xDFFF) := by omega
    rw [List.cons_append, escape?, unicodeEscape?, fourHex_of_isFourHex hex]
    simp only [Option.bind_eq_bind, Option.bind_some, if_neg notHigh, if_neg notLow]
    rfl
  | @pair digits others high low first second leads trails =>
    rw [List.cons_append, List.append_assoc, escape?, unicodeEscape?, fourHex_of_isFourHex first]
    simp only [Option.bind_eq_bind, Option.bind_some, if_pos leads, List.cons_append, fourHex_of_isFourHex second,
      if_pos trails]
    rfl
  | _ => rfl

/-- What stands between two quotes is read up to the second. -/
theorem textBody_of_isBody (body : IsBody written meant) (done rest : List Char) {fuel : Nat}
    (enough : written.length < fuel) :
    textBody? fuel done (written ++ '"' :: rest) = some (String.ofList (done.reverse ++ meant), rest) := by
  induction body generalizing done fuel with
  | empty =>
    obtain ⟨fuel, rfl⟩ := Nat.exists_eq_succ_of_ne_zero (Nat.ne_zero_of_lt enough)
    rw [List.append_nil]
    rfl
  | @plain c written meant visible unquoted unescaped _ ih =>
    obtain ⟨fuel, rfl⟩ := Nat.exists_eq_succ_of_ne_zero (Nat.ne_zero_of_lt enough)
    have read := ih (c :: done) (Nat.lt_of_succ_lt_succ enough)
    rw [List.reverse_cons, List.append_assoc] at read
    rw [List.cons_append, textBody?.eq_5 _ _ _ _ unquoted unescaped, if_neg (Nat.not_lt.mpr visible)]
    exact read
  | @escaped escape written meant c stands _ ih =>
    obtain ⟨fuel, rfl⟩ := Nat.exists_eq_succ_of_ne_zero (Nat.ne_zero_of_lt enough)
    have room : written.length < fuel := by
      rw [List.length_cons, List.length_append] at enough
      omega
    have read := ih (c :: done) room
    rw [List.reverse_cons, List.append_assoc] at read
    rw [List.cons_append, List.append_assoc, textBody?, escape_of_isEscape stands]
    exact read

/-- A text between quotes is read behind the first of them. -/
theorem textBody_of_isQuoted {name : String} (named : IsQuoted text name) (rest : List Char) :
    ∃ tail, text ++ rest = '"' :: tail ∧ textBody? (tail.length + 1) [] tail = some (name, rest) := by
  obtain ⟨body, rfl, stands⟩ := named
  refine ⟨body ++ '"' :: rest, by simp, ?_⟩
  have enough : body.length < (body ++ '"' :: rest).length + 1 := by
    rw [List.length_append]
    omega
  rw [textBody_of_isBody stands [] rest enough, List.reverse_nil, List.nil_append, String.ofList_toList]

end Texts

section Values

/-- What the reader makes of a phrase, whatever follows: a value that is no part of a longer number, or entries up to
the closing bracket. -/
def IsRead (text : List Char) : Phrase → Prop
  | .value json => ∀ {rest fuel}, Stops rest → text.length ≤ fuel → value? fuel (text ++ rest) = some (json, rest)
  | .items entries => ∀ {done rest fuel}, text.length < fuel →
      items? fuel done (text ++ ']' :: rest) = some (.list (done.reverse ++ entries), rest)
  | .members entries => ∀ {done rest fuel}, text.length < fuel →
      members? fuel done (text ++ '\x7d' :: rest) = some (.object (done.reverse ++ entries), rest)

private theorem head_of_isNumber (number : IsNumber text json) :
    ∃ c tail, text = c :: tail ∧ (c = '-' ∨ c.isDigit = true) := by
  cases number with
  | count plain =>
    obtain ⟨c, tail, same, digit⟩ := head_of_digits plain.some plain.numbered
    exact ⟨c, tail, same, .inr digit⟩
  | @double negative whole _ _ _ _ plain =>
    obtain ⟨c, tail, rfl, digit⟩ := head_of_digits plain.some plain.numbered
    cases negative with
    | true => exact ⟨'-', _, rfl, .inl rfl⟩
    | false => exact ⟨c, _, rfl, .inr digit⟩

/-- What begins a number begins nothing else. -/
theorem ne_of_numeral {c : Char} (kind : c = '-' ∨ c.isDigit = true) {other : Char} (dash : other ≠ '-')
    (digit : other.isDigit = false) : c ≠ other := by
  rintro rfl
  rcases kind with rfl | kind
  · exact dash rfl
  · rw [digit] at kind
    cases kind

/-- A phrase is not empty, and begins with neither a blank nor a closing bracket. -/
theorem head_of_writes {phrase : Phrase} (written : Writes text phrase) :
    ∃ c tail, text = c :: tail ∧ isJsonBlank c = false ∧ c ≠ ']' ∧ c ≠ '\x7d' := by
  have quoted : ∀ {label : List Char} {name : String} (more : List Char), IsQuoted label name →
      ∃ c tail, label ++ more = c :: tail ∧ isJsonBlank c = false ∧ c ≠ ']' ∧ c ≠ '\x7d' := by
    rintro _ name more ⟨body, rfl, -⟩
    exact ⟨'"', _, rfl, by decide⟩
  induction written with
  | number number =>
    obtain ⟨c, tail, same, kind⟩ := head_of_isNumber number
    refine ⟨c, tail, same, ?_, ne_of_numeral kind (by decide) rfl, ne_of_numeral kind (by decide) rfl⟩
    simp only [isJsonBlank, ne_of_numeral kind (show ' ' ≠ '-' by decide) rfl,
      ne_of_numeral kind (show '\t' ≠ '-' by decide) rfl, ne_of_numeral kind (show '\n' ≠ '-' by decide) rfl,
      ne_of_numeral kind (show '\r' ≠ '-' by decide) rfl, or_self, decide_false]
  | lastItem _ _ ih =>
    obtain ⟨c, tail, rfl, kind⟩ := ih
    exact ⟨c, _, rfl, kind⟩
  | nextItem _ _ _ _ ih =>
    obtain ⟨c, tail, rfl, kind⟩ := ih
    exact ⟨c, _, rfl, kind⟩
  | text named => simpa using quoted [] named
  | lastMember named => exact quoted _ named
  | nextMember named => exact quoted _ named
  | _ => exact ⟨_, _, rfl, by decide⟩

/-- Blanks and the mark behind them are passed over. -/
theorem skipBlanks_mark (blank : IsGap gap) {c : Char} (mark : isJsonBlank c = false) (rest : List Char) :
    skipBlanks (gap ++ c :: rest) = c :: rest := by
  apply skipBlanks_append blank
  intro first same
  cases same
  exact mark

/-- Blanks in front of a phrase are passed over. -/
theorem skipBlanks_writes (blank : IsGap gap) {phrase : Phrase} (written : Writes text phrase) (rest : List Char) :
    skipBlanks (gap ++ (text ++ rest)) = text ++ rest := by
  obtain ⟨c, tail, rfl, solid, -⟩ := head_of_writes written
  exact skipBlanks_mark blank solid _

private theorem value_of_isNumber (number : IsNumber text json) (stops : Stops rest) (fuel : Nat) :
    value? (fuel + 1) (text ++ rest) = some (json, rest) := by
  rw [← number_of_isNumber number stops]
  obtain ⟨c, tail, rfl, kind⟩ := head_of_isNumber number
  rw [List.cons_append]
  -- None of the other values begins like a number.
  apply value?.eq_8 <;> exact fun _ same => ne_of_numeral kind (by decide) rfl (List.cons.inj same).1

/-- A list is its items between brackets. -/
theorem value_of_items {body : List Char} {items : List Json} (blank : IsGap gap) (written : Writes body (.items items))
    (read : IsRead body (.items items)) {fuel : Nat} (enough : body.length < fuel) (rest : List Char) :
    value? (fuel + 1) ('[' :: (gap ++ (body ++ ']' :: rest))) = some (.list items, rest) := by
  rw [value?.eq_6, skipBlanks_writes blank written]
  obtain ⟨c, tail, rfl, -, unclosed, -⟩ := head_of_writes written
  split
  · next same => exact (unclosed (List.cons.inj same).1).elim
  · exact read enough

/-- An object is its members between braces. -/
theorem value_of_members {body : List Char} {members : List (String × Json)} (blank : IsGap gap)
    (written : Writes body (.members members)) (read : IsRead body (.members members)) {fuel : Nat}
    (enough : body.length < fuel) (rest : List Char) :
    value? (fuel + 1) ('\x7b' :: (gap ++ (body ++ '\x7d' :: rest))) = some (.object members, rest) := by
  rw [value?.eq_7, skipBlanks_writes blank written]
  obtain ⟨c, tail, rfl, -, -, unclosed⟩ := head_of_writes written
  split
  · next same => exact (unclosed (List.cons.inj same).1).elim
  · exact read enough

/-- A member is its name, a colon and its value; a brace behind it closes the object, a comma leads to the next
member. -/
theorem members_of_named {label before after : List Char} {name : String} {value : Json} (named : IsQuoted label name)
    (front : IsGap before) (back : IsGap after) (written : Writes text (.value value)) {fuel : Nat}
    (read : value? fuel (text ++ rest) = some (value, rest)) (done : List (String × Json)) (following : List Char) :
    (skipBlanks rest = '\x7d' :: following →
      members? (fuel + 1) done (label ++ (before ++ ':' :: (after ++ (text ++ rest)))) =
        some (.object ((name, value) :: done).reverse, following)) ∧
    (skipBlanks rest = ',' :: following →
      members? (fuel + 1) done (label ++ (before ++ ':' :: (after ++ (text ++ rest)))) =
        members? fuel ((name, value) :: done) (skipBlanks following)) := by
  obtain ⟨tail, same, heard⟩ := textBody_of_isQuoted named (before ++ ':' :: (after ++ (text ++ rest)))
  have valued : value? fuel (skipBlanks (after ++ (text ++ rest))) = some (value, rest) := by
    rw [skipBlanks_writes back written, read]
  rw [same, members?.eq_2, heard]
  dsimp only
  rw [skipBlanks_mark front (by decide)]
  split
  · next behind colon =>
    cases colon
    rw [valued]
    dsimp only
    exact ⟨fun closed => by rw [closed]; rfl, fun comma => by rw [comma]; rfl⟩
  · next refused => exact (refused _ rfl).elim

section Fuel

/-- A phrase is given fuel for one step at least, since it is not empty. -/
theorem isRead_value (some : text ≠ [])
    (step : ∀ rest fuel, Stops rest → text.length ≤ fuel + 1 → value? (fuel + 1) (text ++ rest) = .some (json, rest)) :
    IsRead text (.value json) := by
  intro rest fuel stops enough
  have positive : 0 < fuel := Nat.lt_of_lt_of_le (List.length_pos_iff.mpr some) enough
  obtain ⟨fuel, rfl⟩ := Nat.exists_eq_succ_of_ne_zero (Nat.ne_zero_of_lt positive)
  exact step rest fuel stops enough

private theorem isRead_items {items : List Json} (step : ∀ done rest fuel, text.length ≤ fuel →
      items? (fuel + 1) done (text ++ ']' :: rest) = some (.list (done.reverse ++ items), rest)) :
    IsRead text (.items items) := by
  intro done rest fuel enough
  obtain ⟨fuel, rfl⟩ := Nat.exists_eq_succ_of_ne_zero (Nat.ne_zero_of_lt enough)
  exact step done rest fuel (Nat.le_of_lt_succ enough)

private theorem isRead_members {members : List (String × Json)} (step : ∀ done rest fuel, text.length ≤ fuel →
      members? (fuel + 1) done (text ++ '\x7d' :: rest) = some (.object (done.reverse ++ members), rest)) :
    IsRead text (.members members) := by
  intro done rest fuel enough
  obtain ⟨fuel, rfl⟩ := Nat.exists_eq_succ_of_ne_zero (Nat.ne_zero_of_lt enough)
  exact step done rest fuel (Nat.le_of_lt_succ enough)

end Fuel

section Entries

variable {before after space others label : List Char} {name : String} {item value : Json} {items : List Json}
  {members : List (String × Json)}

private theorem isRead_lastItem (read : IsRead text (.value item)) (blank : IsGap gap) :
    IsRead (text ++ gap) (.items [item]) := by
  apply isRead_items
  intro done rest fuel enough
  rw [List.length_append] at enough
  have here := read (stops_of_gap blank (stops_cons (.inr (.inl rfl)) rest)) (show text.length ≤ fuel by omega)
  rw [List.append_assoc, items?.eq_2, here]
  dsimp only
  rw [skipBlanks_mark blank (by decide), List.reverse_cons]
  rfl

private theorem isRead_nextItem (read : IsRead text (.value item)) (blank : IsGap gap) (spaced : IsGap space)
    (written : Writes others (.items items)) (readOthers : IsRead others (.items items)) :
    IsRead (text ++ (gap ++ ',' :: (space ++ others))) (.items (item :: items)) := by
  apply isRead_items
  intro done rest fuel enough
  simp only [List.length_append, List.length_cons] at enough
  have here := read (stops_of_gap blank (stops_cons (.inl rfl) (space ++ (others ++ ']' :: rest))))
    (show text.length ≤ fuel by omega)
  simp only [List.append_assoc, List.cons_append]
  rw [items?.eq_2, here]
  dsimp only
  rw [skipBlanks_mark blank (by decide)]
  change items? fuel (item :: done) (skipBlanks (space ++ (others ++ ']' :: rest))) = _
  rw [skipBlanks_writes spaced written, readOthers (by omega), List.reverse_cons, List.append_assoc]
  rfl

private theorem isRead_lastMember (named : IsQuoted label name) (front : IsGap before) (back : IsGap after)
    (written : Writes text (.value value)) (read : IsRead text (.value value)) (blank : IsGap gap) :
    IsRead (label ++ (before ++ ':' :: (after ++ (text ++ gap)))) (.members [(name, value)]) := by
  apply isRead_members
  intro done rest fuel enough
  simp only [List.length_append, List.length_cons] at enough
  have here := read (stops_of_gap blank (stops_cons (.inr (.inr rfl)) rest)) (show text.length ≤ fuel by omega)
  simp only [List.append_assoc, List.cons_append]
  rw [(members_of_named named front back written here done rest).1 (skipBlanks_mark blank (by decide) rest),
    List.reverse_cons]

private theorem isRead_nextMember (named : IsQuoted label name) (front : IsGap before) (back : IsGap after)
    (written : Writes text (.value value)) (read : IsRead text (.value value)) (blank : IsGap gap)
    (spaced : IsGap space) (following : Writes others (.members members))
    (readOthers : IsRead others (.members members)) :
    IsRead (label ++ (before ++ ':' :: (after ++ (text ++ (gap ++ ',' :: (space ++ others))))))
      (.members ((name, value) :: members)) := by
  apply isRead_members
  intro done rest fuel enough
  simp only [List.length_append, List.length_cons] at enough
  have here := read (stops_of_gap blank (stops_cons (.inl rfl) (space ++ (others ++ '\x7d' :: rest))))
    (show text.length ≤ fuel by omega)
  simp only [List.append_assoc, List.cons_append]
  rw [(members_of_named named front back written here done _).2 (skipBlanks_mark blank (by decide) _),
    skipBlanks_writes spaced following, readOthers (by omega), List.reverse_cons, List.append_assoc]
  rfl

end Entries

/-- Every phrase is read as it is written. -/
theorem isRead_of_writes {phrase : Phrase} (written : Writes text phrase) : IsRead text phrase := by
  induction written with
  | null | yes | no => exact isRead_value (List.cons_ne_nil _ _) fun _ _ _ _ => rfl
  | number number =>
    obtain ⟨c, tail, rfl, -⟩ := head_of_isNumber number
    exact isRead_value (List.cons_ne_nil _ _) fun _ fuel stops _ => value_of_isNumber number stops fuel
  | text quoted =>
    apply isRead_value
    · obtain ⟨body, rfl, -⟩ := quoted
      exact List.cons_ne_nil _ _
    · intro rest fuel _ _
      obtain ⟨tail, same, heard⟩ := textBody_of_isQuoted quoted rest
      rw [same, value?.eq_5, heard]
      rfl
  | emptyList blank =>
    apply isRead_value (List.cons_ne_nil _ _)
    intro rest fuel _ _
    simp only [List.cons_append, List.append_assoc, List.nil_append]
    rw [value?.eq_6, skipBlanks_mark blank (by decide)]
    rfl
  | list blank inside ih =>
    apply isRead_value (List.cons_ne_nil _ _)
    intro rest fuel _ enough
    simp only [List.length_cons, List.length_append] at enough
    simp only [List.cons_append, List.append_assoc, List.nil_append]
    exact value_of_items blank inside ih (by omega) rest
  | emptyObject blank =>
    apply isRead_value (List.cons_ne_nil _ _)
    intro rest fuel _ _
    simp only [List.cons_append, List.append_assoc, List.nil_append]
    rw [value?.eq_7, skipBlanks_mark blank (by decide)]
    rfl
  | object blank inside ih =>
    apply isRead_value (List.cons_ne_nil _ _)
    intro rest fuel _ enough
    simp only [List.length_cons, List.length_append] at enough
    simp only [List.cons_append, List.append_assoc, List.nil_append]
    exact value_of_members blank inside ih (by omega) rest
  | lastItem _ blank ih => exact isRead_lastItem ih blank
  | nextItem _ blank spaced following ih readOthers => exact isRead_nextItem ih blank spaced following readOthers
  | lastMember named front back written blank ih => exact isRead_lastMember named front back written ih blank
  | nextMember named front back written blank spaced following ih readOthers =>
    exact isRead_nextMember named front back written ih blank spaced following readOthers

/-- A document is read as the value that it writes. -/
theorem read_of_isDocument {document : String} (written : IsDocument document.toList json) :
    read? document = some json := by
  obtain ⟨before, text, after, same, front, value, back⟩ := written
  have solid : skipBlanks document.toList = text ++ after := by
    rw [same, skipBlanks_writes front value]
  have stops : Stops after := by simpa using stops_of_gap back (show Stops [] from nofun)
  have read := isRead_of_writes value stops (show text.length ≤ 2 * (text ++ after).length + 2 by
    rw [List.length_append]
    omega)
  rw [read?, solid, read]
  dsimp only
  rw [skipBlanks_gap back]
  rfl

/-- No comma stands behind the last item. -/
example (json : Json) : ¬ IsDocument "[1,]".toList json := fun written =>
  have refused : read? "[1,]" = none := by rfl
  nomatch (read_of_isDocument written).symm.trans refused

end Values

end HoldoutLine.Json
