import Mathlib.Tactic.SplitIfs
import SnapshotQuery.Text.Outline
import SnapshotQuery.Value.Text

/-!
# Reading what was written

Text that was quoted by a faithful escape rule is read back as it was, and the
text of a value without floats is read as the whole tree of that value,
whatever follows it.
-/

namespace SnapshotQuery

/-- What is written for a character is read as that character. -/
structure EscapeRule.Faithful (rule : EscapeRule) : Prop where
  short : ∀ {character letter}, rule.short? character = some letter →
    letter ≠ 'u' ∧ Outline.shortEscape? letter = some character
  /-- Below the surrogates a 16-bit unit is a character of its own. -/
  long : ∀ {character}, rule.long character = true → character.toNat < 0xD800
  plain : ∀ {character}, rule.short? character = none → rule.long character = false →
    character ≠ '"' ∧ character ≠ '\\' ∧ ¬character.toNat < 0x20

namespace Outline

section Quotes

theorem hexDigit?_digitChar : ∀ digit < 16, hexDigit? (Nat.digitChar digit) = some digit := by
  decide

theorem hexUnit?_hexQuad {code : Nat} (small : code < 65536) :
    hexUnit? (hexQuad code) = some (code, []) := by
  have digit : ∀ place, hexDigit? (Nat.digitChar (place % 16)) = some (place % 16) := fun _ =>
    hexDigit?_digitChar _ (Nat.mod_lt _ (by decide))
  simp only [hexQuad, List.map_cons, List.map_nil, hexUnit?, digit]
  simp only [bind, Option.bind_some, pure, Option.some.injEq, Prod.mk.injEq, and_true]
  omega

/-- A unit below the surrogates is a character of its own, whatever follows it. -/
theorem joinPieces_unit {code : Nat} (below : code < 0xD800) (rest : List Piece) :
    joinPieces (.unit code :: rest) = (joinPieces rest).map (Char.ofNat code :: ·) := by
  cases rest with
  | nil => simp [joinPieces, Nat.not_le_of_lt below]
  | cons piece rest =>
      have notLow : ¬(0xDC00 ≤ code ∧ code < 0xE000) := by omega
      cases piece with
      | character character => simp [joinPieces, Nat.not_le_of_lt below]
      | unit low => simp [joinPieces, Nat.not_le_of_lt below, notLow]

theorem pieces?_short {letter character : Char} (apart : letter ≠ 'u')
    (short : shortEscape? letter = some character) (rest : List Char) :
    pieces? ('\\' :: letter :: rest) =
      (pieces? rest).map fun (found, after) => (.character character :: found, after) := by
  rw [pieces?]
  · rw [short]
    cases pieces? rest <;> rfl
  · intro _ _ _ _ _ same _
    exact apart same

/-- What a character is read as after it was written by a rule. -/
def piece (rule : EscapeRule) (character : Char) : Piece :=
  if (rule.short? character).isNone && rule.long character then .unit character.toNat
  else .character character

variable {rule : EscapeRule}

theorem pieces?_escapeChar (faithful : rule.Faithful) (character : Char) (rest : List Char) :
    pieces? (rule.escapeChar character ++ rest) =
      (pieces? rest).map fun (found, after) => (piece rule character :: found, after) := by
  cases short : rule.short? character with
  | some letter =>
      obtain ⟨apart, read⟩ := faithful.short short
      have written : rule.escapeChar character = ['\\', letter] := by
        simp [EscapeRule.escapeChar, short]
      rw [written, piece, short]
      exact pieces?_short apart read rest
  | none =>
      cases long : rule.long character with
      | true =>
          have small : character.toNat < 65536 := by
            have := faithful.long long
            omega
          have written : rule.escapeChar character =
              '\\' :: 'u' :: hexQuad character.toNat := by
            simp [EscapeRule.escapeChar, short, long]
          have read := hexUnit?_hexQuad small
          rw [written, piece, short, long]
          simp only [hexQuad, List.map_cons, List.map_nil] at read ⊢
          simp only [List.cons_append, List.nil_append, pieces?, read]
          cases pieces? rest <;> rfl
      | false =>
          obtain ⟨noQuote, noBackslash, noControl⟩ := faithful.plain short long
          have written : rule.escapeChar character = [character] := by
            simp [EscapeRule.escapeChar, short, long]
          rw [written, piece, short, long, List.singleton_append, pieces?]
          · simp [noBackslash, noControl]
          · exact noQuote
          · intro _ _ _ _ _ same _
            exact noBackslash same
          · intro _ _ same _
            exact noBackslash same

theorem pieces?_escape (faithful : rule.Faithful) (text rest : List Char) :
    pieces? (rule.escape text ++ '"' :: rest) = some (text.map (piece rule), rest) := by
  induction text with
  | nil => rfl
  | cons character text inductionHypothesis =>
      rw [EscapeRule.escape, List.flatMap_cons, List.append_assoc, pieces?_escapeChar faithful]
      rw [EscapeRule.escape] at inductionHypothesis
      rw [inductionHypothesis]
      rfl

theorem joinPieces_pieces (faithful : rule.Faithful) (text : List Char) :
    joinPieces (text.map (piece rule)) = some text := by
  induction text with
  | nil => rfl
  | cons character text inductionHypothesis =>
      rw [List.map_cons, piece]
      split_ifs with unit
      · have below := faithful.long (Bool.and_eq_true_iff.mp unit).2
        rw [joinPieces_unit below, inductionHypothesis, Option.map_some, Char.ofNat_toNat]
      · rw [joinPieces, inductionHypothesis, Option.map_some]

/-- What was quoted is read back as it was. -/
theorem quoted?_escape (faithful : rule.Faithful) (text : String) (rest : List Char) :
    quoted? (rule.escape text.toList ++ '"' :: rest) = some (some text, rest) := by
  rw [quoted?, pieces?_escape faithful, Option.map_some]
  simp only [joinPieces_pieces faithful, Option.map_some, String.ofList_toList]

theorem toList_quote (rule : EscapeRule) (text : String) :
    (rule.quote text).toList = '"' :: (rule.escape text.toList ++ ['"']) := by
  simp [EscapeRule.quote]

end Quotes

section Naturals

/-- What follows does not go on with a number. -/
def Delimited (rest : List Char) : Prop :=
  ∀ character ∈ rest.head?, character = ',' ∨ character = ']' ∨ character = '\x7d'

theorem delimited_nil : Delimited [] := nofun

theorem delimited_cons {character : Char} (rest : List Char)
    (delimits : character = ',' ∨ character = ']' ∨ character = '\x7d') :
    Delimited (character :: rest) := by
  intro head same
  exact Option.some.inj same ▸ delimits

theorem digit?_of_isDigit {character : Char} (digit : character.isDigit = true) :
    digit? character = some (character.toNat - '0'.toNat) := by
  simp only [Char.isDigit, Bool.and_eq_true, decide_eq_true_eq] at digit
  exact if_pos digit

theorem Delimited.digits {rest : List Char} (delimited : Delimited rest) :
    digits rest = ([], rest) := by
  cases rest with
  | nil => rfl
  | cons character rest =>
      have none : digit? character = none := by
        rcases delimited character rfl with rfl | rfl | rfl <;> decide
      rw [Outline.digits, none]

theorem digits_append {text rest : List Char} (digit : ∀ character ∈ text, character.isDigit = true)
    (delimited : Delimited rest) :
    digits (text ++ rest) = (text.map fun character => character.toNat - '0'.toNat, rest) := by
  induction text with
  | nil => exact delimited.digits
  | cons character text inductionHypothesis =>
      obtain ⟨first, others⟩ := List.forall_mem_cons.mp digit
      rw [List.cons_append, digits, digit?_of_isDigit first, inductionHypothesis others,
        List.map_cons]

theorem digitsValue_map (text : List Char) :
    NumberLiteral.digitsValue (text.map fun character => character.toNat - '0'.toNat) =
      Nat.ofDigitChars 10 text 0 := by
  rw [NumberLiteral.digitsValue, List.foldl_map, Nat.ofDigitChars_eq_foldl]

theorem isDigit_of_mem {number : Nat} {character : Char}
    (member : character ∈ Nat.toDigits 10 number) : character.isDigit = true :=
  Nat.isDigit_of_mem_toDigits (by decide) (by decide) member

theorem value_digitChar : ∀ digit < 10, (Nat.digitChar digit).toNat - '0'.toNat = digit := by
  decide

/-- The decimal of a positive number does not start with a zero. -/
theorem exists_leading {number : Nat} (positive : 0 < number) : ∃ first rest,
    Nat.toDigits 10 number = first :: rest ∧ first.toNat - '0'.toNat ≠ 0 := by
  induction number using Nat.strongRecOn with
  | ind number inductionHypothesis =>
      by_cases small : number < 10
      · refine ⟨_, _, Nat.toDigits_of_lt_base small, ?_⟩
        rw [value_digitChar number small]
        exact Nat.ne_of_gt positive
      · have large : 10 ≤ number := Nat.le_of_not_lt small
        obtain ⟨first, rest, split, leading⟩ := inductionHypothesis (number / 10)
          (Nat.div_lt_self positive (by decide)) (Nat.div_pos large (by decide))
        refine ⟨first, rest ++ [Nat.digitChar (number % 10)], ?_, leading⟩
        rw [Nat.toDigits_of_base_le (by decide) large, split, List.cons_append]

theorem whole?_toDigits (number : Nat) {rest : List Char} (delimited : Delimited rest) :
    whole? (Nat.toDigits 10 number ++ rest) =
      some ((Nat.toDigits 10 number).map fun character => character.toNat - '0'.toNat, rest) := by
  have numeric : ∀ character ∈ Nat.toDigits 10 number, character.isDigit = true :=
    fun _ => isDigit_of_mem
  have read := digits_append numeric delimited
  unfold whole?
  rw [read]
  split
  · rename_i none
    exact absurd (List.map_eq_nil_iff.mp (Prod.mk.inj none).1) Nat.toDigits_ne_nil
  · rename_i zero
    rcases Nat.eq_zero_or_pos number with rfl | positive
    · have single := congrArg List.tail (Prod.mk.inj zero).1
      exact absurd single.symm (List.cons_ne_nil _ _)
    · obtain ⟨first, rest, split, leading⟩ := exists_leading positive
      rw [split, List.map_cons] at zero
      exact absurd (List.cons.inj (Prod.mk.inj zero).1).1 leading
  · rename_i same
    rw [← (Prod.mk.inj same).1, ← (Prod.mk.inj same).2]

theorem Delimited.literal? {rest : List Char} (delimited : Delimited rest) (negative : Bool)
    {text : List Char} {found : List Nat} (whole : whole? (text ++ rest) = some (found, rest)) :
    literal? negative (text ++ rest) = some (⟨negative, found, none, none⟩, rest) := by
  have fraction : fraction? rest = some (none, rest) := by
    cases rest with
    | nil => rfl
    | cons character rest => rcases delimited character rfl with rfl | rfl | rfl <;> rfl
  have exponent : exponent? rest = some (none, rest) := by
    cases rest with
    | nil => rfl
    | cons character rest => rcases delimited character rfl with rfl | rfl | rfl <;> rfl
  rw [Outline.literal?, whole]
  simp only [bind, Option.bind_some, fraction, exponent, pure]

end Naturals

section Values

/-- The text is read as the outline, whatever follows it. -/
def ReadsAs (text : List Char) (outline : Outline) : Prop :=
  ∀ fuel rest, 2 * text.length ≤ fuel → Delimited rest →
    valueAt fuel (text ++ rest) = (outline, some rest)

/-- The tree of a value that is written to its end. -/
def ofValue : Value → Outline
  | .null => .null
  | .bool flag => .bool flag
  | .number held => .number (some held)
  | .string text => .string (some text)
  | .array items => .array (ofItems items) true
  | .object fields => .object (ofFields fields) true
where
  ofItems : List Value → List Outline
    | [] => []
    | item :: rest => ofValue item :: ofItems rest
  ofFields : List (String × Value) → List (Option String × Outline)
    | [] => []
    | (key, value) :: rest => (some key, ofValue value) :: ofFields rest

variable {rule : EscapeRule} {text : List Char} {outline : Outline}

theorem readsAs_of_scalar {first : Char} (visible : isBlank first = false)
    (noArray : first ≠ '[') (noObject : first ≠ '\x7b')
    (read : ∀ {rest}, Delimited rest → scalar (first :: text ++ rest) = (outline, some rest)) :
    ReadsAs (first :: text) outline := by
  intro fuel rest enough delimited
  obtain ⟨left, rfl⟩ : ∃ left, fuel = left + 1 :=
    ⟨fuel - 1, by simp only [List.length_cons] at enough; omega⟩
  have shown : skipBlanks (first :: text ++ rest) = first :: text ++ rest := by
    simp [skipBlanks, visible]
  have scanned := read delimited
  rw [valueAt, shown]
  simp only [List.cons_append] at scanned ⊢
  split
  · rename_i same
    exact absurd (List.cons.inj same).1 noArray
  · rename_i same
    exact absurd (List.cons.inj same).1 noObject
  · exact scanned

theorem readsAs_quote (faithful : rule.Faithful) (text : String) :
    ReadsAs (rule.quote text).toList (.string (some text)) := by
  rw [toList_quote]
  refine readsAs_of_scalar (by decide) (by decide) (by decide) fun _ => ?_
  simp only [List.cons_append, List.append_assoc, List.nil_append, scalar,
    quoted?_escape faithful]

theorem literal?_toDigits (negative : Bool) (number : Nat) {rest : List Char}
    (delimited : Delimited rest) :
    ∃ literal, literal? negative (Nat.toDigits 10 number ++ rest) = some (literal, rest) ∧
      literal.negative = negative ∧ literal.fraction = none ∧ literal.exponent = none ∧
      NumberLiteral.digitsValue literal.whole = number := by
  refine ⟨_, delimited.literal? negative (whole?_toDigits number delimited), rfl, rfl, rfl, ?_⟩
  rw [digitsValue_map, Nat.ofDigitChars_ten_toDigits]

theorem scalar_of_isDigit {first : Char} (digit : first.isDigit = true) (text : List Char) :
    scalar (first :: text) = scalar.number false (first :: text) := by
  have found : (digit? first).isSome = true := by
    rw [digit?_of_isDigit digit, Option.isSome_some]
  unfold scalar
  split
  · rename_i empty
    cases empty
  · rename_i quote
    obtain ⟨rfl, _⟩ := List.cons.inj quote
    cases digit
  · rename_i sign
    obtain ⟨rfl, _⟩ := List.cons.inj sign
    cases digit
  · rename_i other
    obtain ⟨rfl, rfl⟩ := List.cons.inj other
    rw [if_pos found]

theorem readsAs_natural {number : Nat} (small : number < UInt64.size) :
    ReadsAs (Nat.toDigits 10 number) (.number (some (.integer number))) := by
  obtain ⟨first, others, split⟩ :=
    List.exists_cons_of_ne_nil (@Nat.toDigits_ne_nil number 10)
  have digit : first.isDigit = true := isDigit_of_mem (split ▸ List.mem_cons_self)
  rw [split]
  refine readsAs_of_scalar ?_ ?_ ?_ fun delimited => ?_
  · simp only [Char.isDigit, Bool.and_eq_true, decide_eq_true_eq] at digit
    simp only [isBlank, Bool.or_eq_false_iff, decide_eq_false_iff_not]
    refine ⟨⟨⟨?_, ?_⟩, ?_⟩, ?_⟩ <;>
      · rintro rfl
        exact absurd digit (by decide)
  · rintro rfl
    cases digit
  · rintro rfl
    cases digit
  · obtain ⟨literal, read, negative, fraction, exponent, value⟩ :=
      literal?_toDigits false number delimited
    rw [List.cons_append, scalar_of_isDigit digit, ← List.cons_append, ← split, scalar.number,
      read]
    simp only [NumberLiteral.number?, negative, fraction, exponent, value]
    rw [if_neg Bool.false_ne_true, if_pos small]

theorem readsAs_negative {number : Nat} (positive : 0 < number)
    (small : number ≤ Number.signedLimit) :
    ReadsAs ('-' :: Nat.toDigits 10 number) (.number (some (.integer (-(number : Int))))) := by
  refine readsAs_of_scalar (by decide) (by decide) (by decide) fun delimited => ?_
  obtain ⟨literal, read, negative, fraction, exponent, value⟩ :=
    literal?_toDigits true number delimited
  simp only [List.cons_append, scalar, scalar.number, read]
  simp only [NumberLiteral.number?, negative, fraction, exponent, value]
  rw [if_pos trivial, if_pos ⟨positive, small⟩]

/-- The text of an integer in range is read as that integer. -/
theorem readsAs_integer {value : Int} (inRange : Number.InRange value) :
    ReadsAs (toString value).toList (.number (some (.integer value))) := by
  obtain ⟨least, most⟩ := inRange
  cases value with
  | ofNat number =>
      have written : (toString (Int.ofNat number)).toList = Nat.toDigits 10 number := by
        rw [show toString (Int.ofNat number) = toString number from rfl,
          Nat.toString_eq_ofList_toDigits, String.toList_ofList]
      rw [written]
      exact readsAs_natural (Int.ofNat_lt.mp most)
  | negSucc number =>
      have written : (toString (Int.negSucc number)).toList =
          '-' :: Nat.toDigits 10 (number + 1) := by
        rw [show toString (Int.negSucc number) = "-" ++ toString (number + 1) from rfl,
          Nat.toString_eq_ofList_toDigits, String.toList_append, String.toList_ofList,
          String.toList_ofList]
        rfl
      rw [written]
      exact readsAs_negative (Nat.succ_pos number) (by omega)

/-- One field before others that are read. -/
theorem fieldAt_member {fuel : Nat} {after rest : List Char}
    {fields : List (Option String × Outline)} (faithful : rule.Faithful) (key : String)
    (reads : ReadsAs text outline) (enough : 2 * text.length ≤ fuel) (delimited : Delimited after)
    (others : fieldsAt fuel false after = (fields, some rest)) :
    fieldAt (fuel + 1) ((rule.quote key).toList ++ ':' :: (text ++ after)) =
      ((some key, outline) :: fields, some rest) := by
  have named : keyAt ((rule.quote key).toList ++ ':' :: (text ++ after)) =
      (some key, some (text ++ after)) := by
    rw [toList_quote]
    simp only [List.cons_append, List.append_assoc, List.nil_append, keyAt,
      quoted?_escape faithful]
    rfl
  rw [fieldAt, named]
  simp only [reads _ _ enough delimited, others]

/-- The fields after the first one, each behind a comma. -/
theorem fieldsAt_comma {fuel : Nat} {after rest : List Char}
    {fields : List (Option String × Outline)} (faithful : rule.Faithful) (key : String)
    (reads : ReadsAs text outline) (enough : 2 * text.length ≤ fuel) (delimited : Delimited after)
    (others : fieldsAt fuel false after = (fields, some rest)) :
    fieldsAt (fuel + 2) false (',' :: ((rule.quote key).toList ++ ':' :: (text ++ after))) =
      ((some key, outline) :: fields, some rest) := by
  have first := fieldAt_member faithful key reads enough delimited others
  rw [toList_quote] at first ⊢
  exact first

theorem fieldsAt_first {fuel : Nat} {after rest : List Char}
    {fields : List (Option String × Outline)} (faithful : rule.Faithful) (key : String)
    (reads : ReadsAs text outline) (enough : 2 * text.length ≤ fuel) (delimited : Delimited after)
    (others : fieldsAt fuel false after = (fields, some rest)) :
    fieldsAt (fuel + 2) true ((rule.quote key).toList ++ ':' :: (text ++ after)) =
      ((some key, outline) :: fields, some rest) := by
  have first := fieldAt_member faithful key reads enough delimited others
  rw [toList_quote] at first ⊢
  exact first

theorem skipBlanks_skipBlanks (text : List Char) :
    skipBlanks (skipBlanks text) = skipBlanks text := by
  induction text with
  | nil => rfl
  | cons character text inductionHypothesis =>
      cases blank : isBlank character with
      | true => simpa [skipBlanks, blank] using inductionHypothesis
      | false => simp [skipBlanks, blank]

theorem valueAt_skipBlanks (fuel : Nat) (text : List Char) :
    valueAt fuel (skipBlanks text) = valueAt fuel text := by
  cases fuel with
  | zero => rw [valueAt, valueAt]
  | succ fuel => rw [valueAt, valueAt, skipBlanks_skipBlanks]

/-- No item starts with the bracket that closes its array. -/
theorem ReadsAs.no_bracket (reads : ReadsAs text outline) {rest more : List Char}
    (delimited : Delimited rest) : skipBlanks (text ++ rest) ≠ ']' :: more := by
  intro bracket
  have read := reads _ rest (Nat.le_succ _) delimited
  rw [valueAt, bracket] at read
  cases read

theorem itemAt_item {fuel : Nat} {after rest : List Char} {items : List Outline}
    (reads : ReadsAs text outline) (enough : 2 * text.length ≤ fuel) (delimited : Delimited after)
    (others : itemsAt fuel false after = (items, some rest)) :
    itemAt (fuel + 1) (skipBlanks (text ++ after)) = (outline :: items, some rest) := by
  simp only [itemAt, valueAt_skipBlanks, reads _ _ enough delimited, others]

theorem itemsAt_first {fuel : Nat} {after rest : List Char} {items : List Outline}
    (reads : ReadsAs text outline) (enough : 2 * text.length ≤ fuel) (delimited : Delimited after)
    (others : itemsAt fuel false after = (items, some rest)) :
    itemsAt (fuel + 2) true (text ++ after) = (outline :: items, some rest) := by
  rw [itemsAt.eq_4 _ _ fun more => reads.no_bracket delimited]
  exact itemAt_item reads enough delimited others

theorem itemsAt_comma {fuel : Nat} {after rest : List Char} {items : List Outline}
    (reads : ReadsAs text outline) (enough : 2 * text.length ≤ fuel) (delimited : Delimited after)
    (others : itemsAt fuel false after = (items, some rest)) :
    itemsAt (fuel + 2) false (',' :: (text ++ after)) = (outline :: items, some rest) :=
  itemAt_item reads enough delimited others

theorem valueAt_array {fuel : Nat} {rest : List Char} {items : List Outline}
    (read : itemsAt fuel true text = (items, some rest)) :
    valueAt (fuel + 1) ('[' :: text) = (.array items true, some rest) := by
  have shown : skipBlanks ('[' :: text) = '[' :: text := rfl
  rw [valueAt, shown]
  simp only [read, Option.isSome_some]

theorem valueAt_object {fuel : Nat} {rest : List Char} {fields : List (Option String × Outline)}
    (read : fieldsAt fuel true text = (fields, some rest)) :
    valueAt (fuel + 1) ('\x7b' :: text) = (.object fields true, some rest) := by
  have shown : skipBlanks ('\x7b' :: text) = '\x7b' :: text := rfl
  rw [valueAt, shown]
  simp only [read, Option.isSome_some]

end Values

end Outline

namespace Value

/-- All numbers in the value are integers that fit 64 bits. -/
def FloatFree : Value → Prop
  | .null | .bool _ | .string _ => True
  | .number (.integer value) => Number.InRange value
  | .number (.float _) => False
  | .array items => ItemsFloatFree items
  | .object fields => FieldsFloatFree fields
where
  ItemsFloatFree : List Value → Prop
    | [] => True
    | item :: rest => FloatFree item ∧ ItemsFloatFree rest
  FieldsFloatFree : List (String × Value) → Prop
    | [] => True
    | (_, value) :: rest => FloatFree value ∧ FieldsFloatFree rest

theorem faithful_escapes : escapes.Faithful where
  short {character letter} short := by
    simp only [escapes] at short
    split_ifs at short with here here here here here here here
    all_goals
      obtain rfl := Option.some.inj short
      rw [here]
      decide
  long {character} long := by
    simp only [escapes, decide_eq_true_eq] at long
    omega
  plain {character} short long := by
    refine ⟨?_, ?_, fun control => ?_⟩
    · rintro rfl
      cases short
    · rintro rfl
      cases short
    · simp [escapes, control] at long

open Outline

theorem delimited_itemsText (items : List Value) (rest : List Char) :
    Delimited ((text.itemsText items).toList ++ ']' :: rest) := by
  cases items with
  | nil => exact delimited_cons rest (.inr (.inl rfl))
  | cons item items =>
      rw [text.itemsText, String.toList_append, String.toList_append, List.append_assoc]
      exact delimited_cons _ (.inl rfl)

theorem delimited_fieldsText (fields : List (String × Value)) (rest : List Char) :
    Delimited ((text.fieldsText fields).toList ++ '\x7d' :: rest) := by
  cases fields with
  | nil => exact delimited_cons rest (.inr (.inr rfl))
  | cons field fields =>
      simp only [text.fieldsText, String.toList_append, List.append_assoc]
      exact delimited_cons _ (.inl rfl)

mutual

/-- The text of a value without floats is read as the whole value. -/
theorem readsAs_text : ∀ {value : Value}, value.FloatFree →
    ReadsAs value.text.toList (ofValue value)
  | .null, _ => readsAs_of_scalar (by decide) (by decide) (by decide) fun _ => rfl
  | .bool true, _ => readsAs_of_scalar (by decide) (by decide) (by decide) fun _ => rfl
  | .bool false, _ => readsAs_of_scalar (by decide) (by decide) (by decide) fun _ => rfl
  | .number (.integer _), inRange => readsAs_integer inRange
  | .string text, _ => readsAs_quote faithful_escapes text
  | .array [], _ => by
      rintro (_ | _ | fuel) rest enough delimited
      · cases enough
      · exact absurd enough (by decide)
      · rfl
  | .array (item :: items), free => by
      intro fuel rest enough delimited
      have written : (text (.array (item :: items))).toList ++ rest =
          '[' :: (item.text.toList ++ ((text.itemsText items).toList ++ ']' :: rest)) := by
        simp [text]
      have long : (text (.array (item :: items))).toList.length =
          item.text.toList.length + (text.itemsText items).toList.length + 2 := by
        simp [text]
        omega
      rw [long] at enough
      obtain ⟨left, rfl⟩ : ∃ left, fuel = left + 3 := ⟨fuel - 3, by omega⟩
      have others := itemsAt_itemsText free.2 left rest (by omega)
      have read := itemsAt_first (readsAs_text free.1) (by omega) (delimited_itemsText items rest)
        others
      rw [written]
      exact valueAt_array read
  | .object [], _ => by
      rintro (_ | _ | fuel) rest enough delimited
      · cases enough
      · exact absurd enough (by decide)
      · rfl
  | .object ((key, value) :: fields), free => by
      intro fuel rest enough delimited
      have written : (text (.object ((key, value) :: fields))).toList ++ rest =
          '\x7b' :: ((escapes.quote key).toList ++ ':' :: (value.text.toList ++
            ((text.fieldsText fields).toList ++ '\x7d' :: rest))) := by
        simp [text]
      have long : (text (.object ((key, value) :: fields))).toList.length =
          (escapes.quote key).toList.length + value.text.toList.length +
            (text.fieldsText fields).toList.length + 3 := by
        simp [text]
        omega
      rw [long] at enough
      obtain ⟨left, rfl⟩ : ∃ left, fuel = left + 3 := ⟨fuel - 3, by omega⟩
      have others := fieldsAt_fieldsText free.2 left rest (by omega)
      have read := fieldsAt_first faithful_escapes key (readsAs_text free.1) (by omega)
        (delimited_fieldsText fields rest) others
      rw [written]
      exact valueAt_object read

theorem itemsAt_itemsText : ∀ {items : List Value}, FloatFree.ItemsFloatFree items →
    ∀ fuel rest, 2 * (text.itemsText items).toList.length + 1 ≤ fuel →
      itemsAt fuel false ((text.itemsText items).toList ++ ']' :: rest) =
        (ofValue.ofItems items, some rest)
  | [], _ => by
      rintro (_ | fuel) rest enough
      · cases enough
      · rfl
  | item :: items, free => by
      intro fuel rest enough
      have written : (text.itemsText (item :: items)).toList ++ ']' :: rest =
          ',' :: (item.text.toList ++ ((text.itemsText items).toList ++ ']' :: rest)) := by
        simp [text.itemsText]
      have long : (text.itemsText (item :: items)).toList.length =
          item.text.toList.length + (text.itemsText items).toList.length + 1 := by
        simp [text.itemsText]
      rw [long] at enough
      obtain ⟨left, rfl⟩ : ∃ left, fuel = left + 2 := ⟨fuel - 2, by omega⟩
      have others := itemsAt_itemsText free.2 left rest (by omega)
      rw [written, ofValue.ofItems]
      exact itemsAt_comma (readsAs_text free.1) (by omega) (delimited_itemsText items rest) others

theorem fieldsAt_fieldsText : ∀ {fields : List (String × Value)},
    FloatFree.FieldsFloatFree fields →
    ∀ fuel rest, 2 * (text.fieldsText fields).toList.length + 1 ≤ fuel →
      fieldsAt fuel false ((text.fieldsText fields).toList ++ '\x7d' :: rest) =
        (ofValue.ofFields fields, some rest)
  | [], _ => by
      rintro (_ | fuel) rest enough
      · cases enough
      · rfl
  | (key, value) :: fields, free => by
      intro fuel rest enough
      have written : (text.fieldsText ((key, value) :: fields)).toList ++ '\x7d' :: rest =
          ',' :: ((escapes.quote key).toList ++ ':' :: (value.text.toList ++
            ((text.fieldsText fields).toList ++ '\x7d' :: rest))) := by
        simp [text.fieldsText]
      have long : (text.fieldsText ((key, value) :: fields)).toList.length =
          (escapes.quote key).toList.length + value.text.toList.length +
            (text.fieldsText fields).toList.length + 2 := by
        simp [text.fieldsText]
        omega
      rw [long] at enough
      obtain ⟨left, rfl⟩ : ∃ left, fuel = left + 2 := ⟨fuel - 2, by omega⟩
      have others := fieldsAt_fieldsText free.2 left rest (by omega)
      rw [written, ofValue.ofFields]
      exact fieldsAt_comma faithful_escapes key (readsAs_text free.1) (by omega)
        (delimited_fieldsText fields rest) others

end

/-- What is written for a value without floats is read as that value and nothing more. -/
theorem ofText_text {value : Value} (free : value.FloatFree) :
    Outline.ofText value.text = (ofValue value, true) := by
  have read := readsAs_text free (2 * value.text.toList.length + 2) [] (by omega) delimited_nil
  rw [List.append_nil] at read
  rw [Outline.ofText, read]
  rfl

end Value

end SnapshotQuery
