import SnapshotQuery.Proofs.Log.Reading

/-!
# Log lines as JSON

A log line is one line without control characters.  Read as a text it is an
object of the event, the severity and the fields in key order, each as it was
given; so lines are equal exactly if their entries differ in the order of fields
with different keys alone.
-/

namespace SnapshotQuery

/-- The control characters of Unicode. -/
def IsControl (character : Char) : Prop :=
  character.toNat < 0x20 ∨ 0x7f ≤ character.toNat ∧ character.toNat < 0xa0

/-- Fields with one key keep their order; others may change places. -/
inductive Reordered : List (String × String) → List (String × String) → Prop
  | refl (fields : List (String × String)) : Reordered fields fields
  | swap (first second : String × String) (rest : List (String × String))
      (distinct : first.1 ≠ second.1) :
      Reordered (first :: second :: rest) (second :: first :: rest)
  | cons (field : String × String) {left right : List (String × String)}
      (rest : Reordered left right) : Reordered (field :: left) (field :: right)
  | trans {left middle right : List (String × String)} (earlier : Reordered left middle)
      (later : Reordered middle right) : Reordered left right

section Reordering

variable {left right fields : List (String × String)}

theorem Reordered.symm (reordered : Reordered left right) : Reordered right left := by
  induction reordered with
  | refl fields => exact .refl fields
  | swap first second rest distinct => exact .swap second first rest distinct.symm
  | cons field _ inductionHypothesis => exact .cons field inductionHypothesis
  | trans _ _ earlier later => exact later.trans earlier

theorem Reordered.perm (reordered : Reordered left right) : left.Perm right := by
  induction reordered with
  | refl fields => exact .refl fields
  | swap first second rest _ => exact .swap second first rest
  | cons field _ inductionHypothesis => exact inductionHypothesis.cons field
  | trans _ _ earlier later => exact earlier.trans later

theorem Reordered.filter (reordered : Reordered left right) (key : String) :
    left.filter (fun field => field.1 = key) = right.filter fun field => field.1 = key := by
  induction reordered with
  | refl _ => rfl
  | swap first second rest distinct =>
      by_cases here : first.1 = key
      · have there : second.1 ≠ key := fun same => distinct (here.trans same.symm)
        simp [here, there]
      · simp [List.filter_cons, here]
  | cons field _ inductionHypothesis =>
      rw [List.filter_cons, List.filter_cons, inductionHypothesis]
  | trans _ _ earlier later => exact earlier.trans later

/-- Fields whose keys are all different may be permuted. -/
theorem reordered_of_perm (perm : left.Perm right) (distinct : (left.map (·.1)).Nodup) :
    Reordered left right := by
  induction perm with
  | nil => exact .refl []
  | cons field _ inductionHypothesis =>
      exact .cons field (inductionHypothesis (List.nodup_cons.mp distinct).2)
  | swap first second rest =>
      have apart : second.1 ∉ (first :: rest).map (·.1) := (List.nodup_cons.mp distinct).1
      refine .swap second first rest fun same => apart ?_
      rw [same]
      exact List.mem_cons_self
  | trans perm _ earlier later =>
      exact (earlier distinct).trans (later ((perm.map (·.1)).nodup_iff.mp distinct))

namespace Entry

theorem reordered_insertField (field : String × String) (fields : List (String × String)) :
    Reordered (field :: fields) (insertField field fields) := by
  induction fields with
  | nil => exact .refl _
  | cons other rest inductionHypothesis =>
      unfold insertField
      split
      · rename_i below
        have apart : field.1 ≠ other.1 := fun same => String.lt_irrefl _ (same ▸ below)
        exact (Reordered.swap field other rest apart).trans (.cons other inductionHypothesis)
      · exact .refl _

theorem reordered_sortFields (fields : List (String × String)) :
    Reordered fields (sortFields fields) := by
  induction fields with
  | nil => exact .refl []
  | cons field fields inductionHypothesis =>
      exact (Reordered.cons field inductionHypothesis).trans (reordered_insertField field _)

theorem insertField_insertField {first second : String × String} (below : first.1 < second.1)
    (fields : List (String × String)) :
    insertField second (insertField first fields) =
      insertField first (insertField second fields) := by
  have above : ¬second.1 < first.1 := String.lt_asymm below
  induction fields with
  | nil => simp [insertField, below, above]
  | cons other rest inductionHypothesis =>
      by_cases beforeFirst : other.1 < first.1
      · have beforeSecond : other.1 < second.1 := String.lt_trans beforeFirst below
        simp [insertField, beforeFirst, beforeSecond, inductionHypothesis]
      · by_cases beforeSecond : other.1 < second.1
        · simp [insertField, beforeFirst, beforeSecond, below]
        · simp [insertField, beforeFirst, beforeSecond, below, above]

theorem sortFields_eq (reordered : Reordered left right) : sortFields left = sortFields right := by
  induction reordered with
  | refl _ => rfl
  | swap first second rest distinct =>
      rcases Std.lt_trichotomy first.1 second.1 with below | same | above
      · exact (insertField_insertField below _).symm
      · exact absurd same distinct
      · exact insertField_insertField above _
  | cons field _ inductionHypothesis => exact congrArg (insertField field) inductionHypothesis
  | trans _ _ earlier later => exact earlier.trans later

/-- Sorting forgets the order of fields with different keys, and nothing else. -/
theorem sortFields_eq_iff : sortFields left = sortFields right ↔ Reordered left right := by
  constructor
  · intro same
    have sorted := reordered_sortFields left
    rw [same] at sorted
    exact sorted.trans (reordered_sortFields right).symm
  · exact sortFields_eq

theorem insertField_sorted (field : String × String)
    (sorted : fields.Pairwise fun former latter => former.1 ≤ latter.1) :
    (insertField field fields).Pairwise fun former latter => former.1 ≤ latter.1 := by
  induction fields with
  | nil => exact List.pairwise_singleton _ _
  | cons other rest inductionHypothesis =>
      obtain ⟨least, restSorted⟩ := List.pairwise_cons.mp sorted
      unfold insertField
      split
      · rename_i below
        refine List.pairwise_cons.mpr ⟨fun later member => ?_, inductionHypothesis restSorted⟩
        rcases List.mem_cons.mp ((reordered_insertField field rest).perm.mem_iff.mpr member) with
          rfl | old
        · exact String.not_lt.mp (String.lt_asymm below)
        · exact least later old
      · rename_i notBelow
        refine List.pairwise_cons.mpr ⟨fun later member => ?_, sorted⟩
        have first : field.1 ≤ other.1 := String.not_lt.mp notBelow
        rcases List.mem_cons.mp member with rfl | old
        · exact first
        · exact String.le_trans first (least later old)

theorem sortFields_sorted (fields : List (String × String)) :
    (sortFields fields).Pairwise fun former latter => former.1 ≤ latter.1 := by
  induction fields with
  | nil => exact .nil
  | cons field fields inductionHypothesis => exact insertField_sorted field inductionHypothesis

end Entry

end Reordering

namespace Entry

/-- The line as it is printed, with its line end. -/
def rendered (entry : Entry) : String := entry.line.push '\n'

section Control

/-- No control character occurs. -/
def Visible (text : List Char) : Prop := ∀ character ∈ text, ¬IsControl character

theorem visible_append {front back : List Char} (first : Visible front) (second : Visible back) :
    Visible (front ++ back) := fun character member =>
  (List.mem_append.mp member).elim (first character) (second character)

theorem visible_hexQuad (code : Nat) : Visible (hexQuad code) := by
  have digit : ∀ place < 16, ¬IsControl (Nat.digitChar place) := by
    unfold IsControl
    decide
  intro character member
  obtain ⟨place, among, rfl⟩ := List.mem_map.mp member
  refine digit place ?_
  simp only [List.mem_cons, List.not_mem_nil, or_false] at among
  omega

theorem visible_escapeChar (character : Char) : Visible (escapes.escapeChar character) := by
  have backslash : ¬IsControl '\\' := by
    unfold IsControl
    decide
  unfold EscapeRule.escapeChar
  split
  · rename_i letter short
    refine List.forall_mem_cons.mpr ⟨backslash, List.forall_mem_singleton.mpr ?_⟩
    simp only [escapes] at short
    split_ifs at short
    all_goals
      obtain rfl := Option.some.inj short
      unfold IsControl
      decide
  · split
    · refine List.forall_mem_cons.mpr ⟨backslash, List.forall_mem_cons.mpr ⟨?_, visible_hexQuad _⟩⟩
      unfold IsControl
      decide
    · rename_i plain
      refine List.forall_mem_singleton.mpr fun control => plain ?_
      simpa [escapes, IsControl] using control

theorem visible_quote (text : String) : Visible (escapes.quote text).toList := by
  have mark : ¬IsControl '"' := by
    unfold IsControl
    decide
  rw [Outline.toList_quote]
  refine List.forall_mem_cons.mpr ⟨mark, visible_append ?_ (List.forall_mem_singleton.mpr mark)⟩
  intro character member
  obtain ⟨written, _, among⟩ := List.mem_flatMap.mp member
  exact visible_escapeChar written character among

theorem visible_member (key value : String) : Visible (member key value).toList := by
  rw [member, String.toList_append, String.toList_append]
  refine visible_append (visible_append (visible_quote key) ?_) (visible_quote value)
  refine List.forall_mem_singleton.mpr ?_
  unfold IsControl
  decide

theorem visible_membersText (fields : List (String × String)) : Visible (membersText fields) := by
  induction fields with
  | nil => exact fun _ member => absurd member List.not_mem_nil
  | cons field rest inductionHypothesis =>
      refine List.forall_mem_cons.mpr ⟨?_, visible_append (visible_member _ _) inductionHypothesis⟩
      unfold IsControl
      decide

theorem visible_line (entry : Entry) : Visible entry.line.toList := by
  rw [toList_line]
  refine List.forall_mem_cons.mpr ⟨?_, visible_append (visible_member _ _)
    (visible_append (visible_membersText _) (List.forall_mem_singleton.mpr ?_))⟩
  all_goals
    unfold IsControl
    decide

end Control

section Tree

open Outline

/-- The fields of a line in the order in which they are written. -/
def written (entry : Entry) : List (String × String) :=
  ("event", entry.event) :: ("severity", entry.severity.name) :: sortFields entry.fields

/-- A field as it is read. -/
def readField (field : String × String) : Option String × Outline :=
  (some field.1, .string (some field.2))

theorem readField_injective : Function.Injective readField := by
  rintro ⟨key, value⟩ ⟨other, held⟩ same
  cases same
  rfl

theorem delimited_membersText (fields : List (String × String)) (rest : List Char) :
    Delimited (membersText fields ++ '\x7d' :: rest) := by
  cases fields with
  | nil => exact delimited_cons rest (.inr (.inr rfl))
  | cons field fields => exact delimited_cons _ (.inl rfl)

theorem toList_member (key value : String) :
    (member key value).toList =
      (escapes.quote key).toList ++ ':' :: (escapes.quote value).toList := by
  rw [member, String.toList_append, String.toList_append, List.append_assoc]
  rfl

theorem fieldsAt_membersText (fields : List (String × String)) (rest : List Char) (fuel : Nat)
    (enough : 2 * (membersText fields).length + 1 ≤ fuel) :
    fieldsAt fuel false (membersText fields ++ '\x7d' :: rest) =
      (fields.map readField, some rest) := by
  induction fields generalizing fuel with
  | nil =>
      obtain ⟨left, rfl⟩ : ∃ left, fuel = left + 1 := ⟨fuel - 1, by omega⟩
      rfl
  | cons field fields inductionHypothesis =>
      obtain ⟨key, value⟩ := field
      simp only [membersText, toList_member, List.length_cons, List.length_append] at enough
      obtain ⟨left, rfl⟩ : ∃ left, fuel = left + 2 := ⟨fuel - 2, by omega⟩
      have others := inductionHypothesis left (by omega)
      have read := fieldsAt_comma faithful_escapes key
        (readsAs_quote faithful_escapes value) (by omega) (delimited_membersText fields rest) others
      simpa [membersText, toList_member, readField] using read

/-- A printed line is read as the object of its fields, and nothing more. -/
theorem ofText_rendered (entry : Entry) :
    Outline.ofText entry.rendered = (.object (entry.written.map readField) true, true) := by
  have text : entry.rendered.toList = '\x7b' :: ((escapes.quote "event").toList ++ ':' ::
      ((escapes.quote entry.event).toList ++
        (membersText (("severity", entry.severity.name) :: sortFields entry.fields) ++
          ['\x7d', '\n']))) := by
    rw [rendered, String.toList_push, toList_line, toList_member]
    simp
  have long : entry.rendered.toList.length = (escapes.quote "event").toList.length +
      (escapes.quote entry.event).toList.length +
        (membersText (("severity", entry.severity.name) :: sortFields entry.fields)).length +
        4 := by
    rw [text]
    simp
    omega
  obtain ⟨left, fuel⟩ : ∃ left, 2 * entry.rendered.toList.length + 2 = left + 3 :=
    ⟨2 * entry.rendered.toList.length - 1, by omega⟩
  have others := fieldsAt_membersText
    (("severity", entry.severity.name) :: sortFields entry.fields) ['\n'] left (by omega)
  have fields := fieldsAt_first faithful_escapes "event"
    (readsAs_quote faithful_escapes entry.event) (by omega) (delimited_membersText _ ['\n']) others
  rw [Outline.ofText, fuel, text, valueAt_object fields]
  rfl

/-- What two entries print is the same exactly if they differ in the order of fields with
different keys at most. -/
theorem rendered_eq_iff (entry other : Entry) :
    entry.rendered = other.rendered ↔ entry.severity = other.severity ∧
      entry.event = other.event ∧ Reordered entry.fields other.fields := by
  constructor
  · intro same
    have read := entry.ofText_rendered
    rw [same, ofText_rendered, Prod.mk.injEq, Outline.object.injEq] at read
    have written := (List.map_inj_right fun _ _ same => readField_injective same).mp read.1.1
    simp only [Entry.written, List.cons.injEq, Prod.mk.injEq, true_and] at written
    obtain ⟨event, severity, fields⟩ := written
    exact ⟨Severity.name_injective severity.symm, event.symm, sortFields_eq_iff.mp fields.symm⟩
  · obtain ⟨severity, event, fields⟩ := entry
    rintro ⟨rfl, rfl, reordered⟩
    simp only [rendered, line, sortFields_eq reordered]

end Tree

/-- A log line is faithful.  It is printed as one line without any other control character.  Read
as a text it is an object with the event, the severity and then each field once, in key order
and fields with one key in their order, all texts as they were given.  Lines are the same
exactly if their entries differ in the order of fields with different keys alone; so fields
whose keys are all different may be given in any order. -/
theorem line_faithful (entry : Entry) :
    (∃ text, entry.rendered.toList = text ++ ['\n'] ∧ Visible text) ∧
    (∃ fields : List (String × String),
      Outline.ofText entry.rendered = (.object ((("event", entry.event) ::
        ("severity", entry.severity.name) :: fields).map fun field =>
          (some field.1, .string (some field.2))) true, true) ∧
      fields.Perm entry.fields ∧
      (fields.Pairwise fun former latter => former.1 ≤ latter.1) ∧
      ∀ key, fields.filter (fun field => field.1 = key) =
        entry.fields.filter fun field => field.1 = key) ∧
    (∀ other : Entry, entry.rendered = other.rendered ↔ entry.severity = other.severity ∧
      entry.event = other.event ∧ Reordered entry.fields other.fields) ∧
    ∀ fields : List (String × String), fields.Perm entry.fields →
      (fields.map (·.1)).Nodup → { entry with fields }.rendered = entry.rendered := by
  have sorted := reordered_sortFields entry.fields
  refine ⟨⟨entry.line.toList, String.toList_push _, entry.visible_line⟩,
    ⟨sortFields entry.fields, entry.ofText_rendered, sorted.perm.symm,
      sortFields_sorted entry.fields, fun key => (sorted.filter key).symm⟩,
    entry.rendered_eq_iff, ?_⟩
  intro fields perm distinct
  exact (rendered_eq_iff _ entry).mpr ⟨rfl, rfl, reordered_of_perm perm distinct⟩

end Entry

end SnapshotQuery
