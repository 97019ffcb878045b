import Mathlib.Tactic.SplitIfs
import SnapshotQuery.Log.Entry
import SnapshotQuery.Proofs.Text.Reading

/-!
# Reading log lines

What a log line quotes is read back as it was.  The severity stands in the second
field of a line, so it can be told from the line alone.
-/

namespace SnapshotQuery

namespace Entry

theorem toNat_lt_of_long {character : Char} (long : escapes.long character = true) :
    character.toNat < 0xa0 := by
  simp only [escapes, Bool.or_eq_true, Bool.and_eq_true, decide_eq_true_eq] at long
  omega

theorem faithful_escapes : escapes.Faithful where
  short {character letter} short := by
    simp only [escapes] at short
    split_ifs at short with here here here here here
    all_goals
      obtain rfl := Option.some.inj short
      rw [here]
      decide
  long long := Nat.lt_of_lt_of_le (toNat_lt_of_long long) (by decide)
  plain {character} short long := by
    refine ⟨?_, ?_, fun control => ?_⟩
    · rintro rfl
      cases short
    · rintro rfl
      cases short
    · simp [escapes, control] at long

end Entry

namespace Outline

theorem after?_append (word text : List Char) : after? word (word ++ text) = some text := by
  induction word with
  | nil => rfl
  | cons character word inductionHypothesis => simpa [after?] using inductionHypothesis

end Outline

namespace Severity

/-- The severity a line names in its second field. -/
def ofLine? (line : String) : Option Severity := do
  let text ← Outline.after? "\x7b\"event\":\"".toList line.toList
  let (_, text) ← Outline.quoted? text
  let text ← Outline.after? ",\"severity\":\"".toList text
  let (name, _) ← Outline.quoted? text
  all.find? fun severity => name = some severity.name

theorem find?_name (severity : Severity) :
    (all.find? fun other => some severity.name = some other.name) = some severity := by
  cases severity <;> decide

theorem name_injective {severity other : Severity} (same : severity.name = other.name) :
    severity = other := by
  have found := find?_name other
  rw [← same, find?_name] at found
  exact Option.some.inj found

end Severity

namespace Entry

/-- The text of fields that follow another one. -/
def membersText : List (String × String) → List Char
  | [] => []
  | field :: rest => ',' :: ((member field.1 field.2).toList ++ membersText rest)

theorem toList_intercalate (first : String × String) (rest : List (String × String)) :
    (",".intercalate ((first :: rest).map fun field => member field.1 field.2)).toList =
      (member first.1 first.2).toList ++ membersText rest := by
  induction rest generalizing first with
  | nil => simp [membersText, String.intercalate_singleton]
  | cons second rest inductionHypothesis =>
      have tail := inductionHypothesis second
      rw [List.map_cons] at tail
      have comma : ",".toList = [','] := by decide
      rw [List.map_cons, List.map_cons, String.intercalate_cons_cons, String.toList_append,
        String.toList_append, tail, List.append_assoc, comma, List.singleton_append, membersText]

theorem toList_line (entry : Entry) : entry.line.toList =
    '\x7b' :: ((member "event" entry.event).toList ++
      (membersText (("severity", entry.severity.name) :: sortFields entry.fields) ++
        ['\x7d'])) := by
  have opened : "\x7b".toList = ['\x7b'] := by decide
  have closed : "\x7d".toList = ['\x7d'] := by decide
  rw [line, String.toList_append, String.toList_append, toList_intercalate, opened, closed,
    List.append_assoc, List.append_assoc, List.singleton_append]

/-- The severity of an entry can be told from its line. -/
theorem ofLine?_line (entry : Entry) : Severity.ofLine? entry.line = some entry.severity := by
  have event : escapes.quote "event" = "\"event\"" := by decide
  have severity : escapes.quote "severity" = "\"severity\"" := by decide
  have written : ∃ rest, entry.line.toList = "\x7b\"event\":\"".toList ++
      (escapes.escape entry.event.toList ++ '"' :: (",\"severity\":\"".toList ++
        (escapes.escape entry.severity.name.toList ++ '"' :: rest))) := by
    refine ⟨membersText (sortFields entry.fields) ++ ['\x7d'], ?_⟩
    rw [toList_line, membersText, member, member, event, severity]
    simp [EscapeRule.quote]
  obtain ⟨rest, written⟩ := written
  rw [Severity.ofLine?, written, Outline.after?_append]
  simp only [bind, Option.bind_some, Outline.quoted?_escape faithful_escapes,
    Outline.after?_append]
  exact Severity.find?_name entry.severity

end Entry

end SnapshotQuery
