import NamingLint.Report
import NamingLint.Proofs.JsonLayout

/-!
The JSON report and the plain one carry the same data. The records of a decoded report are read by
the names of their members, and the lines are made from nothing else. How a report reaches the
output is not treated here.
-/

namespace NamingLint

namespace Json.Datum

def member? (name : String) : Datum → Option Datum
  | .object members => members.lookup name
  | _ => none

def text? : Datum → Option String
  | .text s => some s
  | _ => none

def natural? : Datum → Option Nat
  | .number q => if q.den = 1 ∧ 0 ≤ q.num then some q.num.toNat else none
  | _ => none

def elements? : Datum → Option (List Datum)
  | .array elements => some elements
  | _ => none

end Json.Datum

namespace Report

open Json (Datum Written decode)

/-- A violation as a record of its data. -/
def record (v : Violation) : Datum :=
  .object
    [("file", .text v.file),
     ("line", .number v.position.line.toNat),
     ("column", .number v.position.column.toNat),
     ("rule", .text (v.rule.set ++ ":" ++ v.rule.rule)),
     ("message", .text v.message),
     ("auto_correctable", .bool v.autoCorrectable)]

/-- The line `file:line:column: message (rule)` of a record. -/
def lineOf (d : Datum) : Option String := do
  let file ← (← d.member? "file").text?
  let line ← (← d.member? "line").natural?
  let column ← (← d.member? "column").natural?
  let rule ← (← d.member? "rule").text?
  let message ← (← d.member? "message").text?
  return file ++ ":" ++ toString line ++ ":" ++ toString column ++ ": " ++ message ++
    " (" ++ rule ++ ")"

/-- The lines of an array of records, each with its end. -/
def linesOf (d : Datum) : Option String := do
  let lines ← (← d.elements?).mapM lineOf
  return String.join (lines.map (· ++ "\n"))

theorem natural?_number (n : Nat) : (Datum.number n).natural? = some n := by
  simp [Datum.natural?]

theorem datum_violationJson (v : Violation) : (violationJson v).datum = record v := rfl

theorem lineOf_record (v : Violation) : lineOf (record v) = some v.line := by
  have hline : toString v.position.line = v.position.line.toNat.repr := rfl
  have hcolumn : toString v.position.column = v.position.column.toNat.repr := rfl
  simp [lineOf, record, Datum.member?, List.lookup_cons, Datum.text?, natural?_number,
    Violation.line, RuleId.display, hline, hcolumn]

theorem mapM_lineOf (vs : List Violation) :
    (vs.map record).mapM lineOf = some (vs.map Violation.line) := by
  induction vs with
  | nil => rfl
  | cons v vs ih => simp [lineOf_record, ih]

theorem linesOf_records (vs : List Violation) :
    linesOf (.array (vs.map record)) = some (plain vs) := by
  simp only [linesOf, Datum.elements?, Option.bind_eq_bind, Option.bind_some, mapM_lineOf,
    List.map_map]
  rfl

theorem written_records (vs : List Violation) :
    Written (.value (.array (vs.map record)))
      ((Json.Value.array (vs.map violationJson)).layout 0) := by
  have hlayout := (Json.Value.array (vs.map violationJson)).written_layout 0
  have hdata : (Json.Value.array (vs.map violationJson)).datum = .array (vs.map record) := by
    rw [Json.Value.datum, Json.dataOf_eq_map, List.map_map]
    exact congrArg Datum.array (List.map_congr_left fun v _ => datum_violationJson v)
  rwa [hdata] at hlayout

/-- The JSON report is one JSON text and the end of its line. It means the array of the records and
nothing else, the decoder finds that, and the lines made from it are the plain report. -/
theorem json_lossless (violations : List Violation) :
    (∃ text, (json violations).toList = text ++ ['\n'] ∧
      Written (.value (.array (violations.map record))) text) ∧
    (∀ d, Written (.item d) (json violations).toList ↔ d = .array (violations.map record)) ∧
    decode (json violations).toList = some (.array (violations.map record)) ∧
    (decode (json violations).toList).bind linesOf = some (plain violations) := by
  have htext : (json violations).toList =
      (Json.Value.array (violations.map violationJson)).layout 0 ++ ['\n'] := by
    simp [json, Json.Value.render]
  have hwritten : Written (.item (.array (violations.map record))) (json violations).toList := by
    rw [htext]
    exact .item Json.blank_nil (written_records violations) (by decide)
  have hdecode := Json.decode_eq_some_iff.mpr hwritten
  refine ⟨⟨_, htext, written_records violations⟩, fun d => ?_, hdecode, ?_⟩
  · constructor
    · intro hd
      exact Json.written_unique hd hwritten
    · rintro rfl
      exact hwritten
  · rw [hdecode]
    exact linesOf_records violations

end Report
end NamingLint
