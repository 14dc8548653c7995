import Companion.Json.Basic
import Companion.Round.Basic

/-!
# Reports in JSON

The report of a round, with the artifacts in their order.
-/

namespace Companion

/-- A published artifact as JSON. -/
def Summary.toJson (s : Summary) : Json :=
  .object
    [("name", .string s.name.text),
      ("origin", .string s.origin.text),
      ("variant", .string s.variant.name),
      ("parent", .string s.parent.text),
      ("fields", Json.ofTexts s.fields),
      ("skipped_fields", Json.ofTexts s.skippedFields)]

/-- A report as JSON. -/
def Report.toJson (r : Report) : Json :=
  .object
    [("artifacts", .array (r.artifacts.map (·.toJson))),
      ("error_count", Json.ofNat r.errorCount),
      ("inspected_types", Json.ofNat r.inspectedTypes)]

end Companion
