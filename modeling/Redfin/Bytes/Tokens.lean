import Mathlib.Tactic.Common

/-!
# Tokens of a C string

`strtok` called again and again on one string with one delimiter, as the source does it.
-/

namespace Redfin.Bytes

/-- The tokens in their order: the non-empty pieces between delimiters, up to a terminator. -/
def strtok (delimiter : Char) (s : String) : List String :=
  (((s.toList.takeWhile (· ≠ '\x00')).splitOnP (· == delimiter)).filter (· ≠ [])).map String.ofList

example : strtok ',' "diag,,serial_cdev," = ["diag", "serial_cdev"] := by decide

end Redfin.Bytes
