import SealedExchange.Json.Value

/-! # Values of a known form

A document that was read as a whole is taken apart again by type. The errors are those of reading
the type from the text.
-/

namespace SealedExchange.Json.Value

/-- A whole number below a bound. -/
def natBelow (bound : Nat) (expected : String) : Value → Except Error Nat
  | .number (.natural n) =>
    if n < bound then .ok n else .error (.invalidValue (.natural n) expected)
  | .number (.negative n) => .error (.invalidValue (.negative n) expected)
  | v => .error (.invalidType v.found expected)

/-- A text. -/
def text : Value → Except Error String
  | .string s => .ok s
  | v => .error (.invalidType v.found "a string")

/-- A text or nothing. -/
def optionalText : Value → Except Error (Option String)
  | .null => .ok none
  | v => v.text.map some

/-- A list of texts. -/
def texts : Value → Except Error (List String)
  | .array items => items.mapM text
  | v => .error (.invalidType v.found "a sequence")

end SealedExchange.Json.Value
