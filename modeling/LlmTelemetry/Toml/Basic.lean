/-!
# TOML values

A table knows how it came to be, because that decides what may still be added to it: a table with a
header of its own is complete, one that a longer header or a dotted key implies may grow, and one in
braces is closed.
-/

namespace LlmTelemetry

/-- How a table came to be. -/
inductive TableOrigin where
  /-- By a header of its own, or as the whole document. -/
  | header
  /-- By a header that goes through it. -/
  | implied
  /-- By a dotted key. -/
  | dotted
  /-- In braces. -/
  | inline
deriving DecidableEq

inductive Toml where
  | string (value : String)
  | integer (value : Int)
  | float (value : Float)
  | boolean (value : Bool)
  | datetime (text : String)
  | array (items : List Toml)
  /-- An array whose elements are tables with a doubled header each. -/
  | tables (elements : List Toml)
  | table (origin : TableOrigin) (entries : List (String × Toml))

instance : Inhabited Toml := ⟨.boolean false⟩

end LlmTelemetry
