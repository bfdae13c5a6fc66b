import LlmTelemetry.Pattern.Parser
/-!
# Patterns of personal data

Patterns for email addresses, social security numbers, card numbers and telephone numbers. Each is
given with its text and with the expression that the text reads as.
-/

namespace LlmTelemetry.Sensitive

/-- A character from one of the classes. -/
def oneOf (parts : List CharClass) : Regex := .one (.oneOf parts)

def character (c : Char) : Regex := .one (.single c)

def optional (part : Regex) : Regex := .repeated part 0 (some 1) true

def digits (count : Nat) : Regex := .repeated (.one .digit) count (some count) true

def boundary : Regex := .assertion .wordBoundary

/-- White space or a hyphen, or nothing. -/
def cardSeparator : Regex := optional (oneOf [.space, .single '-'])

/-- A hyphen, a dot or white space, or nothing. -/
def phoneSeparator : Regex := optional (oneOf [.single '-', .single '.', .space])

def email : Pattern where
  text := "[a-zA-Z0-9._%+-]+@[a-zA-Z0-9.-]+\\.[a-zA-Z]\x7b2,\x7d"
  regex := .inOrder
    [.repeated (oneOf [.range 'a' 'z', .range 'A' 'Z', .range '0' '9', .single '.',
        .single '_', .single '%', .single '+', .single '-']) 1 none true,
      character '@',
      .repeated (oneOf [.range 'a' 'z', .range 'A' 'Z', .range '0' '9', .single '.',
        .single '-']) 1 none true,
      character '.',
      .repeated (oneOf [.range 'a' 'z', .range 'A' 'Z']) 2 none true]

def socialSecurity : Pattern where
  text := "\\b\\d\x7b3\x7d-\\d\x7b2\x7d-\\d\x7b4\x7d\\b"
  regex := .inOrder
    [boundary, digits 3, character '-', digits 2, character '-', digits 4, boundary]

def card : Pattern where
  text := "\\b\\d\x7b4\x7d[\\s-]?\\d\x7b4\x7d[\\s-]?\\d\x7b4\x7d[\\s-]?\\d\x7b4\x7d\\b"
  regex := .inOrder
    [boundary, digits 4, cardSeparator, digits 4, cardSeparator, digits 4, cardSeparator, digits 4,
      boundary]

def phone : Pattern where
  text := "\\b(?:\\+?1[-.\\s]?)?(?:\\(?\\d\x7b3\x7d\\)?[-.\\s]?)?\\d\x7b3\x7d[-.\\s]?\\d\x7b4\x7d\\b"
  regex := .inOrder
    [boundary,
      optional (.inOrder [optional (character '+'), character '1', phoneSeparator]),
      optional (.inOrder
        [optional (character '('), digits 3, optional (character ')'), phoneSeparator]),
      digits 3, phoneSeparator, digits 4, boundary]

/-- All of them, in the order in which they are applied. -/
def patterns : List Pattern := [email, socialSecurity, card, phone]

/-- Each of them has the expression that its text reads as. -/
theorem parse?_text : ∀ pattern ∈ patterns, Pattern.parse? pattern.text = some pattern := by
  simp only [patterns, List.forall_mem_cons]
  exact ⟨rfl, rfl, rfl, rfl, nofun⟩

end LlmTelemetry.Sensitive
