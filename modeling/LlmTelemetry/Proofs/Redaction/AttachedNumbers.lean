import LlmTelemetry.Proofs.Redaction.SocialSecurity
/-!
# Numbers that end a word

A number that ends a longer word is not matched, and no match overlaps it: wherever a match would begin around the
number, it would need a hyphen where there is a digit, or the end of a word where the word goes on. So the number is
kept when the matches are replaced. For this the characters are only told apart by what a match needs of them, and
the ways in which a match and such a number can overlap are all tried.
-/

namespace LlmTelemetry

namespace Place

/-- The characters around a place, from the one before it on. -/
def around (place : Place) : Nat → Option Char
  | 0 => place.previous
  | index + 1 => place.rest[index]?

theorem around_skip (place : Place) {count : Nat} (inside : count ≤ place.rest.length) (index : Nat) :
    (place.skip count).around index = place.around (count + index) := by
  cases index with
  | zero =>
    cases count with
    | zero => rfl
    | succ count => exact place.previous_skip_succ inside
  | succ index => rw [around, rest_skip, List.getElem?_drop, ← Nat.add_assoc, around]

end Place

namespace Sensitive

/-! ## Kinds of characters -/

inductive Kind where
  | digit
  | letter
  | hyphen
  | other
deriving DecidableEq

/-- The kind of a character, or of there being none. -/
def kind : Option Char → Kind
  | none => .other
  | some c =>
    if Unicode.isDigit c then .digit else if Unicode.isWord c then .letter else if c = '-' then .hyphen else .other

section Kinds

variable {c : Char}

theorem kind_digit (digit : Unicode.isDigit c = true) : kind (some c) = .digit := by
  rw [kind, if_pos digit]

theorem kind_word (word : Unicode.isWord c = true) : kind (some c) ∈ [Kind.digit, .letter] := by
  rw [kind, word]
  split <;> simp

theorem kind_no_hyphen (no_hyphen : c ≠ '-') : kind (some c) ∈ [Kind.digit, .letter, .other] := by
  rw [kind, if_neg no_hyphen]
  repeat' split
  all_goals simp

theorem kind_no_word {c : Option Char} (no_word : c.any Unicode.isWord = false) : kind c ∈ [Kind.hyphen, .other] := by
  cases c with
  | none => simp [kind]
  | some c =>
    rw [Option.any_some] at no_word
    have no_digit : Unicode.isDigit c ≠ true := fun digit => by
      rw [Unicode.isWord_of_isDigit digit] at no_word
      contradiction
    rw [kind, if_neg no_digit, no_word, if_neg Bool.false_ne_true]
    split <;> simp

end Kinds

/-! ## Shapes of texts -/

/-- The characters have kinds among those of the shape, one after the other. -/
def Shows (shape : List (List Kind)) (text : Nat → Option Char) : Prop :=
  ∀ index kinds, shape[index]? = some kinds → kind (text index) ∈ kinds

theorem shows_nil (text : Nat → Option Char) : Shows [] text := fun _ _ here => by cases here

theorem shows_cons {kinds : List Kind} {shape : List (List Kind)} {text : Nat → Option Char} :
    Shows (kinds :: shape) text ↔ kind (text 0) ∈ kinds ∧ Shows shape fun index => text (index + 1) := by
  constructor
  · intro shows
    exact ⟨shows 0 kinds rfl, fun index => shows (index + 1)⟩
  · rintro ⟨first, others⟩ (_ | index) some_kinds here
    · cases here
      exact first
    · exact others index some_kinds here

theorem shows_concat {kinds : List Kind} {shape : List (List Kind)} {text : Nat → Option Char} :
    Shows (shape ++ [kinds]) text ↔ Shows shape text ∧ kind (text shape.length) ∈ kinds := by
  induction shape generalizing text with
  | nil => simp [shows_cons, shows_nil]
  | cons first shape ih => simp [shows_cons, ih, and_assoc]

/-- Whether one shape can begin in the other, so many characters behind its beginning. -/
def overlaps (first second : List (List Kind)) (ahead : Nat) : Bool :=
  ((first.drop ahead).zip second).all fun kinds => kinds.1.any (· ∈ kinds.2)

theorem overlaps_of_shows {first second : List (List Kind)} {text : Nat → Option Char} {ahead : Nat}
    (shows : Shows first text) (shows' : Shows second fun index => text (ahead + index)) :
    overlaps first second ahead = true := by
  rw [overlaps, List.all_eq_true]
  rintro ⟨kinds, others⟩ among
  obtain ⟨index, here⟩ := List.mem_iff_getElem?.mp among
  obtain ⟨one, other⟩ := List.getElem?_zip_eq_some.mp here
  rw [List.getElem?_drop] at one
  rw [List.any_eq_true]
  exact ⟨_, shows _ _ one, decide_eq_true (shows' _ _ other)⟩

def numberShape : List (List Kind) :=
  [[.digit], [.digit], [.digit], [.hyphen], [.digit], [.digit], [.hyphen], [.digit], [.digit], [.digit], [.digit]]

/-- A number with what a match needs around it. -/
def matchedShape : List (List Kind) :=
  [.hyphen, .other] :: (numberShape ++ [[.hyphen, .other]])

/-- A number behind a character of a word, which is not behind a hyphen. -/
def attachedShape : List (List Kind) :=
  [.digit, .letter, .other] :: [.digit, .letter] :: numberShape

theorem no_overlap : ∀ ahead < 12,
    overlaps attachedShape matchedShape ahead = false ∧ overlaps matchedShape attachedShape ahead = false := by
  decide

theorem twelve_apart {text : Nat → Option Char} {first second : Nat}
    (attached : Shows attachedShape fun index => text (first + index))
    (matched : Shows matchedShape fun index => text (second + index)) : first + 12 ≤ second ∨ second + 12 ≤ first := by
  by_contra near
  rcases Nat.le_total first second with before | before
  · obtain ⟨ahead, rfl⟩ := Nat.exists_eq_add_of_le before
    have clash := (no_overlap ahead (by omega)).1
    rw [overlaps_of_shows attached (by simpa only [Nat.add_assoc] using matched)] at clash
    contradiction
  · obtain ⟨ahead, rfl⟩ := Nat.exists_eq_add_of_le before
    have clash := (no_overlap ahead (by omega)).2
    rw [overlaps_of_shows matched (by simpa only [Nat.add_assoc] using attached)] at clash
    contradiction

theorem IsNumber.shows {number : List Char} (is_number : IsNumber number) (rest : List Char) :
    Shows numberShape fun index => (number ++ rest)[index]? := by
  obtain ⟨area, group, serial, ⟨three, area_digits⟩, ⟨two, group_digits⟩, ⟨four, serial_digits⟩, rfl⟩ := is_number
  obtain ⟨a, b, c, rfl⟩ := List.length_eq_three.mp three
  obtain ⟨d, e, rfl⟩ := List.length_eq_two.mp two
  obtain ⟨f, serial, rfl⟩ := List.exists_cons_of_length_eq_add_one four
  obtain ⟨g, h, i, rfl⟩ := List.length_eq_three.mp (Nat.succ.inj four)
  simp only [List.forall_mem_cons] at area_digits group_digits serial_digits
  have hyphen : kind (some '-') = .hyphen := by decide
  simp [numberShape, shows_cons, shows_nil, kind_digit, area_digits, group_digits, serial_digits, hyphen]

/-! ## Numbers that are kept -/

/-- A character of a word stands before the number, and before that one a character that is no hyphen. -/
def Attached (number text : List Char) : Prop :=
  ∃ first second, first ≠ '-' ∧ Unicode.isWord second = true ∧ first :: second :: number <:+: text

theorem Attached.widen {number text other : List Char} (attached : Attached number text) (inside : text <:+: other) :
    Attached number other := by
  obtain ⟨first, second, no_hyphen, word, occurs⟩ := attached
  exact ⟨first, second, no_hyphen, word, occurs.trans inside⟩

theorem shows_matchedShape {place : Place} {length : Nat} (matched : socialSecurity.regex.MatchesAt place length) :
    Shows matchedShape place.around := by
  obtain ⟨-, number, is_number, ⟨rest, here⟩, opens, closes⟩ := exists_of_matchesAt matched
  rw [matchedShape, shows_cons]
  refine ⟨kind_no_word opens, shows_concat.mpr ⟨?_, kind_no_word ?_⟩⟩
  · have shows := is_number.shows rest
    rwa [here] at shows
  · rwa [List.head?_drop] at closes

theorem shows_attachedShape {number rest : List Char} (is_number : IsNumber number) {first second : Char}
    (no_hyphen : first ≠ '-') (word : Unicode.isWord second = true) :
    Shows attachedShape fun index => (first :: second :: number ++ rest)[index]? := by
  rw [attachedShape, shows_cons, shows_cons]
  exact ⟨kind_no_hyphen no_hyphen, kind_word word, is_number.shows rest⟩

theorem not_overlapping {number before after : List Char} {place : Place} (is_number : IsNumber number)
    {first second : Char} (no_hyphen : first ≠ '-') (word : Unicode.isWord second = true)
    (same : before ++ (first :: second :: number) ++ after = place.rest) {start length : Nat}
    (inside : start ≤ place.rest.length) (matched : socialSecurity.regex.MatchesAt (place.skip start) length) :
    start + length ≤ before.length ∨ before.length + 13 ≤ start := by
  have eleven := (exists_of_matchesAt matched).1
  have shows : Shows matchedShape fun index => place.around (start + index) := by
    rw [← funext fun index => place.around_skip inside index]
    exact shows_matchedShape matched
  have shows' : Shows attachedShape fun index => place.around (before.length + 1 + index) := by
    have there (index : Nat) :
        place.around (before.length + 1 + index) = (first :: second :: number ++ after)[index]? := by
      rw [Nat.add_right_comm, Place.around, ← same, List.append_assoc,
        List.getElem?_append_right (Nat.le_add_right _ _), Nat.add_sub_cancel_left]
    simpa only [there] using shows_attachedShape is_number no_hyphen word
  have apart := twelve_apart shows' shows
  omega

/-- Where the matches are replaced, a number that ends a longer word is kept. -/
theorem infix_of_replaced {number replacement out : List Char} {place : Place} (is_number : IsNumber number)
    (replaced : socialSecurity.regex.Replaced replacement place out) (attached : Attached number place.rest) :
    number <:+: out := by
  have kept {text : List Char} (attached : Attached number text) : number <:+: text := by
    obtain ⟨first, second, -, -, occurs⟩ := attached
    exact (List.suffix_append [first, second] number).isInfix.trans occurs
  induction replaced with
  | clean nowhere => exact kept attached
  | @replace place start length out first inside matched _ ih =>
    obtain ⟨c, d, no_hyphen, word, before, after, same⟩ := attached
    rcases not_overlapping is_number no_hyphen word same inside matched with ahead | behind
    · have later : Attached number (place.skip (start + length)).rest := by
        refine ⟨c, d, no_hyphen, word, before.drop (start + length), after, ?_⟩
        rw [Place.rest_skip, ← same, List.append_assoc, List.append_assoc, List.drop_append_of_le_length ahead]
      exact (ih later).trans (List.suffix_append _ out).isInfix
    · have length : (before ++ c :: d :: number).length = before.length + 13 := by simp [is_number.length]
      have gap : before ++ c :: d :: number <+: place.rest.take start :=
        List.prefix_take_iff.mpr ⟨⟨after, same⟩, by omega⟩
      have earlier : Attached number (place.rest.take start) :=
        ⟨c, d, no_hyphen, word, (List.suffix_append before _).isInfix.trans gap.isInfix⟩
      have whole := (List.prefix_append (place.rest.take start) (replacement ++ out)).isInfix
      rw [← List.append_assoc] at whole
      exact (kept earlier).trans whole

end Sensitive

end LlmTelemetry
