import LlmTelemetry.Proofs.Pattern.Literal
import LlmTelemetry.Redaction.Sensitive
/-!
# What the pattern for social security numbers matches

Three digits, two digits and four digits with hyphens between them, where no word goes on before or behind them. A
digit is one of any script, and every digit is a character of words.
-/

namespace LlmTelemetry

/-! ## Digits are in words -/

namespace Ranges

/-- Whether each of the inner ranges lies in one of the outer ones, which begin at `least` or later; both lists
ascend. -/
def cover (least : Nat) : (outer inner : Ranges) → Bool
  | _, [] => true
  | [], _ :: _ => false
  | (first, last) :: rest, range :: others =>
    least ≤ first &&
      cover first rest ((range :: others).dropWhile fun inside => first ≤ inside.1 && inside.2 ≤ last)

theorem contains_of_cover {least code : Nat} {outer inner : Ranges} (covered : cover least outer inner = true)
    {range : Nat × Nat} (among : range ∈ inner) (above : range.1 ≤ code) (below : code ≤ range.2) :
    least ≤ code ∧ outer.contains code = true := by
  induction outer generalizing least inner with
  | nil =>
    cases inner with
    | nil => cases among
    | cons _ _ => cases covered
  | cons bounds rest ih =>
    obtain ⟨first, last⟩ := bounds
    cases inner with
    | nil => cases among
    | cons head others =>
      rw [cover, Bool.and_eq_true, decide_eq_true_eq] at covered
      obtain ⟨later, covered⟩ := covered
      rw [contains]
      have parts := List.takeWhile_append_dropWhile (p := fun inside : Nat × Nat => first ≤ inside.1 && inside.2 ≤ last)
        (l := head :: others)
      rw [← parts, List.mem_append] at among
      rcases among with inside | beyond
      · have bounded := List.mem_takeWhile_imp inside
        simp only [Bool.and_eq_true, decide_eq_true_eq] at bounded
        rw [if_neg (by omega), if_pos (by omega)]
        exact ⟨by omega, rfl⟩
      · obtain ⟨from_first, contained⟩ := ih covered beyond
        rw [if_neg (by omega), contained]
        exact ⟨by omega, ite_self true⟩

theorem exists_of_contains {code : Nat} {ranges : Ranges} (contained : ranges.contains code = true) :
    ∃ range ∈ ranges, range.1 ≤ code ∧ code ≤ range.2 := by
  induction ranges with
  | nil => exact absurd contained Bool.false_ne_true
  | cons range rest ih =>
    rw [contains] at contained
    split at contained
    · exact absurd contained Bool.false_ne_true
    · split at contained
      · exact ⟨range, List.mem_cons_self, by omega, by omega⟩
      · obtain ⟨found, among, bounds⟩ := ih contained
        exact ⟨found, List.mem_cons_of_mem _ among, bounds⟩

end Ranges

theorem Unicode.isWord_of_isDigit {c : Char} (digit : isDigit c = true) : isWord c = true := by
  obtain ⟨range, among, above, below⟩ := Ranges.exists_of_contains digit
  have covered : Ranges.cover 0 wordRanges digitRanges = true := by decide +kernel
  exact (Ranges.contains_of_cover covered among above below).2

namespace Sensitive

/-! ## Numbers -/

/-- So many digits. -/
def AreDigits (count : Nat) (run : List Char) : Prop :=
  run.length = count ∧ ∀ c ∈ run, Unicode.isDigit c = true

/-- Three digits, two digits and four digits with hyphens between them. -/
def IsNumber (number : List Char) : Prop :=
  ∃ area group serial, AreDigits 3 area ∧ AreDigits 2 group ∧ AreDigits 4 serial ∧
    number = area ++ ('-' :: group ++ '-' :: serial)

namespace IsNumber

variable {number : List Char} (is_number : IsNumber number)
include is_number

theorem length : number.length = 11 := by
  obtain ⟨area, group, serial, three, two, four, rfl⟩ := is_number
  simp [three.1, two.1, four.1]

theorem ne_nil : number ≠ [] := by
  rintro rfl
  exact absurd is_number.length (by decide)

theorem digit_or_hyphen : ∀ c ∈ number, Unicode.isDigit c = true ∨ c = '-' := by
  obtain ⟨area, group, serial, three, two, four, rfl⟩ := is_number
  intro c among
  simp only [List.mem_append, List.mem_cons] at among
  rcases among with among | (rfl | among) | rfl | among
  · exact .inl (three.2 c among)
  · exact .inr rfl
  · exact .inl (two.2 c among)
  · exact .inr rfl
  · exact .inl (four.2 c among)

theorem not_mem {c : Char} (no_digit : Unicode.isDigit c = false) (no_hyphen : c ≠ '-') : c ∉ number := by
  intro among
  rcases is_number.digit_or_hyphen c among with digit | rfl
  · rw [no_digit] at digit
    contradiction
  · exact no_hyphen rfl

theorem hyphen_mem : '-' ∈ number := by
  obtain ⟨area, group, serial, -, -, -, rfl⟩ := is_number
  simp

theorem exists_head : ∃ first rest, number = first :: rest ∧ Unicode.isDigit first = true := by
  obtain ⟨area, group, serial, three, -, -, rfl⟩ := is_number
  obtain ⟨first, rest, rfl⟩ := List.exists_cons_of_length_eq_add_one three.1
  exact ⟨first, _, rfl, three.2 first List.mem_cons_self⟩

theorem exists_last : ∃ last, number.getLast? = some last ∧ Unicode.isDigit last = true := by
  obtain ⟨area, group, serial, -, -, four, rfl⟩ := is_number
  have some_serial : serial ≠ [] := by
    rintro rfl
    exact absurd four.1 (by decide)
  refine ⟨serial.getLast some_serial, ?_, four.2 _ (List.getLast_mem some_serial)⟩
  rw [List.getLast?_append_of_ne_nil _ (by simp), List.getLast?_append_of_ne_nil _ (by simp),
    List.getLast?_cons_of_ne_nil some_serial, List.getLast?_eq_some_getLast some_serial]

end IsNumber

/-! ## The expression -/

section Takes

variable {next : Regex} {before behind : Place}

theorem takes_digits {count : Nat} :
    (digits count).Takes before behind ↔
      ∃ run, AreDigits count run ∧ run <+: before.rest ∧ behind = before.skip count := by
  have once : ∀ times, Regex.MayRepeat count (some count) times ↔ times = count := by
    intro times
    simp [Regex.MayRepeat]
    omega
  have chain : (digits count).Takes before behind ↔ Chain (Regex.one .digit).Takes count before behind := by
    simp only [digits, Regex.Takes, once]
    simp
  rw [chain]
  clear chain once
  induction count generalizing before with
  | zero =>
    constructor
    · rintro ⟨⟩
      exact ⟨[], ⟨rfl, by simp⟩, List.nil_prefix, rfl⟩
    · rintro ⟨_, _, _, rfl⟩
      exact .done _
  | succ count ih =>
    obtain ⟨previous, rest⟩ := before
    constructor
    · rintro (_ | ⟨⟨c, others, rfl, contained, rfl⟩, chain⟩)
      obtain ⟨run, ⟨length, all⟩, here, rfl⟩ := ih.mp chain
      refine ⟨c :: run, ⟨by simpa using length, ?_⟩, by simpa using here, rfl⟩
      rw [List.forall_mem_cons]
      exact ⟨contained, all⟩
    · rintro ⟨run, ⟨length, all⟩, here, rfl⟩
      obtain ⟨c, run, rfl⟩ := List.exists_cons_of_length_eq_add_one length
      obtain ⟨others, rfl⟩ := here
      rw [List.forall_mem_cons] at all
      exact .step ⟨c, run ++ others, rfl, all.1, rfl⟩
        (ih.mpr ⟨run, ⟨by simpa using length, all.2⟩, List.prefix_append run others, rfl⟩)

theorem takes_hyphen : (character '-').Takes before behind ↔ ['-'] <+: before.rest ∧ behind = before.skip 1 :=
  Regex.takes_character

theorem append_prefix_iff {first second text : List Char} :
    first ++ second <+: text ↔ first <+: text ∧ second <+: text.drop first.length := by
  constructor
  · rintro ⟨rest, rfl⟩
    rw [List.append_assoc]
    exact ⟨List.prefix_append _ _, by simp⟩
  · rintro ⟨⟨rest, rfl⟩, begins⟩
    rw [List.drop_left] at begins
    exact List.prefix_append_right_inj first |>.mpr begins

theorem takes_socialSecurity :
    socialSecurity.regex.Takes before behind ↔
      ∃ number, IsNumber number ∧ number <+: before.rest ∧ behind = before.skip 11 ∧
        Assertion.atWordBoundary before = true ∧ Assertion.atWordBoundary behind = true := by
  have parts : socialSecurity.regex.Takes before behind ↔
      ∃ p₀, (Assertion.atWordBoundary before = true ∧ before = p₀) ∧ ∃ p₁, (digits 3).Takes p₀ p₁ ∧
        ∃ p₂, (character '-').Takes p₁ p₂ ∧ ∃ p₃, (digits 2).Takes p₂ p₃ ∧
          ∃ p₄, (character '-').Takes p₃ p₄ ∧ ∃ p₅, (digits 4).Takes p₄ p₅ ∧
            Assertion.atWordBoundary p₅ = true ∧ p₅ = behind := Iff.rfl
  have begins {area group serial text : List Char} (three : AreDigits 3 area) (two : AreDigits 2 group) :
      area ++ ('-' :: group ++ '-' :: serial) <+: text ↔ area <+: text ∧ ['-'] <+: text.drop 3 ∧
        group <+: text.drop 4 ∧ ['-'] <+: text.drop 6 ∧ serial <+: text.drop 7 := by
    have pieces : area ++ ('-' :: group ++ '-' :: serial) = area ++ (['-'] ++ (group ++ (['-'] ++ serial))) := by
      simp
    rw [pieces]
    simp only [append_prefix_iff, List.drop_drop, three.1, two.1, List.length_singleton]
  rw [parts]
  simp only [takes_digits, takes_hyphen]
  constructor
  · rintro ⟨_, ⟨opens, rfl⟩, _, ⟨area, three, first, rfl⟩, _, ⟨second, rfl⟩, _, ⟨group, two, third, rfl⟩, _,
      ⟨fourth, rfl⟩, _, ⟨serial, four, fifth, rfl⟩, closes, rfl⟩
    simp only [Place.skip_skip, Place.rest_skip] at second third fourth fifth closes
    exact ⟨_, ⟨area, group, serial, three, two, four, rfl⟩,
      (begins three two).mpr ⟨first, second, third, fourth, fifth⟩, rfl, opens, closes⟩
  · rintro ⟨_, ⟨area, group, serial, three, two, four, rfl⟩, here, rfl, opens, closes⟩
    obtain ⟨first, second, third, fourth, fifth⟩ := (begins three two).mp here
    refine ⟨before, ⟨opens, rfl⟩, before.skip 3, ⟨area, three, first, rfl⟩, before.skip 4, ⟨?_, ?_⟩,
      before.skip 6, ⟨group, two, ?_, ?_⟩, before.skip 7, ⟨?_, ?_⟩, before.skip 11, ⟨serial, four, ?_, ?_⟩, closes, rfl⟩
    all_goals simp only [Place.skip_skip, Place.rest_skip]
    exacts [second, third, fourth, fifth]

/-! ## Where it matches -/

variable {place : Place} {number : List Char}

theorem atWordBoundary_of_number (is_number : IsNumber number) (here : number <+: place.rest) :
    (Assertion.atWordBoundary place = true ↔ place.previous.any Unicode.isWord = false) ∧
      (Assertion.atWordBoundary (place.skip 11) = true ↔
        (place.rest.drop 11).head?.any Unicode.isWord = false) := by
  obtain ⟨after, same⟩ := here
  constructor
  · obtain ⟨first, rest, rfl, digit⟩ := is_number.exists_head
    rw [Assertion.atWordBoundary, ← same]
    simp [Unicode.isWord_of_isDigit digit]
  · obtain ⟨last, ends, digit⟩ := is_number.exists_last
    have there : place.skip 11 = ⟨some last, after⟩ := by
      obtain ⟨previous, rest⟩ := place
      subst same
      rw [← is_number.length, Place.skip_append_length previous after is_number.ne_nil, ends]
    rw [there, Assertion.atWordBoundary, ← same, ← is_number.length, List.drop_left]
    simp [Unicode.isWord_of_isDigit digit]

/-- A number is matched where it stands apart from other words. -/
theorem matchesAt_socialSecurity (is_number : IsNumber number) (here : number <+: place.rest) :
    socialSecurity.regex.MatchesAt place number.length ↔
      place.previous.any Unicode.isWord = false ∧
        (place.rest.drop number.length).head?.any Unicode.isWord = false := by
  obtain ⟨opens, closes⟩ := atWordBoundary_of_number is_number here
  rw [Regex.MatchesAt, takes_socialSecurity, is_number.length, ← opens, ← closes]
  have enough := is_number.length ▸ here.length_le
  constructor
  · rintro ⟨-, -, -, -, -, bounds⟩
    exact bounds
  · rintro ⟨before, behind⟩
    exact ⟨enough, number, is_number, here, rfl, before, behind⟩

/-- What is matched is a number that stands apart. -/
theorem exists_of_matchesAt {length : Nat} (matched : socialSecurity.regex.MatchesAt place length) :
    length = 11 ∧ ∃ number, IsNumber number ∧ number <+: place.rest ∧ place.previous.any Unicode.isWord = false ∧
      (place.rest.drop 11).head?.any Unicode.isWord = false := by
  obtain ⟨enough, takes⟩ := matched
  obtain ⟨number, is_number, here, same, opens, closes⟩ := takes_socialSecurity.mp takes
  obtain rfl : length = 11 := Program.skip_injective enough (is_number.length ▸ here.length_le) same
  rw [same] at closes
  obtain ⟨before, behind⟩ := atWordBoundary_of_number is_number here
  exact ⟨rfl, number, is_number, here, before.mp opens, behind.mp closes⟩

theorem isNumber_of_matchesAt (here : number <+: place.rest)
    (matched : socialSecurity.regex.MatchesAt place number.length) : IsNumber number := by
  obtain ⟨length, other, is_number, there, -⟩ := exists_of_matchesAt matched
  have lengths : number.length = other.length := length.trans is_number.length.symm
  rwa [(List.prefix_of_prefix_length_le here there lengths.le).eq_of_length lengths]

/-- The pattern finds a number that always stands apart. -/
theorem finds_number {text : List Char} (is_number : IsNumber number) (isolated : Isolated number text) :
    socialSecurity.regex.Finds number ⟨none, text⟩ :=
  isolated.finds fun _ here before behind =>
    ⟨number.length, (matchesAt_socialSecurity is_number here).mpr ⟨before, behind⟩⟩

/-- Every occurrence of the number in the text is a match. -/
def Matched (number : List Char) (text : List Char) : Prop :=
  ∀ start, number <+: text.drop start →
    socialSecurity.regex.MatchesAt (Place.skip ⟨none, text⟩ start) number.length

/-- The matches of a number are the places where it stands apart. -/
theorem matched_iff_isolated {text : List Char} (is_number : IsNumber number) :
    Matched number text ↔ Isolated number text := by
  constructor
  · rintro matched before after rfl
    have there : Place.skip ⟨none, before ++ number ++ after⟩ before.length = ⟨before.getLast?, number ++ after⟩ := by
      rw [List.append_assoc, Place.skip_length_append]
    have found := matched before.length (by simp)
    rw [there, matchesAt_socialSecurity is_number (List.prefix_append _ _), List.drop_left] at found
    exact found
  · intro isolated start begins
    have inside : start ≤ text.length := by
      have length := begins.length_le
      rw [is_number.length, List.length_drop] at length
      omega
    have apart := isolated.apart_at inside begins
    rw [← Place.rest_skip ⟨none, text⟩] at begins apart
    exact (matchesAt_socialSecurity is_number begins).mpr apart

end Takes

end Sensitive

end LlmTelemetry
