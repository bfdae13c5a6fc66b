import LlmTelemetry.Proofs.Pattern.Replacement
import Mathlib.Data.List.Basic
/-!
# Matches that replacing does not make

Where the matches of one expression are replaced, what is left are gaps with replacements between them. A match
of an expression in the new text that was not in the old one would have to take characters of a replacement, or
find a word boundary at the edge of a gap where there was none.

Both can be excluded by a look at the expressions. The first when no class of the expression has the characters at
the ends of the replacement, and every match takes a character that is not in the replacement at all. The second
when the replaced matches begin and end at word boundaries themselves: then there was a boundary at every edge
already, and what stands in a replacement's place can only take one away.
-/

namespace LlmTelemetry

namespace Place

theorem skip_append_length (previous : Option Char) {taken : List Char} (rest : List Char)
    (some_taken : taken ≠ []) :
    skip ⟨previous, taken ++ rest⟩ taken.length = ⟨taken.getLast?, rest⟩ := by
  induction taken generalizing previous with
  | nil => contradiction
  | cons c taken ih =>
    cases taken with
    | nil => rfl
    | cons d taken =>
      show skip ⟨some c, d :: taken ++ rest⟩ (d :: taken).length = _
      rw [ih (some c) (by simp), List.getLast?_cons_cons]

theorem skip_past (previous : Option Char) (gap rest : List Char) {taken : List Char} (some_taken : taken ≠ [])
    (count : Nat) :
    skip ⟨previous, gap ++ (taken ++ rest)⟩ (gap.length + (taken.length + count)) =
      skip ⟨taken.getLast?, rest⟩ count := by
  have all : gap ++ taken ≠ [] := by simp [some_taken]
  rw [← Nat.add_assoc, ← skip_skip, ← List.append_assoc, ← List.length_append, skip_append_length _ _ all,
    List.getLast?_append_of_ne_nil _ some_taken]

theorem previous_skip_succ (place : Place) {count : Nat} (inside : count < place.rest.length) :
    (place.skip (count + 1)).previous = place.rest[count]? := by
  induction count generalizing place with
  | zero =>
    obtain ⟨previous, _ | ⟨c, rest⟩⟩ := place
    · simp at inside
    · rfl
  | succ count ih =>
    obtain ⟨previous, _ | ⟨c, rest⟩⟩ := place
    · simp at inside
    · rw [skip_cons, List.getElem?_cons_succ]
      exact ih ⟨some c, rest⟩ (by simpa using inside)

theorem next_of_rest {place : Place} {c : Char} {rest : List Char} (same : place.rest = c :: rest) :
    place.next = ⟨some c, rest⟩ := by
  obtain ⟨previous, _⟩ := place
  subst same
  rfl

theorem head?_skip (place : Place) (count : Nat) : (place.skip count).rest.head? = place.rest[count]? := by
  rw [rest_skip, List.head?_drop]

end Place

/-- Whether the class has none of the characters. -/
def CharClass.avoids (chars : List Char) (cls : CharClass) : Bool :=
  chars.all fun c => !cls.contains c

theorem CharClass.not_mem_of_avoids {chars : List Char} {cls : CharClass} {c : Char}
    (avoids : cls.avoids chars = true) (contained : cls.contains c = true) : c ∉ chars := by
  intro among
  have free := List.all_eq_true.mp avoids c among
  rw [contained] at free
  contradiction

namespace Regex

/-! ## What can be read off from an expression -/

/-- Whether all classes and all conditions of the expression are allowed. -/
def madeOf (take : CharClass → Bool) (check : Assertion → Bool) : Regex → Bool
  | .empty => true
  | .one cls => take cls
  | .assertion condition => check condition
  | .sequence first second => first.madeOf take check && second.madeOf take check
  | .either first second => first.madeOf take check && second.madeOf take check
  | .repeated body _ _ _ => body.madeOf take check
  | .group _ body => body.madeOf take check

/-- Whether every match takes a character by one of the given classes. -/
def needs (take : CharClass → Bool) : Regex → Bool
  | .empty => false
  | .one cls => take cls
  | .assertion _ => false
  | .sequence first second => first.needs take || second.needs take
  | .either first second => first.needs take && second.needs take
  | .repeated body least _ _ => least != 0 && body.needs take
  | .group _ body => body.needs take

/-- Whether the expression begins with a word boundary. -/
def opensWord : Regex → Bool
  | .assertion condition => condition = .wordBoundary
  | .sequence first _ => first.opensWord
  | .group _ body => body.opensWord
  | _ => false

def closesWord : Regex → Bool
  | .assertion condition => condition = .wordBoundary
  | .sequence _ second => second.closesWord
  | .group _ body => body.closesWord
  | _ => false

/-- Whether every match begins and ends at a word boundary. -/
def framed (regex : Regex) : Bool :=
  regex.opensWord && regex.closesWord

section Reading

variable {take : CharClass → Bool} {check : Assertion → Bool} {regex : Regex} {before behind : Place}

theorem Takes.all_taken (takes : regex.Takes before behind) (made : regex.madeOf take check = true) :
    ∃ taken, before.rest = taken ++ behind.rest ∧
      ∀ c ∈ taken, ∃ cls, take cls = true ∧ cls.contains c = true := by
  induction regex generalizing before behind with
  | empty =>
    obtain rfl := takes
    exact ⟨[], rfl, by simp⟩
  | one cls =>
    obtain ⟨c, rest, same, contained, rfl⟩ := takes
    refine ⟨[c], same, ?_⟩
    intro d among
    rw [List.mem_singleton.mp among]
    exact ⟨cls, made, contained⟩
  | assertion condition =>
    obtain ⟨-, rfl⟩ := takes
    exact ⟨[], rfl, by simp⟩
  | sequence first second ihFirst ihSecond =>
    obtain ⟨between, takesFirst, takesSecond⟩ := takes
    rw [madeOf, Bool.and_eq_true] at made
    obtain ⟨some, same, allowed⟩ := ihFirst takesFirst made.1
    obtain ⟨more, sameMore, allowedMore⟩ := ihSecond takesSecond made.2
    refine ⟨some ++ more, by rw [same, sameMore, List.append_assoc], ?_⟩
    intro c among
    rcases List.mem_append.mp among with among | among
    · exact allowed c among
    · exact allowedMore c among
  | either first second ihFirst ihSecond =>
    rw [madeOf, Bool.and_eq_true] at made
    rcases takes with takes | takes
    · exact ihFirst takes made.1
    · exact ihSecond takes made.2
  | repeated body least most greedy ih =>
    obtain ⟨times, -, chain⟩ := takes
    induction chain with
    | done place => exact ⟨[], rfl, by simp⟩
    | step first _ ihOthers =>
      obtain ⟨some, same, allowed⟩ := ih first made
      obtain ⟨more, sameMore, allowedMore⟩ := ihOthers
      refine ⟨some ++ more, by rw [same, sameMore, List.append_assoc], ?_⟩
      intro c among
      rcases List.mem_append.mp among with among | among
      · exact allowed c among
      · exact allowedMore c among
  | group number body ih => exact ih takes made

theorem Takes.exists_rest (takes : regex.Takes before behind) : ∃ taken, before.rest = taken ++ behind.rest := by
  obtain ⟨count, -, rfl⟩ := takes.exists_skip
  refine ⟨before.rest.take count, ?_⟩
  rw [Place.rest_skip, List.take_append_drop]

theorem Takes.some_taken (takes : regex.Takes before behind) (needed : regex.needs take = true) :
    ∃ taken, before.rest = taken ++ behind.rest ∧
      ∃ c ∈ taken, ∃ cls, take cls = true ∧ cls.contains c = true := by
  induction regex generalizing before behind with
  | empty => simp [needs] at needed
  | one cls =>
    obtain ⟨c, rest, same, contained, rfl⟩ := takes
    exact ⟨[c], same, c, List.mem_singleton_self c, cls, needed, contained⟩
  | assertion condition => simp [needs] at needed
  | sequence first second ihFirst ihSecond =>
    obtain ⟨between, takesFirst, takesSecond⟩ := takes
    rw [needs, Bool.or_eq_true] at needed
    rcases needed with needed | needed
    · obtain ⟨some, same, c, among, found⟩ := ihFirst takesFirst needed
      obtain ⟨more, sameMore⟩ := takesSecond.exists_rest
      refine ⟨some ++ more, by rw [same, sameMore, List.append_assoc], c, ?_, found⟩
      exact List.mem_append_left _ among
    · obtain ⟨some, same⟩ := takesFirst.exists_rest
      obtain ⟨more, sameMore, c, among, found⟩ := ihSecond takesSecond needed
      refine ⟨some ++ more, by rw [same, sameMore, List.append_assoc], c, ?_, found⟩
      exact List.mem_append_right _ among
  | either first second ihFirst ihSecond =>
    rw [needs, Bool.and_eq_true] at needed
    rcases takes with takes | takes
    · exact ihFirst takes needed.1
    · exact ihSecond takes needed.2
  | repeated body least most greedy ih =>
    rw [needs, Bool.and_eq_true, bne_iff_ne] at needed
    obtain ⟨times, ⟨enough, -⟩, chain⟩ := takes
    cases chain with
    | done => omega
    | @step count _ between _ first others =>
      obtain ⟨some, same, c, among, found⟩ := ih first needed.2
      have takesOthers : (repeated body count none greedy).Takes between behind :=
        ⟨count, ⟨le_rfl, nofun⟩, others⟩
      obtain ⟨more, sameMore⟩ := takesOthers.exists_rest
      refine ⟨some ++ more, by rw [same, sameMore, List.append_assoc], c, ?_, found⟩
      exact List.mem_append_left _ among
  | group number body ih => exact ih takes needed

theorem Takes.opens (takes : regex.Takes before behind) (opens : regex.opensWord = true) :
    Assertion.atWordBoundary before = true := by
  induction regex generalizing before behind with
  | assertion condition =>
    obtain rfl : condition = .wordBoundary := by simpa [opensWord] using opens
    exact takes.1
  | sequence first second ihFirst _ =>
    obtain ⟨between, takesFirst, -⟩ := takes
    exact ihFirst takesFirst opens
  | group number body ih => exact ih takes opens
  | empty | one | either | repeated => simp [opensWord] at opens

theorem Takes.closes (takes : regex.Takes before behind) (closes : regex.closesWord = true) :
    Assertion.atWordBoundary behind = true := by
  induction regex generalizing before behind with
  | assertion condition =>
    obtain rfl : condition = .wordBoundary := by simpa [closesWord] using closes
    obtain ⟨holds, rfl⟩ := takes
    exact holds
  | sequence first second _ ihSecond =>
    obtain ⟨between, -, takesSecond⟩ := takes
    exact ihSecond takesSecond closes
  | group number body ih => exact ih takes closes
  | empty | one | either | repeated => simp [closesWord] at closes

end Reading

/-! ## Matches in a gap -/

section Transfer

variable {take : CharClass → Bool} {check : Assertion → Bool} {regex : Regex} {place other : Place}
  {limit : Nat}

/-- Two texts go on alike for so many characters, and then the first one goes on with a character that is not
allowed, or ends. What an expression takes before that in the first text it takes in the second as well, if its
conditions hold there. -/
theorem Takes.transfer (made : regex.madeOf take check = true)
    (alike : ∀ count < limit, place.rest[count]? = other.rest[count]?)
    (blocked : ∀ c, place.rest[limit]? = some c → ∀ cls, take cls = true → cls.contains c = false)
    (holds : ∀ count ≤ limit, ∀ condition, check condition = true →
      condition.holds (place.skip count) = true → condition.holds (other.skip count) = true)
    {count : Nat} (within : count ≤ limit) {behind : Place} (takes : regex.Takes (place.skip count) behind) :
    ∃ later ≤ limit, count ≤ later ∧ behind = place.skip later ∧
      regex.Takes (other.skip count) (other.skip later) := by
  induction regex generalizing count behind with
  | empty => exact ⟨count, within, le_rfl, takes.symm, rfl⟩
  | one cls =>
    obtain ⟨c, rest, same, contained, rfl⟩ := takes
    have next : place.rest[count]? = some c := by
      rw [← Place.head?_skip, same]
      rfl
    have before : count < limit := by
      rcases Nat.lt_or_eq_of_le within with before | rfl
      · exact before
      · rw [blocked c next cls made] at contained
        contradiction
    have nextOther : (other.skip count).rest.head? = some c := by
      rw [Place.head?_skip, ← alike count before, next]
    obtain ⟨others, sameOther⟩ := List.head?_eq_some_iff.mp nextOther
    refine ⟨count + 1, before, Nat.le_succ count, ?_, c, others, sameOther, contained, ?_⟩
    · rw [Place.skip_succ, Place.next_of_rest same]
    · rw [Place.skip_succ, Place.next_of_rest sameOther]
  | assertion condition =>
    obtain ⟨here, rfl⟩ := takes
    exact ⟨count, within, le_rfl, rfl, holds count within condition made here, rfl⟩
  | sequence first second ihFirst ihSecond =>
    obtain ⟨between, takesFirst, takesSecond⟩ := takes
    rw [madeOf, Bool.and_eq_true] at made
    obtain ⟨middle, short, more, rfl, first⟩ := ihFirst made.1 within takesFirst
    obtain ⟨last, shorter, most, rfl, second⟩ := ihSecond made.2 short takesSecond
    exact ⟨last, shorter, more.trans most, rfl, _, first, second⟩
  | either first second ihFirst ihSecond =>
    rw [madeOf, Bool.and_eq_true] at made
    rcases takes with takes | takes
    · obtain ⟨last, short, more, same, first⟩ := ihFirst made.1 within takes
      exact ⟨last, short, more, same, .inl first⟩
    · obtain ⟨last, short, more, same, second⟩ := ihSecond made.2 within takes
      exact ⟨last, short, more, same, .inr second⟩
  | repeated body least most greedy ih =>
    obtain ⟨times, allowed, chain⟩ := takes
    suffices others : ∃ last ≤ limit, count ≤ last ∧ behind = place.skip last ∧
        Chain body.Takes times (other.skip count) (other.skip last) by
      obtain ⟨last, short, more, same, others⟩ := others
      exact ⟨last, short, more, same, times, allowed, others⟩
    clear allowed
    induction times generalizing count with
    | zero =>
      cases chain
      exact ⟨count, within, le_rfl, rfl, .done _⟩
    | succ times ihTimes =>
      obtain _ | ⟨begun, rest⟩ := chain
      obtain ⟨middle, short, more, rfl, first⟩ := ih made within begun
      obtain ⟨last, shorter, most, same, others⟩ := ihTimes short rest
      exact ⟨last, shorter, more.trans most, same, .step first others⟩
  | group number body ih => exact ih made within takes

end Transfer

/-! ## No match is made -/

/-- No match begins at the place or behind it. -/
def Absent (regex : Regex) (place : Place) : Prop :=
  ∀ start ≤ place.rest.length, ∀ length, ¬ regex.MatchesAt (place.skip start) length

/-- Whether it can be seen from two expressions that replacing the matches of the first one makes no match of
the second one. -/
def makesNo (replacement : List Char) (scrubbed regex : Regex) : Bool :=
  regex.madeOf (·.avoids (replacement.head?.toList ++ replacement.getLast?.toList))
      (fun condition => scrubbed.framed && condition = .wordBoundary)
    && regex.needs (·.avoids replacement)

section MakesNo

variable {replacement : List Char} {scrubbed regex : Regex} {place other before behind : Place} {length : Nat}

theorem Absent.skip (absent : regex.Absent place) {count : Nat} (inside : count ≤ place.rest.length) :
    regex.Absent (place.skip count) := by
  intro start short length
  rw [Place.rest_skip, List.length_drop] at short
  rw [Place.skip_skip]
  exact absent (count + start) (by omega) length

theorem boundaries_of_framed (framed : scrubbed.framed = true) (matched : scrubbed.MatchesAt place length) :
    Assertion.atWordBoundary place = true ∧ Assertion.atWordBoundary (place.skip length) = true := by
  rw [Regex.framed, Bool.and_eq_true] at framed
  exact ⟨matched.2.opens framed.1, matched.2.closes framed.2⟩

/-- A match can not begin in a replacement: it would have to leave it, by the last character. -/
theorem not_takes_replacement (inert : makesNo replacement scrubbed regex = true) {left out : List Char}
    (suffix : left <:+ replacement) (some_left : left ≠ []) (rest : before.rest = left ++ out) :
    ¬ regex.Takes before behind := by
  intro takes
  rw [makesNo, Bool.and_eq_true] at inert
  obtain ⟨taken, same, allowed⟩ := takes.all_taken inert.1
  obtain ⟨again, sameAgain, c, among, cls, free, contained⟩ := takes.some_taken inert.2
  obtain rfl : again = taken := List.append_cancel_right (sameAgain.symm.trans same)
  have stays : again <+: left := by
    have first : again <+: left ++ out := by
      rw [← rest, same]
      exact List.prefix_append _ _
    rcases List.prefix_or_prefix_of_prefix first (List.prefix_append left out) with stays | leaves
    · exact stays
    · have final : left.getLast some_left ∈ again := leaves.subset (List.getLast_mem some_left)
      obtain ⟨cls, avoids, contained⟩ := allowed _ final
      refine absurd ?_ (CharClass.not_mem_of_avoids avoids contained)
      apply List.mem_append_right
      have lasts : replacement.getLast? = some (left.getLast some_left) := by
        obtain ⟨earlier, rfl⟩ := suffix
        rw [List.getLast?_append_of_ne_nil _ some_left, List.getLast?_eq_some_getLast some_left]
      rw [lasts]
      exact List.mem_singleton_self _
  exact CharClass.not_mem_of_avoids free contained (suffix.subset (stays.subset among))

variable (place other) in
/-- A match in a gap of the new text was there in the old one. At the edges of the gap the neighbours may
have changed, but not so that a boundary came about. -/
theorem matchesAt_of_gap (inert : makesNo replacement scrubbed regex = true) {limit : Nat}
    (inside : limit ≤ place.rest.length) (insideOther : limit ≤ other.rest.length)
    (alike : ∀ count < limit, place.rest[count]? = other.rest[count]?)
    (begins : place.previous = other.previous ∨
      (scrubbed.framed = true → Assertion.atWordBoundary other = true))
    (ends : place.rest[limit]? = none ∧ other.rest[limit]? = none ∨
      place.rest[limit]? = replacement.head? ∧
        (scrubbed.framed = true → Assertion.atWordBoundary (other.skip limit) = true))
    {count : Nat} (within : count ≤ limit) (matched : regex.MatchesAt (place.skip count) length) :
    ∃ length, regex.MatchesAt (other.skip count) length := by
  have made := inert
  rw [makesNo, Bool.and_eq_true] at made
  have blocked : ∀ c, place.rest[limit]? = some c → ∀ cls : CharClass,
      cls.avoids (replacement.head?.toList ++ replacement.getLast?.toList) = true →
        cls.contains c = false := by
    intro c next cls avoids
    rw [← Bool.not_eq_true]
    intro contained
    refine CharClass.not_mem_of_avoids avoids contained (List.mem_append_left _ ?_)
    rcases ends with ⟨none, -⟩ | ⟨first, -⟩
    · rw [next] at none
      contradiction
    · rw [← first, next]
      exact List.mem_singleton_self c
  have holds : ∀ count ≤ limit, ∀ condition : Assertion,
      (scrubbed.framed && decide (condition = .wordBoundary)) = true →
        condition.holds (place.skip count) = true → condition.holds (other.skip count) = true := by
    intro count within condition check here
    rw [Bool.and_eq_true, decide_eq_true_iff] at check
    obtain ⟨framed, rfl⟩ := check
    have next : place.rest[count]? = other.rest[count]? ∨
        Assertion.atWordBoundary (other.skip count) = true := by
      rcases Nat.lt_or_eq_of_le within with early | rfl
      · exact .inl (alike count early)
      · rcases ends with ⟨none, noneOther⟩ | ⟨-, boundary⟩
        · exact .inl (none.trans noneOther.symm)
        · exact .inr (boundary framed)
    have previous : (place.skip count).previous = (other.skip count).previous ∨
        Assertion.atWordBoundary (other.skip count) = true := by
      cases count with
      | zero => exact begins.imp_right fun boundary => boundary framed
      | succ count =>
        refine .inl ?_
        rw [Place.previous_skip_succ place (by omega), Place.previous_skip_succ other (by omega)]
        exact alike count within
    rcases next with next | boundary
    · rcases previous with previous | boundary
      · rw [← Place.head?_skip, ← Place.head?_skip] at next
        rw [Assertion.holds, Assertion.atWordBoundary] at here ⊢
        rwa [← previous, ← next]
      · exact boundary
    · exact boundary
  obtain ⟨later, short, more, -, takes⟩ := matched.2.transfer made.1 alike blocked holds within
  refine ⟨later - count, ?_, ?_⟩
  · rw [Place.rest_skip, List.length_drop]
    omega
  · rwa [Place.skip_skip, Nat.add_sub_cancel' more]

/-- A match in front of a replacement was there in the old text. -/
theorem matchesAt_in_front (inert : makesNo replacement scrubbed regex = true) (some_left : replacement ≠ [])
    {start : Nat} (inside : start ≤ place.rest.length)
    (edge : scrubbed.framed = true → Assertion.atWordBoundary (place.skip start) = true)
    {previous : Option Char} {out : List Char}
    (begins : previous = place.previous ∨
      (scrubbed.framed = true → Assertion.atWordBoundary place = true))
    {count : Nat} (early : count < start)
    (matched : regex.MatchesAt
      (Place.skip ⟨previous, place.rest.take start ++ (replacement ++ out)⟩ count) length) :
    ∃ length, regex.MatchesAt (place.skip count) length := by
  have length_gap : (place.rest.take start).length = start := by
    rw [List.length_take]
    omega
  obtain ⟨c, others, rfl⟩ := List.exists_cons_of_ne_nil some_left
  have next : (place.rest.take start ++ (c :: others ++ out))[start]? = some c := by
    rw [List.getElem?_append_right (by omega), length_gap, Nat.sub_self]
    rfl
  have alike : ∀ count < start,
      (place.rest.take start ++ (c :: others ++ out))[count]? = place.rest[count]? := by
    intro count early
    rw [List.getElem?_append_left (by omega), List.getElem?_take_of_lt early]
  exact matchesAt_of_gap _ place inert (by simp; omega) inside alike begins (.inr ⟨next, edge⟩) early.le
    matched

/-- No match of the expression is in the new text, if it is the one whose matches were replaced, or if none was
in the old text. -/
theorem Replaced.absent (inert : makesNo replacement scrubbed regex = true) (some_left : replacement ≠ [])
    {out : List Char} (replaced : scrubbed.Replaced replacement place out)
    (was : regex = scrubbed ∨ regex.Absent place) {previous : Option Char}
    (begins : previous = place.previous ∨
      (scrubbed.framed = true → Assertion.atWordBoundary place = true)) :
    regex.Absent ⟨previous, out⟩ := by
  induction replaced generalizing previous with
  | @clean place nowhere =>
    intro count within length matched
    have past : place.rest[place.rest.length]? = none := List.getElem?_length _
    obtain ⟨length, kept⟩ := matchesAt_of_gap ⟨previous, place.rest⟩ place inert le_rfl le_rfl
      (fun _ _ => rfl) begins (.inl ⟨past, past⟩) within matched
    rcases was with rfl | absent
    · exact nowhere count within length kept
    · exact absent count within length kept
  | @replace place start taken out first inside matched _ ih =>
    have ends := matched.1
    rw [Place.rest_skip, List.length_drop] at ends
    have length_gap : (place.rest.take start).length = start := by
      rw [List.length_take]
      omega
    have edges (framed : scrubbed.framed = true) := boundaries_of_framed framed matched
    intro count within length found
    rw [List.append_assoc] at within found
    rcases Nat.lt_or_ge count start with early | late
    · obtain ⟨length, kept⟩ := matchesAt_in_front inert some_left inside (fun framed => (edges framed).1)
        begins early found
      rcases was with rfl | absent
      · exact first count early length kept
      · exact absent count (by omega) length kept
    · obtain ⟨more, rfl⟩ := Nat.exists_eq_add_of_le late
      rcases Nat.lt_or_ge more replacement.length with amid | behind
      · -- The match is to begin in the replacement.
        have rest : (Place.skip ⟨previous, place.rest.take start ++ (replacement ++ out)⟩
            (start + more)).rest = replacement.drop more ++ out := by
          rw [Place.rest_skip, ← List.drop_drop, List.drop_left' length_gap,
            List.drop_append_of_le_length amid.le]
        refine not_takes_replacement inert (List.drop_suffix more replacement) ?_ rest found.2
        rw [Ne, List.drop_eq_nil_iff]
        omega
      · -- The match is behind the replacement.
        obtain ⟨rest, rfl⟩ := Nat.exists_eq_add_of_le behind
        have skipped := Place.skip_past previous (place.rest.take start) out some_left rest
        rw [length_gap] at skipped
        rw [skipped] at found
        refine ih ?_ (.inr fun framed => ?_) rest ?_ length found
        · exact was.imp_right fun absent => absent.skip (by omega)
        · rw [← Place.skip_skip]
          exact (edges framed).2
        · simp only [List.length_append, length_gap] at within
          show rest ≤ out.length
          omega

theorem replaceAll_of_absent {text : String} (some_taken : regex.TakesSome)
    (absent : regex.Absent ⟨none, text.toList⟩) (replacement : String) :
    regex.replaceAll replacement text = text := by
  have replaced := replaced_replaceAll some_taken replacement text
  generalize same : (regex.replaceAll replacement text).toList = out at replaced
  cases replaced with
  | clean => exact String.toList_inj.mp same
  | replace first inside matched others => exact absurd matched (absent _ inside _)

end MakesNo

end Regex

end LlmTelemetry
