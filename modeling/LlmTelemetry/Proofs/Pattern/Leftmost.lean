import LlmTelemetry.Proofs.Pattern.Visits
import Mathlib.Data.List.TakeWhile
/-!
# The search finds the leftmost match

While a search goes through a text, its threads stand at all addresses that a match could have come to by
then, each with the earliest beginning that leads there, unless a match was found that began no later.
So the match that is found in the end is one, and none begins before it.
-/

namespace LlmTelemetry

namespace Program

variable {program : Program}

/-! ## Where a match can be on its way -/

/-- A match that begins `start` characters behind the origin can be at the address when so many characters
have been passed. -/
inductive Reaches (program : Program) (origin : Place) (start : Nat) :
    (passed address : Nat) → Prop
  | start (inside : start ≤ origin.rest.length) : Reaches program origin start start 0
  | stay {passed address next : Nat} (before : Reaches program origin start passed address)
    (move : program.Move ⟨address, origin.skip passed⟩ ⟨next, origin.skip passed⟩) :
    Reaches program origin start passed next
  | pass {passed address next : Nat} (before : Reaches program origin start passed address)
    (inside : passed < origin.rest.length)
    (move : program.Move ⟨address, origin.skip passed⟩ ⟨next, origin.skip (passed + 1)⟩) :
    Reaches program origin start (passed + 1) next

namespace Reaches

variable {origin : Place} {start passed address : Nat}

theorem start_le (reaches : Reaches program origin start passed address) : start ≤ passed := by
  induction reaches with
  | start => exact Nat.le_refl start
  | stay _ _ ih => exact ih
  | pass _ _ _ ih => exact ih.trans (Nat.le_succ _)

theorem inside (reaches : Reaches program origin start passed address) :
    passed ≤ origin.rest.length := by
  induction reaches with
  | start inside => exact inside
  | stay _ _ ih => exact ih
  | pass _ inside _ _ => exact inside

theorem path (reaches : Reaches program origin start passed address) :
    ∃ count, program.Path count ⟨0, origin.skip start⟩ ⟨address, origin.skip passed⟩ := by
  induction reaches with
  | start => exact ⟨0, .done _⟩
  | stay _ move ih | pass _ _ move ih =>
    obtain ⟨count, path⟩ := ih
    exact ⟨count + 1, path.trans (.single move)⟩

theorem of_path {count : Nat} {spot out : Spot} (path : program.Path count spot out)
    (reaches : Reaches program origin start passed spot.address)
    (here : spot.place = origin.skip passed) :
    ∃ further, out.place = origin.skip further ∧ Reaches program origin start further out.address := by
  induction path generalizing passed with
  | done spot => exact ⟨passed, here, reaches⟩
  | @step count spot next out move _ ih =>
    obtain ⟨address, place⟩ := spot
    obtain ⟨further, there⟩ := next
    subst here
    obtain same | ⟨more, behind⟩ := move.place
    · subst same
      exact ih (reaches.stay move) rfl
    · rw [← Place.skip_succ] at behind
      subst behind
      rw [Place.rest_skip, ne_eq, List.drop_eq_nil_iff, Nat.not_le] at more
      exact ih (reaches.pass more move) rfl

end Reaches

theorem skip_injective {origin : Place} {first second : Nat} (first_inside : first ≤ origin.rest.length)
    (second_inside : second ≤ origin.rest.length) (same : origin.skip first = origin.skip second) :
    first = second := by
  have rest := congrArg (List.length ∘ Place.rest) same
  simp only [Function.comp_apply, Place.rest_skip, List.length_drop] at rest
  omega

theorem matchesAt_iff_reaches {regex : Regex} {origin : Place} {start length : Nat}
    (inside : start ≤ origin.rest.length) :
    regex.MatchesAt (origin.skip start) length ↔
      Reaches regex.program origin start (start + length) regex.program.code.size := by
  rw [Regex.MatchesAt, takes_iff_path, Place.skip_skip, Place.rest_skip, List.length_drop]
  constructor
  · rintro ⟨short, count, path⟩
    obtain ⟨further, there, reaches⟩ := Reaches.of_path path (.start inside) rfl
    obtain rfl := skip_injective (by omega) reaches.inside there
    exact reaches
  · intro reaches
    have all := reaches.inside
    exact ⟨by omega, reaches.path⟩

/-! ## What a search knows on its way -/

def Finds (search : Search) (start : Nat) : Prop :=
  ∃ span, search.found = some span ∧ span.start ≤ start

/-- What holds of a search at every place. -/
structure Sound (program : Program) (origin : Place) (passed : Nat) (search : Search) : Prop where
  reached : ∀ thread ∈ search.threads, Reaches program origin thread.start passed thread.address
  ordered : Ordered search.threads
  found : ∀ span, search.found = some span →
    span.start + span.length ≤ passed ∧
      Reaches program origin span.start (span.start + span.length) program.code.size
  /-- The threads that go on are preferred to the match. -/
  preferred : ∀ span, search.found = some span → ∀ thread ∈ search.threads, thread.start ≤ span.start

/-- A search that has come to a place with the threads that took the character before it. -/
structure Arrived (program : Program) (origin : Place) (passed : Nat) (search : Search) : Prop
    extends Sound program origin passed search where
  missed : ∀ start before address next, passed = before + 1 →
    Reaches program origin start before address →
    program.Move ⟨address, origin.skip before⟩ ⟨next, origin.skip passed⟩ →
      Stands search.threads start next ∨ Finds search start
  ended : ∀ start stop, stop < passed → Reaches program origin start stop program.code.size →
    Finds search start

/-- A search that has visited the addresses at a place. -/
structure Looked (program : Program) (origin : Place) (passed : Nat) (search : Search) : Prop
    extends Sound program origin passed search where
  missed : ∀ start address, address < program.code.size → Reaches program origin start passed address →
    Stands search.threads start address ∨ Finds search start
  ended : ∀ start stop, stop ≤ passed → Reaches program origin start stop program.code.size →
    Finds search start

section Look

variable {origin : Place} {passed : Nat} {search : Search}

def entering (passed : Nat) (search : Search) : List Thread :=
  if search.found.isSome then search.threads else search.threads ++ [⟨passed, 0⟩]

theorem Arrived.ordered_entering (arrived : Arrived program origin passed search) :
    Ordered (entering passed search) := by
  unfold entering
  split
  · exact arrived.ordered
  · refine List.pairwise_append.mpr ⟨arrived.ordered, List.pairwise_singleton _ _, ?_⟩
    intro thread member other last
    rw [List.mem_singleton.mp last]
    exact (arrived.reached thread member).start_le

theorem Arrived.reached_entering (arrived : Arrived program origin passed search)
    (inside : passed ≤ origin.rest.length) :
    ∀ thread ∈ entering passed search, Reaches program origin thread.start passed thread.address := by
  intro thread member
  unfold entering at member
  split at member
  · exact arrived.reached thread member
  · obtain member | last := List.mem_append.mp member
    · exact arrived.reached thread member
    · rw [List.mem_singleton.mp last]
      exact .start inside

theorem mem_entering {thread : Thread} (member : thread ∈ search.threads) :
    thread ∈ entering passed search := by
  unfold entering
  split
  · exact member
  · exact List.mem_append_left _ member

theorem Arrived.preferred_entering (arrived : Arrived program origin passed search) {span : Span}
    (found : search.found = some span) :
    ∀ thread ∈ entering passed search, thread.start ≤ span.start := by
  rw [entering, found, Option.isSome_some, if_pos rfl]
  exact arrived.preferred span found

/-- What a look knows of the threads that it visited. -/
structure Seen (program : Program) (origin : Place) (passed : Nat) (search : Search)
    (visited : List Thread) : Prop where
  reached : ∀ thread ∈ visited, Reaches program origin thread.start passed thread.address
  ordered : Ordered visited
  inside : ∀ thread ∈ visited, thread.address ≤ program.code.size
  preferred : ∀ span, search.found = some span → ∀ thread ∈ visited, thread.start ≤ span.start
  all : ∀ start address, address ≤ program.code.size → Reaches program origin start passed address →
    Stands visited start address ∨ Finds search start

variable {visited : List Thread}

/-- Every address that a match could have come to was visited by a thread that began no later. -/
theorem Arrived.visited_all (arrived : Arrived program origin passed search)
    (visits : Visits program (origin.skip passed) (program.code.size + 1) program.unvisited
      (entering passed search) visited)
    {start address : Nat} (reaches : Reaches program origin start passed address)
    (inside : address ≤ program.code.size) :
    Stands visited start address ∨ Finds search start := by
  have enough : program.unvisited.count true ≤ program.code.size + 1 := count_unvisited.le
  have ordered := arrived.ordered_entering
  have entered (thread : Thread) (member : thread ∈ entering passed search)
      (inside : thread.address ≤ program.code.size) : Stands visited thread.start thread.address :=
    visits.stands ordered enough thread member (fresh_unvisited.mpr inside)
  -- By the way in which the match came here: it enters with a thread, or goes on from one that was visited.
  generalize here : passed = there at reaches
  induction reaches with
  | start =>
    subst here
    cases found : search.found with
    | none =>
      refine .inl (entered ⟨passed, 0⟩ ?_ inside)
      rw [entering, found]
      exact List.mem_append_right _ List.mem_cons_self
    | some span =>
      have ended := (arrived.found span found).1
      exact .inr ⟨span, found, by omega⟩
  | @stay there address next before move ih =>
    subst here
    obtain ⟨thread, member, rfl, early⟩ | finds := ih move.address_lt.le rfl
    · have onward : ⟨thread.start, next⟩ ∈ program.nexts (origin.skip passed) thread :=
        mem_nexts.mpr ⟨rfl, move⟩
      have stands := visits.closed ordered enough thread member _ onward
        (fresh_unvisited.mpr inside)
      exact .inl (stands.mono (List.Subset.refl _) early)
    · exact .inr finds
  | @pass there address next before _ move =>
    obtain ⟨thread, member, rfl, early⟩ | finds :=
      arrived.missed start there address next here before (here ▸ move)
    · exact .inl ((entered thread (mem_entering member) inside).mono (List.Subset.refl _) early)
    · exact .inr finds

theorem Arrived.seen (arrived : Arrived program origin passed search)
    (inside : passed ≤ origin.rest.length)
    (visits : Visits program (origin.skip passed) (program.code.size + 1) program.unvisited
      (entering passed search) visited) :
    Seen program origin passed search visited where
  reached := by
    refine visits.forall_mem (arrived.reached_entering inside) ?_
    intro thread next reaches onward
    obtain ⟨same, move⟩ := mem_nexts.mp onward
    rw [same]
    exact reaches.stay move
  ordered := visits.ordered arrived.ordered_entering
  inside thread member := fresh_unvisited.mp (visits.fresh_of_mem thread member)
  preferred span found := by
    refine visits.forall_mem (arrived.preferred_entering found) ?_
    intro thread next early onward
    rwa [(mem_nexts.mp onward).1]
  all _ _ inside reaches := arrived.visited_all visits reaches inside

theorem Seen.address_of_over (seen : Seen program origin passed search visited) {thread : Thread}
    (member : thread ∈ visited) (matched : program.isOver thread = true) :
    thread.address = program.code.size := by
  rw [isOver, Option.isNone_iff_eq_none, Array.getElem?_eq_none_iff] at matched
  exact Nat.le_antisymm (seen.inside thread member) matched

theorem isOver_of_address {thread : Thread} (last : thread.address = program.code.size) :
    program.isOver thread = true := by
  rw [isOver, last, Array.getElem?_eq_none (Nat.le_refl _)]
  rfl

/-- No thread has come to the end: all go on. -/
theorem Seen.looked_of_none (seen : Seen program origin passed search visited)
    (arrived : Arrived program origin passed search)
    (none_over : ∀ thread ∈ visited, ¬ program.isOver thread = true) :
    Looked program origin passed { threads := visited, found := search.found } where
  reached := seen.reached
  ordered := seen.ordered
  found := arrived.found
  preferred := seen.preferred
  missed start address inside reaches := seen.all start address inside.le reaches
  ended start stop inside reaches := by
    obtain before | rfl := Nat.lt_or_eq_of_le inside
    · exact arrived.ended start stop before reaches
    · obtain ⟨thread, member, last, -⟩ | finds := seen.all start _ (Nat.le_refl _) reaches
      · exact absurd (isOver_of_address last) (none_over thread member)
      · exact finds

/-- A thread has come to the end: it is the match, and those preferred to it go on. -/
theorem Seen.looked_of_over {before after : List Thread} {thread : Thread}
    (seen : Seen program origin passed search (before ++ thread :: after))
    (arrived : Arrived program origin passed search) (matched : program.isOver thread = true)
    (on : ∀ earlier ∈ before, ¬ program.isOver earlier = true) :
    Looked program origin passed
      { threads := before, found := some ⟨thread.start, passed - thread.start⟩ } := by
  have member : thread ∈ before ++ thread :: after := List.mem_append_right _ List.mem_cons_self
  have last := seen.address_of_over member matched
  have reaches := seen.reached thread member
  have started := reaches.start_le
  have ends : thread.start + (passed - thread.start) = passed := by omega
  obtain ⟨ordered, after_ordered, before_early⟩ := List.pairwise_append.mp seen.ordered
  have after_late := (List.pairwise_cons.mp after_ordered).1
  let next : Search := { threads := before, found := some ⟨thread.start, passed - thread.start⟩ }
  have finds {start : Nat} (early : thread.start ≤ start) : Finds next start := ⟨_, rfl, early⟩
  have still {start : Nat} (given : Finds search start) : Finds next start := by
    obtain ⟨span, found, early⟩ := given
    exact finds ((seen.preferred span found thread member).trans early)
  -- The threads behind this one are dropped. They began no earlier, so nothing is missed with them.
  have missed (start address : Nat) (inside : address ≤ program.code.size)
      (reaches : Reaches program origin start passed address) :
      Stands before start address ∨ Finds next start := by
    obtain ⟨other, member, here, early⟩ | given := seen.all start address inside reaches
    · obtain member | later := List.mem_append.mp member
      · exact .inl ⟨other, member, here, early⟩
      · obtain rfl | later := List.mem_cons.mp later
        · exact .inr (finds early)
        · exact .inr (finds ((after_late other later).trans early))
    · exact .inr (still given)
  refine ⟨⟨?_, ordered, ?_, ?_⟩, fun start address inside => missed start address inside.le, ?_⟩
  · exact fun other member => seen.reached other (List.mem_append_left _ member)
  · rintro span ⟨⟩
    rw [ends]
    exact ⟨Nat.le_refl _, last ▸ reaches⟩
  · rintro span ⟨⟩ other member
    exact before_early other member thread List.mem_cons_self
  · intro start stop inside ending
    obtain earlier | rfl := Nat.lt_or_eq_of_le inside
    · exact still (arrived.ended start stop earlier ending)
    · obtain ⟨other, member, there, -⟩ | finds := missed start _ (Nat.le_refl _) ending
      · exact absurd (isOver_of_address there) (on other member)
      · exact finds

theorem Arrived.look (arrived : Arrived program origin passed search)
    (inside : passed ≤ origin.rest.length) :
    Looked program origin passed (program.look (origin.skip passed) passed search) := by
  have seen := arrived.seen inside (visits program (origin.skip passed) _ _ _)
  unfold entering at seen
  simp only [Program.look]
  generalize program.visit (origin.skip passed) (program.code.size + 1) program.unvisited
    (if search.found.isSome then search.threads else search.threads ++ [⟨passed, 0⟩]) = visited at seen ⊢
  cases first : visited.find? program.isOver with
  | none =>
    have on := List.find?_eq_none.mp first
    have all : visited.takeWhile (!program.isOver ·) = visited :=
      List.takeWhile_eq_self_iff.mpr fun thread member => by simpa using on thread member
    rw [all]
    exact seen.looked_of_none arrived on
  | some thread =>
    obtain ⟨matched, before, after, rfl, on⟩ := List.find?_eq_some_iff_append.mp first
    have cut : (before ++ thread :: after).takeWhile (!program.isOver ·) = before := by
      rw [List.takeWhile_append_of_pos on, List.takeWhile_cons_of_neg (by simp [matched]),
        List.append_nil]
    rw [cut]
    exact seen.looked_of_over arrived matched fun earlier member => by simpa using on earlier member

/-- The search at the next place. -/
theorem Looked.advance (looked : Looked program origin passed search) {c : Char} {rest : List Char}
    (follows : (origin.skip passed).rest = c :: rest) :
    Arrived program origin (passed + 1)
      { search with threads := search.threads.filterMap (program.advance? c) } := by
  have advanced {thread next : Thread} : program.advance? c thread = some next ↔
      next.start = thread.start ∧
        program.Move ⟨thread.address, origin.skip passed⟩ ⟨next.address, origin.skip (passed + 1)⟩ := by
    rw [Place.skip_succ]
    exact advance?_eq_some follows
  have inside : passed < origin.rest.length := by
    by_contra far
    rw [Place.rest_skip, List.drop_eq_nil_of_le (Nat.le_of_not_lt far)] at follows
    contradiction
  refine ⟨⟨?_, ?_, ?_, ?_⟩, ?_, ?_⟩
  · intro next member
    obtain ⟨thread, before, moved⟩ := List.mem_filterMap.mp member
    obtain ⟨same, move⟩ := advanced.mp moved
    rw [same]
    exact (looked.reached thread before).pass inside move
  · refine List.Pairwise.filterMap _ ?_ looked.ordered
    intro thread other le next moved next' moved'
    rw [(advanced.mp moved).1, (advanced.mp moved').1]
    exact le
  · intro span found
    obtain ⟨ended, reaches⟩ := looked.found span found
    exact ⟨ended.trans (Nat.le_succ passed), reaches⟩
  · intro span found next member
    obtain ⟨thread, before, moved⟩ := List.mem_filterMap.mp member
    rw [(advanced.mp moved).1]
    exact looked.preferred span found thread before
  · intro start before address next here reaches move
    obtain rfl := Nat.succ.inj here
    obtain ⟨thread, member, rfl, early⟩ | finds :=
      looked.missed start address move.address_lt reaches
    · refine .inl ⟨⟨thread.start, next⟩, ?_, rfl, early⟩
      exact List.mem_filterMap.mpr ⟨thread, member, advanced.mpr ⟨rfl, move⟩⟩
    · exact .inr finds
  · exact fun start stop inside => looked.ended start stop (Nat.le_of_lt_succ inside)

/-- When no thread goes on, no match is missed that ends later. -/
theorem Looked.finds_later (looked : Looked program origin passed search) {c : Char} {rest : List Char}
    (follows : (origin.skip passed).rest = c :: rest) {span : Span} (found : search.found = some span)
    (none_left : search.threads.filterMap (program.advance? c) = []) {start further address : Nat}
    (reaches : Reaches program origin start further address) (later : passed < further) :
    Finds search start := by
  induction reaches with
  | start =>
    have ended := (looked.found span found).1
    exact ⟨span, found, by omega⟩
  | stay _ _ ih => exact ih later
  | @pass before address next came _ move ih =>
    obtain here | later := Nat.lt_or_eq_of_le (Nat.le_of_lt_succ later)
    · exact ih here
    · subst later
      have arrived := looked.advance follows
      rw [none_left] at arrived
      obtain ⟨thread, member, -⟩ | finds := arrived.missed start _ _ _ rfl came move
      · exact absurd member List.not_mem_nil
      · exact finds

end Look

/-- The span, if there is one, is a match, and no match begins before it. -/
structure Leftmost (program : Program) (origin : Place) (result : Option Span) : Prop where
  ends : ∀ span, result = some span →
    Reaches program origin span.start (span.start + span.length) program.code.size
  earliest : ∀ start stop, Reaches program origin start stop program.code.size →
    ∃ span, result = some span ∧ span.start ≤ start

theorem Arrived.searchFrom {origin : Place} {passed : Nat} {search : Search}
    (arrived : Arrived program origin passed search) {previous : Option Char} {rest : List Char}
    (here : origin.skip passed = ⟨previous, rest⟩) (inside : passed ≤ origin.rest.length) :
    Leftmost program origin (program.searchFrom search previous passed rest) := by
  induction rest generalizing passed search previous with
  | nil =>
    have looked := arrived.look inside
    rw [here] at looked
    have at_end : origin.rest.length ≤ passed := by
      have rest := congrArg Place.rest here
      rwa [Place.rest_skip, List.drop_eq_nil_iff] at rest
    exact ⟨fun span found => (looked.found span found).2,
      fun start stop reaches => looked.ended start stop (reaches.inside.trans at_end) reaches⟩
  | cons c rest ih =>
    have looked := arrived.look inside
    have follows : (origin.skip passed).rest = c :: rest := by rw [here]
    rw [here] at looked
    have next := looked.advance follows
    simp only [Program.searchFrom]
    split
    · rename_i done
      obtain ⟨no_threads, has_match⟩ := (Bool.and_eq_true _ _).mp done
      have none_left := List.isEmpty_iff.mp no_threads
      obtain ⟨span, found⟩ := Option.isSome_iff_exists.mp has_match
      refine ⟨fun span found => (looked.found span found).2, fun start stop reaches => ?_⟩
      obtain later | before := Nat.lt_or_ge passed stop
      · exact looked.finds_later follows found none_left reaches later
      · exact looked.ended start stop before reaches
    · refine ih next ?_ ?_
      · rw [Place.skip_succ, here]
        rfl
      · have length := congrArg List.length follows
        rw [Place.rest_skip, List.length_drop, List.length_cons] at length
        omega

theorem leftmost_find? (program : Program) (place : Place) :
    Leftmost program place (program.find? place.previous place.rest) := by
  refine Arrived.searchFrom ⟨⟨?_, .nil, ?_, ?_⟩, ?_, ?_⟩ rfl (Nat.zero_le _)
  · exact fun thread member => absurd member List.not_mem_nil
  · exact fun span found => absurd found (by simp)
  · exact fun span found => absurd found (by simp)
  · exact fun start before address next here => absurd here (by simp)
  · exact fun start stop before => absurd before (Nat.not_lt_zero stop)

variable {regex : Regex} {place : Place} {start length : Nat}

theorem matchesAt_of_find?
    (found : regex.program.find? place.previous place.rest = some ⟨start, length⟩) :
    start ≤ place.rest.length ∧ regex.MatchesAt (place.skip start) length := by
  have ends := (leftmost_find? regex.program place).ends _ found
  have inside : start ≤ place.rest.length := ends.start_le.trans ends.inside
  exact ⟨inside, (matchesAt_iff_reaches inside).mpr ends⟩

/-- No match begins before the one that is found, and there is none if none is found. -/
theorem find?_earliest (inside : start ≤ place.rest.length)
    (given : regex.MatchesAt (place.skip start) length) :
    ∃ first taken, regex.program.find? place.previous place.rest = some ⟨first, taken⟩ ∧
      first ≤ start := by
  obtain ⟨⟨first, taken⟩, found, early⟩ := (leftmost_find? regex.program place).earliest start _
    ((matchesAt_iff_reaches inside).mp given)
  exact ⟨first, taken, found, early⟩

end Program

end LlmTelemetry
