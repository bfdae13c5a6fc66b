import LlmTelemetry.Proofs.Pattern.Paths
/-!
# Visiting the addresses of a program

At a place of the text the threads go on as far as they can without taking a character. They visit all
addresses that they can come to so, and of the threads that can come to an address the one that
began earliest is the one that visits it.
-/

namespace LlmTelemetry

namespace Program

variable {program : Program}

/-! ## Moves of threads -/

theorem Move.address_lt {spot next : Spot} (move : program.Move spot next) :
    spot.address < program.code.size := by
  by_contra far
  rw [Move, Array.getElem?_eq_none (Nat.le_of_not_lt far)] at move
  exact move

theorem Move.place {spot next : Spot} (move : program.Move spot next) :
    next.place = spot.place ∨ spot.place.rest ≠ [] ∧ next.place = spot.place.next := by
  obtain ⟨address, previous, rest⟩ := spot
  unfold Move at move
  split at move
  · obtain ⟨c, others, rfl, -, rfl⟩ := move
    exact .inr ⟨List.cons_ne_nil c others, rfl⟩
  · obtain ⟨-, rfl⟩ := move
    exact .inl rfl
  · subst move
    exact .inl rfl
  · obtain rfl | rfl := move
    · exact .inl rfl
    · exact .inl rfl
  · exact move.elim

theorem mem_nexts {place : Place} {thread next : Thread} :
    next ∈ program.nexts place thread ↔
      next.start = thread.start ∧ program.Move ⟨thread.address, place⟩ ⟨next.address, place⟩ := by
  obtain ⟨start, address⟩ := next
  obtain ⟨previous, rest⟩ := place
  cases found : program.code[thread.address]? with
  | none => simp [nexts, Move, found]
  | some instruction =>
    cases instruction with
    | take cls =>
      -- A character that was taken is behind the place, so this is another place.
      have moved : ¬ program.Move ⟨thread.address, ⟨previous, rest⟩⟩ ⟨address, ⟨previous, rest⟩⟩ := by
        simp only [Move, found]
        rintro ⟨c, others, rfl, -, same⟩
        simp at same
      simp [nexts, found, moved]
    | check condition => simp [nexts, Move, found]; tauto
    | jump target => simp [nexts, Move, found]
    | fork preferred other => simp [nexts, Move, found]; tauto

theorem advance?_eq_some {place : Place} {c : Char} {rest : List Char} {thread next : Thread}
    (follows : place.rest = c :: rest) :
    program.advance? c thread = some next ↔
      next.start = thread.start ∧ program.Move ⟨thread.address, place⟩ ⟨next.address, place.next⟩ := by
  obtain ⟨start, address⟩ := next
  obtain ⟨previous, rest⟩ := place
  cases follows
  cases found : program.code[thread.address]? with
  | none => simp [advance?, Move, found]
  | some instruction =>
    cases instruction with
    | take cls => simp [advance?, Move, found, Place.next]; tauto
    | check condition => simp [advance?, Move, found, Place.next]
    | jump target => simp [advance?, Move, found, Place.next]
    | fork preferred other => simp [advance?, Move, found, Place.next]

/-! ## Visiting addresses -/

/-- Threads with an earlier beginning come first. -/
abbrev Ordered (threads : List Thread) : Prop :=
  threads.Pairwise (·.start ≤ ·.start)

/-- One of the threads is at the address and began no later. -/
def Stands (threads : List Thread) (start address : Nat) : Prop :=
  ∃ thread ∈ threads, thread.address = address ∧ thread.start ≤ start

theorem Stands.mono {threads others : List Thread} {start later address : Nat}
    (stands : Stands threads start address) (subset : threads ⊆ others) (le : start ≤ later) :
    Stands others later address := by
  obtain ⟨thread, member, here, early⟩ := stands
  exact ⟨thread, subset member, here, early.trans le⟩

def Fresh (fresh : Array Bool) (address : Nat) : Prop :=
  fresh[address]? = some true

theorem getD_eq_true {fresh : Array Bool} {address : Nat} :
    fresh.getD address false = true ↔ Fresh fresh address := by
  rw [Fresh, Array.getD_eq_getD_getElem?]
  cases fresh[address]? <;> simp

theorem fresh_unvisited {address : Nat} :
    Fresh program.unvisited address ↔ address ≤ program.code.size := by
  simp only [Fresh, unvisited, Array.getElem?_replicate, Option.ite_none_right_eq_some, and_true,
    Nat.lt_succ_iff]

theorem count_unvisited : program.unvisited.count true = program.code.size + 1 := by
  simp [unvisited]

theorem fresh_set {fresh : Array Bool} {address other : Nat} :
    Fresh (fresh.setIfInBounds address false) other ↔ other ≠ address ∧ Fresh fresh other := by
  rw [Fresh, Fresh, Array.getElem?_setIfInBounds]
  by_cases same : address = other
  · simp [same]
  · simp [same, Ne.symm same]

theorem count_pos {fresh : Array Bool} {address : Nat} (given : Fresh fresh address) :
    0 < fresh.count true :=
  Array.count_pos_iff.mpr (Array.mem_of_getElem? given)

theorem count_set {fresh : Array Bool} {address : Nat} (given : Fresh fresh address) :
    (fresh.setIfInBounds address false).count true + 1 = fresh.count true := by
  have positive := count_pos given
  obtain ⟨inside, there⟩ := Array.getElem?_eq_some_iff.mp given
  rw [Array.setIfInBounds, dif_pos inside, Array.count_set inside, there]
  simp
  omega

/-- How a visit goes: a thread whose address was visited before is dropped, and one that is visited is
followed by those that it goes on as. -/
inductive Visits (program : Program) (place : Place) :
    Nat → Array Bool → List Thread → List Thread → Prop
  | none (count : Nat) (fresh : Array Bool) : Visits program place count fresh [] []
  | stopped (fresh : Array Bool) (threads : List Thread) : Visits program place 0 fresh threads []
  | drop {count : Nat} {fresh : Array Bool} {thread : Thread} {threads visited : List Thread}
    (stale : ¬ Fresh fresh thread.address)
    (others : Visits program place count fresh threads visited) :
    Visits program place count fresh (thread :: threads) visited
  | visit {count : Nat} {fresh : Array Bool} {thread : Thread} {threads visited : List Thread}
    (given : Fresh fresh thread.address)
    (others : Visits program place count (fresh.setIfInBounds thread.address false)
      (program.nexts place thread ++ threads) visited) :
    Visits program place (count + 1) fresh (thread :: threads) (thread :: visited)

theorem visits (program : Program) (place : Place) (count : Nat) (fresh : Array Bool)
    (threads : List Thread) :
    Visits program place count fresh threads (program.visit place count fresh threads) := by
  induction count generalizing fresh threads with
  | zero => exact .stopped fresh threads
  | succ count ih =>
    induction threads with
    | nil => exact .none (count + 1) fresh
    | cons thread threads rest =>
      by_cases given : Fresh fresh thread.address
      · have known := getD_eq_true.mpr given
        rw [visit, List.dropWhile_cons_of_neg (by simp only [known]; decide)]
        exact .visit given (ih _ _)
      · have known : fresh.getD thread.address false = false := by
          rw [← Bool.not_eq_true, getD_eq_true]
          exact given
        have skipped : program.visit place (count + 1) fresh (thread :: threads) =
            program.visit place (count + 1) fresh threads := by
          rw [visit, List.dropWhile_cons_of_pos (by simp only [known]; decide), visit]
        rw [skipped]
        exact .drop given rest

namespace Visits

variable {place : Place} {count : Nat} {fresh : Array Bool} {threads visited : List Thread}

/-- What holds of the threads and goes on from one to the next holds of all that are visited. -/
theorem forall_mem (visits : Visits program place count fresh threads visited)
    {holds : Thread → Prop} (given : ∀ thread ∈ threads, holds thread)
    (goes_on : ∀ thread next, holds thread → next ∈ program.nexts place thread → holds next) :
    ∀ thread ∈ visited, holds thread := by
  induction visits with
  | none | stopped => simp
  | drop _ _ ih => exact ih fun other member => given other (List.mem_cons_of_mem _ member)
  | @visit count fresh thread threads visited _ _ ih =>
    rw [List.forall_mem_cons] at given ⊢
    refine ⟨given.1, ih fun other member => ?_⟩
    obtain next | member := List.mem_append.mp member
    · exact goes_on thread other given.1 next
    · exact given.2 other member

theorem fresh_of_mem (visits : Visits program place count fresh threads visited) :
    ∀ thread ∈ visited, Fresh fresh thread.address := by
  induction visits with
  | none | stopped => simp
  | drop _ _ ih => exact ih
  | visit given _ ih =>
    rw [List.forall_mem_cons]
    exact ⟨given, fun other member => (fresh_set.mp (ih other member)).2⟩

/-- All that are visited after the first thread began no earlier. -/
theorem start_le (visits : Visits program place count fresh threads visited) {start : Nat}
    (later : ∀ thread ∈ threads, start ≤ thread.start) : ∀ thread ∈ visited, start ≤ thread.start :=
  visits.forall_mem later fun _ _ given next => (mem_nexts.mp next).1 ▸ given

theorem ordered_nexts {thread : Thread} (ordered : Ordered (thread :: threads)) :
    Ordered (program.nexts place thread ++ threads) := by
  obtain ⟨later, others⟩ := List.pairwise_cons.mp ordered
  refine List.pairwise_append.mpr ⟨?_, others, ?_⟩
  · apply List.pairwise_of_forall_mem_list
    intro first member second other
    rw [(mem_nexts.mp member).1, (mem_nexts.mp other).1]
  · intro next member other rest
    rw [(mem_nexts.mp member).1]
    exact later other rest

theorem nexts_later {thread : Thread} (ordered : Ordered (thread :: threads)) :
    ∀ other ∈ program.nexts place thread ++ threads, thread.start ≤ other.start := by
  intro other member
  obtain next | member := List.mem_append.mp member
  · rw [(mem_nexts.mp next).1]
  · exact (List.pairwise_cons.mp ordered).1 other member

theorem ordered (visits : Visits program place count fresh threads visited)
    (ordered : Ordered threads) : Ordered visited := by
  induction visits with
  | none | stopped => exact .nil
  | drop _ _ ih => exact ih (List.pairwise_cons.mp ordered).2
  | visit _ others ih =>
    exact List.pairwise_cons.mpr
      ⟨others.start_le (nexts_later ordered), ih (ordered_nexts ordered)⟩

/-- At every fresh address to which a thread came one is visited that began no later. -/
theorem stands (visits : Visits program place count fresh threads visited)
    (ordered : Ordered threads) (enough : fresh.count true ≤ count) :
    ∀ thread ∈ threads, Fresh fresh thread.address →
      Stands visited thread.start thread.address := by
  induction visits with
  | none => simp
  | stopped =>
    intro thread _ given
    have positive := count_pos given
    omega
  | drop stale _ ih =>
    rw [List.forall_mem_cons]
    exact ⟨fun given => absurd given stale, ih (List.pairwise_cons.mp ordered).2 enough⟩
  | @visit count fresh thread threads visited given _ ih =>
    intro other member new
    have left := count_set given
    by_cases same : other.address = thread.address
    · refine ⟨thread, List.mem_cons_self, same.symm, ?_⟩
      obtain rfl | member := List.mem_cons.mp member
      · exact Nat.le_refl _
      · exact (List.pairwise_cons.mp ordered).1 other member
    · have later : other ∈ program.nexts place thread ++ threads := by
        obtain rfl | member := List.mem_cons.mp member
        · exact absurd rfl same
        · exact List.mem_append_right _ member
      exact (ih (ordered_nexts ordered) (by omega) other later (fresh_set.mpr ⟨same, new⟩)).mono
        (List.subset_cons_self _ _) (Nat.le_refl _)

/-- Where a visited thread goes on at a fresh address, one is visited that began no later. -/
theorem closed (visits : Visits program place count fresh threads visited)
    (ordered : Ordered threads) (enough : fresh.count true ≤ count) :
    ∀ thread ∈ visited, ∀ next ∈ program.nexts place thread, Fresh fresh next.address →
      Stands visited thread.start next.address := by
  induction visits with
  | none | stopped => simp
  | drop _ _ ih => exact ih (List.pairwise_cons.mp ordered).2 enough
  | @visit count fresh thread threads visited given others ih =>
    have left := count_set given
    have goes_on : Ordered (program.nexts place thread ++ threads) := ordered_nexts ordered
    intro other member next onward new
    by_cases same : next.address = thread.address
    · refine ⟨thread, List.mem_cons_self, same.symm, ?_⟩
      obtain rfl | member := List.mem_cons.mp member
      · exact Nat.le_refl _
      · exact others.start_le (nexts_later ordered) other member
    · have fresh_next := fresh_set.mpr ⟨same, new⟩
      obtain rfl | member := List.mem_cons.mp member
      · have stands := others.stands goes_on (by omega) next (List.mem_append_left _ onward) fresh_next
        rw [(mem_nexts.mp onward).1] at stands
        exact stands.mono (List.subset_cons_self _ _) (Nat.le_refl _)
      · exact (ih goes_on (by omega) other member next onward fresh_next).mono
          (List.subset_cons_self _ _) (Nat.le_refl _)

end Visits

end Program

end LlmTelemetry
