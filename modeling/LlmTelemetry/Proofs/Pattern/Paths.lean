import LlmTelemetry.Pattern.Program
import LlmTelemetry.Proofs.Pattern.Takes
import Mathlib.Tactic.Ring
/-!
# The paths of a program

A thread goes from instruction to instruction and on its way through the text. From the first instruction of
an expression it comes to the address behind the last one just when the expression takes the
characters that were passed in between.
-/

namespace LlmTelemetry

/-- Where a thread is: an address of the program and a place of the text. -/
structure Spot where
  address : Nat
  place : Place

namespace Program

/-- One instruction leads a thread from a spot to another. -/
def Move (program : Program) (spot next : Spot) : Prop :=
  match program.code[spot.address]? with
  | some (.take cls) =>
    ∃ c rest, spot.place.rest = c :: rest ∧ cls.contains c ∧ next = ⟨spot.address + 1, ⟨some c, rest⟩⟩
  | some (.check condition) =>
    condition.holds spot.place ∧ next = ⟨spot.address + 1, spot.place⟩
  | some (.jump target) => next = ⟨target, spot.place⟩
  | some (.fork preferred other) =>
    next = ⟨preferred, spot.place⟩ ∨ next = ⟨other, spot.place⟩
  | none => False

/-- So many instructions lead a thread from a spot to another. -/
abbrev Path (program : Program) : Nat → Spot → Spot → Prop :=
  Chain program.Move

/-- The instructions stand in the program from an address on. -/
def Contains (program : Program) (start : Nat) (code : List Instruction) : Prop :=
  ∀ index instruction, code[index]? = some instruction →
    program.code[start + index]? = some instruction

variable {program : Program} {start : Nat}

theorem Contains.left {first second : List Instruction}
    (contains : program.Contains start (first ++ second)) : program.Contains start first := by
  intro index instruction found
  have short := (List.getElem?_eq_some_iff.mp found).1
  exact contains index instruction (by rwa [List.getElem?_append_left short])

theorem Contains.right {first second : List Instruction}
    (contains : program.Contains start (first ++ second)) :
    program.Contains (start + first.length) second := by
  intro index instruction found
  rw [Nat.add_assoc]
  apply contains
  rwa [List.getElem?_append_right (Nat.le_add_right _ _), Nat.add_sub_cancel_left]

theorem Contains.head {instruction : Instruction} {code : List Instruction}
    (contains : program.Contains start (instruction :: code)) :
    program.code[start]? = some instruction :=
  contains 0 instruction rfl

theorem Contains.tail {instruction : Instruction} {code : List Instruction}
    (contains : program.Contains start (instruction :: code)) :
    program.Contains (start + 1) code := by
  have both : program.Contains start ([instruction] ++ code) := contains
  exact both.right

theorem contains_program (regex : Regex) : regex.program.Contains 0 (regex.code 0) := by
  intro index instruction found
  rw [Nat.zero_add, Regex.program, List.getElem?_toArray]
  exact found

theorem move_branch {greedy : Bool} {again finish : Nat}
    (found : program.code[start]? = some (Regex.branch greedy again finish)) (place : Place)
    (next : Spot) :
    program.Move ⟨start, place⟩ next ↔ next = ⟨again, place⟩ ∨ next = ⟨finish, place⟩ := by
  cases greedy with
  | true =>
    rw [Regex.branch, if_pos rfl] at found
    simp only [Move, found]
  | false =>
    rw [Regex.branch, if_neg Bool.false_ne_true] at found
    simp only [Move, found]
    exact or_comm

/-! ## What a stretch of a program does -/

/-- The instructions between two addresses do what a relation between places says. A thread that enters them
at `start` comes to `finish` over places that are so related, and it does not get out of the stretch from
`low` to `finish` in another way. -/
structure Does (program : Program) (low start finish : Nat) (takes : Place → Place → Prop) :
    Prop where
  leads : ∀ {before behind : Place}, takes before behind →
    ∃ count, program.Path count ⟨start, before⟩ ⟨finish, behind⟩
  through : ∀ {count : Nat} {before : Place} {out : Spot}, program.Path count ⟨start, before⟩ out →
    out.address < low ∨ finish ≤ out.address →
      ∃ behind left, takes before behind ∧ left ≤ count ∧ program.Path left ⟨finish, behind⟩ out

/-- A path out of a stretch begins with a move. -/
theorem exists_move {low finish address count : Nat} {place : Place} {out : Spot}
    (path : program.Path count ⟨address, place⟩ out)
    (outside : out.address < low ∨ finish ≤ out.address) (from_low : low ≤ address)
    (to_finish : address < finish) :
    ∃ next left, program.Move ⟨address, place⟩ next ∧ left < count ∧ program.Path left next out := by
  cases path with
  | done => exact absurd outside (by simp only; omega)
  | @step left _ next _ first others => exact ⟨next, left, first, Nat.lt_succ_self left, others⟩

namespace Does

variable {low low' middle finish : Nat} {takes takes' : Place → Place → Prop}

theorem congr (does : program.Does low start finish takes)
    (same : ∀ before behind, takes before behind ↔ takes' before behind) :
    program.Does low start finish takes' where
  leads given := does.leads ((same _ _).mpr given)
  through path outside := by
    obtain ⟨behind, left, taken, rest⟩ := does.through path outside
    exact ⟨behind, left, (same _ _).mp taken, rest⟩

theorem nothing : program.Does start start start (· = ·) where
  leads same := ⟨0, same ▸ .done _⟩
  through path _ := ⟨_, _, rfl, Nat.le_refl _, path⟩

theorem comp (first : program.Does low start middle takes)
    (second : program.Does low' middle finish takes') (inside : low ≤ low')
    (forward : middle ≤ finish) :
    program.Does low start finish
      (fun before behind => ∃ between, takes before between ∧ takes' between behind) where
  leads given := by
    obtain ⟨between, taken, taken'⟩ := given
    obtain ⟨count, path⟩ := first.leads taken
    obtain ⟨more, next⟩ := second.leads taken'
    exact ⟨count + more, path.trans next⟩
  through path outside := by
    obtain ⟨between, left, taken, shorter, path⟩ := first.through path (by omega)
    obtain ⟨behind, rest, taken', shortest, path⟩ := second.through path (by omega)
    exact ⟨behind, rest, ⟨between, taken, taken'⟩, shortest.trans shorter, path⟩

theorem single (step : ∀ before next, program.Move ⟨start, before⟩ next ↔
      ∃ behind, takes before behind ∧ next = ⟨start + 1, behind⟩) :
    program.Does start start (start + 1) takes where
  leads taken := ⟨1, .single ((step _ _).mpr ⟨_, taken, rfl⟩)⟩
  through path outside := by
    obtain ⟨next, left, first, shorter, rest⟩ :=
      exists_move path outside (Nat.le_refl _) (Nat.lt_succ_self _)
    obtain ⟨behind, taken, rfl⟩ := (step _ _).mp first
    exact ⟨behind, left, taken, shorter.le, rest⟩

/-- Another way in, whose first move is the same. -/
theorem enter {entry : Nat} (does : program.Does low start finish takes)
    (same : ∀ place next, program.Move ⟨entry, place⟩ next ↔ program.Move ⟨start, place⟩ next)
    (below : entry ≤ low) (after : low ≤ start) (inside : start < finish) :
    program.Does entry entry finish takes where
  leads taken := by
    obtain ⟨count, path⟩ := does.leads taken
    obtain ⟨next, left, first, -, path⟩ := exists_move path (.inr (Nat.le_refl _)) after inside
    exact ⟨left + 1, .step ((same _ _).mpr first) path⟩
  through path outside := by
    obtain ⟨next, left, first, shorter, path⟩ :=
      exists_move path outside (Nat.le_refl _) (by omega)
    obtain ⟨behind, rest, taken, short, path⟩ :=
      does.through (.step ((same _ _).mp first) path) (by omega)
    exact ⟨behind, rest, taken, by omega, path⟩

end Does

/-! ## Repetitions -/

section Repetitions

variable {takes : Place → Place → Prop} {code : Nat → List Instruction} {size : Nat}
variable (body : ∀ start, program.Contains start (code start) →
  program.Does start start (start + size) takes)
variable (length : ∀ start, (code start).length = size)

include length

theorem length_copies (count start : Nat) :
    (Regex.copies code size count start).length = count * size := by
  induction count generalizing start with
  | zero => rw [Nat.zero_mul]; rfl
  | succ count ih => rw [Regex.copies, List.length_append, length, ih]; ring

theorem length_options (greedy : Bool) (finish count start : Nat) :
    (Regex.options code size greedy finish count start).length = count * (size + 1) := by
  induction count generalizing start with
  | zero => rw [Nat.zero_mul]; rfl
  | succ count ih =>
    rw [Regex.options, List.cons_append, List.length_cons, List.length_append, length, ih]
    ring

theorem contains_last_copy (count : Nat) {start : Nat}
    (contains : program.Contains start (Regex.copies code size (count + 1) start)) :
    program.Contains (start + count * size) (code (start + count * size)) := by
  induction count generalizing start with
  | zero =>
    rw [Nat.zero_mul]
    exact contains.left
  | succ count ih =>
    rw [Regex.copies] at contains
    have others := contains.right
    rw [length] at others
    rw [show start + (count + 1) * size = start + size + count * size by ring]
    exact ih others

include body

theorem does_copies (count : Nat) {start : Nat}
    (contains : program.Contains start (Regex.copies code size count start)) :
    program.Does start start (start + count * size) (Chain takes count) := by
  induction count generalizing start with
  | zero =>
    rw [Nat.zero_mul]
    apply Does.nothing.congr
    intro before behind
    constructor
    · rintro rfl
      exact .done before
    · intro chain
      cases chain
      rfl
  | succ count ih =>
    rw [Regex.copies] at contains
    have others := contains.right
    rw [length] at others
    have both := (body start contains.left).comp (ih others) (by omega) (by omega)
    rw [show start + (count + 1) * size = start + size + count * size by ring]
    apply both.congr
    intro before behind
    constructor
    · rintro ⟨between, first, rest⟩
      exact .step first rest
    · intro chain
      obtain _ | ⟨first, rest⟩ := chain
      exact ⟨_, first, rest⟩

theorem does_options (greedy : Bool) {finish : Nat} (count : Nat) {start : Nat}
    (contains : program.Contains start (Regex.options code size greedy finish count start))
    (last : finish = start + count * (size + 1)) :
    program.Does start start finish
      (fun before behind => ∃ times ≤ count, Chain takes times before behind) := by
  induction count generalizing start with
  | zero =>
    rw [Nat.zero_mul] at last
    subst last
    apply Does.nothing.congr
    intro before behind
    constructor
    · rintro rfl
      exact ⟨0, Nat.le_refl _, .done before⟩
    · rintro ⟨times, few, chain⟩
      obtain rfl := Nat.le_zero.mp few
      cases chain
      rfl
  | succ count ih =>
    rw [Regex.options] at contains
    have others := contains.tail.right
    rw [length] at others
    have ends : finish = start + 1 + size + count * (size + 1) := by rw [last]; ring
    have again := (body (start + 1) contains.tail.left).comp (ih others ends)
      (by omega) (by omega)
    have branch := move_branch contains.head
    constructor
    · rintro before behind ⟨times, few, chain⟩
      obtain _ | ⟨first, rest⟩ := chain
      · exact ⟨1, .single ((branch _ _).mpr (.inr rfl))⟩
      · obtain ⟨steps, path⟩ := again.leads ⟨_, first, _, by omega, rest⟩
        exact ⟨steps + 1, .step ((branch _ _).mpr (.inl rfl)) path⟩
    · intro steps before out path outside
      obtain ⟨next, left, first, shorter, path⟩ :=
        exists_move path outside (Nat.le_refl _) (by omega)
      obtain rfl | rfl := (branch _ _).mp first
      · obtain ⟨behind, rest, ⟨between, taken, times, few, chain⟩, short, path⟩ :=
          again.through path (by omega)
        exact ⟨behind, rest, ⟨times + 1, by omega, .step taken chain⟩, by omega, path⟩
      · exact ⟨before, left, ⟨0, Nat.zero_le _, .done before⟩, shorter.le, path⟩

end Repetitions

/-- A part behind which a branch leads back to it or on. -/
theorem does_loop {takes : Place → Place → Prop} {start size : Nat} {greedy : Bool}
    (body : program.Does start start (start + size) takes)
    (found : program.code[start + size]? = some (Regex.branch greedy start (start + size + 1))) :
    program.Does start (start + size) (start + size + 1)
      (fun before behind => ∃ times, Chain takes times before behind) where
  leads := by
    rintro before behind ⟨times, chain⟩
    induction chain with
    | done place => exact ⟨1, .single ((move_branch found _ _).mpr (.inr rfl))⟩
    | step first _ ih =>
      obtain ⟨count, path⟩ := body.leads first
      obtain ⟨more, next⟩ := ih
      exact ⟨_, .step ((move_branch found _ _).mpr (.inl rfl)) (path.trans next)⟩
  through := by
    intro count
    -- The way through the part may take no character, so it is the number of moves that gets less.
    induction count using Nat.strong_induction_on with
    | _ count ih =>
      intro before out path outside
      obtain ⟨next, left, first, shorter, path⟩ :=
        exists_move path outside (by omega) (Nat.lt_succ_self _)
      obtain rfl | rfl := (move_branch found _ _).mp first
      · obtain ⟨between, rest, taken, short, path⟩ := body.through path (by omega)
        obtain ⟨behind, last, ⟨times, chain⟩, shortest, path⟩ := ih rest (by omega) path outside
        exact ⟨behind, last, ⟨times + 1, .step taken chain⟩, by omega, path⟩
      · exact ⟨before, left, ⟨0, .done before⟩, shorter.le, path⟩

/-! ## The program of an expression -/

theorem length_code (regex : Regex) (start : Nat) : (regex.code start).length = regex.size := by
  induction regex generalizing start with
  | empty | one | assertion => rfl
  | sequence first second ihFirst ihSecond =>
    rw [Regex.code, List.length_append, ihFirst, ihSecond, Regex.size]
  | either first second ihFirst ihSecond =>
    simp only [Regex.code, List.cons_append, List.length_cons, List.length_append, ihFirst, ihSecond,
      Regex.size]
    omega
  | repeated body least most greedy ih =>
    match least, most with
    | least, some most =>
      rw [Regex.code, List.length_append, length_copies ih, length_options ih, Regex.size]
    | 0, none =>
      simp only [Regex.code, List.cons_append, List.length_cons, List.length_append, List.length_nil, ih,
        Regex.size]
    | least + 1, none =>
      rw [Regex.code, List.length_append, length_copies ih, Regex.size]
      rfl
  | group number body ih => exact ih start

theorem does_repeated {body : Regex} (least : Nat) (most : Option Nat) (greedy : Bool)
    (ih : ∀ start, program.Contains start (body.code start) →
      program.Does start start (start + body.size) body.Takes)
    (contains : program.Contains start ((Regex.repeated body least most greedy).code start)) :
    program.Does start start (start + (Regex.repeated body least most greedy).size)
      (Regex.repeated body least most greedy).Takes := by
  have length := length_code body
  match least, most with
  | least, some most =>
    rw [Regex.code] at contains
    have others := contains.right
    rw [length_copies length] at others
    have copies := does_copies ih length least contains.left
    have options := does_options ih length greedy (most - least) others rfl
    have both := copies.comp options (by omega) (by omega)
    rw [Nat.add_assoc] at both
    apply both.congr
    intro before behind
    constructor
    · rintro ⟨between, first, times, few, second⟩
      refine ⟨least + times, ⟨by omega, ?_⟩, first.trans second⟩
      rintro bound ⟨⟩
      omega
    · rintro ⟨count, ⟨enough, bounded⟩, chain⟩
      have bound := bounded most rfl
      obtain ⟨more, rfl⟩ := Nat.exists_eq_add_of_le enough
      obtain ⟨between, first, second⟩ := chain.split
      exact ⟨between, first, more, by omega, second⟩
  | 0, none =>
    rw [Regex.code] at contains
    have ends : start + body.size + 2 = start + 1 + body.size + 1 := by omega
    rw [ends] at contains
    have rest := contains.tail
    have last := rest.right.head
    rw [length] at last
    have loop := does_loop (ih (start + 1) rest.left) last
    have same (place : Place) (next : Spot) : program.Move ⟨start, place⟩ next ↔
        program.Move ⟨start + 1 + body.size, place⟩ next :=
      (move_branch contains.head place next).trans (move_branch last place next).symm
    have whole := loop.enter same (by omega) (by omega) (by omega)
    rw [Regex.size, ← Nat.add_assoc, ends]
    apply whole.congr
    intro before behind
    constructor
    · rintro ⟨times, chain⟩
      exact ⟨times, ⟨Nat.zero_le _, by simp⟩, chain⟩
    · rintro ⟨times, -, chain⟩
      exact ⟨times, chain⟩
  | least + 1, none =>
    rw [Regex.code] at contains
    have last := contains.right.head
    have ends : start + (least + 1) * body.size = start + least * body.size + body.size := by ring
    rw [length_copies length, ends] at last
    have copies := does_copies ih length (least + 1) contains.left
    have loop := does_loop (ih _ (contains_last_copy length least contains.left)) last
    rw [ends] at copies
    have both := copies.comp loop (by omega) (by omega)
    rw [Regex.size, ← Nat.add_assoc, ends]
    apply both.congr
    intro before behind
    constructor
    · rintro ⟨between, first, times, second⟩
      exact ⟨least + 1 + times, ⟨by omega, by simp⟩, first.trans second⟩
    · rintro ⟨count, ⟨enough, -⟩, chain⟩
      obtain ⟨more, rfl⟩ := Nat.exists_eq_add_of_le enough
      obtain ⟨between, first, second⟩ := chain.split
      exact ⟨between, first, more, second⟩

theorem does_either {first second : Regex}
    (ihFirst : ∀ start, program.Contains start (first.code start) →
      program.Does start start (start + first.size) first.Takes)
    (ihSecond : ∀ start, program.Contains start (second.code start) →
      program.Does start start (start + second.size) second.Takes)
    (contains : program.Contains start ((Regex.either first second).code start)) :
    program.Does start start (start + (Regex.either first second).size)
      (Regex.either first second).Takes := by
  rw [Regex.code] at contains
  have fork := contains.head
  have left := ihFirst (start + 1) contains.tail.left
  have others := contains.tail.right
  rw [length_code, show start + 1 + first.size = start + first.size + 1 by omega] at others
  have jump := others.head
  have right := ihSecond (start + first.size + 2) others.tail
  have ends : start + first.size + 2 + second.size = start + (Regex.either first second).size := by
    rw [Regex.size]
    omega
  rw [ends] at jump right
  constructor
  · intro before behind taken
    obtain taken | taken := taken
    · obtain ⟨count, path⟩ := left.leads taken
      rw [show start + 1 + first.size = start + first.size + 1 by omega] at path
      refine ⟨count + 1 + 1, .step ?_ (path.trans (.single ?_))⟩
      · simp [Move, fork]
      · simp [Move, jump]
    · obtain ⟨count, path⟩ := right.leads taken
      refine ⟨count + 1, .step ?_ path⟩
      simp [Move, fork]
  · intro count before out path outside
    obtain ⟨next, rest, step, shorter, path⟩ :=
      exists_move path outside (Nat.le_refl _) (by omega)
    simp only [Move, fork] at step
    obtain rfl | rfl := step
    · obtain ⟨between, rest, taken, short, path⟩ := left.through path (by omega)
      obtain ⟨next, last, step, shortest, path⟩ :=
        exists_move path outside (by omega) (by omega)
      rw [show start + 1 + first.size = start + first.size + 1 by omega] at step
      simp only [Move, jump] at step
      subst step
      exact ⟨between, last, .inl taken, by omega, path⟩
    · obtain ⟨behind, last, taken, short, path⟩ := right.through path (by omega)
      exact ⟨behind, last, .inr taken, by omega, path⟩

/-- The instructions of an expression do what the expression says. -/
theorem does_code (regex : Regex) (contains : program.Contains start (regex.code start)) :
    program.Does start start (start + regex.size) regex.Takes := by
  induction regex generalizing start with
  | empty => exact Does.nothing
  | one cls =>
    refine Does.single fun before next => ?_
    simp only [Move, contains.head, Regex.Takes]
    constructor
    · rintro ⟨c, rest, follows, contained, rfl⟩
      exact ⟨_, ⟨c, rest, follows, contained, rfl⟩, rfl⟩
    · rintro ⟨behind, ⟨c, rest, follows, contained, rfl⟩, rfl⟩
      exact ⟨c, rest, follows, contained, rfl⟩
  | assertion condition =>
    refine Does.single fun before next => ?_
    simp only [Move, contains.head, Regex.Takes]
    constructor
    · rintro ⟨holds, rfl⟩
      exact ⟨before, ⟨holds, rfl⟩, rfl⟩
    · rintro ⟨behind, ⟨holds, rfl⟩, rfl⟩
      exact ⟨holds, rfl⟩
  | sequence first second ihFirst ihSecond =>
    rw [Regex.code] at contains
    have others := contains.right
    rw [length_code] at others
    have both := (ihFirst contains.left).comp (ihSecond others) (by omega) (by omega)
    rwa [Nat.add_assoc] at both
  | either first second ihFirst ihSecond =>
    exact does_either (fun _ => ihFirst) (fun _ => ihSecond) contains
  | repeated body least most greedy ih =>
    exact does_repeated least most greedy (fun _ => ih) contains
  | group number body ih => exact ih contains

/-- The program of an expression comes from its beginning to its end over what the expression takes. -/
theorem takes_iff_path (regex : Regex) (before behind : Place) :
    regex.Takes before behind ↔
      ∃ count, regex.program.Path count ⟨0, before⟩ ⟨regex.program.code.size, behind⟩ := by
  have does := does_code regex (contains_program regex)
  have size : 0 + regex.size = regex.program.code.size := by
    rw [Nat.zero_add, Regex.program, List.size_toArray, length_code]
  rw [size] at does
  constructor
  · exact does.leads
  · rintro ⟨count, path⟩
    obtain ⟨between, left, taken, -, rest⟩ := does.through path (.inr (Nat.le_refl _))
    cases rest with
    | done => exact taken
    | step first _ => simp [Move] at first

end Program

end LlmTelemetry
