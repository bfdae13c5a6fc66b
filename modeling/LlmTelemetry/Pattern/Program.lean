import LlmTelemetry.Pattern.Regex
/-!
# Matching programs

An expression is matched by a program that runs in many threads at once, all at the same place of the
text. The threads are in order of preference: an alternative on the left is preferred to one on the
right, a greedy repetition prefers to go on and a lazy one prefers to stop, and a thread that began
earlier is preferred to one that began later. A thread that comes to an instruction where another one has
been at the same place is dropped, since it could only do what the other does. So the work for a character
is bounded by the size of the program, and a repetition that matches nothing comes to its end.
-/

namespace LlmTelemetry

/-- An instruction of a program. Instructions have addresses from zero on, and a thread that comes to the
address behind the last one has matched. -/
inductive Instruction where
  /-- Take a character of the class. -/
  | take (cls : CharClass)
  /-- Go on if the condition holds. -/
  | check (condition : Assertion)
  | jump (target : Nat)
  /-- Go on at either address, in this order of preference. -/
  | fork (preferred other : Nat)
deriving DecidableEq

namespace Regex

/-! ## The program of an expression -/

/-- The number of instructions of an expression. -/
def size : Regex → Nat
  | .empty => 0
  | .one _ => 1
  | .assertion _ => 1
  | .sequence first second => first.size + second.size
  | .either first second => first.size + second.size + 2
  | .repeated body least (some most) _ => least * body.size + (most - least) * (body.size + 1)
  | .repeated body 0 none _ => body.size + 2
  | .repeated body (least + 1) none _ => (least + 1) * body.size + 1
  | .group _ body => body.size

/-- A greedy repetition prefers to go on. -/
def branch (greedy : Bool) (again finish : Nat) : Instruction :=
  if greedy then .fork again finish else .fork finish again

/-- A part so many times one after the other. -/
def copies (code : Nat → List Instruction) (size : Nat) : (count start : Nat) → List Instruction
  | 0, _ => []
  | count + 1, start => code start ++ copies code size count (start + size)

/-- A part up to so many times, with a way to `finish` before each. -/
def options (code : Nat → List Instruction) (size : Nat) (greedy : Bool) (finish : Nat) :
    (count start : Nat) → List Instruction
  | 0, _ => []
  | count + 1, start =>
    branch greedy (start + 1) finish
      :: code (start + 1) ++ options code size greedy finish count (start + 1 + size)

/-- The instructions of an expression at the addresses from `start` on. It has matched when a thread comes
to the address behind them. -/
def code : Regex → (start : Nat) → List Instruction
  | .empty, _ => []
  | .one cls, _ => [.take cls]
  | .assertion condition, _ => [.check condition]
  | .sequence first second, start => first.code start ++ second.code (start + first.size)
  | .either first second, start =>
    let other := start + first.size + 2
    .fork (start + 1) other
      :: first.code (start + 1) ++ .jump (other + second.size) :: second.code other
  | .repeated body least (some most) greedy, start =>
    let optional := start + least * body.size
    copies body.code body.size least start
      ++ options body.code body.size greedy (optional + (most - least) * (body.size + 1))
        (most - least) optional
  | .repeated body 0 none greedy, start =>
    let step := branch greedy (start + 1) (start + body.size + 2)
    step :: body.code (start + 1) ++ [step]
  | .repeated body (least + 1) none greedy, start =>
    let last := start + least * body.size
    copies body.code body.size (least + 1) start ++ [branch greedy last (last + body.size + 1)]
  | .group _ body, start => body.code start

end Regex

/-- A program: its instructions by their addresses. -/
structure Program where
  code : Array Instruction

def Regex.program (regex : Regex) : Program := ⟨(regex.code 0).toArray⟩

/-- A thread of a program. -/
structure Thread where
  /-- How many characters had been passed when it began. -/
  start : Nat
  /-- The address that it has come to. -/
  address : Nat
deriving DecidableEq

/-- A match: how many characters stand before it, and how many it has. -/
structure Span where
  start : Nat
  length : Nat
deriving DecidableEq

/-- A search on the way: the threads that go on, and the match that was found so far. Threads that go on are
preferred to that match. -/
structure Search where
  threads : List Thread := []
  found : Option Span := none

namespace Program

/-! ## Running a program -/

/-- Where a thread goes on without taking a character, in order of preference. -/
def nexts (program : Program) (place : Place) (thread : Thread) : List Thread :=
  let go (address : Nat) : Thread := { thread with address := address }
  match program.code[thread.address]? with
  | some (.check condition) => if condition.holds place then [go (thread.address + 1)] else []
  | some (.jump target) => [go target]
  | some (.fork preferred other) => [go preferred, go other]
  | _ => []

/-- For each address of the program, that of the end included, that it is still to be visited. -/
def unvisited (program : Program) : Array Bool :=
  .replicate (program.code.size + 1) true

/-- The threads at all addresses that the given threads come to without taking a character, in order of
preference. At most `count` addresses are visited, and only those that are `fresh`. -/
def visit (program : Program) (place : Place) :
    (count : Nat) → (fresh : Array Bool) → List Thread → List Thread
  | 0, _, _ => []
  | count + 1, fresh, threads =>
    match threads.dropWhile fun thread => !fresh.getD thread.address false with
    | [] => []
    | thread :: threads =>
      thread :: visit program place count (fresh.setIfInBounds thread.address false)
        (program.nexts place thread ++ threads)

/-- Whether a thread has matched. -/
def isOver (program : Program) (thread : Thread) : Bool :=
  program.code[thread.address]?.isNone

/-- The thread after it has taken the character, if it can. -/
def advance? (program : Program) (c : Char) (thread : Thread) : Option Thread :=
  match program.code[thread.address]? with
  | some (.take cls) =>
    if cls.contains c then some { thread with address := thread.address + 1 } else none
  | _ => none

/-- Run the search at a place, `passed` characters after its beginning. A new thread begins at every place
until there is a match. -/
def look (program : Program) (place : Place) (passed : Nat) (search : Search) : Search :=
  let threads :=
    if search.found.isSome then search.threads else search.threads ++ [⟨passed, 0⟩]
  let visited := program.visit place (program.code.size + 1) program.unvisited threads
  { threads := visited.takeWhile (!program.isOver ·)
    found :=
      match visited.find? program.isOver with
      | some thread => some ⟨thread.start, passed - thread.start⟩
      | none => search.found }

/-- Go on with a search. -/
def searchFrom (program : Program) :
    Search → (previous : Option Char) → (passed : Nat) → (rest : List Char) → Option Span
  | search, previous, passed, [] => (program.look ⟨previous, []⟩ passed search).found
  | search, previous, passed, c :: rest =>
    let search := program.look ⟨previous, c :: rest⟩ passed search
    let threads := search.threads.filterMap (program.advance? c)
    if threads.isEmpty && search.found.isSome then search.found
    else searchFrom program { search with threads := threads } (some c) (passed + 1) rest

/-- The first match. -/
def find? (program : Program) (previous : Option Char) (rest : List Char) : Option Span :=
  program.searchFrom {} previous 0 rest

end Program

end LlmTelemetry
