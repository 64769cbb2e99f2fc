import Replication.TaskMachine
import Mathlib.Algebra.BigOperators.Group.List.Basic
import Mathlib.Algebra.Order.Monoid.Defs
import Mathlib.Tactic.Abel

namespace Replication.TaskMachine

/-!
# Sums over tasks

What the suspended tasks hold together: records, credit, outstanding work.  A
step of one task changes one summand and adds those of the tasks it leaves
behind, so an account that pays for the difference in one task pays for the
difference in the sum.
-/

section Total

variable {Task Amount : Type} [AddCommMonoid Amount]

/-- What the tasks hold together. -/
def totalOf (held : Task → Amount) (tasks : List Task) : Amount :=
  (tasks.map held).sum

/-- Without tasks nothing is held. -/
@[simp] theorem totalOf_nil (held : Task → Amount) :
    totalOf held [] = 0 := rfl

/-- The first task and the others. -/
@[simp] theorem totalOf_cons
    (held : Task → Amount)
    (task : Task)
    (rest : List Task) :
    totalOf held (task :: rest) = held task + totalOf held rest := by
  simp [totalOf]

/-- Tasks side by side hold what each side holds. -/
@[simp] theorem totalOf_append
    (held : Task → Amount)
    (leading trailing : List Task) :
    totalOf held (leading ++ trailing) =
      totalOf held leading + totalOf held trailing := by
  simp [totalOf]

/-- Tasks that hold nothing add nothing. -/
theorem totalOf_eq_zero
    {held : Task → Amount}
    {tasks : List Task}
    (none : ∀ task ∈ tasks, held task = 0) :
    totalOf held tasks = 0 := by
  induction tasks with
  | nil =>
      rfl
  | cons task rest inductionHypothesis =>
      rw [totalOf_cons, none task List.mem_cons_self, zero_add]
      exact inductionHypothesis fun other member =>
        none other (List.mem_cons_of_mem _ member)

/-- Replacing one task exchanges its summand. -/
theorem totalOf_set
    (held : Task → Amount)
    {tasks : List Task}
    {index : Nat}
    {task : Task}
    (next : Task)
    (found : tasks[index]? = some task) :
    totalOf held (tasks.set index next) + held task =
      totalOf held tasks + held next := by
  induction tasks generalizing index with
  | nil =>
      cases found
  | cons head rest inductionHypothesis =>
      cases index with
      | zero =>
          obtain rfl : head = task := Option.some.inj found
          simp only [List.set_cons_zero, totalOf_cons]
          abel
      | succ index =>
          have tail := inductionHypothesis found
          simp only [List.set_cons_succ, totalOf_cons]
          rw [add_assoc, tail, add_assoc]

end Total

section Order

variable
  {Task Amount : Type}
  [AddCommMonoid Amount]
  [PartialOrder Amount]
  [IsOrderedCancelAddMonoid Amount]

/-- A bound on every task bounds the sum. -/
theorem totalOf_le_totalOf
    {smaller larger : Task → Amount}
    {tasks : List Task}
    (bounded : ∀ task ∈ tasks, smaller task ≤ larger task) :
    totalOf smaller tasks ≤ totalOf larger tasks := by
  induction tasks with
  | nil =>
      exact le_refl _
  | cons task rest inductionHypothesis =>
      rw [totalOf_cons, totalOf_cons]
      exact add_le_add (bounded task List.mem_cons_self)
        (inductionHypothesis fun other member =>
          bounded other (List.mem_cons_of_mem _ member))

/-- Amounts that are not negative have a sum that is not. -/
theorem totalOf_nonneg
    {held : Task → Amount}
    {tasks : List Task}
    (nonneg : ∀ task ∈ tasks, 0 ≤ held task) :
    0 ≤ totalOf held tasks := by
  induction tasks with
  | nil =>
      exact le_refl _
  | cons task rest inductionHypothesis =>
      rw [totalOf_cons]
      exact add_nonneg (nonneg task List.mem_cons_self)
        (inductionHypothesis fun other member =>
          nonneg other (List.mem_cons_of_mem _ member))

/--
The account rule.  If what the resumed task held and what is added to the
allowance pay for what it holds now, for the tasks it leaves behind and for what
is spent, then so they do for all tasks.
-/
theorem totalOf_resume_le
    {held : Task → Amount}
    {tasks spawned : List Task}
    {index : Nat}
    {task next : Task}
    {spent spentAfter allowed allowedAfter : Amount}
    (found : tasks[index]? = some task)
    (pays :
      held next + totalOf held spawned + spentAfter + allowed ≤
        held task + spent + allowedAfter)
    (covered : totalOf held tasks + spent ≤ allowed) :
    totalOf held (tasks.set index next ++ spawned) + spentAfter ≤
      allowedAfter := by
  have exchanged := totalOf_set held next found
  have both := add_le_add pays covered
  rw [totalOf_append]
  refine le_of_add_le_add_right (a := held task + spent + allowed) ?_
  calc totalOf held (tasks.set index next) + totalOf held spawned +
          spentAfter + (held task + spent + allowed)
      = totalOf held (tasks.set index next) + held task +
          (totalOf held spawned + spentAfter + spent + allowed) := by abel
    _ = held next + totalOf held spawned + spentAfter + allowed +
          (totalOf held tasks + spent) := by rw [exchanged]; abel
    _ ≤ held task + spent + allowedAfter + allowed := both
    _ = allowedAfter + (held task + spent + allowed) := by abel

end Order

end Replication.TaskMachine
