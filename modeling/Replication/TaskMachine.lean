import Replication.Run
import Mathlib.Data.List.Basic

namespace Replication

/-!
# Cooperative tasks over shared state

A task machine is a list of suspended tasks, a shared state they all read and
write, and a context that only the surroundings change.  One step resumes one
task up to its next suspension, or lets the surroundings act.  Two invariant
rules are provided.  The interference rule asks every step to keep the local
assertions of the other tasks.  The exclusive rule is for machines in which at
most one task at a time is of the kind the assertion is about, so that there is
no other task to interfere with.
-/

/-- The transition functions of a system of cooperative tasks. -/
structure TaskMachine
    (Context Shared Task Act Env Change : Type) where
  /-- Resume one task; it suspends again and may leave further tasks behind. -/
  act : Context → Shared → Task → Act →
    Option (Shared × Task × List Task)
  /-- An event from outside that reads or replaces the whole task list. -/
  env : Context → Shared → List Task → Env →
    Option (Shared × List Task)
  /-- A change of the context. -/
  change : Context → Change → Option Context

namespace TaskMachine

variable {Context Shared Task Act Env Change : Type}

/-- The configuration of a task machine. -/
structure World (Context Shared Task : Type) where
  context : Context
  shared : Shared
  tasks : List Task

/-- One scheduling decision. -/
inductive Event (Act Env Change : Type) where
  | act (index : Nat) (action : Act)
  | env (event : Env)
  | change (change : Change)
  deriving Repr

/-- Take one scheduling decision, if it is enabled. -/
def step
    (machine : TaskMachine Context Shared Task Act Env Change)
    (world : World Context Shared Task) :
    Event Act Env Change → Option (World Context Shared Task)
  | .act index action =>
      match world.tasks[index]? with
      | none => none
      | some task =>
          (machine.act world.context world.shared task action).map
            fun (shared, next, spawned) =>
              { world with
                shared
                tasks := world.tasks.set index next ++ spawned }
  | .env event =>
      (machine.env world.context world.shared world.tasks event).map
        fun (shared, tasks) => { world with shared, tasks }
  | .change change =>
      (machine.change world.context change).map
        fun context => { world with context }

section Steps

variable
  {machine : TaskMachine Context Shared Task Act Env Change}
  {before after : World Context Shared Task}

/-- What a task step can do. -/
theorem step_act
    {index : Nat}
    {action : Act}
    (taken : machine.step before (.act index action) = some after) :
    ∃ task shared next spawned,
      before.tasks[index]? = some task ∧
        machine.act before.context before.shared task action =
          some (shared, next, spawned) ∧
        after =
          { before with
            shared
            tasks := before.tasks.set index next ++ spawned } := by
  simp only [step] at taken
  split at taken
  · cases taken
  · rename_i task found
    obtain ⟨⟨shared, next, spawned⟩, moved, rfl⟩ :=
      Option.map_eq_some_iff.mp taken
    exact ⟨task, shared, next, spawned, found, moved, rfl⟩

/-- Resume the first task. -/
theorem step_head
    {context : Context}
    {shared resumed : Shared}
    {task next : Task}
    {others spawned : List Task}
    {action : Act}
    (moved :
      machine.act context shared task action =
        some (resumed, next, spawned)) :
    machine.step ⟨context, shared, task :: others⟩ (.act 0 action) =
      some ⟨context, resumed, next :: others ++ spawned⟩ := by
  simp [step, moved]

/-- What an outside event can do. -/
theorem step_env
    {event : Env}
    (taken : machine.step before (.env event) = some after) :
    ∃ shared tasks,
      machine.env before.context before.shared before.tasks event =
          some (shared, tasks) ∧
        after = { before with shared, tasks } := by
  obtain ⟨⟨shared, tasks⟩, moved, rfl⟩ :=
    Option.map_eq_some_iff.mp taken
  exact ⟨shared, tasks, moved, rfl⟩

/-- What a context change can do. -/
theorem step_change
    {change : Change}
    (taken : machine.step before (.change change) = some after) :
    ∃ context,
      machine.change before.context change = some context ∧
        after = { before with context } := by
  obtain ⟨context, moved, rfl⟩ := Option.map_eq_some_iff.mp taken
  exact ⟨context, moved, rfl⟩

/-- The context stays as it is, unless the step is a change of it. -/
theorem context_step
    {event : Event Act Env Change}
    (taken : machine.step before event = some after) :
    after.context = before.context ∨
      ∃ change, event = .change change ∧
        machine.change before.context change = some after.context := by
  cases event with
  | act index action =>
      obtain ⟨_, _, _, _, _, _, rfl⟩ := step_act taken
      exact .inl rfl
  | env event =>
      obtain ⟨_, _, _, rfl⟩ := step_env taken
      exact .inl rfl
  | change change =>
      obtain ⟨context, changed, rfl⟩ := step_change taken
      exact .inr ⟨change, rfl, changed⟩

end Steps

/-- A task present after a step was there before, resumed, or was spawned. -/
theorem mem_set_append
    {tasks spawned : List Task}
    {index : Nat}
    {next task : Task}
    (member : task ∈ tasks.set index next ++ spawned) :
    task ∈ tasks ∨ task = next ∨ task ∈ spawned := by
  rcases List.mem_append.mp member with inSet | inSpawned
  · rcases List.mem_or_eq_of_mem_set inSet with old | isNext
    · exact .inl old
    · exact .inr (.inl isNext)
  · exact .inr (.inr inSpawned)

/-- One task may have taken the place of another; the others are still there. -/
structure Replaces
    (tasks : List Task)
    (task next : Task)
    (after : List Task) : Prop where
  kept : ∀ other ∈ tasks, other ∈ after ∨ other = task ∧ next ∈ after
  origin : ∀ other ∈ after, other ∈ tasks ∨ other = next

/-- Resuming a task replaces it. -/
theorem Replaces.set
    {tasks : List Task}
    {index : Nat}
    {task : Task}
    (next : Task)
    (found : tasks[index]? = some task) :
    Replaces tasks task next (tasks.set index next) where
  kept other member := by
    obtain ⟨position, atPosition⟩ := List.mem_iff_getElem?.mp member
    by_cases same : index = position
    · subst position
      rw [found] at atPosition
      cases atPosition
      exact .inr ⟨rfl,
        List.mem_set (List.getElem?_eq_some_iff.mp found).1 next⟩
    · left
      refine List.mem_iff_getElem?.mpr ⟨position, ?_⟩
      rw [List.getElem?_set_ne same]
      exact atPosition
  origin _ member := List.mem_or_eq_of_mem_set member

/-- A new task replaces none. -/
theorem Replaces.append
    (tasks : List Task)
    (task next : Task) :
    Replaces tasks task next (tasks ++ [next]) where
  kept _ member := .inl (List.mem_append_left _ member)
  origin _ member :=
    (List.mem_append.mp member).imp_right List.mem_singleton.mp

/-- Some task still has a property that the next one has if the last one had. -/
theorem Replaces.exists_mem
    {tasks after : List Task}
    {task next : Task}
    (replaces : Replaces tasks task next after)
    {Property : Task → Prop}
    (keeps : Property task → Property next)
    (exists_ : ∃ other ∈ tasks, Property other) :
    ∃ other ∈ after, Property other := by
  obtain ⟨other, member, holds⟩ := exists_
  rcases replaces.kept other member with still | ⟨rfl, added⟩
  · exact ⟨other, still, holds⟩
  · exact ⟨next, added, keeps holds⟩

/-- A global assertion together with one local assertion for each task. -/
structure Invariant
    (Global : Context → Shared → Prop)
    (Local : Context → Shared → Task → Prop)
    (world : World Context Shared Task) : Prop where
  global : Global world.context world.shared
  local_ : ∀ task ∈ world.tasks, Local world.context world.shared task

/--
The interference rule.  A step of one task keeps the global assertion,
re-establishes the local assertion of that task and of those it spawns, and
keeps the local assertion of every other task.
-/
theorem Invariant.step
    {machine : TaskMachine Context Shared Task Act Env Change}
    {admits :
      World Context Shared Task → Event Act Env Change → Prop}
    {Global : Context → Shared → Prop}
    {Local : Context → Shared → Task → Prop}
    (ofAct :
      ∀ {world index task action shared next spawned},
        Invariant Global Local world →
        admits world (.act index action) →
        world.tasks[index]? = some task →
        Local world.context world.shared task →
        machine.act world.context world.shared task action =
          some (shared, next, spawned) →
        Global world.context shared ∧
          Local world.context shared next ∧
          (∀ new ∈ spawned, Local world.context shared new) ∧
          ∀ other,
            Local world.context world.shared other →
              Local world.context shared other)
    (ofEnv :
      ∀ {world event shared tasks},
        Invariant Global Local world →
        admits world (.env event) →
        machine.env world.context world.shared world.tasks event =
          some (shared, tasks) →
        Global world.context shared ∧
          ∀ task ∈ tasks, Local world.context shared task)
    (ofChange :
      ∀ {world change context},
        Invariant Global Local world →
        admits world (.change change) →
        machine.change world.context change = some context →
        Global context world.shared ∧
          ∀ task ∈ world.tasks, Local context world.shared task)
    {before after : World Context Shared Task}
    {event : Event Act Env Change}
    (holds : Invariant Global Local before)
    (admitted : admits before event)
    (taken : machine.step before event = some after) :
    Invariant Global Local after := by
  cases event with
  | act index action =>
      obtain ⟨task, shared, next, spawned, found, moved, rfl⟩ :=
        step_act taken
      have taskHolds := holds.local_ task (List.mem_of_getElem? found)
      obtain ⟨global, resumed, new, stable⟩ :=
        ofAct holds admitted found taskHolds moved
      refine ⟨global, ?_⟩
      intro other member
      rcases mem_set_append member with old | rfl | inSpawned
      · exact stable other (holds.local_ other old)
      · exact resumed
      · exact new other inSpawned
  | env event =>
      obtain ⟨shared, tasks, moved, rfl⟩ := step_env taken
      obtain ⟨global, each⟩ := ofEnv holds admitted moved
      exact ⟨global, each⟩
  | change change =>
      obtain ⟨context, moved, rfl⟩ := step_change taken
      obtain ⟨global, each⟩ := ofChange holds admitted moved
      exact ⟨global, each⟩

/-- At most one position of the task list holds an active task. -/
def AtMostOne (Active : Task → Prop) (tasks : List Task) : Prop :=
  ∀ (first second : Nat) (task other : Task),
    tasks[first]? = some task →
    tasks[second]? = some other →
    Active task → Active other → first = second

/-- The active task is one. -/
theorem AtMostOne.eq_of_mem
    {Active : Task → Prop}
    {tasks : List Task}
    {task other : Task}
    (single : AtMostOne Active tasks)
    (member : task ∈ tasks)
    (otherMember : other ∈ tasks)
    (active : Active task)
    (otherActive : Active other) :
    task = other := by
  obtain ⟨first, atFirst⟩ := List.mem_iff_getElem?.mp member
  obtain ⟨second, atSecond⟩ := List.mem_iff_getElem?.mp otherMember
  obtain rfl :=
    single first second task other atFirst atSecond active otherActive
  rw [atFirst] at atSecond
  exact Option.some.inj atSecond

/-- A task list without active tasks has at most one of them. -/
theorem AtMostOne.of_none
    {Active : Task → Prop}
    {tasks : List Task}
    (none : ∀ task ∈ tasks, ¬ Active task) :
    AtMostOne Active tasks :=
  fun _ _ task _ found _ active _ =>
    (none task (List.mem_of_getElem? found) active).elim

/-- Without tasks there is no active one. -/
theorem AtMostOne.nil {Active : Task → Prop} :
    AtMostOne Active ([] : List Task) :=
  .of_none (List.forall_mem_nil _)

/-- Appending one task to a list without active tasks. -/
theorem AtMostOne.append_singleton
    {Active : Task → Prop}
    {tasks : List Task}
    {new : Task}
    (none : ∀ task ∈ tasks, ¬ Active task) :
    AtMostOne Active (tasks ++ [new]) := by
  have isLast :
      ∀ {index : Nat} {task : Task},
        (tasks ++ [new])[index]? = some task →
        Active task → index = tasks.length := by
    intro index task found active
    rcases List.mem_append.mp (List.mem_of_getElem? found) with old | _
    · exact (none task old active).elim
    · by_contra notLast
      have inside : index < tasks.length := by
        have bound := (List.getElem?_eq_some_iff.mp found).1
        simp only [List.length_append, List.length_singleton] at bound
        omega
      rw [List.getElem?_append_left inside] at found
      exact none task (List.mem_of_getElem? found) active
  intro first second task other atFirst atSecond active otherActive
  rw [isLast atFirst active, isLast atSecond otherActive]

/-- Appending at most one task to a list without active tasks. -/
theorem AtMostOne.append_of_length_le_one
    {Active : Task → Prop}
    {tasks new : List Task}
    (none : ∀ task ∈ tasks, ¬ Active task)
    (atMost : new.length ≤ 1) :
    AtMostOne Active (tasks ++ new) := by
  match new, atMost with
  | [], _ =>
      rw [List.append_nil]
      exact .of_none none
  | [_], _ =>
      exact .append_singleton none

/-- Appending inactive tasks changes nothing. -/
theorem AtMostOne.append
    {Active : Task → Prop}
    {tasks new : List Task}
    (old : AtMostOne Active tasks)
    (none : ∀ task ∈ new, ¬ Active task) :
    AtMostOne Active (tasks ++ new) := by
  have inside :
      ∀ {index : Nat} {task : Task},
        (tasks ++ new)[index]? = some task →
        Active task → tasks[index]? = some task := by
    intro index task found active
    by_cases bound : index < tasks.length
    · rwa [List.getElem?_append_left bound] at found
    · rw [List.getElem?_append_right (Nat.le_of_not_lt bound)] at found
      exact (none task (List.mem_of_getElem? found) active).elim
  intro first second task other atFirst atSecond active otherActive
  exact old first second task other
    (inside atFirst active) (inside atSecond otherActive)
    active otherActive

/--
Resuming a task keeps `AtMostOne` as long as an inactive task does not turn
active.
-/
theorem AtMostOne.set
    {Active : Task → Prop}
    {tasks : List Task}
    {index : Nat}
    {task next : Task}
    (old : AtMostOne Active tasks)
    (found : tasks[index]? = some task)
    (noNew : Active next → Active task) :
    AtMostOne Active (tasks.set index next) := by
  have back :
      ∀ {position : Nat} {other : Task},
        (tasks.set index next)[position]? = some other →
        Active other →
        ∃ original, tasks[position]? = some original ∧ Active original := by
    intro position other atPosition active
    by_cases same : index = position
    · subst position
      have bound := (List.getElem?_eq_some_iff.mp found).1
      rw [List.getElem?_set_self bound] at atPosition
      cases atPosition
      exact ⟨task, found, noNew active⟩
    · rw [List.getElem?_set_ne same] at atPosition
      exact ⟨other, atPosition, active⟩
  intro first second one other atFirst atSecond active otherActive
  obtain ⟨_, firstFound, firstActive⟩ := back atFirst active
  obtain ⟨_, secondFound, secondActive⟩ := back atSecond otherActive
  exact old first second _ _
    firstFound secondFound firstActive secondActive

/-- The first active task of a list is one wherever it is put. -/
theorem AtMostOne.set_of_none
    {Active : Task → Prop}
    {tasks : List Task}
    {index : Nat}
    {next : Task}
    (none : ∀ task ∈ tasks, ¬ Active task) :
    AtMostOne Active (tasks.set index next) := by
  have atIndex :
      ∀ {position : Nat} {task : Task},
        (tasks.set index next)[position]? = some task →
        Active task → position = index := by
    intro position task found active
    by_contra elsewhere
    rw [List.getElem?_set_ne (Ne.symm elsewhere)] at found
    exact none task (List.mem_of_getElem? found) active
  intro first second task other atFirst atSecond active otherActive
  rw [atIndex atFirst active, atIndex atSecond otherActive]

/-- Nothing is active after the active task has become inactive. -/
theorem AtMostOne.none_of_set
    {Active : Task → Prop}
    {tasks : List Task}
    {index : Nat}
    {task next : Task}
    (single : AtMostOne Active tasks)
    (found : tasks[index]? = some task)
    (active : Active task)
    (inactive : ¬ Active next) :
    ∀ other ∈ tasks.set index next, ¬ Active other := by
  intro other member otherActive
  obtain ⟨position, atPosition⟩ := List.mem_iff_getElem?.mp member
  by_cases same : index = position
  · subst position
    have bound := (List.getElem?_eq_some_iff.mp found).1
    rw [List.getElem?_set_self bound] at atPosition
    cases atPosition
    exact inactive otherActive
  · rw [List.getElem?_set_ne same] at atPosition
    exact same (single index position task other
      found atPosition active otherActive)

/-- The only task that can be active after the active one is that one. -/
theorem AtMostOne.eq_next
    {Active : Task → Prop}
    {tasks spawned : List Task}
    {index : Nat}
    {task next other : Task}
    (single : AtMostOne Active tasks)
    (found : tasks[index]? = some task)
    (active : Active task)
    (none : ∀ new ∈ spawned, ¬ Active new)
    (member : other ∈ tasks.set index next ++ spawned)
    (otherActive : Active other) :
    other = next := by
  rcases List.mem_append.mp member with inSet | inSpawned
  · obtain ⟨position, atPosition⟩ := List.mem_iff_getElem?.mp inSet
    by_cases same : index = position
    · subst position
      have bound := (List.getElem?_eq_some_iff.mp found).1
      rw [List.getElem?_set_self bound] at atPosition
      exact (Option.some.inj atPosition).symm
    · rw [List.getElem?_set_ne same] at atPosition
      exact (same (single index position task other
        found atPosition active otherActive)).elim
  · exact (none other inSpawned otherActive).elim

/--
A global assertion and a local one for the single active task.
-/
structure ExclusiveInvariant
    (Active : Task → Prop)
    (Global : Context → Shared → Prop)
    (Local : Context → Shared → Task → Prop)
    (world : World Context Shared Task) : Prop where
  global : Global world.context world.shared
  atMostOne : AtMostOne Active world.tasks
  local_ :
    ∀ task ∈ world.tasks,
      Active task → Local world.context world.shared task

/-- Without tasks the global assertion is all. -/
theorem ExclusiveInvariant.of_idle
    {Active : Task → Prop}
    {Global : Context → Shared → Prop}
    {Local : Context → Shared → Task → Prop}
    {world : World Context Shared Task}
    (idle : world.tasks = [])
    (global : Global world.context world.shared) :
    ExclusiveInvariant Active Global Local world where
  global := global
  atMostOne := idle ▸ .nil
  local_ := idle ▸ List.forall_mem_nil _

/--
The exclusive rule.  A step of the active task has no other active task to
disturb; a step of an inactive task keeps the assertion of the active one and
activates nothing.
-/
theorem ExclusiveInvariant.step
    {machine : TaskMachine Context Shared Task Act Env Change}
    {admits :
      World Context Shared Task → Event Act Env Change → Prop}
    {Active : Task → Prop}
    {Global : Context → Shared → Prop}
    {Local : Context → Shared → Task → Prop}
    (ofActive :
      ∀ {world index task action shared next spawned},
        ExclusiveInvariant Active Global Local world →
        admits world (.act index action) →
        world.tasks[index]? = some task →
        Active task →
        Local world.context world.shared task →
        machine.act world.context world.shared task action =
          some (shared, next, spawned) →
        Global world.context shared ∧
          (Active next → Local world.context shared next) ∧
          ∀ new ∈ spawned, ¬ Active new)
    (ofInactive :
      ∀ {world index task action shared next spawned},
        ExclusiveInvariant Active Global Local world →
        admits world (.act index action) →
        world.tasks[index]? = some task →
        ¬ Active task →
        machine.act world.context world.shared task action =
          some (shared, next, spawned) →
        Global world.context shared ∧
          ¬ Active next ∧
          (∀ new ∈ spawned, ¬ Active new) ∧
          ∀ other,
            Active other →
            Local world.context world.shared other →
              Local world.context shared other)
    (ofEnv :
      ∀ {world event shared tasks},
        ExclusiveInvariant Active Global Local world →
        admits world (.env event) →
        machine.env world.context world.shared world.tasks event =
          some (shared, tasks) →
        ExclusiveInvariant Active Global Local
          { world with shared, tasks })
    (ofChange :
      ∀ {world change context},
        ExclusiveInvariant Active Global Local world →
        admits world (.change change) →
        machine.change world.context change = some context →
        Global context world.shared ∧
          ∀ task ∈ world.tasks,
            Active task → Local context world.shared task)
    {before after : World Context Shared Task}
    {event : Event Act Env Change}
    (holds : ExclusiveInvariant Active Global Local before)
    (admitted : admits before event)
    (taken : machine.step before event = some after) :
    ExclusiveInvariant Active Global Local after := by
  cases event with
  | act index action =>
      obtain ⟨task, shared, next, spawned, found, moved, rfl⟩ :=
        step_act taken
      have member := List.mem_of_getElem? found
      by_cases active : Active task
      · obtain ⟨global, resumed, new⟩ :=
          ofActive holds admitted found active
            (holds.local_ task member active) moved
        refine ⟨global, ?_, ?_⟩
        · exact (holds.atMostOne.set found fun _ => active).append new
        · intro other otherMember otherActive
          obtain rfl :=
            holds.atMostOne.eq_next found active new otherMember otherActive
          exact resumed otherActive
      · obtain ⟨global, stillInactive, new, stable⟩ :=
          ofInactive holds admitted found active moved
        refine ⟨global, ?_, ?_⟩
        · exact (holds.atMostOne.set found
            fun nextActive => (stillInactive nextActive).elim).append new
        · intro other otherMember otherActive
          rcases mem_set_append otherMember with old | rfl | inSpawned
          · exact stable other otherActive
              (holds.local_ other old otherActive)
          · exact (stillInactive otherActive).elim
          · exact (new other inSpawned otherActive).elim
  | env event =>
      obtain ⟨shared, tasks, moved, rfl⟩ := step_env taken
      exact ofEnv holds admitted moved
  | change change =>
      obtain ⟨context, moved, rfl⟩ := step_change taken
      obtain ⟨global, each⟩ := ofChange holds admitted moved
      exact ⟨global, holds.atMostOne, each⟩

end TaskMachine

end Replication
