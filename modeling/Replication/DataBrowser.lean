import Replication.SearchService
import Replication.TaskSums
import Mathlib

namespace Replication.DataBrowser

open TaskMachine

/-!
# Overlapping searches of the data browser

A search may be answered after another one has been started: by another page or
query, by the timer of the live mode, or by the refresh button.  `runSearch`
numbers its requests and takes over the answer to the newest one only, so that
what is shown once nothing is loading is the answer for the current view.
-/

variable {Document : Type}

/-- How a search is answered: with a result, or with the text of an error. -/
abbrev Outcome (Document : Type) := Except String (SearchResult Document)

/-- An answer that has been taken over. -/
structure Taken (Document : Type) where
  seq : Nat
  view : View
  outcome : Outcome Document

/-- State and refs of the panel; the answers are kept for the statements. -/
structure Panel (Document : Type) where
  view : View
  requestSeq : Nat
  result : Option (SearchResult Document)
  loading : Bool
  error : Option String
  fetchedAt : Option Int
  taken : List (Taken Document)

/-- Where a call of `runSearch` is suspended. -/
inductive Call where
  /-- It awaits `api.searchRecords`. -/
  | searching (seq : Nat) (view : View)
  | finished
  deriving DecidableEq, Repr

/-- How it goes on. -/
structure Answered (Document : Type) where
  now : Int
  outcome : Outcome Document

/-- What happens outside the calls. -/
inductive Env where
  /-- Another query, tier or page, and the effect that follows. -/
  | change (view : View)
  /-- The first effect, the timer of the live mode, or the button. -/
  | refresh
  deriving DecidableEq, Repr

/-- `runSearch` up to its await. -/
def Panel.runSearch
    (panel : Panel Document)
    (calls : List Call) : Panel Document × List Call :=
  ({ panel with
      requestSeq := panel.requestSeq + 1
      loading := true },
    calls ++ [.searching (panel.requestSeq + 1) panel.view])

/-- `runSearch` after its await; an answer that is not the newest is dropped. -/
def Panel.answered
    (panel : Panel Document)
    (seq : Nat)
    (view : View)
    (now : Int)
    (outcome : Outcome Document) : Panel Document :=
  if seq = panel.requestSeq then
    let taken := panel.taken ++ [⟨seq, view, outcome⟩]
    match outcome with
    | .ok response =>
        { panel with
          result := some response
          error := response.error
          fetchedAt := some now
          loading := false
          taken }
    | .error message =>
        { panel with error := some message, loading := false, taken }
  else
    panel

/-- A call goes on. -/
def act
    (panel : Panel Document) :
    Call → Answered Document → Option (Panel Document × Call × List Call)
  | .searching seq view, ⟨now, outcome⟩ =>
      some (panel.answered seq view now outcome, .finished, [])
  | .finished, _ => none

/-- The view changes, or is searched again. -/
def env
    (panel : Panel Document)
    (calls : List Call) :
    Env → Option (Panel Document × List Call)
  | .change view =>
      if view = panel.view then
        some (panel, calls)
      else
        some ({ panel with view }.runSearch calls)
  | .refresh => some (panel.runSearch calls)

/-- Everything comes in any order. -/
def machine (Document : Type) :
    TaskMachine Unit (Panel Document) Call (Answered Document) Env Empty where
  act _ := act
  env _ := env
  change _ := Empty.elim

/-- The panel with its suspended calls. -/
abbrev World (Document : Type) :=
  TaskMachine.World Unit (Panel Document) Call

/-- One step. -/
abbrev Event (Document : Type) :=
  TaskMachine.Event (Answered Document) Env Empty

/-- The first render. -/
def initial : World Document where
  context := ()
  shared :=
    { view := ⟨[], "ALL".toList, 1⟩
      requestSeq := 0
      result := none
      loading := false
      error := none
      fetchedAt := none
      taken := [] }
  tasks := []

/-- The call awaits the answer to the request with that number. -/
def Call.awaits (seq : Nat) : Call → Nat
  | .searching own _ => if own = seq then 1 else 0
  | .finished => 0

/-- The panel shows that answer. -/
def Displays
    (panel : Panel Document) :
    Outcome Document → Prop
  | .ok response =>
      panel.result = some response ∧ panel.error = response.error
  | .error message => panel.error = some message

/-- What holds of the requests and of what is shown. -/
structure Current (world : World Document) : Prop where
  old :
    ∀ seq view, .searching seq view ∈ world.tasks →
      seq ≤ world.shared.requestSeq ∧
        (seq = world.shared.requestSeq → view = world.shared.view)
  single :
    totalOf (Call.awaits world.shared.requestSeq) world.tasks =
      if world.shared.loading then 1 else 0
  ordered :
    world.shared.taken.Pairwise fun earlier later =>
      earlier.seq < later.seq
  past :
    ∀ taken ∈ world.shared.taken,
      taken.seq + (if world.shared.loading then 1 else 0) ≤
        world.shared.requestSeq
  shown :
    world.shared.loading = false → world.shared.requestSeq ≠ 0 →
      ∃ outcome,
        world.shared.taken.getLast? =
            some ⟨world.shared.requestSeq, world.shared.view, outcome⟩ ∧
          Displays world.shared outcome
  latest :
    world.shared.result =
      (world.shared.taken.filterMap fun taken =>
        taken.outcome.toOption).getLast?

/-- What a step can do. -/
inductive StepSpec :
    World Document → Event Document → World Document → Prop where
  | answered
      {panel : Panel Document}
      {calls : List Call}
      {index seq : Nat}
      {view : View}
      (found : calls[index]? = some (.searching seq view))
      (answer : Answered Document) :
      StepSpec ⟨(), panel, calls⟩ (.act index answer)
        ⟨(), panel.answered seq view answer.now answer.outcome,
          calls.set index .finished⟩
  | searched
      (panel : Panel Document)
      (calls : List Call)
      (view : View)
      (cause : Env) :
      StepSpec ⟨(), panel, calls⟩ (.env cause)
        ⟨(), ({ panel with view }.runSearch calls).1,
          ({ panel with view }.runSearch calls).2⟩
  | unchanged
      (world : World Document)
      (cause : Env) :
      StepSpec world (.env cause) world

/-- Every step is one of these. -/
theorem step_spec
    {before after : World Document}
    {event : Event Document}
    (taken : (machine Document).step before event = some after) :
    StepSpec before event after := by
  obtain ⟨⟨⟩, panel, calls⟩ := before
  cases event with
  | act index answer =>
      obtain ⟨call, shared, next, spawned, found, moved, rfl⟩ :=
        step_act taken
      cases call with
      | finished => cases moved
      | searching seq view =>
          obtain ⟨rfl, rfl, rfl⟩ :
              panel.answered seq view answer.now answer.outcome = shared ∧
                Call.finished = next ∧ [] = spawned := by
            simpa [machine, act] using moved
          simp only [List.append_nil]
          exact .answered found answer
  | env cause =>
      obtain ⟨shared, next, moved, rfl⟩ := step_env taken
      cases cause with
      | change view =>
          simp only [machine, env] at moved
          split at moved
          · cases moved
            exact .unchanged _ _
          · cases moved
            exact .searched panel calls view _
      | refresh =>
          cases moved
          exact .searched panel calls panel.view _
  | change change => cases change

section Steps

variable
  {panel : Panel Document}
  {calls : List Call}

/-- Older requests are not the newest one. -/
theorem totalOf_awaits
    {seq : Nat}
    (old :
      ∀ own view, .searching own view ∈ calls → own ≠ seq) :
    totalOf (Call.awaits seq) calls = 0 := by
  apply totalOf_eq_zero
  intro call member
  cases call with
  | searching own view => exact if_neg (old own view member)
  | finished => rfl

/-- A new search, for the view as it is by now. -/
theorem Current.runSearch
    {view : View}
    (current : Current ⟨(), panel, calls⟩) :
    Current
      ⟨(), ({ panel with view }.runSearch calls).1,
        ({ panel with view }.runSearch calls).2⟩ := by
  obtain ⟨old, single, ordered, past, -, latest⟩ := current
  refine ⟨?_, ?_, ordered, ?_, Bool.noConfusion, latest⟩
  · intro seq other member
    rcases List.mem_append.mp member with isOld | isNew
    · have before := (old seq other isOld).1
      exact ⟨before.trans (Nat.le_succ _),
        fun same => absurd (same ▸ before) (Nat.not_succ_le_self _)⟩
    · obtain ⟨rfl, rfl⟩ :=
        Call.searching.inj (List.mem_singleton.mp isNew)
      exact ⟨Nat.le_refl _, fun _ => rfl⟩
  · have none :
        totalOf (Call.awaits (panel.requestSeq + 1)) calls = 0 :=
      totalOf_awaits fun own other member =>
        ((old own other member).1.trans_lt (Nat.lt_succ_self _)).ne
    simp only [Panel.runSearch, totalOf_append, none]
    simp [Call.awaits]
  · intro taken member
    have before :=
      (Nat.le_add_right taken.seq _).trans (past taken member)
    exact Nat.succ_le_succ before

/-- An answer that is not the newest changes nothing. -/
theorem Panel.answered_of_ne
    {seq : Nat}
    (stale : seq ≠ panel.requestSeq)
    (view : View)
    (now : Int)
    (outcome : Outcome Document) :
    panel.answered seq view now outcome = panel := by
  simp [Panel.answered, stale]

/-- The newest answer is taken over and shown, and nothing is loading. -/
theorem Panel.answered_newest
    (panel : Panel Document)
    (view : View)
    (now : Int)
    (outcome : Outcome Document) :
    let after := panel.answered panel.requestSeq view now outcome
    after.view = panel.view ∧
      after.requestSeq = panel.requestSeq ∧
      after.loading = false ∧
      after.taken =
        panel.taken ++ [⟨panel.requestSeq, view, outcome⟩] ∧
      Displays after outcome ∧
      after.result = outcome.toOption.or panel.result := by
  cases outcome with
  | ok response =>
      simp [Panel.answered, Displays, Except.toOption]
  | error message =>
      simp [Panel.answered, Displays, Except.toOption]

/-- The last of the results, once there is one more answer. -/
theorem getLast?_filterMap_append
    {Item Kept : Type}
    (keep : Item → Option Kept)
    (items : List Item)
    (last : Item) :
    ((items ++ [last]).filterMap keep).getLast? =
      (keep last).or (items.filterMap keep).getLast? := by
  rw [List.filterMap_append, List.getLast?_append]
  congr 1
  cases found : keep last with
  | none => simp [found]
  | some kept => simp [found]

/-- No search is awaited anew when one is answered. -/
theorem searching_of_set
    {index seq : Nat}
    {view : View}
    (member : .searching seq view ∈ calls.set index .finished) :
    .searching seq view ∈ calls := by
  rcases List.mem_or_eq_of_mem_set member with isOld | isFinished
  · exact isOld
  · exact Call.noConfusion isFinished

/-- An older search is answered, and nothing happens. -/
theorem Current.answered_stale
    {index seq : Nat}
    {view : View}
    (current : Current ⟨(), panel, calls⟩)
    (found : calls[index]? = some (.searching seq view))
    (stale : seq ≠ panel.requestSeq) :
    Current ⟨(), panel, calls.set index .finished⟩ := by
  obtain ⟨old, single, ordered, past, shown, latest⟩ := current
  have exchanged :=
    totalOf_set (Call.awaits panel.requestSeq) .finished found
  have other : Call.awaits panel.requestSeq (.searching seq view) = 0 :=
    if_neg stale
  refine ⟨?_, ?_, ordered, past, shown, latest⟩
  · exact fun own other member => old own other (searching_of_set member)
  · rw [other] at exchanged
    simpa [Call.awaits] using exchanged.trans (congrArg (· + 0) single)

/-- The newest search is answered, and nothing is loading any more. -/
theorem Current.answered_newest
    {index : Nat}
    {view : View}
    (current : Current ⟨(), panel, calls⟩)
    (found : calls[index]? = some (.searching panel.requestSeq view))
    (now : Int)
    (outcome : Outcome Document) :
    Current
      ⟨(), panel.answered panel.requestSeq view now outcome,
        calls.set index .finished⟩ := by
  obtain ⟨old, single, ordered, past, -, latest⟩ := current
  obtain ⟨sameView, sameSeq, idle, appended, displayed, result⟩ :=
    panel.answered_newest view now outcome
  have isView : view = panel.view :=
    (old _ view (List.mem_of_getElem? found)).2 rfl
  have exchanged :=
    totalOf_set (Call.awaits panel.requestSeq) .finished found
  have awaited :
      Call.awaits panel.requestSeq (.searching panel.requestSeq view) = 1 :=
    if_pos rfl
  have loading : panel.loading = true := by
    by_contra notLoading
    rw [awaited, single, if_neg notLoading] at exchanged
    simp [Call.awaits] at exchanged
  simp only [loading, if_true] at past single
  rw [awaited, single] at exchanged
  refine ⟨?_, ?_, ?_, ?_, ?_, ?_⟩
  · simp only [sameView, sameSeq]
    exact fun own other member => old own other (searching_of_set member)
  · simp only [sameSeq, idle]
    simpa [Call.awaits] using exchanged
  · simp only [appended]
    refine List.pairwise_append.mpr
      ⟨ordered, List.pairwise_singleton _ _, ?_⟩
    intro earlier member later isLater
    rw [List.mem_singleton.mp isLater]
    exact past earlier member
  · intro taken member
    simp only [appended] at member
    simp only [sameSeq, idle, Bool.false_eq_true, if_false]
    rcases List.mem_append.mp member with isOld | isNew
    · exact (Nat.le_succ _).trans (past taken isOld)
    · rw [List.mem_singleton.mp isNew]
      exact Nat.le_refl _
  · intro _ _
    refine ⟨outcome, ?_, displayed⟩
    exact (congrArg List.getLast? appended).trans
      (List.getLast?_concat.trans (by rw [sameSeq, sameView, isView]))
  · simp only [result, appended]
    rw [getLast?_filterMap_append, latest]

/-- Every step keeps the invariant. -/
theorem Current.step
    {before after : World Document}
    {event : Event Document}
    (current : Current before)
    (taken : (machine Document).step before event = some after) :
    Current after := by
  cases step_spec taken with
  | @answered panel calls index seq view found answer =>
      by_cases newest : seq = panel.requestSeq
      · subst newest
        exact current.answered_newest found answer.now answer.outcome
      · rw [Panel.answered_of_ne newest]
        exact current.answered_stale found newest
  | searched panel calls view cause => exact current.runSearch
  | unchanged world cause => exact current

end Steps

/-! ### Answers from an index that does not change -/

section Answers

open SearchService

variable
  {search : Search Document}
  {before after : World Document}
  {event : Event Document}

/-- A search is answered for its own view, or it fails on the way. -/
def Answers
    (search : Search Document)
    (world : World Document) : Event Document → Prop
  | .act index ⟨_, .ok response⟩ =>
      match world.tasks[index]? with
      | some (.searching _ view) =>
          response = browse search view.query view.tier view.page
      | _ => True
  | _ => True

/-- What has been taken over was found in the index. -/
def Found
    (search : Search Document)
    (panel : Panel Document) : Prop :=
  ∀ taken ∈ panel.taken, ∀ response, taken.outcome = .ok response →
    response =
      browse search taken.view.query taken.view.tier taken.view.page

/-- Every step keeps that. -/
theorem Found.step
    (found : Found search before.shared)
    (answers : Answers search before event)
    (taken : (machine Document).step before event = some after) :
    Found search after.shared := by
  cases step_spec taken with
  | @answered panel calls index seq view atIndex answer =>
      by_cases newest : seq = panel.requestSeq
      · subst newest
        obtain ⟨-, -, -, appended, -, -⟩ :=
          panel.answered_newest view answer.now answer.outcome
        intro other member response isOk
        rcases List.mem_append.mp (appended ▸ member) with isOld | isNew
        · exact found other isOld response isOk
        · obtain rfl := List.mem_singleton.mp isNew
          obtain ⟨now, outcome⟩ := answer
          obtain rfl : outcome = .ok response := isOk
          simpa only [Answers, atIndex] using answers
      · simp only [Panel.answered_of_ne newest]
        exact found
  | searched panel calls view cause => exact found
  | unchanged world cause => exact found

end Answers

/-- Nothing has been searched for yet. -/
theorem Current.start : Current (initial : World Document) where
  old _ _ member := absurd member List.not_mem_nil
  single := rfl
  ordered := .nil
  past := List.forall_mem_nil _
  shown _ none := absurd rfl none
  latest := rfl

section Runs

open SearchService

/-- Whether an answer is admitted can be tested. -/
instance
    [DecidableEq Document]
    (search : Search Document)
    (world : World Document)
    (event : Event Document) :
    Decidable (Answers search world event) :=
  match event with
  | .act index ⟨_, .ok response⟩ =>
      match found : world.tasks[index]? with
      | some (.searching _ view) =>
          decidable_of_iff
            (response = browse search view.query view.tier view.page)
            (by simp only [Answers, found])
      | some .finished => .isTrue (by simp only [Answers, found])
      | none => .isTrue (by simp only [Answers, found])
  | .act _ ⟨_, .error _⟩ => .isTrue trivial
  | .env _ => .isTrue trivial

/-- The next page is asked for at once, and is answered before the first one. -/
def sampleSession : List (Event Nat) :=
  [.env .refresh, .env (.change ⟨[], "ALL".toList, 2⟩),
    .act 1 ⟨5, .ok (browse sampleSearch [] "ALL".toList 2)⟩,
    .act 0 ⟨7, .ok (browse sampleSearch [] "ALL".toList 1)⟩]

end Runs

end Replication.DataBrowser
