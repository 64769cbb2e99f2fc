import Replication.Json
import Mathlib

namespace Replication

/-!
# Merging JSON documents

A partial document is merged into a stored one member by member: objects are
merged recursively, and every other value replaces what is there.  Documents are
compared by what they have at each path.  After a history of merges the value at
a path is that of the last document that gives it.
-/

namespace Json

section Merge

mutual

/-- `new` is merged into `old`. -/
def merge (old : Json) : Json → Json
  | .obj changes =>
      match old with
      | .obj source =>
          .obj
            (source.filter
                (fun entry => !changes.any fun change => change.1 = entry.1) ++
              mergeFields source changes)
      | _ => .obj changes
  | new => new

/-- The changed members, each merged into what `source` has of its name. -/
def mergeFields (source : List (String × Json)) :
    List (String × Json) → List (String × Json)
  | [] => []
  | (name, changed) :: rest =>
      (name,
        match (obj source).field name with
        | some old => merge old changed
        | none => changed) :: mergeFields source rest

end

end Merge

/-- A value without the members of an object. -/
def face : Json → Json
  | .obj _ => .obj []
  | value => value

/-- What the value has at a path of names, apart from members of an object. -/
def view : List String → Json → Option Json
  | [], value => some value.face
  | name :: path, value => (value.field name).bind (view path)

/-- The value has the path, or a value that is no object on the way to it. -/
def gives : List String → Json → Bool
  | [], _ => true
  | name :: path, .obj fields => ((obj fields).field name).any (gives path)
  | _ :: _, _ => true

/-- A member is looked for in the later fields first. -/
theorem field_append (name : String) (first second : List (String × Json)) :
    (obj (first ++ second)).field name =
      ((obj second).field name).or ((obj first).field name) := by
  simp only [field, List.reverse_append, List.find?_append]
  cases second.reverse.find? fun entry => entry.1 = name <;> rfl

/-- The last field wins. -/
theorem field_cons (name : String) (entry : String × Json)
    (fields : List (String × Json)) :
    (obj (entry :: fields)).field name =
      ((obj fields).field name).or
        (if entry.1 = name then some entry.2 else none) := by
  rw [← List.singleton_append, field_append]
  congr 1
  simp only [field, List.reverse_singleton, List.find?_singleton]
  by_cases same : entry.1 = name <;> simp [same]

/-- Members of a name that is not changed are found as before. -/
theorem field_filter
    {name : String}
    {source : List (String × Json)}
    (keeps : String × Json → Bool)
    (kept : ∀ entry, entry.1 = name → keeps entry = true) :
    (obj (source.filter keeps)).field name = (obj source).field name := by
  induction source with
  | nil => rfl
  | cons entry rest inductionHypothesis =>
      rw [field_cons, List.filter_cons]
      split
      · rw [field_cons, inductionHypothesis]
      · rename_i dropped
        rw [inductionHypothesis, if_neg fun same => dropped (kept entry same),
          Option.or_none]

/-- A name has a field if and only if it is found. -/
theorem isSome_field {name : String} {fields : List (String × Json)} :
    ((obj fields).field name).isSome =
      fields.any fun entry => entry.1 = name := by
  induction fields with
  | nil => rfl
  | cons entry rest inductionHypothesis =>
      rw [field_cons, List.any_cons, Option.isSome_or, inductionHypothesis,
        Bool.or_comm]
      by_cases same : entry.1 = name <;> simp [same]

/-- A changed member. -/
theorem field_mergeFields
    (name : String)
    (source changes : List (String × Json)) :
    (obj (mergeFields source changes)).field name =
      ((obj changes).field name).map fun changed =>
        match (obj source).field name with
        | some old => merge old changed
        | none => changed := by
  induction changes with
  | nil => rfl
  | cons change rest inductionHypothesis =>
      obtain ⟨changedName, changed⟩ := change
      rw [mergeFields, field_cons, inductionHypothesis, field_cons]
      by_cases same : changedName = name
      · subst same
        cases (obj rest).field changedName <;> simp
      · cases (obj rest).field name <;> simp [same]

/-- The members of two merged objects. -/
theorem field_merge
    (name : String)
    (source changes : List (String × Json)) :
    (merge (obj source) (obj changes)).field name =
      match (obj changes).field name, (obj source).field name with
      | some changed, some old => some (merge old changed)
      | some changed, none => some changed
      | none, old => old := by
  rw [merge, field_append, field_mergeFields]
  cases found : (obj changes).field name with
  | some changed =>
      cases (obj source).field name <;> rfl
  | none =>
      have notChanged :
          (changes.any fun change => change.1 = name) = false := by
        rw [← isSome_field, found]
        rfl
      rw [Option.map_none, Option.none_or]
      refine field_filter _ fun entry same => ?_
      rw [same, notChanged]
      rfl

/-- A value that is no object leaves nothing of what it replaces. -/
theorem gives_of_noObject
    {value : Json}
    (noObject : ∀ fields, value ≠ obj fields)
    (path : List String) :
    gives path value = true := by
  cases path with
  | nil => rfl
  | cons name path =>
      cases value with
      | obj fields => exact absurd rfl (noObject fields)
      | _ => rfl

/-- A value has nothing at the paths it does not give. -/
theorem view_of_not_gives
    {path : List String}
    {value : Json}
    (left : gives path value = false) :
    view path value = none := by
  induction path generalizing value with
  | nil => cases left
  | cons name path inductionHypothesis =>
      rw [view]
      cases value with
      | obj fields =>
          rw [gives] at left
          cases found : (obj fields).field name with
          | none => rfl
          | some child =>
              rw [found] at left
              exact inductionHypothesis left
      | _ => rfl

/-- Where `new` gives a path it decides what is there, else `old` does. -/
theorem view_merge
    (path : List String)
    (old new : Json) :
    view path (merge old new) =
      if gives path new then view path new else view path old := by
  induction path generalizing old new with
  | nil =>
      rw [gives, if_pos rfl]
      cases new with
      | obj changes => cases old <;> rfl
      | _ => rfl
  | cons name path inductionHypothesis =>
      cases new with
      | obj changes =>
          rw [gives]
          cases old with
          | obj source =>
              simp only [view]
              rw [field_merge]
              cases (obj changes).field name with
              | none => rfl
              | some changed =>
                  cases (obj source).field name with
                  | none =>
                      cases given : gives path changed with
                      | false => simp [given, view_of_not_gives given]
                      | true => simp [given]
                  | some old => simp [inductionHypothesis]
          | _ =>
              simp only [merge, view]
              cases (obj changes).field name with
              | none => rfl
              | some changed =>
                  cases given : gives path changed with
                  | false => simp [given, field, view_of_not_gives given]
                  | true => simp [given]
      | _ => rfl

/-!
## Histories of merges
-/

/-- The document that is stored after an update with `doc_as_upsert`. -/
def upsert (stored : Option Json) (doc : Json) : Json :=
  match stored with
  | none => doc
  | some old => merge old doc

/-- The document that is stored after a history of updates. -/
def stored (docs : List Json) : Option Json :=
  docs.foldl (fun stored doc => some (upsert stored doc)) none

/-- The last document of the history that gives the path. -/
def lastGiver (path : List String) (docs : List Json) : Option Json :=
  docs.reverse.find? (gives path)

/-- What is stored at a path comes from the last document that gives it. -/
theorem view_stored (path : List String) (docs : List Json) :
    (stored docs).bind (view path) =
      (lastGiver path docs).bind (view path) := by
  induction docs using List.reverseRecOn with
  | nil => rfl
  | append_singleton earlier last inductionHypothesis =>
      have stores :
          stored (earlier ++ [last]) =
            some (upsert (stored earlier) last) := by
        rw [stored, List.foldl_append]
        rfl
      have giver :
          lastGiver path (earlier ++ [last]) =
            if gives path last then some last else lastGiver path earlier := by
        rw [lastGiver, List.reverse_append, List.reverse_singleton,
          List.singleton_append, List.find?_cons]
        cases gives path last <;> rfl
      rw [stores, giver, Option.bind_some]
      cases before : stored earlier with
      | none =>
          rw [before, Option.bind_none] at inductionHypothesis
          cases given : gives path last with
          | true => rfl
          | false =>
              rw [if_neg (by simp), ← inductionHypothesis]
              exact view_of_not_gives given
      | some old =>
          rw [before, Option.bind_some] at inductionHypothesis
          rw [upsert, view_merge]
          cases given : gives path last with
          | true => rfl
          | false =>
              rw [if_neg (by simp), if_neg (by simp)]
              exact inductionHypothesis

/-- The last giver gives the path, and no later document does. -/
theorem lastGiver_eq_some_iff
    {path : List String}
    {docs : List Json}
    {doc : Json} :
    lastGiver path docs = some doc ↔
      gives path doc = true ∧
        ∃ before after, docs = before ++ doc :: after ∧
          ∀ later ∈ after, gives path later = false := by
  rw [lastGiver, List.find?_eq_some_iff_append]
  refine and_congr_right fun _ => ?_
  constructor
  · rintro ⟨newer, older, split, left⟩
    refine ⟨older.reverse, newer.reverse, ?_, fun later member => ?_⟩
    · rw [← List.reverse_reverse docs, split]
      simp
    · simpa using left later (List.mem_reverse.mp member)
  · rintro ⟨before, after, rfl, left⟩
    refine ⟨after.reverse, before.reverse, by simp, fun later member => ?_⟩
    simpa using left later (List.mem_reverse.mp member)

/-- Whatever an earlier document has, some later one or the last one gives. -/
def Superseded (earlier : List Json) (last : Json) : Prop :=
  ∀ before doc after, earlier = before ++ doc :: after →
    ∀ path, (view path doc).isSome = true →
      ∃ later ∈ after ++ [last], gives path later = true

/--
The stored document has the same at every path as the last one of the history if
and only if all earlier ones are superseded.
-/
theorem view_stored_eq_last_iff (earlier : List Json) (last : Json) :
    (∀ path, (stored (earlier ++ [last])).bind (view path) =
        view path last) ↔
      Superseded earlier last := by
  simp only [view_stored]
  constructor
  · rintro same before doc after rfl path has
    by_contra notGiven
    have left : ∀ later ∈ after ++ [last], gives path later = false := by
      intro later member
      exact eq_false_of_ne_true fun given => notGiven ⟨later, member, given⟩
    have given : gives path doc = true := by
      by_contra notGives
      rw [view_of_not_gives (eq_false_of_ne_true notGives)] at has
      cases has
    have giver :
        lastGiver path ((before ++ doc :: after) ++ [last]) = some doc :=
      lastGiver_eq_some_iff.mpr
        ⟨given, before, after ++ [last], by simp, left⟩
    have agree := same path
    rw [giver, Option.bind_some,
      view_of_not_gives (left last (by simp))] at agree
    rw [agree] at has
    cases has
  · intro superseded path
    cases giver : lastGiver path (earlier ++ [last]) with
    | none =>
        have notGiven : gives path last = false := by
          have none := List.find?_eq_none.mp giver last (by simp)
          exact eq_false_of_ne_true none
        rw [view_of_not_gives notGiven]
        rfl
    | some doc =>
        obtain ⟨given, before, after, split, left⟩ :=
          lastGiver_eq_some_iff.mp giver
        rw [Option.bind_some]
        rcases List.eq_nil_or_concat after with rfl | ⟨later, final, rfl⟩
        · -- the last document gives the path
          obtain ⟨-, isLast⟩ := List.append_inj' split rfl
          cases isLast
          rfl
        · rw [List.concat_eq_append, ← List.cons_append,
            ← List.append_assoc] at split
          obtain ⟨earlierSplit, isLast⟩ := List.append_inj' split rfl
          cases isLast
          rw [view_of_not_gives (left last (by simp))]
          by_contra has
          obtain ⟨other, member, givesOther⟩ :=
            superseded before doc later earlierSplit path
              (Option.isSome_iff_ne_none.mpr has)
          rw [left other (by simpa using member)] at givesOther
          cases givesOther

end Json

end Replication
