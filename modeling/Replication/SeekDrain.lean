import Mathlib.Data.List.Sort
import Mathlib.Data.List.Nodup

namespace SeekDrain

/-!
# Draining by a seek key

Rows are listed in a fixed order, and fetched in pages: the first `limit` rows
whose key is above a cursor.  The next cursor is the key of the last row of the
page.  The order of the list need not be that of the keys.  Every drain ends, but
it returns each row once only if the pages tile the list: each ends with its
largest key, and all later keys are above it.
-/

variable {Row Key : Type} [LinearOrder Key]

section Definitions

variable (key : Row → Key) (limit : Nat)

/-- The rows above a cursor, in their order. -/
def above (after : Key) (rows : List Row) : List Row :=
  rows.filter fun row => after < key row

/-- The first `limit` rows above a cursor. -/
def page (after : Key) (rows : List Row) : List Row :=
  (above key after rows).take limit

/-- What so many fetches return up to an empty page, if they reach one. -/
def drain (rows : List Row) : Nat → Key → Option (List Row)
  | 0, _ => none
  | fetches + 1, after =>
      match (page key limit after rows).getLast? with
      | none => some []
      | some last =>
          (drain rows fetches (key last)).map fun later =>
            page key limit after rows ++ later

/-- Cut into pages, each page ends with its largest key, below all later ones. -/
inductive Tiled : List Row → Prop where
  | nil : Tiled []
  | page
      (rows : List Row)
      (last : Row)
      (isLast : (rows.take limit).getLast? = some last)
      (largest : ∀ row ∈ rows.take limit, key row ≤ key last)
      (ascends : ∀ row ∈ rows.drop limit, key last < key row)
      (later : Tiled (rows.drop limit)) :
      Tiled rows

end Definitions

section Drain

variable
  {key : Row → Key}
  {limit fetches : Nat}
  {rows returned : List Row}
  {after next : Key}
  {row last : Row}

/-- The rows above a cursor are rows above it. -/
@[simp] theorem mem_above :
    row ∈ above key after rows ↔ row ∈ rows ∧ after < key row := by
  simp [above]

/-- The rows above a later cursor are among those above an earlier one. -/
theorem above_above (raised : after ≤ next) :
    above key next (above key after rows) = above key next rows := by
  rw [above, above, List.filter_filter]
  refine List.filter_congr fun row _ => ?_
  simp only [Bool.and_eq_decide, decide_eq_decide, decide_eq_true_eq]
  exact ⟨And.left, fun isAbove => ⟨isAbove, raised.trans_lt isAbove⟩⟩

/-- The last row of a page is above the cursor. -/
theorem lt_of_isLast
    (isLast : (page key limit after rows).getLast? = some last) :
    after < key last :=
  (mem_above.mp (List.mem_of_mem_take (List.mem_of_getLast? isLast))).2

/-- With each page fewer rows are above the cursor. -/
theorem length_above_lt
    (isLast : (page key limit after rows).getLast? = some last) :
    (above key (key last) rows).length < (above key after rows).length := by
  have raised := lt_of_isLast isLast
  have lastAbove : last ∈ above key after rows :=
    List.mem_of_mem_take (List.mem_of_getLast? isLast)
  rw [← above_above raised.le]
  refine List.length_filter_lt_length_iff_exists.mpr ⟨last, lastAbove, ?_⟩
  simp

/-- A page with room is empty only if nothing is above the cursor. -/
theorem above_eq_nil
    (room : 0 < limit)
    (empty : (page key limit after rows).getLast? = none) :
    above key after rows = [] := by
  rw [List.getLast?_eq_none_iff, page, List.take_eq_nil_iff] at empty
  exact empty.resolve_left (Nat.ne_of_gt room)

/-- The drain ends after as many pages as there are rows, at the latest. -/
theorem exists_drain
    (enough : (above key after rows).length < fetches) :
    ∃ returned, drain key limit rows fetches after = some returned := by
  induction fetches generalizing after with
  | zero => simp at enough
  | succ fetches inductionHypothesis =>
      rw [drain]
      cases isLast : (page key limit after rows).getLast? with
      | none => exact ⟨[], rfl⟩
      | some last =>
          have fewer := length_above_lt isLast
          obtain ⟨later, drained⟩ :=
            @inductionHypothesis (key last) (by omega)
          exact ⟨page key limit after rows ++ later, by simp [drained]⟩

/-- Only rows above the cursor are returned. -/
theorem mem_above_of_drain
    (drained : drain key limit rows fetches after = some returned)
    (member : row ∈ returned) :
    row ∈ above key after rows := by
  induction fetches generalizing after returned with
  | zero => cases drained
  | succ fetches inductionHypothesis =>
      rw [drain] at drained
      split at drained
      · cases drained
        cases member
      · rename_i last isLast
        obtain ⟨later, drainedLater, rfl⟩ :=
          Option.map_eq_some_iff.mp drained
        rcases List.mem_append.mp member with onPage | inLater
        · exact List.mem_of_mem_take onPage
        · obtain ⟨inRows, isAbove⟩ :=
            mem_above.mp (inductionHypothesis drainedLater inLater)
          exact mem_above.mpr
            ⟨inRows, (lt_of_isLast isLast).trans isAbove⟩

/-- The first row above the cursor is returned. -/
theorem mem_drain_of_head
    {behind : List Row}
    (room : 0 < limit)
    (first : above key after rows = row :: behind)
    (drained : drain key limit rows fetches after = some returned) :
    row ∈ returned := by
  cases fetches with
  | zero => cases drained
  | succ fetches =>
      rw [drain] at drained
      split at drained
      · rename_i empty
        rw [above_eq_nil room empty] at first
        cases first
      · obtain ⟨later, _, rfl⟩ := Option.map_eq_some_iff.mp drained
        refine List.mem_append_left _ ?_
        obtain ⟨more, rfl⟩ := Nat.exists_eq_succ_of_ne_zero room.ne'
        rw [page, first, List.take_succ_cons]
        exact List.mem_cons_self

/-- Behind a page with its largest key at the end nothing is skipped. -/
theorem above_eq_drop
    (isLast : (page key limit after rows).getLast? = some last)
    (largest : ∀ row ∈ page key limit after rows, key row ≤ key last)
    (ascends :
      ∀ row ∈ (above key after rows).drop limit, key last < key row) :
    above key (key last) rows = (above key after rows).drop limit := by
  rw [← above_above (lt_of_isLast isLast).le]
  have onPage :
      above key (key last) (page key limit after rows) = [] := by
    refine List.filter_eq_nil_iff.mpr fun row member => ?_
    simpa using largest row member
  have behind :
      above key (key last) ((above key after rows).drop limit) =
        (above key after rows).drop limit := by
    refine List.filter_eq_self.mpr fun row member => ?_
    simpa using ascends row member
  calc above key (key last) (above key after rows)
      = above key (key last)
          (page key limit after rows ++
            (above key after rows).drop limit) := by
        rw [page, List.take_append_drop]
    _ = (above key after rows).drop limit := by
        rw [above, List.filter_append]
        exact (congrArg₂ (· ++ ·) onPage behind).trans (List.nil_append _)

/-- A drain of tiled rows returns them in their order. -/
theorem drain_of_tiled
    (room : 0 < limit)
    (tiled : Tiled key limit (above key after rows))
    (drained : drain key limit rows fetches after = some returned) :
    returned = above key after rows := by
  induction fetches generalizing after returned with
  | zero => cases drained
  | succ fetches inductionHypothesis =>
      rw [drain] at drained
      split at drained
      · rename_i empty
        cases drained
        exact (above_eq_nil room empty).symm
      · rename_i last isLast
        obtain ⟨later, drainedLater, rfl⟩ :=
          Option.map_eq_some_iff.mp drained
        generalize listed : above key after rows = items at tiled
        cases tiled with
        | nil =>
            rw [page, listed] at isLast
            simp at isLast
        | page _ other otherLast largest ascends tiledLater =>
            have same : some last = some other := by
              rw [← isLast, page, listed, otherLast]
            cases same
            subst listed
            have behind := above_eq_drop isLast largest ascends
            rw [← behind] at tiledLater
            rw [inductionHypothesis tiledLater drainedLater, behind, page,
              List.take_append_drop]

/-- If no row of a page comes again, the last one has its largest key. -/
theorem le_last_of_apart
    {later : List Row}
    (room : 0 < limit)
    (isLast : (page key limit after rows).getLast? = some last)
    (drainedLater :
      drain key limit rows fetches (key last) = some later)
    (apart : ∀ row ∈ page key limit after rows, row ∉ later) :
    ∀ row ∈ page key limit after rows, key row ≤ key last := by
  intro row onPage
  by_contra isLarger
  have again :
      row ∈ above key (key last) (page key limit after rows) :=
    mem_above.mpr ⟨onPage, lt_of_not_ge isLarger⟩
  cases first :
      above key (key last) (page key limit after rows) with
  | nil =>
      rw [first] at again
      cases again
  | cons head behind =>
      -- the rows of the page come first in the list, also above its last key
      have headAgain :
          head ∈ above key (key last) (page key limit after rows) := by
        rw [first]
        exact List.mem_cons_self
      have isFirst :
          above key (key last) rows =
            head :: (behind ++
              above key (key last)
                ((above key after rows).drop limit)) := by
        rw [← above_above (lt_of_isLast isLast).le,
          ← List.take_append_drop limit (above key after rows)]
        rw [page] at first
        rw [above, List.filter_append]
        change above key (key last) _ ++ above key (key last) _ = _
        rw [first, List.take_append_drop]
        rfl
      exact apart head (mem_above.mp headAgain).1
        (mem_drain_of_head room isFirst drainedLater)

/--
If a drain returns every row above its cursor, and none twice, the rows are
tiled.  A larger key before the end of a page would come first on the next page,
and a row behind the page whose key is not above its last would never come.
-/
theorem tiled_of_drain
    (room : 0 < limit)
    (distinct : rows.Nodup)
    (drained : drain key limit rows fetches after = some returned)
    (once : returned.Nodup)
    (all : ∀ row ∈ above key after rows, row ∈ returned) :
    Tiled key limit (above key after rows) := by
  induction fetches generalizing after returned with
  | zero => cases drained
  | succ fetches inductionHypothesis =>
      rw [drain] at drained
      split at drained
      · rename_i empty
        rw [above_eq_nil room empty]
        exact .nil
      · rename_i last isLast
        obtain ⟨later, drainedLater, rfl⟩ :=
          Option.map_eq_some_iff.mp drained
        obtain ⟨-, onceLater, apart⟩ := List.nodup_append.mp once
        have largest :=
          le_last_of_apart room isLast drainedLater
            fun row onPage inLater => apart row onPage row inLater rfl
        have ascends :
            ∀ row ∈ (above key after rows).drop limit,
              key last < key row := by
          intro row behind
          have distinctAbove : (above key after rows).Nodup :=
            distinct.filter _
          rw [← List.take_append_drop limit (above key after rows),
            List.nodup_append] at distinctAbove
          rcases List.mem_append.mp
            (all row (List.mem_of_mem_drop behind)) with onPage | inLater
          · exact absurd rfl
              (distinctAbove.2.2 row onPage row behind)
          · exact (mem_above.mp
              (mem_above_of_drain drainedLater inLater)).2
        have behind := above_eq_drop isLast largest ascends
        refine .page _ last isLast largest ascends ?_
        rw [← behind]
        refine inductionHypothesis drainedLater onceLater ?_
        intro row member
        obtain ⟨inRows, isAbove⟩ := mem_above.mp member
        rcases List.mem_append.mp
          (all row (mem_above.mpr
            ⟨inRows, (lt_of_isLast isLast).trans isAbove⟩)) with
          onPage | inLater
        · exact absurd isAbove (not_lt_of_ge (largest row onPage))
        · exact inLater

end Drain

end SeekDrain
