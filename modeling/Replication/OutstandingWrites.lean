import Mathlib.Data.Set.Insert
import Mathlib.Order.WithBot

namespace Replication

/-!
# Copies written from outstanding snapshots

A versioned source is copied to an index by writers that read a row at one time
and write it at another.  What has been read and not yet been written is
outstanding.  If a snapshot is written only when no older one of the same key is
outstanding, the index never goes back to an older version.
-/

/-- The current rows, the versions in the index, and the snapshots between. -/
structure Replica (Key Version : Type) where
  rows : Set (Key × Version)
  index : Key → WithBot Version
  outstanding : Set (Key × Version)

namespace Replica

variable {Key Version : Type} [Preorder Version]

/-- The index is behind the snapshots, and these are behind the rows. -/
structure Ordered (replica : Replica Key Version) : Prop where
  functional :
    ∀ {key first second},
      (key, first) ∈ replica.rows →
      (key, second) ∈ replica.rows → first = second
  indexBehind :
    ∀ {key version},
      (key, version) ∈ replica.outstanding → replica.index key ≤ version
  rowAhead :
    ∀ {key version row},
      (key, version) ∈ replica.outstanding →
      (key, row) ∈ replica.rows → version ≤ row
  indexBehindRow :
    ∀ {key row},
      (key, row) ∈ replica.rows → replica.index key ≤ row

variable {before after : Replica Key Version}

/-- A row that is read is ordered like an outstanding snapshot. -/
theorem Ordered.read
    (holds : before.Ordered)
    (sameRows : after.rows = before.rows)
    (sameIndex : after.index = before.index)
    (bounded : after.outstanding ⊆ before.outstanding ∪ before.rows) :
    after.Ordered where
  functional := by
    rw [sameRows]
    exact holds.functional
  indexBehind member := by
    rw [sameIndex]
    rcases bounded member with old | row
    · exact holds.indexBehind old
    · exact holds.indexBehindRow row
  rowAhead member inRows := by
    rw [sameRows] at inRows
    rcases bounded member with old | row
    · exact holds.rowAhead old inRows
    · exact (holds.functional row inRows).le
  indexBehindRow inRows := by
    rw [sameRows] at inRows
    rw [sameIndex]
    exact holds.indexBehindRow inRows

/-- Raising rows leaves snapshots and index behind. -/
theorem Ordered.raise
    (holds : before.Ordered)
    (functional :
      ∀ {key first second},
        (key, first) ∈ after.rows →
        (key, second) ∈ after.rows → first = second)
    (raised :
      ∀ {key version},
        (key, version) ∈ after.rows →
        ∃ old ≤ version, (key, old) ∈ before.rows)
    (sameIndex : after.index = before.index)
    (bounded : after.outstanding ⊆ before.outstanding) :
    after.Ordered where
  functional := functional
  indexBehind member := by
    rw [sameIndex]
    exact holds.indexBehind (bounded member)
  rowAhead member inRows := by
    obtain ⟨old, notHigher, inOld⟩ := raised inRows
    exact le_trans (holds.rowAhead (bounded member) inOld) notHigher
  indexBehindRow inRows := by
    obtain ⟨old, notHigher, inOld⟩ := raised inRows
    rw [sameIndex]
    exact le_trans (holds.indexBehindRow inOld)
      (WithBot.coe_le_coe.mpr notHigher)

/-- A snapshot made up between index and row is ordered like the others. -/
theorem Ordered.made
    {key : Key}
    {version : Version}
    (holds : before.Ordered)
    (notBehind : before.index key ≤ version)
    (notAhead : ∀ {row}, (key, row) ∈ before.rows → version ≤ row)
    (sameRows : after.rows = before.rows)
    (sameIndex : after.index = before.index)
    (bounded :
      after.outstanding ⊆ insert (key, version) before.outstanding) :
    after.Ordered where
  functional := by
    rw [sameRows]
    exact holds.functional
  indexBehind member := by
    rw [sameIndex]
    rcases bounded member with isMade | old
    · cases isMade
      exact notBehind
    · exact holds.indexBehind old
  rowAhead member inRows := by
    rw [sameRows] at inRows
    rcases bounded member with isMade | old
    · cases isMade
      exact notAhead inRows
    · exact holds.rowAhead old inRows
  indexBehindRow inRows := by
    rw [sameRows] at inRows
    rw [sameIndex]
    exact holds.indexBehindRow inRows

variable [DecidableEq Key]

/-- Writing an oldest snapshot keeps the index behind the others. -/
theorem Ordered.write
    {key : Key}
    {version : Version}
    (holds : before.Ordered)
    (member : (key, version) ∈ before.outstanding)
    (oldest :
      ∀ {other}, (key, other) ∈ before.outstanding → version ≤ other)
    (sameRows : after.rows = before.rows)
    (written :
      after.index = Function.update before.index key (version : WithBot _))
    (bounded : after.outstanding ⊆ before.outstanding) :
    after.Ordered where
  functional := by
    rw [sameRows]
    exact holds.functional
  indexBehind {other otherVersion} otherMember := by
    have old := bounded otherMember
    rw [written]
    by_cases isKey : other = key
    · subst isKey
      rw [Function.update_self]
      exact WithBot.coe_le_coe.mpr (oldest old)
    · rw [Function.update_of_ne isKey]
      exact holds.indexBehind old
  rowAhead otherMember inRows := by
    rw [sameRows] at inRows
    exact holds.rowAhead (bounded otherMember) inRows
  indexBehindRow {other row} inRows := by
    rw [sameRows] at inRows
    rw [written]
    by_cases isKey : other = key
    · subst isKey
      rw [Function.update_self]
      exact WithBot.coe_le_coe.mpr (holds.rowAhead member inRows)
    · rw [Function.update_of_ne isKey]
      exact holds.indexBehindRow inRows

/-- Rows are read and raised, snapshots are written, dropped and made up. -/
inductive Step (before after : Replica Key Version) : Prop where
  /-- Whatever becomes outstanding is a current row. -/
  | read
      (sameRows : after.rows = before.rows)
      (sameIndex : after.index = before.index)
      (bounded : after.outstanding ⊆ before.outstanding ∪ before.rows)
  /-- Every row is one of the rows before, in a version that is not lower. -/
  | raise
      (functional :
        ∀ {key first second},
          (key, first) ∈ after.rows →
          (key, second) ∈ after.rows → first = second)
      (raised :
        ∀ {key version},
          (key, version) ∈ after.rows →
          ∃ old ≤ version, (key, old) ∈ before.rows)
      (sameIndex : after.index = before.index)
      (bounded : after.outstanding ⊆ before.outstanding)
  /-- An oldest snapshot of its key is written. -/
  | write
      (key : Key)
      (version : Version)
      (member : (key, version) ∈ before.outstanding)
      (oldest :
        ∀ {other}, (key, other) ∈ before.outstanding → version ≤ other)
      (sameRows : after.rows = before.rows)
      (written :
        after.index = Function.update before.index key (version : WithBot _))
      (bounded : after.outstanding ⊆ before.outstanding)
  /-- A snapshot that was not read, between the index and the row. -/
  | made
      (key : Key)
      (version : Version)
      (notBehind : before.index key ≤ version)
      (notAhead : ∀ {row}, (key, row) ∈ before.rows → version ≤ row)
      (sameRows : after.rows = before.rows)
      (sameIndex : after.index = before.index)
      (bounded :
        after.outstanding ⊆ insert (key, version) before.outstanding)

/-- Every step keeps the order. -/
theorem Ordered.step
    (holds : before.Ordered)
    (taken : Step before after) :
    after.Ordered := by
  cases taken with
  | read sameRows sameIndex bounded =>
      exact holds.read sameRows sameIndex bounded
  | raise functional raised sameIndex bounded =>
      exact holds.raise functional raised sameIndex bounded
  | write key version member oldest sameRows written bounded =>
      exact holds.write member oldest sameRows written bounded
  | made key version notBehind notAhead sameRows sameIndex bounded =>
      exact holds.made notBehind notAhead sameRows sameIndex bounded

/-- No step lowers a version of the index. -/
theorem Ordered.index_le
    (holds : before.Ordered)
    (taken : Step before after) :
    before.index ≤ after.index := by
  cases taken with
  | read sameRows sameIndex bounded => exact sameIndex.ge
  | raise functional raised sameIndex bounded => exact sameIndex.ge
  | write key version member oldest sameRows written bounded =>
      rw [written]
      exact le_update_self_iff.mpr (holds.indexBehind member)
  | made key version notBehind notAhead sameRows sameIndex bounded =>
      exact sameIndex.ge

end Replica

end Replication
