import Mathlib.Data.List.Infix
import Mathlib.Data.List.Dedup
import Mathlib.Data.List.Nodup
import Mathlib.Data.List.Perm.Subperm

namespace Replication.SlidingWindow

/-!
# Sliding windows over a history

A bounded memory that forgets its oldest entry first remembers a window: the
last entries of everything it has ever accepted.  A history is spaced when
nothing was accepted while it was still in the window.  Then no window repeats
an entry, and between two acceptances of one entry the memory has been filled
with others.
-/

variable {Key : Type}

/-- The last `capacity` entries of a history. -/
def window (capacity : Nat) (history : List Key) : List Key :=
  history.drop (history.length - capacity)

/-- Nothing was accepted while it was in the window. -/
def Spaced (capacity : Nat) (history : List Key) : Prop :=
  ∀ front key rest, history = front ++ key :: rest →
    key ∉ window capacity front

variable
  {capacity : Nat}
  {history front rest : List Key}
  {key : Key}

/-- A window is the end of its history. -/
theorem window_suffix (capacity : Nat) (history : List Key) :
    window capacity history <:+ history :=
  List.drop_suffix _ _

/-- A window is as long as the history until it is full. -/
theorem length_window (capacity : Nat) (history : List Key) :
    (window capacity history).length = min capacity history.length := by
  rw [window, List.length_drop]
  omega

/-- With room left, nothing is forgotten. -/
theorem window_append_of_room (room : history.length < capacity) :
    window capacity (history ++ [key]) =
      window capacity history ++ [key] := by
  have none : history.length - capacity = 0 :=
    Nat.sub_eq_zero_of_le (Nat.le_of_lt room)
  have stillNone : (history ++ [key]).length - capacity = 0 := by
    rw [List.length_append, List.length_singleton]
    exact Nat.sub_eq_zero_of_le room
  rw [window, window, none, stillNone, List.drop_zero, List.drop_zero]

/-- A full window forgets its oldest entry. -/
theorem window_append_of_full
    (positive : 0 < capacity)
    (full : capacity ≤ history.length) :
    window capacity (history ++ [key]) =
      (window capacity history).tail ++ [key] := by
  have oneMore :
      (history ++ [key]).length - capacity =
        history.length - capacity + 1 := by
    rw [List.length_append, List.length_singleton]
    omega
  rw [window, window, oneMore, List.tail_drop,
    List.drop_append_of_le_length (by omega)]

/-- Either way the new entry is last, after part of the old window. -/
theorem window_append
    (positive : 0 < capacity)
    (history : List Key)
    (key : Key) :
    ∃ kept, kept.Sublist (window capacity history) ∧
      window capacity (history ++ [key]) = kept ++ [key] := by
  by_cases full : capacity ≤ history.length
  · exact ⟨_, List.tail_sublist _, window_append_of_full positive full⟩
  · exact ⟨_, List.Sublist.refl _,
      window_append_of_room (Nat.lt_of_not_le full)⟩

/-- An entry after which fewer than `capacity` came is in the window. -/
theorem mem_window_of_recent (recent : rest.length < capacity) :
    key ∈ window capacity (front ++ key :: rest) := by
  have kept :
      (front ++ key :: rest).length - capacity ≤ front.length := by
    rw [List.length_append, List.length_cons]
    omega
  rw [window, List.drop_append_of_le_length kept]
  exact List.mem_append_right _ List.mem_cons_self

/-- What holds at every entry of a longer history. -/
theorem forall_splits_append
    {Entry : Type}
    {history : List Entry}
    {last : Entry}
    {property : List Entry → Entry → Prop}
    (before :
      ∀ front entry rest, history = front ++ entry :: rest →
        property front entry)
    (atLast : property history last) :
    ∀ front entry rest, history ++ [last] = front ++ entry :: rest →
      property front entry := by
  intro front entry rest same
  rcases List.eq_nil_or_concat rest with rfl | ⟨middle, final, rfl⟩
  · obtain ⟨rfl, lastSame⟩ := List.append_inj' same rfl
    obtain rfl := List.singleton_inj.mp lastSame
    exact atLast
  · have split :
        history ++ [last] = (front ++ entry :: middle) ++ [final] := by
      rw [same]
      simp
    exact before front entry middle (List.append_inj' split rfl).1

namespace Spaced

/-- The empty history is spaced. -/
theorem nil (capacity : Nat) : Spaced capacity ([] : List Key) := by
  intro front key rest same
  simp at same

/-- So is every beginning of a spaced history. -/
theorem of_append (spaced : Spaced capacity (front ++ rest)) :
    Spaced capacity front := by
  rintro before key after rfl
  exact spaced before key (after ++ rest) (by simp)

/-- An entry that is not in the window may be accepted. -/
theorem append
    (spaced : Spaced capacity history)
    (new : key ∉ window capacity history) :
    Spaced capacity (history ++ [key]) :=
  forall_splits_append spaced new

/-- No window of a spaced history repeats an entry. -/
theorem nodup_window
    (positive : 0 < capacity)
    (spaced : Spaced capacity history) :
    (window capacity history).Nodup := by
  induction history using List.reverseRecOn with
  | nil => simp [window]
  | append_singleton history key inductionHypothesis =>
      have nodup := inductionHypothesis spaced.of_append
      have new := spaced history key [] rfl
      obtain ⟨kept, inWindow, same⟩ := window_append positive history key
      rw [same, List.nodup_append]
      refine ⟨nodup.sublist inWindow, List.nodup_singleton _, ?_⟩
      rintro other isKept last isLast rfl
      obtain rfl := List.mem_singleton.mp isLast
      exact new (inWindow.subset isKept)

/--
Between two acceptances of one entry come `capacity` different others, the last
ones before the second acceptance.
-/
theorem apart
    {first between : List Key}
    (positive : 0 < capacity)
    (spaced :
      Spaced capacity (first ++ key :: (between ++ key :: rest))) :
    ∃ others, others <:+ between ∧ others.length = capacity ∧
      others.Nodup ∧ key ∉ others := by
  have forgotten :
      key ∉ window capacity (first ++ key :: between) :=
    spaced _ key rest (by simp)
  have many : capacity ≤ between.length := by
    by_contra few
    exact forgotten (mem_window_of_recent (Nat.lt_of_not_le few))
  have ends : between <:+ first ++ key :: between :=
    ⟨first ++ [key], by simp⟩
  have length :
      (window capacity (first ++ key :: between)).length = capacity := by
    rw [length_window, List.length_append, List.length_cons]
    omega
  have split :
      first ++ key :: (between ++ key :: rest) =
        (first ++ key :: between) ++ key :: rest := by
    simp
  have front : Spaced capacity (first ++ key :: between) :=
    Spaced.of_append (split ▸ spaced)
  exact ⟨_,
    List.suffix_of_suffix_length_le (window_suffix _ _) ends
      (length.trans_le many),
    length, front.nodup_window positive, forgotten⟩

/-- With no more entries than the window holds, nothing is accepted twice. -/
theorem nodup_of_few
    [DecidableEq Key]
    {known : List Key}
    (spaced : Spaced capacity history)
    (within : history ⊆ known)
    (few : known.dedup.length ≤ capacity) :
    history.Nodup := by
  induction history using List.reverseRecOn with
  | nil => exact List.nodup_nil
  | append_singleton history key inductionHypothesis =>
      have inside : history ⊆ known :=
        fun _ member => within (List.mem_append_left _ member)
      have nodup := inductionHypothesis spaced.of_append inside
      have short : history.length ≤ capacity := by
        refine Nat.le_trans ?_ few
        exact (nodup.subperm fun _ member =>
          List.mem_dedup.mpr (inside member)).length_le
      have whole : window capacity history = history := by
        rw [window, Nat.sub_eq_zero_of_le short, List.drop_zero]
      have new : key ∉ history := whole ▸ spaced history key [] rfl
      rw [List.nodup_append]
      refine ⟨nodup, List.nodup_singleton _, ?_⟩
      rintro other isOld last isLast rfl
      obtain rfl := List.mem_singleton.mp isLast
      exact new isOld

end Spaced

end Replication.SlidingWindow
