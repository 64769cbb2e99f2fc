import Mathlib.Data.List.Induction
import Mathlib.Order.Defs.PartialOrder

namespace Replication

/-!
# Maps in the order of insertion

A map as a list of entries.  Setting a key that is there keeps its place, and a
new key goes to the end.  A map that has been filled one entry after another has
every key that occurs in them, with the value of its last entry; if the values
of a key never fall, that is the highest.
-/

/-- The entries of a map, oldest key first. -/
abbrev OrderedMap (Key Value : Type) := List (Key × Value)

namespace OrderedMap

variable {Key Value : Type}

/-- The keys, oldest first. -/
def keys (map : OrderedMap Key Value) : List Key :=
  map.map Prod.fst

/-- As many keys as entries. -/
@[simp] theorem length_keys (map : OrderedMap Key Value) :
    map.keys.length = map.length :=
  List.length_map ..

variable [DecidableEq Key]

/-- Set a key to a value. -/
def set (key : Key) (value : Value) :
    OrderedMap Key Value → OrderedMap Key Value
  | [] => [(key, value)]
  | (other, held) :: rest =>
      if other = key then (key, value) :: rest
      else (other, held) :: set key value rest

/-- The value of a key. -/
def get? (key : Key) : OrderedMap Key Value → Option Value
  | [] => none
  | (other, held) :: rest => if other = key then some held else get? key rest

/-- Set one entry after another. -/
def setAll
    (map : OrderedMap Key Value)
    (entries : List (Key × Value)) : OrderedMap Key Value :=
  entries.foldl (fun map entry => map.set entry.1 entry.2) map

variable
  {key other : Key}
  {value : Value}
  {map : OrderedMap Key Value}

/-- A key that has been set has that value. -/
@[simp] theorem get?_set_self : (map.set key value).get? key = some value := by
  induction map with
  | nil => simp [set, get?]
  | cons entry rest inductionHypothesis =>
      unfold set
      split
      · simp [get?]
      · rename_i different
        rw [get?, if_neg different, inductionHypothesis]

/-- The other keys keep their values. -/
theorem get?_set_of_ne (different : other ≠ key) :
    (map.set key value).get? other = map.get? other := by
  induction map with
  | nil => simp [set, get?, Ne.symm different]
  | cons entry rest inductionHypothesis =>
      unfold set
      split
      · rename_i same
        subst same
        simp [get?, Ne.symm different]
      · simp only [get?, inductionHypothesis]

/-- What has a value is a key. -/
theorem mem_keys_of_get? (found : map.get? key = some value) :
    key ∈ map.keys := by
  induction map with
  | nil => cases found
  | cons entry rest inductionHypothesis =>
      unfold get? at found
      split at found
      · rename_i same
        exact same ▸ List.mem_cons_self
      · exact List.mem_cons_of_mem _ (inductionHypothesis found)

/-- Setting a key adds at most that key. -/
theorem mem_keys_set (member : other ∈ (map.set key value).keys) :
    other = key ∨ other ∈ map.keys := by
  induction map with
  | nil => exact .inl (List.mem_singleton.mp member)
  | cons entry rest inductionHypothesis =>
      unfold set at member
      split at member
      · rcases List.mem_cons.mp member with same | inRest
        · exact .inl same
        · exact .inr (List.mem_cons_of_mem _ inRest)
      · rcases List.mem_cons.mp member with same | inRest
        · exact .inr (same ▸ List.mem_cons_self)
        · exact (inductionHypothesis inRest).imp id (List.mem_cons_of_mem _)

/-- No key is there twice. -/
theorem nodup_keys_set (distinct : map.keys.Nodup) :
    (map.set key value).keys.Nodup := by
  induction map with
  | nil => exact List.pairwise_singleton _ key
  | cons entry rest inductionHypothesis =>
      obtain ⟨fresh, distinctRest⟩ := List.nodup_cons.mp distinct
      unfold set
      split
      · rename_i same
        subst same
        exact List.nodup_cons.mpr ⟨fresh, distinctRest⟩
      · rename_i different
        refine List.nodup_cons.mpr
          ⟨fun inSet => ?_, inductionHypothesis distinctRest⟩
        rcases mem_keys_set inSet with same | inRest
        · exact different same
        · exact fresh inRest

/-- Setting more entries. -/
theorem setAll_append
    (first second : List (Key × Value)) :
    map.setAll (first ++ second) = (map.setAll first).setAll second :=
  List.foldl_append ..

/-- Setting one more entry. -/
theorem setAll_append_singleton
    (entries : List (Key × Value))
    (entry : Key × Value) :
    map.setAll (entries ++ [entry]) =
      (map.setAll entries).set entry.1 entry.2 :=
  setAll_append entries [entry]

/-- No key of a map that has been filled is there twice. -/
theorem nodup_keys_setAll (entries : List (Key × Value)) :
    (setAll [] entries).keys.Nodup := by
  induction entries using List.reverseRecOn with
  | nil => exact List.nodup_nil
  | append_singleton earlier last inductionHypothesis =>
      rw [setAll_append_singleton]
      exact nodup_keys_set inductionHypothesis

/-- Every key that has been set has a value. -/
theorem exists_get?_setAll
    {entries : List (Key × Value)}
    {entry : Key × Value}
    (member : entry ∈ entries) :
    ∃ value, (setAll [] entries).get? entry.1 = some value := by
  induction entries using List.reverseRecOn with
  | nil => cases member
  | append_singleton earlier last inductionHypothesis =>
      rw [setAll_append_singleton]
      by_cases same : entry.1 = last.1
      · exact ⟨last.2, by rw [same, get?_set_self]⟩
      · rw [get?_set_of_ne same]
        rcases List.mem_append.mp member with inEarlier | isLast
        · exact inductionHypothesis inEarlier
        · exact (same (congrArg Prod.fst (List.mem_singleton.mp isLast))).elim

/-- The values of each key never fall. -/
def Rising [LE Value] (entries : List (Key × Value)) : Prop :=
  entries.Pairwise fun earlier later =>
    earlier.1 = later.1 → earlier.2 ≤ later.2

/-- The value that a key is left with is then its highest. -/
theorem le_of_get?_setAll
    [Preorder Value]
    {entries : List (Key × Value)}
    (rising : Rising entries)
    {entry : Key × Value}
    (member : entry ∈ entries)
    (found : (setAll [] entries).get? entry.1 = some value) :
    entry.2 ≤ value := by
  induction entries using List.reverseRecOn with
  | nil => cases member
  | append_singleton earlier last inductionHypothesis =>
      obtain ⟨risingEarlier, _, below⟩ := List.pairwise_append.mp rising
      rw [setAll_append_singleton] at found
      by_cases same : entry.1 = last.1
      · rw [same, get?_set_self] at found
        cases found
        rcases List.mem_append.mp member with inEarlier | isLast
        · exact below entry inEarlier last (List.mem_singleton.mpr rfl) same
        · rw [List.mem_singleton.mp isLast]
      · rw [get?_set_of_ne same] at found
        rcases List.mem_append.mp member with inEarlier | isLast
        · exact inductionHypothesis risingEarlier inEarlier found
        · exact (same (congrArg Prod.fst (List.mem_singleton.mp isLast))).elim

end OrderedMap

end Replication
