import Mathlib.Data.List.Sort
import Mathlib.Data.Set.Function

namespace Replication.Keyset

/-!
# Keyset pages and settled prefixes

A keyset query returns the first `limit` rows above a cursor in key order.  The
cursor of the next query is the key of the last row returned.  A cursor is
settled when every row not above it is covered, for an arbitrary notion of
coverage.  A page taken from a settled cursor spans the table up to its last
key, and once its rows are covered its last key is settled too; this is the
induction step of every replication argument in this project.
-/

variable {Row Key : Type} [LinearOrder Key] (key : Row → Key)

/-- The rows above a cursor, in table order. -/
def rowsAbove (after : Key) (table : List Row) : List Row :=
  table.filter fun row => after < key row

/-- The rows above a cursor, in key order. -/
def ordered (after : Key) (table : List Row) : List Row :=
  (rowsAbove key after table).insertionSort fun first second =>
    key first ≤ key second

/-- The first `limit` rows above a cursor, in key order. -/
def page (after : Key) (limit : Nat) (table : List Row) : List Row :=
  (ordered key after table).take limit

section Pages

variable
  {key : Row → Key}
  {after : Key}
  {limit : Nat}
  {table : List Row}
  {row last : Row}

/-- Sorting neither adds nor drops rows. -/
@[simp] theorem mem_ordered :
    row ∈ ordered key after table ↔ row ∈ table ∧ after < key row := by
  simp [ordered, rowsAbove]

/-- The ordered rows are sorted by key. -/
theorem ordered_sorted
    (key : Row → Key)
    (after : Key)
    (table : List Row) :
    (ordered key after table).Pairwise
      fun first second => key first ≤ key second := by
  let byKey : Row → Row → Prop :=
    fun first second => key first ≤ key second
  have : Std.Total byKey := ⟨fun first second => le_total _ _⟩
  have : IsTrans Row byKey := ⟨fun _ _ _ => le_trans⟩
  exact List.pairwise_insertionSort byKey (rowsAbove key after table)

/-- A row of a page is a row of the table above the cursor. -/
theorem of_mem_page (member : row ∈ page key after limit table) :
    row ∈ table ∧ after < key row :=
  mem_ordered.mp (List.mem_of_mem_take member)

/-- The last row of a page is a row of the table above the cursor. -/
theorem of_getLast?_page
    (isLast : (page key after limit table).getLast? = some last) :
    last ∈ table ∧ after < key last :=
  of_mem_page (List.mem_of_getLast? isLast)

/-- A page with room for a row is empty only if no row is above the cursor. -/
theorem page_eq_nil_iff (room : 0 < limit) :
    page key after limit table = [] ↔
      ∀ row ∈ table, key row ≤ after := by
  rw [page, List.take_eq_nil_iff, or_iff_right (Nat.ne_of_gt room)]
  constructor
  · intro empty row member
    by_contra above
    have isAbove : row ∈ ordered key after table :=
      mem_ordered.mpr ⟨member, lt_of_not_ge above⟩
    simp [empty] at isAbove
  · intro below
    apply List.eq_nil_iff_forall_not_mem.mpr
    intro row member
    obtain ⟨inTable, above⟩ := mem_ordered.mp member
    exact absurd above (not_lt_of_ge (below row inTable))

/--
A page has no gap: a row above the cursor and not above the last row of the page
is in the page.  Keys must identify rows, otherwise the page could end between
two rows of one key.
-/
theorem mem_page_of_le
    (injective : Set.InjOn key {row | row ∈ table})
    (isLast : (page key after limit table).getLast? = some last)
    (member : row ∈ table)
    (above : after < key row)
    (notAfterLast : key row ≤ key last) :
    row ∈ page key after limit table := by
  have lastInPage := List.mem_of_getLast? isLast
  have rowOrdered : row ∈ ordered key after table :=
    mem_ordered.mpr ⟨member, above⟩
  rw [← List.take_append_drop limit (ordered key after table),
    List.mem_append] at rowOrdered
  rcases rowOrdered with inPage | dropped
  · exact inPage
  · have sorted := ordered_sorted key after table
    rw [← List.take_append_drop limit (ordered key after table)] at sorted
    have lastBelow : key last ≤ key row :=
      (List.pairwise_append.mp sorted).2.2 last lastInPage row dropped
    have same : row = last :=
      injective member (of_mem_page lastInPage).1
        (le_antisymm notAfterLast lastBelow)
    exact same ▸ lastInPage

/-- Ordering keeps the number of rows above the cursor. -/
theorem length_ordered :
    (ordered key after table).length =
      (rowsAbove key after table).length :=
  List.length_insertionSort _ _

/-- A page takes as many rows as it has room for. -/
theorem length_page :
    (page key after limit table).length =
      min limit (rowsAbove key after table).length := by
  rw [page, List.length_take, length_ordered]

/-- A row of the page is not above its last row. -/
theorem le_last_of_mem_page
    (isLast : (page key after limit table).getLast? = some last)
    (member : row ∈ page key after limit table) :
    key row ≤ key last := by
  have sorted : (page key after limit table).Pairwise
      fun first second => key first ≤ key second :=
    (ordered_sorted key after table).sublist (List.take_sublist _ _)
  obtain ⟨front, split⟩ := List.getLast?_eq_some_iff.mp isLast
  rw [split] at sorted member
  rcases List.mem_append.mp member with inFront | isRow
  · exact (List.pairwise_append.mp sorted).2.2 row inFront last
      (List.mem_singleton_self _)
  · exact le_of_eq (congrArg key (List.mem_singleton.mp isRow))

/-- The rows of a page have distinct keys if those of the table do. -/
theorem nodup_keys_page (distinct : (table.map key).Nodup) :
    ((page key after limit table).map key).Nodup := by
  have permuted : (ordered key after table).Perm (rowsAbove key after table) :=
    List.perm_insertionSort _ _
  have distinctOrdered : ((ordered key after table).map key).Nodup :=
    (permuted.map key).nodup_iff.mpr
      (distinct.sublist (List.filter_sublist.map key))
  exact distinctOrdered.sublist ((List.take_sublist _ _).map key)

/-- The keys of a page are those of the table up to the page's last key. -/
theorem mem_keys_page
    (distinct : (table.map key).Nodup)
    (isLast : (page key after limit table).getLast? = some last)
    {value : Key} :
    value ∈ (page key after limit table).map key ↔
      value ∈ table.map key ∧ after < value ∧ value ≤ key last := by
  constructor
  · intro inPage
    obtain ⟨row, member, rfl⟩ := List.mem_map.mp inPage
    obtain ⟨inTable, above⟩ := of_mem_page member
    exact ⟨List.mem_map_of_mem inTable, above,
      le_last_of_mem_page isLast member⟩
  · rintro ⟨inTable, above, notAfterLast⟩
    obtain ⟨row, member, rfl⟩ := List.mem_map.mp inTable
    exact List.mem_map_of_mem (mem_page_of_le
      (List.inj_on_of_nodup_map distinct) isLast member above notAfterLast)

/--
With distinct keys, the rows above the last row of a page are the rows above the
cursor that the page has left out.
-/
theorem length_rowsAbove_last
    (distinct : (table.map key).Nodup)
    (isLast : (page key after limit table).getLast? = some last) :
    (rowsAbove key (key last) table).length =
      (rowsAbove key after table).length - limit := by
  let aboveLast : Row → Bool := fun row => key last < key row
  have lastInPage := List.mem_of_getLast? isLast
  have lastAbove : after < key last := (of_mem_page lastInPage).2
  have permuted : (ordered key after table).Perm (rowsAbove key after table) :=
    List.perm_insertionSort _ _
  have sorted := ordered_sorted key after table
  have distinctOrdered : ((ordered key after table).map key).Nodup :=
    (permuted.map key).nodup_iff.mpr
      (distinct.sublist (List.filter_sublist.map key))
  have split :
      ordered key after table =
        page key after limit table ++
          (ordered key after table).drop limit :=
    (List.take_append_drop limit _).symm
  rw [split] at sorted distinctOrdered
  rw [List.map_append] at distinctOrdered
  have inPage :
      (page key after limit table).countP aboveLast = 0 := by
    rw [List.countP_eq_zero]
    intro row member
    simpa [aboveLast] using le_last_of_mem_page isLast member
  have leftOut :
      ((ordered key after table).drop limit).countP aboveLast =
        ((ordered key after table).drop limit).length := by
    rw [List.countP_eq_length]
    intro row member
    have notBelow : key last ≤ key row :=
      (List.pairwise_append.mp sorted).2.2 last lastInPage row member
    have different : key last ≠ key row :=
      (List.nodup_append.mp distinctOrdered).2.2 _
        (List.mem_map_of_mem lastInPage) _ (List.mem_map_of_mem member)
    exact decide_eq_true (lt_of_le_of_ne notBelow different)
  have nested :
      table.countP aboveLast =
        (rowsAbove key after table).countP aboveLast := by
    rw [rowsAbove, List.countP_filter]
    apply List.countP_congr
    intro row _
    simp only [aboveLast, Bool.and_eq_true, decide_eq_true_eq]
    exact ⟨fun above => ⟨above, lt_trans lastAbove above⟩, And.left⟩
  calc (rowsAbove key (key last) table).length
      = table.countP aboveLast := List.countP_eq_length_filter.symm
    _ = (rowsAbove key after table).countP aboveLast := nested
    _ = (ordered key after table).countP aboveLast :=
        (permuted.countP_eq _).symm
    _ = ((ordered key after table).drop limit).length := by
        rw [split, List.countP_append, inPage, Nat.zero_add, ← split,
          leftOut]
    _ = (rowsAbove key after table).length - limit := by
        rw [List.length_drop, length_ordered]

end Pages

section Counting

variable {table : List Row}

omit [LinearOrder Key] in
/-- With distinct keys, rows are counted by listing their keys once. -/
theorem countP_eq_length
    (property : Key → Bool)
    {keys : List Key}
    (distinct : (table.map key).Nodup)
    (once : keys.Nodup)
    (listed :
      ∀ value, value ∈ keys ↔ value ∈ table.map key ∧ property value) :
    table.countP (fun row => property (key row)) = keys.length := by
  have permuted : ((table.map key).filter property).Perm keys :=
    (List.perm_ext_iff_of_nodup (distinct.filter _) once).mpr
      fun value => List.mem_filter.trans (listed value).symm
  calc table.countP (fun row => property (key row))
      = (table.map key).countP property := List.countP_map.symm
    _ = ((table.map key).filter property).length :=
        List.countP_eq_length_filter
    _ = keys.length := permuted.length_eq

omit [LinearOrder Key] in
/-- Two tables with the same keys of a property have as many rows of it. -/
theorem countP_eq_of_keys
    (property : Key → Bool)
    {changed : List Row}
    (distinct : (table.map key).Nodup)
    (distinctChanged : (changed.map key).Nodup)
    (same :
      ∀ value, property value →
        (value ∈ changed.map key ↔ value ∈ table.map key)) :
    changed.countP (fun row => property (key row)) =
      table.countP fun row => property (key row) := by
  have listed :
      ∀ value,
        value ∈ (table.map key).filter property ↔
          value ∈ table.map key ∧ property value :=
    fun _ => List.mem_filter
  rw [countP_eq_length key property distinct (distinct.filter _) listed]
  refine countP_eq_length key property distinctChanged
    (distinct.filter _) fun value => (listed value).trans ?_
  exact and_congr_left fun holds => (same value holds).symm

/-- The rows up to a cursor are those up to a lower one and those between. -/
theorem countP_le_add
    (property : Row → Bool)
    {lower upper : Key}
    (ordered : lower ≤ upper)
    (table : List Row) :
    table.countP (fun row => key row ≤ upper && property row) =
      table.countP (fun row => key row ≤ lower && property row) +
        table.countP
          (fun row => (lower < key row && key row ≤ upper) &&
            property row) := by
  rw [List.countP_eq_countP_filter_add table _
    fun row => decide (key row ≤ lower)]
  simp only [List.countP_filter]
  congr 1
  · apply List.countP_congr
    intro row _
    simp only [Bool.and_eq_true, decide_eq_true_eq]
    exact ⟨fun both => ⟨both.2, both.1.2⟩,
      fun both => ⟨⟨le_trans both.1 ordered, both.2⟩, both.1⟩⟩
  · apply List.countP_congr
    intro row _
    simp only [Bool.and_eq_true, Bool.not_eq_true', decide_eq_true_eq,
      decide_eq_false_iff_not, not_le]
    exact ⟨fun both => ⟨⟨both.2, both.1.1⟩, both.1.2⟩,
      fun both => ⟨⟨both.1.2, both.2⟩, both.1.1⟩⟩

end Counting

/-- Every row not above the cursor is covered. -/
def Settled
    (table : List Row)
    (covered : Row → Prop)
    (cursor : Key) : Prop :=
  ∀ row ∈ table, key row ≤ cursor → covered row

/--
Every row not above the last row of the batch is covered or in the batch.
-/
def Spans
    (table : List Row)
    (covered : Row → Prop)
    (batch : List Row) : Prop :=
  ∀ last, batch.getLast? = some last →
    ∀ row ∈ table, key row ≤ key last → covered row ∨ row ∈ batch

section Coverage

variable
  {key : Row → Key}
  {table changed : List Row}
  {covered more : Row → Prop}
  {cursor : Key}
  {batch : List Row}

/-- Covering more rows keeps a cursor settled. -/
theorem Settled.mono
    (settled : Settled key table covered cursor)
    (weaker : ∀ row ∈ table, covered row → more row) :
    Settled key table more cursor :=
  fun row member notAbove => weaker row member (settled row member notAbove)

/--
A changed table keeps a cursor settled if its new rows are covered or above it.
-/
theorem Settled.change
    (settled : Settled key table covered cursor)
    (new :
      ∀ row ∈ changed, row ∈ table ∨ covered row ∨ cursor < key row) :
    Settled key changed covered cursor := by
  intro row member notAbove
  rcases new row member with old | isCovered | isAbove
  · exact settled row old notAbove
  · exact isCovered
  · exact absurd isAbove (not_lt_of_ge notAbove)

/-- A page taken at a settled cursor spans the table up to its last row. -/
theorem Settled.spans_page
    {limit : Nat}
    (settled : Settled key table covered cursor)
    (injective : Set.InjOn key {row | row ∈ table}) :
    Spans key table covered (page key cursor limit table) := by
  intro last isLast row member notAfterLast
  by_cases passed : key row ≤ cursor
  · exact .inl (settled row member passed)
  · exact .inr (mem_page_of_le injective isLast member
      (lt_of_not_ge passed) notAfterLast)

/-- A settled cursor with an empty page has every row covered. -/
theorem Settled.all_of_page_nil
    {limit : Nat}
    {row : Row}
    (settled : Settled key table covered cursor)
    (room : 0 < limit)
    (empty : page key cursor limit table = [])
    (member : row ∈ table) :
    covered row :=
  settled row member ((page_eq_nil_iff room).mp empty row member)

/-- Covering more rows keeps a batch spanning. -/
theorem Spans.mono
    (spans : Spans key table covered batch)
    (weaker : ∀ row ∈ table, covered row → more row) :
    Spans key table more batch :=
  fun last isLast row member notAfterLast =>
    (spans last isLast row member notAfterLast).imp_left
      (weaker row member)

/--
A changed table keeps a batch spanning if its new rows are covered or above it.
-/
theorem Spans.change
    (spans : Spans key table covered batch)
    (new :
      ∀ row ∈ changed,
        row ∈ table ∨ covered row ∨
          ∀ last, batch.getLast? = some last → key last < key row) :
    Spans key changed covered batch := by
  intro last isLast row member notAfterLast
  rcases new row member with old | isCovered | isAbove
  · exact spans last isLast row old notAfterLast
  · exact .inl isCovered
  · exact absurd (isAbove last isLast) (not_lt_of_ge notAfterLast)

/-- Once the rows of a spanning batch are covered its last key is settled. -/
theorem Spans.settled
    {last : Row}
    (spans : Spans key table covered batch)
    (isLast : batch.getLast? = some last)
    (done : ∀ row ∈ batch, covered row) :
    Settled key table covered (key last) := by
  intro row member notAfterLast
  rcases spans last isLast row member notAfterLast with
    alreadyCovered | inBatch
  · exact alreadyCovered
  · exact done row inBatch

end Coverage

end Replication.Keyset
