import Mathlib

namespace PageDrain

/-!
# Draining a queue page by page

A queue is drained in rounds.  Each round takes the oldest pending items, at most
`limit` of them, and attempts each of them once.  Items that succeed leave the
queue; the failing ones stay and may be taken again.  The drain gives up when it
has attempted as many failing items as the page has and nothing has succeeded so
far.  How items of one age are arranged is left open, in every round.
-/

variable {Item Age : Type}

/-- What has been attempted, in order, and what is pending. -/
structure Progress (Item : Type) where
  attempts : List Item
  pending : List Item

section Rounds

variable
  [DecidableEq Item]
  (fails : Item → Bool)
  (limit : Nat)
  (arranges : List Item → List Item → Prop)

/-- The progress after the attempts of a page. -/
def Progress.after
    (progress : Progress Item)
    (page : List Item) : Progress Item where
  attempts := progress.attempts ++ page
  pending := progress.pending.filter fun item => item ∉ page ∨ fails item

/-- The stop test, after the attempts of a page. -/
def GivesUp (progress : Progress Item) (page : List Item) : Prop :=
  page.length ≤ progress.attempts.countP fails ∧
    progress.attempts.countP (fun item => !fails item) = 0

/-- What a number of rounds may lead to. -/
inductive Drains :
    Nat → Progress Item → Progress Item → Prop where
  /-- No round is left. -/
  | spent (progress : Progress Item) : Drains 0 progress progress
  | emptied
      (rounds : Nat)
      (progress : Progress Item)
      (nothing : progress.pending = []) :
      Drains (rounds + 1) progress progress
  | stuck
      (rounds : Nat)
      (progress : Progress Item)
      (arranged : List Item)
      (isArranged : arranges progress.pending arranged)
      (something : progress.pending ≠ [])
      (givesUp :
        GivesUp fails (progress.after fails (arranged.take limit))
          (arranged.take limit)) :
      Drains (rounds + 1) progress
        (progress.after fails (arranged.take limit))
  | round
      (rounds : Nat)
      (progress final : Progress Item)
      (arranged : List Item)
      (isArranged : arranges progress.pending arranged)
      (something : progress.pending ≠ [])
      (proceeds :
        ¬ GivesUp fails (progress.after fails (arranged.take limit))
          (arranged.take limit))
      (later :
        Drains rounds (progress.after fails (arranged.take limit)) final) :
      Drains (rounds + 1) progress final

end Rounds

section Ages

variable [LinearOrder Age] (age : Item → Age)

/-- The other item is strictly older. -/
def older (item other : Item) : Bool :=
  decide (age other < age item)

/-- The arrangement lists the pending items by age. -/
structure ByAge (pending arranged : List Item) : Prop where
  perm : arranged.Perm pending
  sorted : arranged.Pairwise fun first second => age first ≤ age second

/-- Everything that is arranged before the item is strictly older. -/
def LeadsTies (item : Item) (arranged : List Item) : Prop :=
  ∃ before behind,
    arranged = before ++ item :: behind ∧
      ∀ other ∈ before, older age item other = true

variable
  {age}
  {limit : Nat}
  {item : Item}
  {arranged : List Item}

/-- Whoever is on the page has less than a page of strictly older items. -/
theorem countP_older_lt
    (sorted : arranged.Pairwise fun first second => age first ≤ age second)
    (onPage : item ∈ arranged.take limit) :
    arranged.countP (older age item) < limit := by
  have split := List.take_append_drop limit arranged
  rw [← split, List.pairwise_append] at sorted
  have notBehind : (arranged.drop limit).countP (older age item) = 0 := by
    rw [List.countP_eq_zero]
    intro other behind
    simpa [older] using sorted.2.2 item onPage other behind
  have notItself : older age item item = false := by simp [older]
  have fewer :
      (arranged.take limit).countP (older age item) <
        (arranged.take limit).length := by
    refine lt_of_le_of_ne List.countP_le_length fun all => ?_
    have isOlder := List.countP_eq_length.mp all item onPage
    rw [notItself] at isOlder
    cases isOlder
  calc arranged.countP (older age item)
      = (arranged.take limit).countP (older age item) +
          (arranged.drop limit).countP (older age item) := by
        rw [← List.countP_append, split]
    _ < (arranged.take limit).length := by omega
    _ ≤ limit := List.length_take_le limit arranged

/-- What is arranged before the limit is on the page. -/
theorem mem_take_append_cons
    {before behind : List Item}
    (short : before.length < limit) :
    item ∈ (before ++ item :: behind).take limit := by
  obtain ⟨more, isMore⟩ :
      ∃ more, limit - before.length = more + 1 :=
    ⟨limit - before.length - 1, by omega⟩
  rw [List.take_append, isMore, List.take_succ_cons]
  exact List.mem_append_right _ List.mem_cons_self

/-- The first of its age is on the page if less than a page is older. -/
theorem mem_take_of_leadsTies
    (leads : LeadsTies age item arranged)
    (few : arranged.countP (older age item) < limit) :
    item ∈ arranged.take limit := by
  obtain ⟨before, behind, rfl, areOlder⟩ := leads
  rw [List.countP_append, List.countP_eq_length.mpr areOlder] at few
  exact mem_take_append_cons (by omega)

/-- The first of its age that is not on the page has a page of older items. -/
theorem older_of_not_mem_take
    (leads : LeadsTies age item arranged)
    (later : item ∉ arranged.take limit) :
    (∀ other ∈ arranged.take limit, older age item other = true) ∧
      (arranged.take limit).length = limit := by
  obtain ⟨before, behind, rfl, areOlder⟩ := leads
  have short : limit ≤ before.length := by
    by_contra long
    exact later (mem_take_append_cons (by omega))
  rw [List.take_append_of_le_length short]
  exact ⟨fun other onPage => areOlder other (List.mem_of_mem_take onPage),
    List.length_take_of_le short⟩

end Ages

section Run

variable
  [DecidableEq Item]
  [LinearOrder Age]
  {age : Item → Age}
  {fails : Item → Bool}
  {limit rounds : Nat}
  {arranges : List Item → List Item → Prop}
  {start final progress : Progress Item}
  {arranged : List Item}
  {item : Item}

/-- Attempts are never taken back. -/
theorem Drains.attempts_prefix
    (drains : Drains fails limit arranges rounds start final) :
    ∃ more, final.attempts = start.attempts ++ more := by
  induction drains with
  | spent => exact ⟨[], by simp⟩
  | emptied => exact ⟨[], by simp⟩
  | stuck => exact ⟨_, rfl⟩
  | round rounds progress final arranged isArranged something proceeds later
      inductionHypothesis =>
      obtain ⟨more, attempted⟩ := inductionHypothesis
      exact ⟨arranged.take limit ++ more, by
        rw [attempted, Progress.after, List.append_assoc]⟩

/-!
## Draining once

The pages are disjoint as long as no failing item is on one before the last.
-/

/-- A whole page of everything leaves the failing items. -/
theorem pending_after_of_all
    (perm : arranged.Perm progress.pending) :
    (progress.after fails arranged).pending =
      progress.pending.filter fails := by
  refine List.filter_congr fun other member => ?_
  simp [perm.mem_iff.mpr member]

/-- A page that succeeds leaves the queue. -/
theorem pending_after_of_succeeds
    (distinct : progress.pending.Nodup)
    (perm : arranged.Perm progress.pending)
    (succeeds : ∀ other ∈ arranged.take limit, fails other = false) :
    (progress.after fails (arranged.take limit)).pending.Perm
      (arranged.drop limit) := by
  have split := List.take_append_drop limit arranged
  have apart :
      ∀ other ∈ arranged.drop limit, other ∉ arranged.take limit := by
    have distinctArranged := perm.nodup_iff.mpr distinct
    rw [← split, List.nodup_append] at distinctArranged
    intro other behind onPage
    exact distinctArranged.2.2 other onPage other behind rfl
  have filtered := perm.symm.filter
    fun other => decide (other ∉ arranged.take limit ∨ fails other)
  have gone :
      (arranged.take limit).filter
          (fun other => decide (other ∉ arranged.take limit ∨ fails other)) =
        [] := by
    rw [List.filter_eq_nil_iff]
    intro other onPage
    simp [onPage, succeeds other onPage]
  have kept :
      (arranged.drop limit).filter
          (fun other => decide (other ∉ arranged.take limit ∨ fails other)) =
        arranged.drop limit := by
    rw [List.filter_eq_self]
    intro other behind
    simp [apart other behind]
  refine filtered.trans (List.Perm.of_eq ?_)
  calc arranged.filter
        (fun other => decide (other ∉ arranged.take limit ∨ fails other))
      = (arranged.take limit ++ arranged.drop limit).filter
          (fun other =>
            decide (other ∉ arranged.take limit ∨ fails other)) := by
        rw [split]
    _ = arranged.drop limit := by
        rw [List.filter_append, gone, kept, List.nil_append]

omit [DecidableEq Item] in
/-- With a further page of older items, no failing item is on this page. -/
theorem succeeds_of_late
    (perm : arranged.Perm progress.pending)
    (sorted : arranged.Pairwise fun first second => age first ≤ age second)
    (late :
      ∀ item ∈ progress.pending, fails item = true →
        limit ≤ progress.pending.countP (older age item)) :
    ∀ other ∈ arranged.take limit, fails other = false := by
  intro other onPage
  by_contra failing
  have few := countP_older_lt sorted onPage
  rw [perm.countP_eq] at few
  have many :=
    late other (perm.mem_iff.mp (List.mem_of_mem_take onPage))
      (by simpa using failing)
  omega

/-- A drain that gives up on a page has nothing pending behind it. -/
theorem short_of_givesUp
    (perm : arranged.Perm progress.pending)
    (sorted : arranged.Pairwise fun first second => age first ≤ age second)
    (something : progress.pending ≠ [])
    (fits : progress.pending.length ≤ limit * (rounds + 1))
    (late :
      ∀ item ∈ progress.pending, fails item = true →
        limit * rounds ≤ progress.pending.countP (older age item))
    (givesUp :
      GivesUp fails (progress.after fails (arranged.take limit))
        (arranged.take limit)) :
    arranged.length ≤ limit := by
  have sameLength := perm.length_eq
  cases rounds with
  | zero => omega
  | succ rounds =>
      -- a second round was possible, so the first page has succeeded
      have page : limit * 1 ≤ limit * (rounds + 1) :=
        Nat.mul_le_mul_left _ (Nat.le_add_left 1 rounds)
      have succeeds :=
        succeeds_of_late perm sorted fun item member failing =>
          (mul_one limit ▸ page).trans (late item member failing)
      have failing := List.countP_eq_zero.mp givesUp.2
      by_contra long
      obtain ⟨first, onPage⟩ :
          ∃ first, first ∈ arranged.take limit := by
        apply List.exists_mem_of_ne_nil
        intro isEmpty
        have length := congrArg List.length isEmpty
        rw [List.length_take, List.length_nil] at length
        have none : limit = 0 := by omega
        rw [none, Nat.zero_mul, Nat.le_zero] at fits
        exact something (List.eq_nil_of_length_eq_zero fits)
      have fails := failing first (List.mem_append_right _ onPage)
      simp [succeeds first onPage] at fails

/-- The items of a page are at most as many as the page. -/
theorem late_after
    (perm : arranged.Perm progress.pending)
    (left :
      (progress.after fails (arranged.take limit)).pending.Perm
        (arranged.drop limit))
    (many :
      limit * (rounds + 1) ≤ progress.pending.countP (older age item)) :
    limit * rounds ≤
      (progress.after fails (arranged.take limit)).pending.countP
        (older age item) := by
  have total :
      progress.pending.countP (older age item) =
        (arranged.take limit).countP (older age item) +
          (arranged.drop limit).countP (older age item) := by
    rw [← perm.countP_eq, ← List.countP_append, List.take_append_drop]
  have page :
      (arranged.take limit).countP (older age item) ≤
        (arranged.take limit).length :=
    List.countP_le_length
  have most := List.length_take_le limit arranged
  rw [left.countP_eq]
  rw [total, Nat.mul_succ] at many
  omega

/--
Where all failing items are among the youngest, each pending item is attempted
once and the failing ones stay.
-/
theorem Drains.covers
    (drains : Drains fails limit arranges rounds start final)
    (byAge :
      ∀ pending arranged, arranges pending arranged →
        ByAge age pending arranged)
    (distinct : start.pending.Nodup)
    (fits : start.pending.length ≤ limit * rounds)
    (late :
      ∀ item ∈ start.pending, fails item = true →
        limit * (rounds - 1) ≤ start.pending.countP (older age item)) :
    ∃ attempted : List Item,
      attempted.Perm start.pending ∧
        final.attempts = start.attempts ++ attempted ∧
        final.pending = start.pending.filter fails := by
  induction drains with
  | spent progress =>
      have nothing : progress.pending = [] :=
        List.eq_nil_of_length_eq_zero (by omega)
      exact ⟨[], by simp [nothing], by simp, by simp [nothing]⟩
  | emptied rounds progress nothing =>
      exact ⟨[], by simp [nothing], by simp, by simp [nothing]⟩
  | stuck rounds progress arranged isArranged something givesUp =>
      obtain ⟨perm, sorted⟩ := byAge _ _ isArranged
      rw [List.take_of_length_le
        (short_of_givesUp perm sorted something fits late givesUp)]
      exact ⟨arranged, perm, rfl, pending_after_of_all perm⟩
  | round rounds progress final arranged isArranged something proceeds later
      inductionHypothesis =>
      obtain ⟨perm, sorted⟩ := byAge _ _ isArranged
      have sameLength := perm.length_eq
      cases rounds with
      | zero =>
          cases later
          rw [List.take_of_length_le (by omega)]
          exact ⟨arranged, perm, rfl, pending_after_of_all perm⟩
      | succ rounds =>
          rw [Nat.add_sub_cancel] at late
          have succeeds :=
            succeeds_of_late perm sorted fun item member failing =>
              (Nat.le_mul_of_pos_right limit rounds.succ_pos).trans
                (late item member failing)
          have left := pending_after_of_succeeds distinct perm succeeds
          have fitsLeft :
              (progress.after fails (arranged.take limit)).pending.length ≤
                limit * (rounds + 1) := by
            rw [left.length_eq, List.length_drop]
            rw [Nat.mul_succ] at fits
            omega
          obtain ⟨attempted, attemptedLeft, attempts, pending⟩ :=
            inductionHypothesis (distinct.filter _) fitsLeft
              fun other member failing =>
                late_after perm left
                  (late other (List.mem_of_mem_filter member) failing)
          refine ⟨arranged.take limit ++ attempted, ?_, ?_, ?_⟩
          · have together :=
              (attemptedLeft.trans left).append_left (arranged.take limit)
            rw [List.take_append_drop] at together
            exact together.trans perm
          · rw [attempts, Progress.after, List.append_assoc]
          · rw [pending, Progress.after, List.filter_filter]
            refine List.filter_congr fun other _ => ?_
            by_cases failing : fails other = true
            · simp [failing]
            · simp [failing]

/-- One page that fails altogether is attempted once, since the drain stops. -/
theorem Drains.covers_of_short
    (drains :
      Drains fails limit arranges (rounds + 1) start final)
    (perm :
      ∀ pending arranged, arranges pending arranged →
        arranged.Perm pending)
    (first : start.attempts = [])
    (short : start.pending.length ≤ limit)
    (allFail : ∀ item ∈ start.pending, fails item = true) :
    final.attempts.Perm start.pending ∧
      final.pending = start.pending.filter fails := by
  have whole :
      ∀ arranged, arranges start.pending arranged →
        arranged.take limit = arranged := by
    intro arranged isArranged
    have sameLength := (perm _ _ isArranged).length_eq
    exact List.take_of_length_le (by omega)
  cases drains with
  | emptied _ _ nothing => simp [first, nothing]
  | stuck _ _ arranged isArranged something givesUp =>
      have isPerm := perm _ _ isArranged
      rw [whole arranged isArranged]
      refine ⟨?_, pending_after_of_all isPerm⟩
      rw [Progress.after, first]
      exact isPerm
  | round _ _ _ arranged isArranged something proceeds later =>
      have isPerm := perm _ _ isArranged
      rw [whole arranged isArranged] at proceeds
      have failing : ∀ item ∈ arranged, fails item = true :=
        fun item member => allFail item (isPerm.mem_iff.mp member)
      refine absurd ⟨?_, ?_⟩ proceeds
      · rw [Progress.after, first, List.nil_append,
          List.countP_eq_length.mpr failing]
      · rw [Progress.after, first, List.nil_append, List.countP_eq_zero]
        intro item member
        simp [failing item member]

/-- Only what was pending is attempted. -/
theorem Drains.attempted_pending
    (drains : Drains fails limit arranges rounds start final)
    (perm :
      ∀ pending arranged, arranges pending arranged →
        arranged.Perm pending) :
    ∀ item ∈ final.attempts,
      item ∈ start.attempts ∨ item ∈ start.pending := by
  have pages :
      ∀ {pending arranged : List Item},
        arranges pending arranged →
          ∀ item ∈ arranged.take limit, item ∈ pending :=
    fun isArranged item onPage =>
      (perm _ _ isArranged).mem_iff.mp (List.mem_of_mem_take onPage)
  induction drains with
  | spent => exact fun item attempted => .inl attempted
  | emptied => exact fun item attempted => .inl attempted
  | stuck rounds progress arranged isArranged something givesUp =>
      intro item attempted
      exact (List.mem_append.mp attempted).imp id (pages isArranged item)
  | round rounds progress final arranged isArranged something proceeds later
      inductionHypothesis =>
      intro item attempted
      rcases inductionHypothesis item attempted with before | isLeft
      · exact (List.mem_append.mp before).imp id (pages isArranged item)
      · exact .inr (List.mem_of_mem_filter isLeft)

/-!
## What draining once requires

An item that leads its ties is on every page from the first one that it is on.
If it fails it must not be met before the last round, so all earlier pages are
filled with strictly older items.
-/

/-- An item with less than a page of older ones is attempted in each round. -/
theorem Drains.attempts_leader
    (drains :
      Drains fails limit arranges (rounds + 1) start final)
    (leads :
      ∀ pending arranged, arranges pending arranged → item ∈ pending →
        arranged.Perm pending ∧ LeadsTies age item arranged)
    (member : item ∈ start.pending)
    (few : start.pending.countP (older age item) < limit) :
    ∃ more, final.attempts = start.attempts ++ more ∧ item ∈ more := by
  have onPage :
      ∀ arranged, arranges start.pending arranged →
        item ∈ arranged.take limit := by
    intro arranged isArranged
    obtain ⟨perm, leader⟩ := leads _ _ isArranged member
    exact mem_take_of_leadsTies leader (by rwa [perm.countP_eq])
  cases drains with
  | emptied _ _ nothing =>
      rw [nothing] at member
      cases member
  | stuck _ _ arranged isArranged =>
      exact ⟨_, rfl, onPage arranged isArranged⟩
  | round _ _ _ arranged isArranged something proceeds later =>
      obtain ⟨more, attempts⟩ := later.attempts_prefix
      exact ⟨arranged.take limit ++ more, by
          rw [attempts, Progress.after, List.append_assoc],
        List.mem_append_left _ (onPage arranged isArranged)⟩

/-- If the drain goes on, something has succeeded. -/
theorem exists_success
    {page : List Item}
    (proceeds : ¬ GivesUp fails (progress.after fails page) page) :
    ∃ other ∈ (progress.after fails page).attempts,
      fails other = false := by
  by_contra none
  refine proceeds ⟨?_, ?_⟩
  · have all :
        (progress.after fails page).attempts.countP fails =
          (progress.after fails page).attempts.length := by
      rw [List.countP_eq_length]
      intro other member
      by_contra succeeds
      exact none ⟨other, member, by simpa using succeeds⟩
    rw [all, Progress.after, List.length_append]
    exact Nat.le_add_left _ _
  · rw [List.countP_eq_zero]
    intro other member succeeds
    exact none ⟨other, member, by simpa using succeeds⟩

/-- The item is older and not yet attempted. -/
def freshOlder
    (age : Item → Age)
    (item : Item)
    (attempts : List Item)
    (other : Item) : Bool :=
  older age item other && decide (other ∉ attempts)

variable (fails) in
/-- A page of older items takes as many of those that are left. -/
theorem countP_freshOlder_after
    (perm : arranged.Perm progress.pending)
    (areOlder :
      ∀ other ∈ arranged.take limit, older age item other = true)
    (fresh :
      ∀ other ∈ arranged.take limit, other ∉ progress.attempts) :
    (arranged.take limit).length +
        (progress.after fails (arranged.take limit)).pending.countP
          (freshOlder age item
            (progress.after fails (arranged.take limit)).attempts) ≤
      progress.pending.countP (freshOlder age item progress.attempts) := by
  have onPage :
      (arranged.take limit).countP
          (freshOlder age item progress.attempts) =
        (arranged.take limit).length := by
    rw [List.countP_eq_length]
    intro other member
    simp [freshOlder, areOlder other member, fresh other member]
  have behind :
      progress.pending.countP
          (freshOlder age item
            (progress.attempts ++ arranged.take limit)) ≤
        (arranged.drop limit).countP
          (freshOlder age item progress.attempts) := by
    rw [← perm.countP_eq, ← List.take_append_drop limit arranged,
      List.countP_append, List.take_append_drop]
    have none :
        (arranged.take limit).countP
            (freshOlder age item
              (progress.attempts ++ arranged.take limit)) = 0 := by
      rw [List.countP_eq_zero]
      intro other member
      simp [freshOlder, member]
    rw [none, Nat.zero_add]
    refine List.countP_mono_left fun other _ isFresh => ?_
    simp only [freshOlder, Bool.and_eq_true, decide_eq_true_eq,
      List.mem_append, not_or] at isFresh ⊢
    exact ⟨isFresh.1, isFresh.2.1⟩
  calc (arranged.take limit).length +
        (progress.after fails (arranged.take limit)).pending.countP
          (freshOlder age item
            (progress.after fails (arranged.take limit)).attempts)
      ≤ (arranged.take limit).countP
            (freshOlder age item progress.attempts) +
          (arranged.drop limit).countP
            (freshOlder age item progress.attempts) := by
        rw [onPage]
        exact Nat.add_le_add_left
          (List.filter_sublist.countP_le.trans behind) _
    _ = progress.pending.countP (freshOlder age item progress.attempts) := by
        rw [← List.countP_append, List.take_append_drop, perm.countP_eq]

/-- A page that is followed by others has nothing that was attempted before. -/
theorem Drains.page_apart
    {page : List Item}
    (later :
      Drains fails limit arranges rounds (progress.after fails page) final)
    (once : final.attempts.Nodup) :
    ∀ other ∈ page, other ∉ progress.attempts := by
  obtain ⟨more, attempts⟩ := later.attempts_prefix
  intro other onPage attempted
  rw [attempts, Progress.after, List.append_assoc, List.nodup_append] at once
  exact once.2.2 other attempted other (List.mem_append_left _ onPage) rfl

/-- A failing item that leads its ties is not on a page before the last. -/
theorem Drains.not_mem_page
    (later :
      Drains fails limit arranges (rounds + 1)
        (progress.after fails (arranged.take limit)) final)
    (leads :
      ∀ pending arranged, arranges pending arranged → item ∈ pending →
        arranged.Perm pending ∧
          (arranged.Pairwise fun first second => age first ≤ age second) ∧
          LeadsTies age item arranged)
    (perm : arranged.Perm progress.pending)
    (sorted : arranged.Pairwise fun first second => age first ≤ age second)
    (once : final.attempts.Nodup)
    (isLeft :
      item ∈ (progress.after fails (arranged.take limit)).pending) :
    item ∉ arranged.take limit := by
  intro onPage
  have few := countP_older_lt sorted onPage
  rw [perm.countP_eq] at few
  obtain ⟨again, attemptsAgain, inAgain⟩ :=
    later.attempts_leader
      (fun pending arranged isArranged isPending =>
        ⟨(leads pending arranged isArranged isPending).1,
          (leads pending arranged isArranged isPending).2.2⟩)
      isLeft (List.filter_sublist.countP_le.trans_lt few)
  rw [attemptsAgain, List.nodup_append] at once
  exact once.2.2 item (List.mem_append_right _ onPage) item inAgain rfl

/--
A failing item that leads its ties and is attempted once has older items for all
rounds but the last.
-/
theorem Drains.countP_freshOlder
    (drains : Drains fails limit arranges rounds start final)
    (leads :
      ∀ pending arranged, arranges pending arranged → item ∈ pending →
        arranged.Perm pending ∧
          (arranged.Pairwise fun first second => age first ≤ age second) ∧
          LeadsTies age item arranged)
    (failing : fails item = true)
    (member : item ∈ start.pending)
    (fresh : item ∉ start.attempts)
    (distinct : start.pending.Nodup)
    (once : final.attempts.Nodup)
    (covered : ∀ other ∈ start.pending, other ∈ final.attempts)
    (continues :
      (∃ other ∈ start.attempts, fails other = false) ∨
        start.attempts = [] ∧
          ¬ (start.pending.length ≤ limit ∧
            ∀ other ∈ start.pending, fails other = true)) :
    limit * (rounds - 1) ≤
      start.pending.countP (freshOlder age item start.attempts) := by
  induction drains with
  | spent progress => exact absurd (covered item member) fresh
  | emptied rounds progress nothing =>
      rw [nothing] at member
      cases member
  | stuck rounds progress arranged isArranged something givesUp =>
      have allFail :
          ∀ other ∈ progress.attempts ++ arranged.take limit,
            fails other = true := by
        intro other attempted
        simpa using List.countP_eq_zero.mp givesUp.2 other attempted
      rcases continues with ⟨other, attempted, succeeds⟩ | ⟨first, mixed⟩
      · rw [allFail other (List.mem_append_left _ attempted)] at succeeds
        cases succeeds
      · have onPage :
            ∀ other ∈ progress.pending, other ∈ arranged.take limit := by
          intro other isPending
          have attempted := covered other isPending
          rwa [Progress.after, first, List.nil_append] at attempted
        refine absurd ⟨?_, fun other isPending => ?_⟩ mixed
        · exact (distinct.subperm onPage).length_le.trans
            (List.length_take_le limit arranged)
        · exact allFail other
            (List.mem_append_right _ (onPage other isPending))
  | round rounds progress final arranged isArranged something proceeds later
      inductionHypothesis =>
      obtain ⟨perm, sorted, leader⟩ := leads _ _ isArranged member
      have isLeft :
          item ∈ (progress.after fails (arranged.take limit)).pending := by
        simp [Progress.after, member, failing]
      cases rounds with
      | zero => simp
      | succ rounds =>
          have notYet :=
            later.not_mem_page leads perm sorted once isLeft
          obtain ⟨areOlder, full⟩ := older_of_not_mem_take leader notYet
          have apart := later.page_apart once
          have left :=
            inductionHypothesis isLeft
              (by
                simp only [Progress.after, List.mem_append, not_or]
                exact ⟨fresh, notYet⟩)
              (distinct.filter _) once
              (fun other isPending =>
                covered other (List.mem_of_mem_filter isPending))
              (.inl (exists_success proceeds))
          have taken :=
            countP_freshOlder_after fails perm areOlder apart
          rw [full] at taken
          rw [Nat.add_sub_cancel] at left ⊢
          rw [Nat.mul_succ]
          omega

end Run

end PageDrain
