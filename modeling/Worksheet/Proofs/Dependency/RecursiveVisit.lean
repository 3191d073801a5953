import Worksheet.Proofs.Dependency.Pairs
import Worksheet.Proofs.Dependency.Walk

/-! # The walk is a recursive visit

    The order of recalculation is easiest to describe by a recursion: to visit a
    cell is to mark it as visited, to visit those of its dependents that are not
    yet, in ascending order, and then to put the cell in front of the list.  A
    dependent that is the start ends everything with a refusal.

    The walk has no recursion and keeps a stack instead.  Its stack is the stack
    of the calls: whatever lies below the latest visit, the walk does with this
    visit what the recursion does, and then goes on below with the same list.
    So both have the same outcome.  Calls are no deeper than there are cells to
    visit, and so the recursion ends. -/

namespace Worksheet.Dependency

/-- What visits leave behind: the visited cells, and the listed ones in order. -/
structure Trail where
  visited : Std.ExtTreeSet String
  listed : List String

namespace Graph

/-! ### The recursion -/

/-- Visits `cell`: marks it, goes through its dependents in ascending order and
    visits those that have not been visited, and puts it in front of the list.
    Gives nothing if more than `depth` calls are needed inside each other. -/
def visitCell (g : Graph) (start : String) :
    Nat → String → Trail → ExceptT Circular Option Trail
  | 0, _, _ => ExceptT.mk none
  | depth + 1, cell, t => do
    let t ← (g.dependents cell).toList.foldlM (fun t next => do
      if next = start then throw ⟨cell⟩
      else if next ∈ t.visited then return t
      else g.visitCell start depth next t) ⟨t.visited.insert cell, t.listed⟩
    return ⟨t.visited, cell :: t.listed⟩

/-- The list that a visit to `start` leaves, or the refusal. -/
def recursiveOrder (g : Graph) (start : String) (depth : Nat) :
    Option (Except Circular (List String)) :=
  (Trail.listed <$> g.visitCell start depth start ⟨∅, []⟩).run

/-- The visit to `cell` from some of its dependents on. -/
def visitEach (g : Graph) (start : String) (depth : Nat) (cell : String) (pending : List String)
    (t : Trail) : ExceptT Circular Option Trail :=
  pending.foldlM (fun t next => do
    if next = start then throw ⟨cell⟩
    else if next ∈ t.visited then return t
    else g.visitCell start depth next t) t

theorem visitCell_succ (g : Graph) (start : String) (depth : Nat) (cell : String) (t : Trail) :
    g.visitCell start (depth + 1) cell t = do
      let t ← g.visitEach start depth cell (g.dependents cell).toList
        ⟨t.visited.insert cell, t.listed⟩
      return ⟨t.visited, cell :: t.listed⟩ :=
  rfl

theorem visitEach_cons (g : Graph) (start : String) (depth : Nat) (cell next : String)
    (pending : List String) (t : Trail) :
    g.visitEach start depth cell (next :: pending) t =
      if next = start then throw ⟨cell⟩
      else if next ∈ t.visited then g.visitEach start depth cell pending t
      else g.visitCell start depth next t >>= g.visitEach start depth cell pending := by
  unfold visitEach
  rw [List.foldlM_cons]
  split
  · rfl
  · split
    · rfl
    · rfl

/-! ### The walk serves its latest visit -/

/-- The entries in `fresh` are those of the cells that have not been visited. -/
def IsFresh (g : Graph) (fresh : Adjacency) (visited : Std.ExtTreeSet String) : Prop :=
  ∀ c, c ∈ fresh ↔ c ∈ g.backward ∧ c ∉ visited

/-- The walk does with the latest visit, to `cell`, what comes to `result`.  A
    refusal ends the walk.  After a trail it stands at the end of this visit, with
    the cells of the trail listed.  What lies below on the stack plays no part. -/
def Serves (g : Graph) (start : String) (fresh : Adjacency) (listed : List String)
    (cell : String) (pending : List String) : Option (Except Circular Trail) → Prop
  | none => False
  | some (.error e) => ∀ stack, g.walk start fresh listed (⟨cell, pending⟩ :: stack) = .error e
  | some (.ok t) => ∃ fresh', g.IsFresh fresh' t.visited ∧ fresh'.size ≤ fresh.size ∧
    ∀ stack, g.walk start fresh listed (⟨cell, pending⟩ :: stack) =
      g.walk start fresh' t.listed (⟨cell, []⟩ :: stack)

variable {g : Graph} {start cell next : String} {fresh : Adjacency} {listed pending : List String}
  {visited : Std.ExtTreeSet String} {depth : Nat}

theorem IsFresh.enter (h : g.IsFresh fresh visited) (next : String) :
    g.IsFresh (fresh.erase next) (visited.insert next) := by
  intro c
  rw [Std.ExtTreeMap.mem_erase, h c, Std.ExtTreeSet.mem_insert]
  simp only [ne_eq, Std.compare_eq_iff_eq]
  tauto

theorem size_erase_lt (h : next ∈ fresh) : (fresh.erase next).size < fresh.size := by
  have hsize : fresh.size ≠ 0 := by
    intro hzero
    have hempty : fresh.isEmpty = true := by
      rw [Std.ExtTreeMap.isEmpty_eq_size_beq_zero, hzero]
      rfl
    rw [Std.ExtTreeMap.isEmpty_iff.mp hempty] at h
    exact Std.ExtTreeMap.not_mem_empty h
  rw [Std.ExtTreeMap.size_erase, if_pos (by simpa using h)]
  omega

/-- Turns of the walk that come back to the visit it was serving. -/
theorem Serves.of_walk_eq {fresh' : Adjacency} {listed' pending' : List String}
    {result : Option (Except Circular Trail)}
    (h : g.Serves start fresh' listed' cell pending' result) (hsize : fresh'.size ≤ fresh.size)
    (hwalk : ∀ stack, g.walk start fresh listed (⟨cell, pending⟩ :: stack) =
      g.walk start fresh' listed' (⟨cell, pending'⟩ :: stack)) :
    g.Serves start fresh listed cell pending result := by
  rcases result with _ | e | t
  · exact h.elim
  · exact fun stack => (hwalk stack).trans (h stack)
  · obtain ⟨fresh'', hfresh, hsize', hsame⟩ := h
    exact ⟨fresh'', hfresh, hsize'.trans hsize, fun stack => (hwalk stack).trans (hsame stack)⟩

/-- The call for a dependent is the visit on top of the one to `cell`: when it
    ends, the walk is back at `cell`. -/
theorem Serves.enter (hstart : next ≠ start) (hin : next ∈ fresh) (hnew : next ∉ visited)
    (hcall : g.Serves start (fresh.erase next) listed next (g.dependents next).toList
      (g.visitEach start depth next (g.dependents next).toList
        ⟨visited.insert next, listed⟩).run)
    (hrest : ∀ fresh' t, g.IsFresh fresh' t.visited → fresh'.size < fresh.size →
      g.Serves start fresh' t.listed cell pending
        (g.visitEach start (depth + 1) cell pending t).run) :
    g.Serves start fresh listed cell (next :: pending)
      (g.visitEach start (depth + 1) cell (next :: pending) ⟨visited, listed⟩).run := by
  have hless := size_erase_lt hin
  have hpush : ∀ stack, g.walk start fresh listed (⟨cell, next :: pending⟩ :: stack) =
      g.walk start (fresh.erase next) listed (g.visit next :: ⟨cell, pending⟩ :: stack) := by
    intro stack
    rw [walk, if_neg hstart, if_pos hin]
  rw [visitEach_cons, if_neg hstart, if_neg hnew, visitCell_succ]
  generalize g.visitEach start depth next (g.dependents next).toList _ = call at hcall
  rcases call with _ | e | t
  · exact hcall.elim
  · -- A refusal in the call is one of the whole walk, so the visit to `cell` has it too.
    exact fun stack => (hpush stack).trans (hcall (⟨cell, pending⟩ :: stack))
  · obtain ⟨fresh', hfresh, hsize, hsame⟩ := hcall
    -- The visit to `next` has come to its end: one more turn lists it and pops it.
    refine (hrest fresh' ⟨t.visited, next :: t.listed⟩ hfresh (by omega)).of_walk_eq (by omega) ?_
    intro stack
    calc g.walk start fresh listed (⟨cell, next :: pending⟩ :: stack)
        = g.walk start (fresh.erase next) listed (g.visit next :: ⟨cell, pending⟩ :: stack) :=
          hpush stack
      _ = g.walk start fresh' t.listed (⟨next, []⟩ :: ⟨cell, pending⟩ :: stack) :=
          hsame (⟨cell, pending⟩ :: stack)
      _ = g.walk start fresh' (next :: t.listed) (⟨cell, pending⟩ :: stack) := by rw [walk]

/-- The walk serves its latest visit as the recursion does, if that may go as deep
    as there are cells that have not been visited.  The induction is on this
    depth, which every call lowers, and then on the dependents that have not been
    looked at. -/
theorem serves_visitEach (hentries : ∀ s t, g.Edge s t → t ∈ g.backward)
    (hfresh : g.IsFresh fresh visited) (hdepth : fresh.size ≤ depth)
    (hpending : ∀ d ∈ pending, d ∈ g.backward) :
    g.Serves start fresh listed cell pending
      (g.visitEach start depth cell pending ⟨visited, listed⟩).run := by
  induction depth using Nat.strong_induction_on
    generalizing fresh visited listed cell pending with
  | _ depth ih =>
    induction pending generalizing fresh visited listed with
    | nil => exact ⟨fresh, hfresh, Nat.le_refl _, fun _ => rfl⟩
    | cons next pending ihpending =>
      have hlater : ∀ d ∈ pending, d ∈ g.backward := fun d hd =>
        hpending d (List.mem_cons_of_mem _ hd)
      by_cases hstart : next = start
      · rw [visitEach_cons, if_pos hstart]
        intro stack
        rw [walk, if_pos hstart]
      · by_cases hold : next ∈ visited
        · have hout : next ∉ fresh := fun hin => ((hfresh next).mp hin).2 hold
          rw [visitEach_cons, if_neg hstart, if_pos hold]
          refine (ihpending hfresh hdepth hlater).of_walk_eq (Nat.le_refl _) fun stack => ?_
          rw [walk, if_neg hstart, if_neg hout]
        · have hin : next ∈ fresh := (hfresh next).mpr ⟨hpending next (by simp), hold⟩
          have hless := size_erase_lt hin
          obtain ⟨depth, rfl⟩ : ∃ d, depth = d + 1 := Nat.exists_eq_succ_of_ne_zero (by omega)
          -- The call has one fresh cell less.  So has what follows it, whatever it has visited.
          refine Serves.enter hstart hin hold ?_ fun fresh' t hfresh' hsize => ?_
          · refine ih depth (by omega) (hfresh.enter next) (by omega) fun d hd => ?_
            exact hentries next d (Std.ExtTreeSet.mem_toList.mp hd)
          · exact ihpending hfresh' (by omega) hlater

/-! ### The outcome -/

/-- The dependents of a cell are looked at in ascending order. -/
theorem pairwise_dependents (g : Graph) (cell : String) :
    (g.dependents cell).toList.Pairwise (· < ·) := by
  have hordered : (g.dependents cell).toList.Pairwise (compare · · = .lt) :=
    Std.ExtTreeSet.ordered_toList
  exact hordered.imp compareOfLessAndEq_eq_lt.mp

/-- **The walk is a recursive visit**: on every graph that edits have made, cyclic
    or not, the recursion from the start ends, and no deeper than there are cells
    with an entry, the start apart.  It leaves the very list that the walk gives,
    or the refusal at the same cell. -/
theorem recursiveOrder_afterEdits (edits : List Edit) (start : String) (more : Nat) :
    let g := afterEdits edits
    (∀ cell, (g.dependents cell).toList.Pairwise (· < ·)) ∧
    g.recursiveOrder start (g.backward.size + 1 + more) = some (g.recalculationOrder start) := by
  intro g
  have hg : g.Represents (pairsAfter edits) := represents_afterEdits edits
  have hentries : ∀ s t, g.Edge s t → t ∈ g.backward := fun _ _ hst => hg.mem_backward hst
  have hfresh : g.IsFresh g.backward ∅ := fun c => by simp
  have hsize : (g.backward.erase start).size ≤ g.backward.size + more :=
    Std.ExtTreeMap.size_erase_le.trans (Nat.le_add_right _ _)
  have hserves : g.Serves start (g.backward.erase start) [] start (g.dependents start).toList
      (g.visitEach start (g.backward.size + more) start (g.dependents start).toList
        ⟨(∅ : Std.ExtTreeSet String).insert start, []⟩).run :=
    serves_visitEach hentries (hfresh.enter start) hsize fun d hd =>
      hentries start d (Std.ExtTreeSet.mem_toList.mp hd)
  refine ⟨g.pairwise_dependents, ?_⟩
  unfold recursiveOrder recalculationOrder
  rw [Nat.add_right_comm, visitCell_succ]
  generalize g.visitEach start _ start (g.dependents start).toList _ = call at hserves
  rcases call with _ | e | t
  · exact hserves.elim
  · exact congrArg some (hserves []).symm
  · obtain ⟨fresh', -, -, hsame⟩ := hserves
    -- Only the start is left on the stack, with nothing pending.
    have hwalk : g.walk start (g.backward.erase start) [] [g.visit start] =
        .ok (start :: t.listed) := by
      rw [visit, hsame [], walk, walk]
    rw [hwalk]
    rfl

end Graph

end Worksheet.Dependency
