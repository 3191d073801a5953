import Worksheet.Proofs.Name.Order
import Worksheet.Sheet.Query

/-! # The listing of a sheet

    The names of a sheet are listed in a linear order, so a sheet has one listing,
    in whichever order its cells are stored.  It is settled by the names alone, and
    each name brings its own cell along. -/

namespace Worksheet.Sheet

open Name (IsListing)
open Name.Coordinates (ofName?)

theorem sortedNames_perm (s : Sheet) : s.sortedNames.Perm s.cells.keys :=
  List.mergeSort_perm _ _

theorem nodup_sortedNames (s : Sheet) : s.sortedNames.Nodup :=
  s.sortedNames_perm.nodup_iff.mpr Std.ExtTreeMap.nodup_keys

theorem mem_sortedNames (s : Sheet) (name : String) : name ∈ s.sortedNames ↔ name ∈ s.cells := by
  rw [s.sortedNames_perm.mem_iff, Std.ExtTreeMap.mem_keys]

theorem isListing_sortedNames (s : Sheet) : IsListing s.sortedNames :=
  Name.isListing_sort Std.ExtTreeMap.nodup_keys

/-- The cells of the sheet with their names, in listing order. -/
def listedCells (s : Sheet) : List (String × Cell) :=
  s.sortedNames.filterMap fun name => s.cells[name]?.map fun cell => (name, cell)

theorem mem_listedCells (s : Sheet) (name : String) (cell : Cell) :
    (name, cell) ∈ s.listedCells ↔ s.cells[name]? = some cell := by
  simp only [listedCells, List.mem_filterMap, Option.map_eq_some_iff, Prod.mk.injEq,
    mem_sortedNames]
  constructor
  · rintro ⟨name, -, cell, hcell, rfl, rfl⟩
    exact hcell
  · intro hcell
    have hmem : name ∈ s.cells := Std.ExtTreeMap.isSome_getElem?_iff_mem.mp (by simp [hcell])
    exact ⟨name, hmem, cell, hcell, rfl, rfl⟩

/-- Every stored cell is listed, under its name. -/
theorem map_name_listedCells (s : Sheet) : s.listedCells.map Prod.fst = s.sortedNames := by
  have hstored : ∀ name ∈ s.sortedNames,
      (s.cells[name]?.map fun cell => (name, cell)).map Prod.fst = some name := by
    intro name hname
    obtain ⟨cell, hcell⟩ := Option.isSome_iff_exists.mp
      (Std.ExtTreeMap.isSome_getElem?_iff_mem.mpr ((s.mem_sortedNames name).mp hname))
    rw [hcell]
    rfl
  rw [listedCells, List.map_filterMap]
  exact (List.filterMap_congr hstored).trans List.filterMap_some

theorem pairwise_listedCells (s : Sheet) :
    s.listedCells.Pairwise fun a b => Name.compare a.1 b.1 = .lt := by
  have hnames : (s.listedCells.map Prod.fst).Pairwise fun a b => Name.compare a b = .lt := by
    rw [map_name_listedCells]
    exact s.isListing_sortedNames
  exact List.pairwise_map.mp hnames

/-- In a listing, what stands before a name with coordinates has coordinates too, in
    an earlier row or in the same row and no later column. -/
theorem coordinates_before (s : Sheet) : s.sortedNames.Pairwise fun a b =>
    ∀ y, ofName? b = some y →
      ∃ x, ofName? a = some x ∧ (x.row < y.row ∨ x.row = y.row ∧ x.column ≤ y.column) :=
  s.isListing_sortedNames.imp fun hab _ hb =>
    Name.exists_of_place_le (Name.place_le_of_compare hab) hb

/-- **One order and one listing**: comparison is a strict linear order of all
    strings, whether they are names with coordinates or not.  The names of a sheet
    are listed in this order, and this is the only list of them that is; sorting
    them gives it from every order that they may be stored in.  By this order the
    names are listed by row and then by column, before those without
    coordinates. -/
theorem sortedNames_unique :
    (∀ a b, Name.compare a b = .eq ↔ a = b) ∧
    (∀ a b, Name.compare b a = (Name.compare a b).swap) ∧
    (∀ a b c, Name.compare a b = .lt → Name.compare b c = .lt → Name.compare a c = .lt) ∧
    ∀ s : Sheet,
      s.sortedNames.Pairwise (fun a b => Name.compare a b = .lt) ∧
      (∀ name, name ∈ s.sortedNames ↔ name ∈ s.cells) ∧
      (∀ names : List String, names.Pairwise (fun a b => Name.compare a b = .lt) →
        (∀ name, name ∈ names ↔ name ∈ s.cells) → names = s.sortedNames) ∧
      (∀ stored : List String, stored.Nodup → (∀ name, name ∈ stored ↔ name ∈ s.cells) →
        Name.sort stored = s.sortedNames) ∧
      s.sortedNames.Pairwise fun a b => ∀ y, ofName? b = some y →
        ∃ x, ofName? a = some x ∧ (x.row < y.row ∨ x.row = y.row ∧ x.column ≤ y.column) := by
  refine ⟨fun a b => Name.compare_eq_eq_iff, Name.compare_swap,
    fun a b c => Name.compare_trans, fun s => ?_⟩
  refine ⟨s.isListing_sortedNames, s.mem_sortedNames, fun names hnames hmem => ?_,
    fun stored hnodup hmem => ?_, s.coordinates_before⟩
  · apply IsListing.unique hnames s.isListing_sortedNames
    intro name
    rw [hmem, mem_sortedNames]
  · apply (Name.isListing_sort hnodup).unique s.isListing_sortedNames
    intro name
    rw [Name.mem_sort, hmem, mem_sortedNames]

end Worksheet.Sheet
