import Mathlib
import Worksheet.Name.Order

/-! # The order of names is linear

    Comparing two names follows one of three rules, by whether both of them have
    coordinates, one or none.  All three are one comparison of keys: a key begins
    with the row and the column, or with a place behind all rows for want of
    coordinates, and ends with the name.  Keys are ordered linearly and no two names
    share one, so the order of names is linear too, and there is only one way to
    list given names in it. -/

namespace Worksheet.Name

open Coordinates (ofName?)

variable {a b c : String} {x y : Coordinates} {names others : List String}

/-! ### Keys -/

/-- Coordinates in the order of listings, by row and then by column. -/
def Coordinates.rank (c : Coordinates) : ℕ ×ₗ ℕ :=
  toLex (c.row, c.column)

/-- Where a name stands before its text is looked at. -/
def place (name : String) : WithTop (ℕ ×ₗ ℕ) :=
  match ofName? name with
  | some c => c.rank
  | none => ⊤

/-- What a name is ordered by. -/
def key (name : String) : WithTop (ℕ ×ₗ ℕ) ×ₗ String :=
  toLex (place name, name)

theorem place_of_some (h : ofName? a = some x) : place a = x.rank := by
  rw [place, h]

theorem place_of_none (h : ofName? a = none) : place a = ⊤ := by
  rw [place, h]

/-- Coordinates among the places are compared as such. -/
theorem compare_coe (p q : ℕ ×ₗ ℕ) :
    Ord.compare (p : WithTop (ℕ ×ₗ ℕ)) (q : WithTop (ℕ ×ₗ ℕ)) = Ord.compare p q := by
  rw [← cmp_eq_compare, ← cmp_eq_compare]
  exact WithTop.coe_strictMono.cmp_map_eq p q

theorem key_injective : Function.Injective key := by
  intro a b h
  have hpair : (place a, a) = (place b, b) := toLex.injective h
  exact congrArg Prod.snd hpair

theorem key_lt_key_iff : key a < key b ↔ place a < place b ∨ place a = place b ∧ a < b :=
  Prod.Lex.toLex_lt_toLex

/-- **The order of keys**: names are compared as their keys are. -/
theorem compare_eq_compare_key (a b : String) : compare a b = Ord.compare (key a) (key b) := by
  show compare a b = (Ord.compare (place a) (place b)).then (Ord.compare a b)
  unfold compare
  cases ha : ofName? a with
  | some x =>
    cases hb : ofName? b with
    | some y =>
      rw [place_of_some ha, place_of_some hb, compare_coe]
      rfl
    | none =>
      have hlt : Ord.compare (place a) (place b) = .lt := by
        rw [place_of_some ha, place_of_none hb, compare_lt_iff_lt]
        exact WithTop.coe_lt_top x.rank
      rw [hlt]
      rfl
  | none =>
    cases hb : ofName? b with
    | some y =>
      have hgt : Ord.compare (place a) (place b) = .gt := by
        rw [place_of_none ha, place_of_some hb, compare_gt_iff_gt]
        exact WithTop.coe_lt_top y.rank
      rw [hgt]
      rfl
    | none =>
      have heq : Ord.compare (place a) (place b) = .eq := by
        rw [place_of_none ha, place_of_none hb, compare_eq_iff_eq]
      rw [heq]
      rfl

/-! ### Laws of the order -/

theorem compare_eq_lt_iff : compare a b = .lt ↔ key a < key b := by
  rw [compare_eq_compare_key, compare_lt_iff_lt]

/-- No two names are in the same place of the order. -/
theorem compare_eq_eq_iff : compare a b = .eq ↔ a = b := by
  rw [compare_eq_compare_key, compare_eq_iff_eq, key_injective.eq_iff]

theorem compare_swap (a b : String) : compare b a = (compare a b).swap := by
  rw [compare_eq_compare_key, compare_eq_compare_key]
  exact Std.OrientedOrd.eq_swap

theorem compare_trans (hab : compare a b = .lt) (hbc : compare b c = .lt) : compare a c = .lt := by
  rw [compare_eq_lt_iff] at hab hbc ⊢
  exact hab.trans hbc

/-- Names for one cell follow each other in text order, and a row that is out of
    range comes last. -/
example : compare "A01" "A1" = .lt ∧ compare "A1" "a1" = .lt ∧ compare "b1" "A0" = .lt := by
  decide +kernel

theorem compare_ne_gt_iff : compare a b ≠ .gt ↔ key a ≤ key b := by
  rw [compare_eq_compare_key, Ne, compare_gt_iff_gt, not_lt]

/-- Behind a name without coordinates there is none with them, and among those with
    coordinates the row decides and then the column. -/
theorem place_le_of_compare (h : compare a b = .lt) : place a ≤ place b := by
  rcases key_lt_key_iff.mp (compare_eq_lt_iff.mp h) with hlt | ⟨heq, -⟩
  · exact hlt.le
  · exact heq.le

theorem exists_of_place_le (h : place a ≤ place b) (hb : ofName? b = some y) :
    ∃ x, ofName? a = some x ∧ (x.row < y.row ∨ x.row = y.row ∧ x.column ≤ y.column) := by
  rw [place_of_some hb] at h
  cases ha : ofName? a with
  | some x =>
    rw [place_of_some ha, WithTop.coe_le_coe] at h
    exact ⟨x, rfl, Prod.Lex.toLex_le_toLex.mp h⟩
  | none =>
    rw [place_of_none ha, top_le_iff] at h
    exact absurd h (WithTop.coe_ne_top)

/-! ### Listing -/

/-- The names are listed in order, none of them twice. -/
def IsListing (names : List String) : Prop :=
  names.Pairwise fun a b => compare a b = .lt

theorem IsListing.pairwise_key (h : IsListing names) : names.Pairwise fun a b => key a < key b :=
  h.imp fun hab => compare_eq_lt_iff.mp hab

theorem IsListing.nodup (h : IsListing names) : names.Nodup :=
  h.pairwise_key.imp fun hab heq => hab.ne (congrArg key heq)

/-- The names say how they are listed. -/
theorem IsListing.unique (h : IsListing names) (hothers : IsListing others)
    (hmem : ∀ name, name ∈ names ↔ name ∈ others) : names = others := by
  have hperm : names.Perm others := (List.perm_ext_iff_of_nodup h.nodup hothers.nodup).mpr hmem
  have hasymm (a b : String) (_ : a ∈ names) (_ : b ∈ others) (hab : key a < key b)
      (hba : key b < key a) : a = b := absurd hab hba.asymm
  exact hperm.eq_of_pairwise hasymm h.pairwise_key hothers.pairwise_key

theorem mem_sort : a ∈ sort names ↔ a ∈ names :=
  List.mem_mergeSort

/-- Names without repetition are sorted into a listing. -/
theorem isListing_sort (h : names.Nodup) : IsListing (sort names) := by
  have hle (a b : String) : (compare a b != .gt) = true ↔ key a ≤ key b := by
    rw [bne_iff_ne, compare_ne_gt_iff]
  have hsorted : (sort names).Pairwise fun a b => (compare a b != .gt) = true := by
    apply List.pairwise_mergeSort
    · intro a b c hab hbc
      rw [hle] at hab hbc ⊢
      exact hab.trans hbc
    · intro a b
      rw [Bool.or_eq_true, hle, hle]
      exact le_total (key a) (key b)
  have hnodup : (sort names).Nodup := (List.mergeSort_perm names _).nodup_iff.mpr h
  -- Different names have different keys, so sorted means strictly sorted.
  refine hsorted.imp₂ (fun a b hab hne => ?_) hnodup
  rw [compare_eq_lt_iff]
  exact lt_of_le_of_ne ((hle a b).mp hab) (key_injective.ne hne)

end Worksheet.Name
