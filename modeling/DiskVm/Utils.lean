import Mathlib.Data.List.Sort

/-! `groupby` (`utils.py`): `sorted` by a key, then `itertools.groupby` on the
same key.

`sorted` is stable, also with `reverse=True` (equal keys keep their order), so
it is an insertion sort by the key, ascending or descending. `itertools.groupby`
cuts the sorted list into runs of equal keys (`groupConsecutive`). On a sorted
list the runs are the key classes: one group per key, keys in sorted order,
which is what `unmount_partitions_and_filesystems` relies on. -/
namespace DiskVm

section GroupBy
variable {α β : Type} [LinearOrder β] (key : α → β)

/-- The order `sorted(lst, key=key, reverse=reverse)` puts elements in: `a` may
precede `b`. -/
def KeyOrder (reverse : Bool) (a b : α) : Prop :=
  if reverse then key b ≤ key a else key a ≤ key b

instance (reverse : Bool) : DecidableRel (KeyOrder key reverse) := fun a b => by
  unfold KeyOrder; infer_instance

instance (reverse : Bool) : IsTotal α (KeyOrder key reverse) :=
  ⟨fun a b => by cases reverse <;> exact le_total _ _⟩

instance (reverse : Bool) : IsTrans α (KeyOrder key reverse) :=
  ⟨fun a b c => by
    cases reverse
    · exact le_trans
    · exact fun h h' => le_trans h' h⟩

/-- `sorted(lst, key=key, reverse=reverse)`. -/
def sortedBy (reverse : Bool) (lst : List α) : List α :=
  lst.insertionSort (KeyOrder key reverse)

/-- `itertools.groupby(lst, key=key)`: maximal runs of equal keys. -/
def groupConsecutive : List α → List (β × List α)
  | [] => []
  | a :: l =>
    match groupConsecutive l with
    | (k, g) :: rest => if key a = k then (k, a :: g) :: rest else (key a, [a]) :: (k, g) :: rest
    | [] => [(key a, [a])]

/-- `groupby(lst, key, reverse)`. -/
def groupby (lst : List α) (reverse : Bool := false) : List (β × List α) :=
  groupConsecutive key (sortedBy key reverse lst)

/-- Strictly before, in the order of `reverse`. -/
def KeyLt (reverse : Bool) (x y : β) : Prop :=
  if reverse then y < x else x < y

theorem perm_sortedBy (reverse : Bool) (lst : List α) : (sortedBy key reverse lst).Perm lst :=
  List.perm_insertionSort _ _

theorem sorted_sortedBy (reverse : Bool) (lst : List α) :
    (sortedBy key reverse lst).Sorted (KeyOrder key reverse) :=
  List.sorted_insertionSort _ _

/-- The first group has the first element's key. -/
theorem groupConsecutive_cons (a : α) (l : List α) :
    ∃ g rest, groupConsecutive key (a :: l) = (key a, g) :: rest := by
  simp only [groupConsecutive]
  split
  · split_ifs with h
    · exact ⟨_, _, by rw [h]⟩
    · exact ⟨_, _, rfl⟩
  · exact ⟨_, _, rfl⟩

/-- The groups, put back together, are the list. -/
@[simp] theorem flatMap_groupConsecutive (l : List α) :
    (groupConsecutive key l).flatMap Prod.snd = l := by
  induction l with
  | nil => rfl
  | cons a l ih =>
    simp only [groupConsecutive]
    split
    · rename_i k g rest h
      rw [h] at ih
      split_ifs <;> simpa using ih
    · rename_i h
      rw [h] at ih
      simp [← ih]

theorem key_of_mem_groupConsecutive {l : List α} {g : β × List α}
    (hg : g ∈ groupConsecutive key l) {a : α} (ha : a ∈ g.2) : key a = g.1 := by
  induction l generalizing g with
  | nil => cases hg
  | cons b l ih =>
    simp only [groupConsecutive] at hg
    split at hg
    · rename_i k g' rest h
      have ih' : ∀ g ∈ (k, g') :: rest, a ∈ g.2 → key a = g.1 := fun g hg => ih (h ▸ hg)
      split_ifs at hg with hk
      · rcases List.mem_cons.mp hg with rfl | hg
        · rcases List.mem_cons.mp ha with rfl | ha
          · exact hk
          · exact ih' (k, g') (List.mem_cons_self _ _) ha
        · exact ih' g (List.mem_cons_of_mem _ hg) ha
      · rcases List.mem_cons.mp hg with rfl | hg
        · rw [List.mem_singleton.mp ha]
        · exact ih' g hg ha
    · rcases List.mem_singleton.mp hg with rfl
      rw [List.mem_singleton.mp ha]

theorem ne_nil_of_mem_groupConsecutive {l : List α} {g : β × List α}
    (hg : g ∈ groupConsecutive key l) : g.2 ≠ [] := by
  induction l generalizing g with
  | nil => cases hg
  | cons b l ih =>
    simp only [groupConsecutive] at hg
    split at hg
    · rename_i k g' rest hl
      split_ifs at hg
      · rcases List.mem_cons.mp hg with rfl | hg
        · simp
        · exact ih (hl ▸ List.mem_cons_of_mem _ hg)
      · rcases List.mem_cons.mp hg with rfl | hg
        · simp
        · exact ih (hl ▸ hg)
    · rcases List.mem_singleton.mp hg with rfl
      simp

/-- Every group's key is the key of one of the list's elements. -/
theorem exists_key_of_mem_groupConsecutive {l : List α} {g : β × List α}
    (hg : g ∈ groupConsecutive key l) : ∃ x ∈ l, key x = g.1 := by
  obtain ⟨x, hx⟩ := List.exists_mem_of_ne_nil _ (ne_nil_of_mem_groupConsecutive key hg)
  refine ⟨x, ?_, key_of_mem_groupConsecutive key hg hx⟩
  rw [← flatMap_groupConsecutive key l]
  exact List.mem_flatMap.mpr ⟨g, hg, hx⟩

theorem keyLt_of_keyOrder {reverse : Bool} {a x : α} (h : KeyOrder key reverse a x)
    (hne : key a ≠ key x) : KeyLt reverse (key a) (key x) := by
  cases reverse
  · exact lt_of_le_of_ne h hne
  · exact lt_of_le_of_ne h (Ne.symm hne)

theorem keyLt_of_keyOrder_of_keyLt {reverse : Bool} {a x : α} {z : β}
    (h : KeyOrder key reverse a x) (hz : KeyLt reverse (key x) z) : KeyLt reverse (key a) z := by
  cases reverse
  · exact lt_of_le_of_lt h hz
  · exact lt_of_lt_of_le hz h

/-- On a sorted list, a key is never repeated, and the keys follow the order. -/
theorem pairwise_groupConsecutive {reverse : Bool} {l : List α}
    (hl : l.Sorted (KeyOrder key reverse)) :
    (groupConsecutive key l).Pairwise fun g h => KeyLt reverse g.1 h.1 := by
  induction hl with
  | nil => exact .nil
  | @cons a l ha _ ih =>
    cases hgr : groupConsecutive key l with
    | nil => simp [groupConsecutive, hgr]
    | cons g rest =>
      obtain ⟨k, g'⟩ := g
      rw [hgr] at ih
      simp only [groupConsecutive, hgr]
      split_ifs with hk
      · exact .cons (fun h hh => List.rel_of_pairwise_cons ih hh) (List.pairwise_cons.mp ih).2
      · obtain ⟨x, hx, rfl⟩ := exists_key_of_mem_groupConsecutive key
          (hgr ▸ List.mem_cons_self (k, g') rest)
        refine .cons (fun h hh => ?_) ih
        rcases List.mem_cons.mp hh with rfl | hh
        · exact keyLt_of_keyOrder key (ha x hx) hk
        · exact keyLt_of_keyOrder_of_keyLt key (ha x hx) (List.rel_of_pairwise_cons ih hh)

/-! ### One group per key -/

end GroupBy

end DiskVm
