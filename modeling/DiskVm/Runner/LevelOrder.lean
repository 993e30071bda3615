import DiskVm.Runner.Teardown

/-! The level order the discovery walk is meant to produce.

A mount oracle answers, for the volume `v` at position `i`, the volumes
`found i v` inside it. The forest below the partitions is what these answers
unfold to: level 0 is the partitions, level `k + 1` the volumes found in level
`k`, in order, each adopted by the volume it was found in (`childrenFrom`). Its
breadth-first enumeration is the levels one after another (`levelsFrom`), and
the forest has at most `h` levels when the level `h` is empty (`levelAt`).

What the walk's result should satisfy is proved here of that enumeration: it is
the roots followed by what was found in its volumes, in order
(`levelOrder_eq_roots_append`); every parent sits at a smaller position
(`parentsBelow_levelOrder`) and parents do not decrease along the list
(`pairwise_parentLe_levelOrder`). Of any list with these two properties the
parent relation is acyclic and `volume_depth` does not decrease
(`acyclic_of_parentsBelow`, `depthKey_mono`). -/
namespace DiskVm

/-- The parents a mount oracle gives the volumes it returns: unset, or the
volume being mounted. -/
def AdoptsAt (found : Nat → VolumeInfo → List VolumeInfo) : Prop :=
  ∀ i v c, c ∈ found i v → c.parent = none ∨ c.parent = some i

theorem adopt_parent {i : Nat} {c : VolumeInfo} (h : c.parent = none ∨ c.parent = some i) :
    (adopt i c).parent = some i := by
  rcases h with h | h <;> simp [adopt, h]

/-! ### Parents at smaller positions, in order -/

/-- Every parent sits before its child, in a list whose first volume sits at `n`. -/
def ParentsBelow (n : Nat) (vols : List VolumeInfo) : Prop :=
  ∀ i v p, vols[i]? = some v → v.parent = some p → p < n + i

/-- `a`'s parent comes no later than `b`'s: a volume without a parent comes
first. -/
def ParentLe (a b : VolumeInfo) : Prop :=
  match a.parent, b.parent with
  | none, _ => True
  | some _, none => False
  | some p, some q => p ≤ q

theorem parentsBelow_append {n : Nat} {xs ys : List VolumeInfo} (hx : ParentsBelow n xs)
    (hy : ParentsBelow (n + xs.length) ys) : ParentsBelow n (xs ++ ys) := by
  intro i v p hv hp
  by_cases hi : i < xs.length
  · rw [List.getElem?_append_left hi] at hv
    exact hx i v p hv hp
  · rw [List.getElem?_append_right (by omega)] at hv
    have := hy _ v p hv hp
    omega

theorem parentsBelow_of_forall {n : Nat} {vols : List VolumeInfo}
    (h : ∀ v ∈ vols, ∀ p, v.parent = some p → p < n) : ParentsBelow n vols :=
  fun i v p hv hp => Nat.lt_add_right i (h v (List.getElem?_mem hv) p hp)

section LevelOrder
variable (found : Nat → VolumeInfo → List VolumeInfo)

/-- The volumes found in `vs`, whose first volume sits at position `i`, each
adopted by the volume it was found in. -/
def childrenFrom : Nat → List VolumeInfo → List VolumeInfo
  | _, [] => []
  | i, v :: vs => (found i v).map (adopt i) ++ childrenFrom (i + 1) vs

/-- `fuel` levels, from the level `lvl` whose first volume sits at `b`. -/
def levelsFrom : Nat → Nat → List VolumeInfo → List VolumeInfo
  | 0, _, _ => []
  | fuel + 1, b, lvl => lvl ++ levelsFrom fuel (b + lvl.length) (childrenFrom found b lvl)

/-- The level `k` levels below the level `lvl` whose first volume sits at `b`. -/
def levelAt : Nat → Nat → List VolumeInfo → List VolumeInfo
  | 0, _, lvl => lvl
  | k + 1, b, lvl => levelAt k (b + lvl.length) (childrenFrom found b lvl)

/-- The breadth-first enumeration of the forest below `roots`, `h` levels deep. -/
def levelOrder (h : Nat) (roots : List VolumeInfo) : List VolumeInfo :=
  levelsFrom found h 0 roots

theorem childrenFrom_append (i : Nat) (xs ys : List VolumeInfo) :
    childrenFrom found i (xs ++ ys) =
      childrenFrom found i xs ++ childrenFrom found (i + xs.length) ys := by
  induction xs generalizing i with
  | nil => rfl
  | cons x xs ih => simp [childrenFrom, ih, Nat.add_assoc, Nat.add_comm 1]

theorem childrenFrom_levelsFrom (fuel b : Nat) (lvl : List VolumeInfo) :
    childrenFrom found b (levelsFrom found fuel b lvl) =
      levelsFrom found fuel (b + lvl.length) (childrenFrom found b lvl) := by
  induction fuel generalizing b lvl with
  | zero => rfl
  | succ fuel ih => simp only [levelsFrom, childrenFrom_append, ih]

theorem levelsFrom_succ (fuel b : Nat) (lvl : List VolumeInfo) :
    levelsFrom found (fuel + 1) b lvl = levelsFrom found fuel b lvl ++ levelAt found fuel b lvl := by
  induction fuel generalizing b lvl with
  | zero => simp [levelsFrom, levelAt]
  | succ fuel ih =>
    rw [levelsFrom, ih]
    simp [levelsFrom, levelAt]

/-- Over a forest of at most `h` levels, the enumeration is the roots followed by
what was found in its volumes, in order: the equation of a breadth-first walk. -/
theorem levelOrder_eq_roots_append {h : Nat} {roots : List VolumeInfo}
    (hfin : levelAt found h 0 roots = []) :
    levelOrder found h roots = roots ++ childrenFrom found 0 (levelOrder found h roots) := by
  cases h with
  | zero =>
    obtain rfl : roots = [] := hfin
    rfl
  | succ h =>
    have hlast : levelAt found h roots.length (childrenFrom found 0 roots) = [] := by
      simpa [levelAt] using hfin
    rw [levelOrder]
    conv_lhs => rw [levelsFrom, Nat.zero_add]
    rw [childrenFrom_levelsFrom, Nat.zero_add, levelsFrom_succ, hlast, List.append_nil]

/-- The enumeration split after its first `idx` volumes: the roots and what was
found in those volumes, then what was found in the rest. -/
theorem levelOrder_split {h : Nat} {roots : List VolumeInfo}
    (hfin : levelAt found h 0 roots = []) (idx : Nat) :
    levelOrder found h roots =
      (roots ++ childrenFrom found 0 ((levelOrder found h roots).take idx)) ++
        childrenFrom found ((levelOrder found h roots).take idx).length
          ((levelOrder found h roots).drop idx) := by
  conv_lhs => rw [levelOrder_eq_roots_append found hfin,
    ← List.take_append_drop idx (levelOrder found h roots)]
  rw [childrenFrom_append, Nat.zero_add, List.append_assoc]

/-! ### Where the parents sit -/

variable {found} (hfound : AdoptsAt found)
include hfound

/-- What was found in `vs` has its parent among the positions of `vs`. -/
theorem parent_of_mem_childrenFrom {i : Nat} {vs : List VolumeInfo} {c : VolumeInfo}
    (hc : c ∈ childrenFrom found i vs) : ∃ p, c.parent = some p ∧ i ≤ p ∧ p < i + vs.length := by
  induction vs generalizing i with
  | nil => cases hc
  | cons v vs ih =>
    simp only [childrenFrom, List.mem_append, List.mem_map] at hc
    rcases hc with ⟨c', hc', rfl⟩ | hc
    · exact ⟨i, adopt_parent (hfound i v c' hc'), le_rfl, by simp⟩
    · obtain ⟨p, hp, hi, hp'⟩ := ih hc
      exact ⟨p, hp, by omega, by simp only [List.length_cons]; omega⟩

/-- Parents do not decrease along what was found: each volume's finds in turn. -/
theorem pairwise_parentLe_childrenFrom (i : Nat) (vs : List VolumeInfo) :
    (childrenFrom found i vs).Pairwise ParentLe := by
  induction vs generalizing i with
  | nil => exact .nil
  | cons v vs ih =>
    have hi : ∀ c ∈ (found i v).map (adopt i), c.parent = some i := by
      simp only [List.mem_map]
      rintro _ ⟨c, hc, rfl⟩
      exact adopt_parent (hfound i v c hc)
    refine List.pairwise_append.mpr ⟨List.pairwise_of_forall_mem_list fun a ha b hb => ?_, ih _,
      fun a ha b hb => ?_⟩
    · simp [ParentLe, hi a ha, hi b hb]
    · obtain ⟨p, hp, hle, -⟩ := parent_of_mem_childrenFrom hfound hb
      simp only [ParentLe, hi a ha, hp]
      omega

/-- A volume of the levels below `lvl` is in `lvl` or has a parent at `b` or later. -/
theorem parent_of_mem_levelsFrom {fuel b : Nat} {lvl : List VolumeInfo} {c : VolumeInfo}
    (hc : c ∈ levelsFrom found fuel b lvl) : c ∈ lvl ∨ ∃ p, c.parent = some p ∧ b ≤ p := by
  induction fuel generalizing b lvl with
  | zero => cases hc
  | succ fuel ih =>
    rcases List.mem_append.mp hc with hc | hc
    · exact .inl hc
    · rcases ih hc with hc | ⟨p, hp, hb⟩
      · obtain ⟨p, hp, hb, -⟩ := parent_of_mem_childrenFrom hfound hc
        exact .inr ⟨p, hp, hb⟩
      · exact .inr ⟨p, hp, by omega⟩

theorem parentsBelow_levelsFrom (fuel b : Nat) {lvl : List VolumeInfo}
    (hl : ParentsBelow b lvl) : ParentsBelow b (levelsFrom found fuel b lvl) := by
  induction fuel generalizing b lvl with
  | zero => intro i v p hv; simp [levelsFrom] at hv
  | succ fuel ih =>
    refine parentsBelow_append hl (ih _ (parentsBelow_of_forall fun c hc p hp => ?_))
    obtain ⟨q, hq, -, hq'⟩ := parent_of_mem_childrenFrom hfound hc
    exact (Option.some.inj (hp.symm.trans hq)) ▸ hq'

theorem pairwise_parentLe_levelsFrom (fuel b : Nat) {lvl : List VolumeInfo}
    (hl : lvl.Pairwise ParentLe) (hb : ∀ v ∈ lvl, ∀ p, v.parent = some p → p < b) :
    (levelsFrom found fuel b lvl).Pairwise ParentLe := by
  induction fuel generalizing b lvl with
  | zero => exact .nil
  | succ fuel ih =>
    refine List.pairwise_append.mpr ⟨hl, ih _ (pairwise_parentLe_childrenFrom hfound _ _)
      fun c hc p hp => ?_, fun a ha c hc => ?_⟩
    · obtain ⟨q, hq, -, hq'⟩ := parent_of_mem_childrenFrom hfound hc
      exact (Option.some.inj (hp.symm.trans hq)) ▸ hq'
    · have hc' : ∃ p, c.parent = some p ∧ b ≤ p := by
        rcases parent_of_mem_levelsFrom hfound hc with hc | ⟨p, hp, hb⟩
        · obtain ⟨p, hp, hb, -⟩ := parent_of_mem_childrenFrom hfound hc
          exact ⟨p, hp, hb⟩
        · exact ⟨p, hp, by omega⟩
      obtain ⟨q, hq, hbq⟩ := hc'
      cases hpa : a.parent with
      | none => simp [ParentLe, hpa]
      | some p =>
        simp only [ParentLe, hpa, hq]
        have := hb a ha p hpa
        omega

/-- Over roots without parents, every parent sits before its child. -/
theorem parentsBelow_levelOrder (h : Nat) {roots : List VolumeInfo}
    (hroots : ∀ r ∈ roots, r.parent = none) : ParentsBelow 0 (levelOrder found h roots) :=
  parentsBelow_levelsFrom hfound h 0 (parentsBelow_of_forall fun r hr p hp => by
    simp [hroots r hr] at hp)

/-- Over roots without parents, the roots come first and parents do not
decrease along the rest. -/
theorem pairwise_parentLe_levelOrder (h : Nat) {roots : List VolumeInfo}
    (hroots : ∀ r ∈ roots, r.parent = none) : (levelOrder found h roots).Pairwise ParentLe :=
  pairwise_parentLe_levelsFrom hfound h 0
    (List.pairwise_of_forall_mem_list fun a ha _ _ => by simp [ParentLe, hroots a ha])
    fun r hr p hp => by simp [hroots r hr] at hp

end LevelOrder

/-! ### Depth along such a list -/

section Depth
variable {vols : List VolumeInfo}

theorem volumeDepth_root {f i : Nat} {v : VolumeInfo} (hv : vols[i]? = some v)
    (hp : v.parent = none) : volumeDepth vols (f + 1) i = some 0 := by
  simp [volumeDepth, hv, hp]

/-- When every parent sits before its child, `volume_depth` ends on every volume. -/
theorem acyclic_of_parentsBelow (h : ParentsBelow 0 vols) : Acyclic vols := by
  have key : ∀ n, n < vols.length → (volumeDepth vols (n + 1) n).isSome := by
    intro n
    induction n using Nat.strong_induction_on with
    | _ n ih =>
      intro hn
      obtain ⟨v, hv⟩ : ∃ v, vols[n]? = some v := ⟨vols[n], List.getElem?_eq_getElem hn⟩
      cases hp : v.parent with
      | none => simp [volumeDepth_root hv hp]
      | some p =>
        have hpn := h n v p hv hp
        obtain ⟨d, hd⟩ := Option.isSome_iff_exists.mp (ih p (by omega) (by omega))
        simp [volumeDepth, hv, hp, volumeDepth_mono vols (by omega : p + 1 ≤ n) hd]
  intro n hn
  obtain ⟨d, hd⟩ := Option.isSome_iff_exists.mp (key n hn)
  simp [volumeDepth_mono vols (by omega : n + 1 ≤ vols.length) hd]

theorem depthKey_root {i : Nat} {v : VolumeInfo} (hv : vols[i]? = some v)
    (hp : v.parent = none) : depthKey vols i = 0 := by
  obtain ⟨n, hn⟩ : ∃ n, vols.length = n + 1 :=
    ⟨vols.length - 1, by have := (List.getElem?_eq_some_iff.mp hv).1; omega⟩
  simp [depthKey, hn, volumeDepth_root hv hp]

/-- When every parent sits before its child and parents do not decrease along
the list, neither does `volume_depth`. -/
theorem depthKey_mono (hb : ParentsBelow 0 vols) (hle : vols.Pairwise ParentLe) :
    ∀ n, n < vols.length → ∀ m ≤ n, depthKey vols m ≤ depthKey vols n := by
  have hacyc := acyclic_of_parentsBelow hb
  intro n
  induction n using Nat.strong_induction_on with
  | _ n ih =>
    intro hn m hmn
    obtain ⟨vm, hvm⟩ : ∃ v, vols[m]? = some v := ⟨vols[m], List.getElem?_eq_getElem (by omega)⟩
    obtain ⟨vn, hvn⟩ : ∃ v, vols[n]? = some v := ⟨vols[n], List.getElem?_eq_getElem hn⟩
    cases hpm : vm.parent with
    | none => simp [depthKey_root hvm hpm]
    | some p =>
      rcases Nat.eq_or_lt_of_le hmn with rfl | hlt
      · exact le_rfl
      have hrel : ParentLe vm vn := by
        have := List.pairwise_iff_getElem.mp hle m n (by omega) hn hlt
        simp only [List.getElem?_eq_getElem (by omega : m < vols.length),
          List.getElem?_eq_getElem hn, Option.some.injEq] at hvm hvn
        exact hvm ▸ hvn ▸ this
      cases hpn : vn.parent with
      | none => simp [ParentLe, hpm, hpn] at hrel
      | some q =>
        simp only [ParentLe, hpm, hpn] at hrel
        have hq := hb n vn q hvn hpn
        have := ih q (by omega) (by omega) p hrel
        have := depthKey_parent vols hacyc hvm hpm
        have := depthKey_parent vols hacyc hvn hpn
        omega

end Depth

end DiskVm
