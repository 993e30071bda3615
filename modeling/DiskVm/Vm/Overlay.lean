import DiskVm.Vm.Base
import Mathlib.Data.List.Perm.Basic

/-! What `add_part` does to the disk's bytes.

The extents denote a byte map: target byte `t` maps to byte
`sourceOffset + (t - targetOffset)` of the source of each extent that covers it
(`byteMap`). Over disjoint extents at most one does.

`addPart_overlays_part` is what the code guarantees: the part is accepted
exactly when its source is a file or device and both of its ends are aligned,
whatever the sign of its length; and when no old extent starts inside the part
and ends past it, the part's bytes come from the part alone and every other
byte keeps its source. The two configurations the merge loop gets wrong are in
`addPart_shared_start_overlaps`: an extent starting where the part starts and
ending past it falls through every branch, and one starting strictly inside it
is moved by the length of its tail instead of the overlap. -/
namespace DiskVm.Vm

namespace VirtualDiskPart

/-- Whether the extent holds target byte `t`. -/
def covers (p : VirtualDiskPart) (t : Int) : Prop :=
  p.targetOffset ≤ t ∧ t < p.targetOffset + p.length

instance (p : VirtualDiskPart) (t : Int) : Decidable (p.covers t) :=
  inferInstanceAs (Decidable (_ ∧ _))

/-- The source byte behind target byte `t`. -/
def source (p : VirtualDiskPart) (t : Int) : Option Path × Int :=
  (p.sourceFile, p.sourceOffset + (t - p.targetOffset))

end VirtualDiskPart

open VirtualDiskPart

def covering (parts : List VirtualDiskPart) (t : Int) : List VirtualDiskPart :=
  parts.filter fun p => p.covers t

def byteMap (parts : List VirtualDiskPart) (t : Int) : List (Option Path × Int) :=
  (covering parts t).map (·.source t)

/-- Pairwise disjoint half-open target ranges. -/
def Disjoint (parts : List VirtualDiskPart) : Prop :=
  parts.Pairwise fun p q => ∀ t, ¬ (p.covers t ∧ q.covers t)

/-- `p` starts inside `part` and ends past it: the two cases the merge loop
mishandles. -/
def Straddles (part p : VirtualDiskPart) : Prop :=
  part.targetOffset ≤ p.targetOffset ∧ p.targetOffset < part.targetOffset + part.length ∧
    part.targetOffset + part.length < p.targetOffset + p.length

/-- What the merge loop leaves of `p`, in place and as an appended tail. -/
def pieces (part p : VirtualDiskPart) : List VirtualDiskPart :=
  (mergePart part p).1 ++ (mergePart part p).2.toList

/-! ### The byte map of a list -/

@[simp] theorem byteMap_nil (t : Int) : byteMap [] t = [] := rfl

theorem byteMap_cons (p : VirtualDiskPart) (l : List VirtualDiskPart) (t : Int) :
    byteMap (p :: l) t = (if p.covers t then [p.source t] else []) ++ byteMap l t := by
  by_cases h : p.covers t <;> simp [byteMap, covering, List.filter_cons, h]

@[simp] theorem byteMap_append (l l' : List VirtualDiskPart) (t : Int) :
    byteMap (l ++ l') t = byteMap l t ++ byteMap l' t := by
  simp [byteMap, covering]

theorem byteMap_flatMap (l : List VirtualDiskPart) (f : VirtualDiskPart → List VirtualDiskPart)
    (t : Int) : byteMap (l.flatMap f) t = l.flatMap fun p => byteMap (f p) t := by
  simp [byteMap, covering, List.filter_flatMap, List.map_flatMap]

theorem byteMap_eq_flatMap (l : List VirtualDiskPart) (t : Int) :
    byteMap l t = l.flatMap fun p => byteMap [p] t := by
  simpa using byteMap_flatMap l (fun p => [p]) t

theorem byteMap_perm {l l' : List VirtualDiskPart} (h : l.Perm l') (t : Int) :
    (byteMap l t).Perm (byteMap l' t) :=
  (h.filter _).map _

theorem length_byteMap (l : List VirtualDiskPart) (t : Int) :
    (byteMap l t).length = (covering l t).length := by
  simp [byteMap]

theorem eq_of_perm_of_length_le_one {α : Type} {l l' : List α} (h : l.Perm l')
    (hl : l'.length ≤ 1) : l = l' := by
  match l', hl with
  | [], _ => exact h.eq_nil
  | [_], _ => exact h.eq_singleton

/-! ### Disjointness as coverage -/

theorem covering_cons (p : VirtualDiskPart) (l : List VirtualDiskPart) (t : Int) :
    covering (p :: l) t = if p.covers t then p :: covering l t else covering l t := by
  by_cases h : p.covers t <;> simp [covering, List.filter_cons, h]

theorem covering_length_le_one {parts : List VirtualDiskPart} (h : Disjoint parts) (t : Int) :
    (covering parts t).length ≤ 1 := by
  induction h with
  | nil => simp [covering]
  | @cons p l hp _ ih =>
    by_cases hc : p.covers t
    · have : covering l t = [] :=
        List.filter_eq_nil_iff.mpr fun q hq hqc => hp q hq t ⟨hc, of_decide_eq_true hqc⟩
      simp [covering_cons, hc, this]
    · simpa [covering_cons, hc] using ih

theorem disjoint_of_covering {parts : List VirtualDiskPart}
    (h : ∀ t, (covering parts t).length ≤ 1) : Disjoint parts := by
  induction parts with
  | nil => exact .nil
  | cons p l ih =>
    refine .cons (fun q hq t ⟨hp, hqt⟩ => ?_) (ih fun t => ?_)
    · have h2 := h t
      have hq' : q ∈ covering l t := List.mem_filter.mpr ⟨hq, decide_eq_true hqt⟩
      have := List.length_pos_of_mem hq'
      simp only [covering_cons, hp, ite_true, List.length_cons] at h2
      omega
    · have h2 := h t
      by_cases hp : p.covers t <;> simp only [covering_cons, hp, ite_true, ite_false,
        List.length_cons] at h2 <;> omega

theorem disjoint_iff (parts : List VirtualDiskPart) :
    Disjoint parts ↔ ∀ t, (covering parts t).length ≤ 1 :=
  ⟨covering_length_le_one, disjoint_of_covering⟩

/-! ### One old extent against the part -/

section Pieces
variable (part p : VirtualDiskPart) (hn : 0 ≤ part.length) (hs : ¬ Straddles part p)

/-- One extent maps `t` to its source when it covers it. -/
theorem byteMap_singleton (q : VirtualDiskPart) (t : Int) :
    byteMap [q] t = if q.covers t then [q.source t] else [] := by
  simpa using byteMap_cons q [] t

/-- A piece of `p` covering exactly `c` among the bytes, with `p`'s source
behind each: its byte map is `p`'s, restricted to `c`. -/
theorem byteMap_piece {q : VirtualDiskPart} {c : Prop} [Decidable c] (t : Int) (hc : q.covers t ↔ c)
    (hsrc : q.source t = p.source t) : byteMap [q] t = if c then [p.source t] else [] := by
  rw [byteMap_singleton, hsrc]
  exact if_congr hc rfl rfl

include hn hs

/-- The pieces of `p` map each byte as `p` did, except those of the part, which
they leave out. The one case analysis of `mergePart`. -/
theorem byteMap_pieces (t : Int) :
    byteMap (pieces part p) t = if p.covers t ∧ ¬ part.covers t then [p.source t] else [] := by
  unfold Straddles at hs
  -- split the branches of `mergePart` alone
  generalize hr : (if p.covers t ∧ ¬ part.covers t then [p.source t] else []) = r
  unfold pieces mergePart
  split_ifs with h₁ h₂ h₃ h₄ h₅ <;> subst hr
  · -- apart from the part: `p` whole
    exact byteMap_piece p t (by simp only [covers]; omega) rfl
  · -- inside the part: nothing
    rw [if_neg (by simp only [covers]; omega)]
    rfl
  · -- over the part's start: the head
    exact byteMap_piece p t (by simp only [covers]; omega) rfl
  · -- inside the part and past its end: excluded
    omega
  · -- over both ends: the head, and the tail behind the part
    simp only [Option.toList_some, byteMap_append, byteMap_singleton, covers, source]
    split_ifs <;> simp only [List.nil_append, List.append_nil, List.singleton_append, List.cons.injEq,
      Prod.mk.injEq, true_and, and_true] <;> omega
  · -- no other configuration
    omega

/-- Outside the part, the pieces of `p` map each byte as `p` did. -/
theorem byteMap_pieces_outside (t : Int) (ht : ¬ part.covers t) :
    byteMap (pieces part p) t = byteMap [p] t := by
  rw [byteMap_pieces part p hn hs, byteMap_singleton]
  exact if_congr (and_iff_left ht) rfl rfl

/-- Inside the part, nothing is left of `p`. -/
theorem covering_pieces_inside (t : Int) (ht : part.covers t) :
    covering (pieces part p) t = [] := by
  rw [← List.length_eq_zero, ← length_byteMap, byteMap_pieces part p hn hs, if_neg (fun h => h.2 ht)]
  rfl

end Pieces

/-! ### The whole pass -/

theorem byteMap_mergeParts (part : VirtualDiskPart) (parts : List VirtualDiskPart) (t : Int) :
    (byteMap (mergeParts part parts) t).Perm (parts.flatMap fun p => byteMap (pieces part p) t) := by
  have h := byteMap_perm (List.flatMap_append_perm parts (fun p => (mergePart part p).1)
    (fun p => (mergePart part p).2.toList)) t
  rw [mergeParts, List.filterMap_eq_flatMap_toList]
  simpa only [byteMap_append, byteMap_flatMap, pieces] using h

section Pass
variable (part : VirtualDiskPart) (parts : List VirtualDiskPart) (hn : 0 ≤ part.length)
  (hs : ∀ p ∈ parts, ¬ Straddles part p)
include hn hs

theorem byteMap_mergeParts_outside (t : Int) (ht : ¬ part.covers t) :
    (byteMap (mergeParts part parts) t).Perm (byteMap parts t) := by
  refine (byteMap_mergeParts part parts t).trans ?_
  rw [byteMap_eq_flatMap parts t,
    List.flatMap_congr fun p hp => byteMap_pieces_outside part p hn (hs p hp) t ht]

theorem covering_mergeParts_inside (t : Int) (ht : part.covers t) :
    covering (mergeParts part parts) t = [] := by
  have h := byteMap_mergeParts part parts t
  rw [List.flatMap_congr fun p hp => by
    rw [byteMap, covering_pieces_inside part p hn (hs p hp) t ht, List.map_nil]] at h
  rw [show (parts.flatMap fun _ => ([] : List (Option Path × Int))) = [] by simp] at h
  simpa [byteMap] using h.eq_nil

end Pass

/-! ### `add_part` -/

namespace VirtualDiskBuilder

theorem addPart_run (isFileOrBlockDevice : Path → Bool) (b : VirtualDiskBuilder)
    (part : VirtualDiskPart) (f : Path) (hsrc : part.sourceFile = some f) (hsec : b.sectorSize ≠ 0) :
    (addPart isFileOrBlockDevice part).run b =
      if isFileOrBlockDevice f = true ∧ b.sectorSize ∣ part.targetOffset ∧
          b.sectorSize ∣ part.targetOffset + part.length then
        .ok () {b with diskParts := sortByTargetOffset (mergeParts part b.diskParts ++ [part])}
      else .error (.diskVm (.invalidDiskPart
        (if isFileOrBlockDevice f then "Not aligned to sectors" else "Invalid file"))) b := by
  show addPart isFileOrBlockDevice part b = _
  simp only [addPart, hsrc, hsec, Int.dvd_iff_emod_eq_zero]
  cases isFileOrBlockDevice f <;> simp only [Bool.not_false, Bool.not_true, ite_true, ite_false,
    true_and, false_and, Bool.false_eq_true]
  split_ifs <;> simp_all

end VirtualDiskBuilder

open VirtualDiskBuilder

/-- Successive `add_part` calls, stopping at the first that raises. -/
def addParts (isFileOrBlockDevice : Path → Bool) (parts : List VirtualDiskPart) :
    EStateM Exception VirtualDiskBuilder Unit :=
  parts.forM (addPart isFileOrBlockDevice)

/-- `add_part` on a part with a source path, over a positive sector size. -/
theorem addPart_overlays_part (isFileOrBlockDevice : Path → Bool) (b : VirtualDiskBuilder)
    (part : VirtualDiskPart) (f : Path) (hsrc : part.sourceFile = some f)
    (hsec : 0 < b.sectorSize) :
    ((∃ b', (addPart isFileOrBlockDevice part).run b = .ok () b') ↔
        isFileOrBlockDevice f = true ∧ b.sectorSize ∣ part.targetOffset ∧
          b.sectorSize ∣ part.targetOffset + part.length) ∧
    (∀ e b', (addPart isFileOrBlockDevice part).run b = .error e b' →
        b' = b ∧ ∃ reason, e = .diskVm (.invalidDiskPart reason)) ∧
    (0 ≤ part.length → Disjoint b.diskParts → (∀ p ∈ b.diskParts, ¬ Straddles part p) →
      ∀ b', (addPart isFileOrBlockDevice part).run b = .ok () b' →
        b'.diskParts.Sorted TargetLe ∧ Disjoint b'.diskParts ∧
        (∀ t, part.covers t → covering b'.diskParts t = [part]) ∧
        (∀ t, ¬ part.covers t → byteMap b'.diskParts t = byteMap b.diskParts t)) := by
  rw [addPart_run isFileOrBlockDevice b part f hsrc hsec.ne']
  refine ⟨?_, ?_, ?_⟩
  · split_ifs with h <;> simp [h]
  · split_ifs <;> simp
  · intro hn hd hs b' hb
    split_ifs at hb
    cases hb
    have hperm := List.perm_insertionSort TargetLe (mergeParts part b.diskParts ++ [part])
    have hin : ∀ t, part.covers t →
        covering (sortByTargetOffset (mergeParts part b.diskParts ++ [part])) t = [part] := by
      intro t ht
      have h0 := covering_mergeParts_inside part b.diskParts hn hs t ht
      refine ((hperm.filter _).trans ?_).eq_singleton
      simp only [covering] at h0
      simp [h0, ht]
    have hout : ∀ t, ¬ part.covers t →
        byteMap (sortByTargetOffset (mergeParts part b.diskParts ++ [part])) t =
          byteMap b.diskParts t := by
      intro t ht
      refine eq_of_perm_of_length_le_one ((byteMap_perm hperm t).trans ?_)
        (by rw [length_byteMap]; exact covering_length_le_one hd t)
      simpa [byteMap_cons, ht] using byteMap_mergeParts_outside part b.diskParts hn hs t ht
    refine ⟨List.sorted_insertionSort _ _, disjoint_of_covering fun t => ?_, hin, hout⟩
    by_cases ht : part.covers t
    · simp [hin t ht]
    · rw [← length_byteMap, hout t ht, length_byteMap]
      exact covering_length_le_one hd t

/-- A fresh builder, as `new_disk` makes it. -/
def freshBuilder : VirtualDiskBuilder := { name := "firstVm-disk1" }

/-- The extent `_add_virtual_disk` starts from, for a disk image of two sectors. -/
def wholeImage : VirtualDiskPart := ⟨some ⟨true, ["disk.img"]⟩, 1024, 0, 0⟩

/-- A plaintext overlay on the first sector. -/
def firstSectorOverlay : VirtualDiskPart := ⟨some ⟨true, ["dev", "mapper", "plain"]⟩, 512, 0, 0⟩

/-- A disk image of a hundred sectors, as `_add_virtual_disk` adds it. -/
def imageBuilder : VirtualDiskBuilder :=
  {freshBuilder with diskParts := [⟨some ⟨true, ["disk.img"]⟩, 51200, 0, 0⟩]}

/-- A plaintext overlay on sectors 20 to 49 of that image. -/
def innerOverlay : VirtualDiskPart := ⟨some ⟨true, ["dev", "mapper", "plain"]⟩, 15360, 0, 10240⟩

/-- The image cut around the overlay: its head, the overlay, and its tail
moved to the overlay's end. -/
def splitImage : List VirtualDiskPart :=
  [⟨some ⟨true, ["disk.img"]⟩, 10240, 0, 0⟩, innerOverlay,
    ⟨some ⟨true, ["disk.img"]⟩, 25600, 25600, 25600⟩]

theorem innerOverlay_splits_image :
    (∃ b', (addPart (fun _ => true) innerOverlay).run imageBuilder = .ok () b') ∧
      (addPart (fun _ => true) innerOverlay).run imageBuilder =
        .ok () {imageBuilder with diskParts := splitImage} ∧
      splitImage.Sorted TargetLe ∧ Disjoint splitImage ∧
      (∀ t, innerOverlay.covers t → covering splitImage t = [innerOverlay]) ∧
      ∀ t, ¬ innerOverlay.covers t → byteMap splitImage t = byteMap imageBuilder.diskParts t :=
  have hrun : (addPart (fun _ => true) innerOverlay).run imageBuilder =
      .ok () {imageBuilder with diskParts := splitImage} := rfl
  have h := addPart_overlays_part (fun _ => true) imageBuilder innerOverlay _ rfl (by decide)
  ⟨h.1.mpr ⟨rfl, by decide, by decide⟩, hrun,
    h.2.2 (by decide) (List.pairwise_singleton _ _)
      (by simp [Straddles, imageBuilder, innerOverlay]) _ hrun⟩

/-- A part of negative length with aligned ends. -/
def backwardsPart : VirtualDiskPart := ⟨some ⟨true, ["disk.img"]⟩, -512, 0, 512⟩

/-- It is accepted: only the source and the alignment are checked. -/
theorem addPart_accepts_negative_length :
    backwardsPart.length < 0 ∧
      (addPart (fun _ => true) backwardsPart).run freshBuilder =
        .ok () {freshBuilder with diskParts := [backwardsPart]} :=
  ⟨by decide, rfl⟩

/-- An overlay sharing its start with a longer extent: both are kept whole, and
the first sector is covered twice. -/
theorem addPart_shared_start_overlaps :
    (addParts (fun _ => true) [wholeImage, firstSectorOverlay]).run freshBuilder =
        .ok () {freshBuilder with diskParts := [wholeImage, firstSectorOverlay]} ∧
      ¬ Disjoint [wholeImage, firstSectorOverlay] :=
  ⟨rfl, fun h => (List.pairwise_cons.mp h).1 _ (List.mem_singleton_self _) 0
    ⟨by decide, by decide⟩⟩

/-- An extent starting inside an overlay and ending past it, the overlap longer
than the tail. -/
def straddlingImage : VirtualDiskPart := ⟨some ⟨true, ["disk.img"]⟩, 1536, 512, 512⟩

/-- The overlay covering the first three sectors. -/
def headOverlay : VirtualDiskPart := ⟨some ⟨true, ["dev", "mapper", "plain"]⟩, 1536, 0, 0⟩

/-- The straddling extent is moved by the length of its tail (512), not of the
overlap (1024): it keeps its source bytes but still overlaps the overlay. -/
theorem addPart_head_overlap_misplaced :
    (addParts (fun _ => true) [straddlingImage, headOverlay]).run freshBuilder =
        .ok () {freshBuilder with diskParts :=
          [headOverlay, ⟨some ⟨true, ["disk.img"]⟩, 1024, 1024, 1024⟩]} ∧
      ¬ Disjoint [headOverlay, ⟨some ⟨true, ["disk.img"]⟩, 1024, 1024, 1024⟩] :=
  ⟨rfl, fun h => (List.pairwise_cons.mp h).1 _ (List.mem_singleton_self _) 1024
    ⟨by decide, by decide⟩⟩

end DiskVm.Vm
