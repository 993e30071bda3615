import DiskVm.Basic
import Mathlib.Data.List.Sort

/-! The backend-neutral virtual disk (`vm/base.py`).

A `VirtualDiskBuilder` keeps the extents of the output disk, each mapping
`length` bytes at `targetOffset` to the bytes of `sourceFile` at `sourceOffset`.
`addPart` is `add_part` as the code computes it: the source check, the alignment
check, then one pass over a snapshot of the extents that keeps, drops, trims or
splits each one against the new part, then the append and a stable sort by
target offset.

The pass mutates every extent in place and appends the tail of a split extent to
the live list, which the snapshot does not see; so the live list afterwards is
the trimmed extents in their order followed by the split tails in theirs
(`mergeParts`). `list.remove(p)` removes the first extent equal to `p`; an
earlier equal extent would fall in the same case as `p` and be gone already, so
this is `p` itself. -/
namespace DiskVm.Vm

inductive FirmwareType where
  | bios
  | efi
deriving DecidableEq, Repr

inductive DiskType where
  | ide
  | sata
  | nvMe
deriving DecidableEq, Repr

/-- `DiskType.value`. -/
def DiskType.value : DiskType → String
  | .ide => "ide"
  | .sata => "sata"
  | .nvMe => "nvme"

/-- One extent of the output disk; `sourceFile = none` is a zero region. -/
structure VirtualDiskPart where
  sourceFile : Option Path
  length : Int
  sourceOffset : Int := 0
  targetOffset : Int := 0
deriving DecidableEq, Repr

/-- The state `add_part` works on. The backend reference is left out: nothing
here reads it. -/
structure VirtualDiskBuilder where
  name : String
  diskParts : List VirtualDiskPart := []
  type : DiskType := .sata
  sectorSize : Int := 512
deriving Repr

/-- The extents kept, trimmed or split when `part` is written over `p`: what
replaces `p` in place, and the tail appended when `part` lies strictly inside
`p`. The branches are the code's, in its order. -/
def mergePart (part p : VirtualDiskPart) : List VirtualDiskPart × Option VirtualDiskPart :=
  if (p.targetOffset < part.targetOffset ∧ p.targetOffset + p.length ≤ part.targetOffset) ∨
      part.targetOffset + part.length ≤ p.targetOffset then
    ([p], none)
  else if part.targetOffset ≤ p.targetOffset ∧
      p.targetOffset + p.length ≤ part.targetOffset + part.length then
    ([], none)
  else if p.targetOffset < part.targetOffset ∧ part.targetOffset < p.targetOffset + p.length ∧
      p.targetOffset + p.length ≤ part.targetOffset + part.length then
    let overlapLen := p.targetOffset + p.length - part.targetOffset
    ([{p with length := p.length - overlapLen}], none)
  else if part.targetOffset < p.targetOffset ∧ p.targetOffset < part.targetOffset + part.length ∧
      part.targetOffset + part.length < p.targetOffset + p.length then
    let overlapLen := p.targetOffset + p.length - (part.targetOffset + part.length)
    ([{p with targetOffset := p.targetOffset + overlapLen,
              sourceOffset := p.sourceOffset + overlapLen,
              length := p.length - overlapLen}], none)
  else if p.targetOffset < part.targetOffset ∧
      p.targetOffset + p.length > part.targetOffset + part.length then
    let head := {p with length := part.targetOffset - p.targetOffset}
    ([head], some {p with
      length := p.targetOffset + p.length - (part.targetOffset + part.length),
      targetOffset := part.targetOffset + part.length,
      sourceOffset := p.sourceOffset + head.length + part.length})
  else
    ([p], none)

/-- The live list after the merge loop. -/
def mergeParts (part : VirtualDiskPart) (parts : List VirtualDiskPart) : List VirtualDiskPart :=
  parts.flatMap (fun p => (mergePart part p).1) ++ parts.filterMap (fun p => (mergePart part p).2)

/-- The sort key of `disk_parts.sort(key=lambda p: p.target_offset)`. -/
def TargetLe (p q : VirtualDiskPart) : Prop := p.targetOffset ≤ q.targetOffset

instance : DecidableRel TargetLe := fun p q => inferInstanceAs (Decidable (p.targetOffset ≤ q.targetOffset))

instance : IsTotal VirtualDiskPart TargetLe := ⟨fun p q => Int.le_total p.targetOffset q.targetOffset⟩

instance : IsTrans VirtualDiskPart TargetLe := ⟨fun _ _ _ => Int.le_trans⟩

/-- Python's stable `list.sort` by target offset. -/
def sortByTargetOffset (parts : List VirtualDiskPart) : List VirtualDiskPart :=
  parts.insertionSort TargetLe

namespace VirtualDiskBuilder

/-- `add_part`. `isFileOrBlockDevice` answers `is_file() or is_block_device()`;
`None.is_file()` raises `AttributeError`, and `% 0` raises `ZeroDivisionError`. -/
def addPart (isFileOrBlockDevice : Path → Bool) (part : VirtualDiskPart) :
    EStateM Exception VirtualDiskBuilder Unit := fun b =>
  match part.sourceFile with
  | none => .error .attributeError b
  | some f =>
    if !isFileOrBlockDevice f then .error (.diskVm (.invalidDiskPart "Invalid file")) b
    else if b.sectorSize = 0 then .error .zeroDivisionError b
    else if part.targetOffset % b.sectorSize ≠ 0 ∨
        (part.targetOffset + part.length) % b.sectorSize ≠ 0 then
      .error (.diskVm (.invalidDiskPart "Not aligned to sectors")) b
    else
      .ok () {b with diskParts := sortByTargetOffset (mergeParts part b.diskParts ++ [part])}

end VirtualDiskBuilder

/-- A written virtual disk (`VirtualDisk`): its descriptor and controller type. -/
structure VirtualDisk where
  path : Path
  type : DiskType
deriving DecidableEq, Repr

/-- `FirmwareType.value`. -/
def FirmwareType.value : FirmwareType → String
  | .bios => "bios"
  | .efi => "efi"

/-- `VirtualMachineBuilder`, without the backend reference. `time` is
`int(self.time.timestamp())`, the start time the VM's clock is set to. -/
structure VirtualMachineBuilder where
  name : String
  disks : List VirtualDiskBuilder := []
  guestOs : Option String := none
  firmware : Option FirmwareType := none
  memory : Int := 4 * 1024 * 1024 * 1024
  cpus : Int := 2
  time : Int := 0
deriving Repr

namespace VirtualMachineBuilder

/-- `new_disk`: a builder named after the VM and the disk's number. -/
def newDisk (b : VirtualMachineBuilder) : VirtualDiskBuilder :=
  { name := b.name ++ "-disk" ++ toString (b.disks.length + 1) }

/-- `add_disk`; a builder's own disk builders pass its `isinstance` check. -/
def addDisk (b : VirtualMachineBuilder) (d : VirtualDiskBuilder) : VirtualMachineBuilder :=
  {b with disks := b.disks ++ [d]}

/-- Disk `j` is named `{name}-disk{j + 1}`: each disk builder was made by
`new_disk` and added by `add_disk` before the next was made, as
`_add_virtual_disk` does. -/
def Numbered (b : VirtualMachineBuilder) : Prop :=
  ∀ j (hj : j < b.disks.length), b.disks[j].name = b.name ++ "-disk" ++ toString (j + 1)

theorem numbered_of_nil {b : VirtualMachineBuilder} (h : b.disks = []) : b.Numbered :=
  fun j hj => absurd hj (by simp [h])

/-- Adding the disk builder `new_disk` made, whatever was done to it in between
short of renaming it, keeps the numbering. -/
theorem Numbered.addDisk {b : VirtualMachineBuilder} (hb : b.Numbered) {d : VirtualDiskBuilder}
    (hd : d.name = b.newDisk.name) : (b.addDisk d).Numbered := by
  intro j hj
  simp only [VirtualMachineBuilder.addDisk, List.length_append, List.length_singleton] at hj ⊢
  rcases Nat.lt_succ_iff_lt_or_eq.1 hj with hj | rfl
  · rw [List.getElem_append_left hj]
    exact hb j hj
  · rw [List.getElem_append_right (Nat.le_refl _)]
    simpa [newDisk] using hd

end VirtualMachineBuilder

end DiskVm.Vm
