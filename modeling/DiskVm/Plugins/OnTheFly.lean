import DiskVm.Runner.Session
import DiskVm.Vm.Overlay
import DiskVm.Plugins.Luks
import DiskVm.Plugins.BitLocker

/-! The on-the-fly decrypt plugins (`plugins/luks.py`: `LuksOnTheFlyDecryptPlugin`,
`plugins/bitlocker.py`: `BitLockerOnTheFlyDecryptPlugin`, `plugins/veracrypt.py`:
`VeraCryptOnTheFlyDecryptPlugin`).

The three `before_create_disk` hooks are one loop: every unlocked volume whose
parent is the encrypted container replaces the container's bytes in the virtual
disk by its plaintext, through `add_part` at the parent's `offset`, and the disk
is kept mounted while the VM runs. They differ only in the annotation they read,
so they are one definition (`onTheFlyBeforeCreateDisk`) over the two readers.

`offset` is where a partition starts on the disk, but a volume that a plugin
returns for a device-mapper or LVM device keeps the default `0`
(`lvmVolume`). `onTheFlyVisit_lvm_parent`: for an unlocked container whose parent
is such a volume, the overlay starts at byte 0 of the disk, over the partition
table and outside every partition that starts after it. -/
namespace DiskVm

open Vm

section OnTheFly
variable (env : Env) (mounted enabled : VolumeAnnotations → Bool)

/-- `disk_info.keep_mounted = True`. -/
def keepMounted : M Unit :=
  modify fun w => {w with disk := {w.disk with keepMounted := true}}

/-- The part that replaces the parent's bytes by the unlocked volume's plaintext. -/
def plaintextPart (v parent : VolumeInfo) : VirtualDiskPart :=
  { sourceFile := v.flatMount, sourceOffset := 0, targetOffset := parent.offset, length := v.size }

/-- The body of the loop of `before_create_disk`, for the volume `v` of `vols`: the
parent is read only for an unlocked volume, and a missing one is `None`. -/
def onTheFlyVisit (vols : List VolumeInfo) (v : VolumeInfo) : M Unit :=
  if !mounted v.additionalInfo then pure ()
  else
    match v.parent with
    | none => throw .attributeError
    | some j =>
      let parent := vols[j]?.getD {}
      if !enabled parent.additionalInfo then pure ()
      else do
        diskBuilderAddPart env (plaintextPart v parent)
        keepMounted

/-- `before_create_disk` of an on-the-fly decrypt plugin. -/
def onTheFlyBeforeCreateDisk : M Unit := do
  let vols := (← get).disk.volumes
  vols.forM (onTheFlyVisit env mounted enabled vols)

theorem onTheFlyVisit_of_unlocked {vols : List VolumeInfo} {v parent : VolumeInfo} {j : Nat}
    (hmounted : mounted v.additionalInfo) (hparent : v.parent = some j) (hp : vols[j]? = some parent)
    (henabled : enabled parent.additionalInfo) :
    onTheFlyVisit env mounted enabled vols v = (do
      diskBuilderAddPart env (plaintextPart v parent)
      keepMounted) := by
  simp [onTheFlyVisit, hmounted, hparent, hp, henabled]

end OnTheFly

/-! ### The three plugins -/

/-- `LuksOnTheFlyDecryptPlugin(LuksMountPlugin)`. -/
def luksOnTheFlyDecryptPlugin (env : Env) : Plugin :=
  {Luks.luksMountPlugin env with beforeCreateDisk := onTheFlyBeforeCreateDisk env luksMounted luksEnabled}

/-- `BitLockerOnTheFlyDecryptPlugin(BitLockerMountPlugin)`. -/
def bitLockerOnTheFlyDecryptPlugin (env : Env) : Plugin :=
  {bitLockerMountPlugin env with beforeCreateDisk := onTheFlyBeforeCreateDisk env bitlockerMounted bitlockerEnabled}

/-- `VeraCryptOnTheFlyDecryptPlugin(VeraCryptMountPlugin)`; its `modify_filesystem`,
which moves the backed-up boot loaders back, is left out. -/
def veraCryptOnTheFlyDecryptPlugin (env : Env) : Plugin :=
  {veraCryptMountPlugin env with beforeCreateDisk := onTheFlyBeforeCreateDisk env veracryptMounted veracryptEnabled}

/-! ### A container inside a logical volume -/

/-- A volume `LvmMountPlugin` returns starts at byte 0, and the walk keeps it there. -/
theorem offset_adopt_lvmVolume (idx i : Nat) (lv : Path) (volumeGroup : String) :
    (adopt idx (lvmVolume i lv volumeGroup)).offset = 0 := by
  simp [adopt, lvmVolume]

/-- An unlocked container whose parent is a volume at offset 0, a logical volume
among them, is overlaid from byte 0 of the disk, whatever its root partition `r`:
the overlay covers the first byte, where the partition table is, and does not lie
inside `r` when `r` starts after byte 0. -/
theorem onTheFlyVisit_lvm_parent (env : Env) (mounted enabled : VolumeAnnotations → Bool)
    {vols : List VolumeInfo} {v parent r : VolumeInfo} {j : Nat}
    (hmounted : mounted v.additionalInfo) (hparent : v.parent = some j) (hp : vols[j]? = some parent)
    (henabled : enabled parent.additionalInfo) (hvirtual : parent.offset = 0)
    (hroot : 0 < r.offset) (hsize : 0 < v.size) :
    onTheFlyVisit env mounted enabled vols v = (do
      diskBuilderAddPart env { sourceFile := v.flatMount, length := v.size }
      keepMounted) ∧
    (plaintextPart v parent).covers 0 ∧
    ¬ (r.offset ≤ (plaintextPart v parent).targetOffset ∧
      (plaintextPart v parent).targetOffset + (plaintextPart v parent).length ≤ r.offset + r.size) := by
  have hpart : plaintextPart v parent = { sourceFile := v.flatMount, length := v.size } := by
    simp [plaintextPart, hvirtual]
  refine ⟨hpart ▸ onTheFlyVisit_of_unlocked env mounted enabled hmounted hparent hp henabled, ?_, ?_⟩
  · simp only [VirtualDiskPart.covers, hpart]
    omega
  · simp only [hpart]
    omega

/-- A LUKS container inside a logical volume: the partition at 1 MiB, the logical
volume `LvmMountPlugin` found on it, and the mapper device `LuksMountPlugin`
opened on the logical volume. -/
def luksInLogicalVolume : List VolumeInfo :=
  let lv := adopt 0 (lvmVolume 0 ⟨true, ["dev", "vg", "root"]⟩ "vg")
  [{ flatMount := some ⟨true, ["dev", "loop0p1"]⟩, offset := 1048576, size := 1073741824 },
   {lv with size := 536870912, additionalInfo := {lv.additionalInfo with luks := some { enabled := true }}},
   { flatMount := some ⟨true, ["dev", "mapper", "luks"]⟩, parent := some 1, size := 520093696,
     additionalInfo := { luks := some { mounted := true } } }]

theorem luksInLogicalVolume_overlay_at_zero :
    onTheFlyVisit allPresent luksMounted luksEnabled luksInLogicalVolume (luksInLogicalVolume.getD 2 {}) = (do
      diskBuilderAddPart allPresent { sourceFile := some ⟨true, ["dev", "mapper", "luks"]⟩, length := 520093696 }
      keepMounted) ∧
    (plaintextPart (luksInLogicalVolume.getD 2 {}) (luksInLogicalVolume.getD 1 {})).covers 0 ∧
    ¬ (1048576 ≤ (plaintextPart (luksInLogicalVolume.getD 2 {}) (luksInLogicalVolume.getD 1 {})).targetOffset ∧
      (plaintextPart (luksInLogicalVolume.getD 2 {}) (luksInLogicalVolume.getD 1 {})).targetOffset +
        (plaintextPart (luksInLogicalVolume.getD 2 {}) (luksInLogicalVolume.getD 1 {})).length ≤
          1048576 + 1073741824) :=
  @onTheFlyVisit_lvm_parent allPresent luksMounted luksEnabled luksInLogicalVolume
    (luksInLogicalVolume.getD 2 {}) (luksInLogicalVolume.getD 1 {}) (luksInLogicalVolume.getD 0 {}) 1
    rfl rfl rfl rfl rfl (by decide) (by decide)

end DiskVm
