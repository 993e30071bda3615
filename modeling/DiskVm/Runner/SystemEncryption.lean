import DiskVm.Runner.Discovery
import DiskVm.Plugins.Generic
import DiskVm.Plugins.VeraCrypt

/-! VeraCrypt system encryption in the discovery walk.

The walk visits each volume once, in the order of `disk_info.volumes`, where
`_mount_partitions` has put the partitions first, in the order of the partition
table. The disk is marked system-encrypted only when the filesystem of an EFI
system partition is mounted. A volume listed before every EFI system partition
is therefore offered to `VeraCryptMountPlugin.mount` while the disk is still
unmarked, and never again: `walk_leaves_volumes_before_esp_locked`.

The proof follows what a turn of the walk may do to the first `k` volumes'
VeraCrypt records and types (`KeepsFirst`). Every turn keeps them, except that
`mount` at an index below `k` could change its own volume; it does not as long
as the disk is unmarked, and no turn below `k` marks it (`StaysLocked`).

The other order unlocks the partition: with the EFI system partition listed right
before it, on a host where `mount` mounts the partition's filesystem, which holds
`EFI/Veracrypt`, and a candidate key unlocks the system partition, the walk
records that key on it (`walk_unlocks_system_after_esp`). The turn at the EFI
system partition marks the disk (`mountVolumeAt_marks`), `mount` is asked first at
the next turn and records the key (`mountVolumeAt_unlocks`), and no later turn
undoes a record (`StaysUnlocked`): `mount` on an unlocked volume settles on its
recorded key again. -/
namespace DiskVm

/-- What the VeraCrypt plugin reads and writes of a volume: its VeraCrypt
record, and its type, which decides whether it is an EFI system partition. -/
def VolumeInfo.lockState (v : VolumeInfo) : Option VeraCryptInfo × Option VolumeType :=
  (v.additionalInfo.veracrypt, v.volumeType)

/-- `d'` has the partition table of `d`, and each of the first `k` volumes of
`d` is still there in the same lock state. -/
def KeepsFirst (k : Nat) (d d' : DiskInfo) : Prop :=
  d'.diskInfo = d.diskInfo ∧
    ∀ i < k, ∀ v, d.volumes[i]? = some v → d'.volumes[i]?.map VolumeInfo.lockState = some v.lockState

/-- Nothing can be unlocked yet: the disk is unmarked, and the first `k`
volumes exist and are no EFI system partitions. -/
def Locked (k : Nat) (d : DiskInfo) : Prop :=
  d.additionalInfo.veracryptSystemEncryptionEnabled = false ∧ k ≤ d.volumes.length ∧
    ∀ i < k, ∀ v, d.volumes[i]? = some v → isEfiSystemPartition d v = false

/-- What a turn of the walk below `k` does, from a disk where nothing can be
unlocked yet. -/
def StaysLocked (k : Nat) (d d' : DiskInfo) : Prop := Locked k d → KeepsFirst k d d' ∧ Locked k d'

section Relations
variable {k : Nat}

theorem KeepsFirst.refl (k : Nat) (d : DiskInfo) : KeepsFirst k d d :=
  ⟨rfl, fun _ _ v hv => by simp [hv]⟩

theorem KeepsFirst.trans {a b c : DiskInfo} (hab : KeepsFirst k a b) (hbc : KeepsFirst k b c) :
    KeepsFirst k a c := by
  refine ⟨hbc.1.trans hab.1, fun i hi v hv => ?_⟩
  obtain ⟨v', hv', hs⟩ := Option.map_eq_some'.mp (hab.2 i hi v hv)
  rw [hbc.2 i hi v' hv', hs]

theorem StaysLocked.refl (k : Nat) (d : DiskInfo) : StaysLocked k d d := fun hl => ⟨KeepsFirst.refl k d, hl⟩

theorem StaysLocked.trans {a b c : DiskInfo} (hab : StaysLocked k a b) (hbc : StaysLocked k b c) :
    StaysLocked k a c := fun hl =>
  let ⟨hkab, hlb⟩ := hab hl
  let ⟨hkbc, hlc⟩ := hbc hlb
  ⟨hkab.trans hkbc, hlc⟩

theorem isEfiSystemPartition_congr {d d' : DiskInfo} {v v' : VolumeInfo} (hd : d'.diskInfo = d.diskInfo)
    (hv : v'.volumeType = v.volumeType) : isEfiSystemPartition d' v' = isEfiSystemPartition d v := by
  simp [isEfiSystemPartition, DiskInfo.partitionScheme, hd, hv]

/-- A disk that keeps the first `k` volumes, with no fewer volumes and the same
mark, is as locked as before. -/
theorem Locked.of_keepsFirst {d d' : DiskInfo} (hl : Locked k d) (hkf : KeepsFirst k d d')
    (hmark : d'.additionalInfo = d.additionalInfo) (hlen : d.volumes.length ≤ d'.volumes.length) :
    Locked k d' := by
  refine ⟨hmark ▸ hl.1, hl.2.1.trans hlen, fun i hi v' hv' => ?_⟩
  obtain ⟨v, hv⟩ : ∃ v, d.volumes[i]? = some v :=
    ⟨_, List.getElem?_eq_getElem (by have := hl.2.1; omega)⟩
  have hs := hkf.2 i hi v hv
  rw [hv'] at hs
  rw [isEfiSystemPartition_congr hkf.1 (congrArg Prod.snd (Option.some.inj hs))]
  exact hl.2.2 i hi v hv

/-- A step that keeps the first `k` volumes and the mark, and drops no volume,
leaves a locked disk locked. -/
theorem StaysLocked.of_keepsFirst {d d' : DiskInfo} (hkf : KeepsFirst k d d')
    (hmark : d'.additionalInfo = d.additionalInfo) (hlen : d.volumes.length ≤ d'.volumes.length) :
    StaysLocked k d d' := fun hl => ⟨hkf, hl.of_keepsFirst hkf hmark hlen⟩

theorem keepsFirst_append (d : DiskInfo) (v : VolumeInfo) :
    KeepsFirst k d {d with volumes := d.volumes ++ [v]} :=
  ⟨rfl, fun i _ v' hv => by
    rw [List.getElem?_append_left (List.getElem?_eq_some_iff.mp hv).1, hv]; rfl⟩

theorem keepsFirst_modify (d : DiskInfo) (i : Nat) {f : VolumeInfo → VolumeInfo}
    (hf : ∀ v, (f v).lockState = v.lockState) : KeepsFirst k d {d with volumes := d.volumes.modify f i} :=
  ⟨rfl, fun j _ v hv => by
    simp only [List.getElem?_modify, hv, Option.map_some']
    split <;> simp [hf]⟩

theorem keepsFirst_of_changesAt {i : Nat} {d d' : DiskInfo} (hk : k ≤ i) (h : ChangesAt i d d') :
    KeepsFirst k d d' := by
  obtain ⟨f, -, rfl⟩ := h
  exact ⟨rfl, fun j hj v hv => by rw [List.getElem?_modify_ne _ _ (by omega), hv]; rfl⟩

end Relations

section Walk
variable (env : Env)

/-- The plugins of a run with `VeraCryptMountPlugin`: it, then the fallback
plugins. -/
def veracryptPlugins : PluginManager := withDefaultPlugins env [veraCryptMountPlugin env]

theorem mem_veracryptPlugins {p : Plugin} (hp : p ∈ (veracryptPlugins env).allPlugins) :
    p = veraCryptMountPlugin env ∨ p = genericMountPlugin env ∨ p = lvmMountPlugin env := by
  simpa [veracryptPlugins, withDefaultPlugins, PluginManager.allPlugins] using hp

/-- A turn of a walk with `veracryptPlugins` keeps the disk within `R` when the
two VeraCrypt hooks that touch the disk do, and so do appending a volume and
recording a filesystem: the fallback plugins' hooks keep it by their own lemmas. -/
theorem walkWithin_veracryptPlugins {R : DiskInfo → DiskInfo → Prop} {idx : Nat} (hrefl : ∀ d, R d d)
    (htrans : ∀ a b c, R a b → R b c → R a c) (hmount : Within R (veraCryptMount env idx))
    (hfs : Within R (veraCryptMountedFilesystem env idx)) (happend : ∀ v, Within R (appendVolume v))
    (hrecord : ∀ m, Within R (updateVolume idx fun v => {v with filesystemMount := some m})) :
    WalkWithin R (veracryptPlugins env) idx := by
  refine ⟨hrefl, htrans, fun p hp => ?mount, fun p hp j => ?_, fun p hp j => ?_, fun p hp => ?fs,
    fun p hp => ?_, happend, hrecord⟩
  case mount =>
    rcases mem_veracryptPlugins env hp with rfl | rfl | rfl
    exacts [hmount, genericMount_within env hrefl htrans idx, lvmMount_within env hrefl htrans idx]
  case fs =>
    rcases mem_veracryptPlugins env hp with rfl | rfl | rfl
    exacts [hfs, Within.pure hrefl _, Within.pure hrefl _]
  all_goals rcases mem_veracryptPlugins env hp with rfl | rfl | rfl <;> exact Within.pure hrefl _

/-- `mounted_filesystem` keeps the first `k` volumes. -/
theorem veraCryptMountedFilesystem_keepsFirst (k i : Nat) :
    Within (KeepsFirst k) (veraCryptMountedFilesystem env i) := fun w => by
  rcases veraCryptMountedFilesystem_disk env i w with h | ⟨-, h⟩ <;> rw [h]
  exacts [KeepsFirst.refl k _, ⟨rfl, fun _ _ v hv => by simp [hv]⟩]

/-- A turn of the walk at or after `k` keeps the first `k` volumes. -/
theorem walkWithin_keepsFirst {k idx : Nat} (hk : k ≤ idx) :
    WalkWithin (KeepsFirst k) (veracryptPlugins env) idx :=
  walkWithin_veracryptPlugins env (KeepsFirst.refl k) (fun _ _ _ => KeepsFirst.trans)
    (fun w => keepsFirst_of_changesAt hk (veraCryptMount_changesAt env idx w))
    (veraCryptMountedFilesystem_keepsFirst env k idx) (fun v w => keepsFirst_append w.disk v)
    fun _ w => keepsFirst_modify w.disk idx fun _ => rfl

/-- A turn of the walk below `k`, on a disk where nothing can be unlocked yet,
unlocks nothing and leaves the disk so. -/
theorem walkWithin_staysLocked {k idx : Nat} (hk : idx < k) :
    WalkWithin (StaysLocked k) (veracryptPlugins env) idx := by
  have hrefl := StaysLocked.refl k
  have htrans : ∀ a b c, StaysLocked k a b → StaysLocked k b c → StaysLocked k a c :=
    fun _ _ _ => StaysLocked.trans
  have hmount : Within (StaysLocked k) (veraCryptMount env idx) := fun w hl => by
    rw [veraCryptMount_unmarked env idx hl.1]
    exact ⟨KeepsFirst.refl k _, hl⟩
  have hfs : Within (StaysLocked k) (veraCryptMountedFilesystem env idx) := fun w hl => by
    rcases veraCryptMountedFilesystem_disk env idx w with h | ⟨hesp, -⟩
    · rw [h]
      exact ⟨KeepsFirst.refl k _, hl⟩
    · obtain ⟨v, hv⟩ : ∃ v, w.disk.volumes[idx]? = some v :=
        ⟨_, List.getElem?_eq_getElem (by have := hl.2.1; omega)⟩
      rw [hv, Option.getD_some, hl.2.2 idx hk v hv] at hesp
      cases hesp
  exact walkWithin_veracryptPlugins env hrefl htrans hmount hfs
    (fun v w => StaysLocked.of_keepsFirst (keepsFirst_append w.disk v) rfl (by simp [worldOf, appendVolume]))
    fun _ w => StaysLocked.of_keepsFirst (keepsFirst_modify w.disk idx fun _ => rfl) rfl (by simp [worldOf])

/-- The walk from `idx` keeps the first `k` volumes, when nothing can be
unlocked yet if it starts at or below `k`. -/
theorem mountFilesystemsFrom_keepsFirst {k : Nat} (fuel idx : Nat) (w : World)
    (h : idx ≤ k → Locked k w.disk) :
    KeepsFirst k w.disk (worldOf (mountFilesystemsFrom env (veracryptPlugins env) fuel idx w)).disk := by
  induction fuel generalizing idx w with
  | zero => exact KeepsFirst.refl k _
  | succ fuel ih =>
    cases hp : w.disk.volumes[idx]? with
    | none =>
      have hstop : mountFilesystemsFrom env (veracryptPlugins env) (fuel + 1) idx w = .ok true w := by
        simp [mountFilesystemsFrom, bind_apply, hp]
      rw [hstop]
      exact KeepsFirst.refl k _
    | some p =>
      have hstep : KeepsFirst k w.disk (worldOf (mountVolumeAt env (veracryptPlugins env) idx p w)).disk ∧
          (idx + 1 ≤ k → Locked k (worldOf (mountVolumeAt env (veracryptPlugins env) idx p w)).disk) := by
        by_cases hlt : idx < k
        · obtain ⟨hkf, hl⟩ := mountVolumeAt_within env (walkWithin_staysLocked env hlt) p w (h hlt.le)
          exact ⟨hkf, fun _ => hl⟩
        · exact ⟨mountVolumeAt_within env (walkWithin_keepsFirst env (by omega)) p w, by omega⟩
      rw [mountFilesystemsFrom_succ env hp, bind_apply]
      cases hr : mountVolumeAt env (veracryptPlugins env) idx p w with
      | ok _ w₁ =>
        rw [hr] at hstep
        exact hstep.1.trans (ih (idx + 1) w₁ hstep.2)
      | error _ w₁ =>
        rw [hr] at hstep
        exact hstep.1

/-- However the host answers, the walk leaves the VeraCrypt record of every
volume listed before the first EFI system partition as it found it: such a
volume is never unlocked, whatever key candidates there are. -/
theorem walk_leaves_volumes_before_esp_locked (fuel k : Nat) (w : World)
    (hk : k ≤ w.disk.volumes.length)
    (hmark : w.disk.additionalInfo.veracryptSystemEncryptionEnabled = false)
    (hesp : ∀ v ∈ w.disk.volumes.take k, isEfiSystemPartition w.disk v = false) :
    ∀ i < k, (worldOf (mountFilesystems env (veracryptPlugins env) fuel w)).disk.volumes[i]?.map
      (·.additionalInfo.veracrypt) = w.disk.volumes[i]?.map (·.additionalInfo.veracrypt) := by
  have hl : Locked k w.disk := ⟨hmark, hk, fun i hi v hv =>
    hesp v (List.getElem?_mem (by rw [List.getElem?_take_of_lt hi]; exact hv))⟩
  have hkf := mountFilesystemsFrom_keepsFirst env fuel 0 w fun _ => hl
  intro i hi
  unfold mountFilesystems
  obtain ⟨v, hv⟩ : ∃ v, w.disk.volumes[i]? = some v := ⟨_, List.getElem?_eq_getElem (by omega)⟩
  obtain ⟨v', hv', hs⟩ := Option.map_eq_some'.mp (hkf.2 i hi v hv)
  rw [hv, hv']
  exact congrArg (some ∘ Prod.fst) hs

end Walk

/-! ### The EFI system partition first -/

/-- The VeraCrypt record of the volume at `j` is enabled and holds `masterKey`. -/
def UnlockedWith (j : Nat) (masterKey : VeraCryptMasterKey) (d : DiskInfo) : Prop :=
  ∃ r, d.volumes[j]?.bind (·.additionalInfo.veracrypt) = some r ∧ r.enabled = true ∧ r.masterKey = some masterKey

/-- What a turn of the walk does once the volume at `j` is unlocked. -/
def StaysUnlocked (j : Nat) (masterKey : VeraCryptMasterKey) (d d' : DiskInfo) : Prop :=
  UnlockedWith j masterKey d → UnlockedWith j masterKey d'

section Unlocked
variable {j : Nat} {masterKey : VeraCryptMasterKey}

theorem StaysUnlocked.refl (d : DiskInfo) : StaysUnlocked j masterKey d d := id

theorem StaysUnlocked.trans {a b c : DiskInfo} (h₁ : StaysUnlocked j masterKey a b)
    (h₂ : StaysUnlocked j masterKey b c) : StaysUnlocked j masterKey a c := h₂ ∘ h₁

/-- Recording a key on a volume unlocks it with that key. -/
theorem unlockedWith_record {d : DiskInfo} {v : VolumeInfo} (hv : d.volumes[j]? = some v) :
    UnlockedWith j masterKey {d with volumes := d.volumes.modify (recordMasterKey masterKey) j} :=
  ⟨{v.additionalInfo.veracrypt.getD {} with enabled := true, masterKey := some masterKey},
    by simp [List.getElem?_modify, hv, recordMasterKey], rfl, rfl⟩

/-- A step that keeps the VeraCrypt record of the volume at `j` keeps it unlocked. -/
theorem StaysUnlocked.of_record {d d' : DiskInfo}
    (h : ∀ v, d.volumes[j]? = some v → d'.volumes[j]?.bind (·.additionalInfo.veracrypt) = v.additionalInfo.veracrypt) :
    StaysUnlocked j masterKey d d' := fun ⟨r, hr, hen, hk⟩ => by
  obtain ⟨v, hv, hvr⟩ := Option.bind_eq_some.mp hr
  exact ⟨r, (h v hv).trans hvr, hen, hk⟩

/-- Changing another volume, or this one but not its VeraCrypt record. -/
theorem staysUnlocked_modify (d : DiskInfo) (i : Nat) {f : VolumeInfo → VolumeInfo}
    (hf : i ≠ j ∨ ∀ v, (f v).additionalInfo.veracrypt = v.additionalInfo.veracrypt) :
    StaysUnlocked j masterKey d {d with volumes := d.volumes.modify f i} :=
  StaysUnlocked.of_record fun v hv => by
    simp only [List.getElem?_modify, hv, Option.map_some']
    split
    · rcases hf with hij | hf
      · omega
      · simp [hf]
    · rfl

end Unlocked

section Unlock
variable (env : Env) {j : Nat} {masterKey : VeraCryptMasterKey}

/-- `mount` on an unlocked volume settles on its recorded key again; on another
volume it leaves this one alone. -/
theorem veraCryptMount_staysUnlocked (i : Nat) : Within (StaysUnlocked j masterKey) (veraCryptMount env i) := by
  have hrefl : ∀ d, StaysUnlocked j masterKey d d := StaysUnlocked.refl
  have htrans : ∀ a b c, StaysUnlocked j masterKey a b → StaysUnlocked j masterKey b c →
      StaysUnlocked j masterKey a c := fun _ _ _ => StaysUnlocked.trans
  intro w hu
  by_cases hij : i = j
  · subst hij
    obtain ⟨r, hr, hen, hk⟩ := hu
    obtain ⟨v, hv, hvr⟩ := Option.bind_eq_some.mp hr
    have hfind : findMasterKey env i w = .ok (some masterKey) w := by
      simp [findMasterKey, bind_apply, volumeAt_apply hv, hvr, hk]
    have hrecord : Within (StaysUnlocked i masterKey) (updateVolume i (recordMasterKey masterKey)) :=
      fun w' ⟨_, hr', _⟩ => by
        obtain ⟨v', hv', -⟩ := Option.bind_eq_some.mp hr'
        exact unlockedWith_record hv'
    unfold veraCryptMount
    rw [bind_apply, get_apply]
    dsimp only
    split
    · exact ⟨r, hr, hen, hk⟩
    · rw [bind_apply, hfind]
      exact Within.bind htrans hrecord (fun _ => Within.bind htrans
        (tryMountVeracrypt_within env hrefl htrans i masterKey) fun _ => Within.pure hrefl _) w ⟨r, hr, hen, hk⟩
  · obtain ⟨f, -, hd⟩ := veraCryptMount_changesAt env i w
    rw [hd]
    exact staysUnlocked_modify w.disk i (.inl hij) hu

/-- Every turn of the walk keeps an unlocked volume unlocked. -/
theorem walkWithin_staysUnlocked (idx : Nat) :
    WalkWithin (StaysUnlocked j masterKey) (veracryptPlugins env) idx := by
  have hrefl : ∀ d, StaysUnlocked j masterKey d d := StaysUnlocked.refl
  have htrans : ∀ a b c, StaysUnlocked j masterKey a b → StaysUnlocked j masterKey b c →
      StaysUnlocked j masterKey a c := fun _ _ _ => StaysUnlocked.trans
  have hfs : Within (StaysUnlocked j masterKey) (veraCryptMountedFilesystem env idx) := fun w => by
    rcases veraCryptMountedFilesystem_disk env idx w with h | ⟨-, h⟩ <;> rw [h] <;>
      exact StaysUnlocked.of_record fun v hv => by simp [hv]
  exact walkWithin_veracryptPlugins env hrefl htrans (veraCryptMount_staysUnlocked env idx) hfs
    (fun v w => StaysUnlocked.of_record fun u hu => by
      simp [worldOf, appendVolume, List.getElem?_append_left (List.getElem?_eq_some_iff.mp hu).1, hu])
    fun _ w => staysUnlocked_modify w.disk idx (.inr fun _ => rfl)

/-- `mounted_filesystem` on an EFI system partition whose filesystem holds
`EFI/Veracrypt` marks the disk. -/
theorem veraCryptMountedFilesystem_marks {i : Nat} {v : VolumeInfo} {m : Path} {w : World}
    (hv : w.disk.volumes[i]? = some v) (hesp : isEfiSystemPartition w.disk v = true)
    (hm : v.filesystemMount = some m) (hdir : env.isDir w.log ((m.join "EFI").join "Veracrypt") = true) :
    veraCryptMountedFilesystem env i w = .ok () {w with disk := {w.disk with
      additionalInfo := {w.disk.additionalInfo with veracryptSystemEncryptionEnabled := true}}} := by
  simp [veraCryptMountedFilesystem, bind_apply, volumeAt_apply hv, hesp, hm, hdir]
  rfl

/-- The turn of the walk at an EFI system partition of an unmarked disk whose
filesystem `mount` can mount and holds `EFI/Veracrypt`: the filesystem is
recorded and the disk marked. -/
theorem mountVolumeAt_marks {e : Nat} {esp : VolumeInfo} {w : World} (hv : w.disk.volumes[e]? = some esp)
    (hf : esp.flatMount.isSome) (hesp : isEfiSystemPartition w.disk esp = true)
    (hmark : w.disk.additionalInfo.veracryptSystemEncryptionEnabled = false)
    (hmount : ∀ log t, ∃ out, env.runProcess log (runMountArgs esp w.disk.readonly t) = .ok out)
    (hdir : ∀ log (m : Path), env.isDir log ((m.join "EFI").join "Veracrypt") = true) :
    ∃ w₁, mountVolumeAt env (veracryptPlugins env) e esp w = .ok () w₁ ∧ w₁.options = w.options ∧
      w₁.disk = {w.disk with
        volumes := w.disk.volumes.modify
          (fun v => {v with filesystemMount := some (env.tempPath (w.log ++ [.dispatch .mount (some e)]))}) e
        additionalInfo := {w.disk.additionalInfo with veracryptSystemEncryptionEnabled := true}} := by
  have hvc := veraCryptMount_unmarked env e (w := {w with log := w.log ++ [.dispatch .mount (some e)]}) hmark
  have hgen := genericMount_of_mount_ok env (w := {w with log := w.log ++ [.dispatch .mount (some e)]}) hv hmount
  simp only [mountVolumeAt, hf, if_true, bind_apply, PluginManager.dispatchUntilResult, emit_apply,
    veracryptPlugins, withDefaultPlugins, PluginManager.allPlugins, List.cons_append, List.nil_append,
    PluginManager.firstTruthy, veraCryptMountPlugin, genericMountPlugin, hvc, hgen, mountTruthy,
    Bool.false_eq_true, if_false, pure_apply, updateVolume_apply, PluginManager.dispatchAll, List.forM_cons']
  rw [veraCryptMountedFilesystem_marks env (v := {esp with
      filesystemMount := some (env.tempPath (w.log ++ [.dispatch .mount (some e)]))}) ?hv ?hesp rfl (hdir _ _)]
  · cases hr : w.disk.readonly <;>
      simp [lvmMountPlugin, dispatchUnlessReadonly, bind_apply, hr, PluginManager.dispatchAll, emit_apply,
        PluginManager.allPlugins, List.forM_cons']
  · simp [List.getElem?_modify, hv]
  · exact (isEfiSystemPartition_congr rfl rfl).trans hesp

/-- The turn of the walk at a volume of a marked disk whose chosen key unlocks
it: `VeraCryptMountPlugin.mount`, asked first, records the key and answers the
mapped volume, and the rest of the turn keeps the record. -/
theorem mountVolumeAt_unlocks {unlocks : Path → Int → VeraCryptMasterKey → Bool} (h : VeraCryptHost env unlocks)
    {v : VolumeInfo} {source : Path} {skip : Int} {w : World} (hv : w.disk.volumes[j]? = some v)
    (hsrc : v.flatMount = some source) (hskip : floorDiv v.offset w.disk.sectorSize = .ok skip)
    (hmarked : w.disk.additionalInfo.veracryptSystemEncryptionEnabled = true)
    (hkey : chosenMasterKey (unlocks source skip) (v.additionalInfo.veracrypt.bind (·.masterKey))
      w.options.masterKeys = some masterKey)
    (hunl : unlocks source skip masterKey = true) :
    UnlockedWith j masterKey (worldOf (mountVolumeAt env (veracryptPlugins env) j v w)).disk := by
  obtain ⟨log₁, w₂, -, hm, hd₂⟩ :=
    veraCryptMount_unlocks h (w := {w with log := w.log ++ [.dispatch .mount (some j)]}) hv hsrc hskip hmarked
  simp only [hkey, Option.some_bind, hunl, if_true, Option.elim] at hm hd₂
  simp only [mountVolumeAt, hsrc, Option.isSome_some, if_true, bind_apply, PluginManager.dispatchUntilResult,
    emit_apply, veracryptPlugins, withDefaultPlugins, PluginManager.allPlugins, List.cons_append,
    List.nil_append, PluginManager.firstTruthy, veraCryptMountPlugin, hm, mountTruthy, pure_apply]
  exact addChildren_within env (walkWithin_staysUnlocked env j) _ w₂ (hd₂ ▸ unlockedWith_record hv)

/-- With the EFI system partition listed right before the system partition, the
walk unlocks the system partition: the partition's filesystem marks the disk in
the turn before, and every turn after keeps the record. -/
theorem walk_unlocks_system_after_esp {unlocks : Path → Int → VeraCryptMasterKey → Bool}
    (h : VeraCryptHost env unlocks) (fuel idx : Nat) (hfuel : 2 ≤ fuel) (w : World) {esp sys : VolumeInfo}
    {source : Path} {skip : Int} (hesp : w.disk.volumes[idx]? = some esp)
    (hsys : w.disk.volumes[idx + 1]? = some sys) (hf : esp.flatMount.isSome)
    (hefi : isEfiSystemPartition w.disk esp = true)
    (hmark : w.disk.additionalInfo.veracryptSystemEncryptionEnabled = false)
    (hmount : ∀ log t, ∃ out, env.runProcess log (runMountArgs esp w.disk.readonly t) = .ok out)
    (hdir : ∀ log (m : Path), env.isDir log ((m.join "EFI").join "Veracrypt") = true)
    (hsrc : sys.flatMount = some source) (hskip : floorDiv sys.offset w.disk.sectorSize = .ok skip)
    (hkey : chosenMasterKey (unlocks source skip) (sys.additionalInfo.veracrypt.bind (·.masterKey))
      w.options.masterKeys = some masterKey)
    (hunl : unlocks source skip masterKey = true) :
    UnlockedWith (idx + 1) masterKey
      (worldOf (mountFilesystemsFrom env (veracryptPlugins env) fuel idx w)).disk := by
  obtain ⟨fuel, rfl⟩ := Nat.exists_eq_add_of_le' hfuel
  obtain ⟨w₁, h₁, ho₁, hd₁⟩ := mountVolumeAt_marks env hesp hf hefi hmark hmount hdir
  have hsys₁ : w₁.disk.volumes[idx + 1]? = some sys := by
    rw [hd₁, List.getElem?_modify_ne _ _ (by omega)]
    exact hsys
  have hturn := mountVolumeAt_unlocks env h hsys₁ hsrc (by rw [hd₁]; exact hskip) (by rw [hd₁])
    (by rw [ho₁]; exact hkey) hunl
  rw [mountFilesystemsFrom_succ env hesp, bind_apply, h₁]
  dsimp only
  rw [mountFilesystemsFrom_succ env hsys₁, bind_apply]
  cases hr : mountVolumeAt env (veracryptPlugins env) (idx + 1) sys w₁ with
  | ok _ w₂ =>
    rw [hr] at hturn
    exact mountFilesystemsFrom_within env (walkWithin_staysUnlocked env) fuel (idx + 2) w₂ hturn
  | error _ w₂ =>
    rw [hr] at hturn
    exact hturn

end Unlock

/-- A host on which every tool succeeds, every path exists and is a directory,
and every mapped device shows an NTFS signature: any candidate key opens the
system partition. -/
def unlockingHost : Env where
  runProcess _ _ := .ok ""
  pathExists _ _ := true
  readPartitions _ _ := .ok {}
  sizeBlockdevice _ _ := .ok 2041560576
  tempPath log := ⟨true, ["tmp", "tmp" ++ toString log.length]⟩
  remove _ _ := .ok ()
  isFileOrBlockDevice _ _ := true
  isDir _ _ := true
  isNtfs _ _ := true
  randomLetters log := toString log.length

/-- The EFI system partition: sectors 2048 to 206847. -/
def espEntry : GptPartition := ⟨2048, 206847, "C12A7328-F81F-11D2-BA4B-00A0C93EC93B"⟩

/-- A VeraCrypt system-encrypted Windows partition, from sector 206848. -/
def systemEntry : GptPartition := ⟨206848, 4194270, "EBD0A0A2-B9E5-4433-87C0-68B6B72699C7"⟩

/-- A read-only image whose partition table lists the system partition before
the EFI system partition, as `_mount_partitions` leaves it, with the system
partition's key among the candidates. -/
def systemBeforeEsp : World where
  disk :=
    { readonly        := true
      flatMountedDisk := ⟨true, ["tmp", "image"]⟩
      diskInfo        := { gpt := some ⟨512, [systemEntry, espEntry]⟩ }
      volumes         :=
        [{ flatMount := some ⟨true, ["dev", "loop0"]⟩, offset := 105906176, size := 2041560576,
           volumeType := some (.guid systemEntry.guid) },
         { flatMount := some ⟨true, ["dev", "loop1"]⟩, offset := 1048576, size := 104857600,
           volumeType := some (.guid espEntry.guid) }] }
  options := { masterKeys := [[0x5e, 0x1d, 0x07, 0xa3]] }

theorem systemBeforeEsp_left_locked :
    (worldOf (mountFilesystems unlockingHost (veracryptPlugins unlockingHost) 8
      systemBeforeEsp)).disk.volumes[0]?.map (·.additionalInfo.veracrypt) =
      systemBeforeEsp.disk.volumes[0]?.map (·.additionalInfo.veracrypt) :=
  walk_leaves_volumes_before_esp_locked unlockingHost 8 1 systemBeforeEsp (by decide) rfl (by decide) 0
    (by decide)

/-- The same image with the EFI system partition listed first. -/
def espBeforeSystem : World where
  disk :=
    { readonly        := true
      flatMountedDisk := ⟨true, ["tmp", "image"]⟩
      diskInfo        := { gpt := some ⟨512, [espEntry, systemEntry]⟩ }
      volumes         :=
        [{ flatMount := some ⟨true, ["dev", "loop0"]⟩, offset := 1048576, size := 104857600,
           volumeType := some (.guid espEntry.guid) },
         { flatMount := some ⟨true, ["dev", "loop1"]⟩, offset := 105906176, size := 2041560576,
           volumeType := some (.guid systemEntry.guid) }] }
  options := { masterKeys := [[0x5e, 0x1d, 0x07, 0xa3]] }

theorem veraCryptHost_unlockingHost : VeraCryptHost unlockingHost fun _ _ _ => true where
  opens _ _ _ _ _ _ _ := ⟨"", rfl⟩
  ntfs _ _ _ _ _ _ _ := rfl
  removes _ _ := rfl

theorem espBeforeSystem_unlocked :
    UnlockedWith 1 ⟨[0x5e, 0x1d, 0x07, 0xa3], .aes256Xts⟩
      (worldOf (mountFilesystems unlockingHost (veracryptPlugins unlockingHost) 8 espBeforeSystem)).disk :=
  walk_unlocks_system_after_esp unlockingHost veraCryptHost_unlockingHost 8 0 (by decide) espBeforeSystem
    rfl rfl rfl (by decide) rfl (fun _ _ => ⟨_, rfl⟩) (fun _ _ => rfl) rfl rfl rfl rfl

end DiskVm
