import DiskVm.Runner.Discovery
import DiskVm.Plugins.Generic

/-! The discovery walk with the fallback plugins alone
(`DiskVmCreator._init_default_plugins`).

A volume that holds no filesystem `mount` can read, such as an LVM physical
volume, is first offered to `GenericMountPlugin`: its `mount` fails, the
temporary directory is removed, and the answer is `None`. The dispatch then
goes on to `LvmMountPlugin`, and what happens there is what the walk does with
the volume: the group `pvdisplay` names is activated by a plain
`vgchange --activate y`, also on the read-only disk of an input image, and a
failing `pvdisplay` raises through the dispatch and out of
`_mount_filesystems`. -/
namespace DiskVm

section Fallback
variable (env : Env)

theorem hooksAppend_withDefaultPlugins : HooksAppend (withDefaultPlugins env []) := by
  have hps : ∀ p ∈ (withDefaultPlugins env []).allPlugins,
      p = genericMountPlugin env ∨ p = lvmMountPlugin env := by
    simp [withDefaultPlugins, PluginManager.allPlugins]
  refine ⟨fun p hp i => ?_, fun p hp i => ?_, fun p hp i => ?_, fun p hp i => ?_, fun p hp i => ?_⟩ <;>
    rcases hps p hp with rfl | rfl
  exacts [genericMount_appends env i, lvmMount_appends env i, Appends.pure _, Appends.pure _,
    Appends.pure _, Appends.pure _, Appends.pure _, Appends.pure _, Appends.pure _, Appends.pure _]

/-- When `mount` fails on the volume at `idx`, the mount dispatch is
`LvmMountPlugin.mount` alone, on a world whose disk is unchanged. -/
theorem dispatchMount_of_mount_fails {idx : Nat} {p : VolumeInfo} {w : World}
    (hp : w.disk.volumes[idx]? = some p)
    (hfail : ∀ log t, ∃ err, env.runProcess log (runMountArgs p w.disk.readonly t) = .error err)
    (hrm : ∀ log q, env.remove log q = .ok ()) :
    ∃ w₁, (withDefaultPlugins env []).dispatchUntilResult .mount (some idx) (·.mount idx) mountTruthy none w =
        PluginManager.firstTruthy (·.mount idx) mountTruthy none [lvmMountPlugin env] w₁ ∧
      w₁.disk = w.disk := by
  obtain ⟨w₁, hg, hdisk⟩ : ∃ w₁, genericMount env idx {w with log := w.log ++ [.dispatch .mount (some idx)]} =
      .ok none w₁ ∧ w₁.disk = w.disk :=
    ⟨_, genericMount_of_mount_fails env hp hfail hrm, rfl⟩
  refine ⟨w₁, ?_, hdisk⟩
  rw [PluginManager.dispatchUntilResult, bind_apply, emit_apply]
  dsimp only [withDefaultPlugins, PluginManager.allPlugins, List.nil_append]
  rw [PluginManager.firstTruthy, bind_apply,
    show (genericMountPlugin env).mount idx = genericMount env idx from rfl, hg]
  simp [mountTruthy]

/-- A host on which `mount` finds no filesystem and `pvdisplay` lists
`/dev/loop0` in the volume group `vg0`. -/
def lvmHost : Env where
  runProcess _ args := match args with
    | "mount" :: _ => .error (.subprocessFailed args "wrong fs type")
    | ["pvdisplay", "--colon"] => .ok "  /dev/loop0:vg0:2097152:-1:8:8:-1:4096:255:0:255:uuid\n"
    | _ => .ok ""
  pathExists _ _ := true
  readPartitions _ _ := .ok {}
  sizeBlockdevice _ _ := .ok 0
  tempPath _ := ⟨true, ["tmp", "tmp0"]⟩
  remove _ _ := .ok ()
  isFileOrBlockDevice _ _ := true
  isDir _ _ := true
  isNtfs _ _ := false
  randomLetters _ := "abcdefghij"

/-- A host whose LVM tools are missing: `pvdisplay` fails. -/
def noLvmHost : Env :=
  { lvmHost with runProcess := fun log args => match args with
      | ["pvdisplay", "--colon"] => .error (.subprocessFailed args "command not found")
      | _ => lvmHost.runProcess log args }

/-- The read-only analysis of an image of two partitions, the first an LVM
physical volume. -/
def physicalVolumeImage : World where
  disk :=
    { readonly        := true
      flatMountedDisk := ⟨true, ["tmp", "tmp0"]⟩
      diskInfo        := {}
      volumes         :=
        [{ flatMount := some ⟨true, ["dev", "loop0"]⟩, size := 1048576 },
         { flatMount := some ⟨true, ["dev", "loop1"]⟩, size := 1048576 }] }

/-- On a read-only disk, when the walk reaches a volume that `mount` cannot
mount and that `pvdisplay` lists in a volume group, the group is activated by
`vgchange --activate y --yes`, the command a writable disk gets, and the run's
log keeps it whatever the walk does next. -/
theorem walk_activates_volume_group_read_write (fuel idx : Nat) (w : World) (p : VolumeInfo)
    (dev : Path) (out volumeGroup : String) (pvs : List (Path × String))
    (hro : w.disk.readonly = true) (hp : w.disk.volumes[idx]? = some p) (hdev : p.flatMount = some dev)
    (hfail : ∀ log t, ∃ err, env.runProcess log (runMountArgs p true t) = .error err)
    (hrm : ∀ log q, env.remove log q = .ok ())
    (hpv : ∀ log, env.runProcess log ["pvdisplay", "--colon"] = .ok out)
    (hdict : pathDict (colonRows out) = .ok pvs) (hvg : dictGet pvs (some dev) = some volumeGroup)
    (hne : volumeGroup ≠ "") :
    .spawn ["vgchange", "--activate", "y", "--yes", volumeGroup] ∈
      (worldOf (mountFilesystemsFrom env (withDefaultPlugins env []) (fuel + 1) idx w)).log := by
  have hpm := hooksAppend_withDefaultPlugins env
  obtain ⟨w₁, hd, hdisk⟩ := dispatchMount_of_mount_fails env hp (by rwa [hro]) hrm
  obtain ⟨k, hk, heq⟩ := mountVolumeAt_of_flatMount env hpm idx (p := p) (by simp [hdev])
  rw [mountFilesystemsFrom_succ env hp]
  refine Appends.mem_bind (fun _ => mountFilesystemsFrom_appends env hpm _ _) ?_
  rw [heq]
  refine Appends.mem_bind hk ?_
  rw [hd, PluginManager.firstTruthy]
  refine Appends.mem_bind (fun res => ?_) ?_
  · split
    exacts [Appends.pure _, Appends.pure _]
  · exact lvmMount_activates env (hdisk ▸ hp) (hpv _) hdict (hdev ▸ hvg) hne

theorem physicalVolumeImage_activated_read_write :
    .spawn ["vgchange", "--activate", "y", "--yes", "vg0"] ∈
      (worldOf (mountFilesystemsFrom lvmHost (withDefaultPlugins lvmHost []) 3 0 physicalVolumeImage)).log :=
  walk_activates_volume_group_read_write lvmHost 2 0 physicalVolumeImage _ ⟨true, ["dev", "loop0"]⟩ _ "vg0"
    [(⟨true, ["dev", "loop0"]⟩, "vg0")] rfl rfl rfl (fun _ _ => ⟨_, rfl⟩) (fun _ _ => rfl) (fun _ => rfl)
    rfl rfl (by decide)

/-- A failing `pvdisplay` on a volume that `mount` cannot mount is not caught:
it leaves `LvmMountPlugin.mount`, the dispatch and the walk, and the volumes
after it are not visited. -/
theorem walk_raises_pvdisplay_failure (fuel idx : Nat) (w : World) (p : VolumeInfo) (dev : Path)
    (err : DiskVmError) (hp : w.disk.volumes[idx]? = some p) (hdev : p.flatMount = some dev)
    (hfail : ∀ log t, ∃ e, env.runProcess log (runMountArgs p w.disk.readonly t) = .error e)
    (hrm : ∀ log q, env.remove log q = .ok ())
    (hpv : ∀ log, env.runProcess log ["pvdisplay", "--colon"] = .error err) :
    ∃ w', mountFilesystemsFrom env (withDefaultPlugins env []) (fuel + 1) idx w = .error (.diskVm err) w' := by
  obtain ⟨w₁, hd, -⟩ := dispatchMount_of_mount_fails env hp hfail hrm
  obtain ⟨k, -, heq⟩ :=
    mountVolumeAt_of_flatMount env (hooksAppend_withDefaultPlugins env) idx (p := p) (by simp [hdev])
  have hlvm : (lvmMountPlugin env).mount idx w₁ = _ := lvmMount_of_pvdisplay_fails env (hpv _)
  rw [mountFilesystemsFrom_succ env hp, heq, bind_apply, bind_apply, hd, PluginManager.firstTruthy,
    bind_apply, hlvm]
  exact ⟨_, rfl⟩

theorem physicalVolumeImage_walk_aborted :
    ∃ w', mountFilesystemsFrom noLvmHost (withDefaultPlugins noLvmHost []) 3 0 physicalVolumeImage =
      .error (.diskVm (.subprocessFailed ["pvdisplay", "--colon"] "command not found")) w' :=
  walk_raises_pvdisplay_failure noLvmHost 2 0 physicalVolumeImage _ ⟨true, ["dev", "loop0"]⟩ _ rfl rfl
    (fun _ _ => ⟨_, rfl⟩) (fun _ _ => rfl) (fun _ => rfl)

/-! ### A volume group on two partitions -/

/-- The flat mounts of the volumes so far stay, in order, at the front. -/
def KeepsFlatMounts (d d' : DiskInfo) : Prop :=
  d.volumes.map (·.flatMount) <+: d'.volumes.map (·.flatMount)

theorem map_flatMount_modify (vols : List VolumeInfo) (i : Nat) (f : VolumeInfo → VolumeInfo)
    (hf : ∀ v, (f v).flatMount = v.flatMount) :
    (vols.modify f i).map (·.flatMount) = vols.map (·.flatMount) := by
  induction vols generalizing i with
  | nil => simp
  | cons v vols ih => cases i <;> simp [hf, ih]

theorem mem_withDefaultPlugins {p : Plugin} (hp : p ∈ (withDefaultPlugins env []).allPlugins) :
    p = genericMountPlugin env ∨ p = lvmMountPlugin env := by
  simpa [withDefaultPlugins, PluginManager.allPlugins] using hp

/-- Every turn of the walk with the fallback plugins keeps the flat mounts. -/
theorem walkWithin_keepsFlatMounts (idx : Nat) :
    WalkWithin KeepsFlatMounts (withDefaultPlugins env []) idx := by
  have hrefl : ∀ d, KeepsFlatMounts d d := fun d => List.prefix_refl _
  have htrans : ∀ a b c, KeepsFlatMounts a b → KeepsFlatMounts b c → KeepsFlatMounts a c :=
    fun _ _ _ => List.IsPrefix.trans
  refine ⟨hrefl, htrans, fun p hp => ?_, fun p hp j => ?_, fun p hp j => ?_, fun p hp => ?_,
    fun p hp => ?_, fun v w => by simp [KeepsFlatMounts, worldOf, appendVolume],
    fun m w => by
      show w.disk.volumes.map (·.flatMount) <+:
        (w.disk.volumes.modify (fun v => {v with filesystemMount := some m}) idx).map (·.flatMount)
      rw [map_flatMount_modify _ _ (fun v => {v with filesystemMount := some m}) fun _ => rfl]⟩ <;>
    rcases mem_withDefaultPlugins env hp with rfl | rfl
  all_goals first
    | exact Within.pure hrefl _
    | exact genericMount_within env hrefl htrans idx
    | exact lvmMount_within env hrefl htrans idx

/-- With the fallback plugins, registering a volume only appends it to the disk. -/
theorem registerVolume_withDefaultPlugins (v : VolumeInfo) (w : World) :
    ∃ w', registerVolume (withDefaultPlugins env []) v w = .ok () w' ∧
      w'.disk = {w.disk with volumes := w.disk.volumes ++ [v]} :=
  registerVolume_of_idle _ (fun p hp _ => by rcases mem_withDefaultPlugins env hp with rfl | rfl <;> exact ⟨rfl, rfl⟩)
    v w

theorem count_logicalVolumesOf {i : Nat} {lvs : List (Path × String)} {lv : Path} {volumeGroup : String}
    (hmem : (lv, volumeGroup) ∈ lvs) :
    1 ≤ ((logicalVolumesOf i lvs volumeGroup).map (·.flatMount)).count (some lv) := by
  refine List.count_pos_iff.mpr (List.mem_map.mpr ⟨lvmVolume i lv volumeGroup, ?_, rfl⟩)
  exact List.mem_map.mpr ⟨(lv, volumeGroup), List.mem_filter.mpr ⟨hmem, by simp⟩, rfl⟩

section Group
variable {pvOut lvOut volumeGroup : String} {pvs lvs : List (Path × String)}
  (hrm : ∀ log q, env.remove log q = .ok ())
  (hpv : ∀ log, env.runProcess log ["pvdisplay", "--colon"] = .ok pvOut)
  (hpvs : pathDict (colonRows pvOut) = .ok pvs) (hne : volumeGroup ≠ "")
  (hact : ∀ log, ∃ out, env.runProcess log ["vgchange", "--activate", "y", "--yes", volumeGroup] = .ok out)
  (hlv : ∀ log, env.runProcess log ["lvdisplay", "--colon"] = .ok lvOut)
  (hlvs : pathDict (colonRows lvOut) = .ok lvs)
  (hsize : ∀ log d, ∃ s, env.sizeBlockdevice log d = .ok s)
include hrm hpv hpvs hne hact hlv hlvs hsize

/-- A turn of the walk on a physical volume that `mount` cannot mount appends the
logical volumes of its group, in `lvdisplay`'s order, and nothing else. -/
theorem mountVolumeAt_physicalVolume {idx : Nat} {p : VolumeInfo} {w : World} {lv : Path}
    (hp : w.disk.volumes[idx]? = some p) (hf : p.flatMount.isSome)
    (hfail : ∀ log t, ∃ err, env.runProcess log (runMountArgs p w.disk.readonly t) = .error err)
    (hvg : dictGet pvs p.flatMount = some volumeGroup) (hmem : (lv, volumeGroup) ∈ lvs) :
    ∃ w' vs, mountVolumeAt env (withDefaultPlugins env []) idx p w = .ok () w' ∧
      w'.disk = {w.disk with volumes := w.disk.volumes ++ vs} ∧
      vs.map (·.flatMount) = (logicalVolumesOf idx lvs volumeGroup).map (·.flatMount) := by
  obtain ⟨w₁, hd, hdisk⟩ := dispatchMount_of_mount_fails env hp hfail hrm
  obtain ⟨w₂, hl, hdisk₂⟩ := lvmMount_of_group env (hdisk ▸ hp) hpv hpvs hvg hne hact hlv hlvs
  have hne' : logicalVolumesOf idx lvs volumeGroup ≠ [] := fun h => by
    simpa [h] using count_logicalVolumesOf (i := idx) hmem
  obtain ⟨c, cs, hcs⟩ := List.exists_cons_of_ne_nil hne'
  obtain ⟨w₃, vs, h₃, hd₃, hvs⟩ := addChildren_of_registerVolume env _ hsize
    (registerVolume_withDefaultPlugins env) idx (logicalVolumesOf idx lvs volumeGroup)
    (fun c hc _ => by obtain ⟨_, -, rfl⟩ := List.mem_map.mp hc; rfl) w₂
  refine ⟨w₃, vs, ?_, by rw [hd₃, hdisk₂, hdisk], ?_⟩
  · rw [mountVolumeAt, if_pos hf, bind_apply, hd, PluginManager.firstTruthy, bind_apply,
      show (lvmMountPlugin env).mount idx = lvmMount env idx from rfl, hl]
    rw [hcs] at h₃ ⊢
    simpa only [mountTruthy, if_true, pure_apply] using h₃
  · have := congrArg (List.map (·.flatMount)) hvs
    simpa only [List.map_map, Function.comp_def, adopt_flatMount] using this

end Group

/-- A volume group whose physical volumes are two consecutive partitions: the
walk meets the group once from each, and each time `LvmMountPlugin` answers
every logical volume of the group, so each of them ends up in `volumes` twice,
whatever the rest of the walk does. -/
theorem walk_lists_logical_volume_twice (fuel idx : Nat) (hfuel : 2 ≤ fuel) (w : World) (p q : VolumeInfo)
    (lv : Path)
    (pvOut lvOut volumeGroup : String) (pvs lvs : List (Path × String))
    (hp : w.disk.volumes[idx]? = some p) (hq : w.disk.volumes[idx + 1]? = some q)
    (hpf : p.flatMount.isSome) (hqf : q.flatMount.isSome)
    (hfail : ∀ log ro t, (∃ err, env.runProcess log (runMountArgs p ro t) = .error err) ∧
      ∃ err, env.runProcess log (runMountArgs q ro t) = .error err)
    (hrm : ∀ log r, env.remove log r = .ok ())
    (hpv : ∀ log, env.runProcess log ["pvdisplay", "--colon"] = .ok pvOut)
    (hpvs : pathDict (colonRows pvOut) = .ok pvs)
    (hgp : dictGet pvs p.flatMount = some volumeGroup) (hgq : dictGet pvs q.flatMount = some volumeGroup)
    (hne : volumeGroup ≠ "")
    (hact : ∀ log, ∃ out, env.runProcess log ["vgchange", "--activate", "y", "--yes", volumeGroup] = .ok out)
    (hlv : ∀ log, env.runProcess log ["lvdisplay", "--colon"] = .ok lvOut)
    (hlvs : pathDict (colonRows lvOut) = .ok lvs) (hmem : (lv, volumeGroup) ∈ lvs)
    (hsize : ∀ log d, ∃ s, env.sizeBlockdevice log d = .ok s) :
    2 ≤ ((worldOf (mountFilesystemsFrom env (withDefaultPlugins env []) fuel idx w)).disk.volumes.map
      (·.flatMount)).count (some lv) := by
  obtain ⟨fuel, rfl⟩ := Nat.exists_eq_add_of_le' hfuel
  obtain ⟨w₁, vs₁, h₁, hd₁, hvs₁⟩ := mountVolumeAt_physicalVolume env hrm hpv hpvs hne hact hlv hlvs hsize
    hp hpf (fun log t => (hfail log _ t).1) hgp hmem
  have hq₁ : w₁.disk.volumes[idx + 1]? = some q := by
    rw [hd₁, List.getElem?_append_left (List.getElem?_eq_some_iff.mp hq).1]
    exact hq
  obtain ⟨w₂, vs₂, h₂, hd₂, hvs₂⟩ := mountVolumeAt_physicalVolume env hrm hpv hpvs hne hact hlv hlvs hsize
    hq₁ hqf (fun log t => (hfail log _ t).2) hgq hmem
  have hrun : mountFilesystemsFrom env (withDefaultPlugins env []) (fuel + 2) idx w =
      mountFilesystemsFrom env (withDefaultPlugins env []) fuel (idx + 2) w₂ := by
    rw [mountFilesystemsFrom_succ env hp, bind_apply, h₁]
    dsimp only
    rw [mountFilesystemsFrom_succ env hq₁, bind_apply, h₂]
  have hrest := mountFilesystemsFrom_within env (walkWithin_keepsFlatMounts env) fuel (idx + 2) w₂
  rw [hrun]
  refine le_trans ?_ (hrest.sublist.count_le _)
  rw [hd₂, hd₁]
  simp only [List.map_append, List.count_append, hvs₁, hvs₂]
  have := count_logicalVolumesOf (i := idx) hmem
  have := count_logicalVolumesOf (i := idx + 1) hmem
  omega

/-- A host on which `mount` finds no filesystem, `pvdisplay` lists `/dev/loop0`
and `/dev/loop1` in the volume group `vg0`, and `lvdisplay` lists its one
logical volume `/dev/vg0/root`. -/
def spannedGroupHost : Env :=
  { lvmHost with
    runProcess := fun _ args => match args with
      | "mount" :: _ => .error (.subprocessFailed args "wrong fs type")
      | ["pvdisplay", "--colon"] =>
        .ok "  /dev/loop0:vg0:2097152:-1:8:8:-1:4096:255:0:255:uuid0\n  /dev/loop1:vg0:2097152:-1:8:8:-1:4096:255:0:255:uuid1\n"
      | ["lvdisplay", "--colon"] => .ok "  /dev/vg0/root:vg0:3:1:-1:1:4194304:512:-1:0:-1:253:0\n"
      | _ => .ok ""
    sizeBlockdevice := fun _ _ => .ok 2097152 }

theorem physicalVolumeImage_root_listed_twice :
    2 ≤ ((worldOf (mountFilesystemsFrom spannedGroupHost (withDefaultPlugins spannedGroupHost []) 2 0
      physicalVolumeImage)).disk.volumes.map (·.flatMount)).count (some ⟨true, ["dev", "vg0", "root"]⟩) :=
  walk_lists_logical_volume_twice spannedGroupHost 2 0 (by decide) physicalVolumeImage
    { flatMount := some ⟨true, ["dev", "loop0"]⟩, size := 1048576 }
    { flatMount := some ⟨true, ["dev", "loop1"]⟩, size := 1048576 } ⟨true, ["dev", "vg0", "root"]⟩
    "  /dev/loop0:vg0:2097152:-1:8:8:-1:4096:255:0:255:uuid0\n  /dev/loop1:vg0:2097152:-1:8:8:-1:4096:255:0:255:uuid1\n"
    "  /dev/vg0/root:vg0:3:1:-1:1:4194304:512:-1:0:-1:253:0\n" "vg0"
    [(⟨true, ["dev", "loop0"]⟩, "vg0"), (⟨true, ["dev", "loop1"]⟩, "vg0")] [(⟨true, ["dev", "vg0", "root"]⟩, "vg0")]
    rfl rfl rfl rfl (fun _ _ _ => ⟨⟨_, rfl⟩, ⟨_, rfl⟩⟩) (fun _ _ => rfl) (fun _ => rfl) rfl rfl rfl
    (by decide) (fun _ => ⟨_, rfl⟩) (fun _ => rfl) rfl (by simp) (fun _ _ => ⟨_, rfl⟩)

end Fallback

end DiskVm
