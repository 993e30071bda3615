import DiskVm.Plugins.Base
import Mathlib.Data.List.Infix

/-! The fallback plugins (`plugins/generic.py`), installed behind the user's
plugins by `DiskVmCreator._init_default_plugins`.

`GenericMountPlugin` mounts a volume's flat mount on a fresh temporary
directory, read-only on a read-only disk, and detaches loop devices.
`LvmMountPlugin` looks the flat mount up among the physical volumes
`pvdisplay --colon` lists, activates the volume group and returns its logical
volumes; it deactivates the group when such a volume is unmounted.
`pathDict_lastValue`: the dict it reads from `--colon` output raises
`IndexError` exactly on a row of one field, and maps a path to the group of the
last row naming it.

Two things are as the code has them and not as its callers expect:
`activate_volume_group` ignores its `readonly` argument, and nothing in
`LvmMountPlugin.mount` catches a failing `pvdisplay`, `vgchange` or
`lvdisplay`. -/
namespace DiskVm

/-! ### Reading `--colon` output -/

/-- The rows of `_run_colon_output`: the decoded output cut with
`str.splitlines()`, each line stripped of Python's whitespace and split at
colons. -/
def colonRows (out : String) : List (List String) :=
  (splitlines out.toList).map fun l => (splitOnChar ':' (stripEnds isPySpace l)).map String.mk

/-- `d[k] = v` on a dict kept as its items in insertion order. -/
def dictInsert (d : List (Path × String)) (k : Path) (v : String) : List (Path × String) :=
  if d.any (·.1 == k) then d.map fun kv => if kv.1 = k then (k, v) else kv else d ++ [(k, v)]

/-- `{Path(r[0]): r[1] for r in rows}`; `r[1]` raises `IndexError` on a row of a
single field. -/
def pathDict (rows : List (List String)) : Except Exception (List (Path × String)) :=
  rows.foldlM (fun d r => match r with
    | k :: v :: _ => pure (dictInsert d (Path.ofString k) v)
    | _ => throw .indexError) []

/-- `d.get(k)`; no path is the key `None`. -/
def dictGet (d : List (Path × String)) : Option Path → Option String
  | some k => (d.find? (·.1 = k)).map (·.2)
  | none => none

/-- What `{Path(r[0]): r[1] for r in rows}` maps `k` to: the second field of
the last row that names `k`. -/
def lastValue (rows : List (List String)) (k : Path) : Option String :=
  rows.reverse.findSome? fun
    | a :: b :: _ => if Path.ofString a = k then some b else none
    | _ => none

/-- Looking a key up after `d[k] = v`. -/
theorem dictGet_dictInsert (d : List (Path × String)) (k k' : Path) (v : String) :
    dictGet (dictInsert d k v) (some k') = if k' = k then some v else dictGet d (some k') := by
  have hkey : ∀ {e : Path × String}, d.find? (·.1 = k') = some e → e.1 = k' := fun he => by
    simpa using List.find?_some he
  have hmem : ∀ e ∈ d, e.1 = k → d.find? (·.1 = k) ≠ none := fun e he hek hnone =>
    absurd hek (by simpa using List.find?_eq_none.mp hnone e he)
  simp only [dictInsert, dictGet]
  split
  · obtain ⟨e₀, he₀, hek₀⟩ := List.any_eq_true.mp ‹_›
    have hcomp : ((fun kv : Path × String => decide (kv.1 = k')) ∘ fun kv => if kv.1 = k then (k, v) else kv) =
        fun kv => decide (kv.1 = k') := by
      funext kv
      by_cases h : kv.1 = k <;> simp [h]
    rw [List.find?_map, hcomp, Option.map_map]
    cases hf : d.find? (·.1 = k') with
    | none =>
      split
      · subst k'
        exact absurd hf (hmem e₀ he₀ (by simpa using hek₀))
      · rfl
    | some e =>
      simp only [Option.map_some', Function.comp, hkey hf]
      split <;> rfl
  · rw [List.find?_append]
    cases hf : d.find? (·.1 = k') with
    | none => by_cases h : k' = k <;> simp [h, Eq.comm]
    | some e =>
      have hne : k' ≠ k := fun h => ‹¬_› (List.any_eq_true.mpr ⟨e, List.mem_of_find?_eq_some hf, by
        simp [hkey hf, h]⟩)
      simp [hne]

theorem pathDict_append_singleton (rows : List (List String)) (r : List String) :
    pathDict (rows ++ [r]) = (pathDict rows).bind fun d => match r with
      | k :: v :: _ => .ok (dictInsert d (Path.ofString k) v)
      | _ => .error .indexError := by
  simp only [pathDict, List.foldlM_append, List.foldlM_cons, List.foldlM_nil, bind_pure]
  rfl

/-- `{Path(r[0]): r[1] for r in rows}` raises `IndexError` exactly when a row has
fewer than two fields, and otherwise maps every path to the second field of the
last row that names it. -/
theorem pathDict_lastValue (rows : List (List String)) :
    match pathDict rows with
    | .ok d => (∀ r ∈ rows, 2 ≤ r.length) ∧ ∀ k, dictGet d (some k) = lastValue rows k
    | .error e => e = .indexError ∧ ∃ r ∈ rows, r.length < 2 := by
  induction rows using List.reverseRecOn with
  | nil => exact ⟨fun _ h => (nomatch h), fun _ => rfl⟩
  | append_singleton rows r ih =>
    rw [pathDict_append_singleton]
    cases hp : pathDict rows with
    | error e =>
      rw [hp] at ih
      obtain ⟨rfl, r', hr', hlen⟩ := ih
      exact ⟨rfl, r', List.mem_append_left _ hr', hlen⟩
    | ok d =>
      rw [hp] at ih
      obtain ⟨hlong, hget⟩ := ih
      match r with
      | [] => exact ⟨rfl, [], by simp, by simp⟩
      | [a] => exact ⟨rfl, [a], by simp, by simp⟩
      | a :: b :: rest =>
        refine ⟨fun r hr => ?_, fun k => ?_⟩
        · rcases List.mem_append.mp hr with hr | hr
          · exact hlong r hr
          · simp only [List.mem_singleton] at hr
            simp [hr]
        · rw [dictGet_dictInsert, hget]
          by_cases h : k = Path.ofString a
          · subst h
            simp [lastValue]
          · simp [lastValue, h, Ne.symm h]

/-- `str(p)` of an optional path. -/
def pathStr : Option Path → String
  | some p => p.toString
  | none => "None"

/-- `GenericMountPlugin.run_mount` without options. -/
def runMountArgs (v : VolumeInfo) (readonly : Bool) (fsMount : Path) : List String :=
  ["mount", "--source", pathStr v.flatMount, "--target", fsMount.toString, "--types", "auto"] ++
    (if readonly then ["--read-only"] else [])

/-- A logical volume `LvmMountPlugin.mount` returns for the volume at `i`. -/
def lvmVolume (i : Nat) (lv : Path) (volumeGroup : String) : VolumeInfo :=
  { flatMount := some lv, parent := some i,
    additionalInfo := { lvm := some { active := true, volumeGroup := volumeGroup } } }

/-- The logical volumes `LvmMountPlugin.mount` answers for the volume at `i`: those
`lvdisplay` lists in the group, in its order. -/
def logicalVolumesOf (i : Nat) (lvs : List (Path × String)) (volumeGroup : String) : List VolumeInfo :=
  (lvs.filter (·.2 = volumeGroup)).map fun lv => lvmVolume i lv.1 volumeGroup

section Plugins
variable (env : Env)

/-- `_run_colon_output(args)` read into a dict by the first two fields. -/
def colonDict (args : List String) : M (List (Path × String)) := do
  let out ← runProcess env args
  match pathDict (colonRows out) with
  | .ok d => pure d
  | .error e => throw e

/-! ### `GenericMountPlugin` -/

/-- `GenericMountPlugin.mount`: a failed `mount` removes the directory and
answers `None`. -/
def genericMount (i : Nat) : M (Option MountResult) := do
  let v ← volumeAt i
  let readonly := (← get).disk.readonly
  let fsMount ← mkdtemp env
  tryCatch (do
      discard <| runProcess env (runMountArgs v readonly fsMount)
      pure (some (.path fsMount)))
    fun e => if e.isDiskVmError then do
        rmdir env fsMount
        pure none
      else throw e

/-- `GenericMountPlugin.unmount_volume`: a loop device is detached. -/
def genericUnmountVolume (i : Nat) : M Bool := do
  match (← volumeAt i).flatMount with
  | none => throw .attributeError
  | some p =>
    if "loop".toList <:+: p.name.toList then
      tryCatch (do
          discard <| runProcess env ["losetup", "--detach", p.toString]
          pure true)
        fun e => if e.isDiskVmError then pure false else throw e
    else pure false

/-- `GenericMountPlugin.unmount_filesystem`: a mount point is unmounted with one
`umount`, and its directory removed; a failing `umount` is logged and answered
`False`, with no second attempt. -/
def genericUnmountFilesystem (i : Nat) : M Bool := do
  match (← volumeAt i).filesystemMount with
  | none => throw .attributeError
  | some m =>
    if !env.isMount (← get).log m then return false
    tryCatch (do
        discard <| runProcess env ["umount", m.toString]
        if env.isDir (← get).log m then rmdir env m
        pure true)
      fun e => if e.isDiskVmError then pure false else throw e

def genericMountPlugin : Plugin where
  mount := genericMount env
  unmountFilesystem := genericUnmountFilesystem env
  unmountVolume := genericUnmountVolume env

/-! ### `LvmMountPlugin` -/

/-- `LvmMountPlugin.activate_volume_group(volume_group, readonly)`. -/
def activateVolumeGroup (volumeGroup : String) (_readonly : Bool) : M Unit :=
  discard <| runProcess env ["vgchange", "--activate", "y", "--yes", volumeGroup]

/-- `LvmMountPlugin.deactivate_volume_group`. -/
def deactivateVolumeGroup (volumeGroup : String) : M Unit :=
  discard <| runProcess env ["vgchange", "--activate", "n", volumeGroup]

/-- `LvmMountPlugin.mount`: an empty group name is falsy. -/
def lvmMount (i : Nat) : M (Option MountResult) := do
  let v ← volumeAt i
  let pvs ← colonDict env ["pvdisplay", "--colon"]
  match dictGet pvs v.flatMount with
  | some volumeGroup =>
    if volumeGroup = "" then pure none
    else do
      activateVolumeGroup env volumeGroup (← get).disk.readonly
      let lvs ← colonDict env ["lvdisplay", "--colon"]
      pure (some (.volumes ((lvs.filter (·.2 = volumeGroup)).map fun lv => lvmVolume i lv.1 volumeGroup)))
  | none => pure none

/-- `LvmMountPlugin.unmount_volume`. -/
def lvmUnmountVolume (i : Nat) : M Bool := do
  match (← volumeAt i).additionalInfo.lvm with
  | some l =>
    if l.active && l.volumeGroup != "" then do
      deactivateVolumeGroup env l.volumeGroup
      pure true
    else pure false
  | none => pure false

def lvmMountPlugin : Plugin where
  mount := lvmMount env
  unmountVolume := lvmUnmountVolume env

/-- `DiskVmCreator._init_default_plugins`, with the user's plugins in front. -/
def withDefaultPlugins (plugins : List Plugin) : PluginManager :=
  { plugins := plugins, fallbackPlugins := [genericMountPlugin env, lvmMountPlugin env] }

/-! ### What the mount hooks do -/

theorem colonDict_apply {args : List String} {w : World} {out : String} {d : List (Path × String)}
    (hout : env.runProcess w.log args = .ok out) (hd : pathDict (colonRows out) = .ok d) :
    colonDict env args w = .ok d {w with log := w.log ++ [.spawn args]} := by
  simp [colonDict, bind_apply, runProcess, hout, hd]

theorem colonDict_appends (args : List String) : Appends (colonDict env args) :=
  Appends.bind (Appends.runProcess env args) fun _ => by
    split
    exacts [Appends.pure _, Appends.throw _]

theorem genericMount_appends (i : Nat) : Appends (genericMount env i) := by
  refine Appends.bind (volumeAt_appends i) fun v => Appends.bind Appends.get fun _ =>
    Appends.bind (Appends.makeTemp env _) fun t => Appends.tryCatch
      (Appends.map _ (Appends.discard (Appends.runProcess env _))) fun e => ?_
  split
  · exact Appends.map _ (Appends.removePath env _ _)
  · exact Appends.throw _

theorem lvmMount_appends (i : Nat) : Appends (lvmMount env i) := by
  refine Appends.bind (volumeAt_appends i) fun v => Appends.bind (colonDict_appends env _) fun pvs => ?_
  split
  · split
    · exact Appends.pure _
    · exact Appends.bind Appends.get fun _ =>
        Appends.bind (Appends.discard (Appends.runProcess env _)) fun _ =>
          Appends.bind (colonDict_appends env _) fun _ => Appends.pure _
  · exact Appends.pure _

/-! ### No temporary file is left behind -/

theorem colonDict_tidy (args : List String) : Tidy (colonDict env args) :=
  Tidy.bind (Tidy.runProcess env args) fun _ => by
    split
    exacts [Tidy.pure _, Tidy.throw _]

theorem genericMountPlugin_tidyHooks : TidyHooks (genericMountPlugin env) where
  mount i := by
    refine Tidy.bind (volumeAt_tidy i) fun v => Tidy.bind Tidy.get fun _ =>
      Tidy.bind (Tidy.mkdtemp env) fun t => Tidy.tryCatch
        (Tidy.map _ (Tidy.discard (Tidy.runProcess env _))) fun e => ?_
    split
    · exact Tidy.map _ (Tidy.rmdir env _)
    · exact Tidy.throw _
  mountedDisk := Tidy.pure _
  modifyDisk := Tidy.pure _
  mountedVolume _ := Tidy.pure _
  modifyVolume _ := Tidy.pure _
  mountedFilesystem _ := Tidy.pure _
  modifyFilesystem _ := Tidy.pure _
  unmountFilesystem i := by
    refine Tidy.bind (volumeAt_tidy i) fun v => ?_
    split
    · exact Tidy.throw _
    · refine Tidy.bind Tidy.get fun _ => ?_
      split
      · exact Tidy.pure _
      · refine Tidy.bind (Tidy.pure _) fun _ => Tidy.tryCatch ?_ fun e => ?_
        · refine Tidy.bind (Tidy.discard (Tidy.runProcess env _)) fun _ => Tidy.bind Tidy.get fun _ => ?_
          split
          · exact Tidy.bind (Tidy.rmdir env _) fun _ => Tidy.pure _
          · exact Tidy.bind (Tidy.pure _) fun _ => Tidy.pure _
        · split
          exacts [Tidy.pure _, Tidy.throw _]
  unmountVolume i := by
    refine Tidy.bind (volumeAt_tidy i) fun v => ?_
    split
    · exact Tidy.throw _
    · split
      · exact Tidy.tryCatch (Tidy.bind (Tidy.discard (Tidy.runProcess env _)) fun _ => Tidy.pure _) fun e => by
          split
          exacts [Tidy.pure _, Tidy.throw _]
      · exact Tidy.pure _

theorem lvmMountPlugin_tidyHooks : TidyHooks (lvmMountPlugin env) where
  mount i := by
    refine Tidy.bind (volumeAt_tidy i) fun v => Tidy.bind (colonDict_tidy env _) fun pvs => ?_
    split
    · split
      · exact Tidy.pure _
      · exact Tidy.bind Tidy.get fun _ =>
          Tidy.bind (Tidy.discard (Tidy.runProcess env _)) fun _ =>
            Tidy.bind (colonDict_tidy env _) fun _ => Tidy.pure _
    · exact Tidy.pure _
  mountedDisk := Tidy.pure _
  modifyDisk := Tidy.pure _
  mountedVolume _ := Tidy.pure _
  modifyVolume _ := Tidy.pure _
  mountedFilesystem _ := Tidy.pure _
  modifyFilesystem _ := Tidy.pure _
  unmountFilesystem _ := Tidy.pure _
  unmountVolume i := by
    refine Tidy.bind (volumeAt_tidy i) fun v => ?_
    split
    · split
      · exact Tidy.bind (Tidy.discard (Tidy.runProcess env _)) fun _ => Tidy.pure _
      · exact Tidy.pure _
    · exact Tidy.pure _

section Within
variable {R : DiskInfo → DiskInfo → Prop} (hrefl : ∀ d, R d d) (htrans : ∀ a b c, R a b → R b c → R a c)
include hrefl htrans

theorem colonDict_within (args : List String) : Within R (colonDict env args) :=
  Within.bind htrans (Within.runProcess hrefl env args) fun _ => by
    split
    exacts [Within.pure hrefl _, Within.throw hrefl _]

/-- The fallback plugins' `mount` hooks leave the disk as it was. -/
theorem genericMount_within (i : Nat) : Within R (genericMount env i) := by
  refine Within.bind htrans (Within.of_eq hrefl (volumeAt_keepsDisk i)) fun v =>
    Within.bind htrans (Within.get hrefl) fun _ =>
    Within.bind htrans (Within.makeTemp hrefl env _) fun t => Within.tryCatch htrans
      (Within.map _ (Within.discard (Within.runProcess hrefl env _))) fun e => ?_
  split
  · exact Within.map _ (Within.removePath hrefl env _ _)
  · exact Within.throw hrefl _

theorem lvmMount_within (i : Nat) : Within R (lvmMount env i) := by
  refine Within.bind htrans (Within.of_eq hrefl (volumeAt_keepsDisk i)) fun v =>
    Within.bind htrans (colonDict_within env hrefl htrans _) fun pvs => ?_
  split
  · split
    · exact Within.pure hrefl _
    · exact Within.bind htrans (Within.get hrefl) fun _ =>
        Within.bind htrans (Within.discard (Within.runProcess hrefl env _)) fun _ =>
          Within.bind htrans (colonDict_within env hrefl htrans _) fun _ => Within.pure hrefl _
  · exact Within.pure hrefl _

end Within

/-- A failed `mount` leaves the temporary directory removed and answers `None`. -/
theorem genericMount_of_mount_fails {i : Nat} {v : VolumeInfo} {w : World}
    (hv : w.disk.volumes[i]? = some v)
    (hfail : ∀ log t, ∃ err, env.runProcess log (runMountArgs v w.disk.readonly t) = .error err)
    (hrm : ∀ log p, env.remove log p = .ok ()) :
    genericMount env i w = .ok none {w with log := w.log ++ [.mkdtemp (env.tempPath w.log),
      .spawn (runMountArgs v w.disk.readonly (env.tempPath w.log)), .rmdir (env.tempPath w.log)]} := by
  obtain ⟨err, herr⟩ := hfail (w.log ++ [.mkdtemp (env.tempPath w.log)]) (env.tempPath w.log)
  simp [genericMount, bind_apply, volumeAt_apply hv, mkdtemp, makeTemp, tryCatch_apply, map_apply,
    discard_apply, runProcess, herr, Exception.isDiskVmError, rmdir, removePath, hrm]

/-- A `mount` that succeeds answers the fresh temporary directory it mounted on. -/
theorem genericMount_of_mount_ok {i : Nat} {v : VolumeInfo} {w : World}
    (hv : w.disk.volumes[i]? = some v)
    (hmount : ∀ log t, ∃ out, env.runProcess log (runMountArgs v w.disk.readonly t) = .ok out) :
    genericMount env i w = .ok (some (.path (env.tempPath w.log))) {w with log := w.log ++
      [.mkdtemp (env.tempPath w.log), .spawn (runMountArgs v w.disk.readonly (env.tempPath w.log))]} := by
  obtain ⟨out, hout⟩ := hmount (w.log ++ [.mkdtemp (env.tempPath w.log)]) (env.tempPath w.log)
  simp [genericMount, bind_apply, volumeAt_apply hv, mkdtemp, makeTemp, tryCatch_apply, map_apply,
    discard_apply, runProcess, hout]

/-- A busy mount point (a failing `umount`) is left mounted: one `umount`, no
retry, and the answer `False`, whatever a later `umount` would do. -/
theorem genericUnmountFilesystem_of_busy {i : Nat} {v : VolumeInfo} {m : Path} {w : World}
    {err : DiskVmError} (hv : w.disk.volumes[i]? = some v) (hm : v.filesystemMount = some m)
    (hmount : env.isMount w.log m) (hbusy : env.runProcess w.log ["umount", m.toString] = .error err) :
    genericUnmountFilesystem env i w = .ok false {w with log := w.log ++ [.spawn ["umount", m.toString]]} := by
  simp [genericUnmountFilesystem, bind_apply, volumeAt_apply hv, hm, hmount, tryCatch_apply, discard_apply,
    runProcess, hbusy, Exception.isDiskVmError]

/-- The group of a volume `pvdisplay` lists is activated by
`vgchange --activate y`, the disk's `readonly` flag unread. -/
theorem lvmMount_activates {i : Nat} {v : VolumeInfo} {w : World} {out volumeGroup : String}
    {pvs : List (Path × String)} (hv : w.disk.volumes[i]? = some v)
    (hpv : env.runProcess w.log ["pvdisplay", "--colon"] = .ok out)
    (hdict : pathDict (colonRows out) = .ok pvs) (hvg : dictGet pvs v.flatMount = some volumeGroup)
    (hne : volumeGroup ≠ "") :
    .spawn ["vgchange", "--activate", "y", "--yes", volumeGroup] ∈ (worldOf (lvmMount env i w)).log := by
  have hrest : ∀ _ : Unit, Appends (do
      let lvs ← colonDict env ["lvdisplay", "--colon"]
      pure (some (MountResult.volumes
        ((lvs.filter (·.2 = volumeGroup)).map fun lv => lvmVolume i lv.1 volumeGroup))) : M _) :=
    fun _ => Appends.bind (colonDict_appends env _) fun _ => Appends.pure _
  unfold lvmMount
  rw [bind_apply, volumeAt_apply hv]
  dsimp only
  rw [bind_apply, colonDict_apply env hpv hdict]
  dsimp only
  rw [hvg]
  dsimp only
  rw [if_neg hne, bind_apply, get_apply]
  refine Appends.mem_bind hrest ?_
  simp [activateVolumeGroup]

/-- Nothing in `LvmMountPlugin.mount` catches a failing `pvdisplay`. -/
theorem lvmMount_of_pvdisplay_fails {i : Nat} {w : World} {err : DiskVmError}
    (hpv : env.runProcess w.log ["pvdisplay", "--colon"] = .error err) :
    lvmMount env i w = .error (.diskVm err) {w with log := w.log ++ [.spawn ["pvdisplay", "--colon"]]} := by
  simp [lvmMount, bind_apply, volumeAt, map_apply, colonDict, runProcess, hpv]

/-- On a volume `pvdisplay` lists in a group, `mount` answers every logical volume
`lvdisplay` lists in that group, each as a child of the volume, and leaves the
disk as it was. -/
theorem lvmMount_of_group {i : Nat} {v : VolumeInfo} {w : World} {pvOut lvOut volumeGroup : String}
    {pvs lvs : List (Path × String)} (hv : w.disk.volumes[i]? = some v)
    (hpv : ∀ log, env.runProcess log ["pvdisplay", "--colon"] = .ok pvOut)
    (hpvs : pathDict (colonRows pvOut) = .ok pvs) (hvg : dictGet pvs v.flatMount = some volumeGroup)
    (hne : volumeGroup ≠ "")
    (hact : ∀ log, ∃ out, env.runProcess log ["vgchange", "--activate", "y", "--yes", volumeGroup] = .ok out)
    (hlv : ∀ log, env.runProcess log ["lvdisplay", "--colon"] = .ok lvOut)
    (hlvs : pathDict (colonRows lvOut) = .ok lvs) :
    ∃ w', lvmMount env i w = .ok (some (.volumes (logicalVolumesOf i lvs volumeGroup))) w' ∧
      w'.disk = w.disk := by
  obtain ⟨out, hout⟩ := hact (w.log ++ [.spawn ["pvdisplay", "--colon"]])
  refine ⟨{w with log := w.log ++ [.spawn ["pvdisplay", "--colon"],
    .spawn ["vgchange", "--activate", "y", "--yes", volumeGroup], .spawn ["lvdisplay", "--colon"]]}, ?_, rfl⟩
  simp [lvmMount, bind_apply, volumeAt_apply hv, colonDict_apply env (hpv _) hpvs, hvg, hne, get_apply,
    activateVolumeGroup, discard_apply, runProcess, hout, map_apply, colonDict_apply env (hlv _) hlvs,
    logicalVolumesOf]

end Plugins

end DiskVm
