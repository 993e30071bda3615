import DiskVm.Plugins.Base

/-! The discovery walk (`runner.py`, `_add_partition_info`, `_mount_partitions`,
`_mount_filesystems`).

Every partition becomes a loop device and a volume without a parent. Then the
walk goes through `disk_info.volumes` by index while the list grows: a volume
with a flat mount is offered to `mount`; a path is recorded as its filesystem,
new volumes are appended behind the end of the list, so the walk reaches them
later. The `while` loop is `mountFilesystemsFrom` with fuel: it answers `true`
when it ran off the end of the list within the fuel, `false` when the fuel ran
out first. -/
namespace DiskVm

/-- `if not new_p.parent: new_p.parent = p`, for `p` at `idx`. -/
def adopt (idx : Nat) (newP : VolumeInfo) : VolumeInfo :=
  if newP.parent.isNone then {newP with parent := some idx} else newP

theorem adopt_flatMount (i : Nat) (c : VolumeInfo) : (adopt i c).flatMount = c.flatMount := by
  unfold adopt; split <;> rfl

theorem adopt_size (i : Nat) (c : VolumeInfo) : (adopt i c).size = c.size := by
  unfold adopt; split <;> rfl

section Walk
variable (env : Env) (pm : PluginManager)

/-- `if not disk_info.readonly: dispatch_all(name, ...)`: the `modify_*` hooks run
only on a writable disk. -/
def dispatchUnlessReadonly (name : HookName) (volume : Option Nat) (hook : Plugin → M Unit) :
    M Unit := do
  if !(← get).disk.readonly then pm.dispatchAll name volume hook

/-- `disk_info.volumes.append(v)`, then `mounted_volume` and, on a writable disk,
`modify_volume` for it. -/
def registerVolume (v : VolumeInfo) : M Unit := do
  let i ← appendVolume v
  pm.dispatchAll .mountedVolume (some i) (·.mountedVolume i)
  dispatchUnlessReadonly pm .modifyVolume (some i) (·.modifyVolume i)

/-- The `losetup` command line of `_add_partition_info`. -/
def losetupArgs (d : DiskInfo) (offset size : Int) : List String :=
  ["losetup", "--find", "--show"] ++ (if d.readonly then ["--read-only"] else []) ++
    ["--offset", toString offset, "--sizelimit", toString size, d.flatMountedDisk.toString]

/-- `_add_partition_info`. -/
def addPartitionInfo (offset size : Int) (volumeType : VolumeType) : M Unit := do
  let loopDev ← runProcess env (losetupArgs (← get).disk offset size)
  registerVolume pm
    { flatMount := some (Path.ofString (stripNewlines loopDev)), parent := none,
      offset := offset, size := size, volumeType := some volumeType }

/-- `_mount_partitions`: GPT entries by first and last LBA, MBR entries by start
and count; the scheme is GPT when a GPT header was parsed, else MBR when an MBR
was. -/
def mountPartitions : M Unit := do
  let d := (← get).disk
  match d.diskInfo.gpt, d.diskInfo.mbr with
  | some g, _ => g.partitions.forM fun p => do
      let ss := (← get).disk.sectorSize
      addPartitionInfo env pm (p.firstLba * ss) ((p.lastLba - p.firstLba + 1) * ss) (.guid p.guid)
  | none, some m => m.partitions.forM fun p => do
      let ss := (← get).disk.sectorSize
      addPartitionInfo env pm (p.lba * ss) (p.sectors * ss) (.mbrType p.type)
  | none, none => pure ()

/-- `if not new_p.size: new_p.size = size_blockdevice(new_p.flat_mount)`. -/
def measureVolume (newP : VolumeInfo) : M VolumeInfo :=
  if newP.size = 0 then do
    let s ← sizeBlockdevice env newP.flatMount
    pure {newP with size := s}
  else pure newP

/-- The inner loop over the volumes `mount` returned for the volume at `idx`. -/
def addChildren (idx : Nat) (children : List VolumeInfo) : M Unit :=
  children.forM fun newP => do
    let newP ← measureVolume env (adopt idx newP)
    registerVolume pm newP

/-- The body of the `while` loop for the volume `p` at `idx`. -/
def mountVolumeAt (idx : Nat) (p : VolumeInfo) : M Unit :=
  if p.flatMount.isSome then do
    let res ← pm.dispatchUntilResult .mount (some idx) (·.mount idx) mountTruthy none
    match res with
    | some (.volume v) => addChildren env pm idx [v]
    | some (.path m) => do
      updateVolume idx fun v => {v with filesystemMount := some m}
      pm.dispatchAll .mountedFilesystem (some idx) (·.mountedFilesystem idx)
      dispatchUnlessReadonly pm .modifyFilesystem (some idx) (·.modifyFilesystem idx)
    | some (.volumes vs) => addChildren env pm idx vs
    | none => pure ()
  else pure ()

/-- `while idx < len(disk_info.volumes)`, for at most `fuel` iterations. -/
def mountFilesystemsFrom : Nat → Nat → M Bool
  | 0, _ => pure false
  | fuel + 1, idx => do
    match (← get).disk.volumes[idx]? with
    | none => pure true
    | some p => do
      mountVolumeAt env pm idx p
      mountFilesystemsFrom fuel (idx + 1)

/-- `_mount_filesystems`. -/
def mountFilesystems (fuel : Nat) : M Bool := mountFilesystemsFrom env pm fuel 0

end Walk

/-! ### The walk only appends to the log -/

/-- The hooks the walk calls only append to the log. -/
structure HooksAppend (pm : PluginManager) : Prop where
  mount : ∀ p ∈ pm.allPlugins, ∀ i, Appends (p.mount i)
  mountedVolume : ∀ p ∈ pm.allPlugins, ∀ i, Appends (p.mountedVolume i)
  modifyVolume : ∀ p ∈ pm.allPlugins, ∀ i, Appends (p.modifyVolume i)
  mountedFilesystem : ∀ p ∈ pm.allPlugins, ∀ i, Appends (p.mountedFilesystem i)
  modifyFilesystem : ∀ p ∈ pm.allPlugins, ∀ i, Appends (p.modifyFilesystem i)

section Appends
variable (env : Env) {pm : PluginManager}

theorem dispatchUnlessReadonly_appends (name : HookName) (volume : Option Nat)
    {hook : Plugin → M Unit} (h : ∀ p ∈ pm.allPlugins, Appends (hook p)) :
    Appends (dispatchUnlessReadonly pm name volume hook) :=
  Appends.bind Appends.get fun _ => by
    split
    · exact pm.dispatchAll_appends name volume h
    · exact Appends.pure _

/-- One turn of the `while` loop, on the volume at `idx`. -/
theorem mountFilesystemsFrom_succ {fuel idx : Nat} {w : World} {p : VolumeInfo}
    (hp : w.disk.volumes[idx]? = some p) :
    mountFilesystemsFrom env pm (fuel + 1) idx w =
      (mountVolumeAt env pm idx p >>= fun _ => mountFilesystemsFrom env pm fuel (idx + 1)) w := by
  simp only [mountFilesystemsFrom, bind_apply, get_apply, hp]

variable (hpm : HooksAppend pm)
include hpm

theorem registerVolume_appends (v : VolumeInfo) : Appends (registerVolume pm v) :=
  Appends.bind (Appends.appendVolume v) fun i =>
    Appends.bind (pm.dispatchAll_appends _ _ fun p hp => hpm.mountedVolume p hp i) fun _ =>
      dispatchUnlessReadonly_appends _ _ fun p hp => hpm.modifyVolume p hp i

theorem addChildren_appends (idx : Nat) (children : List VolumeInfo) :
    Appends (addChildren env pm idx children) := by
  refine Appends.forM fun newP _ => Appends.bind ?_ fun v => registerVolume_appends hpm v
  unfold measureVolume
  split
  · exact Appends.bind (Appends.sizeBlockdevice env _) fun _ => Appends.pure _
  · exact Appends.pure _

/-- A volume with a flat mount is offered to `mount`, and what is done with the
answer only appends to the log. -/
theorem mountVolumeAt_of_flatMount (idx : Nat) {p : VolumeInfo} (hf : p.flatMount.isSome) :
    ∃ k : Option MountResult → M Unit, (∀ res, Appends (k res)) ∧
      mountVolumeAt env pm idx p = pm.dispatchUntilResult .mount (some idx) (·.mount idx) mountTruthy none >>= k := by
  refine ⟨_, fun res => ?_, if_pos hf⟩
  rcases res with _ | (m | v | vs)
  · exact Appends.pure _
  · exact Appends.bind (Appends.updateVolume _ _) fun _ =>
      Appends.bind (pm.dispatchAll_appends _ _ fun q hq => hpm.mountedFilesystem q hq idx) fun _ =>
        dispatchUnlessReadonly_appends _ _ fun q hq => hpm.modifyFilesystem q hq idx
  · exact addChildren_appends env hpm idx [v]
  · exact addChildren_appends env hpm idx vs

theorem mountVolumeAt_appends (idx : Nat) (p : VolumeInfo) : Appends (mountVolumeAt env pm idx p) := by
  by_cases hf : p.flatMount.isSome
  · obtain ⟨k, hk, heq⟩ := mountVolumeAt_of_flatMount env hpm idx hf
    exact heq ▸ Appends.bind (pm.dispatchUntilResult_appends _ _ _ _ fun q hq => hpm.mount q hq idx) hk
  · simpa [mountVolumeAt, hf] using Appends.pure ()

theorem mountFilesystemsFrom_appends (fuel idx : Nat) :
    Appends (mountFilesystemsFrom env pm fuel idx) := by
  induction fuel generalizing idx with
  | zero => exact Appends.pure _
  | succ fuel ih =>
    refine Appends.bind Appends.get fun w => ?_
    split
    · exact Appends.pure _
    · exact Appends.bind (mountVolumeAt_appends env hpm idx _) fun _ => ih (idx + 1)

end Appends

/-! ### The walk removes its temporary files -/

section Tidy
variable (env : Env) {pm : PluginManager}

theorem dispatchUnlessReadonly_tidy (name : HookName) (volume : Option Nat) {hook : Plugin → M Unit}
    (h : ∀ p ∈ pm.allPlugins, Tidy (hook p)) : Tidy (dispatchUnlessReadonly pm name volume hook) :=
  Tidy.bind Tidy.get fun _ => by
    split
    · exact pm.dispatchAll_tidy name volume h
    · exact Tidy.pure _

variable (hpm : ∀ p ∈ pm.allPlugins, TidyHooks p)
include hpm

theorem registerVolume_tidy (v : VolumeInfo) : Tidy (registerVolume pm v) :=
  Tidy.bind (Tidy.appendVolume v) fun i =>
    Tidy.bind (pm.dispatchAll_tidy _ _ fun p hp => (hpm p hp).mountedVolume i) fun _ =>
      dispatchUnlessReadonly_tidy _ _ fun p hp => (hpm p hp).modifyVolume i

theorem mountPartitions_tidy : Tidy (mountPartitions env pm) := by
  have hadd : ∀ offset size t, Tidy (addPartitionInfo env pm offset size t) := fun _ _ _ =>
    Tidy.bind Tidy.get fun _ => Tidy.bind (Tidy.runProcess env _) fun _ => registerVolume_tidy hpm _
  refine Tidy.bind Tidy.get fun w => ?_
  dsimp only
  split
  · exact Tidy.forM fun _ _ => Tidy.bind Tidy.get fun _ => hadd _ _ _
  · exact Tidy.forM fun _ _ => Tidy.bind Tidy.get fun _ => hadd _ _ _
  · exact Tidy.pure _

theorem addChildren_tidy (idx : Nat) (children : List VolumeInfo) :
    Tidy (addChildren env pm idx children) := by
  refine Tidy.forM fun newP _ => Tidy.bind ?_ fun v => registerVolume_tidy hpm v
  unfold measureVolume
  split
  · exact Tidy.bind (Tidy.sizeBlockdevice env _) fun _ => Tidy.pure _
  · exact Tidy.pure _

theorem mountVolumeAt_tidy (idx : Nat) (p : VolumeInfo) : Tidy (mountVolumeAt env pm idx p) := by
  unfold mountVolumeAt
  split
  · refine Tidy.bind (pm.dispatchUntilResult_tidy _ _ _ _ fun q hq => (hpm q hq).mount idx) fun res => ?_
    rcases res with _ | (m | v | vs)
    · exact Tidy.pure _
    · exact Tidy.bind (Tidy.updateVolume _ _) fun _ =>
        Tidy.bind (pm.dispatchAll_tidy _ _ fun q hq => (hpm q hq).mountedFilesystem idx) fun _ =>
          dispatchUnlessReadonly_tidy _ _ fun q hq => (hpm q hq).modifyFilesystem idx
    · exact addChildren_tidy env hpm idx [v]
    · exact addChildren_tidy env hpm idx vs
  · exact Tidy.pure _

/-- When the hooks of every plugin remove the temporary files they create, so
does the whole walk, however many volumes it adds and whether it returns or
raises. -/
theorem mountFilesystemsFrom_tidy (fuel idx : Nat) : Tidy (mountFilesystemsFrom env pm fuel idx) := by
  induction fuel generalizing idx with
  | zero => exact Tidy.pure _
  | succ fuel ih =>
    refine Tidy.bind Tidy.get fun w => ?_
    split
    · exact Tidy.pure _
    · exact Tidy.bind (mountVolumeAt_tidy env hpm idx _) fun _ => ih (idx + 1)

end Tidy

/-! ### What the walk does to the disk -/

/-- Everything one turn of the walk at `idx` can do to the disk keeps it within
`R`: the hooks it dispatches, recording a filesystem, appending a volume. -/
structure WalkWithin (R : DiskInfo → DiskInfo → Prop) (pm : PluginManager) (idx : Nat) : Prop where
  refl : ∀ d, R d d
  trans : ∀ a b c, R a b → R b c → R a c
  mount : ∀ p ∈ pm.allPlugins, Within R (p.mount idx)
  mountedVolume : ∀ p ∈ pm.allPlugins, ∀ j, Within R (p.mountedVolume j)
  modifyVolume : ∀ p ∈ pm.allPlugins, ∀ j, Within R (p.modifyVolume j)
  mountedFilesystem : ∀ p ∈ pm.allPlugins, Within R (p.mountedFilesystem idx)
  modifyFilesystem : ∀ p ∈ pm.allPlugins, Within R (p.modifyFilesystem idx)
  appendVolume : ∀ v, Within R (appendVolume v)
  recordFilesystem : ∀ m, Within R (updateVolume idx fun v => {v with filesystemMount := some m})

section Within
variable (env : Env) {pm : PluginManager} {R : DiskInfo → DiskInfo → Prop} {idx : Nat}
  (h : WalkWithin R pm idx)
include h

theorem dispatchUnlessReadonly_within (name : HookName) (volume : Option Nat) {hook : Plugin → M Unit}
    (hh : ∀ p ∈ pm.allPlugins, Within R (hook p)) : Within R (dispatchUnlessReadonly pm name volume hook) :=
  Within.bind h.trans (Within.get h.refl) fun _ => by
    split
    · exact pm.dispatchAll_within name volume h.refl h.trans hh
    · exact Within.pure h.refl _

theorem registerVolume_within (v : VolumeInfo) : Within R (registerVolume pm v) :=
  Within.bind h.trans (h.appendVolume v) fun j =>
    Within.bind h.trans (pm.dispatchAll_within _ _ h.refl h.trans fun p hp => h.mountedVolume p hp j)
      fun _ => dispatchUnlessReadonly_within h _ _ fun p hp => h.modifyVolume p hp j

theorem addChildren_within (children : List VolumeInfo) : Within R (addChildren env pm idx children) := by
  refine Within.forM h.refl h.trans fun newP _ => Within.bind h.trans ?_ fun v => registerVolume_within h v
  unfold measureVolume
  split
  · exact Within.bind h.trans (Within.sizeBlockdevice h.refl env _) fun _ => Within.pure h.refl _
  · exact Within.pure h.refl _

/-- One turn of the walk keeps the disk within `R`. -/
theorem mountVolumeAt_within (p : VolumeInfo) : Within R (mountVolumeAt env pm idx p) := by
  unfold mountVolumeAt
  split
  · refine Within.bind h.trans (pm.dispatchUntilResult_within _ _ h.refl h.trans _ _ h.mount) fun res => ?_
    rcases res with _ | (m | v | vs)
    · exact Within.pure h.refl _
    · exact Within.bind h.trans (h.recordFilesystem m) fun _ =>
        Within.bind h.trans (pm.dispatchAll_within _ _ h.refl h.trans h.mountedFilesystem) fun _ =>
          dispatchUnlessReadonly_within h _ _ h.modifyFilesystem
    · exact addChildren_within env h [v]
    · exact addChildren_within env h vs
  · exact Within.pure h.refl _

end Within

/-- A walk whose every turn keeps the disk within `R` keeps it within `R`. -/
theorem mountFilesystemsFrom_within (env : Env) {pm : PluginManager} {R : DiskInfo → DiskInfo → Prop}
    (h : ∀ idx, WalkWithin R pm idx) (fuel idx : Nat) : Within R (mountFilesystemsFrom env pm fuel idx) := by
  have hrefl := (h 0).refl
  have htrans := (h 0).trans
  induction fuel generalizing idx with
  | zero => exact Within.pure hrefl _
  | succ fuel ih =>
    refine Within.bind htrans (Within.get hrefl) fun w => ?_
    split
    · exact Within.pure hrefl _
    · exact Within.bind htrans (mountVolumeAt_within env (h idx) _) fun _ => ih (idx + 1)

/-! ### The volumes a turn appends -/

section Children
variable (env : Env) (pm : PluginManager)

theorem dispatchAll_idle (name : HookName) (volume : Option Nat) {hook : Plugin → M Unit}
    (h : ∀ p ∈ pm.allPlugins, hook p = pure ()) (w : World) :
    pm.dispatchAll name volume hook w = .ok () {w with log := w.log ++ [.dispatch name volume]} := by
  have hforM : ∀ ps : List Plugin, (∀ p ∈ ps, hook p = pure ()) → ps.forM hook = pure () := by
    intro ps hps
    induction ps with
    | nil => rfl
    | cons p ps ih =>
      rw [List.forM_cons', hps p (List.mem_cons_self _ _), ih fun q hq => hps q (List.mem_cons_of_mem _ hq)]
      rfl
  simp [PluginManager.dispatchAll, bind_apply, emit_apply, hforM _ h]

/-- When no plugin does anything on `mounted_volume` and `modify_volume`,
registering a volume only appends it to the disk. -/
theorem registerVolume_of_idle
    (h : ∀ p ∈ pm.allPlugins, ∀ j, p.mountedVolume j = pure () ∧ p.modifyVolume j = pure ())
    (v : VolumeInfo) (w : World) :
    ∃ w', registerVolume pm v w = .ok () w' ∧ w'.disk = {w.disk with volumes := w.disk.volumes ++ [v]} := by
  have hm := dispatchAll_idle pm .mountedVolume (some w.disk.volumes.length)
    fun p hp => (h p hp w.disk.volumes.length).1
  have hv := dispatchAll_idle pm .modifyVolume (some w.disk.volumes.length)
    fun p hp => (h p hp w.disk.volumes.length).2
  refine ⟨{w with
    disk := {w.disk with volumes := w.disk.volumes ++ [v]}
    log := w.log ++ [.dispatch .mountedVolume (some w.disk.volumes.length)] ++
      if w.disk.readonly then [] else [.dispatch .modifyVolume (some w.disk.volumes.length)]}, ?_, rfl⟩
  cases hr : w.disk.readonly <;>
    simp [registerVolume, bind_apply, appendVolume, hm, dispatchUnlessReadonly, get_apply, hr, hv]

/-- Sizing a volume succeeds when every size query does and an unsized volume
has a device to query. -/
theorem measureVolume_of_sizes (hsize : ∀ log d, ∃ s, env.sizeBlockdevice log d = .ok s) (v : VolumeInfo)
    (hv : v.size = 0 → v.flatMount.isSome) (w : World) :
    ∃ s, measureVolume env v w = .ok {v with size := s} w := by
  by_cases hs : v.size = 0
  · obtain ⟨d, hd⟩ := Option.isSome_iff_exists.mp (hv hs)
    obtain ⟨s, hs'⟩ := hsize w.log d
    exact ⟨s, by simp [measureVolume, hs, bind_apply, hd, sizeBlockdevice, hs']⟩
  · exact ⟨v.size, by simp [measureVolume, hs]⟩

/-- When registering a volume only appends it to the disk, the inner loop
appends the volumes `mount` returned, adopted, each with the size it measured. -/
theorem addChildren_of_registerVolume (hsize : ∀ log d, ∃ s, env.sizeBlockdevice log d = .ok s)
    (hreg : ∀ v w, ∃ w', registerVolume pm v w = .ok () w' ∧
      w'.disk = {w.disk with volumes := w.disk.volumes ++ [v]})
    (idx : Nat) (cs : List VolumeInfo) (hcs : ∀ c ∈ cs, c.size = 0 → c.flatMount.isSome) (w : World) :
    ∃ w' vs, addChildren env pm idx cs w = .ok () w' ∧
      w'.disk = {w.disk with volumes := w.disk.volumes ++ vs} ∧
      vs.map (fun v => {v with size := 0}) = (cs.map (adopt idx)).map fun v => {v with size := 0} := by
  induction cs generalizing w with
  | nil => exact ⟨w, [], rfl, by simp, rfl⟩
  | cons c cs ih =>
    obtain ⟨s, hm⟩ := measureVolume_of_sizes env hsize (adopt idx c)
      (by rw [adopt_size, adopt_flatMount]; exact hcs c (List.mem_cons_self _ _)) w
    obtain ⟨w₁, hr, hd₁⟩ := hreg {adopt idx c with size := s} w
    obtain ⟨w₂, vs, h₂, hd₂, hvs⟩ := ih (fun c hc => hcs c (List.mem_cons_of_mem _ hc)) w₁
    refine ⟨w₂, {adopt idx c with size := s} :: vs, ?_, by simp [hd₂, hd₁], by simp [hvs]⟩
    simp only [addChildren, List.forM_cons', bind_apply, hm, hr]
    exact h₂

end Children

/-- `volume_depth`, following parent indices with `fuel` steps at most; `none`
when the chain does not end within the fuel. -/
def volumeDepth (vols : List VolumeInfo) : Nat → Nat → Option Nat
  | 0, _ => none
  | fuel + 1, i =>
    match vols[i]? with
    | none => none
    | some v =>
      match v.parent with
      | none => some 0
      | some j => (volumeDepth vols fuel j).map (· + 1)

theorem volumeDepth_mono (vols : List VolumeInfo) {f f' : Nat} (h : f ≤ f') {i d : Nat}
    (hd : volumeDepth vols f i = some d) : volumeDepth vols f' i = some d := by
  induction f generalizing f' i d with
  | zero => cases hd
  | succ f ih =>
    obtain ⟨f', rfl⟩ : ∃ g, f' = g + 1 := ⟨f' - 1, by omega⟩
    cases hv : vols[i]? with
    | none => simp [volumeDepth, hv] at hd
    | some v =>
      cases hp : v.parent with
      | none => simpa [volumeDepth, hv, hp] using hd
      | some j =>
        simp only [volumeDepth, hv, hp, Option.map_eq_some'] at hd ⊢
        obtain ⟨d', hd', rfl⟩ := hd
        exact ⟨d', ih (by omega) hd', rfl⟩

/-- A child is one level below its parent. -/
theorem volumeDepth_parent (vols : List VolumeInfo) {f i j d : Nat} {v : VolumeInfo}
    (hv : vols[i]? = some v) (hp : v.parent = some j) (hd : volumeDepth vols (f + 1) i = some d) :
    ∃ d', volumeDepth vols f j = some d' ∧ d = d' + 1 := by
  simp only [volumeDepth, hv, hp] at hd
  obtain ⟨d', hd', rfl⟩ := Option.map_eq_some'.mp hd
  exact ⟨d', hd', rfl⟩

/-- Every parent chain ends in a root of the list: the parent relation is
acyclic. With one step per volume, a chain that does not end has a cycle. -/
def Acyclic (vols : List VolumeInfo) : Prop :=
  ∀ i < vols.length, (volumeDepth vols vols.length i).isSome

instance (vols : List VolumeInfo) : Decidable (Acyclic vols) :=
  inferInstanceAs (Decidable (∀ i < vols.length, _))

end DiskVm
