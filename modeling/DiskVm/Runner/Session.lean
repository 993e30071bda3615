import DiskVm.Runner.Teardown

/-! Opening a disk for analysis (`runner.py`: `mount_disk_image`,
`_add_virtual_disk`, `mount_disk`, and the loop of `run` that opens the VM's
disks writable).

A context manager is its entry and its `finally`. The `finally` of
`mount_disk_image` and of `mount_partitions_and_filesystems` are exits held
by `_add_virtual_disk`'s `ExitStack` (`Release`); `unwind` runs them, last
entered first, each one also after an earlier one raised, as `ExitStack` does.
When the disk is to stay mounted, `pop_all` moves them to `ctx.mount_contexts`,
each partitions' exit keeping the disk it closes.

`mount_disk` binds `disk_info` only after the partition table was parsed, and
its `finally` tests `disk_info`: before that, it does nothing. -/
namespace DiskVm

section Session
variable (env : Env) (pm : PluginManager)

/-- `DiskInfo(flat_mounted_disk=flat, readonly=readonly)`: `__post_init__` opens
the disk and parses its partition table; the new `disk_info` is the disk being
analysed. -/
def openDiskInfo (flat : Path) (readonly : Bool) : M Unit := fun w =>
  match env.readPartitions w.log flat with
  | .ok info => .ok () {w with disk := { readonly := readonly, flatMountedDisk := flat, diskInfo := info }}
  | .error e => .error e w

/-- `disk_info.refresh_disk_info()`. -/
def refreshDiskInfo : M Unit := fun w =>
  match env.readPartitions w.log w.disk.flatMountedDisk with
  | .ok info => .ok () {w with disk := {w.disk with diskInfo := info}}
  | .error e => .error e w

/-- `disk_builder.add_part(part)`, on the disk builder being assembled. -/
def diskBuilderAddPart (part : Vm.VirtualDiskPart) : M Unit := fun w =>
  match (Vm.VirtualDiskBuilder.addPart (env.isFileOrBlockDevice w.log) part).run w.diskBuilder with
  | .ok () b => .ok () {w with diskBuilder := b}
  | .error e b => .error e {w with diskBuilder := b}

/-! ### `mount_disk_image` -/

/-- The `finally` of `mount_disk_image`: when the mount point still exists,
unmount it, a failed `umount` ignored, and remove it. -/
def imageMountExit (mountPoint : Path) : M Unit := do
  if env.pathExists (← get).log mountPoint then
    tryCatch (discard <| runProcess env ["umount", mountPoint.toString])
      fun e => if e.isDiskVmError then pure () else throw e
    unlink env mountPoint

/-- Entering `mount_disk_image`: a temporary file, the image bind-mounted on it
read-only, the disk opened read-only and `mounted_disk` dispatched. A failure
runs the `finally` and propagates. -/
def mountDiskImageEnter (image : Path) : M Path := do
  let mountPoint ← mkstemp env
  tryCatch (do
      discard <| runProcess env ["mount", "--read-only", "--bind", image.toString, mountPoint.toString]
      openDiskInfo env mountPoint true
      pm.dispatchAll .mountedDisk none (·.mountedDisk))
    fun e => do
      imageMountExit env mountPoint
      throw e
  pure mountPoint

/-- Entering `mount_partitions_and_filesystems`: the discovery walk, with the
teardown run when it raises; `false` when the walk's fuel ran out. -/
def mountPartitionsAndFilesystemsEnter (fuel : Nat) : M Bool :=
  tryCatch (do
      mountPartitions env pm
      mountFilesystems env pm fuel)
    fun e => do
      unmountPartitionsAndFilesystems env pm
      throw e

/-! ### The exit stack -/

/-- What an exit does. A disk kept mounted is made the disk being analysed
again to be closed; nothing reads the disk being analysed after that. -/
def Release.run : Release → M Unit
  | .imageMount mountPoint => imageMountExit env mountPoint
  | .partitions => unmountPartitionsAndFilesystems env pm
  | .partitionsOf d => do
    modify fun w => {w with disk := d}
    unmountPartitionsAndFilesystems env pm

/-- `pop_all` as seen from `ctx.mount_contexts`: the partitions' exit keeps the
disk it closes. -/
def Release.detach (d : DiskInfo) : Release → Release
  | .partitions => .partitionsOf d
  | r => r

/-- `ExitStack.__exit__` with the exception in flight, if any: every exit, last
entered first, each one also after an earlier one raised; the last exception
raised propagates. -/
def unwind : List Release → Option Exception → M Unit
  | [], none => pure ()
  | [], some e => throw e
  | r :: rs, exc => do
    let exc ← tryCatch (do r.run env pm; pure exc) fun e => pure (some e)
    unwind rs exc

/-- The body of a `with ExitStack()` block holding `stack`: an exception unwinds
the stack. -/
def guarded {α : Type} (stack : List Release) (x : M α) : M α :=
  tryCatch x fun e => do
    unwind env pm stack (some e)
    throw e

/-! ### `_add_virtual_disk` -/

/-- A disk builder for the image: `new_disk()`, the disk's sector size, and the
whole image as its first part. -/
def prepareDiskBuilder (image : Path) : M Unit := do
  let w ← get
  set {w with diskBuilder := {w.vmBuilder.newDisk with sectorSize := w.disk.sectorSize}}
  let length ← sizeBlockdevice env (some image)
  diskBuilderAddPart env ⟨some image, length, 0, 0⟩

/-- `_add_virtual_disk`, with `fuel` for the discovery walk: `false` when the
walk ran out of it, and the rest is not run. -/
def addVirtualDisk (fuel : Nat) (image : Path) : M Bool := do
  let mountPoint ← mountDiskImageEnter env pm image
  let outer := [Release.imageMount mountPoint]
  let done ← guarded env pm outer do
    prepareDiskBuilder env image
    pm.dispatchAll .mountedDisk none (·.mountedDisk)
    mountPartitionsAndFilesystemsEnter env pm fuel
  if !done then return false
  let inner := Release.partitions :: outer
  guarded env pm inner do
    pm.dispatchAll .beforeCreateDisk none (·.beforeCreateDisk)
    modify fun w => {w with vmBuilder := w.vmBuilder.addDisk w.diskBuilder}
  let w ← get
  if w.disk.keepMounted then
    set {w with mountContexts := inner.map (Release.detach w.disk) ++ w.mountContexts}
  else unwind env pm inner none
  return true

end Session

/-- A run before any disk is opened: the VM builder named, no disk analysed yet. -/
def freshRun : World where
  disk      := { readonly := true, flatMountedDisk := ⟨true, []⟩, diskInfo := {} }
  vmBuilder := { name := "firstVm" }

def diskImage : Path := ⟨true, ["images", "disk.img"]⟩

/-- `mounted_disk` is dispatched twice for the one disk `_add_virtual_disk`
opens: once by `mount_disk_image`, once by `_add_virtual_disk` itself. -/
theorem addVirtualDisk_mountedDisk_twice :
    ∃ w', addVirtualDisk allPresent {} 1 diskImage freshRun = .ok true w' ∧
      w'.log.filter Event.isDispatch =
        [.dispatch .mountedDisk none, .dispatch .mountedDisk none, .dispatch .beforeCreateDisk none] :=
  ⟨_, rfl, rfl⟩

section Session
variable (env : Env) (pm : PluginManager)

/-! ### `mount_disk` -/

/-- The `vmware-mount` command line of `Vmware.mount_disk`. -/
def vmwareMountArgs (disk : Vm.VirtualDisk) (readonly : Bool) (mountDir : Path) : List String :=
  ["vmware-mount"] ++ (if readonly then ["-r"] else []) ++ ["-f", disk.path.toString, mountDir.toString]

/-- `Vmware.mount_disk`: a temporary directory, the descriptor mounted on it by
`vmware-mount`, and the `flat` file there. -/
def vmwareMountDisk (disk : Vm.VirtualDisk) (readonly : Bool) : M Path := do
  let mountDir ← mkdtemp env
  discard <| runProcess env (vmwareMountArgs disk readonly mountDir)
  pure (mountDir / ⟨false, ["flat"]⟩)

/-- `Vmware.unmount_disk`. -/
def vmwareUnmountDisk (disk : Vm.VirtualDisk) : M Unit :=
  discard <| runProcess env ["vmware-mount", "-K", disk.path.toString]

/-- The `finally` of `mount_disk` once `disk_info` is bound: when the flat file
still exists, unmount the disk and remove its mount directory. -/
def mountDiskExit (disk : Vm.VirtualDisk) : M Unit := do
  let w ← get
  if env.pathExists w.log w.disk.flatMountedDisk then
    vmwareUnmountDisk env disk
    rmdir env w.disk.flatMountedDisk.parent

/-- `with mount_disk(disk, readonly) as disk_info: body`. -/
def mountDisk (disk : Vm.VirtualDisk) (readonly : Bool) (body : M Bool) : M Bool := do
  let flat ← vmwareMountDisk env disk readonly
  openDiskInfo env flat readonly
  withFinally (do
      pm.dispatchAll .mountedDisk none (·.mountedDisk)
      if !readonly then
        pm.dispatchAll .modifyDisk none (·.modifyDisk)
        refreshDiskInfo env
      body)
    (mountDiskExit env disk)

/-- `with mount_partitions_and_filesystems(disk_info): body`. -/
def withPartitionsAndFilesystems (fuel : Nat) (body : M Unit) : M Bool := do
  let done ← mountPartitionsAndFilesystemsEnter env pm fuel
  if !done then return false
  withFinally body (unmountPartitionsAndFilesystems env pm)
  return true

/-- The loop of `run` over the VM's disks, each opened writable with everything
mounted, so that the `modify_*` hooks run. -/
def modifyDisks (fuel : Nat) : List Vm.VirtualDisk → M Bool
  | [] => pure true
  | d :: ds => do
    let done ← mountDisk env pm d false (withPartitionsAndFilesystems env pm fuel (pure ()))
    if done then modifyDisks fuel ds else pure false

end Session

/-! ### The modify phase removes its temporary files -/

section Tidy
variable (env : Env) {pm : PluginManager} (hpm : ∀ p ∈ pm.allPlugins, TidyHooks p)
include hpm

theorem mountPartitionsAndFilesystemsEnter_tidy (fuel : Nat) :
    Tidy (mountPartitionsAndFilesystemsEnter env pm fuel) :=
  Tidy.tryCatch (Tidy.bind (mountPartitions_tidy env hpm) fun _ => mountFilesystemsFrom_tidy env hpm fuel 0)
    fun _ => Tidy.bind (unmountPartitionsAndFilesystems_tidy env hpm) fun _ => Tidy.throw _

theorem withPartitionsAndFilesystems_tidy (fuel : Nat) {body : M Unit} (hbody : Tidy body) :
    Tidy (withPartitionsAndFilesystems env pm fuel body) := by
  refine Tidy.bind (mountPartitionsAndFilesystemsEnter_tidy env hpm fuel) fun done => ?_
  split
  · exact Tidy.pure _
  · exact Tidy.bind (Tidy.pure _) fun _ =>
      Tidy.bind (Tidy.withFinally hbody (unmountPartitionsAndFilesystems_tidy env hpm)) fun _ => Tidy.pure _

theorem mountDisk_tidy (disk : Vm.VirtualDisk) (readonly : Bool) {body : M Bool} (hbody : Tidy body) :
    Tidy (mountDisk env pm disk readonly body) := by
  refine Tidy.bind (Tidy.bind (Tidy.mkdtemp env) fun _ =>
    Tidy.bind (Tidy.discard (Tidy.runProcess env _)) fun _ => Tidy.pure _) fun flat => ?_
  refine Tidy.bind (Tidy.of_log fun w => ?_) fun _ => Tidy.withFinally ?_ ?_
  · simp only [openDiskInfo]; split <;> rfl
  · refine Tidy.bind (pm.dispatchAll_tidy _ _ fun p hp => (hpm p hp).mountedDisk) fun _ => ?_
    split
    · exact Tidy.bind (pm.dispatchAll_tidy _ _ fun p hp => (hpm p hp).modifyDisk) fun _ =>
        Tidy.bind (Tidy.of_log fun w => by simp only [refreshDiskInfo]; split <;> rfl) fun _ => hbody
    · exact Tidy.bind (Tidy.pure _) fun _ => hbody
  · refine Tidy.bind Tidy.get fun _ => ?_
    split
    · exact Tidy.bind (Tidy.discard (Tidy.runProcess env _)) fun _ => Tidy.rmdir env _
    · exact Tidy.pure _

/-- The loop of `run` over the VM's disks, which runs the `modify_*` hooks,
leaves no temporary file behind when the hooks of every plugin leave none,
whether it returns or raises. -/
theorem modifyDisks_tidy (fuel : Nat) (disks : List Vm.VirtualDisk) : Tidy (modifyDisks env pm fuel disks) := by
  induction disks with
  | nil => exact Tidy.pure _
  | cons d ds ih =>
    refine Tidy.bind (mountDisk_tidy env hpm d false (withPartitionsAndFilesystems_tidy env hpm fuel
      (Tidy.pure _))) fun done => ?_
    split
    exacts [ih, Tidy.pure _]

end Tidy

/-- When the partition table of a disk that `vmware-mount` mounted cannot be
parsed, `disk_info` is never bound: the exception leaves `run`'s loop with the
disk still mounted and its temporary directory in place, and the later disks
are not opened. -/
theorem modifyDisks_leaks_unparsed_disk (env : Env) (pm : PluginManager) (fuel : Nat)
    (d : Vm.VirtualDisk) (ds : List Vm.VirtualDisk) (w : World) (e : Exception)
    (hrun : ∀ log args, ∃ out, env.runProcess log args = .ok out)
    (hparse : ∀ log p, env.readPartitions log p = .error e) :
    modifyDisks env pm fuel (d :: ds) w =
      .error e {w with log := w.log ++ [.mkdtemp (env.tempPath w.log),
        .spawn (vmwareMountArgs d false (env.tempPath w.log))]} := by
  obtain ⟨out, hout⟩ := hrun (w.log ++ [.mkdtemp (env.tempPath w.log)])
    (vmwareMountArgs d false (env.tempPath w.log))
  simp [modifyDisks, mountDisk, vmwareMountDisk, bind_apply, discard_apply, mkdtemp, makeTemp,
    runProcess, hout, openDiskInfo, hparse]

/-- A host on which every tool succeeds but no partition table can be read. -/
def unparsableHost : Env := {allPresent with readPartitions := fun _ _ => .error .osError}

def firstVmDisk : Vm.VirtualDisk := ⟨⟨true, ["out", "firstVm-disk1.vmdk"]⟩, .sata⟩

theorem firstVmDisk_left_mounted :
    modifyDisks unparsableHost {} 1 [firstVmDisk] freshRun =
      .error .osError {freshRun with log := freshRun.log ++ [.mkdtemp (unparsableHost.tempPath freshRun.log),
        .spawn (vmwareMountArgs firstVmDisk false (unparsableHost.tempPath freshRun.log))]} :=
  modifyDisks_leaks_unparsed_disk unparsableHost {} 1 firstVmDisk [] freshRun .osError
    (fun _ _ => ⟨_, rfl⟩) (fun _ _ => rfl)

end DiskVm
