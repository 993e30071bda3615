import DiskVm.Plugins.Base

/-! VeraCrypt system encryption (`plugins/veracrypt.py`, and
`DetectEfiPlugin.is_efi_system_partition` of `plugins/os_detect.py`).

`VeraCryptMountPlugin` unlocks volumes only on a disk marked as
system-encrypted, and the mark is set by its own `mounted_filesystem` hook: when
the filesystem of an EFI system partition holds `EFI/Veracrypt`. A volume is
unlocked by trying every candidate master key with every cipher:
`cryptsetup open --type=plain` over the volume, the key in a temporary file, and
an NTFS signature on the mapped device taken to mean the key was right. The key
found is recorded in the volume's `additional_info`, and the device, opened
again, is returned as a child volume.

Nothing in the plugin waits for the mark: a volume the walk offers to `mount`
before the EFI system partition's filesystem is mounted is not unlocked.

On a `VeraCryptHost`, which says which keys a mapped device shows NTFS for
(`--type=plain` checks no key): `findMasterKey_finds`, `find_master_key`
returns the key recorded on the volume, else the first candidate that unlocks
it (`chosenMasterKey`); `veraCryptMount_unlocks`, `mount` records that key and
answers the device mapped with it under a name drawn once the search is over, and
changes the disk only by the record.

The subclasses' header rewrite (`VeraCryptOverridePasswordPlugin`) and the
on-the-fly decryption (`VeraCryptOnTheFlyDecryptPlugin`) are left out. -/
namespace DiskVm

/-- `DetectEfiPlugin.TYPE_EFI_SYSTEM_PARTITION_GPT`. -/
def efiSystemPartitionGpt : VolumeType := .guid "C12A7328-F81F-11D2-BA4B-00A0C93EC93B"

/-- `DetectEfiPlugin.TYPE_EFI_SYSTEM_PARTITION_MBR`. -/
def efiSystemPartitionMbr : VolumeType := .mbrType 0xEF

/-- `DetectEfiPlugin.is_efi_system_partition`, for a volume of the disk `d`. -/
def isEfiSystemPartition (d : DiskInfo) (p : VolumeInfo) : Bool :=
  (d.partitionScheme == .gpt && p.volumeType == some efiSystemPartitionGpt) ||
    (d.partitionScheme == .mbr && p.volumeType == some efiSystemPartitionMbr)

/-- `Path('/dev/mapper') / volume_name`. -/
def mapperDevice (volumeName : String) : Path := (⟨true, ["dev", "mapper"]⟩ : Path).join volumeName

/-- The `cryptsetup open` command line of `try_mount_veracrypt`. -/
def cryptsetupOpenArgs (readonly : Bool) (masterKey : VeraCryptMasterKey) (keyFile : Path) (skip : Int)
    (source : Path) (volumeName : String) : List String :=
  ["cryptsetup", "open", "--type=plain"] ++ (if readonly then ["--readonly"] else []) ++
    ["--cipher", masterKey.cipher.value, "--key-file", keyFile.toString,
      "--key-size", toString (masterKey.key.length * 8), "--skip", toString skip,
      source.toString, volumeName]

/-- The volume `try_mount_veracrypt` returns for the volume at `i`. -/
def veracryptVolume (i : Nat) (device : Path) : VolumeInfo :=
  { flatMount := some device, parent := some i, additionalInfo := { veracrypt := some { mounted := true } } }

/-- The candidates of `find_master_key`: each key of `master_keys` with each
cipher, in loop order. -/
def candidateKeys (keys : List Bytes) : List VeraCryptMasterKey :=
  keys.flatMap fun k => VeraCryptCipher.all.map fun c => ⟨k, c⟩

/-- The volumes `VeraCryptMountPlugin.mount` has unlocked: their
`additional_info['veracrypt']['enabled']` is set. -/
def unlockedVolumes (d : DiskInfo) : List VolumeInfo :=
  d.volumes.filter fun v => (v.additionalInfo.veracrypt.map (·.enabled)).getD false

section VeraCrypt
variable (env : Env)

/-- `unmount_veracrypt` on a path, or on `None`. -/
def unmountVeracryptPath : Option Path → M Bool
  | none => pure false
  | some p => do
    if !env.pathExists (← get).log p then return false
    tryCatch (do
        discard <| runProcess env ["cryptsetup", "close", p.name]
        pure true)
      fun e => if e.isDiskVmError then pure false else throw e

/-- `unmount_veracrypt` on a volume: its flat mount, when the volume is a mounted
VeraCrypt volume; any other volume is not a path. -/
def unmountVeracryptVolume (v : VolumeInfo) : M Bool :=
  if (v.additionalInfo.veracrypt.map (·.mounted)).getD false then unmountVeracryptPath env v.flatMount
  else pure false

/-- `try_mount_veracrypt`: the key is written to a temporary file that the
`with` removes, also when `cryptsetup` fails. Only `cryptsetup open` raises a
`DiskVmError`, before `mount_device` is bound, so the `except` branch's
`unmount_veracrypt(mount_device)` is given `None` and does nothing. -/
def tryMountVeracrypt (i : Nat) (masterKey : VeraCryptMasterKey) : M (Option VolumeInfo) := do
  let v ← volumeAt i
  let d := (← get).disk
  tryCatch (do
      let volumeName := "veracrypt-" ++ env.randomLetters (← get).log
      let keyFile ← mkstemp env
      withFinally (do
          emit (.write keyFile masterKey.key)
          match floorDiv v.offset d.sectorSize, v.flatMount with
          | .error e, _ => throw e
          | .ok _, none => throw .typeError
          | .ok skip, some source =>
            discard <| runProcess env (cryptsetupOpenArgs d.readonly masterKey keyFile skip source volumeName))
        (unlink env keyFile)
      let mountDevice := mapperDevice volumeName
      if env.isNtfs (← get).log mountDevice then
        pure (some (veracryptVolume i mountDevice))
      else do
        discard <| unmountVeracryptPath env (some mountDevice)
        pure none)
    fun e => if e.isDiskVmError then pure none else throw e

/-- The loop of `find_master_key`: the first candidate that opens the volume,
which is closed again. -/
def tryKeys (i : Nat) : List VeraCryptMasterKey → M (Option VeraCryptMasterKey)
  | [] => pure none
  | masterKey :: rest => do
    match ← tryMountVeracrypt env i masterKey with
    | some mountPoint => do
      discard <| unmountVeracryptVolume env mountPoint
      pure (some masterKey)
    | none => tryKeys i rest

/-- `find_master_key`: the key recorded on the volume, else the first candidate
that opens it. -/
def findMasterKey (i : Nat) : M (Option VeraCryptMasterKey) := do
  match ((← volumeAt i).additionalInfo.veracrypt.bind (·.masterKey)) with
  | some masterKey => pure (some masterKey)
  | none => tryKeys env i (candidateKeys (← get).options.masterKeys)

/-- `VeraCryptMountPlugin.mount`. -/
def veraCryptMount (i : Nat) : M (Option MountResult) := do
  if !(← get).disk.additionalInfo.veracryptSystemEncryptionEnabled then pure none
  else
    match ← findMasterKey env i with
    | some masterKey =>
      updateVolume i fun v => {v with additionalInfo := {v.additionalInfo with
        veracrypt := some {v.additionalInfo.veracrypt.getD {} with enabled := true, masterKey := some masterKey}}}
      return (← tryMountVeracrypt env i masterKey).map .volume
    | none => pure none

/-- `VeraCryptMountPlugin.mounted_filesystem`: the disk is marked
system-encrypted when the volume is an EFI system partition whose filesystem
holds the directory `EFI/Veracrypt`. -/
def veraCryptMountedFilesystem (i : Nat) : M Unit := do
  let v ← volumeAt i
  let w ← get
  if isEfiSystemPartition w.disk v then
    match v.filesystemMount with
    | none => throw .typeError
    | some m =>
      if env.isDir w.log ((m.join "EFI").join "Veracrypt") then
        set {w with disk := {w.disk with additionalInfo :=
          {w.disk.additionalInfo with veracryptSystemEncryptionEnabled := true}}}

def veraCryptMountPlugin : Plugin where
  mount := veraCryptMount env
  mountedFilesystem := veraCryptMountedFilesystem env
  unmountVolume i := do unmountVeracryptVolume env (← volumeAt i)

/-! ### What the hooks do to the disk -/

section Within
variable {R : DiskInfo → DiskInfo → Prop} (hrefl : ∀ d, R d d) (htrans : ∀ a b c, R a b → R b c → R a c)
include hrefl htrans

theorem unmountVeracryptPath_within (p : Option Path) : Within R (unmountVeracryptPath env p) := by
  cases p with
  | none => exact Within.pure hrefl _
  | some p =>
    refine Within.bind htrans (Within.get hrefl) fun _ => ?_
    split
    · exact Within.pure hrefl _
    · exact Within.tryCatch htrans (Within.bind htrans (Within.discard (Within.runProcess hrefl env _))
        fun _ => Within.pure hrefl _) fun e => by
          split
          exacts [Within.pure hrefl _, Within.throw hrefl _]

theorem unmountVeracryptVolume_within (v : VolumeInfo) : Within R (unmountVeracryptVolume env v) := by
  unfold unmountVeracryptVolume
  split
  · exact unmountVeracryptPath_within env hrefl htrans _
  · exact Within.pure hrefl _

theorem tryMountVeracrypt_within (i : Nat) (masterKey : VeraCryptMasterKey) :
    Within R (tryMountVeracrypt env i masterKey) := by
  refine Within.bind htrans (Within.of_eq hrefl (volumeAt_keepsDisk i)) fun v =>
    Within.bind htrans (Within.get hrefl) fun _ => Within.tryCatch htrans ?_ fun e => ?_
  · refine Within.bind htrans (Within.get hrefl) fun _ => Within.bind htrans (Within.makeTemp hrefl env _)
      fun keyFile => Within.bind htrans (Within.withFinally hrefl htrans ?_ (Within.removePath hrefl env _ _))
        fun _ => Within.bind htrans (Within.get hrefl) fun _ => ?_
    · refine Within.bind htrans (Within.emit hrefl _) fun _ => ?_
      split
      exacts [Within.throw hrefl _, Within.throw hrefl _, Within.discard (Within.runProcess hrefl env _)]
    · split
      · exact Within.pure hrefl _
      · exact Within.bind htrans (Within.discard (unmountVeracryptPath_within env hrefl htrans _))
          fun _ => Within.pure hrefl _
  · split
    exacts [Within.pure hrefl _, Within.throw hrefl _]

theorem tryKeys_within (i : Nat) (keys : List VeraCryptMasterKey) : Within R (tryKeys env i keys) := by
  induction keys with
  | nil => exact Within.pure hrefl _
  | cons masterKey rest ih =>
    refine Within.bind htrans (tryMountVeracrypt_within env hrefl htrans i masterKey) fun r => ?_
    rcases r with _ | mountPoint
    · exact ih
    · exact Within.bind htrans (Within.discard (unmountVeracryptVolume_within env hrefl htrans _))
        fun _ => Within.pure hrefl _

theorem findMasterKey_within (i : Nat) : Within R (findMasterKey env i) := by
  refine Within.bind htrans (Within.of_eq hrefl (volumeAt_keepsDisk i)) fun v => ?_
  split
  · exact Within.pure hrefl _
  · exact Within.bind htrans (Within.get hrefl) fun _ => tryKeys_within env hrefl htrans i _

end Within

/-- `d'` is `d` with the volume at `i` changed, its type kept. -/
def ChangesAt (i : Nat) (d d' : DiskInfo) : Prop :=
  ∃ f : VolumeInfo → VolumeInfo, (∀ v, (f v).volumeType = v.volumeType) ∧
    d' = {d with volumes := d.volumes.modify f i}

theorem ChangesAt.refl (i : Nat) (d : DiskInfo) : ChangesAt i d d := ⟨id, fun _ => rfl, by simp⟩

theorem ChangesAt.trans {i : Nat} {a b c : DiskInfo} (hab : ChangesAt i a b) (hbc : ChangesAt i b c) :
    ChangesAt i a c := by
  obtain ⟨f, hf, rfl⟩ := hab
  obtain ⟨g, hg, rfl⟩ := hbc
  exact ⟨g ∘ f, fun v => (hg (f v)).trans (hf v), by simp [List.modify_modify_eq]⟩

theorem updateVolume_changesAt (i : Nat) (f : VolumeInfo → VolumeInfo)
    (hf : ∀ v, (f v).volumeType = v.volumeType) : Within (ChangesAt i) (updateVolume i f) :=
  fun _ => ⟨f, hf, rfl⟩

/-- On an unmarked disk `mount` answers `None` at once. -/
theorem veraCryptMount_unmarked (i : Nat) {w : World}
    (h : w.disk.additionalInfo.veracryptSystemEncryptionEnabled = false) :
    veraCryptMount env i w = .ok none w := by
  simp [veraCryptMount, bind_apply, h]

/-- `mount` changes the disk only at the volume it is given. -/
theorem veraCryptMount_changesAt (i : Nat) : Within (ChangesAt i) (veraCryptMount env i) := by
  have hrefl := ChangesAt.refl i
  have htrans : ∀ a b c, ChangesAt i a b → ChangesAt i b c → ChangesAt i a c := fun _ _ _ => ChangesAt.trans
  refine Within.bind htrans (Within.get hrefl) fun _ => ?_
  split
  · exact Within.pure hrefl _
  · refine Within.bind htrans (findMasterKey_within env hrefl htrans i) fun r => ?_
    rcases r with _ | masterKey
    · exact Within.pure hrefl _
    · exact Within.bind htrans (updateVolume_changesAt i _ fun _ => rfl) fun _ =>
        Within.bind htrans (tryMountVeracrypt_within env hrefl htrans i masterKey) fun _ => Within.pure hrefl _

/-- `mounted_filesystem` leaves the disk as it was, or marks it; only the
filesystem of an EFI system partition can mark it. -/
theorem veraCryptMountedFilesystem_disk (i : Nat) (w : World) :
    (worldOf (veraCryptMountedFilesystem env i w)).disk = w.disk ∨
      isEfiSystemPartition w.disk (w.disk.volumes[i]?.getD {}) = true ∧
        (worldOf (veraCryptMountedFilesystem env i w)).disk =
          {w.disk with additionalInfo := {w.disk.additionalInfo with veracryptSystemEncryptionEnabled := true}} := by
  have hv : volumeAt i w = .ok (w.disk.volumes[i]?.getD {}) w := rfl
  unfold veraCryptMountedFilesystem
  rw [bind_apply, hv]
  dsimp only
  rw [bind_apply, get_apply]
  dsimp only
  split
  · rename_i hesp
    generalize w.disk.volumes[i]?.getD {} = v at hesp ⊢
    rcases v with ⟨_, _ | m, _, _, _, _, _⟩
    · exact .inl rfl
    · dsimp only
      split
      · exact .inr ⟨hesp, rfl⟩
      · exact .inl rfl
  · exact .inl rfl

/-! ### The key search -/

/-- The volume once `mount` has recorded `masterKey` on it. -/
def recordMasterKey (masterKey : VeraCryptMasterKey) (v : VolumeInfo) : VolumeInfo :=
  {v with additionalInfo := {v.additionalInfo with
    veracrypt := some {v.additionalInfo.veracrypt.getD {} with enabled := true, masterKey := some masterKey}}}

/-- The master key `find_master_key` is meant to settle on: the one recorded on
the volume, else the first candidate that `unlocks` it. -/
def chosenMasterKey (unlocks : VeraCryptMasterKey → Bool) (recorded : Option VeraCryptMasterKey)
    (keys : List Bytes) : Option VeraCryptMasterKey :=
  recorded.or ((candidateKeys keys).find? unlocks)

/-- A host on which `cryptsetup open --type=plain`, which checks no key, maps
every volume; the mapped device, read once the key file is removed, starts with
an NTFS signature exactly when the key the file held, in the cipher named,
`unlocks` the source at the sector offset `--skip`; and temporary files can be
removed. -/
structure VeraCryptHost (unlocks : Path → Int → VeraCryptMasterKey → Bool) : Prop where
  opens : ∀ log readonly masterKey keyFile skip source volumeName,
    ∃ out, env.runProcess log (cryptsetupOpenArgs readonly masterKey keyFile skip source volumeName) = .ok out
  ntfs : ∀ log readonly masterKey keyFile skip source volumeName,
    env.isNtfs (log ++ [.spawn (cryptsetupOpenArgs readonly masterKey keyFile skip source volumeName),
        .unlink keyFile]) (mapperDevice volumeName) =
      unlocks source skip ⟨(lastWrite log keyFile).getD [], masterKey.cipher⟩
  removes : ∀ log p, env.remove log p = .ok ()

/-- `unmount_veracrypt` on a path returns, and only logs: `cryptsetup close`
fails only with a `DiskVmError`, which it catches. -/
theorem unmountVeracryptPath_ok (p : Option Path) (w : World) :
    ∃ b log', unmountVeracryptPath env p w = .ok b {w with log := log'} := by
  cases p with
  | none => exact ⟨false, w.log, rfl⟩
  | some p =>
    by_cases hp : env.pathExists w.log p
    · simp only [unmountVeracryptPath, bind_apply, get_apply, hp, Bool.not_true, Bool.false_eq_true, if_false,
        pure_apply, tryCatch_apply, discard_apply, runProcess]
      cases env.runProcess w.log ["cryptsetup", "close", p.name] <;> exact ⟨_, _, rfl⟩
    · simp only [unmountVeracryptPath, bind_apply, get_apply, hp, Bool.not_false, if_true, pure_apply]
      exact ⟨false, w.log, rfl⟩

section Search
variable {env} {unlocks : Path → Int → VeraCryptMasterKey → Bool} (h : VeraCryptHost env unlocks)
include h

/-- `try_mount_veracrypt` on the volume at `i`: the device mapped under a fresh
name when `masterKey` unlocks the volume's source at its sector offset, `None`
otherwise; only the log changes. -/
theorem tryMountVeracrypt_eq {i : Nat} {v : VolumeInfo} {source : Path} {skip : Int} {w : World}
    (hv : w.disk.volumes[i]? = some v) (hsrc : v.flatMount = some source)
    (hskip : floorDiv v.offset w.disk.sectorSize = .ok skip) (masterKey : VeraCryptMasterKey) :
    ∃ log', tryMountVeracrypt env i masterKey w =
      .ok (if unlocks source skip masterKey then
        some (veracryptVolume i (mapperDevice ("veracrypt-" ++ env.randomLetters w.log))) else none)
        {w with log := log'} := by
  obtain ⟨out, hout⟩ := h.opens (w.log ++ [.mkstemp (env.tempPath w.log), .write (env.tempPath w.log) masterKey.key])
    w.disk.readonly masterKey (env.tempPath w.log) skip source ("veracrypt-" ++ env.randomLetters w.log)
  have hntfs := h.ntfs (w.log ++ [.mkstemp (env.tempPath w.log), .write (env.tempPath w.log) masterKey.key])
    w.disk.readonly masterKey (env.tempPath w.log) skip source ("veracrypt-" ++ env.randomLetters w.log)
  simp only [lastWrite_append_mkstemp_write, Option.getD_some, List.append_assoc, List.cons_append,
    List.nil_append] at hntfs hout
  simp only [tryMountVeracrypt, bind_apply, volumeAt_apply hv, get_apply, tryCatch_apply, mkstemp, makeTemp,
    withFinally, emit_apply, hskip, hsrc, discard_apply, runProcess, List.append_assoc, List.cons_append,
    List.nil_append, hout, unlink, removePath, h.removes, pure_apply]
  rw [hntfs]
  cases unlocks source skip masterKey
  · obtain ⟨b, log', hu⟩ := unmountVeracryptPath_ok env (some (mapperDevice ("veracrypt-" ++ env.randomLetters w.log)))
      {w with log := w.log ++ [.mkstemp (env.tempPath w.log), .write (env.tempPath w.log) masterKey.key,
        .spawn (cryptsetupOpenArgs w.disk.readonly masterKey (env.tempPath w.log) skip source
          ("veracrypt-" ++ env.randomLetters w.log)), .unlink (env.tempPath w.log)]}
    simp only [Bool.false_eq_true, if_false, bind_apply, discard_apply, hu, pure_apply]
    exact ⟨_, rfl⟩
  · exact ⟨_, rfl⟩

/-- The loop of `find_master_key` returns the first candidate that unlocks the
volume, from whichever log it starts; only the log changes. -/
theorem tryKeys_eq {i : Nat} {v : VolumeInfo} {source : Path} {skip : Int} {w : World}
    (hv : w.disk.volumes[i]? = some v) (hsrc : v.flatMount = some source)
    (hskip : floorDiv v.offset w.disk.sectorSize = .ok skip) (candidates : List VeraCryptMasterKey)
    (log : List Event) :
    ∃ log', tryKeys env i candidates {w with log := log} =
      .ok (candidates.find? (unlocks source skip)) {w with log := log'} := by
  induction candidates generalizing log with
  | nil => exact ⟨log, rfl⟩
  | cons masterKey rest ih =>
    obtain ⟨log₁, ht⟩ := tryMountVeracrypt_eq h (w := {w with log := log}) hv hsrc hskip masterKey
    simp only [tryKeys, bind_apply, ht, List.find?_cons]
    cases unlocks source skip masterKey
    · exact ih log₁
    · obtain ⟨b, log₂, hu⟩ := unmountVeracryptPath_ok env
        (some (mapperDevice ("veracrypt-" ++ env.randomLetters log))) {w with log := log₁}
      simp only [if_true, unmountVeracryptVolume, veracryptVolume, Option.map_some', Option.getD_some, bind_apply,
        discard_apply, hu, pure_apply]
      exact ⟨_, rfl⟩

/-- `find_master_key` returns `chosenMasterKey`: the key recorded on the
volume, else the first candidate that unlocks it; only the log changes. -/
theorem findMasterKey_finds {i : Nat} {v : VolumeInfo} {source : Path} {skip : Int} {w : World}
    (hv : w.disk.volumes[i]? = some v) (hsrc : v.flatMount = some source)
    (hskip : floorDiv v.offset w.disk.sectorSize = .ok skip) :
    ∃ log', findMasterKey env i w = .ok (chosenMasterKey (unlocks source skip)
      (v.additionalInfo.veracrypt.bind (·.masterKey)) w.options.masterKeys) {w with log := log'} := by
  simp only [findMasterKey, chosenMasterKey, bind_apply, volumeAt_apply hv]
  cases v.additionalInfo.veracrypt.bind (·.masterKey) with
  | some masterKey => exact ⟨w.log, rfl⟩
  | none => exact tryKeys_eq h hv hsrc hskip _ w.log

end Search

section Mount
variable {env} {unlocks : Path → Int → VeraCryptMasterKey → Bool} (h : VeraCryptHost env unlocks)
include h

/-- `mount` on a disk marked system-encrypted: the master key `find_master_key`
settles on is recorded on the volume, and the answer is the volume mapped with
it under the name `veracrypt-` and the letters drawn once the search is over,
when the key unlocks the volume (a key the search found does; one recorded by an
earlier run may not); the disk changes only by the record. -/
theorem veraCryptMount_unlocks {i : Nat} {v : VolumeInfo} {source : Path} {skip : Int} {w : World}
    (hv : w.disk.volumes[i]? = some v) (hsrc : v.flatMount = some source)
    (hskip : floorDiv v.offset w.disk.sectorSize = .ok skip)
    (hmarked : w.disk.additionalInfo.veracryptSystemEncryptionEnabled = true) :
    ∃ log₁ w', findMasterKey env i w = .ok (chosenMasterKey (unlocks source skip)
        (v.additionalInfo.veracrypt.bind (·.masterKey)) w.options.masterKeys) {w with log := log₁} ∧
      veraCryptMount env i w =
        .ok ((chosenMasterKey (unlocks source skip) (v.additionalInfo.veracrypt.bind (·.masterKey))
            w.options.masterKeys).bind fun masterKey =>
          if unlocks source skip masterKey then
            some (.volume (veracryptVolume i (mapperDevice ("veracrypt-" ++ env.randomLetters log₁))))
          else none) w' ∧
      w'.disk = {w.disk with
        volumes := w.disk.volumes.modify ((chosenMasterKey (unlocks source skip)
          (v.additionalInfo.veracrypt.bind (·.masterKey)) w.options.masterKeys).elim id recordMasterKey) i} := by
  obtain ⟨log₁, hf⟩ := findMasterKey_finds h hv hsrc hskip
  refine ⟨log₁, ?_⟩
  simp only [veraCryptMount, bind_apply, get_apply, hmarked, Bool.not_true, Bool.false_eq_true, if_false, hf,
    true_and]
  cases chosenMasterKey (unlocks source skip) (v.additionalInfo.veracrypt.bind (·.masterKey)) w.options.masterKeys with
  | none => exact ⟨_, rfl, by simp⟩
  | some masterKey =>
    let w₂ : World := {w with
      log := log₁
      disk := {w.disk with volumes := w.disk.volumes.modify (recordMasterKey masterKey) i}}
    have hv₂ : w₂.disk.volumes[i]? = some (recordMasterKey masterKey v) := by simp [w₂, List.getElem?_modify, hv]
    obtain ⟨log₃, ht⟩ := tryMountVeracrypt_eq h (w := w₂) hv₂ hsrc hskip masterKey
    refine ⟨{w₂ with log := log₃}, ?_, rfl⟩
    simp only [Option.some_bind, updateVolume_apply, bind_apply]
    erw [ht]
    cases unlocks source skip masterKey <;> rfl

end Mount

/-! ### No key file is left behind -/

theorem unmountVeracryptPath_tidy (p : Option Path) : Tidy (unmountVeracryptPath env p) := by
  cases p with
  | none => exact Tidy.pure _
  | some p =>
    refine Tidy.bind Tidy.get fun _ => ?_
    split
    · exact Tidy.pure _
    · exact Tidy.tryCatch (Tidy.bind (Tidy.discard (Tidy.runProcess env _)) fun _ => Tidy.pure _) fun e => by
        split
        exacts [Tidy.pure _, Tidy.throw _]

theorem unmountVeracryptVolume_tidy (v : VolumeInfo) : Tidy (unmountVeracryptVolume env v) := by
  unfold unmountVeracryptVolume
  split
  · exact unmountVeracryptPath_tidy env _
  · exact Tidy.pure _

theorem veraCryptMountedFilesystem_tidy (i : Nat) : Tidy (veraCryptMountedFilesystem env i) :=
  Tidy.bind (volumeAt_tidy i) fun v => Tidy.of_log fun w => by
    rw [bind_apply, get_apply]
    dsimp only
    split
    · rcases v with ⟨_, _ | m, _, _, _, _, _⟩
      · rfl
      · dsimp only
        split <;> rfl
    · rfl

section Tidy
variable {env} (hrm : ∀ log p, env.remove log p = .ok ())
include hrm

/-- The key file of a trial mount is removed whatever `cryptsetup` answers. -/
theorem tryMountVeracrypt_tidy (i : Nat) (masterKey : VeraCryptMasterKey) :
    Tidy (tryMountVeracrypt env i masterKey) := by
  refine Tidy.bind (volumeAt_tidy i) fun v => Tidy.bind Tidy.get fun _ => Tidy.tryCatch ?_ fun e => ?_
  · refine Tidy.bind Tidy.get fun _ => Tidy.tempFile hrm (fun keyFile => ?_) fun _ _ => ?_
    · refine Tidy.bind (Tidy.emit fun _ => Event.noConfusion) fun _ => ?_
      split
      exacts [Tidy.throw _, Tidy.throw _, Tidy.discard (Tidy.runProcess env _)]
    · refine Tidy.bind Tidy.get fun _ => ?_
      split
      · exact Tidy.pure _
      · exact Tidy.bind (Tidy.discard (unmountVeracryptPath_tidy env _)) fun _ => Tidy.pure _
  · split
    exacts [Tidy.pure _, Tidy.throw _]

theorem findMasterKey_tidy (i : Nat) : Tidy (findMasterKey env i) := by
  have hkeys : ∀ keys, Tidy (tryKeys env i keys) := fun keys => by
    induction keys with
    | nil => exact Tidy.pure _
    | cons masterKey rest ih =>
      refine Tidy.bind (tryMountVeracrypt_tidy hrm i masterKey) fun r => ?_
      rcases r with _ | mountPoint
      · exact ih
      · exact Tidy.bind (Tidy.discard (unmountVeracryptVolume_tidy env _)) fun _ => Tidy.pure _
  refine Tidy.bind (volumeAt_tidy i) fun v => ?_
  split
  · exact Tidy.pure _
  · exact Tidy.bind Tidy.get fun _ => hkeys _

theorem veraCryptMountPlugin_tidyHooks : TidyHooks (veraCryptMountPlugin env) where
  mount i := by
    refine Tidy.bind Tidy.get fun _ => ?_
    split
    · exact Tidy.pure _
    · refine Tidy.bind (findMasterKey_tidy hrm i) fun r => ?_
      rcases r with _ | masterKey
      · exact Tidy.pure _
      · exact Tidy.bind (Tidy.updateVolume _ _) fun _ =>
          Tidy.bind (tryMountVeracrypt_tidy hrm i masterKey) fun _ => Tidy.pure _
  mountedDisk := Tidy.pure _
  modifyDisk := Tidy.pure _
  mountedVolume _ := Tidy.pure _
  modifyVolume _ := Tidy.pure _
  mountedFilesystem := veraCryptMountedFilesystem_tidy env
  modifyFilesystem _ := Tidy.pure _
  unmountFilesystem _ := Tidy.pure _
  unmountVolume i := Tidy.bind (volumeAt_tidy i) fun _ => unmountVeracryptVolume_tidy env _

end Tidy

end VeraCrypt

end DiskVm
