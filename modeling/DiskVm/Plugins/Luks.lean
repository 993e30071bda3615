import DiskVm.Plugins.Generic
import DiskVm.Plugins.VeraCrypt

/-! Unlocking LUKS volumes (`plugins/luks.py`: `master_key_file`, `is_luks`,
`try_mount_luks`, `unmount_luks`, `find_master_key`, `LuksMountPlugin` and
`LuksAddPasswordPlugin`).

`mounted_volume` marks a volume that `cryptsetup isLuks` recognises. `mount`
looks for its master key: the one recorded on the volume by an earlier run, or
else the first of the options' `master_keys` with which `cryptsetup open` maps
the volume; that trial mapping is closed again. The key is recorded on the
volume, and the volume is mapped once more under a fresh name
`/dev/mapper/luks-…`, returned as a child volume. Each time the key is handed to
`cryptsetup` in a temporary file, removed when the `with` block is left. A
volume group that the new mapping brings up is deactivated, since
`LvmMountPlugin` handles it as a volume of its own.

`findMasterKey_chosen`: on a host whose `cryptsetup open` accepts exactly the keys
`accepts` holds (`Host`), the search returns `chosenKey`, the key the plugin is
meant to use, and leaves the disk as it was. `mount_unlocks` says what `mount`
then answers, under which name, and records; `addPassword_adds`, that
`cryptsetup luksAddKey` is handed that key and the new password, with the log it
leaves, and that the volume records them exactly when it
succeeds. `luksAddPasswordPlugin_tidyHooks`: every temporary
file the plugins write a key or a password to is removed before the hook returns
or raises. -/
namespace DiskVm

namespace Luks

/-- The `cryptsetup open` command line of `try_mount_luks`. -/
def openArgs (readonly : Bool) (decryptArgs : List String) (source : Path) (volumeName : String) :
    List String :=
  ["cryptsetup", "open", "--type=luks"] ++ (if readonly then ["--readonly"] else []) ++ decryptArgs ++
    [source.toString, volumeName]

/-- `['--master-key-file', mk_filename]`. -/
def keyFileArgs (keyFile : Path) : List String := ["--master-key-file", keyFile.toString]

/-- The volume `try_mount_luks` returns for the volume at `i`. -/
def mappedVolume (i : Nat) (device : Path) : VolumeInfo :=
  { flatMount := some device, parent := some i, additionalInfo := { luks := some { mounted := true } } }

/-- `LuksAddPasswordPlugin.NEW_PASSWORD`. -/
def newPassword : String := "newpwd"

/-- The bytes a text-mode file holds for an ASCII string. -/
def textBytes (s : String) : Bytes := s.toList.map fun c => c.toNat.toUInt8

/-- `additional_info['luks']` changed by `f`; a missing entry is `{}`. -/
def withLuksInfo (f : LuksInfo → LuksInfo) (v : VolumeInfo) : VolumeInfo :=
  {v with additionalInfo := {v.additionalInfo with luks := some (f (v.additionalInfo.luks.getD {}))}}

/-- `volume_info.additional_info['luks'] |= …`, on the volume at `i`. -/
def updateLuksInfo (i : Nat) (f : LuksInfo → LuksInfo) : M Unit := updateVolume i (withLuksInfo f)

section Luks
variable (env : Env)

/-- `is_luks`: whether `cryptsetup isLuks` accepts the flat mount; `None` is no
argument `subprocess` takes. -/
def isLuks (i : Nat) : M Bool := do
  match (← volumeAt i).flatMount with
  | none => throw .typeError
  | some p =>
    tryCatch (do
        discard <| runProcess env ["cryptsetup", "isLuks", p.toString]
        pure true)
      fun e => if e.isDiskVmError then pure false else throw e

/-- The inner `try` of `try_mount_luks`: the volume group `pvdisplay` lists on
the new device, when there is one, is deactivated; a `DiskVmError` is logged
and passed over. -/
def deactivateGroupOf (device : Path) : M Unit :=
  tryCatch (do
      match dictGet (← colonDict env ["pvdisplay", "--colon"]) (some device) with
      | some volumeGroup => if volumeGroup = "" then pure () else deactivateVolumeGroup env volumeGroup
      | none => pure ())
    fun e => if e.isDiskVmError then pure () else throw e

/-- `try_mount_luks(volume_info, decrypt_args)`: `None` when `cryptsetup open`
fails. -/
def tryMountLuks (i : Nat) (decryptArgs : List String) : M (Option VolumeInfo) := do
  let v ← volumeAt i
  tryCatch (do
      let volumeName := "luks-" ++ env.randomLetters (← get).log
      match v.flatMount with
      | none => throw .typeError
      | some source =>
        discard <| runProcess env (openArgs (← get).disk.readonly decryptArgs source volumeName)
        let device := mapperDevice volumeName
        deactivateGroupOf env device
        pure (some (mappedVolume i device)))
    fun e => if e.isDiskVmError then pure none else throw e

/-- `unmount_luks(mount_point)`: a mounted LUKS volume whose device still exists
is closed. Nothing catches a failing `cryptsetup close`. -/
def unmountLuks (v : VolumeInfo) : M Bool :=
  match v.flatMount with
  | some p => do
    if luksMounted v.additionalInfo && env.pathExists (← get).log p then
      discard <| runProcess env ["cryptsetup", "close", p.name]
      pure true
    else pure false
  | none => pure false

/-- One turn of the loop of `find_master_key`: whether `try_mount_luks` maps the
volume with `key`; the mapping is closed again. -/
def tryKey (i : Nat) (key : Bytes) : M Bool :=
  withTemporaryFile env key fun keyFile => do
    match ← tryMountLuks env i (keyFileArgs keyFile) with
    | some mountPoint =>
      discard <| unmountLuks env mountPoint
      pure true
    | none => pure false

/-- `find_master_key`: the key recorded on the volume when it is not empty,
else the loop over `master_keys`. -/
def findMasterKey (i : Nat) : M (Option Bytes) := do
  match ((← volumeAt i).additionalInfo.luks.bind (·.masterKey)).filter (!·.isEmpty) with
  | some key => pure (some key)
  | none => firstAccepted (tryKey env i) (← get).options.masterKeys

/-- `LuksMountPlugin.mounted_volume`. -/
def mountedVolume (i : Nat) : M Unit := do
  if ← isLuks env i then updateLuksInfo i fun l => {l with enabled := true}

/-- `LuksMountPlugin.mount`: a key found, and not empty, is recorded on the
volume and the volume mapped with it. -/
def mount (i : Nat) : M (Option MountResult) := do
  if !luksEnabled (← volumeAt i).additionalInfo then return none
  match ← findMasterKey env i with
  | some key =>
    if key.isEmpty then return none
    withTemporaryFile env key fun keyFile => do
      updateLuksInfo i fun l => {l with masterKey := some key}
      return (← tryMountLuks env i (keyFileArgs keyFile)).map .volume
  | none => pure none

/-- `LuksAddPasswordPlugin.modify_volume`: with a key found, `cryptsetup
luksAddKey` adds the password, read from a second temporary file, and the
password and key are recorded. Nothing catches a failing `luksAddKey`. -/
def addPassword (i : Nat) : M Unit := do
  if !luksEnabled (← volumeAt i).additionalInfo then return
  match ← findMasterKey env i with
  | some key =>
    if key.isEmpty then return
    withTemporaryFile env key fun keyFile =>
      withTemporaryFile env (textBytes newPassword) fun passwordFile => do
        match (← volumeAt i).flatMount with
        | none => throw .typeError
        | some device =>
          discard <| runProcess env
            ["cryptsetup", "luksAddKey", "--master-key-file", keyFile.toString, device.toString,
              passwordFile.toString]
          updateLuksInfo i fun l => {l with password := some newPassword, masterKey := some key}
  | none => pure ()

/-! ### The key search -/

/-- A host on which `cryptsetup open` maps a volume exactly when the key file it
is given holds a key of `accepts`, closing a mapping succeeds, `pvdisplay`
fails or answers rows `_run_colon_output` can read, and temporary files can be
removed. -/
structure Host (accepts : Bytes → Bool) : Prop where
  /-- An accepted key maps the volume. -/
  opens : ∀ log readonly keyFile source name, accepts ((lastWrite log keyFile).getD []) = true →
    ∃ out, env.runProcess log (openArgs readonly (keyFileArgs keyFile) source name) = .ok out
  /-- Any other key is refused. -/
  refuses : ∀ log readonly keyFile source name, accepts ((lastWrite log keyFile).getD []) = false →
    ∃ e, env.runProcess log (openArgs readonly (keyFileArgs keyFile) source name) = .error e
  closes : ∀ log name, ∃ out, env.runProcess log ["cryptsetup", "close", name] = .ok out
  lists : ∀ log out, env.runProcess log ["pvdisplay", "--colon"] = .ok out →
    ∃ pvs, pathDict (colonRows out) = .ok pvs
  removes : ∀ log p, env.remove log p = .ok ()

/-- A host on which every tool succeeds with no output: `cryptsetup` accepts
every key. -/
def acceptingHost : Env where
  runProcess _ _ := .ok ""
  pathExists _ _ := true
  readPartitions _ _ := .ok {}
  sizeBlockdevice _ _ := .ok 0
  tempPath log := ⟨true, ["tmp", "tmp" ++ toString log.length]⟩
  remove _ _ := .ok ()
  isFileOrBlockDevice _ _ := true
  isDir _ _ := true
  isNtfs _ _ := false
  randomLetters log := toString log.length

theorem host_acceptingHost : Host acceptingHost fun _ => true where
  opens _ _ _ _ _ _ := ⟨"", rfl⟩
  refuses _ _ _ _ _ h := nomatch h
  closes _ _ := ⟨"", rfl⟩
  lists _ _ h := ⟨[], by cases h; rfl⟩
  removes _ _ := rfl

/-- An image of one partition, recognised as LUKS, and two candidate keys. -/
def luksImage : World where
  disk :=
    { readonly        := true
      flatMountedDisk := ⟨true, ["tmp", "disk"]⟩
      diskInfo        := {}
      volumes         :=
        [{ flatMount := some ⟨true, ["dev", "loop0"]⟩, additionalInfo := { luks := some { enabled := true } } }] }
  options := { masterKeys := [[7], [8]] }

/-- The key `find_master_key` is meant to settle on: the key recorded on the
volume when it is not empty, else the first of `keys` that `cryptsetup`
accepts. -/
def chosenKey (accepts : Bytes → Bool) (recorded : Option Bytes) (keys : List Bytes) : Option Bytes :=
  (recorded.filter (!·.isEmpty)).or (keys.find? accepts)

section Search
variable {env} {accepts : Bytes → Bool} (h : Host env accepts)
include h

/-- The LVM cleanup after a mapping returns, whatever `pvdisplay` and `vgchange`
answer, and leaves the disk alone. -/
theorem deactivateGroupOf_ok (device : Path) (w : World) :
    ∃ w', deactivateGroupOf env device w = .ok () w' ∧ w'.disk = w.disk := by
  unfold deactivateGroupOf
  rw [tryCatch_apply]
  cases hpv : env.runProcess w.log ["pvdisplay", "--colon"] with
  | error e =>
    exact ⟨{w with log := w.log ++ [.spawn ["pvdisplay", "--colon"]]},
      by simp [colonDict, bind_apply, runProcess, hpv, Exception.isDiskVmError], rfl⟩
  | ok out =>
    obtain ⟨pvs, hpvs⟩ := h.lists _ _ hpv
    rw [bind_apply, colonDict_apply env hpv hpvs]
    dsimp only
    cases dictGet pvs (some device) with
    | none => exact ⟨_, rfl, rfl⟩
    | some volumeGroup =>
      by_cases hvg : volumeGroup = ""
      · simp only [hvg, if_true]
        exact ⟨_, rfl, rfl⟩
      · simp only [hvg, if_false, deactivateVolumeGroup, discard_apply, runProcess]
        cases env.runProcess (w.log ++ [.spawn ["pvdisplay", "--colon"]]) ["vgchange", "--activate", "n", volumeGroup] <;>
          exact ⟨_, rfl, rfl⟩

/-- `try_mount_luks` with a key file: the mapped device when the key the file
last received is accepted, `None` otherwise; the disk is left alone. -/
theorem tryMountLuks_eq {i : Nat} {v : VolumeInfo} {source : Path} (keyFile : Path) (w : World)
    (hv : w.disk.volumes[i]? = some v) (hsrc : v.flatMount = some source) :
    ∃ w', tryMountLuks env i (keyFileArgs keyFile) w =
      .ok (if accepts ((lastWrite w.log keyFile).getD []) then
        some (mappedVolume i (mapperDevice ("luks-" ++ env.randomLetters w.log))) else none) w' ∧
      w'.disk = w.disk := by
  simp only [tryMountLuks, bind_apply, volumeAt_apply hv, tryCatch_apply, get_apply, hsrc]
  cases hacc : accepts ((lastWrite w.log keyFile).getD [])
  · obtain ⟨e, he⟩ := h.refuses w.log w.disk.readonly keyFile source ("luks-" ++ env.randomLetters w.log) hacc
    simp only [discard_apply, runProcess, he]
    exact ⟨_, rfl, rfl⟩
  · obtain ⟨out, hout⟩ := h.opens w.log w.disk.readonly keyFile source ("luks-" ++ env.randomLetters w.log) hacc
    obtain ⟨w₁, hd, hdisk⟩ := deactivateGroupOf_ok h (mapperDevice ("luks-" ++ env.randomLetters w.log))
      {w with log := w.log ++ [.spawn (openArgs w.disk.readonly (keyFileArgs keyFile) source
        ("luks-" ++ env.randomLetters w.log))]}
    simp only [discard_apply, runProcess, hout, hd]
    exact ⟨_, rfl, hdisk⟩

/-- Closing the mapping `try_mount_luks` made returns and leaves the disk alone. -/
theorem unmountLuks_mappedVolume (i : Nat) (device : Path) (w : World) :
    ∃ b w', unmountLuks env (mappedVolume i device) w = .ok b w' ∧ w'.disk = w.disk := by
  simp only [unmountLuks, mappedVolume, luksMounted, bind_apply, get_apply, Option.map_some',
    Option.getD_some, Bool.true_and]
  by_cases hex : env.pathExists w.log device
  · obtain ⟨out, hout⟩ := h.closes (w.log) device.name
    rw [if_pos hex, bind_apply, discard_apply, runProcess, hout]
    exact ⟨_, _, rfl, rfl⟩
  · rw [if_neg hex]
    exact ⟨_, _, rfl, rfl⟩

/-- One turn of the search answers whether `cryptsetup` accepts the key, and
leaves the disk alone. -/
theorem tryKey_eq {i : Nat} {v : VolumeInfo} {source : Path} {w : World} (hv : w.disk.volumes[i]? = some v)
    (hsrc : v.flatMount = some source) (key : Bytes) :
    ∃ w', tryKey env i key w = .ok (accepts key) w' ∧ w'.disk = w.disk := by
  obtain ⟨w₂, ht, hd₂⟩ := tryMountLuks_eq h (env.tempPath w.log)
    {w with log := w.log ++ [.mkstemp (env.tempPath w.log), .write (env.tempPath w.log) key]} hv hsrc
  simp only [lastWrite_append_mkstemp_write, Option.getD_some] at ht
  unfold tryKey
  cases hacc : accepts key
  · rw [hacc] at ht
    rw [withTemporaryFile_ok h.removes (u := w₂) (a := false) (by rw [bind_apply, ht]; rfl)]
    exact ⟨_, rfl, hd₂⟩
  · rw [hacc, if_pos rfl] at ht
    obtain ⟨b, w₃, hu, hd₃⟩ := unmountLuks_mappedVolume h i
      (mapperDevice ("luks-" ++ env.randomLetters (w.log ++ [.mkstemp (env.tempPath w.log),
        .write (env.tempPath w.log) key]))) w₂
    rw [withTemporaryFile_ok h.removes (u := w₃) (a := true)
      (by rw [bind_apply, ht]; dsimp only; rw [bind_apply, discard_apply, hu]; rfl)]
    exact ⟨_, rfl, hd₃.trans hd₂⟩

/-- `find_master_key` returns `chosenKey`: the key recorded on the volume when it
is not empty, else the first of the options' `master_keys` that `cryptsetup`
accepts; the disk is left as it was. -/
theorem findMasterKey_chosen {i : Nat} {v : VolumeInfo} {source : Path} {w : World}
    (hv : w.disk.volumes[i]? = some v) (hsrc : v.flatMount = some source) :
    ∃ w', findMasterKey env i w =
        .ok (chosenKey accepts (v.additionalInfo.luks.bind (·.masterKey)) w.options.masterKeys) w' ∧
      w'.disk = w.disk := by
  simp only [findMasterKey, bind_apply, volumeAt_apply hv, chosenKey]
  cases (v.additionalInfo.luks.bind (·.masterKey)).filter (!·.isEmpty) with
  | some key => exact ⟨w, rfl, rfl⟩
  | none =>
    exact firstAccepted_eq (R := fun w w' => w'.disk = w.disk) (P := fun w => w.disk.volumes[i]? = some v)
      (fun _ => rfl) (fun h₁ h₂ => h₂.trans h₁) (fun hw hr => by simpa only [hr] using hw)
      (fun key _ hw => tryKey_eq h hw hsrc key)
      w.options.masterKeys w hv

end Search

section Mount
variable {env} {accepts : Bytes → Bool} (h : Host env accepts)
include h

/-- `mount` on a LUKS volume for which a key is chosen: once `find_master_key`
has settled on it, the key is recorded on the volume, and the answer is the
volume mapped with it under the name `luks-` and the letters drawn after the key
file is written, when `cryptsetup` accepts the key (it may not, for a key
recorded by an earlier run); the disk changes only by the record. -/
theorem mount_unlocks {i : Nat} {v : VolumeInfo} {source : Path} {w : World} {key : Bytes}
    (hv : w.disk.volumes[i]? = some v) (hsrc : v.flatMount = some source)
    (henabled : luksEnabled v.additionalInfo = true)
    (hkey : chosenKey accepts (v.additionalInfo.luks.bind (·.masterKey)) w.options.masterKeys = some key)
    (hne : key ≠ []) :
    ∃ w₁ w', findMasterKey env i w = .ok (some key) w₁ ∧ w₁.disk = w.disk ∧
      mount env i w =
        .ok (if accepts key then
          some (.volume (mappedVolume i (mapperDevice ("luks-" ++ env.randomLetters
            (w₁.log ++ [.mkstemp (env.tempPath w₁.log), .write (env.tempPath w₁.log) key])))))
          else none) w' ∧
      w'.disk = {w.disk with volumes := w.disk.volumes.modify (withLuksInfo fun l => {l with masterKey := some key}) i} := by
  obtain ⟨w₁, hf, hd₁⟩ := findMasterKey_chosen h hv hsrc
  rw [hkey] at hf
  let w₂ : World := {w₁ with
    log := w₁.log ++ [.mkstemp (env.tempPath w₁.log), .write (env.tempPath w₁.log) key],
    disk := {w₁.disk with volumes := w₁.disk.volumes.modify (withLuksInfo fun l => {l with masterKey := some key}) i}}
  have hv₂ : w₂.disk.volumes[i]? = some (withLuksInfo (fun l => {l with masterKey := some key}) v) := by
    simp [w₂, hd₁, List.getElem?_modify, hv]
  obtain ⟨w₃, ht, hd₃⟩ := tryMountLuks_eq h (env.tempPath w₁.log) w₂ hv₂ hsrc
  simp only [w₂, lastWrite_append_mkstemp_write, Option.getD_some] at ht
  have hempty : key.isEmpty = false := by cases key with | nil => exact absurd rfl hne | cons => rfl
  refine ⟨w₁, {w₃ with log := w₃.log ++ [.unlink (env.tempPath w₁.log)]}, hf, hd₁, ?_, by rw [← hd₁]; exact hd₃⟩
  simp only [mount, bind_apply, volumeAt_apply hv, henabled, Bool.not_true, Bool.false_eq_true, if_false,
    pure_apply, hf, hempty]
  rw [withTemporaryFile_ok h.removes (u := w₃)]
  simp only [bind_apply, updateLuksInfo, updateVolume_apply]
  rw [ht]
  cases accepts key <;> rfl

end Mount

theorem luksImage_mounted :
    ∃ w₁ w', findMasterKey acceptingHost 0 luksImage = .ok (some [7]) w₁ ∧ w₁.disk = luksImage.disk ∧
      mount acceptingHost 0 luksImage =
        .ok (some (.volume (mappedVolume 0 (mapperDevice ("luks-" ++ acceptingHost.randomLetters
          (w₁.log ++ [.mkstemp (acceptingHost.tempPath w₁.log), .write (acceptingHost.tempPath w₁.log) [7]])))))) w' ∧
      w'.disk = {luksImage.disk with
        volumes := luksImage.disk.volumes.modify (withLuksInfo fun l => {l with masterKey := some [7]}) 0} :=
  mount_unlocks (i := 0) (w := luksImage) host_acceptingHost rfl rfl rfl rfl (by decide)

/-- The log `add_password` leaves when the search left `log` and settled on `key`:
the key file and the password file created and written, `cryptsetup luksAddKey`
run on them and the device, and both files removed, the password file first. -/
def addPasswordLog (env : Env) (log : List Event) (key : Bytes) (device : Path) : List Event :=
  log ++ [.mkstemp (env.tempPath log), .write (env.tempPath log) key,
    .mkstemp (env.tempPath (log ++ [.mkstemp (env.tempPath log), .write (env.tempPath log) key])),
    .write (env.tempPath (log ++ [.mkstemp (env.tempPath log), .write (env.tempPath log) key])) (textBytes newPassword),
    .spawn ["cryptsetup", "luksAddKey", "--master-key-file", (env.tempPath log).toString, device.toString,
      (env.tempPath (log ++ [.mkstemp (env.tempPath log), .write (env.tempPath log) key])).toString],
    .unlink (env.tempPath (log ++ [.mkstemp (env.tempPath log), .write (env.tempPath log) key])),
    .unlink (env.tempPath log)]

section Password
variable {env} {accepts : Bytes → Bool} (h : Host env accepts)
include h

/-- `modify_volume` of `LuksAddPasswordPlugin` on an enabled LUKS volume: once
`find_master_key` has settled, `cryptsetup luksAddKey`, whose outcome `add`
depends on the key file and the password file it is handed, is handed the key
found and the new password, and both files are removed (`addPasswordLog`). When
it succeeds the volume records the password and the key; when it fails its error
is raised with the volume unrecorded; without a key, or with an empty one,
nothing happens after the search. -/
theorem addPassword_adds {i : Nat} {v : VolumeInfo} {source : Path} {w : World}
    (hv : w.disk.volumes[i]? = some v) (hsrc : v.flatMount = some source)
    (henabled : luksEnabled v.additionalInfo = true)
    (hfresh : ∀ log data,
      env.tempPath (log ++ [.mkstemp (env.tempPath log), .write (env.tempPath log) data]) ≠ env.tempPath log)
    (add : Bytes → Bytes → Except DiskVmError String)
    (hadd : ∀ log (keyFile passwordFile : Path), env.runProcess log
      ["cryptsetup", "luksAddKey", "--master-key-file", keyFile.toString, source.toString, passwordFile.toString] =
        add ((lastWrite log keyFile).getD []) ((lastWrite log passwordFile).getD [])) :
    ∃ w₁, findMasterKey env i w =
        .ok (chosenKey accepts (v.additionalInfo.luks.bind (·.masterKey)) w.options.masterKeys) w₁ ∧
      w₁.disk = w.disk ∧
      addPassword env i w =
        match chosenKey accepts (v.additionalInfo.luks.bind (·.masterKey)) w.options.masterKeys with
        | some key =>
          if key.isEmpty then .ok () w₁
          else match add key (textBytes newPassword) with
            | .ok _ => .ok () {w₁ with
                log := addPasswordLog env w₁.log key source
                disk := {w₁.disk with
                  volumes := w₁.disk.volumes.modify
                    (withLuksInfo fun l => {l with password := some newPassword, masterKey := some key}) i}}
            | .error e => .error (.diskVm e) {w₁ with log := addPasswordLog env w₁.log key source}
        | none => .ok () w₁ := by
  obtain ⟨⟨d₁, o₁, c₁, vb₁, db₁, mc₁, log₁⟩, hf, hd₁ : d₁ = w.disk⟩ := findMasterKey_chosen h hv hsrc
  refine ⟨_, hf, hd₁, ?_⟩
  have hv₁ : d₁.volumes[i]? = some v := hd₁ ▸ hv
  simp only [addPassword, bind_apply, volumeAt_apply hv, henabled, Bool.not_true, Bool.false_eq_true, if_false,
    pure_apply, hf]
  cases chosenKey accepts (v.additionalInfo.luks.bind (·.masterKey)) w.options.masterKeys with
  | none => rfl
  | some key =>
    dsimp only
    cases hk : key.isEmpty
    · have hne := hfresh log₁ key
      have hr := hadd (log₁ ++ [.mkstemp (env.tempPath log₁), .write (env.tempPath log₁) key] ++
        [.mkstemp (env.tempPath (log₁ ++ [.mkstemp (env.tempPath log₁), .write (env.tempPath log₁) key])),
          .write (env.tempPath (log₁ ++ [.mkstemp (env.tempPath log₁), .write (env.tempPath log₁) key]))
            (textBytes newPassword)])
        (env.tempPath log₁) (env.tempPath (log₁ ++ [.mkstemp (env.tempPath log₁),
          .write (env.tempPath log₁) key]))
      rw [lastWrite_append_mkstemp_write_of_ne _ _ hne, lastWrite_append_mkstemp_write,
        lastWrite_append_mkstemp_write, Option.getD_some, Option.getD_some] at hr
      simp only [List.append_assoc, List.cons_append, List.nil_append] at hr
      simp only [Bool.false_eq_true, if_false, bind_apply, pure_apply, withTemporaryFile, withFinally, mkstemp,
        makeTemp, tryCatch_apply, emit_apply, List.append_assoc, List.cons_append, List.nil_append, volumeAt,
        get_apply, hv₁, Option.getD_some, hsrc, discard_apply, runProcess, hr]
      cases add key (textBytes newPassword) with
      | ok out =>
        simp only [updateLuksInfo, updateVolume_apply, unlink, removePath, h.removes, pure_apply, addPasswordLog,
          List.append_assoc, List.cons_append, List.nil_append]
      | error e =>
        simp only [unlink, removePath, h.removes, bind_apply, throw_apply, addPasswordLog, List.append_assoc,
          List.cons_append, List.nil_append]
    · rfl

end Password

/-- `acceptingHost` with temporary names that grow with the log. -/
def growingHost : Env := {acceptingHost with tempPath := fun log => ⟨true, "tmp" :: log.map fun _ => "f"⟩}

theorem host_growingHost : Host growingHost fun _ => true where
  opens _ _ _ _ _ _ := ⟨"", rfl⟩
  refuses _ _ _ _ _ h := nomatch h
  closes _ _ := ⟨"", rfl⟩
  lists _ _ h := ⟨[], by cases h; rfl⟩
  removes _ _ := rfl

theorem luksImage_password_added :
    ∃ w₁, findMasterKey growingHost 0 luksImage = .ok (some [7]) w₁ ∧ w₁.disk = luksImage.disk ∧
      addPassword growingHost 0 luksImage = .ok () {w₁ with
        log := addPasswordLog growingHost w₁.log [7] ⟨true, ["dev", "loop0"]⟩
        disk := {w₁.disk with
          volumes := w₁.disk.volumes.modify
            (withLuksInfo fun l => {l with password := some newPassword, masterKey := some [7]}) 0}} :=
  addPassword_adds (i := 0) (w := luksImage) host_growingHost rfl rfl rfl
    (fun log _ h => by simpa [growingHost] using congrArg (fun p : Path => p.parts.length) h) (fun _ _ => .ok "")
    fun _ _ _ => rfl

/-- `LuksMountPlugin`. -/
def luksMountPlugin : Plugin where
  mountedVolume := mountedVolume env
  mount := mount env
  unmountVolume i := do unmountLuks env (← volumeAt i)

/-- `LuksAddPasswordPlugin`, a `LuksMountPlugin` that also adds a password. -/
def luksAddPasswordPlugin : Plugin := {luksMountPlugin env with modifyVolume := addPassword env}

/-! ### No key or password file is left behind -/

section Tidy
variable {env}

theorem isLuks_tidy (i : Nat) : Tidy (isLuks env i) := by
  refine Tidy.bind (volumeAt_tidy i) fun v => ?_
  split
  · exact Tidy.throw _
  · exact Tidy.tryCatch (Tidy.bind (Tidy.discard (Tidy.runProcess env _)) fun _ => Tidy.pure _) fun e => by
      split
      exacts [Tidy.pure _, Tidy.throw _]

theorem deactivateGroupOf_tidy (device : Path) : Tidy (deactivateGroupOf env device) := by
  refine Tidy.tryCatch (Tidy.bind (colonDict_tidy env _) fun pvs => ?_) fun e => ?_
  · split
    · split
      · exact Tidy.pure _
      · exact Tidy.discard (Tidy.runProcess env _)
    · exact Tidy.pure _
  · split
    exacts [Tidy.pure _, Tidy.throw _]

theorem tryMountLuks_tidy (i : Nat) (decryptArgs : List String) : Tidy (tryMountLuks env i decryptArgs) := by
  refine Tidy.bind (volumeAt_tidy i) fun v => Tidy.tryCatch (Tidy.bind Tidy.get fun _ => ?_) fun e => ?_
  · split
    · exact Tidy.throw _
    · exact Tidy.bind Tidy.get fun _ => Tidy.bind (Tidy.discard (Tidy.runProcess env _)) fun _ =>
        Tidy.bind (deactivateGroupOf_tidy _) fun _ => Tidy.pure _
  · split
    exacts [Tidy.pure _, Tidy.throw _]

theorem unmountLuks_tidy (v : VolumeInfo) : Tidy (unmountLuks env v) := by
  unfold unmountLuks
  split
  · refine Tidy.bind Tidy.get fun _ => ?_
    split
    · exact Tidy.bind (Tidy.discard (Tidy.runProcess env _)) fun _ => Tidy.pure _
    · exact Tidy.pure _
  · exact Tidy.pure _

variable (hrm : ∀ log p, env.remove log p = .ok ())
include hrm

theorem tryKey_tidy (i : Nat) (key : Bytes) : Tidy (tryKey env i key) :=
  withTemporaryFile_tidy hrm fun _ => Tidy.bind (tryMountLuks_tidy i _) fun r => by
    rcases r with _ | mountPoint
    · exact Tidy.pure _
    · exact Tidy.bind (Tidy.discard (unmountLuks_tidy _)) fun _ => Tidy.pure _

theorem findMasterKey_tidy (i : Nat) : Tidy (findMasterKey env i) := by
  refine Tidy.bind (volumeAt_tidy i) fun v => ?_
  split
  · exact Tidy.pure _
  · exact Tidy.bind Tidy.get fun _ => firstAccepted_tidy (tryKey_tidy hrm i) _

theorem luksMountPlugin_tidyHooks : TidyHooks (luksMountPlugin env) where
  mount i := by
    refine Tidy.bind (volumeAt_tidy i) fun v => ?_
    split
    · exact Tidy.pure _
    · refine Tidy.bind (Tidy.pure _) fun _ => Tidy.bind (findMasterKey_tidy hrm i) fun r => ?_
      rcases r with _ | key
      · exact Tidy.pure _
      · dsimp only
        split
        · exact Tidy.pure _
        · exact Tidy.bind (Tidy.pure _) fun _ => withTemporaryFile_tidy hrm fun _ =>
            Tidy.bind (Tidy.updateVolume _ _) fun _ => Tidy.bind (tryMountLuks_tidy i _) fun _ => Tidy.pure _
  mountedVolume i := by
    refine Tidy.bind (isLuks_tidy i) fun b => ?_
    split
    exacts [Tidy.updateVolume _ _, Tidy.pure _]
  mountedDisk := Tidy.pure _
  modifyDisk := Tidy.pure _
  modifyVolume _ := Tidy.pure _
  mountedFilesystem _ := Tidy.pure _
  modifyFilesystem _ := Tidy.pure _
  unmountFilesystem _ := Tidy.pure _
  unmountVolume i := Tidy.bind (volumeAt_tidy i) fun _ => unmountLuks_tidy _

/-- `LuksAddPasswordPlugin` removes the key file and the password file it gives
`cryptsetup luksAddKey`, also when `luksAddKey` fails. -/
theorem luksAddPasswordPlugin_tidyHooks : TidyHooks (luksAddPasswordPlugin env) where
  __ := luksMountPlugin_tidyHooks hrm
  modifyVolume i := by
    refine Tidy.bind (volumeAt_tidy i) fun v => ?_
    split
    · exact Tidy.pure _
    · refine Tidy.bind (Tidy.pure _) fun _ => Tidy.bind (findMasterKey_tidy hrm i) fun r => ?_
      rcases r with _ | key
      · exact Tidy.pure _
      · dsimp only
        split
        · exact Tidy.pure _
        · refine Tidy.bind (Tidy.pure _) fun _ => withTemporaryFile_tidy hrm fun _ =>
            withTemporaryFile_tidy hrm fun _ => Tidy.bind (volumeAt_tidy i) fun w => ?_
          split
          · exact Tidy.throw _
          · exact Tidy.bind (Tidy.discard (Tidy.runProcess env _)) fun _ => Tidy.updateVolume _ _

end Tidy

end Luks

end Luks

end DiskVm
