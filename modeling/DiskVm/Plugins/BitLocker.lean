import DiskVm.Plugins.Generic

/-! BitLocker volumes (`plugins/bitlocker.py`).

`dislocker-fuse` exposes the plaintext of a BitLocker volume as the file
`dislocker-file` in a FUSE mount on a temporary directory. `mount` first tries
the volume's clear key; failing that, `find_correct_fvek` reads the cipher mode
from `dislocker-metadata` and tries each of the options' `master_keys` as the
full volume encryption key, written after the mode to a temporary file. Since
`dislocker` cannot tell a wrong key, a key is taken as right when the plaintext
starts with an NTFS signature. `BitLockerOverridePasswordPlugin` hands the key
found to `dislocker-pwreset`. `searchEncryptionType_modeTag`: the regex reads
back the mode a metadata line names by its value.

`unmount_bitlocker` finds the `dislocker-file` from what it is given (the file,
its directory, or the mounted volume), unmounts the directory with `umount`
through `retry(10, sleep=0.5)`, since the mount may still be busy from an
earlier unmount, and removes the directory.

`unmountBitlocker_retries`: when the `umount`s fail at most ten times before one
succeeds, the volume is unmounted after one attempt more than the failures and a
half-second sleep after each failure; `unmountBitlocker_exhausted`: when all
eleven fail, the last failure is raised.

On a `BitLockerHost` that says which volumes the clear key opens, which FVEK
files unlock them and what `dislocker-metadata` prints: `findCorrectFvek_eq`, the search
returns the first key whose FVEK file unlocks the volume, in the mode the
metadata names (`chosenFvek`); `bitLockerMount_unlocks`, `mount` answers the
`dislocker-file` of the directory made for the attempt that worked, the clear key
or such a key, and changes the disk only by recording which of the two it used;
`bitLockerModifyVolume_resets`, `dislocker-pwreset` is handed the FVEK file of
that key (`pwresetLog`), and the volume records the clear key and the new
password exactly when it succeeds. `bitLockerOverridePasswordPlugin_tidyHooks`: every key file the plugins write
is removed again. -/
namespace DiskVm

/-- What `unmount_bitlocker` is given: a path or a volume. -/
inductive MountPoint where
  | path (p : Path)
  | volume (v : VolumeInfo)
deriving DecidableEq, Repr

/-- `BitLockerMode`. -/
inductive BitLockerMode where
  | aes256Xts
  | aes128Xts
  | aes256Cbc
  | aes128Cbc
  | aes256CbcDiffuser
  | aes128CbcDiffuser
deriving DecidableEq, Repr

/-- The member's value. -/
def BitLockerMode.value : BitLockerMode → Nat
  | .aes256Xts => 0x8005
  | .aes128Xts => 0x8004
  | .aes256Cbc => 0x8003
  | .aes128Cbc => 0x8002
  | .aes256CbcDiffuser => 0x8001
  | .aes128CbcDiffuser => 0x8000

/-- `BitLockerMode(int('0x800' + d, 16))`, for the digit `d` of a tag
`(0x800d)`; `[0-5]` admits no other. -/
def BitLockerMode.ofDigit : Char → Option BitLockerMode
  | '5' => some .aes256Xts
  | '4' => some .aes128Xts
  | '3' => some .aes256Cbc
  | '2' => some .aes128Cbc
  | '1' => some .aes256CbcDiffuser
  | '0' => some .aes128CbcDiffuser
  | _ => none

/-- The mode of a tag `(0x800d)` that starts `cs`, after its `(`. -/
def tagMode : List Char → Option BitLockerMode
  | '0' :: 'x' :: '8' :: '0' :: '0' :: d :: ')' :: _ => BitLockerMode.ofDigit d
  | _ => none

/-- The modes of the tags `\((0x800[0-5])\)` in `cs`, in order. -/
def modeTags : List Char → List BitLockerMode
  | [] => []
  | c :: cs => (if c = '(' then (tagMode cs).toList else []) ++ modeTags cs

/-- What follows the first occurrence of `lit` in `cs`. -/
def afterFirst (lit : List Char) : List Char → Option (List Char)
  | [] => if lit = [] then some [] else none
  | c :: cs => if lit.isPrefixOf (c :: cs) then some ((c :: cs).drop lit.length) else afterFirst lit cs

/-- The mode `re.search(r'Encryption Type:.*\((0x800[0-5])\)', metadata)` finds.
`.` matches no newline, so a match lies within a line: the leftmost one starts at
the first `Encryption Type:` of the first line where a tag follows it, and
`.*`, being greedy, reaches the last tag of that line. -/
def searchEncryptionType (metadata : List Char) : Option BitLockerMode :=
  (splitOnChar '\n' metadata).findSome? fun line =>
    (afterFirst "Encryption Type:".toList line).bind fun rest => (modeTags rest).getLast?

/-! ### Reading the cipher mode -/

/-- `struct.pack('<H', v)`. -/
def packUInt16LE (v : Nat) : Bytes := [v.toUInt8, (v / 256).toUInt8]

/-- What `fvek_file` writes: the mode, then the key padded to 512 bits. -/
def fvekData (mode : BitLockerMode) (key : Bytes) : Bytes := packUInt16LE mode.value ++ ljust key 64

/-- `additional_info['bitlocker']` changed by `f`; a missing entry is `{}`. -/
def withBitlockerInfo (f : BitLockerInfo → BitLockerInfo) (v : VolumeInfo) : VolumeInfo :=
  {v with additionalInfo := {v.additionalInfo with bitlocker := some (f (v.additionalInfo.bitlocker.getD {}))}}

/-- `volume_info.additional_info['bitlocker'] |= …`, on the volume at `i`. -/
def updateBitlockerInfo (i : Nat) (f : BitLockerInfo → BitLockerInfo) : M Unit :=
  updateVolume i (withBitlockerInfo f)

/-- `BitLockerOverridePasswordPlugin.NEW_PASSWORD`. -/
def bitLockerNewPassword : String := "newpwd"

/-- The command line of `run_unmount`. -/
def umountArgs (mountDir : Path) : List String := ["umount", mountDir.toString]

section BitLocker
variable (env : Env)

/-- The `dislocker-file` `unmount_bitlocker` works on: a file given as such, the
file in a directory given, or the flat mount of a mounted BitLocker volume that
still exists; `None` otherwise. -/
def mountFileOf (log : List Event) : MountPoint → Option Path
  | .path p =>
    if env.isFile log p then some p
    else if env.isDir log p then some (p.join "dislocker-file")
    else none
  | .volume v =>
    if (v.additionalInfo.bitlocker.map (·.mounted)).getD false then
      match v.flatMount with
      | some f => if env.pathExists log f then some f else none
      | none => none
    else none

/-- `unmount_bitlocker`: the directory of the `dislocker-file` is unmounted when
it is a mount point, with up to ten retries half a second apart, and removed
when it is a directory. -/
def unmountBitlocker (mountPoint : MountPoint) : M Bool := do
  match mountFileOf env (← get).log mountPoint with
  | none => pure false
  | some mountFile =>
    let mountDir := mountFile.parent
    if env.isMount (← get).log mountDir then
      retry 10 500 (discard <| runProcess env (umountArgs mountDir))
    if env.isDir (← get).log mountDir then rmdir env mountDir
    pure true

/-- `dislocker-file` in the mount directory. -/
def mountFileIn (mountDir : Path) : Path := mountDir.join "dislocker-file"

/-- The `dislocker-fuse` command line of `try_mount_bitlocker`. -/
def dislockerArgs (source : Option Path) (readonly : Bool) (decryptArgs : List String) (mountDir : Path) :
    List String :=
  ["dislocker-fuse", "--volume", pathStr source] ++ (if readonly then ["--readonly"] else []) ++
    decryptArgs ++ ["--", mountDir.toString]

/-- The volume `try_mount_bitlocker` returns for the volume at `i`. -/
def bitlockerVolume (i : Nat) (mountFile : Path) : VolumeInfo :=
  { flatMount := some mountFile, parent := some i, additionalInfo := { bitlocker := some { mounted := true } } }

/-- `try_mount_bitlocker(volume_info, decrypt_args)`: `except Exception` catches
every failure, also one of the `unmount_bitlocker` in the `else` branch, and
unmounts the directory once more. -/
def tryMountBitlocker (i : Nat) (decryptArgs : List String) : M (Option VolumeInfo) := do
  let v ← volumeAt i
  let mountDir ← mkdtemp env
  tryCatch (do
      discard <| runProcess env (dislockerArgs v.flatMount (← get).disk.readonly decryptArgs mountDir)
      if env.isNtfs (← get).log (mountFileIn mountDir) then pure (some (bitlockerVolume i (mountFileIn mountDir)))
      else do
        discard <| unmountBitlocker env (.path mountDir)
        pure none)
    fun _ => do
      discard <| unmountBitlocker env (.path mountDir)
      pure none

/-- `fvek_file(mode, key)`: the mode, then the key padded to 512 bits, in a
temporary file removed when the `with` block is left. -/
def fvekFile {α : Type} (mode : BitLockerMode) (key : Bytes) (body : Path → M α) : M α :=
  withTemporaryFile env (fvekData mode key) body

/-- One turn of the loop of `find_correct_fvek`: whether `key` mounts the volume;
the mount is undone. -/
def tryFvek (i : Nat) (mode : BitLockerMode) (key : Bytes) : M Bool :=
  fvekFile env mode key fun f => do
    match ← tryMountBitlocker env i ["--fvek", f.toString] with
    | some mounted =>
      discard <| unmountBitlocker env (.volume mounted)
      pure true
    | none => pure false

/-- `find_correct_fvek`: no keys, or a `dislocker-metadata` that fails or names
no mode, give `None` (a failed search raises an `AttributeError` that the
`except Exception` catches). -/
def findCorrectFvek (i : Nat) : M (Option (BitLockerMode × Bytes)) := do
  let masterKeys := (← get).options.masterKeys
  if masterKeys.isEmpty then return none
  let mode ← tryCatch (do
      let metadata ← runProcess env ["dislocker-metadata", "-V", pathStr (← volumeAt i).flatMount]
      pure (searchEncryptionType metadata.toList))
    fun _ => pure none
  match mode with
  | some mode => return (← firstAccepted (tryFvek env i mode) masterKeys).map (mode, ·)
  | none => pure none

/-- `is_bitlocker(volume)`; `open(None)` raises `TypeError`. -/
def isBitlocker (i : Nat) : M Bool := do
  match (← volumeAt i).flatMount with
  | none => throw .typeError
  | some p => pure (env.isBitlocker (← get).log p)

/-- `BitLockerMountPlugin.mounted_volume`. -/
def bitLockerMountedVolume (i : Nat) : M Unit := do
  if ← isBitlocker env i then updateBitlockerInfo i fun b => {b with enabled := true}

/-- `BitLockerMountPlugin.mount`: the clear key first, then the key
`find_correct_fvek` finds, recorded on the volume before the volume is mounted
with it. -/
def bitLockerMount (i : Nat) : M (Option MountResult) := do
  if !bitlockerEnabled (← volumeAt i).additionalInfo then return none
  match ← tryMountBitlocker env i ["--clearkey"] with
  | some mounted =>
    updateBitlockerInfo i fun b => {b with clearkey := true}
    return some (.volume mounted)
  | none =>
    match ← findCorrectFvek env i with
    | some (mode, key) =>
      fvekFile env mode key fun f => do
        updateBitlockerInfo i fun b => {b with fvek := some (mode.value, key)}
        return (← tryMountBitlocker env i ["--fvek", f.toString]).map .volume
    | none => return none

/-- `BitLockerOverridePasswordPlugin.modify_volume`: `dislocker-pwreset` adds a
clear key and the password, with the key found. Nothing catches a failing
`dislocker-pwreset`. -/
def bitLockerModifyVolume (i : Nat) : M Unit := do
  if !bitlockerEnabled (← volumeAt i).additionalInfo then return
  match ← findCorrectFvek env i with
  | some (mode, key) =>
    fvekFile env mode key fun f => do
      discard <| runProcess env
        ["dislocker-pwreset", "--volume", pathStr (← volumeAt i).flatMount, "--fvek", f.toString, "-vvvvvvvv"]
      updateBitlockerInfo i fun b => {b with clearkey := true, password := some bitLockerNewPassword}
  | none => pure ()

/-- `BitLockerMountPlugin`. -/
def bitLockerMountPlugin : Plugin where
  mountedVolume := bitLockerMountedVolume env
  mount := bitLockerMount env
  unmountVolume i := do unmountBitlocker env (.volume (← volumeAt i))

/-- `BitLockerOverridePasswordPlugin`, a `BitLockerMountPlugin` that also adds a
clear key and a password. -/
def bitLockerOverridePasswordPlugin : Plugin :=
  {bitLockerMountPlugin env with modifyVolume := bitLockerModifyVolume env}

/-- The log after the directory is removed, when it is one. -/
def removeDirLog (log : List Event) (mountDir : Path) : List Event :=
  if env.isDir log mountDir then log ++ [.rmdir mountDir] else log

/-- At most ten failed `umount`s before one that succeeds: the mount point is
unmounted, with `k + 1` attempts and a sleep of 500 ms after each of the `k`
failures, and `unmount_bitlocker` answers `True`. -/
theorem unmountBitlocker_retries {mountPoint : MountPoint} {w : World} {mountFile : Path} {k : Nat}
    {out : String} (hfile : mountFileOf env w.log mountPoint = some mountFile)
    (hmount : env.isMount w.log mountFile.parent) (hk : k ≤ 10)
    (hfail : ∀ j < k, ∃ e, env.runProcess (retryLog (umountArgs mountFile.parent) 500 j w.log)
      (umountArgs mountFile.parent) = .error e)
    (hok : env.runProcess (retryLog (umountArgs mountFile.parent) 500 k w.log) (umountArgs mountFile.parent) = .ok out)
    (hrm : ∀ log, env.remove log mountFile.parent = .ok ()) :
    unmountBitlocker env mountPoint w =
      .ok true {w with
        log := removeDirLog env (retryLog (umountArgs mountFile.parent) 500 k w.log ++
          [.spawn (umountArgs mountFile.parent)]) mountFile.parent} := by
  simp only [unmountBitlocker, bind_apply, get_apply, hfile, hmount, if_true,
    retry_runProcess_ok env _ 500 hk hfail hok, removeDirLog]
  split <;> simp [bind_apply, rmdir, removePath, hrm]

/-- Eleven failed `umount`s: the last failure leaves `unmount_bitlocker`. -/
theorem unmountBitlocker_exhausted {mountPoint : MountPoint} {w : World} {mountFile : Path}
    {err : DiskVmError} (hfile : mountFileOf env w.log mountPoint = some mountFile)
    (hmount : env.isMount w.log mountFile.parent)
    (hfail : ∀ j < 10, ∃ e, env.runProcess (retryLog (umountArgs mountFile.parent) 500 j w.log)
      (umountArgs mountFile.parent) = .error e)
    (hlast : env.runProcess (retryLog (umountArgs mountFile.parent) 500 10 w.log)
      (umountArgs mountFile.parent) = .error err) :
    unmountBitlocker env mountPoint w =
      .error (.diskVm err) {w with
        log := retryLog (umountArgs mountFile.parent) 500 10 w.log ++
          [.spawn (umountArgs mountFile.parent)]} := by
  simp only [unmountBitlocker, bind_apply, get_apply, hfile, hmount, if_true,
    retry_runProcess_error env _ 500 hfail hlast]

/-! ### The key search -/

/-- A host on which `dislocker-fuse` mounts every volume, and the plaintext it
exposes starts with an NTFS signature exactly when the volume's clear key is set
(`clearKey`) or the FVEK file it is given holds bytes that unlock the volume
(`unlocks`); `dislocker-metadata` prints `metadata`, or fails where that is
`none`; `umount` succeeds; and temporary files can be removed. -/
structure BitLockerHost (clearKey : Option Path → Bool) (unlocks : Option Path → Bytes → Bool)
    (metadata : Option Path → Option String) : Prop where
  fuses : ∀ log source readonly decryptArgs mountDir,
    ∃ out, env.runProcess log (dislockerArgs source readonly decryptArgs mountDir) = .ok out
  clear : ∀ log source readonly mountDir,
    env.isNtfs (log ++ [.spawn (dislockerArgs source readonly ["--clearkey"] mountDir)]) (mountFileIn mountDir) =
      clearKey source
  fvek : ∀ log source readonly (f mountDir : Path),
    env.isNtfs (log ++ [.spawn (dislockerArgs source readonly ["--fvek", f.toString] mountDir)])
      (mountFileIn mountDir) = unlocks source ((lastWrite log f).getD [])
  reads : ∀ log source,
    (env.runProcess log ["dislocker-metadata", "-V", pathStr source]).toOption = metadata source
  umounts : ∀ log mountDir, ∃ out, env.runProcess log (umountArgs mountDir) = .ok out
  removes : ∀ log p, env.remove log p = .ok ()

/-- A host on which every BitLocker key works and `dislocker-metadata` reports
AES-XTS-128. -/
def xtsHost : Env where
  runProcess _ args :=
    .ok (if args.head? = some "dislocker-metadata" then "Encryption Type: AES-XTS-128 (0x8004)" else "")
  pathExists _ _ := true
  readPartitions _ _ := .ok {}
  sizeBlockdevice _ _ := .ok 0
  tempPath log := ⟨true, ["tmp", "tmp" ++ toString log.length]⟩
  remove _ _ := .ok ()
  isFileOrBlockDevice _ _ := true
  isDir _ _ := true
  isNtfs _ _ := true
  randomLetters _ := "abcdefghij"
  isMount _ _ := true

theorem bitLockerHost_xtsHost :
    BitLockerHost xtsHost (fun _ => true) (fun _ _ => true) fun _ => some "Encryption Type: AES-XTS-128 (0x8004)" where
  fuses _ _ _ _ _ := ⟨_, rfl⟩
  clear _ _ _ _ := rfl
  fvek _ _ _ _ _ := rfl
  reads _ _ := rfl
  umounts _ _ := ⟨_, rfl⟩
  removes _ _ := rfl

/-- An image of one partition, recognised as BitLocker, and two candidate keys. -/
def bitlockerImage : World where
  disk :=
    { readonly        := true
      flatMountedDisk := ⟨true, ["tmp", "disk"]⟩
      diskInfo        := {}
      volumes         :=
        [{ flatMount := some ⟨true, ["dev", "loop0"]⟩, additionalInfo := { bitlocker := some { enabled := true } } }] }
  options := { masterKeys := [[1], [2]] }

/-- The answer `find_correct_fvek` is meant to give, where `dislocker-metadata`
printed `metadata` and `unlocks` tells the FVEK files that unlock the volume:
with keys, and a cipher mode named in the metadata, the first key whose file
unlocks the volume, with that mode. -/
def chosenFvek (unlocks : Bytes → Bool) (metadata : Option String) (keys : List Bytes) :
    Option (BitLockerMode × Bytes) :=
  if keys.isEmpty then none
  else (metadata.bind fun m => searchEncryptionType m.toList).bind fun mode =>
    (keys.find? fun key => unlocks (fvekData mode key)).map (mode, ·)

/-- What `BitLockerMountPlugin.mount` records on the volume: the clear key when it
mounted the volume, else the mode and key `find_correct_fvek` found. -/
def mountRecord (clearKey : Bool) (found : Option (BitLockerMode × Bytes)) : VolumeInfo → VolumeInfo :=
  if clearKey then withBitlockerInfo fun b => {b with clearkey := true}
  else match found with
    | some (mode, key) => withBitlockerInfo fun b => {b with fvek := some (mode.value, key)}
    | none => id

/-- A key `chosenFvek` settles on unlocks the volume in the mode it comes with. -/
theorem unlocks_of_chosenFvek {unlocks : Bytes → Bool} {metadata : Option String} {keys : List Bytes}
    {mode : BitLockerMode} {key : Bytes} (h : chosenFvek unlocks metadata keys = some (mode, key)) :
    unlocks (fvekData mode key) = true := by
  unfold chosenFvek at h
  split_ifs at h
  obtain ⟨mode', -, hfind⟩ := Option.bind_eq_some.mp h
  obtain ⟨key', hkey, hpair⟩ := Option.map_eq_some'.mp hfind
  cases hpair
  have hp := List.find?_some hkey
  exact hp

section Search
variable {env} {clearKey : Option Path → Bool} {unlocks : Option Path → Bytes → Bool}
  {metadata : Option Path → Option String} (h : BitLockerHost env clearKey unlocks metadata)
include h

/-- `unmount_bitlocker` returns, whatever it is given, and only logs. -/
theorem unmountBitlocker_ok (mountPoint : MountPoint) (w : World) :
    ∃ b log', unmountBitlocker env mountPoint w = .ok b {w with log := log'} := by
  cases hfile : mountFileOf env w.log mountPoint with
  | none => exact ⟨false, w.log, by simp [unmountBitlocker, bind_apply, hfile]⟩
  | some mountFile =>
    by_cases hm : env.isMount w.log mountFile.parent
    · obtain ⟨out, hout⟩ := h.umounts w.log mountFile.parent
      simp only [unmountBitlocker, bind_apply, get_apply, hfile, hm, if_true,
        retry_runProcess_ok env _ 500 (k := 0) (Nat.zero_le _) (fun _ hj => absurd hj (Nat.not_lt_zero _)) hout]
      split <;> simp [bind_apply, rmdir, removePath, h.removes]
    · simp only [unmountBitlocker, bind_apply, get_apply, hfile, hm, Bool.false_eq_true, if_false, pure_apply]
      split
      · simp [bind_apply, rmdir, removePath, h.removes]
      · exact ⟨true, w.log, rfl⟩

/-- `try_mount_bitlocker` on the volume at `i`: the `dislocker-file` in a fresh
directory when its plaintext is NTFS once `dislocker-fuse` ran with
`decryptArgs`, `None` otherwise; only the log changes. -/
theorem tryMountBitlocker_eq {i : Nat} {v : VolumeInfo} {w : World} (hv : w.disk.volumes[i]? = some v)
    (decryptArgs : List String) :
    ∃ log', tryMountBitlocker env i decryptArgs w =
      .ok (if env.isNtfs (w.log ++ [.mkdtemp (env.tempPath w.log),
          .spawn (dislockerArgs v.flatMount w.disk.readonly decryptArgs (env.tempPath w.log))])
          (mountFileIn (env.tempPath w.log)) then
        some (bitlockerVolume i (mountFileIn (env.tempPath w.log))) else none) {w with log := log'} := by
  obtain ⟨out, hout⟩ := h.fuses (w.log ++ [.mkdtemp (env.tempPath w.log)]) v.flatMount w.disk.readonly decryptArgs
    (env.tempPath w.log)
  simp only [tryMountBitlocker, bind_apply, volumeAt_apply hv, mkdtemp, makeTemp, tryCatch_apply, get_apply,
    discard_apply, runProcess, hout]
  by_cases hn : env.isNtfs (w.log ++ [.mkdtemp (env.tempPath w.log),
      .spawn (dislockerArgs v.flatMount w.disk.readonly decryptArgs (env.tempPath w.log))])
      (mountFileIn (env.tempPath w.log))
  · simp only [hn, if_true, pure_apply, List.append_assoc, List.singleton_append]
    exact ⟨_, rfl⟩
  · obtain ⟨b, log', hu⟩ := unmountBitlocker_ok h (.path (env.tempPath w.log))
      {w with log := w.log ++ [.mkdtemp (env.tempPath w.log),
        .spawn (dislockerArgs v.flatMount w.disk.readonly decryptArgs (env.tempPath w.log))]}
    simp only [hn, Bool.false_eq_true, if_false, List.append_assoc, List.singleton_append, bind_apply,
      discard_apply, hu, pure_apply]
    exact ⟨_, rfl⟩

/-- One turn of the search answers whether the FVEK file of `key` unlocks the
volume; only the log changes. -/
theorem tryFvek_eq {i : Nat} {v : VolumeInfo} {w : World} (hv : w.disk.volumes[i]? = some v)
    (mode : BitLockerMode) (key : Bytes) :
    ∃ log', tryFvek env i mode key w = .ok (unlocks v.flatMount (fvekData mode key)) {w with log := log'} := by
  let f := env.tempPath w.log
  let w₁ : World := {w with log := w.log ++ [.mkstemp f, .write f (fvekData mode key)]}
  have hntfs := h.fvek (w₁.log ++ [.mkdtemp (env.tempPath w₁.log)]) v.flatMount w₁.disk.readonly f
    (env.tempPath w₁.log)
  rw [lastWrite_append_mkdtemp, lastWrite_append_mkstemp_write, Option.getD_some, List.append_assoc,
    List.singleton_append] at hntfs
  obtain ⟨log₂, ht⟩ := tryMountBitlocker_eq h (w := w₁) hv ["--fvek", f.toString]
  rw [hntfs] at ht
  unfold tryFvek fvekFile
  cases hu : unlocks v.flatMount (fvekData mode key)
  · rw [hu] at ht
    rw [withTemporaryFile_ok h.removes (u := {w₁ with log := log₂}) (a := false) (by rw [bind_apply, ht]; rfl)]
    exact ⟨_, rfl⟩
  · rw [hu, if_pos rfl] at ht
    obtain ⟨b, log₃, hm⟩ := unmountBitlocker_ok h (.volume (bitlockerVolume i (mountFileIn (env.tempPath w₁.log))))
      {w₁ with log := log₂}
    rw [withTemporaryFile_ok h.removes (u := {w₁ with log := log₃}) (a := true)
      (by rw [bind_apply, ht]; dsimp only; rw [bind_apply, discard_apply, hm]; rfl)]
    exact ⟨_, rfl⟩

/-- `find_correct_fvek` returns `chosenFvek`; only the log changes. -/
theorem findCorrectFvek_eq {i : Nat} {v : VolumeInfo} {w : World} (hv : w.disk.volumes[i]? = some v) :
    ∃ log', findCorrectFvek env i w =
      .ok (chosenFvek (unlocks v.flatMount) (metadata v.flatMount) w.options.masterKeys) {w with log := log'} := by
  have hread := h.reads w.log v.flatMount
  simp only [findCorrectFvek, chosenFvek, bind_apply, get_apply]
  by_cases hk : w.options.masterKeys.isEmpty
  · simp only [hk, if_true, pure_apply]
    exact ⟨w.log, rfl⟩
  · simp only [hk, Bool.false_eq_true, if_false, bind_apply, pure_apply, tryCatch_apply, volumeAt_apply hv,
      runProcess]
    cases hm : env.runProcess w.log ["dislocker-metadata", "-V", pathStr v.flatMount] with
    | error e =>
      rw [hm] at hread
      simp only [Except.toOption] at hread
      simp only [← hread, pure_apply, Option.none_bind]
      exact ⟨_, rfl⟩
    | ok m =>
      rw [hm] at hread
      simp only [Except.toOption] at hread
      simp only [← hread, pure_apply, Option.some_bind]
      cases searchEncryptionType m.toList with
      | none => exact ⟨_, rfl⟩
      | some mode =>
        obtain ⟨w', hfirst, log', rfl⟩ := firstAccepted_eq (R := fun w w' => ∃ log', w' = {w with log := log'})
          (P := fun w => w.disk.volumes[i]? = some v) (fun w => ⟨w.log, rfl⟩)
          (fun ⟨_, h₁⟩ ⟨_, h₂⟩ => by subst h₁ h₂; exact ⟨_, rfl⟩) (fun hw ⟨_, hr⟩ => by subst hr; exact hw)
          (fun key _ hw => (tryFvek_eq h hw mode key).elim fun _ hk => ⟨_, hk, _, rfl⟩) w.options.masterKeys
          {w with log := w.log ++ [.spawn ["dislocker-metadata", "-V", pathStr v.flatMount]]} hv
        simp only [bind_apply, hfirst, pure_apply]
        exact ⟨_, rfl⟩

end Search

section Mount
variable {env} {clearKey : Option Path → Bool} {unlocks : Option Path → Bytes → Bool}
  {metadata : Option Path → Option String} (h : BitLockerHost env clearKey unlocks metadata)
include h

/-- `mount` on a BitLocker volume: the clear key first, in a directory made from
the log it starts with; failing that, the key `find_correct_fvek` finds, recorded
before the volume is mounted with it in a directory made once its FVEK file is
written. The answer is the `dislocker-file` of that mount when either works, and
the disk changes only by recording which of the two was used. -/
theorem bitLockerMount_unlocks {i : Nat} {v : VolumeInfo} {w : World} (hv : w.disk.volumes[i]? = some v)
    (henabled : bitlockerEnabled v.additionalInfo = true) :
    ∃ log₁ log₂ w', tryMountBitlocker env i ["--clearkey"] w =
        .ok (if clearKey v.flatMount then some (bitlockerVolume i (mountFileIn (env.tempPath w.log))) else none)
          {w with log := log₁} ∧
      findCorrectFvek env i {w with log := log₁} =
        .ok (chosenFvek (unlocks v.flatMount) (metadata v.flatMount) w.options.masterKeys) {w with log := log₂} ∧
      bitLockerMount env i w =
        .ok (if clearKey v.flatMount then some (.volume (bitlockerVolume i (mountFileIn (env.tempPath w.log))))
          else (chosenFvek (unlocks v.flatMount) (metadata v.flatMount) w.options.masterKeys).map fun found =>
            .volume (bitlockerVolume i (mountFileIn (env.tempPath (log₂ ++
              [.mkstemp (env.tempPath log₂), .write (env.tempPath log₂) (fvekData found.1 found.2)]))))) w' ∧
      w'.disk = {w.disk with volumes := w.disk.volumes.modify (mountRecord (clearKey v.flatMount)
        (chosenFvek (unlocks v.flatMount) (metadata v.flatMount) w.options.masterKeys)) i} := by
  have hclear := h.clear (w.log ++ [.mkdtemp (env.tempPath w.log)]) v.flatMount w.disk.readonly
    (env.tempPath w.log)
  rw [List.append_assoc, List.singleton_append] at hclear
  obtain ⟨log₁, ht⟩ := tryMountBitlocker_eq h hv ["--clearkey"]
  rw [hclear] at ht
  obtain ⟨log₂, hf⟩ := findCorrectFvek_eq h (w := {w with log := log₁}) hv
  refine ⟨log₁, log₂, ?_⟩
  simp only [bitLockerMount, bind_apply, volumeAt_apply hv, henabled, Bool.not_true, Bool.false_eq_true,
    if_false, pure_apply, ht, hf, true_and]
  cases hc : clearKey v.flatMount
  · simp only [if_false, Bool.false_eq_true, mountRecord, bind_apply, hf]
    cases hfound : chosenFvek (unlocks v.flatMount) (metadata v.flatMount) w.options.masterKeys with
    | none => exact ⟨_, rfl, by simp⟩
    | some found =>
      obtain ⟨mode, key⟩ := found
      let f := env.tempPath log₂
      let record := withBitlockerInfo fun b => {b with fvek := some (mode.value, key)}
      let w₃ : World := {w with
        log := log₂ ++ [.mkstemp f, .write f (fvekData mode key)]
        disk := {w.disk with volumes := w.disk.volumes.modify record i}}
      have hv₃ : w₃.disk.volumes[i]? = some (record v) := by simp [w₃, List.getElem?_modify, hv]
      have hntfs := h.fvek (w₃.log ++ [.mkdtemp (env.tempPath w₃.log)]) v.flatMount w₃.disk.readonly f
        (env.tempPath w₃.log)
      rw [lastWrite_append_mkdtemp, lastWrite_append_mkstemp_write, Option.getD_some,
        unlocks_of_chosenFvek hfound, List.append_assoc, List.singleton_append] at hntfs
      obtain ⟨log₃, ht₃⟩ := tryMountBitlocker_eq h (w := w₃) hv₃ ["--fvek", f.toString]
      rw [show (record v).flatMount = v.flatMount from rfl, hntfs, if_pos rfl] at ht₃
      refine ⟨{w₃ with log := log₃ ++ [.unlink f]}, ?_, rfl⟩
      dsimp only
      rw [fvekFile, withTemporaryFile_ok h.removes (u := {w₃ with log := log₃})
        (by simp only [bind_apply, updateBitlockerInfo, updateVolume_apply]; erw [ht₃]; rfl)]
      rfl
  · simp only [if_true, updateBitlockerInfo, updateVolume_apply, pure_apply, mountRecord]
    exact ⟨_, rfl, rfl⟩

end Mount

theorem bitlockerImage_mounted :
    ∃ log₁ log₂ w', tryMountBitlocker xtsHost 0 ["--clearkey"] bitlockerImage =
        .ok (some (bitlockerVolume 0 (mountFileIn (xtsHost.tempPath [])))) {bitlockerImage with log := log₁} ∧
      findCorrectFvek xtsHost 0 {bitlockerImage with log := log₁} =
        .ok (some (.aes128Xts, [1])) {bitlockerImage with log := log₂} ∧
      bitLockerMount xtsHost 0 bitlockerImage =
        .ok (some (.volume (bitlockerVolume 0 (mountFileIn (xtsHost.tempPath []))))) w' ∧
      w'.disk = {bitlockerImage.disk with
        volumes := bitlockerImage.disk.volumes.modify (withBitlockerInfo fun b => {b with clearkey := true}) 0} :=
  bitLockerMount_unlocks (i := 0) (w := bitlockerImage) bitLockerHost_xtsHost rfl rfl

/-- The log `BitLockerOverridePasswordPlugin.modify_volume` leaves when the search
left `log` and found `key` in `mode`: the FVEK file created and written,
`dislocker-pwreset` run on it, and the file removed. -/
def pwresetLog (env : Env) (log : List Event) (source : Option Path) (mode : BitLockerMode) (key : Bytes) :
    List Event :=
  log ++ [.mkstemp (env.tempPath log), .write (env.tempPath log) (fvekData mode key),
    .spawn ["dislocker-pwreset", "--volume", pathStr source, "--fvek", (env.tempPath log).toString, "-vvvvvvvv"],
    .unlink (env.tempPath log)]

section Reset
variable {env} {clearKey : Option Path → Bool} {unlocks : Option Path → Bytes → Bool}
  {metadata : Option Path → Option String} (h : BitLockerHost env clearKey unlocks metadata)
include h

/-- `modify_volume` on a BitLocker volume: once `find_correct_fvek` has settled,
`dislocker-pwreset`, whose outcome `reset` depends on the FVEK file it is
handed, is handed the file of the key found, which is then removed
(`pwresetLog`). When it succeeds the volume records the clear key and the new
password; when it fails its error is raised with the volume unrecorded; without
a key nothing happens after the search. -/
theorem bitLockerModifyVolume_resets {i : Nat} {v : VolumeInfo} {w : World} (hv : w.disk.volumes[i]? = some v)
    (henabled : bitlockerEnabled v.additionalInfo = true) (reset : Bytes → Except DiskVmError String)
    (hreset : ∀ log (f : Path), env.runProcess log
      ["dislocker-pwreset", "--volume", pathStr v.flatMount, "--fvek", f.toString, "-vvvvvvvv"] =
        reset ((lastWrite log f).getD [])) :
    ∃ log₁, findCorrectFvek env i w =
        .ok (chosenFvek (unlocks v.flatMount) (metadata v.flatMount) w.options.masterKeys) {w with log := log₁} ∧
      bitLockerModifyVolume env i w =
        match chosenFvek (unlocks v.flatMount) (metadata v.flatMount) w.options.masterKeys with
        | some (mode, key) =>
          match reset (fvekData mode key) with
          | .ok _ => .ok () {w with
              log := pwresetLog env log₁ v.flatMount mode key
              disk := {w.disk with
                volumes := w.disk.volumes.modify
                  (withBitlockerInfo fun b => {b with clearkey := true, password := some bitLockerNewPassword}) i}}
          | .error e => .error (.diskVm e) {w with log := pwresetLog env log₁ v.flatMount mode key}
        | none => .ok () {w with log := log₁} := by
  obtain ⟨log₁, hf⟩ := findCorrectFvek_eq h hv
  refine ⟨log₁, hf, ?_⟩
  simp only [bitLockerModifyVolume, bind_apply, volumeAt_apply hv, henabled, Bool.not_true, Bool.false_eq_true,
    if_false, pure_apply, hf]
  cases chosenFvek (unlocks v.flatMount) (metadata v.flatMount) w.options.masterKeys with
  | none => rfl
  | some found =>
    obtain ⟨mode, key⟩ := found
    have hr := hreset (log₁ ++ [.mkstemp (env.tempPath log₁), .write (env.tempPath log₁) (fvekData mode key)])
      (env.tempPath log₁)
    rw [lastWrite_append_mkstemp_write, Option.getD_some] at hr
    dsimp only
    simp only [fvekFile, withTemporaryFile, withFinally, mkstemp, makeTemp, bind_apply, tryCatch_apply, emit_apply,
      List.append_assoc, List.singleton_append, volumeAt, get_apply, pure_apply, hv, Option.getD_some,
      discard_apply, runProcess, hr]
    cases reset (fvekData mode key) with
    | ok out =>
      simp only [updateBitlockerInfo, updateVolume_apply, unlink, removePath, h.removes, pure_apply, pwresetLog,
        List.append_assoc, List.cons_append, List.nil_append]
    | error e =>
      simp only [unlink, removePath, h.removes, bind_apply, throw_apply, pwresetLog, List.append_assoc,
        List.cons_append, List.nil_append]

end Reset

theorem bitlockerImage_password_reset :
    ∃ log₁, findCorrectFvek xtsHost 0 bitlockerImage = .ok (some (.aes128Xts, [1])) {bitlockerImage with log := log₁} ∧
      bitLockerModifyVolume xtsHost 0 bitlockerImage = .ok () {bitlockerImage with
        log := pwresetLog xtsHost log₁ (some ⟨true, ["dev", "loop0"]⟩) .aes128Xts [1]
        disk := {bitlockerImage.disk with
          volumes := bitlockerImage.disk.volumes.modify
            (withBitlockerInfo fun b => {b with clearkey := true, password := some bitLockerNewPassword}) 0}} :=
  bitLockerModifyVolume_resets (i := 0) (w := bitlockerImage) bitLockerHost_xtsHost rfl rfl (fun _ => .ok "")
    fun _ _ => rfl

/-! ### No key file is left behind -/

section Tidy
variable {env}

theorem unmountBitlocker_tidy (mountPoint : MountPoint) : Tidy (unmountBitlocker env mountPoint) := by
  refine Tidy.bind Tidy.get fun w => ?_
  split
  · exact Tidy.pure _
  · rename_i mountFile _
    have hdir : Tidy (do
        if env.isDir (← get).log mountFile.parent then rmdir env mountFile.parent
        pure true) := by
      refine Tidy.bind Tidy.get fun _ => ?_
      split
      · exact Tidy.bind (Tidy.rmdir env _) fun _ => Tidy.pure _
      · exact Tidy.bind (Tidy.pure _) fun _ => Tidy.pure _
    refine Tidy.bind Tidy.get fun _ => ?_
    dsimp only
    split
    · exact Tidy.bind (Tidy.retry (Tidy.discard (Tidy.runProcess env _))) fun _ => hdir
    · exact Tidy.bind (Tidy.pure _) fun _ => hdir

theorem tryMountBitlocker_tidy (i : Nat) (decryptArgs : List String) :
    Tidy (tryMountBitlocker env i decryptArgs) := by
  have hundo : ∀ p : Path, Tidy (do discard <| unmountBitlocker env (.path p); pure (none : Option VolumeInfo)) :=
    fun _ => Tidy.bind (Tidy.discard (unmountBitlocker_tidy _)) fun _ => Tidy.pure _
  refine Tidy.bind (volumeAt_tidy i) fun v => Tidy.bind (Tidy.mkdtemp env) fun mountDir =>
    Tidy.tryCatch ?_ fun _ => hundo mountDir
  refine Tidy.bind Tidy.get fun _ => Tidy.bind (Tidy.discard (Tidy.runProcess env _)) fun _ =>
    Tidy.bind Tidy.get fun _ => ?_
  split
  · exact Tidy.pure _
  · exact hundo mountDir

variable (hrm : ∀ log p, env.remove log p = .ok ())
include hrm

/-- The key file is removed when the block is left, returned or raised. -/
theorem fvekFile_tidy {α : Type} {mode : BitLockerMode} {key : Bytes} {body : Path → M α}
    (hbody : ∀ p, Tidy (body p)) : Tidy (fvekFile env mode key body) :=
  withTemporaryFile_tidy hrm hbody

theorem tryFvek_tidy (i : Nat) (mode : BitLockerMode) (key : Bytes) : Tidy (tryFvek env i mode key) :=
  fvekFile_tidy hrm fun _ => Tidy.bind (tryMountBitlocker_tidy i _) fun r => by
    rcases r with _ | mounted
    · exact Tidy.pure _
    · exact Tidy.bind (Tidy.discard (unmountBitlocker_tidy _)) fun _ => Tidy.pure _

theorem findCorrectFvek_tidy (i : Nat) : Tidy (findCorrectFvek env i) := by
  refine Tidy.bind Tidy.get fun _ => ?_
  dsimp only
  split
  · exact Tidy.pure _
  · refine Tidy.bind (Tidy.pure _) fun _ => Tidy.bind (Tidy.tryCatch (Tidy.bind (volumeAt_tidy i) fun _ =>
      Tidy.bind (Tidy.runProcess env _) fun _ => Tidy.pure _) fun _ => Tidy.pure _) fun mode => ?_
    rcases mode with _ | mode
    · exact Tidy.pure _
    · exact Tidy.bind (firstAccepted_tidy (tryFvek_tidy hrm i mode) _) fun _ => Tidy.pure _

/-- `BitLockerOverridePasswordPlugin` removes every key file it writes, also when
`dislocker` or `dislocker-pwreset` fails. -/
theorem bitLockerOverridePasswordPlugin_tidyHooks : TidyHooks (bitLockerOverridePasswordPlugin env) where
  mountedDisk := Tidy.pure _
  modifyDisk := Tidy.pure _
  mount i := by
    refine Tidy.bind (volumeAt_tidy i) fun v => ?_
    split
    · exact Tidy.pure _
    · refine Tidy.bind (Tidy.pure _) fun _ => Tidy.bind (tryMountBitlocker_tidy i _) fun r => ?_
      rcases r with _ | mounted
      · refine Tidy.bind (findCorrectFvek_tidy hrm i) fun r => ?_
        rcases r with _ | ⟨mode, key⟩
        · exact Tidy.pure _
        · exact fvekFile_tidy hrm fun _ => Tidy.bind (Tidy.updateVolume _ _) fun _ =>
            Tidy.bind (tryMountBitlocker_tidy i _) fun _ => Tidy.pure _
      · exact Tidy.bind (Tidy.updateVolume _ _) fun _ => Tidy.pure _
  mountedVolume i := by
    refine Tidy.bind (Tidy.bind (volumeAt_tidy i) fun v => ?_) fun b => ?_
    · split
      · exact Tidy.throw _
      · exact Tidy.bind Tidy.get fun _ => Tidy.pure _
    · split
      exacts [Tidy.updateVolume _ _, Tidy.pure _]
  modifyVolume i := by
    refine Tidy.bind (volumeAt_tidy i) fun v => ?_
    split
    · exact Tidy.pure _
    · refine Tidy.bind (Tidy.pure _) fun _ => Tidy.bind (findCorrectFvek_tidy hrm i) fun r => ?_
      rcases r with _ | ⟨mode, key⟩
      · exact Tidy.pure _
      · exact fvekFile_tidy hrm fun _ => Tidy.bind (volumeAt_tidy i) fun _ =>
          Tidy.bind (Tidy.discard (Tidy.runProcess env _)) fun _ => Tidy.updateVolume _ _
  mountedFilesystem _ := Tidy.pure _
  modifyFilesystem _ := Tidy.pure _
  unmountFilesystem _ := Tidy.pure _
  unmountVolume i := Tidy.bind (volumeAt_tidy i) fun _ => unmountBitlocker_tidy _

theorem bitLockerMountPlugin_tidyHooks : TidyHooks (bitLockerMountPlugin env) :=
  {bitLockerOverridePasswordPlugin_tidyHooks hrm with modifyVolume := fun _ => Tidy.pure _}

end Tidy

end BitLocker

end DiskVm
