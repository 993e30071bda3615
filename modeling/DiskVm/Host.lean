import DiskVm.Data
import DiskVm.Vm.Base

/-! The host the pipeline runs against.

The pipeline's effects on the host are spawned tools, temporary files and
directories, and queries of the filesystem. An `Env` answers every query and
every spawn, given the record of what happened before (`log`), so an answer may
change over the run (a device busy once and free the next time). The `log` is
the debug log the code writes: one `dispatch` per `Calling {name} with {kwargs}`
line, one `spawn` per `run_process`, and the temporary paths created and removed.

The state is a `World`: the disk being analysed and what the plugins share
through the context. `M` is `EStateM`, so what was written before an exception
stays written, as with Python's in-place updates. -/
namespace DiskVm

/-- The eleven plugin hooks. -/
inductive HookName where
  | mountedDisk
  | mountedVolume
  | mount
  | mountedFilesystem
  | beforeCreateDisk
  | beforeCreateVm
  | modifyDisk
  | modifyVolume
  | modifyFilesystem
  | unmountFilesystem
  | unmountVolume
deriving DecidableEq, Repr

inductive Event where
  /-- A dispatch of a hook, on the volume at an index or on the disk. -/
  | dispatch (hook : HookName) (volume : Option Nat)
  | spawn (args : List String)
  | mkdtemp (p : Path)
  | mkstemp (p : Path)
  | rmdir (p : Path)
  | unlink (p : Path)
  /-- Bytes written to a file. -/
  | write (p : Path) (data : Bytes)
  /-- `time.sleep`, in milliseconds. -/
  | sleep (ms : Nat)
deriving DecidableEq, Repr

def Event.isDispatch : Event → Bool
  | .dispatch _ _ => true
  | _ => false

/-- The bytes last written to `p` in the log: what a tool that reads the file
finds there. -/
def lastWrite (log : List Event) (p : Path) : Option Bytes :=
  log.reverse.findSome? fun
    | .write q data => if q = p then some data else none
    | _ => none

@[simp] theorem lastWrite_append_write (log : List Event) (p : Path) (data : Bytes) :
    lastWrite (log ++ [.write p data]) p = some data := by
  simp [lastWrite]

/-- A file just created and written holds what was written. -/
@[simp] theorem lastWrite_append_mkstemp_write (log : List Event) (p : Path) (data : Bytes) :
    lastWrite (log ++ [.mkstemp p, .write p data]) p = some data := by
  simp [lastWrite]

/-- Creating and writing another file leaves `p` as it was. -/
theorem lastWrite_append_mkstemp_write_of_ne (log : List Event) {p q : Path} (data : Bytes) (h : q ≠ p) :
    lastWrite (log ++ [.mkstemp q, .write q data]) p = lastWrite log p := by
  simp [lastWrite, h]

/-- Creating a directory writes no file. -/
@[simp] theorem lastWrite_append_mkdtemp (log : List Event) (p d : Path) :
    lastWrite (log ++ [.mkdtemp d]) p = lastWrite log p := by
  simp [lastWrite]

/-- The host's answers, given the log so far. -/
structure Env where
  /-- A tool's stdout, or the `DiskVmError(args, stderr)` of a non-zero exit. -/
  runProcess : List Event → List String → Except DiskVmError String
  /-- `Path.exists()`. -/
  pathExists : List Event → Path → Bool
  /-- `get_disk_partitions_info` on the opened path. -/
  readPartitions : List Event → Path → Except Exception DiskPartitionsInfo
  /-- `size_blockdevice`: opening and seeking to the end. -/
  sizeBlockdevice : List Event → Path → Except Exception Int
  /-- The fresh name `mkstemp` and `mkdtemp` pick. -/
  tempPath : List Event → Path
  /-- `unlink` and `rmdir`: an `OSError` when the path cannot be removed. -/
  remove : List Event → Path → Except Exception Unit
  /-- `is_file() or is_block_device()`. -/
  isFileOrBlockDevice : List Event → Path → Bool
  /-- `is_dir()`. -/
  isDir : List Event → Path → Bool
  /-- `utils.is_ntfs`: the NTFS signature at the start of the device. -/
  isNtfs : List Event → Path → Bool
  /-- `random.choices(string.ascii_letters, k=10)`, joined. -/
  randomLetters : List Event → String
  /-- `is_mount()`. -/
  isMount : List Event → Path → Bool := fun _ _ => false
  /-- `is_file()`. -/
  isFile : List Event → Path → Bool := fun _ _ => false
  /-- `bitlocker.is_bitlocker`: the signature `-FVE-FS-` after the boot code. -/
  isBitlocker : List Event → Path → Bool := fun _ _ => false

/-- An exit held by an `ExitStack`: what a context manager's `finally` releases. -/
inductive Release where
  /-- `mount_disk_image`'s: the bind mount on the temporary file `mountPoint`. -/
  | imageMount (mountPoint : Path)
  /-- `mount_partitions_and_filesystems`'s, on the disk being analysed. -/
  | partitions
  /-- The same, on a disk whose analysis has ended, kept mounted. -/
  | partitionsOf (disk : DiskInfo)
deriving Repr

structure World where
  disk : DiskInfo
  options : DiskVmCreatorOptions := {}
  info : ContextInfo := {}
  /-- `ctx.vm_builder`. -/
  vmBuilder : Vm.VirtualMachineBuilder := { name := "" }
  /-- The disk builder of the disk being analysed. -/
  diskBuilder : Vm.VirtualDiskBuilder := { name := "" }
  /-- `ctx.mount_contexts`, last entered first. -/
  mountContexts : List Release := []
  log : List Event := []

abbrev M := EStateM Exception World

/-- The world a computation ends in, returned or raised. -/
def worldOf {α : Type} : EStateM.Result Exception World α → World
  | .ok _ w => w
  | .error _ w => w

section Host
variable (env : Env)

def emit (e : Event) : M Unit :=
  modify fun w => {w with log := w.log ++ [e]}

/-- `run_process(args)`. -/
def runProcess (args : List String) : M String := fun w =>
  let w' := {w with log := w.log ++ [.spawn args]}
  match env.runProcess w.log args with
  | .ok out => .ok out w'
  | .error e => .error (.diskVm e) w'

/-- `size_blockdevice(path)`; `open(None)` raises `TypeError`. -/
def sizeBlockdevice : Option Path → M Int
  | none => throw .typeError
  | some p => fun w =>
    match env.sizeBlockdevice w.log p with
    | .ok s => .ok s w
    | .error e => .error e w

/-- A fresh temporary path, recorded as `event` (`mkstemp`, its descriptor closed
at once, or `mkdtemp`). -/
def makeTemp (event : Path → Event) : M Path := fun w =>
  let p := env.tempPath w.log
  .ok p {w with log := w.log ++ [event p]}

def mkstemp : M Path := makeTemp env .mkstemp

def mkdtemp : M Path := makeTemp env .mkdtemp

/-- Removing `p`, recorded as `event` (`unlink` or `rmdir`); an `OSError` leaves
the log as it was. -/
def removePath (event : Path → Event) (p : Path) : M Unit := fun w =>
  match env.remove w.log p with
  | .ok () => .ok () {w with log := w.log ++ [event p]}
  | .error e => .error e w

def unlink (p : Path) : M Unit := removePath env .unlink p

def rmdir (p : Path) : M Unit := removePath env .rmdir p

end Host

def updateVolume (i : Nat) (f : VolumeInfo → VolumeInfo) : M Unit :=
  modify fun w => {w with disk := {w.disk with volumes := w.disk.volumes.modify f i}}

/-- `disk_info.volumes.append(v)`, returning the new volume's index. -/
def appendVolume (v : VolumeInfo) : M Nat := fun w =>
  .ok w.disk.volumes.length {w with disk := {w.disk with volumes := w.disk.volumes ++ [v]}}

/-- `try: x finally: fin`: `fin` runs after `x` returns or raises, and an
exception of `fin` replaces the one of `x`. -/
def withFinally {α : Type} (x : M α) (fin : M Unit) : M α := do
  let a ← tryCatch x fun e => do fin; throw e
  fin
  pure a

/-- `retry(num, sleep)(func)()` (`utils.py`): `func` is called until it returns,
`num + 1` times at most, with a sleep of `ms` after every failure but the last,
whose exception passes. -/
def retry {α : Type} (num ms : Nat) (func : M α) : M α :=
  match num with
  | 0 => func
  | n + 1 => tryCatch func fun _ => do
    emit (.sleep ms)
    retry n ms func

/-! ### Running a step -/

theorem bind_apply {α β : Type} (x : M α) (f : α → M β) (w : World) :
    (x >>= f) w = match x w with
      | .ok a w' => f a w'
      | .error e w' => .error e w' := by
  show EStateM.bind x f w = _
  unfold EStateM.bind
  cases x w <;> rfl

theorem tryCatch_apply {α : Type} (x : M α) (h : Exception → M α) (w : World) :
    (tryCatch x h : M α) w = match x w with
      | .ok a w' => .ok a w'
      | .error e w' => h e w' := by
  show EStateM.tryCatch x h w = _
  unfold EStateM.tryCatch
  cases x w <;> rfl

theorem discard_apply {α : Type} (x : M α) (w : World) :
    (discard x : M PUnit) w = match x w with
      | .ok _ w' => .ok () w'
      | .error e w' => .error e w' := by
  show EStateM.map _ x w = _
  unfold EStateM.map
  cases x w <;> rfl

theorem map_apply {α β : Type} (f : α → β) (x : M α) (w : World) :
    (f <$> x) w = match x w with
      | .ok a w' => .ok (f a) w'
      | .error e w' => .error e w' := by
  show EStateM.map f x w = _
  unfold EStateM.map
  cases x w <;> rfl

@[simp] theorem get_apply (w : World) : (get : M World) w = .ok w w := rfl

@[simp] theorem pure_apply {α : Type} (a : α) (w : World) : (pure a : M α) w = .ok a w := rfl

@[simp] theorem throw_apply {α : Type} (e : Exception) (w : World) :
    (throw e : M α) w = .error e w := rfl

@[simp] theorem emit_apply (e : Event) (w : World) :
    emit e w = .ok () {w with log := w.log ++ [e]} := rfl

@[simp] theorem updateVolume_apply (i : Nat) (f : VolumeInfo → VolumeInfo) (w : World) :
    updateVolume i f w =
      .ok () {w with disk := {w.disk with volumes := w.disk.volumes.modify f i}} := rfl

@[simp] theorem worldOf_discard {α : Type} (x : M α) (w : World) :
    worldOf ((discard x : M PUnit) w) = worldOf (x w) := by
  rw [discard_apply]
  cases x w <;> rfl

@[simp] theorem runProcess_log (env : Env) (args : List String) (w : World) :
    (worldOf (runProcess env args w)).log = w.log ++ [.spawn args] := by
  simp only [runProcess]
  split <;> rfl

/-! ### Retrying a tool -/

section Retry
variable (env : Env) (args : List String) (ms : Nat)

/-- The log after `j` failed attempts of `retry` on the tool `args`: a spawn and
a sleep each. -/
def retryLog : Nat → List Event → List Event
  | 0, log => log
  | j + 1, log => retryLog j (log ++ [.spawn args, .sleep ms])

theorem retry_succ_of_error {n : Nat} {w : World} {e : DiskVmError}
    (he : env.runProcess w.log args = .error e) :
    retry (n + 1) ms (discard (runProcess env args) : M Unit) w =
      retry n ms (discard (runProcess env args)) {w with log := w.log ++ [.spawn args, .sleep ms]} := by
  simp [retry, tryCatch_apply, discard_apply, runProcess, he, bind_apply]

/-- When the tool fails on its first `k` attempts and succeeds on the next, `k`
within the `num` retries, the call returns after `k + 1` spawns and `k` sleeps. -/
theorem retry_runProcess_ok {num k : Nat} (hk : k ≤ num) {w : World} {out : String}
    (hfail : ∀ j < k, ∃ e, env.runProcess (retryLog args ms j w.log) args = .error e)
    (hok : env.runProcess (retryLog args ms k w.log) args = .ok out) :
    retry num ms (discard (runProcess env args) : M Unit) w =
      .ok () {w with log := retryLog args ms k w.log ++ [.spawn args]} := by
  induction num generalizing k w with
  | zero =>
    obtain rfl : k = 0 := by omega
    rw [retryLog] at hok
    simp [retry, discard_apply, runProcess, retryLog, hok]
  | succ n ih =>
    cases k with
    | zero =>
      rw [retryLog] at hok
      simp [retry, tryCatch_apply, discard_apply, runProcess, retryLog, hok]
    | succ k =>
      obtain ⟨e, he⟩ := hfail 0 (Nat.succ_pos k)
      rw [retry_succ_of_error env args ms he]
      exact ih (Nat.le_of_succ_le_succ hk) (fun j hj => hfail (j + 1) (Nat.succ_lt_succ hj)) hok

/-- When all `num + 1` attempts fail, the last failure is raised, after
`num + 1` spawns and `num` sleeps. -/
theorem retry_runProcess_error {num : Nat} {w : World} {e : DiskVmError}
    (hfail : ∀ j < num, ∃ e, env.runProcess (retryLog args ms j w.log) args = .error e)
    (hlast : env.runProcess (retryLog args ms num w.log) args = .error e) :
    retry num ms (discard (runProcess env args) : M Unit) w =
      .error (.diskVm e) {w with log := retryLog args ms num w.log ++ [.spawn args]} := by
  induction num generalizing w with
  | zero =>
    rw [retryLog] at hlast
    simp [retry, discard_apply, runProcess, retryLog, hlast]
  | succ n ih =>
    obtain ⟨e', he'⟩ := hfail 0 (Nat.succ_pos n)
    rw [retry_succ_of_error env args ms he']
    exact ih (fun j hj => hfail (j + 1) (Nat.succ_lt_succ hj)) hlast

end Retry

/-- A step that returns or raises a `DiskVmError`, and logs no dispatch of its
own, such as a hook that only calls tools through `run_process`. The teardown
asks this of every unmount hook (`QuietUnmount`). -/
structure Quiet {α : Type} (x : M α) : Prop where
  log : ∀ w, ∃ es, (worldOf (x w)).log = w.log ++ es ∧ ∀ e ∈ es, e.isDispatch = false
  raises : ∀ w e w', x w = .error e w' → e.isDiskVmError = true

namespace Quiet

theorem pure {α : Type} (a : α) : Quiet (Pure.pure a : M α) :=
  ⟨fun w => ⟨[], by simp [worldOf]⟩, fun _ _ _ h => by cases h⟩

theorem bind {α β : Type} {x : M α} {f : α → M β} (hx : Quiet x) (hf : ∀ a, Quiet (f a)) :
    Quiet (x >>= f) := by
  refine ⟨fun w => ?_, fun w e w' h => ?_⟩
  · rw [bind_apply]
    obtain ⟨es, hes, hd⟩ := hx.log w
    cases hxw : x w with
    | ok a w₁ =>
      obtain ⟨es', hes', hd'⟩ := (hf a).log w₁
      rw [hxw] at hes
      refine ⟨es ++ es', ?_, fun e he => ?_⟩
      · simp only at hes' ⊢
        rw [hes', show w₁.log = _ from hes, List.append_assoc]
      · rcases List.mem_append.mp he with he | he
        exacts [hd e he, hd' e he]
    | error e w₁ =>
      rw [hxw] at hes
      exact ⟨es, hes, hd⟩
  · rw [bind_apply] at h
    cases hxw : x w with
    | ok a w₁ => rw [hxw] at h; exact (hf a).raises w₁ e w' h
    | error e₁ w₁ =>
      rw [hxw] at h
      cases h
      exact hx.raises w _ _ hxw

theorem runProcess (env : Env) (args : List String) : Quiet (DiskVm.runProcess env args) := by
  refine ⟨fun w => ⟨[.spawn args], ?_, by simp [Event.isDispatch]⟩, fun w e w' h => ?_⟩
  · simp only [DiskVm.runProcess]
    split <;> rfl
  · simp only [DiskVm.runProcess] at h
    split at h
    · cases h
    · cases h; rfl

end Quiet

/-! ### The log only grows -/

/-- A step that only appends to the log, returned or raised: what was logged
before it stays logged. -/
def Appends {α : Type} (x : M α) : Prop := ∀ w, w.log <+: (worldOf (x w)).log

namespace Appends

variable {α β : Type}

theorem of_log {x : M α} (h : ∀ w, (worldOf (x w)).log = w.log) : Appends x :=
  fun w => h w ▸ List.prefix_refl _

theorem pure (a : α) : Appends (Pure.pure a : M α) := of_log fun _ => rfl

theorem throw (e : Exception) : Appends (MonadExcept.throw e : M α) := of_log fun _ => rfl

theorem get : Appends (MonadState.get : M World) := of_log fun _ => rfl

theorem bind {x : M α} {f : α → M β} (hx : Appends x) (hf : ∀ a, Appends (f a)) :
    Appends (x >>= f) := fun w => by
  have hxw := hx w
  rw [bind_apply]
  cases h : x w with
  | ok a w' => rw [h] at hxw; exact hxw.trans (hf a w')
  | error e w' => rw [h] at hxw; exact hxw

theorem tryCatch {x : M α} {h : Exception → M α} (hx : Appends x) (hh : ∀ e, Appends (h e)) :
    Appends (tryCatch x h) := fun w => by
  have hxw := hx w
  rw [tryCatch_apply]
  cases hw : x w with
  | ok a w' => rw [hw] at hxw; exact hxw
  | error e w' => rw [hw] at hxw; exact hxw.trans (hh e w')

theorem discard {x : M α} (hx : Appends x) : Appends (discard x : M PUnit) := fun w => by
  have hxw := hx w
  rw [discard_apply]
  cases h : x w <;> rw [h] at hxw <;> exact hxw

theorem map {x : M α} (f : α → β) (hx : Appends x) : Appends (f <$> x) := fun w => by
  have hxw := hx w
  rw [map_apply]
  cases h : x w <;> rw [h] at hxw <;> exact hxw

theorem forM {γ : Type} {l : List γ} {f : γ → M PUnit} (hf : ∀ a ∈ l, Appends (f a)) :
    Appends (l.forM f) := by
  induction l with
  | nil => exact pure _
  | cons a l ih =>
    rw [List.forM_cons']
    exact bind (hf a (List.mem_cons_self _ _)) fun _ => ih fun b hb => hf b (List.mem_cons_of_mem _ hb)

theorem emit (e : Event) : Appends (DiskVm.emit e) := fun _ => List.prefix_append _ _

theorem runProcess (env : Env) (args : List String) : Appends (DiskVm.runProcess env args) :=
  fun w => runProcess_log env args w ▸ List.prefix_append _ _

theorem sizeBlockdevice (env : Env) (p : Option Path) : Appends (DiskVm.sizeBlockdevice env p) :=
  of_log fun w => by
  cases p with
  | none => rfl
  | some p => simp only [DiskVm.sizeBlockdevice]; split <;> rfl

theorem makeTemp (env : Env) (event : Path → Event) : Appends (DiskVm.makeTemp env event) :=
  fun _ => List.prefix_append _ _

theorem removePath (env : Env) (event : Path → Event) (p : Path) :
    Appends (DiskVm.removePath env event p) := fun w => by
  simp only [DiskVm.removePath]
  split
  · exact List.prefix_append _ _
  · exact List.prefix_refl _

theorem updateVolume (i : Nat) (f : VolumeInfo → VolumeInfo) : Appends (DiskVm.updateVolume i f) :=
  of_log fun _ => rfl

theorem appendVolume (v : VolumeInfo) : Appends (DiskVm.appendVolume v) := of_log fun _ => rfl

/-- An event logged by `x` is still in the log after whatever follows it. -/
theorem mem_bind {x : M α} {f : α → M β} (hf : ∀ a, Appends (f a)) {w : World} {e : Event}
    (he : e ∈ (worldOf (x w)).log) : e ∈ (worldOf ((x >>= f) w)).log := by
  rw [bind_apply]
  cases h : x w with
  | ok a w' => rw [h] at he; exact (hf a w').subset he
  | error e w' => rw [h] at he; exact he

end Appends

/-! ### Temporary files are removed

`tempfile.NamedTemporaryFile` removes its file when its `with` block is left,
returned or raised. `TempsRemoved seg`: each `mkstemp p` of the log segment
`seg` is followed, later in `seg`, by an `unlink p`. `Tidy x`: every run of `x`,
returned or raised, appends such a segment to the log. Like `Appends`, this is
closed under the monad's combinators; `Tidy.tempFile` is the `with` block. -/

/-- Every temporary file created in the segment is unlinked later in it. -/
def TempsRemoved : List Event → Prop
  | [] => True
  | e :: rest => (∀ p, e = .mkstemp p → .unlink p ∈ rest) ∧ TempsRemoved rest

namespace TempsRemoved

theorem append : ∀ {a b : List Event}, TempsRemoved a → TempsRemoved b → TempsRemoved (a ++ b)
  | [], _, _, hb => hb
  | _ :: _, b, ⟨he, ha⟩, hb => ⟨fun p hp => List.mem_append_left b (he p hp), append ha hb⟩

theorem singleton {e : Event} (he : ∀ p, e ≠ .mkstemp p) : TempsRemoved [e] :=
  ⟨fun p hp => absurd hp (he p), trivial⟩

end TempsRemoved

/-- Every run of `x`, returned or raised, unlinks each temporary file it
creates. -/
def Tidy {α : Type} (x : M α) : Prop :=
  ∀ w, ∃ seg, (worldOf (x w)).log = w.log ++ seg ∧ TempsRemoved seg

namespace Tidy

variable {α β : Type}

theorem of_log {x : M α} (h : ∀ w, (worldOf (x w)).log = w.log) : Tidy x :=
  fun w => ⟨[], by rw [h, List.append_nil], trivial⟩

/-- A step that logs one event, which creates no temporary file. -/
theorem of_event {x : M α} {e : Event} (he : ∀ p, e ≠ .mkstemp p)
    (h : ∀ w, (worldOf (x w)).log = w.log ++ [e]) : Tidy x :=
  fun w => ⟨[e], h w, TempsRemoved.singleton he⟩

theorem pure (a : α) : Tidy (Pure.pure a : M α) := of_log fun _ => rfl

theorem throw (e : Exception) : Tidy (MonadExcept.throw e : M α) := of_log fun _ => rfl

theorem get : Tidy (MonadState.get : M World) := of_log fun _ => rfl

theorem bind {x : M α} {f : α → M β} (hx : Tidy x) (hf : ∀ a, Tidy (f a)) : Tidy (x >>= f) := fun w => by
  obtain ⟨s₁, h₁, t₁⟩ := hx w
  rw [bind_apply]
  cases h : x w with
  | ok a w' =>
    rw [h] at h₁
    obtain ⟨s₂, h₂, t₂⟩ := hf a w'
    exact ⟨s₁ ++ s₂, h₂.trans (by rw [show w'.log = _ from h₁, List.append_assoc]), t₁.append t₂⟩
  | error e w' => rw [h] at h₁; exact ⟨s₁, h₁, t₁⟩

theorem tryCatch {x : M α} {h : Exception → M α} (hx : Tidy x) (hh : ∀ e, Tidy (h e)) :
    Tidy (tryCatch x h) := fun w => by
  obtain ⟨s₁, h₁, t₁⟩ := hx w
  rw [tryCatch_apply]
  cases hw : x w with
  | ok a w' => rw [hw] at h₁; exact ⟨s₁, h₁, t₁⟩
  | error e w' =>
    rw [hw] at h₁
    obtain ⟨s₂, h₂, t₂⟩ := hh e w'
    exact ⟨s₁ ++ s₂, h₂.trans (by rw [show w'.log = _ from h₁, List.append_assoc]), t₁.append t₂⟩

theorem discard {x : M α} (hx : Tidy x) : Tidy (discard x : M PUnit) := fun w => by
  rw [worldOf_discard]
  exact hx w

theorem map {x : M α} (f : α → β) (hx : Tidy x) : Tidy (f <$> x) := fun w => by
  obtain ⟨s, hs, ts⟩ := hx w
  rw [map_apply]
  cases h : x w <;> rw [h] at hs <;> exact ⟨s, hs, ts⟩

theorem forM {γ : Type} {l : List γ} {f : γ → M PUnit} (hf : ∀ a ∈ l, Tidy (f a)) :
    Tidy (l.forM f) := by
  induction l with
  | nil => exact pure _
  | cons a l ih =>
    rw [List.forM_cons']
    exact bind (hf a (List.mem_cons_self _ _)) fun _ => ih fun b hb => hf b (List.mem_cons_of_mem _ hb)

theorem emit {e : Event} (he : ∀ p, e ≠ .mkstemp p) : Tidy (DiskVm.emit e) := of_event he fun _ => rfl

theorem runProcess (env : Env) (args : List String) : Tidy (DiskVm.runProcess env args) :=
  of_event (fun _ => Event.noConfusion) (runProcess_log env args)

theorem sizeBlockdevice (env : Env) (p : Option Path) : Tidy (DiskVm.sizeBlockdevice env p) :=
  of_log fun w => by
  cases p with
  | none => rfl
  | some p => simp only [DiskVm.sizeBlockdevice]; split <;> rfl

theorem updateVolume (i : Nat) (f : VolumeInfo → VolumeInfo) : Tidy (DiskVm.updateVolume i f) :=
  of_log fun _ => rfl

theorem appendVolume (v : VolumeInfo) : Tidy (DiskVm.appendVolume v) := of_log fun _ => rfl

theorem mkdtemp (env : Env) : Tidy (DiskVm.mkdtemp env) :=
  fun w => ⟨[.mkdtemp (env.tempPath w.log)], rfl, TempsRemoved.singleton fun _ => Event.noConfusion⟩

theorem removePath (env : Env) {event : Path → Event} (p : Path) (he : ∀ q, event p ≠ .mkstemp q) :
    Tidy (DiskVm.removePath env event p) := fun w => by
  simp only [DiskVm.removePath]
  split
  · exact ⟨[event p], rfl, TempsRemoved.singleton he⟩
  · exact ⟨[], (List.append_nil _).symm, trivial⟩

theorem unlink (env : Env) (p : Path) : Tidy (DiskVm.unlink env p) :=
  removePath env p fun _ => Event.noConfusion

theorem rmdir (env : Env) (p : Path) : Tidy (DiskVm.rmdir env p) :=
  removePath env p fun _ => Event.noConfusion

theorem withFinally {x : M α} {fin : M Unit} (hx : Tidy x) (hfin : Tidy fin) :
    Tidy (DiskVm.withFinally x fin) :=
  bind (tryCatch hx fun _ => bind hfin fun _ => throw _) fun _ => bind hfin fun _ => pure _

theorem retry {num ms : Nat} {func : M α} (hf : Tidy func) : Tidy (DiskVm.retry num ms func) := by
  induction num with
  | zero => exact hf
  | succ n ih => exact tryCatch hf fun _ => bind (emit fun _ => Event.noConfusion) fun _ => ih

/-- The `with tempfile.NamedTemporaryFile()` block and what follows it: the file
the block is given is unlinked when the block is left, returned or raised,
wherever unlinking succeeds. -/
theorem tempFile {env : Env} (hrm : ∀ log p, env.remove log p = .ok ()) {body : Path → M α}
    {k : Path → α → M β} (hbody : ∀ p, Tidy (body p)) (hk : ∀ p a, Tidy (k p a)) :
    Tidy (DiskVm.mkstemp env >>= fun p => DiskVm.withFinally (body p) (DiskVm.unlink env p) >>= k p) := by
  intro w
  let p := env.tempPath w.log
  have hu : ∀ u : World, DiskVm.unlink env p u = .ok () {u with log := u.log ++ [.unlink p]} := fun u => by
    simp only [DiskVm.unlink, DiskVm.removePath, hrm]
  obtain ⟨s, hs, ts⟩ := hbody p {w with log := w.log ++ [.mkstemp p]}
  have tail : TempsRemoved (s ++ [.unlink p]) := ts.append (TempsRemoved.singleton fun _ => Event.noConfusion)
  have head : ∀ q, Event.mkstemp p = .mkstemp q → Event.unlink q ∈ s ++ [.unlink p] := by
    rintro q ⟨⟩
    exact List.mem_append_right _ (List.mem_singleton_self _)
  simp only [DiskVm.mkstemp, DiskVm.makeTemp, DiskVm.withFinally, bind_apply, tryCatch_apply]
  cases h : body p {w with log := w.log ++ [.mkstemp p]} with
  | ok a u =>
    rw [h] at hs
    obtain ⟨s₂, h₂, t₂⟩ := hk p a {u with log := u.log ++ [.unlink p]}
    refine ⟨.mkstemp p :: (s ++ [.unlink p] ++ s₂), ?_, ?_⟩
    · simp only [hu, pure_apply]
      rw [h₂, show u.log = _ from hs]
      simp
    · exact ⟨fun q hq => List.mem_append_left _ (head q hq), tail.append t₂⟩
  | error e u =>
    rw [h] at hs
    refine ⟨.mkstemp p :: (s ++ [.unlink p]), ?_, head, tail⟩
    simp only [hu, throw_apply]
    rw [show u.log = _ from hs]
    simp [worldOf]

end Tidy

/-! ### `tempfile.NamedTemporaryFile` -/

/-- A `tempfile.NamedTemporaryFile` holding `data`, given to `body` by its name
and removed when the `with` block is left, also by an exception. What is written
before the file is flushed is one write. -/
def withTemporaryFile {α : Type} (env : Env) (data : Bytes) (body : Path → M α) : M α := do
  let file ← mkstemp env
  withFinally (do
      emit (.write file data)
      body file)
    (unlink env file)

/-- A body that returns leaves the file created, written and removed around
what it logged. -/
theorem withTemporaryFile_ok {env : Env} (hrm : ∀ log p, env.remove log p = .ok ()) {α : Type}
    {data : Bytes} {body : Path → M α} {w u : World} {a : α}
    (hbody : body (env.tempPath w.log)
      {w with log := w.log ++ [.mkstemp (env.tempPath w.log), .write (env.tempPath w.log) data]} = .ok a u) :
    withTemporaryFile env data body w = .ok a {u with log := u.log ++ [.unlink (env.tempPath w.log)]} := by
  simp only [withTemporaryFile, withFinally, mkstemp, makeTemp, bind_apply, tryCatch_apply, emit_apply,
    List.append_assoc, List.singleton_append, hbody, unlink, removePath, hrm, pure_apply]

/-- A body that raises leaves the file created, written and removed around what
it logged, and its exception passes. -/
theorem withTemporaryFile_error {env : Env} (hrm : ∀ log p, env.remove log p = .ok ()) {α : Type}
    {data : Bytes} {body : Path → M α} {w u : World} {e : Exception}
    (hbody : body (env.tempPath w.log)
      {w with log := w.log ++ [.mkstemp (env.tempPath w.log), .write (env.tempPath w.log) data]} = .error e u) :
    withTemporaryFile env data body w = .error e {u with log := u.log ++ [.unlink (env.tempPath w.log)]} := by
  simp only [withTemporaryFile, withFinally, mkstemp, makeTemp, bind_apply, tryCatch_apply, emit_apply,
    List.append_assoc, List.singleton_append, hbody, unlink, removePath, hrm, throw_apply]

/-- The file is removed when the block is left, returned or raised. -/
theorem withTemporaryFile_tidy {env : Env} (hrm : ∀ log p, env.remove log p = .ok ()) {α : Type}
    {data : Bytes} {body : Path → M α} (hbody : ∀ p, Tidy (body p)) :
    Tidy (withTemporaryFile env data body) := by
  have h : Tidy (mkstemp env >>= fun p =>
      withFinally (emit (.write p data) >>= fun _ => body p) (unlink env p) >>= Pure.pure) :=
    Tidy.tempFile hrm (fun p => Tidy.bind (Tidy.emit fun _ => Event.noConfusion) fun _ => hbody p)
      fun _ => Tidy.pure
  simpa only [bind_pure] using h

/-! ### What a step does to the disk

`Within R x`: every run of `x`, returned or raised, takes the disk being
analysed to one related to it by `R`. With `R` reflexive and transitive this is
closed under the monad's combinators, so a frame property of a composite step
follows from those of its parts. -/

def Within {α : Type} (R : DiskInfo → DiskInfo → Prop) (x : M α) : Prop :=
  ∀ w, R w.disk (worldOf (x w)).disk

namespace Within

variable {α β : Type} {R : DiskInfo → DiskInfo → Prop}

section Trans
variable (htrans : ∀ a b c, R a b → R b c → R a c)
include htrans

theorem bind {x : M α} {f : α → M β} (hx : Within R x) (hf : ∀ a, Within R (f a)) :
    Within R (x >>= f) := fun w => by
  have hxw := hx w
  rw [bind_apply]
  cases h : x w with
  | ok a w' => rw [h] at hxw; exact htrans _ _ _ hxw (hf a w')
  | error e w' => rw [h] at hxw; exact hxw

theorem tryCatch {x : M α} {h : Exception → M α} (hx : Within R x) (hh : ∀ e, Within R (h e)) :
    Within R (tryCatch x h) := fun w => by
  have hxw := hx w
  rw [tryCatch_apply]
  cases hw : x w with
  | ok a w' => rw [hw] at hxw; exact hxw
  | error e w' => rw [hw] at hxw; exact htrans _ _ _ hxw (hh e w')

end Trans

theorem discard {x : M α} (hx : Within R x) : Within R (discard x : M PUnit) := fun w => by
  have hxw := hx w
  rw [worldOf_discard]
  exact hxw

theorem map {x : M α} (f : α → β) (hx : Within R x) : Within R (f <$> x) := fun w => by
  have hxw := hx w
  rw [map_apply]
  cases h : x w <;> rw [h] at hxw <;> exact hxw

section Refl
variable (hrefl : ∀ d, R d d)
include hrefl

theorem of_disk {x : M α} (h : ∀ w, (worldOf (x w)).disk = w.disk) : Within R x :=
  fun w => h w ▸ hrefl _

/-- A step that keeps the disk is within every reflexive relation. -/
theorem of_eq {x : M α} (h : Within Eq x) : Within R x := of_disk hrefl fun w => (h w).symm

theorem pure (a : α) : Within R (Pure.pure a : M α) := of_disk hrefl fun _ => rfl

theorem throw (e : Exception) : Within R (MonadExcept.throw e : M α) := of_disk hrefl fun _ => rfl

theorem get : Within R (MonadState.get : M World) := of_disk hrefl fun _ => rfl

theorem emit (e : Event) : Within R (DiskVm.emit e) := of_disk hrefl fun _ => rfl

theorem runProcess (env : Env) (args : List String) : Within R (DiskVm.runProcess env args) :=
  of_disk hrefl fun w => by simp only [DiskVm.runProcess]; split <;> rfl

theorem sizeBlockdevice (env : Env) (p : Option Path) : Within R (DiskVm.sizeBlockdevice env p) :=
  of_disk hrefl fun w => by
  cases p with
  | none => rfl
  | some p => simp only [DiskVm.sizeBlockdevice]; split <;> rfl

theorem makeTemp (env : Env) (event : Path → Event) : Within R (DiskVm.makeTemp env event) :=
  of_disk hrefl fun _ => rfl

theorem removePath (env : Env) (event : Path → Event) (p : Path) :
    Within R (DiskVm.removePath env event p) :=
  of_disk hrefl fun w => by simp only [DiskVm.removePath]; split <;> rfl

variable (htrans : ∀ a b c, R a b → R b c → R a c)
include htrans

theorem forM {γ : Type} {l : List γ} {f : γ → M PUnit} (hf : ∀ a ∈ l, Within R (f a)) :
    Within R (l.forM f) := by
  induction l with
  | nil => exact pure hrefl _
  | cons a l ih =>
    rw [List.forM_cons']
    exact bind htrans (hf a (List.mem_cons_self _ _)) fun _ =>
      ih fun b hb => hf b (List.mem_cons_of_mem _ hb)

theorem withFinally {x : M α} {fin : M Unit} (hx : Within R x) (hfin : Within R fin) :
    Within R (DiskVm.withFinally x fin) :=
  bind htrans (tryCatch htrans hx fun _ => bind htrans hfin fun _ => throw hrefl _)
    fun _ => bind htrans hfin fun _ => pure hrefl _

end Refl

end Within

/-- `str.strip('\n')`. -/
def stripNewlines (s : String) : String :=
  String.mk (stripEnds (· == '\n') s.toList)

end DiskVm
