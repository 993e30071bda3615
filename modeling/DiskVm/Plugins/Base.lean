import DiskVm.Host

/-! Plugins and the two dispatch disciplines (`plugins/base.py`).

A plugin is the eleven hooks of `PluginSpec`, each defaulting to the base
class's no-op. A hook gets the volume it concerns by its index in
`disk_info.volumes`. `dispatch_all` calls a hook of every plugin in order;
`dispatch_until_result` stops at the first truthy result, and returns the falsy
default (`None`) when there is none. Both first write the debug line that
`Event.dispatch` records. An exception raised by a hook passes through both. -/
namespace DiskVm

/-- What `mount` may return besides `None`. -/
inductive MountResult where
  | path (p : Path)
  | volume (v : VolumeInfo)
  | volumes (vs : List VolumeInfo)
deriving DecidableEq, Repr

/-- Python truthiness of a `mount` result: an empty list is falsy. -/
def mountTruthy : Option MountResult → Bool
  | some (.volumes []) => false
  | some _ => true
  | none => false

/-- `PluginSpec`. -/
structure Plugin where
  mountedDisk : M Unit := pure ()
  mountedVolume : Nat → M Unit := fun _ => pure ()
  mount : Nat → M (Option MountResult) := fun _ => pure none
  unmountFilesystem : Nat → M Bool := fun _ => pure false
  unmountVolume : Nat → M Bool := fun _ => pure false
  mountedFilesystem : Nat → M Unit := fun _ => pure ()
  beforeCreateDisk : M Unit := pure ()
  beforeCreateVm : M Unit := pure ()
  modifyDisk : M Unit := pure ()
  modifyVolume : Nat → M Unit := fun _ => pure ()
  modifyFilesystem : Nat → M Unit := fun _ => pure ()

/-- The volume a hook is called with. -/
def volumeAt (i : Nat) : M VolumeInfo := do
  pure ((← get).disk.volumes[i]?.getD {})

theorem volumeAt_apply {i : Nat} {v : VolumeInfo} {w : World} (hv : w.disk.volumes[i]? = some v) :
    volumeAt i w = .ok v w := by
  simp [volumeAt, bind_apply, hv]

theorem volumeAt_appends (i : Nat) : Appends (volumeAt i) :=
  Appends.bind Appends.get fun _ => Appends.pure _

theorem volumeAt_tidy (i : Nat) : Tidy (volumeAt i) := Tidy.bind Tidy.get fun _ => Tidy.pure _

theorem volumeAt_keepsDisk (i : Nat) : Within Eq (volumeAt i) :=
  Within.of_disk (fun _ => rfl) fun _ => rfl

/-- `PluginManager`: user plugins, then fallback plugins. -/
structure PluginManager where
  plugins : List Plugin := []
  fallbackPlugins : List Plugin := []

namespace PluginManager

def allPlugins (pm : PluginManager) : List Plugin := pm.plugins ++ pm.fallbackPlugins

def add (pm : PluginManager) (ps : List Plugin) : PluginManager :=
  {pm with plugins := pm.plugins ++ ps}

/-- `dispatch_all(name, ...)`, with `hook` the plugin's method of that name. -/
def dispatchAll (pm : PluginManager) (name : HookName) (volume : Option Nat)
    (hook : Plugin → M Unit) : M Unit := do
  emit (.dispatch name volume)
  pm.allPlugins.forM hook

/-- The loop of `dispatch_until_result`. -/
def firstTruthy {α : Type} (hook : Plugin → M α) (truthy : α → Bool) (none : α) :
    List Plugin → M α
  | [] => pure none
  | p :: ps => do
    let res ← hook p
    if truthy res then pure res else firstTruthy hook truthy none ps

/-- `dispatch_until_result(name, ...)`; `none` is the falsy value standing for
the final `return None`. -/
def dispatchUntilResult {α : Type} (pm : PluginManager) (name : HookName) (volume : Option Nat)
    (hook : Plugin → M α) (truthy : α → Bool) (none : α) : M α := do
  emit (.dispatch name volume)
  firstTruthy hook truthy none pm.allPlugins

theorem firstTruthy_quiet {α : Type} (hook : Plugin → M α) (truthy : α → Bool) (none : α)
    {ps : List Plugin} (h : ∀ p ∈ ps, Quiet (hook p)) :
    Quiet (firstTruthy hook truthy none ps) := by
  induction ps with
  | nil => exact Quiet.pure _
  | cons p ps ih =>
    refine Quiet.bind (h p (List.mem_cons_self _ _)) fun r => ?_
    split
    · exact Quiet.pure _
    · exact ih fun q hq => h q (List.mem_cons_of_mem _ hq)

section Appends
variable (pm : PluginManager) (name : HookName) (volume : Option Nat)

theorem dispatchAll_appends {hook : Plugin → M Unit} (h : ∀ p ∈ pm.allPlugins, Appends (hook p)) :
    Appends (pm.dispatchAll name volume hook) :=
  Appends.bind (Appends.emit _) fun _ => Appends.forM h

theorem firstTruthy_appends {α : Type} {hook : Plugin → M α} (truthy : α → Bool) (none : α)
    {ps : List Plugin} (h : ∀ p ∈ ps, Appends (hook p)) :
    Appends (firstTruthy hook truthy none ps) := by
  induction ps with
  | nil => exact Appends.pure _
  | cons p ps ih =>
    refine Appends.bind (h p (List.mem_cons_self _ _)) fun r => ?_
    split
    · exact Appends.pure _
    · exact ih fun q hq => h q (List.mem_cons_of_mem _ hq)

theorem dispatchUntilResult_appends {α : Type} {hook : Plugin → M α} (truthy : α → Bool) (none : α)
    (h : ∀ p ∈ pm.allPlugins, Appends (hook p)) :
    Appends (pm.dispatchUntilResult name volume hook truthy none) :=
  Appends.bind (Appends.emit _) fun _ => firstTruthy_appends truthy none h

end Appends

section Tidy
variable (pm : PluginManager) (name : HookName) (volume : Option Nat)

theorem dispatchAll_tidy {hook : Plugin → M Unit} (h : ∀ p ∈ pm.allPlugins, Tidy (hook p)) :
    Tidy (pm.dispatchAll name volume hook) :=
  Tidy.bind (Tidy.emit fun _ => Event.noConfusion) fun _ => Tidy.forM h

theorem firstTruthy_tidy {α : Type} {hook : Plugin → M α} (truthy : α → Bool) (none : α)
    {ps : List Plugin} (h : ∀ p ∈ ps, Tidy (hook p)) :
    Tidy (firstTruthy hook truthy none ps) := by
  induction ps with
  | nil => exact Tidy.pure _
  | cons p ps ih =>
    refine Tidy.bind (h p (List.mem_cons_self _ _)) fun r => ?_
    split
    · exact Tidy.pure _
    · exact ih fun q hq => h q (List.mem_cons_of_mem _ hq)

theorem dispatchUntilResult_tidy {α : Type} {hook : Plugin → M α} (truthy : α → Bool) (none : α)
    (h : ∀ p ∈ pm.allPlugins, Tidy (hook p)) :
    Tidy (pm.dispatchUntilResult name volume hook truthy none) :=
  Tidy.bind (Tidy.emit fun _ => Event.noConfusion) fun _ => firstTruthy_tidy truthy none h

end Tidy

section Within
variable (pm : PluginManager) (name : HookName) (volume : Option Nat) {R : DiskInfo → DiskInfo → Prop}
  (hrefl : ∀ d, R d d) (htrans : ∀ a b c, R a b → R b c → R a c)
include hrefl htrans

theorem dispatchAll_within {hook : Plugin → M Unit} (h : ∀ p ∈ pm.allPlugins, Within R (hook p)) :
    Within R (pm.dispatchAll name volume hook) :=
  Within.bind htrans (Within.emit hrefl _) fun _ => Within.forM hrefl htrans h

theorem firstTruthy_within {α : Type} {hook : Plugin → M α} (truthy : α → Bool) (none : α)
    {ps : List Plugin} (h : ∀ p ∈ ps, Within R (hook p)) :
    Within R (firstTruthy hook truthy none ps) := by
  induction ps with
  | nil => exact Within.pure hrefl _
  | cons p ps ih =>
    refine Within.bind htrans (h p (List.mem_cons_self _ _)) fun r => ?_
    split
    · exact Within.pure hrefl _
    · exact ih fun q hq => h q (List.mem_cons_of_mem _ hq)

theorem dispatchUntilResult_within {α : Type} {hook : Plugin → M α} (truthy : α → Bool) (none : α)
    (h : ∀ p ∈ pm.allPlugins, Within R (hook p)) :
    Within R (pm.dispatchUntilResult name volume hook truthy none) :=
  Within.bind htrans (Within.emit hrefl _) fun _ => firstTruthy_within hrefl htrans truthy none h

end Within

end PluginManager

/-- The hooks of `p` unlink every temporary file they create, returned or
raised. `before_create_disk` and `before_create_vm` are left out: they run
while the disk is kept mounted for the VM. -/
structure TidyHooks (p : Plugin) : Prop where
  mountedDisk : Tidy p.mountedDisk
  modifyDisk : Tidy p.modifyDisk
  mount : ∀ i, Tidy (p.mount i)
  mountedVolume : ∀ i, Tidy (p.mountedVolume i)
  modifyVolume : ∀ i, Tidy (p.modifyVolume i)
  mountedFilesystem : ∀ i, Tidy (p.mountedFilesystem i)
  modifyFilesystem : ∀ i, Tidy (p.modifyFilesystem i)
  unmountFilesystem : ∀ i, Tidy (p.unmountFilesystem i)
  unmountVolume : ∀ i, Tidy (p.unmountVolume i)

/-! ### The key searches

`find_master_key` of `plugins/luks.py` and `find_correct_fvek` of
`plugins/bitlocker.py` loop alike: each key is tried in turn, what it mounted is
unmounted again, and the first key that mounted anything is returned. -/

/-- `for key in keys: if attempt(key): return key`, with `attempt` the trial
mount and its undoing. -/
def firstAccepted {κ : Type} (attempt : κ → M Bool) : List κ → M (Option κ)
  | [] => pure none
  | key :: rest => do if ← attempt key then pure (some key) else firstAccepted attempt rest

section FirstAccepted
variable {κ : Type} {attempt : κ → M Bool}

theorem firstAccepted_tidy (h : ∀ key, Tidy (attempt key)) (keys : List κ) :
    Tidy (firstAccepted attempt keys) := by
  induction keys with
  | nil => exact Tidy.pure _
  | cons key rest ih =>
    refine Tidy.bind (h key) fun b => ?_
    split
    exacts [Tidy.pure _, ih]

/-- When each trial answers whether `accepts` holds of its key and takes the
world along `R`, which keeps `P`, the loop returns the first key `accepts` holds
of. -/
theorem firstAccepted_eq {accepts : κ → Bool} {R : World → World → Prop} {P : World → Prop}
    (hrefl : ∀ w, R w w) (htrans : ∀ {a b c}, R a b → R b c → R a c) (hP : ∀ {w w'}, P w → R w w' → P w')
    (hone : ∀ key w, P w → ∃ w', attempt key w = .ok (accepts key) w' ∧ R w w') (keys : List κ) :
    ∀ w, P w → ∃ w', firstAccepted attempt keys w = .ok (keys.find? accepts) w' ∧ R w w' := by
  induction keys with
  | nil => exact fun w _ => ⟨w, rfl, hrefl w⟩
  | cons key rest ih =>
    intro w hw
    obtain ⟨w₁, hk, hr₁⟩ := hone key w hw
    rw [firstAccepted, bind_apply, hk, List.find?_cons]
    cases accepts key
    · obtain ⟨w₂, hr, hr₂⟩ := ih w₁ (hP hw hr₁)
      exact ⟨w₂, hr, htrans hr₁ hr₂⟩
    · exact ⟨w₁, rfl, hr₁⟩

end FirstAccepted

end DiskVm
