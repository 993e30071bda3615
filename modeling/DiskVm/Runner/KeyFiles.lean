import DiskVm.Plugins.OnTheFly

/-! Key files (`master_key_file` of `plugins/luks.py`, the password file of
`LuksAddPasswordPlugin.modify_volume`, `fvek_file` of `plugins/bitlocker.py`,
and the key file of `try_mount_veracrypt`).

The LUKS, BitLocker and VeraCrypt plugins hand master keys and passwords to
`cryptsetup` and `dislocker` in files of `tempfile.NamedTemporaryFile`, whose
`with` block removes them.
`modifyDisks_removes_key_files`: behind any choice of these plugins, with the
fallback plugins after them, the loop of `run` over the VM's disks (discovery
walk, `modify_*` hooks and teardown on each disk) unlinks every temporary file
it creates, whether it returns or raises, on a host where removing a file
succeeds. The fallback plugins create temporary directories only. -/
namespace DiskVm

/-- The plugins that write keys to temporary files: those of `plugins/luks.py`,
`plugins/bitlocker.py` and `plugins/veracrypt.py` as modelled. -/
def keyPlugins (env : Env) : List Plugin :=
  [Luks.luksMountPlugin env, Luks.luksAddPasswordPlugin env, luksOnTheFlyDecryptPlugin env,
    bitLockerMountPlugin env, bitLockerOverridePasswordPlugin env, bitLockerOnTheFlyDecryptPlugin env,
    veraCryptMountPlugin env, veraCryptOnTheFlyDecryptPlugin env]

theorem keyPlugins_tidyHooks {env : Env} (hrm : ∀ log p, env.remove log p = .ok ()) :
    ∀ p ∈ keyPlugins env, TidyHooks p := by
  simp only [keyPlugins, List.forall_mem_cons, List.not_mem_nil, false_imp_iff, implies_true, and_true]
  exact ⟨Luks.luksMountPlugin_tidyHooks hrm, Luks.luksAddPasswordPlugin_tidyHooks hrm,
    {Luks.luksMountPlugin_tidyHooks hrm with}, bitLockerMountPlugin_tidyHooks hrm,
    bitLockerOverridePasswordPlugin_tidyHooks hrm, {bitLockerMountPlugin_tidyHooks hrm with},
    veraCryptMountPlugin_tidyHooks hrm, {veraCryptMountPlugin_tidyHooks hrm with}⟩

theorem withDefaultPlugins_tidyHooks {env : Env} (hrm : ∀ log p, env.remove log p = .ok ())
    {plugins : List Plugin} (hps : plugins ⊆ keyPlugins env) :
    ∀ p ∈ (withDefaultPlugins env plugins).allPlugins, TidyHooks p := by
  intro p hp
  rcases List.mem_append.mp hp with hp | hp
  · exact keyPlugins_tidyHooks hrm p (hps hp)
  · simp only [withDefaultPlugins, List.mem_cons, List.mem_singleton, List.not_mem_nil, or_false] at hp
    rcases hp with rfl | rfl
    exacts [genericMountPlugin_tidyHooks env, lvmMountPlugin_tidyHooks env]

/-- No key or password file outlives the modify phase of `run`. -/
theorem modifyDisks_removes_key_files {env : Env} (hrm : ∀ log p, env.remove log p = .ok ())
    {plugins : List Plugin} (hps : plugins ⊆ keyPlugins env) (fuel : Nat)
    (disks : List Vm.VirtualDisk) :
    Tidy (modifyDisks env (withDefaultPlugins env plugins) fuel disks) :=
  modifyDisks_tidy env (withDefaultPlugins_tidyHooks hrm hps) fuel disks

theorem addPassword_modifyDisks_tidy :
    Tidy (modifyDisks allPresent (withDefaultPlugins allPresent [bitLockerOverridePasswordPlugin allPresent,
      Luks.luksAddPasswordPlugin allPresent, veraCryptMountPlugin allPresent]) 4 [firstVmDisk]) :=
  modifyDisks_removes_key_files (fun _ _ => rfl) (by simp [keyPlugins]) 4 [firstVmDisk]

end DiskVm
