import DiskVm.Runner.Discovery
import DiskVm.Plugins.Generic
import DiskVm.Utils
import Mathlib.Data.List.Perm.Basic

/-! The teardown (`unmount_partitions_and_filesystems`).

Volumes are grouped by depth, deepest group first; in each group every
filesystem is unmounted, then every flat mount. A volume's mount is offered to
the plugins only when it is set and still exists when the loop reaches it; a
plugin's `DiskVmError` is logged and the loop goes on.

`unmount_children_first`: over an acyclic volume list, with hooks that return
or raise a `DiskVmError`, the dispatches are exactly the visits of `schedule`
that were ready when reached, and `schedule` visits every volume once per kind,
deeper volumes first and, within a depth, filesystems first. -/
namespace DiskVm

/-- The two inner loops. -/
inductive UnmountKind where
  | filesystem
  | flat
deriving DecidableEq, Repr

namespace UnmountKind

/-- The field the loop checks and clears. -/
def mountOf : UnmountKind → VolumeInfo → Option Path
  | .filesystem, v => v.filesystemMount
  | .flat, v => v.flatMount

def clear : UnmountKind → VolumeInfo → VolumeInfo
  | .filesystem, v => {v with filesystemMount := none}
  | .flat, v => {v with flatMount := none}

def hookName : UnmountKind → HookName
  | .filesystem => .unmountFilesystem
  | .flat => .unmountVolume

def hook : UnmountKind → Plugin → Nat → M Bool
  | .filesystem, p => p.unmountFilesystem
  | .flat, p => p.unmountVolume

end UnmountKind

/-- The mount of the volume at `i` that a loop checks. -/
def mountAt (k : UnmountKind) (vols : List VolumeInfo) (i : Nat) : Option Path :=
  vols[i]?.bind k.mountOf

section Teardown
variable (env : Env) (pm : PluginManager)

/-- One volume in one inner loop: when its mount is set and exists, ask the
plugins to unmount it and clear the field on success (a failure is a warning); a
`DiskVmError` is logged and swallowed. -/
def unmountOne (k : UnmountKind) (i : Nat) : M Unit := do
  let w ← get
  match mountAt k w.disk.volumes i with
  | none => pure ()
  | some m =>
    if env.pathExists w.log m then
      tryCatch
        (do
          let ok ← pm.dispatchUntilResult k.hookName (some i) (k.hook · i) id false
          if ok then updateVolume i k.clear)
        (fun e => if e.isDiskVmError then pure () else throw e)
    else pure ()

/-- The sort key, `volume_depth`. -/
def depthKey (vols : List VolumeInfo) (i : Nat) : Nat :=
  (volumeDepth vols vols.length i).getD 0

/-- `unmount_partitions_and_filesystems`. `sorted` computes every key before
anything is unmounted; a parent chain that does not end raises there. -/
def unmountPartitionsAndFilesystems : M Unit := do
  let vols := (← get).disk.volumes
  if (List.range vols.length).all fun i => (volumeDepth vols vols.length i).isSome then
    (groupby (depthKey vols) (List.range vols.length) true).forM fun g => do
      g.2.forM (unmountOne env pm .filesystem)
      g.2.forM (unmountOne env pm .flat)
  else throw .recursionError

end Teardown

/-- A visit of one volume by one inner loop. -/
structure Visit where
  kind : UnmountKind
  volume : Nat
deriving DecidableEq, Repr

/-- The visits in the order of the loops. -/
def schedule (vols : List VolumeInfo) : List Visit :=
  (groupby (depthKey vols) (List.range vols.length) true).flatMap fun g =>
    g.2.map (Visit.mk .filesystem) ++ g.2.map (Visit.mk .flat)

namespace Visit

def run (env : Env) (pm : PluginManager) (v : Visit) : M Unit := unmountOne env pm v.kind v.volume

/-- The loop's test: the mount is set and exists. -/
def ready (env : Env) (w : World) (v : Visit) : Bool :=
  (mountAt v.kind w.disk.volumes v.volume).any (env.pathExists w.log)

/-- The dispatch a ready visit makes. -/
def event (v : Visit) : Event := .dispatch v.kind.hookName (some v.volume)

end Visit

/-- The visits that find their mount set and existing when they are reached,
run in order from `w`. -/
def readyVisits (env : Env) (pm : PluginManager) : List Visit → World → List Visit
  | [], _ => []
  | v :: vs, w =>
    (if v.ready env w then [v] else []) ++ readyVisits env pm vs (worldOf (v.run env pm w))

theorem readyVisits_sublist (env : Env) (pm : PluginManager) (vs : List Visit) (w : World) :
    (readyVisits env pm vs w).Sublist vs := by
  induction vs generalizing w with
  | nil => exact .slnil
  | cons v vs ih =>
    by_cases h : v.ready env w
    · simpa [readyVisits, h] using (ih _).cons₂ v
    · simpa [readyVisits, h] using (ih _).cons v

/-- `dispatch_until_result` is asked for the unmount hooks only: each one returns
a `bool` or raises a `DiskVmError`, and dispatches nothing of its own. -/
def QuietUnmount (pm : PluginManager) : Prop :=
  ∀ p ∈ pm.allPlugins, ∀ i, Quiet (p.unmountFilesystem i) ∧ Quiet (p.unmountVolume i)

/-! ### One visit, then a run of visits -/

section Run
variable (env : Env) (pm : PluginManager)

/-- A visit always returns; it dispatches its hook once when it is ready, and
nothing otherwise. -/
theorem Visit.run_spec (hq : QuietUnmount pm) (v : Visit) (w : World) :
    ∃ w', v.run env pm w = .ok () w' ∧ ∃ es, w'.log = w.log ++ es ∧
      es.filter Event.isDispatch = if v.ready env w then [v.event] else [] := by
  have hk : ∀ p ∈ pm.allPlugins, Quiet (v.kind.hook p v.volume) := fun p hp => by
    cases v.kind
    exacts [(hq p hp v.volume).1, (hq p hp v.volume).2]
  cases hm : mountAt v.kind w.disk.volumes v.volume with
  | none =>
    refine ⟨w, ?_, [], by simp, by simp [Visit.ready, hm]⟩
    simp only [Visit.run, unmountOne, bind_apply, get_apply, hm]
    rfl
  | some m =>
    by_cases hex : env.pathExists w.log m = true
    · have hft := PluginManager.firstTruthy_quiet (v.kind.hook · v.volume) id false hk
      obtain ⟨es, hes, hd⟩ := hft.log {w with log := w.log ++ [.dispatch v.kind.hookName (some v.volume)]}
      simp only [Visit.run, unmountOne, Visit.ready, bind_apply, get_apply, hm, hex, ite_true,
        tryCatch_apply, PluginManager.dispatchUntilResult, emit_apply, Option.any_some]
      have hnil : es.filter Event.isDispatch = [] :=
        List.filter_eq_nil_iff.mpr fun e he => by simp [hd e he]
      have hf : (v.event :: es).filter Event.isDispatch = [v.event] := by
        simp [hnil, Visit.event, Event.isDispatch, List.filter_cons]
      cases hr : PluginManager.firstTruthy (v.kind.hook · v.volume) id false pm.allPlugins
          {w with log := w.log ++ [.dispatch v.kind.hookName (some v.volume)]} with
      | ok b w₁ =>
        rw [hr] at hes
        cases b
        · exact ⟨w₁, by simp only [hr]; rfl, v.event :: es, by simpa [worldOf] using hes, hf⟩
        · exact ⟨_, by simp only [hr]; rfl, v.event :: es, by simpa [worldOf] using hes, hf⟩
      | error e w₁ =>
        rw [hr] at hes
        exact ⟨w₁, by simp [hr, hft.raises _ _ _ hr], v.event :: es,
          by simpa [worldOf] using hes, hf⟩
    · refine ⟨w, ?_, [], by simp, by simp [Visit.ready, hm, hex]⟩
      simp only [Visit.run, unmountOne, bind_apply, get_apply, hm, hex]
      rfl

/-- A run of visits returns, and dispatches the ready visits' hooks in order. -/
theorem run_visits (hq : QuietUnmount pm) (vs : List Visit) (w : World) :
    ∃ w', (vs.forM (·.run env pm)) w = .ok () w' ∧ ∃ es, w'.log = w.log ++ es ∧
      es.filter Event.isDispatch = (readyVisits env pm vs w).map Visit.event := by
  induction vs generalizing w with
  | nil => exact ⟨w, rfl, [], by simp, by simp [readyVisits]⟩
  | cons v vs ih =>
    obtain ⟨w₁, h₁, es₁, hl₁, hf₁⟩ := Visit.run_spec env pm hq v w
    obtain ⟨w₂, h₂, es₂, hl₂, hf₂⟩ := ih w₁
    refine ⟨w₂, by simp [bind_apply, h₁, h₂], es₁ ++ es₂, by simp [hl₂, hl₁], ?_⟩
    simp only [readyVisits, h₁, worldOf, List.filter_append, hf₁, hf₂]
    split <;> simp

/-! ### No temporary file is left behind -/

variable {pm} (hpm : ∀ p ∈ pm.allPlugins, TidyHooks p)
include hpm

theorem unmountOne_tidy (k : UnmountKind) (i : Nat) : Tidy (unmountOne env pm k i) := by
  have hk : ∀ p ∈ pm.allPlugins, Tidy (k.hook p i) := fun p hp => by
    cases k
    exacts [(hpm p hp).unmountFilesystem i, (hpm p hp).unmountVolume i]
  refine Tidy.bind Tidy.get fun w => ?_
  split
  · exact Tidy.pure _
  · split
    · refine Tidy.tryCatch (Tidy.bind (pm.dispatchUntilResult_tidy _ _ _ _ hk) fun ok => ?_) fun e => ?_
      · split
        exacts [Tidy.updateVolume _ _, Tidy.pure _]
      · split
        exacts [Tidy.pure _, Tidy.throw _]
    · exact Tidy.pure _

theorem unmountPartitionsAndFilesystems_tidy : Tidy (unmountPartitionsAndFilesystems env pm) := by
  refine Tidy.bind Tidy.get fun w => ?_
  dsimp only
  split
  · exact Tidy.forM fun g _ => Tidy.bind (Tidy.forM fun i _ => unmountOne_tidy env hpm .filesystem i)
      fun _ => Tidy.forM fun i _ => unmountOne_tidy env hpm .flat i
  · exact Tidy.throw _

end Run

/-! ### The schedule -/

section Schedule
variable (vols : List VolumeInfo)

theorem forM_flatMap {α β : Type} (l : List α) (f : α → List β) (g : β → M Unit) :
    (l.flatMap f).forM g = l.forM fun a => (f a).forM g := by
  induction l with
  | nil => rfl
  | cons a l ih => simp [List.flatMap_cons, ih]

theorem forM_map {α β : Type} (l : List α) (f : α → β) (g : β → M Unit) :
    (l.map f).forM g = l.forM fun a => g (f a) := by
  induction l with
  | nil => rfl
  | cons a l ih => simp [ih]

/-- Over an acyclic list the teardown is the schedule's visits run in order. -/
theorem unmountPartitionsAndFilesystems_eq (env : Env) (pm : PluginManager) (w : World)
    (h : Acyclic w.disk.volumes) :
    unmountPartitionsAndFilesystems env pm w = (schedule w.disk.volumes).forM (·.run env pm) w := by
  have hall : ((List.range w.disk.volumes.length).all fun i =>
      (volumeDepth w.disk.volumes w.disk.volumes.length i).isSome) = true :=
    List.all_eq_true.mpr fun i hi => h i (List.mem_range.mp hi)
  simp only [unmountPartitionsAndFilesystems, bind_apply, get_apply, hall, ite_true, schedule,
    forM_flatMap, List.forM_append, forM_map]
  rfl

/-- `schedule` visits every volume once in each loop. -/
theorem schedule_perm :
    (schedule vols).Perm ((List.range vols.length).map (Visit.mk .filesystem) ++
      (List.range vols.length).map (Visit.mk .flat)) := by
  have hl := perm_sortedBy (depthKey vols) true (List.range vols.length)
  refine (List.flatMap_append_perm _ _ _).symm.trans ?_
  simp only [← List.map_flatMap, groupby, flatMap_groupConsecutive]
  exact (hl.map _).append (hl.map _)

/-- `a` may be unmounted before `b`: it is deeper, or as deep and not a flat
mount before a filesystem. -/
def UnmountsBefore (a b : Visit) : Prop :=
  depthKey vols b.volume < depthKey vols a.volume ∨
    (depthKey vols a.volume = depthKey vols b.volume ∧ (a.kind = .filesystem ∨ b.kind = .flat))

/-- One depth group: its filesystems, then its flat mounts. -/
theorem pairwise_group {l : List Nat} {d : Nat} (hl : ∀ i ∈ l, depthKey vols i = d) :
    (l.map (Visit.mk .filesystem) ++ l.map (Visit.mk .flat)).Pairwise (UnmountsBefore vols) := by
  have hR : ∀ k k' : UnmountKind, (k = .filesystem ∨ k' = .flat) →
      ∀ i ∈ l, ∀ j ∈ l, UnmountsBefore vols ⟨k, i⟩ ⟨k', j⟩ :=
    fun k k' hk i hi j hj => .inr ⟨(hl i hi).trans (hl j hj).symm, hk⟩
  simp only [List.pairwise_append, List.pairwise_map, List.mem_map]
  refine ⟨List.pairwise_of_forall_mem_list (hR _ _ (.inl rfl)),
    List.pairwise_of_forall_mem_list (hR _ _ (.inr rfl)), ?_⟩
  rintro _ ⟨i, hi, rfl⟩ _ ⟨j, hj, rfl⟩
  exact hR _ _ (.inl rfl) i hi j hj

theorem pairwise_schedule : (schedule vols).Pairwise (UnmountsBefore vols) := by
  have hs := sorted_sortedBy (depthKey vols) true (List.range vols.length)
  have hkey : ∀ g ∈ groupby (depthKey vols) (List.range vols.length) true, ∀ x ∈
      g.2.map (Visit.mk .filesystem) ++ g.2.map (Visit.mk .flat), depthKey vols x.volume = g.1 := by
    intro g hg x hx
    simp only [List.mem_append, List.mem_map] at hx
    rcases hx with ⟨i, hi, rfl⟩ | ⟨i, hi, rfl⟩ <;> exact key_of_mem_groupConsecutive _ hg hi
  refine List.pairwise_flatMap.mpr ⟨fun g hg => pairwise_group vols fun i hi =>
    key_of_mem_groupConsecutive _ hg hi, ?_⟩
  refine (pairwise_groupConsecutive _ hs).imp_of_mem fun {g h} hg hh hlt x hx y hy => .inl ?_
  rw [hkey g hg x hx, hkey h hh y hy]
  simpa [KeyLt] using hlt

/-- Over an acyclic list a parent is one level above its child. -/
theorem depthKey_parent (h : Acyclic vols) {i j : Nat} {v : VolumeInfo} (hv : vols[i]? = some v)
    (hp : v.parent = some j) : depthKey vols j + 1 = depthKey vols i := by
  have hi : i < vols.length := (List.getElem?_eq_some_iff.mp hv).1
  obtain ⟨d, hd⟩ := Option.isSome_iff_exists.mp (h i hi)
  obtain ⟨n, hn⟩ : ∃ n, vols.length = n + 1 := ⟨vols.length - 1, by omega⟩
  rw [hn] at hd
  obtain ⟨d', hd', rfl⟩ := volumeDepth_parent vols hv hp hd
  simp only [depthKey, hn, hd, volumeDepth_mono vols (Nat.le_succ n) hd', Option.getD_some]

end Schedule

/-! ### Children first -/

theorem unmount_children_first (env : Env) (pm : PluginManager) (w : World)
    (hacyc : Acyclic w.disk.volumes) (hq : QuietUnmount pm) :
    (∃ w', unmountPartitionsAndFilesystems env pm w = .ok () w' ∧
      (w'.log.drop w.log.length).filter Event.isDispatch =
        (readyVisits env pm (schedule w.disk.volumes) w).map Visit.event) ∧
    (schedule w.disk.volumes).Perm
      ((List.range w.disk.volumes.length).map (Visit.mk .filesystem) ++
        (List.range w.disk.volumes.length).map (Visit.mk .flat)) ∧
    (readyVisits env pm (schedule w.disk.volumes) w).Sublist (schedule w.disk.volumes) ∧
    (readyVisits env pm (schedule w.disk.volumes) w).Pairwise (UnmountsBefore w.disk.volumes) ∧
    ∀ i j v, w.disk.volumes[i]? = some v → v.parent = some j →
      depthKey w.disk.volumes j < depthKey w.disk.volumes i := by
  obtain ⟨w', hrun, es, hlog, hdisp⟩ := run_visits env pm hq (schedule w.disk.volumes) w
  refine ⟨⟨w', by rw [unmountPartitionsAndFilesystems_eq env pm w hacyc, hrun], by simpa [hlog]⟩,
    schedule_perm _, readyVisits_sublist .., (pairwise_schedule _).sublist (readyVisits_sublist ..),
    fun i j v hv hp => ?_⟩
  have := depthKey_parent _ hacyc hv hp
  omega

/-- A LUKS volume opened from the first partition and mounted, on a read-only
disk. -/
def luksInPartition : World where
  disk :=
    { readonly        := true
      flatMountedDisk := ⟨true, ["tmp", "disk"]⟩
      diskInfo        := {}
      volumes         :=
        [{ flatMount := some ⟨true, ["dev", "loop0"]⟩ },
         { flatMount := some ⟨true, ["dev", "mapper", "luks"]⟩,
           filesystemMount := some ⟨true, ["tmp", "mnt"]⟩,
           parent := some 0 }] }

/-- A host on which every path exists and every tool succeeds. -/
def allPresent : Env where
  runProcess _ _ := .ok ""
  pathExists _ _ := true
  readPartitions _ _ := .ok {}
  sizeBlockdevice _ _ := .ok 0
  tempPath _ := ⟨true, ["tmp", "tmp0"]⟩
  remove _ _ := .ok ()
  isFileOrBlockDevice _ _ := true
  isDir _ _ := true
  isNtfs _ _ := false
  randomLetters _ := "abcdefghij"

/-- A plugin that unmounts whatever it is offered. -/
def unmountingPlugins : PluginManager where
  plugins := [{ unmountFilesystem := fun _ => pure true, unmountVolume := fun _ => pure true }]

theorem luksInPartition_unmounted_child_first :
    Acyclic luksInPartition.disk.volumes ∧ QuietUnmount unmountingPlugins ∧
    ∃ w', unmountPartitionsAndFilesystems allPresent unmountingPlugins luksInPartition = .ok () w' ∧
      w'.log.filter Event.isDispatch =
        [.dispatch .unmountFilesystem (some 1), .dispatch .unmountVolume (some 1),
          .dispatch .unmountVolume (some 0)] := by
  have hacyc : Acyclic luksInPartition.disk.volumes := by decide
  have hq : QuietUnmount unmountingPlugins := by
    simp only [QuietUnmount, PluginManager.allPlugins, unmountingPlugins]
    exact fun p hp i => by
      obtain rfl : p = _ := by simpa using hp
      exact ⟨Quiet.pure _, Quiet.pure _⟩
  obtain ⟨⟨w', hrun, hdisp⟩, -⟩ := unmount_children_first allPresent unmountingPlugins _ hacyc hq
  exact ⟨hacyc, hq, w', hrun, by simpa [luksInPartition] using hdisp.trans rfl⟩

/-! ### A busy mount point -/

/-- Teardown with the fallback plugins alone, on a filesystem whose mount point
is busy at the first `umount`: `GenericMountPlugin.unmount_filesystem` makes that
one attempt, with no retry and no sleep, and answers `False`, so the filesystem
stays mounted and the volume keeps its `filesystem_mount`, whatever a later
`umount` would answer. -/
theorem unmountOne_busy_filesystem_kept (env : Env) {i : Nat} {v : VolumeInfo} {m : Path} {w : World}
    {err : DiskVmError} (hv : w.disk.volumes[i]? = some v) (hm : v.filesystemMount = some m)
    (hex : env.pathExists w.log m)
    (hmount : env.isMount (w.log ++ [.dispatch .unmountFilesystem (some i)]) m)
    (hbusy : env.runProcess (w.log ++ [.dispatch .unmountFilesystem (some i)])
      ["umount", m.toString] = .error err) :
    unmountOne env (withDefaultPlugins env []) .filesystem i w =
      .ok () {w with log := w.log ++ [.dispatch .unmountFilesystem (some i), .spawn ["umount", m.toString]]} := by
  have hgen := genericUnmountFilesystem_of_busy env (w := {w with log := w.log ++ [.dispatch .unmountFilesystem (some i)]}) hv hm hmount hbusy
  simp only [unmountOne, bind_apply, get_apply, mountAt, hv, Option.bind, UnmountKind.mountOf, hm, hex,
    ite_true, tryCatch_apply, PluginManager.dispatchUntilResult, emit_apply, withDefaultPlugins, UnmountKind.hookName,
    PluginManager.allPlugins, List.nil_append, PluginManager.firstTruthy, UnmountKind.hook,
    genericMountPlugin, hgen, lvmMountPlugin, pure_apply]
  simp

/-- A host on which the first `umount` of a path finds it busy and every later
one succeeds. -/
def busyOnce : Env :=
  { allPresent with
    runProcess := fun log args =>
      if args.head? = some "umount" ∧ .spawn args ∉ log then
        .error (.subprocessFailed args "target is busy")
      else .ok ""
    isMount := fun _ _ => true }

theorem luksInPartition_busy_filesystem_kept :
    unmountOne busyOnce (withDefaultPlugins busyOnce []) .filesystem 1 luksInPartition =
      .ok () {luksInPartition with
        log := luksInPartition.log ++
          [.dispatch .unmountFilesystem (some 1), .spawn ["umount", "/tmp/mnt"]]} :=
  unmountOne_busy_filesystem_kept busyOnce (v := _) (m := ⟨true, ["tmp", "mnt"]⟩) rfl rfl rfl rfl rfl

end DiskVm
