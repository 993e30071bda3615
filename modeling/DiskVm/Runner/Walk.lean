import DiskVm.Runner.LevelOrder

/-! The discovery walk against a mount oracle.

A mount oracle is a plugin whose `mount` answers from the volume's position and
flat mount alone (`oraclePlugin`), and whose other hooks are the base class's
no-ops. On a host where every tool and every size query succeeds
(`Cooperative`), and with answers whose volumes have their parent unset or set
to the volume being mounted and can be measured when their size is unset
(`FreshAnswers`), `_mount_partitions` records one volume per table entry, in
table order, and `_mount_filesystems` then lists exactly the breadth-first
enumeration of the forest the oracle unfolds below them, up to the sizes it
measures and the mounts it records (`VolumeInfo.shape`). Neither condition can
be dropped: a fresh answer without size or flat mount makes the walk raise
`TypeError`, and a failing `losetup` aborts it (`blankChild_raises_typeError`).

The walk keeps `volumes` equal to the roots followed by what was found in its
first `idx` volumes (`WalkInv`); each step adds the finds of one more volume.
When the walk runs off the end, nothing found in a later volume can be missing:
it would sit at a position before its parent (`walk_stop`). -/
namespace DiskVm

/-- A volume as the forest has it: the size the walk measures and the mount it
records are left out. -/
def VolumeInfo.shape (v : VolumeInfo) : VolumeInfo :=
  {v with size := 0, filesystemMount := none}

@[simp] theorem VolumeInfo.shape_flatMount (v : VolumeInfo) : v.shape.flatMount = v.flatMount := rfl

@[simp] theorem VolumeInfo.shape_parent (v : VolumeInfo) : v.shape.parent = v.parent := rfl

/-- The volumes `_mount_filesystems` adds for a `mount` answer. -/
def mountedVolumes : Option MountResult → List VolumeInfo
  | some (.volume v) => [v]
  | some (.volumes vs) => vs
  | _ => []

/-- A plugin whose `mount` answers from the volume's position and flat mount. -/
def oraclePlugin (ask : Nat → Path → Option MountResult) : Plugin where
  mount i := do
    let w ← get
    pure ((w.disk.volumes[i]?.bind (·.flatMount)).bind (ask i))

def oracle (ask : Nat → Path → Option MountResult) : PluginManager where
  plugins := [oraclePlugin ask]

/-- What the walk finds in the volume `v` at `i`. -/
def foundBy (ask : Nat → Path → Option MountResult) (i : Nat) (v : VolumeInfo) : List VolumeInfo :=
  mountedVolumes (v.flatMount.bind (ask i))

/-- Every tool and every size query succeeds. -/
structure Cooperative (env : Env) : Prop where
  runProcess : ∀ log args, ∃ out, env.runProcess log args = .ok out
  sizeBlockdevice : ∀ log p, ∃ s, env.sizeBlockdevice log p = .ok s

/-- The volumes an oracle returns are fresh: their parent is unset or the volume
being mounted, and a volume without a size has a flat mount to measure. -/
structure FreshAnswers (ask : Nat → Path → Option MountResult) : Prop where
  adopts : AdoptsAt (foundBy ask)
  measurable : ∀ i v c, c ∈ foundBy ask i v → c.size = 0 → c.flatMount.isSome

/-- The table's entries as `_mount_partitions` reads them: offset, size and
type. -/
def partitionEntries (d : DiskInfo) : List (Int × Int × VolumeType) :=
  match d.diskInfo.gpt, d.diskInfo.mbr with
  | some g, _ => g.partitions.map fun p =>
      (p.firstLba * d.sectorSize, (p.lastLba - p.firstLba + 1) * d.sectorSize, .guid p.guid)
  | none, some m => m.partitions.map fun p =>
      (p.lba * d.sectorSize, p.sectors * d.sectorSize, .mbrType p.type)
  | none, none => []

/-- The volume `_add_partition_info` records for an entry on the loop device `dev`. -/
def partitionVolume (e : Int × Int × VolumeType) (dev : Path) : VolumeInfo :=
  { flatMount := some dev, offset := e.1, size := e.2.1, volumeType := some e.2.2 }

/-- The partition volumes of `d` on the loop devices `devs`, in table order. -/
def partitionRoots (d : DiskInfo) (devs : List Path) : List VolumeInfo :=
  List.zipWith partitionVolume (partitionEntries d) devs

/-! ### One step at a time -/

section Steps
variable {env : Env} (ask : Nat → Path → Option MountResult)

theorem dispatchAll_oracle (name : HookName) (vol : Option Nat) (hook : Plugin → M Unit)
    (h : hook (oraclePlugin ask) = pure ()) (w : World) :
    (oracle ask).dispatchAll name vol hook w = .ok () {w with log := w.log ++ [.dispatch name vol]} := by
  simp [PluginManager.dispatchAll, bind_apply, oracle, PluginManager.allPlugins, h]

theorem dispatchUnlessReadonly_oracle (name : HookName) (vol : Option Nat) (hook : Plugin → M Unit)
    (h : hook (oraclePlugin ask) = pure ()) (w : World) :
    ∃ w', dispatchUnlessReadonly (oracle ask) name vol hook w = .ok () w' ∧ w'.disk = w.disk := by
  cases hr : w.disk.readonly
  · exact ⟨{w with log := w.log ++ [.dispatch name vol]},
      by simp [dispatchUnlessReadonly, bind_apply, hr, dispatchAll_oracle ask name vol hook h], rfl⟩
  · exact ⟨w, by simp [dispatchUnlessReadonly, bind_apply, hr], rfl⟩

theorem registerVolume_oracle (v : VolumeInfo) (w : World) :
    ∃ w', registerVolume (oracle ask) v w = .ok () w' ∧
      w'.disk = {w.disk with volumes := w.disk.volumes ++ [v]} :=
  registerVolume_of_idle (oracle ask) (fun p hp _ => by
    simp only [oracle, PluginManager.allPlugins, List.append_nil, List.mem_singleton] at hp
    subst hp
    exact ⟨rfl, rfl⟩) v w

theorem runProcess_cooperative (henv : Cooperative env) (args : List String) (w : World) :
    ∃ out, runProcess env args w = .ok out {w with log := w.log ++ [.spawn args]} := by
  obtain ⟨out, h⟩ := henv.runProcess w.log args
  exact ⟨out, by simp [runProcess, h]⟩

/-- The inner loop appends the volumes `mount` returned, adopted and measured. -/
theorem addChildren_oracle (henv : Cooperative env) (idx : Nat) (cs : List VolumeInfo)
    (hcs : ∀ c ∈ cs, c.size = 0 → c.flatMount.isSome) (w : World) :
    ∃ w' vs, addChildren env (oracle ask) idx cs w = .ok () w' ∧
      w'.disk = {w.disk with volumes := w.disk.volumes ++ vs} ∧
      vs.map VolumeInfo.shape = (cs.map (adopt idx)).map VolumeInfo.shape := by
  obtain ⟨w', vs, h, hd, hvs⟩ :=
    addChildren_of_registerVolume env (oracle ask) henv.sizeBlockdevice (registerVolume_oracle ask) idx cs hcs w
  refine ⟨w', vs, h, hd, ?_⟩
  have := congrArg (List.map fun v => {v with filesystemMount := none}) hvs
  simpa only [List.map_map] using this

theorem map_shape_modify (vols : List VolumeInfo) (i : Nat) (f : VolumeInfo → VolumeInfo)
    (hf : ∀ v, (f v).shape = v.shape) : (vols.modify f i).map VolumeInfo.shape = vols.map VolumeInfo.shape := by
  induction vols generalizing i with
  | nil => simp
  | cons v vols ih => cases i <;> simp [hf, ih]

theorem dispatchMount_oracle (idx : Nat) (w : World) :
    (oracle ask).dispatchUntilResult .mount (some idx) (·.mount idx) mountTruthy none w =
      .ok (if mountTruthy ((w.disk.volumes[idx]?.bind (·.flatMount)).bind (ask idx))
        then (w.disk.volumes[idx]?.bind (·.flatMount)).bind (ask idx) else none)
        {w with log := w.log ++ [.dispatch .mount (some idx)]} := by
  simp only [PluginManager.dispatchUntilResult, bind_apply, emit_apply, oracle,
    PluginManager.allPlugins, List.append_nil, PluginManager.firstTruthy, oraclePlugin, get_apply,
    pure_apply]
  split <;> rfl

/-- One turn of the `while` loop appends what `mount` found in the volume,
adopted and measured; a mounted filesystem changes no shape. -/
theorem mountVolumeAt_oracle (henv : Cooperative env) (hask : FreshAnswers ask) {idx : Nat}
    {v : VolumeInfo} {w : World} (hv : w.disk.volumes[idx]? = some v) :
    ∃ w' vols, mountVolumeAt env (oracle ask) idx v w = .ok () w' ∧
      w'.disk = {w.disk with volumes := vols} ∧
      vols.map VolumeInfo.shape =
        w.disk.volumes.map VolumeInfo.shape ++ ((foundBy ask idx v).map (adopt idx)).map VolumeInfo.shape := by
  have hmeas := hask.measurable idx v
  cases hf : v.flatMount with
  | none => exact ⟨w, w.disk.volumes, by simp [mountVolumeAt, hf], rfl, by simp [foundBy, hf, mountedVolumes]⟩
  | some p =>
    have hd := dispatchMount_oracle ask idx w
    have hfound : foundBy ask idx v = mountedVolumes (ask idx p) := by simp [foundBy, hf]
    rw [hfound] at hmeas ⊢
    simp only [hv, Option.some_bind, hf] at hd
    simp only [mountVolumeAt, hf, Option.isSome_some, ite_true, bind_apply, hd]
    have children : ∀ cs, (∀ c ∈ cs, c ∈ mountedVolumes (ask idx p)) → ∃ w' vols,
        addChildren env (oracle ask) idx cs {w with log := w.log ++ [.dispatch .mount (some idx)]} =
          .ok () w' ∧ w'.disk = {w.disk with volumes := vols} ∧
        vols.map VolumeInfo.shape = w.disk.volumes.map VolumeInfo.shape ++
          (cs.map (adopt idx)).map VolumeInfo.shape := fun cs hcs => by
      obtain ⟨w', vs, h, hd', hvs⟩ := addChildren_oracle ask henv idx cs
        (fun c hc => hmeas c (hcs c hc)) {w with log := w.log ++ [.dispatch .mount (some idx)]}
      exact ⟨w', _, h, hd', by simp [hvs]⟩
    cases ha : ask idx p with
    | none =>
      exact ⟨{w with log := w.log ++ [.dispatch .mount (some idx)]}, w.disk.volumes,
        by simp [mountTruthy], rfl, by simp [mountedVolumes]⟩
    | some res =>
      cases res with
      | volume c => exact children [c] (by simp [ha, mountedVolumes])
      | volumes cs =>
        cases cs with
        | nil =>
          exact ⟨{w with log := w.log ++ [.dispatch .mount (some idx)]}, w.disk.volumes,
            by simp [mountTruthy], rfl, by simp [mountedVolumes]⟩
        | cons c cs => exact children (c :: cs) (by simp [ha, mountedVolumes])
      | path m =>
        let w₁ : World := {w with
          disk := {w.disk with volumes := w.disk.volumes.modify (fun v => {v with filesystemMount := some m}) idx},
          log := w.log ++ [.dispatch .mount (some idx), .dispatch .mountedFilesystem (some idx)]}
        obtain ⟨w', h, hd'⟩ := dispatchUnlessReadonly_oracle ask .modifyFilesystem (some idx)
          (·.modifyFilesystem idx) rfl w₁
        refine ⟨w', _, ?_, hd', by
          simpa [mountedVolumes] using map_shape_modify w.disk.volumes idx
            (fun v => {v with filesystemMount := some m}) fun v => rfl⟩
        simp only [mountTruthy, ite_true, bind_apply, updateVolume_apply,
          dispatchAll_oracle ask _ _ (·.mountedFilesystem idx) rfl, List.append_assoc,
          List.singleton_append]
        exact h

end Steps

/-! ### The whole walk -/

section Run
variable {env : Env} {ask : Nat → Path → Option MountResult} {h : Nat} {roots : List VolumeInfo}

theorem foundBy_shape (i : Nat) (v : VolumeInfo) : foundBy ask i v.shape = foundBy ask i v := rfl

/-- A turn of the walk at `idx` is a turn at the enumeration's `idx`-th volume, and
keeps the walk's list equal to the roots and what was found in the first `idx`
volumes. -/
theorem walk_step (hfin : levelAt (foundBy ask) h 0 roots = []) {idx : Nat} {vols : List VolumeInfo}
    (hinv : vols.map VolumeInfo.shape =
      (roots ++ childrenFrom (foundBy ask) 0 ((levelOrder (foundBy ask) h roots).take idx)).map
        VolumeInfo.shape)
    {v : VolumeInfo} (hv : vols[idx]? = some v) :
    idx < (levelOrder (foundBy ask) h roots).length ∧
      vols.map VolumeInfo.shape ++ ((foundBy ask idx v).map (adopt idx)).map VolumeInfo.shape =
        (roots ++ childrenFrom (foundBy ask) 0
          ((levelOrder (foundBy ask) h roots).take (idx + 1))).map VolumeInfo.shape := by
  have hsplit := levelOrder_split (foundBy ask) hfin idx
  set L := levelOrder (foundBy ask) h roots
  generalize hP : roots ++ childrenFrom (foundBy ask) 0 (L.take idx) = P at hinv hsplit
  generalize childrenFrom (foundBy ask) (L.take idx).length (L.drop idx) = R at hsplit
  have hvi : idx < vols.length := (List.getElem?_eq_some_iff.mp hv).1
  have hlen : vols.length = P.length := by simpa using congrArg List.length hinv
  have hidx : idx < L.length := by rw [hsplit, List.length_append]; omega
  have hx : (L[idx]).shape = v.shape := by
    have h₁ : (vols.map VolumeInfo.shape)[idx]? = some v.shape := by simp [hv]
    have hPL : P[idx]? = some L[idx] := by
      rw [← List.getElem?_append_left (by omega : idx < P.length), ← hsplit,
        List.getElem?_eq_getElem hidx]
    rw [hinv, List.getElem?_map, hPL] at h₁
    simpa using h₁
  refine ⟨hidx, ?_⟩
  rw [List.take_succ, List.getElem?_eq_getElem hidx, Option.toList_some, childrenFrom_append,
    List.length_take_of_le hidx.le, ← List.append_assoc, hP, ← foundBy_shape, ← hx, foundBy_shape,
    hinv]
  simp [childrenFrom]

/-- When the walk runs off the end of its list, the list is the whole
enumeration: what was found in a later volume would sit before its parent. -/
theorem walk_stop (hfound : AdoptsAt (foundBy ask)) (hroots : ∀ r ∈ roots, r.parent = none)
    (hfin : levelAt (foundBy ask) h 0 roots = []) {idx : Nat} {vols : List VolumeInfo}
    (hinv : vols.map VolumeInfo.shape =
      (roots ++ childrenFrom (foundBy ask) 0 ((levelOrder (foundBy ask) h roots).take idx)).map
        VolumeInfo.shape)
    (hv : vols[idx]? = none) :
    vols.map VolumeInfo.shape = (levelOrder (foundBy ask) h roots).map VolumeInfo.shape := by
  have hsplit := levelOrder_split (foundBy ask) hfin idx
  set L := levelOrder (foundBy ask) h roots
  have hidx : ∀ c rest, childrenFrom (foundBy ask) (L.take idx).length (L.drop idx) = c :: rest →
      ∃ p, c.parent = some p ∧ idx ≤ p := fun c rest hrest => by
    have hidx : idx < L.length := by
      by_contra hcon
      rw [List.drop_eq_nil_of_le (by omega)] at hrest
      cases hrest
    obtain ⟨p, hp, hle, -⟩ := parent_of_mem_childrenFrom hfound (hrest ▸ List.mem_cons_self c rest)
    exact ⟨p, hp, by rwa [List.length_take_of_le hidx.le] at hle⟩
  generalize roots ++ childrenFrom (foundBy ask) 0 (L.take idx) = P at hinv hsplit
  generalize childrenFrom (foundBy ask) (L.take idx).length (L.drop idx) = R at hsplit hidx
  have hlen : vols.length = P.length := by simpa using congrArg List.length hinv
  have hvi : vols.length ≤ idx := List.getElem?_eq_none_iff.mp hv
  cases R with
  | nil => rw [hinv, hsplit, List.append_nil]
  | cons c rest =>
    obtain ⟨p, hp, hle⟩ := hidx c rest rfl
    have hpos : L[P.length]? = some c := by
      rw [hsplit, List.getElem?_append_right le_rfl, Nat.sub_self, List.getElem?_cons_zero]
    have := parentsBelow_levelOrder hfound h hroots _ c p hpos hp
    omega

/-- From any list that is the roots and what was found in its first `idx`
volumes, the loop runs off the end within the fuel and leaves the whole
enumeration. -/
theorem mountFilesystemsFrom_oracle (henv : Cooperative env) (hask : FreshAnswers ask)
    (hroots : ∀ r ∈ roots, r.parent = none) (hfin : levelAt (foundBy ask) h 0 roots = []) :
    ∀ fuel idx (w : World), w.disk.volumes.map VolumeInfo.shape =
        (roots ++ childrenFrom (foundBy ask) 0 ((levelOrder (foundBy ask) h roots).take idx)).map
          VolumeInfo.shape →
      idx ≤ (levelOrder (foundBy ask) h roots).length →
      (levelOrder (foundBy ask) h roots).length < idx + fuel →
      ∃ w', mountFilesystemsFrom env (oracle ask) fuel idx w = .ok true w' ∧
        w'.disk.volumes.map VolumeInfo.shape = (levelOrder (foundBy ask) h roots).map VolumeInfo.shape := by
  intro fuel
  induction fuel with
  | zero => intro idx w _ hle hlt; omega
  | succ fuel ih =>
    intro idx w hinv hle hlt
    cases hv : w.disk.volumes[idx]? with
    | none =>
      exact ⟨w, by simp [mountFilesystemsFrom, bind_apply, hv], walk_stop hask.adopts hroots hfin hinv hv⟩
    | some v =>
      obtain ⟨hidx, hnext⟩ := walk_step hfin hinv hv
      obtain ⟨w₁, vols, h₁, hd₁, hs₁⟩ := mountVolumeAt_oracle ask henv hask hv
      obtain ⟨w₂, h₂, hs₂⟩ := ih (idx + 1) w₁ (by rw [hd₁, ← hnext, hs₁]) (by omega) (by omega)
      exact ⟨w₂, by simp [mountFilesystemsFrom, bind_apply, hv, h₁, h₂], hs₂⟩

end Run

/-! ### The partitions -/

section Partitions
variable {env : Env} (ask : Nat → Path → Option MountResult)

theorem addPartitionInfo_oracle (henv : Cooperative env) (o s : Int) (t : VolumeType) (w : World) :
    ∃ dev w', addPartitionInfo env (oracle ask) o s t w = .ok () w' ∧
      w'.disk = {w.disk with volumes := w.disk.volumes ++ [partitionVolume (o, s, t) dev]} := by
  obtain ⟨out, hout⟩ := runProcess_cooperative henv (losetupArgs w.disk o s) w
  obtain ⟨w', h, hd⟩ := registerVolume_oracle ask
    { flatMount := some (Path.ofString (stripNewlines out)), parent := none, offset := o, size := s,
      volumeType := some t } {w with log := w.log ++ [.spawn (losetupArgs w.disk o s)]}
  exact ⟨_, w', by simp only [addPartitionInfo, bind_apply, get_apply, hout]; exact h, hd⟩

/-- The loop of `_mount_partitions` over a table's entries: one volume each, in
order; the sector size it reads each time does not change. -/
theorem forM_addPartitionInfo_oracle (henv : Cooperative env) {α : Type}
    (entry : Int → α → Int × Int × VolumeType) (ps : List α) (w : World) :
    ∃ devs w', ps.forM (fun p => (do
        let ss := (← get).disk.sectorSize
        addPartitionInfo env (oracle ask) (entry ss p).1 (entry ss p).2.1 (entry ss p).2.2 : M Unit)) w =
          .ok () w' ∧ devs.length = ps.length ∧
      w'.disk =
        {w.disk with
          volumes := w.disk.volumes ++ List.zipWith partitionVolume (ps.map (entry w.disk.sectorSize)) devs} := by
  induction ps generalizing w with
  | nil => exact ⟨[], w, rfl, rfl, by simp⟩
  | cons p ps ih =>
    obtain ⟨dev, w₁, h₁, hd₁⟩ := addPartitionInfo_oracle ask henv (entry w.disk.sectorSize p).1
      (entry w.disk.sectorSize p).2.1 (entry w.disk.sectorSize p).2.2 w
    obtain ⟨devs, w₂, h₂, hl, hd₂⟩ := ih w₁
    refine ⟨dev :: devs, w₂, ?_, by simp [hl], by simp [hd₂, hd₁, DiskInfo.sectorSize]⟩
    simp only [List.forM_cons', bind_apply, get_apply]
    rw [h₁]
    exact h₂

/-- `_mount_partitions` records the table's entries, in order, on the loop
devices `losetup` returned. -/
theorem mountPartitions_oracle (henv : Cooperative env) (w : World) :
    ∃ devs w', mountPartitions env (oracle ask) w = .ok () w' ∧
      devs.length = (partitionEntries w.disk).length ∧
      w'.disk = {w.disk with volumes := w.disk.volumes ++ partitionRoots w.disk devs} := by
  cases hg : w.disk.diskInfo.gpt with
  | some g =>
    obtain ⟨devs, w', h, hl, hd⟩ := forM_addPartitionInfo_oracle ask henv
      (fun ss p => (p.firstLba * ss, (p.lastLba - p.firstLba + 1) * ss, .guid p.guid)) g.partitions w
    refine ⟨devs, w', ?_, by simpa [partitionEntries, hg] using hl,
      by simpa [partitionRoots, partitionEntries, hg] using hd⟩
    simp only [mountPartitions, bind_apply, get_apply, hg]
    exact h
  | none =>
    cases hm : w.disk.diskInfo.mbr with
    | some m =>
      obtain ⟨devs, w', h, hl, hd⟩ := forM_addPartitionInfo_oracle ask henv
        (fun ss p => (p.lba * ss, p.sectors * ss, .mbrType p.type)) m.partitions w
      refine ⟨devs, w', ?_, by simpa [partitionEntries, hg, hm] using hl,
        by simpa [partitionRoots, partitionEntries, hg, hm] using hd⟩
      simp only [mountPartitions, bind_apply, get_apply, hg, hm]
      exact h
    | none =>
      exact ⟨[], w, by simp [mountPartitions, bind_apply, hg, hm], by simp [partitionEntries, hg, hm],
        by simp [partitionRoots, partitionEntries, hg, hm]⟩

end Partitions

/-! ### Level order -/

theorem parent_of_mem_zipWith_partitionVolume :
    ∀ (es : List (Int × Int × VolumeType)) (devs : List Path) (r : VolumeInfo),
      r ∈ List.zipWith partitionVolume es devs → r.parent = none
  | [], _, _, hr => by simp at hr
  | _ :: _, [], _, hr => by simp at hr
  | e :: es, dev :: devs, r, hr => by
    rcases List.mem_cons.mp (List.zipWith_cons_cons ▸ hr) with rfl | hr
    · rfl
    · exact parent_of_mem_zipWith_partitionVolume es devs r hr

theorem parentsBelow_of_map_shape {n : Nat} {vols L : List VolumeInfo}
    (h : vols.map VolumeInfo.shape = L.map VolumeInfo.shape) (hL : ParentsBelow n L) :
    ParentsBelow n vols := by
  intro i v p hv hp
  have hi : (L.map VolumeInfo.shape)[i]? = some v.shape := by rw [← h]; simp [hv]
  obtain ⟨x, hx, hxv⟩ := Option.map_eq_some'.mp (List.getElem?_map .. ▸ hi)
  exact hL i x p hx (by simpa [hp] using congrArg VolumeInfo.parent hxv)

theorem pairwise_parentLe_of_map_shape {vols L : List VolumeInfo}
    (h : vols.map VolumeInfo.shape = L.map VolumeInfo.shape) (hL : L.Pairwise ParentLe) :
    vols.Pairwise ParentLe := by
  have hmap : (L.map VolumeInfo.shape).Pairwise ParentLe := List.pairwise_map.mpr hL
  rw [← h, List.pairwise_map] at hmap
  exact hmap

theorem discovery_lists_level_order (env : Env) (ask : Nat → Path → Option MountResult) (w : World)
    (henv : Cooperative env) (hask : FreshAnswers ask) (hw : w.disk.volumes = []) :
    ∃ devs : List Path, devs.length = (partitionEntries w.disk).length ∧
      ∀ h, levelAt (foundBy ask) h 0 (partitionRoots w.disk devs) = [] →
      ∀ fuel, (levelOrder (foundBy ask) h (partitionRoots w.disk devs)).length < fuel →
      ∃ w', (do mountPartitions env (oracle ask); mountFilesystems env (oracle ask) fuel) w =
          .ok true w' ∧
        (w'.disk.volumes.take (partitionEntries w.disk).length).map VolumeInfo.shape =
          (partitionRoots w.disk devs).map VolumeInfo.shape ∧
        w'.disk.volumes.map VolumeInfo.shape =
          (levelOrder (foundBy ask) h (partitionRoots w.disk devs)).map VolumeInfo.shape ∧
        ParentsBelow 0 w'.disk.volumes ∧ Acyclic w'.disk.volumes ∧
        ∀ n < w'.disk.volumes.length, ∀ m ≤ n, depthKey w'.disk.volumes m ≤ depthKey w'.disk.volumes n := by
  obtain ⟨devs, w₁, h₁, hl, hd₁⟩ := mountPartitions_oracle ask henv w
  refine ⟨devs, hl, fun h hfin fuel hfuel => ?_⟩
  have hroots : ∀ r ∈ partitionRoots w.disk devs, r.parent = none :=
    parent_of_mem_zipWith_partitionVolume _ _
  obtain ⟨w₂, h₂, hs₂⟩ := mountFilesystemsFrom_oracle henv hask hroots hfin fuel 0 w₁
    (by simp [hd₁, hw, childrenFrom]) (Nat.zero_le _) (by omega)
  have hb := parentsBelow_of_map_shape hs₂ (parentsBelow_levelOrder hask.adopts h hroots)
  have hp := pairwise_parentLe_of_map_shape hs₂ (pairwise_parentLe_levelOrder hask.adopts h hroots)
  have hlen : (partitionRoots w.disk devs).length = (partitionEntries w.disk).length := by
    simp [partitionRoots, hl]
  refine ⟨w₂, by simp [bind_apply, h₁, mountFilesystems, h₂], ?_, hs₂, hb,
    acyclic_of_parentsBelow hb, depthKey_mono hb hp⟩
  rw [List.map_take, hs₂, ← List.map_take, levelOrder_eq_roots_append _ hfin, ← hlen,
    List.take_left]

/-- A read-only GPT disk with one partition, sectors 2048 to 4095. -/
def onePartitionDisk : World where
  disk :=
    { readonly        := true
      flatMountedDisk := ⟨true, ["tmp", "disk"]⟩
      diskInfo        := { gpt := some ⟨512, [⟨2048, 4095, "0FC63DAF-8483-4772-8E79-3D69D8477DE4"⟩]⟩ } }

/-- The partition holds a LUKS container, whose mapping holds a filesystem. -/
def luksOracle (i : Nat) (_ : Path) : Option MountResult :=
  if i = 0 then some (.volume { flatMount := some ⟨true, ["dev", "mapper", "luks"]⟩ })
  else if i = 1 then some (.path ⟨true, ["tmp", "mnt"]⟩)
  else none

theorem luksOracle_fresh : FreshAnswers luksOracle := by
  have hmem : ∀ i v c, c ∈ foundBy luksOracle i v →
      c = { flatMount := some ⟨true, ["dev", "mapper", "luks"]⟩ } := by
    intro i v c hc
    cases hf : v.flatMount with
    | none => simp [foundBy, hf, mountedVolumes] at hc
    | some p =>
      simp only [foundBy, hf, Option.some_bind, luksOracle] at hc
      split_ifs at hc <;> simp_all [mountedVolumes]
  exact ⟨fun i v c hc => .inl (by rw [hmem i v c hc]), fun i v c hc _ => by rw [hmem i v c hc]; rfl⟩

theorem onePartition_luks_discovered :
    Cooperative allPresent ∧ FreshAnswers luksOracle ∧
    ∃ w', (do mountPartitions allPresent (oracle luksOracle)
              mountFilesystems allPresent (oracle luksOracle) 3) onePartitionDisk = .ok true w' ∧
      w'.disk.volumes.map (·.parent) = [none, some 0] := by
  have hc : Cooperative allPresent := ⟨fun _ _ => ⟨_, rfl⟩, fun _ _ => ⟨_, rfl⟩⟩
  obtain ⟨devs, hl, hall⟩ :=
    discovery_lists_level_order allPresent luksOracle onePartitionDisk hc luksOracle_fresh rfl
  obtain ⟨d, rfl⟩ : ∃ d, devs = [d] := by
    match devs, hl with
    | [d], _ => exact ⟨d, rfl⟩
  obtain ⟨w', hrun, -, hshape, -⟩ := hall 2 rfl 3 (show 2 < 3 by decide)
  refine ⟨hc, luksOracle_fresh, w', hrun, ?_⟩
  have := congrArg (List.map VolumeInfo.parent) hshape
  simp only [List.map_map, Function.comp_def, VolumeInfo.shape_parent] at this
  exact this.trans rfl

/-- The partition's `mount` answers with a fresh `VolumeInfo()`: no flat mount
to measure, and size 0. -/
def blankOracle (i : Nat) (_ : Path) : Option MountResult :=
  if i = 0 then some (.volume {}) else none

/-- A host whose `losetup` fails. -/
def noLoopDevices : Env :=
  {allPresent with runProcess := fun _ args => .error (.subprocessFailed args "losetup: failed to set up loop device")}

/-- Without the two conditions the walk does not run to the end. The blank answer
is fresh, yet `size_blockdevice(None)` raises `TypeError` on it; and a failing
`losetup` aborts `_mount_partitions`. -/
theorem blankChild_raises_typeError :
    AdoptsAt (foundBy blankOracle) ∧
      (∃ w', (do mountPartitions allPresent (oracle blankOracle)
                 mountFilesystems allPresent (oracle blankOracle) 3) onePartitionDisk =
        .error .typeError w') ∧
      ∃ e w', (do mountPartitions noLoopDevices (oracle luksOracle)
                  mountFilesystems noLoopDevices (oracle luksOracle) 3) onePartitionDisk =
        .error (.diskVm e) w' := by
  refine ⟨fun i v c hc => .inl ?_, ⟨_, rfl⟩, ⟨_, _, rfl⟩⟩
  cases hf : v.flatMount with
  | none => simp [foundBy, hf, mountedVolumes] at hc
  | some p =>
    simp only [foundBy, hf, Option.some_bind, blankOracle] at hc
    split_ifs at hc <;> simp_all [mountedVolumes]

end DiskVm
