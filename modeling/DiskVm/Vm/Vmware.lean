import DiskVm.Vm.Vmx

/-! The VMware backend's writer and reader (`vm/vmware.py`, `vm/vmdk.py`).

`VMwareVirtualMachineBuilder.write` writes each disk's descriptor under
`out_dir`, then the VMX file `out_dir / (name + '.vmx')`: fixed settings, then per
disk a `present` and a `fileName` line naming the descriptor by `str(d.path)`,
and each adapter's `present` line once. `VmwareVirtualMachine.disks` reads the
VMX file back: the `fileName` values in order, a relative one resolved against
the VMX file's directory.

`disks_write` is the round trip. For names over `[A-Za-z0-9._-]`, a guest OS
without a colon and an output directory whose components hold no quote, the
disks read back are the disks written, in order and with their types, at
`out_dir / d.path`. That is `d.path` itself when `out_dir` is absolute. When it
is relative, `d.path` already starts with `out_dir` and the resolution adds it a
second time, so no disk read back is a descriptor that was written. For a builder
whose disks `new_disk` made and `add_disk` added in turn (`Numbered`), the
descriptors are pairwise distinct and none is the VMX file
(`write_paths_distinct`). -/
namespace DiskVm.Vm

/-- `SizeUnit.MB`. -/
def sizeUnitMb : Int := 1024 * 1024

namespace VmdkBuilder

/-- What `VmdkBuilder.write` returns: the descriptor it writes,
`out_dir / (name + '.vmdk')`, and the disk's type. -/
def write (db : VirtualDiskBuilder) (outDir : Path) : VirtualDisk :=
  ⟨outDir.join (db.name ++ ".vmdk"), db.type⟩

end VmdkBuilder

/-- `self.guest_os or "other-64"`. -/
def guestOsOrDefault : Option String → String
  | some g => if g = "" then "other-64" else g
  | none => "other-64"

namespace VMwareVirtualMachineBuilder

/-- The lines `write` starts the VMX file with, `guestOS` last. -/
def vmxHeader (b : VirtualMachineBuilder) : List String :=
  [ "# Static Values",
    ".encoding = \"UTF-8\"",
    "config.version = \"8\"",
    "virtualHW.version = \"18\"",
    "displayName = \"" ++ b.name ++ "\"",
    "memsize = \"" ++ toString (b.memory.fdiv sizeUnitMb) ++ "\"",
    "numvcpus = \"" ++ toString b.cpus ++ "\"",
    "cpuid.coresPerSocket = \"1\"",
    "firmware = \"" ++ (b.firmware.getD .efi).value ++ "\"",
    "ethernet0.present = \"TRUE\"",
    "ethernet0.startConnected = \"FALSE\"",
    "ethernet0.connectionType = \"nat\"",
    "ethernet0.addressType = \"generated\"",
    "rtc.starttime = \"" ++ toString b.time ++ "\"",
    "tools.syncTime = \"FALSE\"",
    "time.synchronize.continue = \"FALSE\"",
    "time.synchronize.restore = \"FALSE\"",
    "time.synchronize.resume.disk = \"FALSE\"",
    "time.synchronize.resume.memory = \"FALSE\"",
    "time.synchronize.shrink = \"FALSE\"",
    "time.synchronize.tools.startup = \"FALSE\"",
    "isolation.tools.setOption.disable = \"TRUE\"",
    "snapshot.disabled = \"TRUE\"",
    "floppy0.present = \"FALSE\"",
    "pciBridge0.present = \"TRUE\"",
    "pciBridge4.present = \"TRUE\"",
    "pciBridge4.virtualDev = \"pcieRootPort\"",
    "pciBridge4.functions = \"8\"",
    "pciBridge5.present = \"TRUE\"",
    "pciBridge5.virtualDev = \"pcieRootPort\"",
    "pciBridge5.functions = \"8\"",
    "pciBridge6.present = \"TRUE\"",
    "pciBridge6.virtualDev = \"pcieRootPort\"",
    "pciBridge6.functions = \"8\"",
    "pciBridge7.present = \"TRUE\"",
    "pciBridge7.virtualDev = \"pcieRootPort\"",
    "pciBridge7.functions = \"8\"",
    "guestOS = \"" ++ guestOsOrDefault b.guestOs ++ "\"" ]

/-- `disk_name`, `f'{d.type.value}0:{i}'`. -/
def diskName (t : DiskType) (i : Nat) : String := t.value ++ "0:" ++ toString i

/-- One pass of the disk loop: the disk's two lines, then its adapter's line
unless the file has it already. -/
def addDiskLines (vmx : List String) (i : Nat) (d : VirtualDisk) : List String :=
  let vmx := vmx ++ [diskName d.type i ++ ".present = \"TRUE\"",
    diskName d.type i ++ ".fileName = \"" ++ d.path.toString ++ "\""]
  let diskAdapter := d.type.value ++ "0.present = \"TRUE\""
  if diskAdapter ∈ vmx then vmx else vmx ++ [diskAdapter]

/-- What `write` leaves behind: the disks its descriptors' writes returned, in
order, and the VMX file with the text written to it. -/
structure Output where
  disks : List VirtualDisk
  vmx : Path
  vmxText : String

/-- `VMwareVirtualMachineBuilder.write(out_dir)`. -/
def write (b : VirtualMachineBuilder) (outDir : Path) : Output :=
  let disks := b.disks.map (VmdkBuilder.write · outDir)
  let vmx := disks.enum.foldl (fun vmx (i, d) => addDiskLines vmx i d) (vmxHeader b)
  { disks := disks, vmx := outDir.join (b.name ++ ".vmx"), vmxText := "\n".intercalate vmx }

end VMwareVirtualMachineBuilder

/-- A VMware VM: its VMX file. -/
structure VmwareVirtualMachine where
  vmx : Path

/-- `disks`, from the text `open(self.vmx).read()` returns. -/
def VmwareVirtualMachine.disks (vm : VmwareVirtualMachine) (text : String) : List VirtualDisk :=
  (findAll text.toList).map fun (t, value) =>
    let path := Path.ofString (String.mk value)
    ⟨if path.isAbsolute then path else vm.vmx.parent / path, t⟩

/-- Name characters, `[A-Za-z0-9._-]`. -/
def isNameChar (c : Char) : Bool := c.isAlphanum || c == '.' || c == '_' || c == '-'

/-! ### The characters of the lines -/

theorem not_mem_of_names {s : String} (hs : s.toList.all isNameChar) {c : Char} (hc : isNameChar c = false) :
    c ∉ s.toList :=
  fun h => by simpa [hc] using List.all_eq_true.1 hs c h

/-- A name with an extension of two or more name characters is a component
`Path` keeps, and holds no quote. -/
theorem name_ext_valid {s : String} (hs : s.toList.all isNameChar) (ext : String)
    (hext : ext.toList.all isNameChar) (hlen : 2 ≤ ext.length) :
    Path.ValidPart (s ++ ext) ∧ '"' ∉ (s ++ ext).toList := by
  have hall : (s ++ ext).toList.all isNameChar := by simp_all [toList_string_append]
  have hlen' : 2 ≤ (s ++ ext).length := by rw [String.length_append]; omega
  refine ⟨⟨fun h => ?_, fun h => ?_, not_mem_of_names hall rfl⟩, not_mem_of_names hall rfl⟩ <;>
    · rw [h] at hlen'; exact absurd hlen' (by decide)

theorem colon_not_mem_int (x : Int) : ':' ∉ (toString x).toList := by
  cases x with
  | ofNat n => exact fun h => absurd ((toString_digits n).2 _ h) (by decide)
  | negSucc n =>
    show ':' ∉ ("-" ++ toString (n + 1)).toList
    rw [toList_string_append, List.mem_append, not_or]
    exact ⟨by decide, fun h => absurd ((toString_digits (n + 1)).2 _ h) (by decide)⟩

namespace VMwareVirtualMachineBuilder

theorem vmxHeader_colonFree (b : VirtualMachineBuilder) (hname : b.name.toList.all isNameChar)
    (hguest : ∀ g, b.guestOs = some g → ':' ∉ g.toList) : ∀ l ∈ vmxHeader b, ':' ∉ l.toList := by
  have hname' : ':' ∉ b.name.toList := not_mem_of_names hname rfl
  have hfirmware : ':' ∉ (b.firmware.getD .efi).value.toList := by cases b.firmware.getD .efi <;> decide
  have hguest' : ':' ∉ (guestOsOrDefault b.guestOs).toList := by
    unfold guestOsOrDefault
    split
    · split
      · decide
      · exact hguest _ ‹_›
    · decide
  have hmemory := colon_not_mem_int (b.memory.fdiv sizeUnitMb)
  have hcpus := colon_not_mem_int b.cpus
  have htime := colon_not_mem_int b.time
  simp only [vmxHeader, List.forall_mem_cons, List.not_mem_nil, false_implies, implies_true, and_true]
  repeat' constructor
  all_goals first
    | decide
    | (simp only [toList_string_append, List.mem_append, not_or]; exact ⟨⟨by decide, ‹_›⟩, by decide⟩)

theorem presentLine_toList (t : DiskType) (i : Nat) :
    (diskName t i ++ ".present = \"TRUE\"").toList =
      t.value.toList ++ '0' :: ':' :: ((toString i).toList ++ '.' :: "present = \"TRUE\"".toList) := by
  simp only [diskName, toList_string_append, List.append_assoc]
  rfl

theorem fileNameLine_toList (t : DiskType) (i : Nat) (path : String) :
    (diskName t i ++ ".fileName = \"" ++ path ++ "\"").toList =
      t.value.toList ++ '0' :: ':' :: ((toString i).toList ++ (".fileName = \"".toList ++ (path.toList ++ ['"']))) := by
  simp only [diskName, toList_string_append, List.append_assoc]
  rfl

/-- One pass of the disk loop keeps every line closed and adds the disk's entry,
whether or not it adds the adapter's line. -/
theorem addDiskLines_closed {vmx : List String} (hvmx : ∀ l ∈ vmx, Closed l.toList) (i : Nat) (d : VirtualDisk)
    (hne : d.path.toString.toList ≠ []) (hq : '"' ∉ d.path.toString.toList) :
    (∀ l ∈ addDiskLines vmx i d, Closed l.toList) ∧
      (addDiskLines vmx i d).flatMap (fun l => findAll l.toList) =
        vmx.flatMap (fun l => findAll l.toList) ++ [(d.type, d.path.toString.toList)] := by
  have hp := @closed_diskKey d.type i '.' "present = \"TRUE\"".toList rfl (fun _ => rfl) (by decide)
  rw [← presentLine_toList] at hp
  have hf := closed_fileName d.type i hne hq
  rw [← fileNameLine_toList] at hf
  have ha := closed_of_colonFree (l := (d.type.value ++ "0.present = \"TRUE\"").toList)
    (by rw [toList_string_append, List.mem_append, not_or]; cases d.type <;> decide)
  obtain ⟨extra, hextra, heq⟩ : ∃ extra, (∀ l ∈ extra, l = d.type.value ++ "0.present = \"TRUE\"") ∧
      addDiskLines vmx i d = vmx ++ [diskName d.type i ++ ".present = \"TRUE\"",
        diskName d.type i ++ ".fileName = \"" ++ d.path.toString ++ "\""] ++ extra := by
    unfold addDiskLines
    dsimp only
    split
    exacts [⟨[], by simp, (List.append_nil _).symm⟩, ⟨_, by simp, rfl⟩]
  have hadapter : extra.flatMap (fun l => findAll l.toList) = [] :=
    List.flatMap_eq_nil_iff.2 fun l hl => hextra l hl ▸ ha.2
  rw [heq]
  refine ⟨fun l hl => ?_, by simp only [List.flatMap_append, List.flatMap_cons, List.flatMap_nil, hp.2, hf.2,
    hadapter, List.nil_append, List.append_nil]⟩
  simp only [List.mem_append, List.mem_cons, List.not_mem_nil, or_false] at hl
  rcases hl with (hl | rfl | rfl) | hl
  exacts [hvmx l hl, hp.1, hf.1, hextra l hl ▸ ha.1]

/-- The disk loop: every line closed, and the entries of the disks in order. -/
theorem foldl_addDiskLines (ds : List VirtualDisk)
    (hds : ∀ d ∈ ds, d.path.toString.toList ≠ [] ∧ '"' ∉ d.path.toString.toList) (n : Nat) {vmx : List String}
    (hvmx : ∀ l ∈ vmx, Closed l.toList) :
    (∀ l ∈ (ds.enumFrom n).foldl (fun vmx (i, d) => addDiskLines vmx i d) vmx, Closed l.toList) ∧
      ((ds.enumFrom n).foldl (fun vmx (i, d) => addDiskLines vmx i d) vmx).flatMap (fun l => findAll l.toList) =
        vmx.flatMap (fun l => findAll l.toList) ++ ds.map fun d => (d.type, d.path.toString.toList) := by
  induction ds generalizing n vmx with
  | nil => simpa using hvmx
  | cons d ds ih =>
    have hd := hds d (List.mem_cons_self _ _)
    have hstep := addDiskLines_closed hvmx n d hd.1 hd.2
    have hrest := ih (fun d hd => hds d (List.mem_cons_of_mem _ hd)) (n + 1) hstep.1
    simp only [List.enumFrom_cons, List.foldl_cons]
    exact ⟨hrest.1, by rw [hrest.2, hstep.2]; simp⟩

/-! ### The round trip -/

/-- A disk `write` returns lies in `out_dir`, one component down. -/
theorem mem_write_disks {b : VirtualMachineBuilder} {outDir : Path}
    (hdisks : ∀ db ∈ b.disks, db.name.toList.all isNameChar) {d : VirtualDisk} (hd : d ∈ (write b outDir).disks) :
    ∃ n, Path.ValidPart n ∧ '"' ∉ n.toList ∧ d.path = ⟨outDir.absolute, outDir.parts ++ [n]⟩ := by
  simp only [write, List.mem_map] at hd
  obtain ⟨db, hdb, rfl⟩ := hd
  have hv := name_ext_valid (hdisks db hdb) ".vmdk" (by decide) (by decide)
  exact ⟨_, hv.1, hv.2, Path.join_part _ hv.1⟩

/-- For a builder whose disks were made by `new_disk` and added in order, the
descriptors `write` writes are pairwise distinct, and none of them is the VMX
file. -/
theorem write_paths_distinct {b : VirtualMachineBuilder} (outDir : Path) (hname : b.name.toList.all isNameChar)
    (hb : b.Numbered) :
    ((write b outDir).disks.map (·.path)).Nodup ∧ (write b outDir).vmx ∉ (write b outDir).disks.map (·.path) := by
  have hdisk : ∀ j, (b.name ++ "-disk" ++ toString (j + 1)).toList.all isNameChar := fun j => by
    have hdigits : ∀ c ∈ (toString (j + 1)).toList, isNameChar c := fun c hc => by
      simp [isNameChar, Char.isAlphanum, (toString_digits (j + 1)).2 c hc]
    simp_all [toList_string_append]
    decide
  have hvalid := fun j => (name_ext_valid (hdisk j) ".vmdk" (by decide) (by decide)).1
  have hpaths : (write b outDir).disks.map (·.path) = (List.range b.disks.length).map fun j =>
      ⟨outDir.absolute, outDir.parts ++ [b.name ++ "-disk" ++ toString (j + 1) ++ ".vmdk"]⟩ := by
    refine List.ext_getElem (by simp [write]) fun j h₁ h₂ => ?_
    simp only [write, List.map_map, List.getElem_map, List.getElem_range, Function.comp_apply, VmdkBuilder.write]
    rw [hb j (by simpa using h₂), Path.join_part _ (hvalid j)]
  have hvmx : (write b outDir).vmx = ⟨outDir.absolute, outDir.parts ++ [b.name ++ ".vmx"]⟩ :=
    Path.join_part _ (name_ext_valid hname ".vmx" (by decide) (by decide)).1
  rw [hpaths, hvmx]
  refine ⟨(List.nodup_range _).map fun i j h => ?_, fun h => ?_⟩
  · have hc := congrArg String.toList (List.singleton_inj.1 (List.append_cancel_left (congrArg Path.parts h)))
    simp only [toList_string_append, List.append_assoc, List.append_cancel_left_eq,
      List.append_cancel_right_eq] at hc
    have := toString_injective (String.ext hc)
    omega
  · obtain ⟨j, -, hj⟩ := List.mem_map.1 h
    have hc := congrArg String.toList (List.singleton_inj.1 (List.append_cancel_left (congrArg Path.parts hj)))
    simp [toList_string_append] at hc

theorem twoDisks_paths_distinct :
    ((write { name := "vm", disks := [{ name := "vm-disk1" }, { name := "vm-disk2" }] } ⟨true, ["out"]⟩).disks.map
        (·.path)).Nodup ∧
      (write { name := "vm", disks := [{ name := "vm-disk1" }, { name := "vm-disk2" }] } ⟨true, ["out"]⟩).vmx ∉
        (write { name := "vm", disks := [{ name := "vm-disk1" }, { name := "vm-disk2" }] } ⟨true, ["out"]⟩).disks.map
          (·.path) :=
  write_paths_distinct ⟨true, ["out"]⟩ (by decide) (by unfold VirtualMachineBuilder.Numbered; decide)

section RoundTrip
variable {b : VirtualMachineBuilder} {outDir : Path} (hname : b.name.toList.all isNameChar)
  (hdisks : ∀ db ∈ b.disks, db.name.toList.all isNameChar) (hguest : ∀ g, b.guestOs = some g → ':' ∉ g.toList)
  (hout : ∀ c ∈ outDir.parts, Path.ValidPart c ∧ '"' ∉ c.toList)

include hdisks hout in
/-- The components of a written descriptor's path are ones `Path` keeps, without
a quote. -/
theorem write_disk_parts {d : VirtualDisk} (hd : d ∈ (write b outDir).disks) :
    ∀ c ∈ d.path.parts, Path.ValidPart c ∧ '"' ∉ c.toList := by
  obtain ⟨n, hn, hq, hpath⟩ := mem_write_disks hdisks hd
  rw [hpath]
  simp only [List.mem_append, List.mem_singleton]
  rintro c (hc | rfl)
  exacts [hout c hc, ⟨hn, hq⟩]

include hname hdisks hguest hout

/-- `findall` over the VMX text finds the written disks, in order, each with its
type and `str(d.path)`. -/
theorem findAll_write :
    findAll (write b outDir).vmxText.toList =
      (write b outDir).disks.map fun d => (d.type, d.path.toString.toList) := by
  have hds : ∀ d ∈ (write b outDir).disks, d.path.toString.toList ≠ [] ∧ '"' ∉ d.path.toString.toList := by
    intro d hd
    have hparts := write_disk_parts hdisks hout hd
    refine ⟨Path.toString_ne_nil fun c hc => (hparts c hc).1, fun h => ?_⟩
    rcases Path.mem_toString h with h | h | ⟨c, hc, h⟩
    · exact absurd h (by decide)
    · exact absurd h (by decide)
    · exact (hparts c hc).2 h
  have hheader := fun l hl => closed_of_colonFree (vmxHeader_colonFree b hname hguest l hl)
  have hloop := foldl_addDiskLines _ hds 0 fun l hl => (hheader l hl).1
  have hnil : (vmxHeader b).flatMap (fun l => findAll l.toList) = [] :=
    List.flatMap_eq_nil_iff.2 fun l hl => (hheader l hl).2
  rw [hnil, List.nil_append] at hloop
  show findAll ("\n".intercalate (((write b outDir).disks.enumFrom 0).foldl
    (fun vmx (i, d) => addDiskLines vmx i d) (vmxHeader b))).toList = _
  rw [toList_intercalate, show "\n".toList = ['\n'] from rfl, findAll_intercalate fun l hl => by
    obtain ⟨l', hl', rfl⟩ := List.mem_map.1 hl; exact hloop.1 l' hl', ← hloop.2]
  simp only [List.flatMap, List.map_map, Function.comp_def]

/-- `disks` on the VM `write` returns, reading the text `write` wrote: the
written disks, each at `out_dir / d.path`. -/
theorem disks_write :
    (VmwareVirtualMachine.mk (write b outDir).vmx).disks (write b outDir).vmxText =
      (write b outDir).disks.map fun d => {d with path := outDir / d.path} := by
  have hvmx : (write b outDir).vmx.parent = outDir :=
    Path.parent_join _ (name_ext_valid hname ".vmx" (by decide) (by decide)).1
  rw [VmwareVirtualMachine.disks, findAll_write hname hdisks hguest hout, List.map_map]
  refine List.map_congr_left fun d hd => ?_
  have hround : Path.ofString (String.mk d.path.toString.toList) = d.path :=
    Path.ofString_toString fun c hc => (write_disk_parts hdisks hout hd c hc).1
  simp only [Function.comp_apply, hround, hvmx, Path.isAbsolute]
  cases habs : d.path.absolute <;> simp [habs]

end RoundTrip

/-- Written to a relative directory other than `.`, the VMX file lists one disk
per disk builder, and none of them, resolved against the VMX file's directory,
is a descriptor `write` wrote. -/
theorem disks_write_relative_misses_descriptors (b : VirtualMachineBuilder) (outDir : Path)
    (hname : b.name.toList.all isNameChar) (hdisks : ∀ db ∈ b.disks, db.name.toList.all isNameChar)
    (hguest : ∀ g, b.guestOs = some g → ':' ∉ g.toList)
    (hout : ∀ c ∈ outDir.parts, Path.ValidPart c ∧ '"' ∉ c.toList)
    (hrel : outDir.absolute = false) (hne : outDir.parts ≠ []) :
    ((VmwareVirtualMachine.mk (write b outDir).vmx).disks (write b outDir).vmxText).length = b.disks.length ∧
      ∀ d ∈ (VmwareVirtualMachine.mk (write b outDir).vmx).disks (write b outDir).vmxText,
        ∀ d' ∈ (write b outDir).disks, d.path ≠ d'.path := by
  rw [disks_write hname hdisks hguest hout]
  refine ⟨by simp [write], fun d hd d' hd' heq => ?_⟩
  obtain ⟨e, he, rfl⟩ := List.mem_map.1 hd
  obtain ⟨n, -, -, hpath⟩ := mem_write_disks hdisks he
  obtain ⟨n', -, -, hpath'⟩ := mem_write_disks hdisks hd'
  have hlen := congrArg (fun p : Path => p.parts.length) heq
  simp only [hpath, hpath', hrel, Path.div_relative, List.length_append, List.length_singleton] at hlen
  exact hne (List.eq_nil_of_length_eq_zero (by omega))

theorem relativeOutDir_disk_misplaced :
    ((VmwareVirtualMachine.mk (write { name := "vm", disks := [{ name := "vm-disk1" }] } ⟨false, ["out"]⟩).vmx).disks
      (write { name := "vm", disks := [{ name := "vm-disk1" }] } ⟨false, ["out"]⟩).vmxText).length = 1 ∧
    ∀ d ∈ (VmwareVirtualMachine.mk (write { name := "vm", disks := [{ name := "vm-disk1" }] } ⟨false, ["out"]⟩).vmx).disks
      (write { name := "vm", disks := [{ name := "vm-disk1" }] } ⟨false, ["out"]⟩).vmxText,
      ∀ d' ∈ (write { name := "vm", disks := [{ name := "vm-disk1" }] } ⟨false, ["out"]⟩).disks, d.path ≠ d'.path :=
  disks_write_relative_misses_descriptors { name := "vm", disks := [{ name := "vm-disk1" }] } ⟨false, ["out"]⟩
    (by decide) (by decide) (fun _ h => by cases h) (by decide) rfl (by decide)

end VMwareVirtualMachineBuilder

end DiskVm.Vm
