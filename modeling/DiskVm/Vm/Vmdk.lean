import DiskVm.Vm.Vmware
import DiskVm.Vm.Overlay

/-! The VMDK descriptor (`vm/vmdk.py`: `VmdkBuilder.write`).

The descriptor of a monolithic flat disk lists extents: `RW n ZERO` is `n`
sectors of zeros, `RW n FLAT "file" s` is `n` sectors of `file` from its sector
`s`, and a VMDK sector is 512 bytes (`BYTES_PER_SECTOR`, which `write` never
reads). `write` walks `disk_parts` in order, with the sector it has reached:
a zero extent up to the next part when the last one did not end there, then the
part, every count and offset divided by the builder's `sector_size`.

`extents_sector_size_unit` is what the loop computes. On parts sorted by target
offset, pairwise disjoint, of positive length, at non-negative offsets and
aligned to a positive `sector_size`: when a part's source lies inside `out_dir`,
the loop rebinds `p` to the relative path and reads `p.source_offset` from it,
which raises `AttributeError`. Otherwise it returns, every count is
non-negative, and the extents, read with sectors of `sector_size` bytes, are
exactly the builder's disk: its length, and at every byte the covering part's
source byte or a zero. Read as VMDK reads them, with sectors of 512 bytes, the
disk is `512 / sector_size` times as long, and the bytes move with it, unless
`sector_size` is 512. -/
namespace DiskVm

/-- `PurePath.is_relative_to(other)`: both relative or both absolute, and
`other`'s components begin `p`'s. -/
def Path.isRelativeTo (p other : Path) : Bool :=
  p.absolute == other.absolute && other.parts.isPrefixOf p.parts

end DiskVm

namespace DiskVm.Vm

/-- An extent line of a monolithic flat descriptor. -/
inductive Extent where
  /-- `RW n ZERO`. -/
  | zero (sectors : Int)
  /-- `RW n FLAT "file" offset`. -/
  | flat (sectors : Int) (file : Path) (offset : Int)
deriving DecidableEq, Repr

namespace Extent

def sectors : Extent → Int
  | .zero n => n
  | .flat n _ _ => n

def render : Extent → String
  | .zero n => "RW " ++ toString n ++ " ZERO"
  | .flat n f o => "RW " ++ toString n ++ " FLAT \"" ++ f.toString ++ "\" " ++ toString o

end Extent

/-! ### The loop of `write` -/

/-- `# Unallocated space`: a zero extent up to the part's first sector, unless the
last part ended where it starts. -/
def padTo (sectorSize current : Int) (lines : List Extent) (target : Int) :
    Except Exception (Int × List Extent) :=
  if current * sectorSize ≠ target then do
    let n := (← floorDiv target sectorSize) - current
    pure (current + n, lines ++ [.zero n])
  else pure (current, lines)

/-- One turn of the loop over `disk_parts`, from the sector reached and the lines
so far. `path` is `source_file.absolute()`, against the working directory `cwd`;
a source inside `out_dir` rebinds `p` to a path, and the line's
`p.source_offset` then raises. -/
def extentStep (cwd outDir : Path) (sectorSize : Int) :
    Int × List Extent → VirtualDiskPart → Except Exception (Int × List Extent)
  | (current, lines), p => do
    let (current, lines) ← padTo sectorSize current lines p.targetOffset
    let size ← floorDiv p.length sectorSize
    match p.sourceFile with
    | none => pure (current + size, lines ++ [.zero size])
    | some src =>
      if src.isRelativeTo outDir then throw .attributeError
      else pure (current + size, lines ++ [.flat size (cwd / src) (← floorDiv p.sourceOffset sectorSize)])

namespace VmdkBuilder

/-- `NUM_SECTORS` and `NUM_CYLINDERS`. -/
def numSectors : Int := 63
def numCylinders : Int := 255

/-- The sector the loop ends on and the extent lines, or what the loop raises. -/
def extents (cwd outDir : Path) (db : VirtualDiskBuilder) : Except Exception (Int × List Extent) :=
  db.diskParts.foldlM (extentStep cwd outDir db.sectorSize) (0, [])

/-- `adapter_type`. -/
def adapterType (db : VirtualDiskBuilder) : String :=
  if db.type = .ide then "ide" else "lsilogic"

/-- `math.ceil(a / b)`. -/
def ceilDiv (a b : Int) : Int := -((-a).fdiv b)

/-- The text `write` writes to `out_dir / (name + '.vmdk')`, or what it raises. -/
def descriptor (cwd outDir : Path) (db : VirtualDiskBuilder) : Except Exception String := do
  let (current, lines) ← extents cwd outDir db
  pure ("\n".intercalate (
    ["# Disk Descriptor File", "version=1", "CID=fffffffe", "parentCID=ffffffff",
      "createType=\"monolithicFlat\"", "", "# Extent description"] ++
    lines.map Extent.render ++
    ["", "# DDB - Disk Data Base", "ddb.adapterType=\"" ++ adapterType db ++ "\"",
      "ddb.geometry.sectors=\"" ++ toString numSectors ++ "\"",
      "ddb.geometry.heads=\"" ++ toString numCylinders ++ "\"",
      "ddb.geometry.cylinders=\"" ++ toString (ceilDiv current (numCylinders * numSectors)) ++ "\"",
      "ddb.virtualHWVersion=\"18\""]))

/-- `write` raises what its loop raises, before writing anything. -/
theorem descriptor_of_extents_error {cwd outDir : Path} {db : VirtualDiskBuilder} {e : Exception}
    (h : extents cwd outDir db = .error e) : descriptor cwd outDir db = .error e := by
  simp [descriptor, h, bind, Except.bind]

end VmdkBuilder

/-! ### What the extents describe -/

/-- A byte of a disk: a zero, or the byte at an offset of a file. -/
inductive Fill where
  | zero
  | byte (file : Path) (offset : Int)
deriving DecidableEq, Repr

/-- The file of a filled byte, resolved against the working directory. -/
def Fill.resolve (cwd : Path) : Fill → Fill
  | .zero => .zero
  | .byte f o => .byte (cwd / f) o

/-- `BYTES_PER_SECTOR`: the sector VMDK counts in. -/
def bytesPerSector : Int := 512

/-- Byte `t` of an extent, with sectors of `unit` bytes. -/
def Extent.fill (unit : Int) : Extent → Int → Fill
  | .zero _, _ => .zero
  | .flat _ f o, t => .byte f (o * unit + t)

/-- The bytes the extents describe, with sectors of `unit` bytes. -/
def extentsSize (unit : Int) : List Extent → Int
  | [] => 0
  | e :: es => unit * e.sectors + extentsSize unit es

/-- Byte `t` of the extents laid end to end, with sectors of `unit` bytes. -/
def readFill (unit : Int) : List Extent → Int → Fill
  | [], _ => .zero
  | e :: es, t => if t < unit * e.sectors then e.fill unit t else readFill unit es (t - unit * e.sectors)

/-- Byte `t` of the disk as the part `p` has it. -/
def VirtualDiskPart.fill (p : VirtualDiskPart) (t : Int) : Fill :=
  match p.sourceFile with
  | some f => .byte f (p.sourceOffset + (t - p.targetOffset))
  | none => .zero

/-- Byte `t` of the builder's disk: as the part covering it has it, a zero where
none does. -/
def builderFill (parts : List VirtualDiskPart) (t : Int) : Fill :=
  match covering parts t with
  | p :: _ => p.fill t
  | [] => .zero

/-- Where the last part ends: the builder's disk length. -/
def diskEnd (parts : List VirtualDiskPart) : Int :=
  parts.foldl (fun _ p => p.targetOffset + p.length) 0

@[simp] theorem extentsSize_nil (unit : Int) : extentsSize unit [] = 0 := rfl

@[simp] theorem extentsSize_cons (unit : Int) (e : Extent) (es : List Extent) :
    extentsSize unit (e :: es) = unit * e.sectors + extentsSize unit es := rfl

@[simp] theorem extentsSize_append (unit : Int) (l₁ l₂ : List Extent) :
    extentsSize unit (l₁ ++ l₂) = extentsSize unit l₁ + extentsSize unit l₂ := by
  induction l₁ with
  | nil => simp
  | cons e es ih => simp only [List.cons_append, extentsSize_cons, ih]; omega

theorem extentsSize_mul (a b : Int) (l : List Extent) :
    extentsSize (a * b) l = a * extentsSize b l := by
  induction l with
  | nil => rw [extentsSize_nil, extentsSize_nil, Int.mul_zero]
  | cons e es ih => rw [extentsSize_cons, extentsSize_cons, ih, Int.mul_add, Int.mul_assoc]

/-- A byte before the end of the first extents is read from them. -/
theorem readFill_append_of_lt {unit : Int} {l₁ : List Extent} (l₂ : List Extent) {t : Int} (h0 : 0 ≤ t)
    (ht : t < extentsSize unit l₁) : readFill unit (l₁ ++ l₂) t = readFill unit l₁ t := by
  induction l₁ generalizing t with
  | nil => simp at ht; omega
  | cons e es ih =>
    rw [List.cons_append, readFill, readFill]
    split
    · rfl
    · simp only [extentsSize_cons] at ht
      exact ih (by omega) (by omega)

section Read
variable {unit : Int} (hu : 0 ≤ unit)
include hu

theorem extentsSize_nonneg {l : List Extent} (hl : ∀ e ∈ l, 0 ≤ e.sectors) : 0 ≤ extentsSize unit l := by
  induction l with
  | nil => exact Int.le_refl 0
  | cons e es ih =>
    have he := Int.mul_nonneg hu (hl e (List.mem_cons_self _ _))
    have := ih fun x hx => hl x (List.mem_cons_of_mem _ hx)
    simp only [extentsSize_cons]
    omega

/-- A byte past the end of the first extents is read from the rest. -/
theorem readFill_append_of_le {l₁ : List Extent} (l₂ : List Extent) (hl : ∀ e ∈ l₁, 0 ≤ e.sectors)
    {t : Int} (ht : extentsSize unit l₁ ≤ t) :
    readFill unit (l₁ ++ l₂) t = readFill unit l₂ (t - extentsSize unit l₁) := by
  induction l₁ generalizing t with
  | nil => simp
  | cons e es ih =>
    have hes := extentsSize_nonneg hu fun x hx => hl x (List.mem_cons_of_mem _ hx)
    simp only [extentsSize_cons] at ht ⊢
    rw [List.cons_append, readFill, if_neg (by omega), ih (fun x hx => hl x (List.mem_cons_of_mem _ hx)) (by omega)]
    congr 1
    omega

end Read

theorem readFill_singleton (unit : Int) (e : Extent) {t : Int} (ht : t < unit * e.sectors) :
    readFill unit [e] t = e.fill unit t := by
  simp [readFill, ht]

/-! ### The builder's disk, part by part -/

theorem covering_append (l₁ l₂ : List VirtualDiskPart) (t : Int) :
    covering (l₁ ++ l₂) t = covering l₁ t ++ covering l₂ t := List.filter_append _ _

theorem covering_eq_nil {parts : List VirtualDiskPart} {t : Int}
    (h : ∀ q ∈ parts, ¬ q.covers t) : covering parts t = [] :=
  List.filter_eq_nil_iff.mpr fun q hq => by simpa using h q hq

/-- A byte before a new last part keeps its fill. -/
theorem builderFill_append_of_lt (done : List VirtualDiskPart) (p : VirtualDiskPart) {t : Int}
    (ht : t < p.targetOffset) : builderFill (done ++ [p]) t = builderFill done t := by
  have hp : covering [p] t = [] := covering_eq_nil fun q hq => by
    simp only [List.mem_singleton] at hq
    subst hq
    simp only [VirtualDiskPart.covers]
    omega
  simp only [builderFill, covering_append, hp, List.append_nil]

/-- A byte after every earlier part has ended is the new last part's. -/
theorem builderFill_append_of_ended {done : List VirtualDiskPart} (p : VirtualDiskPart) {t : Int}
    (hended : ∀ q ∈ done, q.targetOffset + q.length ≤ t) :
    builderFill (done ++ [p]) t = if p.covers t then p.fill t else .zero := by
  have hdone : covering done t = [] := covering_eq_nil fun q hq hc => by
    have := hended q hq
    simp only [VirtualDiskPart.covers] at hc
    omega
  rw [builderFill, covering_append, hdone, List.nil_append]
  by_cases hc : p.covers t <;> simp [covering, hc]

/-! ### One turn of the loop -/

section Step
variable (cwd outDir : Path) {s : Int}

/-- The line of a part of `b` sectors from sector `o` of its source. -/
def partLine (source : Option Path) (b o : Int) : Extent :=
  match source with
  | none => .zero b
  | some src => .flat b (cwd / src) o

/-- The zero extent from sector `c` up to sector `a`, when they differ. -/
def paddingLines (s c a : Int) : List Extent := if c * s = s * a then [] else [.zero (a - c)]

@[simp] theorem sectors_partLine (source : Option Path) (b o : Int) :
    (partLine cwd source b o).sectors = b := by
  cases source <;> rfl

/-- The line of a part at aligned offsets reads, past the sectors before it, what
the part holds. -/
theorem fill_partLine {p : VirtualDiskPart} {a o : Int} (ha : p.targetOffset = s * a)
    (ho : p.sourceOffset = s * o) (b t : Int) :
    (partLine cwd p.sourceFile b o).fill s (t - s * a) = (p.fill t).resolve cwd := by
  cases hf : p.sourceFile <;>
    simp [partLine, VirtualDiskPart.fill, hf, Extent.fill, Fill.resolve, ha, ho, Int.mul_comm o s]

theorem extentsSize_paddingLines (s c a : Int) : extentsSize s (paddingLines s c a) = s * a - c * s := by
  unfold paddingLines
  split
  · simp only [extentsSize_nil]; omega
  · simp only [extentsSize_cons, extentsSize_nil, Extent.sectors, Int.mul_sub, Int.mul_comm s c]; omega

theorem sectors_nonneg_paddingLines {c a : Int} (hca : c ≤ a) : ∀ e ∈ paddingLines s c a, 0 ≤ e.sectors := by
  unfold paddingLines
  split
  · simp
  · simp only [List.mem_singleton, forall_eq, Extent.sectors]; omega

/-- The padding reads as zeros. -/
theorem readFill_paddingLines (s c a t : Int) : readFill s (paddingLines s c a) t = .zero := by
  unfold paddingLines
  split <;> simp [readFill, Extent.fill]

theorem padTo_aligned (hs : 0 < s) (c : Int) (lines : List Extent) (a : Int) :
    padTo s c lines (s * a) = .ok (a, lines ++ paddingLines s c a) := by
  unfold padTo paddingLines
  by_cases h : c * s = s * a
  · have hc : c = a := Int.eq_of_mul_eq_mul_left (Int.ne_of_gt hs) (by rw [Int.mul_comm]; exact h)
    subst hc
    rw [if_neg (not_not_intro h), if_pos h, List.append_nil]
    rfl
  · rw [if_pos h, floorDiv_mul hs, if_neg h]
    exact congrArg (fun n => Except.ok (n, lines ++ [Extent.zero (a - c)])) (by omega)

/-- A part at an aligned offset, of an aligned length, from a source outside
`out_dir`: the padding, then its line. -/
theorem extentStep_aligned (hs : 0 < s) (c : Int) (lines : List Extent) {p : VirtualDiskPart}
    {a b o : Int} (ha : p.targetOffset = s * a) (hb : p.length = s * b) (ho : p.sourceOffset = s * o)
    (hsrc : ∀ f, p.sourceFile = some f → f.isRelativeTo outDir = false) :
    extentStep cwd outDir s (c, lines) p =
      .ok (a + b, lines ++ paddingLines s c a ++ [partLine cwd p.sourceFile b o]) := by
  rw [extentStep, ha, padTo_aligned hs]
  cases hf : p.sourceFile with
  | none => simp [bind, Except.bind, hb, floorDiv_mul hs, partLine]; rfl
  | some src => simp [bind, Except.bind, hb, ho, floorDiv_mul hs, partLine, hsrc src hf]; rfl

/-- A source inside `out_dir` raises, on any state, once the sector size is not 0. -/
theorem extentStep_inside (hs : s ≠ 0) (st : Int × List Extent) {p : VirtualDiskPart} {f : Path}
    (hf : p.sourceFile = some f) (hin : f.isRelativeTo outDir = true) :
    extentStep cwd outDir s st p = .error .attributeError := by
  obtain ⟨c, lines⟩ := st
  rw [extentStep]
  unfold padTo
  by_cases hcs : c * s = p.targetOffset <;>
    simp [hcs, bind, Except.bind, floorDiv, hs, hf, hin, pure, Except.pure] <;> rfl

/-- Any other part goes through, once the sector size is not 0. -/
theorem extentStep_outside (hs : s ≠ 0) (st : Int × List Extent) {p : VirtualDiskPart}
    (hsrc : ∀ f, p.sourceFile = some f → f.isRelativeTo outDir = false) :
    ∃ st', extentStep cwd outDir s st p = .ok st' := by
  obtain ⟨c, lines⟩ := st
  rw [extentStep]
  unfold padTo
  cases hf : p.sourceFile with
  | none => by_cases hcs : c * s = p.targetOffset <;> simp [hcs, bind, Except.bind, floorDiv, hs, hf, pure, Except.pure]
  | some src =>
    by_cases hcs : c * s = p.targetOffset <;>
      simp [hcs, bind, Except.bind, floorDiv, hs, hf, hsrc src hf, pure, Except.pure]

/-- The loop's state after the parts `done`, which end by byte `E`: the sector
reached is byte `E`, and the lines, read with sectors of `s` bytes, are the disk
of `done` up to `E`. -/
structure Describes (s : Int) (done : List VirtualDiskPart) (E : Int) (st : Int × List Extent) : Prop where
  sector : st.1 * s = E
  size : extentsSize s st.2 = E
  nonneg : ∀ e ∈ st.2, 0 ≤ e.sectors
  ended : ∀ q ∈ done, q.targetOffset + q.length ≤ E
  fill : ∀ t, 0 ≤ t → t < E → readFill s st.2 t = (builderFill done t).resolve cwd

theorem describes_nil : Describes cwd s [] 0 (0, []) :=
  ⟨by simp, rfl, by simp, by simp, fun _ h0 ht => absurd ht (by omega)⟩

/-- A part that starts at or after the bytes described, of non-negative aligned
length, extends the description to its end. -/
theorem Describes.step (hs : 0 < s) {done : List VirtualDiskPart} {E c : Int} {lines : List Extent}
    (h : Describes cwd s done E (c, lines)) {p : VirtualDiskPart} {a b o : Int}
    (ha : p.targetOffset = s * a) (hb : p.length = s * b) (ho : p.sourceOffset = s * o)
    (hE : E ≤ p.targetOffset) (hlen : 0 ≤ p.length) :
    Describes cwd s (done ++ [p]) (p.targetOffset + p.length)
      (a + b, lines ++ paddingLines s c a ++ [partLine cwd p.sourceFile b o]) := by
  have hsec : c * s = E := h.sector
  have hca : c ≤ a := Int.le_of_mul_le_mul_left (by rw [Int.mul_comm, hsec, ← ha]; exact hE) hs
  have hb0 : 0 ≤ b := Int.le_of_mul_le_mul_left (by rw [Int.mul_zero, ← hb]; exact hlen) hs
  have hnn : ∀ e ∈ lines ++ paddingLines s c a, 0 ≤ e.sectors := fun e he =>
    (List.mem_append.mp he).elim (h.nonneg e) (sectors_nonneg_paddingLines hca e)
  have hprefix : extentsSize s (lines ++ paddingLines s c a) = s * a := by
    rw [extentsSize_append, h.size, extentsSize_paddingLines, hsec]; omega
  refine ⟨by rw [ha, hb, Int.add_mul, Int.mul_comm a, Int.mul_comm b],
    by rw [extentsSize_append, hprefix, extentsSize_cons, extentsSize_nil, sectors_partLine]; omega,
    ?_, ?_, ?_⟩
  · intro e he
    rcases List.mem_append.mp he with he | he
    · exact hnn e he
    · rw [List.mem_singleton.mp he, sectors_partLine]; exact hb0
  · intro q hq
    rcases List.mem_append.mp hq with hq | hq
    · have := h.ended q hq; omega
    · rw [List.mem_singleton.mp hq]
  · intro t h0 ht
    by_cases htE : t < E
    · rw [List.append_assoc, readFill_append_of_lt _ h0 (by rw [h.size]; exact htE), h.fill t h0 htE,
        builderFill_append_of_lt _ _ (by omega)]
    have hended : ∀ q ∈ done, q.targetOffset + q.length ≤ t := fun q hq => by
      have := h.ended q hq; omega
    rw [builderFill_append_of_ended p hended]
    by_cases hta : t < s * a
    · -- in the padding
      have hnc : ¬ p.covers t := by simp only [VirtualDiskPart.covers]; omega
      rw [List.append_assoc, readFill_append_of_le (Int.le_of_lt hs) _ h.nonneg (by rw [h.size]; omega),
        readFill_append_of_lt _ (by rw [h.size]; omega) (by rw [h.size, extentsSize_paddingLines]; omega),
        if_neg hnc, readFill_paddingLines]
      rfl
    · -- in the part
      have hc : p.covers t := by simp only [VirtualDiskPart.covers]; omega
      rw [readFill_append_of_le (Int.le_of_lt hs) _ hnn (by omega), hprefix,
        readFill_singleton _ _ (by rw [sectors_partLine]; omega), if_pos hc, fill_partLine cwd ha ho]

/-! ### The whole loop -/

/-- Parts that each start after the bytes described and after the previous part
ends, aligned, of non-negative length and from sources outside `out_dir`: the
loop returns, describing them all. -/
theorem foldlM_describes (hs : 0 < s) (parts : List VirtualDiskPart)
    (hparts : ∀ p ∈ parts, 0 ≤ p.length ∧ s ∣ p.targetOffset ∧ s ∣ p.length ∧ s ∣ p.sourceOffset ∧
      ∀ f, p.sourceFile = some f → f.isRelativeTo outDir = false)
    (hchain : parts.Pairwise fun p q => p.targetOffset + p.length ≤ q.targetOffset) :
    ∀ {done : List VirtualDiskPart} {E : Int} {st : Int × List Extent}, Describes cwd s done E st →
      (∀ p ∈ parts, E ≤ p.targetOffset) →
      ∃ st', parts.foldlM (extentStep cwd outDir s) st = .ok st' ∧
        Describes cwd s (done ++ parts) (parts.foldl (fun _ p => p.targetOffset + p.length) E) st' := by
  induction parts with
  | nil => exact fun h _ => ⟨_, rfl, by simpa using h⟩
  | cons p ps ih =>
    intro done E st h hstart
    obtain ⟨c, lines⟩ := st
    obtain ⟨hlen, ⟨a, ha⟩, ⟨b, hb⟩, ⟨o, ho⟩, hsrc⟩ := hparts p (List.mem_cons_self _ _)
    have hnext := (List.pairwise_cons.mp hchain).1
    obtain ⟨st', hrun, h'⟩ := ih (fun q hq => hparts q (List.mem_cons_of_mem _ hq))
      (List.pairwise_cons.mp hchain).2
      (h.step cwd hs ha hb ho (hstart p (List.mem_cons_self _ _)) hlen) hnext
    refine ⟨st', ?_, by simpa using h'⟩
    rw [List.foldlM_cons, extentStep_aligned cwd outDir hs c lines ha hb ho hsrc]
    exact hrun

/-- A source inside `out_dir` anywhere in the parts makes the loop raise
`AttributeError`, once the sector size is not 0. -/
theorem foldlM_inside (hs : s ≠ 0) (parts : List VirtualDiskPart)
    (hin : ∃ p ∈ parts, ∃ f, p.sourceFile = some f ∧ f.isRelativeTo outDir = true) :
    ∀ st, parts.foldlM (extentStep cwd outDir s) st = .error .attributeError := by
  induction parts with
  | nil => simp at hin
  | cons p ps ih =>
    intro st
    rw [List.foldlM_cons]
    by_cases hp : ∃ f, p.sourceFile = some f ∧ f.isRelativeTo outDir = true
    · obtain ⟨f, hf, hfin⟩ := hp
      rw [extentStep_inside cwd outDir hs st hf hfin]
      rfl
    · have hsrc : ∀ f, p.sourceFile = some f → f.isRelativeTo outDir = false := fun f hf => by
        simpa using fun h => hp ⟨f, hf, h⟩
      obtain ⟨st', hst'⟩ := extentStep_outside cwd outDir hs st hsrc
      obtain ⟨q, hq, hqin⟩ := hin
      rcases List.mem_cons.mp hq with rfl | hq
      · exact absurd hqin hp
      rw [hst']
      exact ih ⟨q, hq, hqin⟩ st'

end Step

/-- Sorted, pairwise disjoint parts of positive length each end before the next
one starts. -/
theorem pairwise_end_le_of_sorted {parts : List VirtualDiskPart} (hsorted : parts.Sorted TargetLe)
    (hdisj : Disjoint parts) (hpos : ∀ p ∈ parts, 0 < p.length) :
    parts.Pairwise fun p q => p.targetOffset + p.length ≤ q.targetOffset :=
  (hsorted.and hdisj).imp_of_mem fun {p q} _ hq ⟨hle, hd⟩ => by
    have hq' := hd q.targetOffset
    have hpos' := hpos q hq
    simp only [TargetLe, VirtualDiskPart.covers] at hle hq'
    omega

/-- What `VmdkBuilder.write`'s loop gives for sorted, disjoint parts of positive
length at aligned, non-negative offsets: `AttributeError` when a source lies
inside `out_dir`; otherwise non-negative counts whose extents, read with sectors
of `sector_size` bytes, are the builder's disk, byte for byte, so that read with
VMDK's 512-byte sectors the disk has `512 / sector_size` times its length. -/
theorem extents_sector_size_unit (cwd outDir : Path) (db : VirtualDiskBuilder) (hs : 0 < db.sectorSize)
    (hsorted : db.diskParts.Sorted TargetLe) (hdisj : Disjoint db.diskParts)
    (hparts : ∀ p ∈ db.diskParts, 0 ≤ p.targetOffset ∧ 0 < p.length ∧
      db.sectorSize ∣ p.targetOffset ∧ db.sectorSize ∣ p.length ∧ db.sectorSize ∣ p.sourceOffset) :
    ((∃ p ∈ db.diskParts, ∃ f, p.sourceFile = some f ∧ f.isRelativeTo outDir = true) →
      VmdkBuilder.extents cwd outDir db = .error .attributeError) ∧
    ((∀ p ∈ db.diskParts, ∀ f, p.sourceFile = some f → f.isRelativeTo outDir = false) →
      ∃ current lines, VmdkBuilder.extents cwd outDir db = .ok (current, lines) ∧
        (∀ e ∈ lines, 0 ≤ e.sectors) ∧
        extentsSize db.sectorSize lines = diskEnd db.diskParts ∧
        (∀ t, 0 ≤ t → t < diskEnd db.diskParts →
          readFill db.sectorSize lines t = (builderFill db.diskParts t).resolve cwd) ∧
        extentsSize bytesPerSector lines * db.sectorSize = bytesPerSector * diskEnd db.diskParts) := by
  refine ⟨fun hin => foldlM_inside cwd outDir (Int.ne_of_gt hs) _ hin _, fun hout => ?_⟩
  obtain ⟨⟨current, lines⟩, hrun, h⟩ := foldlM_describes cwd outDir hs db.diskParts
    (fun p hp => ⟨Int.le_of_lt (hparts p hp).2.1, (hparts p hp).2.2.1, (hparts p hp).2.2.2.1,
      (hparts p hp).2.2.2.2, hout p hp⟩)
    (pairwise_end_le_of_sorted hsorted hdisj fun p hp => (hparts p hp).2.1)
    (describes_nil cwd) fun p hp => (hparts p hp).1
  have hsize : extentsSize db.sectorSize lines = diskEnd db.diskParts := h.size
  refine ⟨current, lines, hrun, h.nonneg, hsize, h.fill, ?_⟩
  calc extentsSize bytesPerSector lines * db.sectorSize
      = extentsSize (db.sectorSize * bytesPerSector) lines := by rw [extentsSize_mul, Int.mul_comm]
    _ = bytesPerSector * diskEnd db.diskParts := by rw [Int.mul_comm db.sectorSize, extentsSize_mul, hsize]

/-- A disk of 4096-byte sectors holding one 8 KiB image. -/
def fourKImage : VirtualDiskBuilder :=
  { name := "vm-disk1", diskParts := [⟨some ⟨true, ["img", "disk.img"]⟩, 8192, 0, 0⟩], sectorSize := 4096 }

theorem fourKImage_extents :
    ((∃ p ∈ fourKImage.diskParts, ∃ f, p.sourceFile = some f ∧ f.isRelativeTo ⟨true, ["out"]⟩ = true) →
      VmdkBuilder.extents ⟨true, ["root"]⟩ ⟨true, ["out"]⟩ fourKImage = .error .attributeError) ∧
    ((∀ p ∈ fourKImage.diskParts, ∀ f, p.sourceFile = some f → f.isRelativeTo ⟨true, ["out"]⟩ = false) →
      ∃ current lines, VmdkBuilder.extents ⟨true, ["root"]⟩ ⟨true, ["out"]⟩ fourKImage = .ok (current, lines) ∧
        (∀ e ∈ lines, 0 ≤ e.sectors) ∧
        extentsSize fourKImage.sectorSize lines = diskEnd fourKImage.diskParts ∧
        (∀ t, 0 ≤ t → t < diskEnd fourKImage.diskParts →
          readFill fourKImage.sectorSize lines t = (builderFill fourKImage.diskParts t).resolve ⟨true, ["root"]⟩) ∧
        extentsSize bytesPerSector lines * fourKImage.sectorSize = bytesPerSector * diskEnd fourKImage.diskParts) :=
  extents_sector_size_unit ⟨true, ["root"]⟩ ⟨true, ["out"]⟩ fourKImage (by decide) (List.sorted_singleton _)
    (List.pairwise_singleton _ _) (by
      simp only [fourKImage, List.mem_singleton, forall_eq]
      exact ⟨by decide, by decide, ⟨0, rfl⟩, ⟨2, rfl⟩, ⟨0, rfl⟩⟩)

/-- The 8 KiB disk becomes one extent of two sectors, 1 KiB as VMDK reads it; with
the image inside `out_dir`, `write` raises. -/
example : VmdkBuilder.extents ⟨true, ["root"]⟩ ⟨true, ["out"]⟩ fourKImage =
      .ok (2, [.flat 2 ⟨true, ["img", "disk.img"]⟩ 0]) ∧
    extentsSize bytesPerSector [.flat 2 ⟨true, ["img", "disk.img"]⟩ 0] = 1024 ∧
    VmdkBuilder.extents ⟨true, ["root"]⟩ ⟨true, ["img"]⟩ fourKImage = .error .attributeError :=
  ⟨rfl, rfl, rfl⟩

end DiskVm.Vm
