import DiskVm.Data
import Mathlib

/-! Fixed-layout binary records (`structure.py`).

A `Structure` subclass is a dataclass packed with Python's `struct` module: its
fields in declaration order, in the class's byte order, with no padding.
`_get_struct_format` maps each field's annotation to a format code: `Uint8`,
`Uint16`, `Uint32` and `Uint64` to the unsigned codes `B H I Q` of 1, 2, 4 and 8
bytes, and a `bytes` field declared by `bytes_field(size)` to `{size}s`. Any other
annotation raises, and so does a `bytes` field of size `0`, since the code tests
the size for truth.

`struct.pack` writes an integer in its code's width, least or most significant
byte first, and raises `struct.error` when it does not fit; a byte string is cut
or padded with zeros to its size. `struct.unpack` takes a buffer of exactly the
format's size and reads every field back.

On a class whose fields are all supported, an instance whose integers fit their
widths and whose byte strings have their declared sizes packs to as many bytes as
the widths add up to and unpacks to itself (`StructureClass.pack_of_fits`), and
every byte string of that length unpacks to an instance that packs back to it
(`StructureClass.unpack_of_length`). The instance is the tuple
`dataclasses.astuple` gives; `unpack` rebuilds the class from the field names, in
the same order. -/
namespace DiskVm

/-- `Endian`: the `struct` prefix `<` or `>`. -/
inductive Endian where
  | little
  | big
deriving DecidableEq, Repr

/-- A field's annotation, as `_get_struct_format` reads it. -/
inductive FieldType where
  | uint8
  | uint16
  | uint32
  | uint64
  /-- `bytes`, with the `size` of `bytes_field` when it was declared by it. -/
  | bytes (size : Option Nat)
  /-- Any other annotation, by the name `str(f.type)` prints. -/
  | other (name : String)
deriving DecidableEq, Repr

/-- A format code: an unsigned integer of `width` bytes (`B H I Q`), or `{size}s`. -/
inductive FormatCode where
  | uint (width : Nat)
  | str (size : Nat)
deriving DecidableEq, Repr

/-- A field's value: an integer or a byte string. -/
inductive Value where
  | int (n : Int)
  | bytes (b : Bytes)
deriving DecidableEq, Repr

/-- A `Structure` subclass: its byte order (`Structure.endian` is little) and its
fields' annotations, in declaration order. -/
structure StructureClass where
  endian : Endian := .little
  fields : List FieldType
deriving DecidableEq, Repr

/-! ### Integers as bytes -/

/-- The `w` bytes of `n`, least significant first; higher bytes are dropped. -/
def toBytesLE : Nat → Nat → Bytes
  | 0, _ => []
  | w + 1, n => UInt8.ofNat (n % 256) :: toBytesLE w (n / 256)

/-- The integer with the given bytes, least significant first. -/
def ofBytesLE : Bytes → Nat
  | [] => 0
  | b :: bs => b.toNat + 256 * ofBytesLE bs

/-- An integer code's `w` bytes in the byte order `e`. -/
def encodeUInt (e : Endian) (w n : Nat) : Bytes :=
  match e with
  | .little => toBytesLE w n
  | .big => (toBytesLE w n).reverse

/-- The integer an integer code's bytes hold in the byte order `e`. -/
def decodeUInt (e : Endian) (bs : Bytes) : Nat :=
  match e with
  | .little => ofBytesLE bs
  | .big => ofBytesLE bs.reverse

@[simp] theorem length_toBytesLE (w n : Nat) : (toBytesLE w n).length = w := by
  induction w generalizing n with
  | zero => rfl
  | succ w ih => simp only [toBytesLE, List.length_cons, ih]

@[simp] theorem length_encodeUInt (e : Endian) (w n : Nat) : (encodeUInt e w n).length = w := by
  cases e <;> simp [encodeUInt]

theorem ofBytesLE_toBytesLE {w n : Nat} (h : n < 256 ^ w) : ofBytesLE (toBytesLE w n) = n := by
  induction w generalizing n with
  | zero => rw [pow_zero] at h; show 0 = n; omega
  | succ w ih =>
    have hmod : (UInt8.ofNat (n % 256)).toNat = n % 256 :=
      UInt8.toNat_ofNat_of_lt (Nat.mod_lt n (by decide))
    rw [toBytesLE, ofBytesLE, hmod, ih (by rw [pow_succ] at h; omega)]
    omega

theorem ofBytesLE_lt (bs : Bytes) : ofBytesLE bs < 256 ^ bs.length := by
  induction bs with
  | nil => simp [ofBytesLE]
  | cons b bs ih =>
    have hb : b.toNat < 256 := b.toNat_lt_size
    rw [ofBytesLE, List.length_cons, pow_succ]
    omega

theorem toBytesLE_ofBytesLE (bs : Bytes) : toBytesLE bs.length (ofBytesLE bs) = bs := by
  induction bs with
  | nil => rfl
  | cons b bs ih =>
    have hb : b.toNat < 256 := b.toNat_lt_size
    rw [List.length_cons, toBytesLE, ofBytesLE, Nat.add_mul_div_left _ _ (by decide),
      Nat.div_eq_of_lt hb, Nat.zero_add, ih, Nat.add_mul_mod_self_left, Nat.mod_eq_of_lt hb]
    exact congrArg (· :: bs) (UInt8.toNat.inj (UInt8.toNat_ofNat_of_lt b.toNat_lt_size))

theorem decodeUInt_encodeUInt (e : Endian) {w n : Nat} (h : n < 256 ^ w) :
    decodeUInt e (encodeUInt e w n) = n := by
  cases e <;> simp [decodeUInt, encodeUInt, ofBytesLE_toBytesLE h]

theorem decodeUInt_lt (e : Endian) (bs : Bytes) : decodeUInt e bs < 256 ^ bs.length := by
  cases e
  · exact ofBytesLE_lt bs
  · simpa using ofBytesLE_lt bs.reverse

theorem encodeUInt_decodeUInt (e : Endian) (bs : Bytes) :
    encodeUInt e bs.length (decodeUInt e bs) = bs := by
  cases e
  · exact toBytesLE_ofBytesLE bs
  · simpa [encodeUInt, decodeUInt] using congrArg List.reverse (toBytesLE_ofBytesLE bs.reverse)

/-! ### The format -/

/-- `Structure.type_format_map`. -/
def typeFormatMap : FieldType → Option FormatCode
  | .uint8 => some (.uint 1)
  | .uint16 => some (.uint 2)
  | .uint32 => some (.uint 4)
  | .uint64 => some (.uint 8)
  | _ => none

/-- `str(f.type)` of an annotation the map does not have. -/
def FieldType.name : FieldType → String
  | .other name => name
  | _ => "<class \x27bytes\x27>"

/-- `Exception(f'Unsupported Type in Structure: {f.type}')`. -/
def unsupportedType (f : FieldType) : Exception :=
  .exception ("Unsupported Type in Structure: " ++ f.name)

/-- One field of `_get_struct_format`: a mapped type, else a `bytes` field with a
truthy `size`, else the error. -/
def fieldCode (f : FieldType) : Except Exception FormatCode :=
  match typeFormatMap f, f with
  | some c, _ => .ok c
  | none, .bytes (some size) => if size ≠ 0 then .ok (.str size) else .error (unsupportedType f)
  | none, _ => .error (unsupportedType f)

/-- `cls._get_struct_format()`, without the byte-order prefix. -/
def structFormat : List FieldType → Except Exception (List FormatCode)
  | [] => .ok []
  | f :: fs => do
    let c ← fieldCode f
    let cs ← structFormat fs
    pure (c :: cs)

def FormatCode.width : FormatCode → Nat
  | .uint w => w
  | .str n => n

/-- `struct.calcsize`. -/
def calcsize (cs : List FormatCode) : Nat := (cs.map FormatCode.width).sum

/-- A value a code packs and reads back: an integer within the width, or a byte
string of the size. -/
def FormatCode.fits : FormatCode → Value → Bool
  | .uint w, .int n => 0 ≤ n && n.toNat < 256 ^ w
  | .str n, .bytes b => b.length == n
  | _, _ => false

/-- The annotations `_get_struct_format` accepts: the four integer types, and
`bytes` of a positive declared size. -/
def FieldType.supported : FieldType → Bool
  | .bytes (some size) => size != 0
  | .bytes none | .other _ => false
  | _ => true

/-- A field's width in the packed record. -/
def FieldType.width (f : FieldType) : Nat :=
  match fieldCode f with
  | .ok c => c.width
  | .error _ => 0

/-- A value an instance may hold in a field: an integer within the field's width,
or a byte string of its declared size. -/
def FieldType.fits (f : FieldType) (v : Value) : Bool :=
  match fieldCode f with
  | .ok c => c.fits v
  | .error _ => false

theorem fieldCode_of_supported {f : FieldType} (h : f.supported) : ∃ c, fieldCode f = .ok c := by
  cases f with
  | bytes size =>
    obtain _ | size := size
    · cases h
    · exact ⟨_, if_pos (by simpa [FieldType.supported] using h)⟩
  | other => cases h
  | _ => exact ⟨_, rfl⟩

/-- A class of supported fields has a format: one code per field. -/
theorem structFormat_of_supported {fs : List FieldType} (h : ∀ f ∈ fs, f.supported) :
    ∃ cs, structFormat fs = .ok cs ∧ List.Forall₂ (fun f c => fieldCode f = .ok c) fs cs := by
  induction fs with
  | nil => exact ⟨[], rfl, .nil⟩
  | cons f fs ih =>
    obtain ⟨c, hc⟩ := fieldCode_of_supported (h f (List.mem_cons_self _ _))
    obtain ⟨cs, hcs, hall⟩ := ih fun f hf => h f (List.mem_cons_of_mem _ hf)
    exact ⟨c :: cs, by simp [structFormat, hc, hcs, bind, Except.bind, pure, Except.pure], .cons hc hall⟩

/-! ### Packing and unpacking -/

/-- `struct.pack` of one value under its code. -/
def packValue (e : Endian) : FormatCode → Value → Except Exception Bytes
  | .uint w, .int n => if 0 ≤ n ∧ n.toNat < 256 ^ w then .ok (encodeUInt e w n.toNat) else .error .structError
  | .str n, .bytes b => .ok (b.take n ++ List.replicate (n - b.length) 0)
  | _, _ => .error .structError

/-- `struct.pack(fmt, *values)`: one value per code. -/
def packValues (e : Endian) : List FormatCode → List Value → Except Exception Bytes
  | [], [] => .ok []
  | c :: cs, v :: vs => do
    let b ← packValue e c v
    let bs ← packValues e cs vs
    pure (b ++ bs)
  | _, _ => .error .structError

/-- One field read back from its bytes. -/
def unpackValue (e : Endian) : FormatCode → Bytes → Value
  | .uint _, bs => .int (decodeUInt e bs)
  | .str _, bs => .bytes bs

/-- The fields of a buffer, each from the bytes its code takes. -/
def unpackValues (e : Endian) : List FormatCode → Bytes → List Value
  | [], _ => []
  | c :: cs, data => unpackValue e c (data.take c.width) :: unpackValues e cs (data.drop c.width)

/-- `struct.unpack(fmt, data)`: the buffer must be exactly the format's size. -/
def structUnpack (e : Endian) (cs : List FormatCode) (data : Bytes) : Except Exception (List Value) :=
  if data.length = calcsize cs then .ok (unpackValues e cs data) else .error .structError

namespace StructureClass

/-- The bytes a packed instance takes: the fields' widths added up. -/
def size (c : StructureClass) : Nat := (c.fields.map FieldType.width).sum

/-- `Structure.pack`, on the instance's `dataclasses.astuple`. -/
def pack (c : StructureClass) (values : List Value) : Except Exception Bytes := do
  packValues c.endian (← structFormat c.fields) values

/-- `Structure.unpack`, giving the instance's fields in order. -/
def unpack (c : StructureClass) (data : Bytes) : Except Exception (List Value) := do
  structUnpack c.endian (← structFormat c.fields) data

end StructureClass

/-- The bytes a value that fits its code packs to. -/
def fieldBytes (e : Endian) : FormatCode → Value → Bytes
  | .uint w, .int n => encodeUInt e w n.toNat
  | .str _, .bytes b => b
  | _, _ => []

/-- A value that fits its code packs to `fieldBytes`, of the code's width, and
reads back. -/
theorem packValue_of_fits (e : Endian) {c : FormatCode} {v : Value} (h : c.fits v) :
    packValue e c v = .ok (fieldBytes e c v) ∧ (fieldBytes e c v).length = c.width ∧
      unpackValue e c (fieldBytes e c v) = v := by
  match c, v with
  | .uint w, .int n =>
    simp only [FormatCode.fits, Bool.and_eq_true, decide_eq_true_eq] at h
    refine ⟨if_pos h, length_encodeUInt .., ?_⟩
    rw [fieldBytes, unpackValue, decodeUInt_encodeUInt e h.2, Int.toNat_of_nonneg h.1]
  | .str n, .bytes b =>
    have hb : b.length = n := by simpa [FormatCode.fits] using h
    exact ⟨by simp [packValue, fieldBytes, hb], hb, rfl⟩
  | .uint _, .bytes _ | .str _, .int _ => cases h

theorem packValue_unpackValue (e : Endian) (c : FormatCode) {bs : Bytes} (h : bs.length = c.width) :
    packValue e c (unpackValue e c bs) = .ok bs := by
  cases c with
  | uint w =>
    have hlt := decodeUInt_lt e bs
    rw [h, FormatCode.width] at hlt
    rw [FormatCode.width] at h
    rw [unpackValue, packValue, if_pos ⟨Int.ofNat_nonneg _, by simpa using hlt⟩, Int.toNat_ofNat, ← h,
      encodeUInt_decodeUInt]
  | str n =>
    rw [FormatCode.width] at h
    simp [packValue, unpackValue, ← h]

/-- Values that fit their codes pack one after the other, to the format's size,
and read back. -/
theorem packValues_of_fits (e : Endian) {cs : List FormatCode} {vs : List Value}
    (h : List.Forall₂ (fun c v => c.fits v) cs vs) :
    packValues e cs vs = .ok (List.zipWith (fieldBytes e) cs vs).flatten ∧
      (List.zipWith (fieldBytes e) cs vs).flatten.length = calcsize cs ∧
      unpackValues e cs (List.zipWith (fieldBytes e) cs vs).flatten = vs := by
  induction h with
  | nil => exact ⟨rfl, rfl, rfl⟩
  | @cons c v cs vs hcv _ ih =>
    obtain ⟨hb, hlen, hv⟩ := packValue_of_fits e hcv
    obtain ⟨hbs, hlens, hvs⟩ := ih
    simp only [calcsize] at hlens
    refine ⟨by simp [packValues, hb, hbs, bind, Except.bind, pure, Except.pure], ?_, ?_⟩
    · simp [calcsize, hlen, hlens]
    · simp [unpackValues, ← hlen, hv, hvs]

/-- A buffer of the format's size packs back from what it unpacks to. -/
theorem packValues_unpackValues (e : Endian) (cs : List FormatCode) {data : Bytes}
    (h : data.length = calcsize cs) : packValues e cs (unpackValues e cs data) = .ok data := by
  induction cs generalizing data with
  | nil => simp_all [calcsize, packValues, unpackValues]
  | cons c cs ih =>
    have hc : (data.take c.width).length = c.width := by simp [calcsize] at h; simp; omega
    have hcs : (data.drop c.width).length = calcsize cs := by simp [calcsize] at h ⊢; omega
    simp [unpackValues, packValues, packValue_unpackValue e c hc, ih hcs, bind, Except.bind, pure,
      Except.pure]

/-- The codes of supported fields have the fields' widths, and take the values
the fields do. -/
theorem forall₂_codes {fs : List FieldType} {cs : List FormatCode}
    (h : List.Forall₂ (fun f c => fieldCode f = .ok c) fs cs) :
    calcsize cs = (fs.map FieldType.width).sum ∧
      ∀ vs, List.Forall₂ (fun f v => f.fits v) fs vs → List.Forall₂ (fun c v => c.fits v) cs vs := by
  induction h with
  | nil => exact ⟨rfl, fun vs hvs => by cases hvs; exact .nil⟩
  | @cons f c fs cs hfc _ ih =>
    refine ⟨by simp [calcsize, FieldType.width, hfc, ← ih.1], fun vs hvs => ?_⟩
    cases hvs with
    | cons hv hvs => exact .cons (by simpa [FieldType.fits, hfc] using hv) (ih.2 _ hvs)

namespace StructureClass
variable (c : StructureClass) (hc : ∀ f ∈ c.fields, f.supported)
include hc

/-- An instance whose values fit its fields packs to `c.size` bytes, which unpack
to it. -/
theorem pack_of_fits {values : List Value} (hv : List.Forall₂ (fun f v => f.fits v) c.fields values) :
    ∃ b, c.pack values = .ok b ∧ b.length = c.size ∧ c.unpack b = .ok values := by
  obtain ⟨cs, hcs, hall⟩ := structFormat_of_supported hc
  obtain ⟨hsize, hfits⟩ := forall₂_codes hall
  obtain ⟨hb, hlen, hback⟩ := packValues_of_fits c.endian (hfits values hv)
  refine ⟨_, by simp [pack, hcs, hb, bind, Except.bind], hlen.trans hsize, ?_⟩
  simp [unpack, hcs, structUnpack, hlen, hback, bind, Except.bind]

/-- A buffer of `c.size` bytes unpacks, and packs back. -/
theorem unpack_of_length {data : Bytes} (hd : data.length = c.size) :
    ∃ values, c.unpack data = .ok values ∧ c.pack values = .ok data := by
  obtain ⟨cs, hcs, hall⟩ := structFormat_of_supported hc
  have hd' : data.length = calcsize cs := hd.trans (forall₂_codes hall).1.symm
  exact ⟨unpackValues c.endian cs data, by simp [unpack, hcs, structUnpack, hd', bind, Except.bind],
    by simp [pack, hcs, packValues_unpackValues c.endian cs hd', bind, Except.bind]⟩

end StructureClass

/-- A `bytes_field(0)` is rejected by `_get_struct_format`: its size is falsy. -/
theorem zeroSizeBytes_unsupported :
    ({ fields := [.bytes (some 0)] } : StructureClass).pack [.bytes []] =
      .error (.exception "Unsupported Type in Structure: <class \x27bytes\x27>") := rfl

end DiskVm
