import DiskVm.Structure

/-! The VeraCrypt volume header (`plugins/veracrypt.py`: `VeraCryptHeader`,
`update_checksums`, `encrypt`, and
`VeraCryptOverridePasswordPlugin.create_encrypted_veracrypt_header`).

The header is a big-endian `Structure` of 448 bytes. `checksum_master_keys`
sits at bytes 8..11, `checksum_header_fields` at 188..191 and `master_keys` at
192..447 (`pack_eq`). `update_checksums` sets the first checksum from the master
keys, packs, and sets the second from the first 188 bytes of what it packed.
Those bytes end before the second checksum, so the header it leaves has both
checksums right (`checksummed_updateChecksums`).

`crc32` is `binascii.crc32`, an arbitrary function into 32-bit integers here.
The password-based key derivation and the XTS cipher of `encrypt` are
parameters too: the property at stake is the plaintext handed to them. -/
namespace DiskVm

/-- `VeraCryptHeader`, with its defaults. -/
structure VeraCryptHeader where
  /-- `b'VERA'`. -/
  signature : Bytes := [0x56, 0x45, 0x52, 0x41]
  headerFormatVersion : Int := 5
  minProgramVersion : Int := 0x10b
  checksumMasterKeys : Int := 0
  reserved1 : Bytes := List.replicate 16 0
  sizeHiddenVolume : Int := 0
  sizeVolume : Int := 0
  offset : Int := 0
  sizeEncrypted : Int := 0
  flags : Int := 0
  sectorSize : Int := 512
  reserved2 : Bytes := List.replicate 120 0
  checksumHeaderFields : Int := 0
  masterKeys : Bytes := List.replicate 256 0
deriving DecidableEq, Repr

namespace VeraCryptHeader

/-- The class: big-endian, with the fields' annotations in declaration order. -/
def cls : StructureClass where
  endian := .big
  fields := [.bytes (some 4), .uint16, .uint16, .uint32, .bytes (some 16), .uint64, .uint64, .uint64,
    .uint64, .uint32, .uint32, .bytes (some 120), .uint32, .bytes (some 256)]

/-- `dataclasses.astuple(self)`. -/
def astuple (h : VeraCryptHeader) : List Value :=
  [.bytes h.signature, .int h.headerFormatVersion, .int h.minProgramVersion, .int h.checksumMasterKeys,
    .bytes h.reserved1, .int h.sizeHiddenVolume, .int h.sizeVolume, .int h.offset, .int h.sizeEncrypted,
    .int h.flags, .int h.sectorSize, .bytes h.reserved2, .int h.checksumHeaderFields, .bytes h.masterKeys]

/-- `cls(**dict(zip(names, values)))`, for the values `unpack` reads. -/
def ofValues : List Value → Except Exception VeraCryptHeader
  | [.bytes signature, .int headerFormatVersion, .int minProgramVersion, .int checksumMasterKeys,
      .bytes reserved1, .int sizeHiddenVolume, .int sizeVolume, .int offset, .int sizeEncrypted,
      .int flags, .int sectorSize, .bytes reserved2, .int checksumHeaderFields, .bytes masterKeys] =>
    .ok ⟨signature, headerFormatVersion, minProgramVersion, checksumMasterKeys, reserved1, sizeHiddenVolume,
      sizeVolume, offset, sizeEncrypted, flags, sectorSize, reserved2, checksumHeaderFields, masterKeys⟩
  | _ => .error .typeError

def pack (h : VeraCryptHeader) : Except Exception Bytes := cls.pack h.astuple

def unpack (data : Bytes) : Except Exception VeraCryptHeader := do
  ofValues (← cls.unpack data)

/-- `update_checksums`, with `crc32` for `binascii.crc32`. -/
def updateChecksums (crc32 : Bytes → UInt32) (h : VeraCryptHeader) : Except Exception VeraCryptHeader := do
  let h := {h with checksumMasterKeys := (crc32 h.masterKeys).toNat}
  let headerData ← h.pack
  pure {h with checksumHeaderFields := (crc32 (headerData.take 188)).toNat}

/-- `encrypt(password, cipher, salt)`: the salt, then the packed header under XTS
with the key `kdf` derives from the password and the salt. -/
def encrypt (kdf : String → Bytes → Bytes) (xts : Bytes → Bytes → Bytes) (h : VeraCryptHeader)
    (password : String) (salt : Bytes) : Except Exception Bytes := do
  let headerData ← h.pack
  pure (salt ++ xts (kdf password salt) headerData)

end VeraCryptHeader

/-- `VeraCryptFlags.SYSTEM_ENCRYPTION`. -/
def VeraCryptFlags.systemEncryption : Int := 1

/-- The header `create_encrypted_veracrypt_header` builds for the system
partition, before its checksums. -/
def systemHeader (systemPartition : VolumeInfo) (masterKey : VeraCryptMasterKey) : VeraCryptHeader :=
  { sectorSize := 512, sizeVolume := systemPartition.size, sizeEncrypted := systemPartition.size,
    offset := systemPartition.offset, flags := VeraCryptFlags.systemEncryption,
    masterKeys := ljust masterKey.key 256 }

/-- `VeraCryptOverridePasswordPlugin.create_encrypted_veracrypt_header`, with
`salt` the random salt `encrypt` draws. -/
def createEncryptedVeracryptHeader (crc32 : Bytes → UInt32) (kdf : String → Bytes → Bytes)
    (xts : Bytes → Bytes → Bytes) (systemPartition : VolumeInfo) (masterKey : VeraCryptMasterKey)
    (password : String) (salt : Bytes) : Except Exception Bytes := do
  let header ← (systemHeader systemPartition masterKey).updateChecksums crc32
  header.encrypt kdf xts password salt

namespace VeraCryptHeader

/-! ### The layout -/

/-- The precondition of `pack`: every integer within its field's width, every
byte string of its declared size. -/
def fits (h : VeraCryptHeader) : Prop := List.Forall₂ (fun f v => f.fits v) cls.fields h.astuple

instance (h : VeraCryptHeader) : Decidable h.fits := by unfold fits; infer_instance

/-- The format `_get_struct_format` gives the header. -/
def codes : List FormatCode :=
  [.str 4, .uint 2, .uint 2, .uint 4, .str 16, .uint 8, .uint 8, .uint 8, .uint 8, .uint 4, .uint 4,
    .str 120, .uint 4, .str 256]

theorem structFormat_cls : structFormat cls.fields = .ok codes := rfl

theorem fits_iff (h : VeraCryptHeader) :
    h.fits ↔ List.Forall₂ (fun c v => c.fits v) codes h.astuple := by
  simp only [fits, cls, codes, astuple, List.forall₂_cons, List.Forall₂.nil, and_true]
  rfl

/-- Bytes 0..7: the signature and the two versions. -/
def lead (h : VeraCryptHeader) : Bytes :=
  h.signature ++ encodeUInt .big 2 h.headerFormatVersion.toNat ++ encodeUInt .big 2 h.minProgramVersion.toNat

/-- Bytes 12..187: from `reserved1` to `reserved2`. -/
def middle (h : VeraCryptHeader) : Bytes :=
  h.reserved1 ++ encodeUInt .big 8 h.sizeHiddenVolume.toNat ++ encodeUInt .big 8 h.sizeVolume.toNat ++
    encodeUInt .big 8 h.offset.toNat ++ encodeUInt .big 8 h.sizeEncrypted.toNat ++
    encodeUInt .big 4 h.flags.toNat ++ encodeUInt .big 4 h.sectorSize.toNat ++ h.reserved2

theorem pack_eq {h : VeraCryptHeader} (hh : h.fits) :
    h.pack = .ok (h.lead ++ encodeUInt .big 4 h.checksumMasterKeys.toNat ++ h.middle ++
      encodeUInt .big 4 h.checksumHeaderFields.toNat ++ h.masterKeys) := by
  rw [fits_iff] at hh
  show packValues .big codes h.astuple = _
  rw [(packValues_of_fits _ hh).1]
  simp [codes, astuple, fieldBytes, lead, middle]

/-- The byte fields of a header within its widths have their declared sizes. -/
theorem lengths_of_fits {h : VeraCryptHeader} (hh : h.fits) :
    h.signature.length = 4 ∧ h.reserved1.length = 16 ∧ h.reserved2.length = 120 ∧
      h.masterKeys.length = 256 := by
  simp only [fits_iff, codes, astuple, List.forall₂_cons] at hh
  obtain ⟨h0, -, -, -, h4, -, -, -, -, -, -, h11, -, h13, -⟩ := hh
  simp only [FormatCode.fits, beq_iff_eq] at h0 h4 h11 h13
  exact ⟨h0, h4, h11, h13⟩

theorem length_lead {h : VeraCryptHeader} (hh : h.fits) : h.lead.length = 8 := by
  simp [lead, (lengths_of_fits hh).1]

theorem length_middle {h : VeraCryptHeader} (hh : h.fits) : h.middle.length = 176 := by
  simp [middle, (lengths_of_fits hh).2.1, (lengths_of_fits hh).2.2.1]

theorem length_masterKeys {h : VeraCryptHeader} (hh : h.fits) : h.masterKeys.length = 256 :=
  (lengths_of_fits hh).2.2.2

theorem uint32_fits (a : UInt32) : (FormatCode.uint 4).fits (.int a.toNat) := by
  simp only [FormatCode.fits, Int.toNat_ofNat, Bool.and_eq_true, decide_eq_true_eq]
  exact ⟨Int.ofNat_nonneg _, a.toNat_lt_size⟩

/-- The checksums, set from `crc32`, keep a header within its widths. -/
theorem fits_checksums {h : VeraCryptHeader} (hh : h.fits) (a b : UInt32) :
    {h with checksumMasterKeys := a.toNat, checksumHeaderFields := b.toNat}.fits := by
  rw [fits_iff] at hh ⊢
  simp only [codes, astuple, List.forall₂_cons, List.Forall₂.nil, and_true] at hh ⊢
  obtain ⟨h0, h1, h2, -, h4, h5, h6, h7, h8, h9, h10, h11, -, h13⟩ := hh
  exact ⟨h0, h1, h2, uint32_fits a, h4, h5, h6, h7, h8, h9, h10, h11, uint32_fits b, h13⟩

theorem fits_checksumHeaderFields {h : VeraCryptHeader} (hh : h.fits) :
    (FormatCode.uint 4).fits (.int h.checksumHeaderFields) := by
  rw [fits_iff] at hh
  simp only [codes, astuple, List.forall₂_cons] at hh
  exact hh.2.2.2.2.2.2.2.2.2.2.2.2.1

theorem supported_cls : ∀ f ∈ cls.fields, f.supported := by decide

/-- A header within its widths packs to bytes that unpack to it. -/
theorem unpack_pack {h : VeraCryptHeader} (hh : h.fits) {b : Bytes} (hb : h.pack = .ok b) :
    unpack b = .ok h := by
  obtain ⟨b', hb', -, hback⟩ := cls.pack_of_fits supported_cls hh
  rw [pack, hb'] at hb
  cases hb
  rw [unpack, hback]
  rfl

/-- What a packed header carries: `checksum_master_keys` is the CRC-32 of bytes
192..447 and is stored big-endian at 8..11; `checksum_header_fields` is the CRC-32
of bytes 0..187 and is stored at 188..191. -/
structure Checksummed (crc32 : Bytes → UInt32) (h : VeraCryptHeader) (b : Bytes) : Prop where
  masterKeys : (crc32 ((b.drop 192).take 256)).toNat = h.checksumMasterKeys
  masterKeysStored : (b.drop 8).take 4 = encodeUInt .big 4 h.checksumMasterKeys.toNat
  headerFields : (crc32 (b.take 188)).toNat = h.checksumHeaderFields
  headerFieldsStored : (b.drop 188).take 4 = encodeUInt .big 4 h.checksumHeaderFields.toNat

/-- The byte ranges of a packed header: the master keys at 192..447, the two
checksums big-endian at 8..11 and 188..191, and bytes 0..187 everything before the
second checksum. -/
theorem pack_slices {h : VeraCryptHeader} (hh : h.fits) {b : Bytes} (hb : h.pack = .ok b) :
    b.length = 448 ∧ b.drop 192 = h.masterKeys ∧
      (b.drop 8).take 4 = encodeUInt .big 4 h.checksumMasterKeys.toNat ∧
      b.take 188 = h.lead ++ encodeUInt .big 4 h.checksumMasterKeys.toNat ++ h.middle ∧
      (b.drop 188).take 4 = encodeUInt .big 4 h.checksumHeaderFields.toNat := by
  rw [pack_eq hh] at hb
  cases hb
  have hl := length_lead hh
  have hm := length_middle hh
  have hk := length_masterKeys hh
  refine ⟨?_, ?_, ?_, ?_, ?_⟩ <;>
    simp [List.drop_append_eq_append_drop, List.take_append_eq_append_take, List.take_of_length_le,
      List.drop_of_length_le, hl, hm, hk]

/-- `update_checksums` sets the two checksums and nothing else: the first from the
master keys, the second from bytes 0..187 of the header with the first set. -/
theorem updateChecksums_eq (crc32 : Bytes → UInt32) {h : VeraCryptHeader} (hh : h.fits) :
    h.updateChecksums crc32 =
      .ok {h with
        checksumMasterKeys := (crc32 h.masterKeys).toNat
        checksumHeaderFields := (crc32 (h.lead ++ encodeUInt .big 4 (crc32 h.masterKeys).toNat ++ h.middle)).toNat} := by
  have h1 := fits_checksums hh (crc32 h.masterKeys) 0
  have hh1 : {h with checksumMasterKeys := (crc32 h.masterKeys).toNat}.fits := by
    simp only [fits_iff, codes, astuple, List.forall₂_cons] at h1 hh ⊢
    exact ⟨h1.1, h1.2.1, h1.2.2.1, h1.2.2.2.1, hh.2.2.2.2⟩
  obtain ⟨b, hb⟩ : ∃ b, {h with checksumMasterKeys := (crc32 h.masterKeys).toNat}.pack = .ok b := ⟨_, pack_eq hh1⟩
  simp only [updateChecksums, bind, Except.bind, hb, (pack_slices hh1 hb).2.2.2.1, pure, Except.pure]
  rfl

/-- After `update_checksums`, the packed header carries both checksums. -/
theorem checksummed_updateChecksums (crc32 : Bytes → UInt32) {h : VeraCryptHeader} (hh : h.fits) :
    ∃ h', h.updateChecksums crc32 = .ok h' ∧ h'.fits ∧
      {h' with checksumMasterKeys := h.checksumMasterKeys, checksumHeaderFields := h.checksumHeaderFields} = h ∧
      ∃ b, h'.pack = .ok b ∧ Checksummed crc32 h' b := by
  have hh' := fits_checksums hh (crc32 h.masterKeys)
    (crc32 (h.lead ++ encodeUInt .big 4 (crc32 h.masterKeys).toNat ++ h.middle))
  obtain ⟨-, hk, hs, hf, hs'⟩ := pack_slices hh' (pack_eq hh')
  have hkeys : (h.masterKeys.take 256) = h.masterKeys := List.take_of_length_le (length_masterKeys hh).le
  exact ⟨_, updateChecksums_eq crc32 hh, hh', rfl, _, pack_eq hh',
    ⟨by rw [hk]; exact congrArg (fun b => ((crc32 b).toNat : Int)) hkeys, hs, by rw [hf]; rfl, hs'⟩⟩

/-- The header built for a system partition whose offset and size fit 64 bits,
from a key of at most 256 bytes, is within its widths. -/
theorem fits_systemHeader {systemPartition : VolumeInfo} {masterKey : VeraCryptMasterKey}
    (hoff : 0 ≤ systemPartition.offset ∧ systemPartition.offset.toNat < 2 ^ 64)
    (hsize : 0 ≤ systemPartition.size ∧ systemPartition.size.toNat < 2 ^ 64)
    (hkey : masterKey.key.length ≤ 256) : (systemHeader systemPartition masterKey).fits := by
  rw [fits_iff]
  simp only [codes, astuple, systemHeader, ljust, List.forall₂_cons, List.Forall₂.nil, and_true]
  refine ⟨rfl, by decide, by decide, by decide, by decide, by decide, ?_, ?_, ?_, by decide, by decide,
    by decide, by decide, ?_⟩
  all_goals simp [FormatCode.fits]
  all_goals omega

end VeraCryptHeader

open VeraCryptHeader in
/-- `unpack(pack(s)) == s`, with `len(pack(s))` the sum of the field widths, for
every instance of a class of supported fields whose values fit them, and
`pack(unpack(b)) == b` for every byte string of that length. For the VeraCrypt
header this is a big-endian layout of 448 bytes, `checksum_header_fields` at
188..191 and `master_keys` at 192..447. -/
theorem pack_unpack_roundtrip (c : StructureClass) (hc : ∀ f ∈ c.fields, f.supported)
    (values : List Value) (hv : List.Forall₂ (fun f v => f.fits v) c.fields values)
    (data : Bytes) (hd : data.length = c.size) (h : VeraCryptHeader) (hh : h.fits) :
    (∃ b, c.pack values = .ok b ∧ b.length = c.size ∧ c.unpack b = .ok values) ∧
      (∃ values', c.unpack data = .ok values' ∧ c.pack values' = .ok data) ∧
      cls.endian = .big ∧ cls.size = 448 ∧
      ∃ b, h.pack = .ok b ∧ b.length = 448 ∧
        (b.drop 188).take 4 = encodeUInt .big 4 h.checksumHeaderFields.toNat ∧ b.drop 192 = h.masterKeys := by
  obtain ⟨hlen, hk, -, -, hs⟩ := pack_slices hh (pack_eq hh)
  exact ⟨c.pack_of_fits hc hv, c.unpack_of_length hc hd, rfl, rfl, _, pack_eq hh, hlen, hs, hk⟩

open VeraCryptHeader in
theorem defaultHeader_roundtrip :
    (∀ f ∈ cls.fields, f.supported) ∧
      List.Forall₂ (fun f v => f.fits v) cls.fields ({} : VeraCryptHeader).astuple ∧
      (List.replicate 448 (0 : UInt8)).length = cls.size ∧ ({} : VeraCryptHeader).fits ∧
      (∃ b, cls.pack ({} : VeraCryptHeader).astuple = .ok b ∧ b.length = cls.size ∧
          cls.unpack b = .ok ({} : VeraCryptHeader).astuple) ∧
      (∃ values', cls.unpack (List.replicate 448 0) = .ok values' ∧
          cls.pack values' = .ok (List.replicate 448 0)) ∧
      cls.endian = .big ∧ cls.size = 448 ∧
      ∃ b, ({} : VeraCryptHeader).pack = .ok b ∧ b.length = 448 ∧
        (b.drop 188).take 4 = encodeUInt .big 4 (0 : Int).toNat ∧
        b.drop 192 = List.replicate 256 0 :=
  have hfits : ({} : VeraCryptHeader).fits := by
    rw [fits_iff]; simp [codes, astuple, FormatCode.fits]
  have hlen : (List.replicate 448 (0 : UInt8)).length = cls.size := by rw [List.length_replicate]; rfl
  ⟨supported_cls, hfits, hlen, hfits, pack_unpack_roundtrip cls supported_cls _ hfits _ hlen {} hfits⟩

open VeraCryptHeader in
/-- After `update_checksums`, a header within its widths packs to bytes carrying
both checksums, every other field unchanged. The header
`create_encrypted_veracrypt_header` builds for a system partition whose offset
and size fit 64 bits, from a key of at most 256 bytes, is within its widths; the
plaintext it hands to the cipher unpacks to that header, checksummed: signature
`VERA`, the partition's size as `size_volume` and `size_encrypted`, its offset,
the system-encryption flag, and the key padded with zeros to 256 bytes. -/
theorem systemHeader_checksummed (crc32 : Bytes → UInt32) (h : VeraCryptHeader) (hh : h.fits)
    (kdf : String → Bytes → Bytes) (xts : Bytes → Bytes → Bytes) (systemPartition : VolumeInfo)
    (masterKey : VeraCryptMasterKey) (password : String) (salt : Bytes)
    (hoff : 0 ≤ systemPartition.offset ∧ systemPartition.offset.toNat < 2 ^ 64)
    (hsize : 0 ≤ systemPartition.size ∧ systemPartition.size.toNat < 2 ^ 64)
    (hkey : masterKey.key.length ≤ 256) :
    (∃ h', h.updateChecksums crc32 = .ok h' ∧
      {h' with checksumMasterKeys := h.checksumMasterKeys, checksumHeaderFields := h.checksumHeaderFields} = h ∧
      ∃ b, h'.pack = .ok b ∧ Checksummed crc32 h' b) ∧
    (systemHeader systemPartition masterKey).fits ∧
    ∃ plaintext header,
      createEncryptedVeracryptHeader crc32 kdf xts systemPartition masterKey password salt =
        .ok (salt ++ xts (kdf password salt) plaintext) ∧
      unpack plaintext = .ok header ∧ Checksummed crc32 header plaintext ∧
      header.signature = [0x56, 0x45, 0x52, 0x41] ∧ header.sizeVolume = systemPartition.size ∧
      header.sizeEncrypted = systemPartition.size ∧ header.offset = systemPartition.offset ∧
      header.flags = VeraCryptFlags.systemEncryption ∧
      header.masterKeys = masterKey.key ++ List.replicate (256 - masterKey.key.length) 0 := by
  obtain ⟨h', hu, -, hrest, hc⟩ := checksummed_updateChecksums crc32 hh
  have hsys := fits_systemHeader hoff hsize hkey
  obtain ⟨s', hsu, hs', hsrest, b, hb, hbc⟩ := checksummed_updateChecksums crc32 hsys
  refine ⟨⟨h', hu, hrest, hc⟩, hsys, b, s', ?_, unpack_pack hs' hb, hbc, ?_⟩
  · simp [createEncryptedVeracryptHeader, hsu, encrypt, hb, bind, Except.bind, pure, Except.pure]
  · have hf := fun {α : Type} (f : VeraCryptHeader → α) => congrArg f hsrest
    exact ⟨hf (·.signature), hf (·.sizeVolume), hf (·.sizeEncrypted), hf (·.offset), hf (·.flags),
      hf (·.masterKeys)⟩

/-- A 1 GiB system partition at 1 MiB. -/
def systemPartition1G : VolumeInfo := { offset := 1048576, size := 1073741824 }

/-- A 64-byte master key. -/
def masterKey64 : VeraCryptMasterKey := ⟨List.replicate 64 7, .aes256Xts⟩

/-- A stand-in checksum: the byte count. -/
def byteCount (b : Bytes) : UInt32 := b.length.toUInt32

open VeraCryptHeader in
theorem systemPartition1G_header_checksummed :
    ({} : VeraCryptHeader).fits ∧
      (0 ≤ systemPartition1G.offset ∧ systemPartition1G.offset.toNat < 2 ^ 64) ∧
      (0 ≤ systemPartition1G.size ∧ systemPartition1G.size.toNat < 2 ^ 64) ∧ masterKey64.key.length ≤ 256 ∧
      (∃ h', ({} : VeraCryptHeader).updateChecksums byteCount = .ok h' ∧
        {h' with checksumMasterKeys := 0, checksumHeaderFields := 0} = {} ∧
        ∃ b, h'.pack = .ok b ∧ Checksummed byteCount h' b) ∧
      (systemHeader systemPartition1G masterKey64).fits ∧
      ∃ plaintext header,
        createEncryptedVeracryptHeader byteCount (fun _ _ => []) (fun _ d => d) systemPartition1G masterKey64
            "newpwd" [] = .ok ([] ++ plaintext) ∧
        unpack plaintext = .ok header ∧ Checksummed byteCount header plaintext ∧
        header.signature = [0x56, 0x45, 0x52, 0x41] ∧ header.sizeVolume = 1073741824 ∧
        header.sizeEncrypted = 1073741824 ∧ header.offset = 1048576 ∧
        header.flags = VeraCryptFlags.systemEncryption ∧
        header.masterKeys = List.replicate 64 7 ++ List.replicate (256 - 64) 0 :=
  have hfits : ({} : VeraCryptHeader).fits := by
    rw [fits_iff]; simp [codes, astuple, FormatCode.fits]
  have hkey : masterKey64.key.length ≤ 256 := by simp [masterKey64]
  ⟨hfits, by decide, by decide, hkey,
    systemHeader_checksummed byteCount {} hfits (fun _ _ => []) (fun _ d => d) systemPartition1G masterKey64
      "newpwd" [] (by decide) (by decide) hkey⟩

end DiskVm
