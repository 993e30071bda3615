import DiskVm.Basic

/-! The records the pipeline passes around (`data.py`).

A volume's `parent` is the index of its parent in `disk_info.volumes`: the code
only ever sets it to the volume being mounted, which is an entry of that list.
The back-reference to the disk is left out, since every volume of a walk belongs
to the disk being walked, and so is the raw partition entry (`volume_info`),
which no modelled function reads.

`additional_info` is a free-form dict; following the spec's design notes it is
a record of the well-known per-plugin entries, each absent or holding the keys
the plugins read. A key that is absent reads as falsy, as `.get(k, {})` does. -/
namespace DiskVm

/-- A raw key, as bytes. -/
abbrev Bytes := List UInt8

/-- `bytes.ljust(width, b'\x00')`: zeros appended up to `width`; a longer string is
kept whole. -/
def ljust (b : Bytes) (width : Nat) : Bytes := b ++ List.replicate (width - b.length) 0

/-- `additional_info['luks']`. -/
structure LuksInfo where
  enabled : Bool := false
  mounted : Bool := false
  masterKey : Option Bytes := none
  password : Option String := none
deriving DecidableEq, Repr

/-- `additional_info['bitlocker']`. -/
structure BitLockerInfo where
  enabled : Bool := false
  mounted : Bool := false
  clearkey : Bool := false
  fvek : Option (Nat × Bytes) := none
  password : Option String := none
deriving DecidableEq, Repr

/-- `VeraCryptCipher`. -/
inductive VeraCryptCipher where
  | aes256Xts
deriving DecidableEq, Repr

/-- The cipher's name for `cryptsetup`. -/
def VeraCryptCipher.value : VeraCryptCipher → String
  | .aes256Xts => "aes-xts-plain64"

/-- `list(VeraCryptCipher)`. -/
def VeraCryptCipher.all : List VeraCryptCipher := [.aes256Xts]

/-- `VeraCryptMasterKey`. -/
structure VeraCryptMasterKey where
  key : Bytes
  cipher : VeraCryptCipher := .aes256Xts
deriving DecidableEq, Repr

/-- `additional_info['veracrypt']` of a volume. -/
structure VeraCryptInfo where
  enabled : Bool := false
  mounted : Bool := false
  masterKey : Option VeraCryptMasterKey := none
deriving DecidableEq, Repr

/-- `additional_info['lvm']`. -/
structure LvmInfo where
  active : Bool := false
  volumeGroup : String := ""
deriving DecidableEq, Repr

/-- A volume's `additional_info`. -/
structure VolumeAnnotations where
  luks : Option LuksInfo := none
  bitlocker : Option BitLockerInfo := none
  veracrypt : Option VeraCryptInfo := none
  lvm : Option LvmInfo := none
deriving DecidableEq, Repr

/-- `additional_info.get(name, {}).get('mounted')` and `.get('enabled')`, for the
annotation `name` of each plugin. -/
def luksMounted (a : VolumeAnnotations) : Bool := (a.luks.map (·.mounted)).getD false
def luksEnabled (a : VolumeAnnotations) : Bool := (a.luks.map (·.enabled)).getD false
def bitlockerMounted (a : VolumeAnnotations) : Bool := (a.bitlocker.map (·.mounted)).getD false
def bitlockerEnabled (a : VolumeAnnotations) : Bool := (a.bitlocker.map (·.enabled)).getD false
def veracryptMounted (a : VolumeAnnotations) : Bool := (a.veracrypt.map (·.mounted)).getD false
def veracryptEnabled (a : VolumeAnnotations) : Bool := (a.veracrypt.map (·.enabled)).getD false

/-- A volume type tag: a GPT type GUID or an MBR type byte. -/
inductive VolumeType where
  | guid (g : String)
  | mbrType (t : Nat)
deriving DecidableEq, Repr

/-- `VolumeInfo`. -/
structure VolumeInfo where
  flatMount : Option Path := none
  filesystemMount : Option Path := none
  parent : Option Nat := none
  offset : Int := 0
  size : Int := 0
  volumeType : Option VolumeType := none
  additionalInfo : VolumeAnnotations := {}
deriving DecidableEq, Repr

inductive PartitionScheme where
  | mbr
  | gpt
  | unknown
deriving DecidableEq, Repr

structure GptPartition where
  firstLba : Int
  lastLba : Int
  guid : String
deriving DecidableEq, Repr

structure MbrPartition where
  lba : Int
  sectors : Int
  type : Nat
deriving DecidableEq, Repr

structure Gpt where
  lbaSize : Int
  partitions : List GptPartition
deriving DecidableEq, Repr

structure Mbr where
  lbaSize : Int
  partitions : List MbrPartition
deriving DecidableEq, Repr

/-- What `get_disk_partitions_info` returns. -/
structure DiskPartitionsInfo where
  gpt : Option Gpt := none
  mbr : Option Mbr := none
deriving DecidableEq, Repr

/-- `disk_info.additional_info`: the VeraCrypt system-encryption mark. -/
structure DiskAnnotations where
  veracryptSystemEncryptionEnabled : Bool := false
deriving DecidableEq, Repr

/-- `DiskInfo`. -/
structure DiskInfo where
  readonly : Bool
  flatMountedDisk : Path
  diskInfo : DiskPartitionsInfo
  volumes : List VolumeInfo := []
  additionalInfo : DiskAnnotations := {}
  keepMounted : Bool := false
deriving DecidableEq, Repr

namespace DiskInfo

def partitionScheme (d : DiskInfo) : PartitionScheme :=
  if d.diskInfo.gpt.isSome then .gpt else if d.diskInfo.mbr.isSome then .mbr else .unknown

def sectorSize (d : DiskInfo) : Int :=
  match d.diskInfo.gpt, d.diskInfo.mbr with
  | some g, _ => g.lbaSize
  | none, some m => m.lbaSize
  | none, none => 512

end DiskInfo

/-- The options plugins consult: `additional_options['master_keys']`, in the
order the set is iterated. -/
structure DiskVmCreatorOptions where
  masterKeys : List Bytes := []
deriving DecidableEq, Repr

/-- `ctx.additional_info`: what the detection plugins leave for `before_create_vm`. -/
structure ContextInfo where
  autoDetectedGuestOs : Option String := none
  isEfi : Bool := false
deriving DecidableEq, Repr

end DiskVm
