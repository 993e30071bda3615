import DiskVm.Data
import DiskVm.Vm.Vmx
import DiskVm.Plugins.PasswordBypass
import Mathlib.Data.Finset.Image
import Mathlib.Data.Finset.Prod

/-! The command line (`main.py`, and `SizeParamType`, `BytesParamType` of
`utils.py`).

`--master-key` values and the lines of `--master-keys-file` are read by
`bytes.fromhex`: each byte is two hex digits of either case, and ASCII
whitespace may stand before a byte and at the end, never inside one
(`fromHex_eq_some_iff`, with `Spells` the accepted texts). `--vm-memory` is
read by `SizeParamType`: decimal digits and an optional unit `K`, `M`, `G`, `T`,
each with an optional `B` (`sizeConvert_eq_ok_iff`); anything else fails with a
message quoting the value. The keys are gathered in a set, to which
`--xts-combine-keys` adds every concatenation of two different keys of one
length. -/
namespace DiskVm

/-- What the parameter types raise: `click`'s `BadParameter` from `self.fail`,
and the `KeyError` and `ValueError` that nothing turns into one. -/
inductive CliError where
  | badParameter (message : String)
  | keyError
  | valueError
deriving DecidableEq, Repr

/-! ### `bytes.fromhex` -/

/-- `Py_ISSPACE`: the ASCII whitespace `bytes.fromhex` skips. -/
def isAsciiSpace (c : Char) : Bool :=
  c = ' ' || c = '\t' || c = '\n' || c = '\r' || c = '\x0b' || c = '\x0c'

/-- `_PyLong_DigitValue[c]`, when below 16: a hex digit of either case. -/
def hexValue (c : Char) : Option Nat :=
  if '0' ≤ c ∧ c ≤ '9' then some (c.toNat - 48)
  else if 'a' ≤ c ∧ c ≤ 'f' then some (c.toNat - 87)
  else if 'A' ≤ c ∧ c ≤ 'F' then some (c.toNat - 55)
  else none

/-- `bytes.fromhex(s)`; `none` is its `ValueError`. Whitespace is skipped before
a pair of digits, not between its two digits; a character that is not ASCII is
no digit. -/
def fromHex : List Char → Option Bytes
  | [] => some []
  | c :: cs =>
    if isAsciiSpace c then fromHex cs
    else
      match cs with
      | [] => none
      | d :: rest =>
        match hexValue c, hexValue d with
        | some hi, some lo => (fromHex rest).map ((hi * 16 + lo).toUInt8 :: ·)
        | _, _ => none

/-- The texts `bytes.fromhex` reads as `bs`: whitespace may stand anywhere
but between the two digits of a byte. -/
inductive Spells : List Char → Bytes → Prop
  | nil : Spells [] []
  | space {c : Char} {cs : List Char} {bs : Bytes} : isAsciiSpace c → Spells cs bs → Spells (c :: cs) bs
  | pair {hi lo : Char} {a b : Nat} {cs : List Char} {bs : Bytes} : hexValue hi = some a → hexValue lo = some b →
      Spells cs bs → Spells (hi :: lo :: cs) ((a * 16 + b).toUInt8 :: bs)

theorem hexValue_of_space {c : Char} (h : isAsciiSpace c) : hexValue c = none := by
  simp only [isAsciiSpace, Bool.or_eq_true, decide_eq_true_eq] at h
  rcases h with ((((rfl | rfl) | rfl) | rfl) | rfl) | rfl <;> rfl

theorem fromHex_cons_of_space {c : Char} (hc : isAsciiSpace c) (cs : List Char) :
    fromHex (c :: cs) = fromHex cs := by
  cases cs with
  | nil => rw [fromHex.eq_2, if_pos hc]
  | cons d rest => rw [fromHex.eq_3, if_pos hc]

theorem fromHex_pair {hi lo : Char} {a b : Nat} (ha : hexValue hi = some a) (hb : hexValue lo = some b)
    (rest : List Char) : fromHex (hi :: lo :: rest) = (fromHex rest).map (((a * 16 + b).toUInt8) :: ·) := by
  have hs : isAsciiSpace hi = false := by
    cases h : isAsciiSpace hi
    · rfl
    · rw [hexValue_of_space h] at ha; cases ha
  rw [fromHex.eq_3, if_neg (by rw [hs]; decide), ha, hb]

theorem spells_of_fromHex {s : List Char} {bs : Bytes} (h : fromHex s = some bs) : Spells s bs := by
  induction s using fromHex.induct generalizing bs with
  | case1 => cases h; exact .nil
  | case2 c cs hc ih =>
    rw [fromHex_cons_of_space hc] at h
    exact .space hc (ih h)
  | case3 c hc => rw [fromHex.eq_2, if_neg hc] at h; cases h
  | case4 c _ d rest a b hb ha ih =>
    rw [fromHex_pair ha hb] at h
    obtain ⟨bs', hrest, rfl⟩ := Option.map_eq_some'.mp h
    exact .pair ha hb (ih hrest)
  | case5 c hc d rest hno =>
    rw [fromHex.eq_3, if_neg hc] at h
    split at h
    next a b ha hb => exact (hno a b ha hb).elim
    next => cases h

theorem fromHex_of_spells {s : List Char} {bs : Bytes} (h : Spells s bs) : fromHex s = some bs := by
  induction h with
  | nil => rfl
  | space hc _ ih => rw [fromHex_cons_of_space hc, ih]
  | pair ha hb _ ih => rw [fromHex_pair ha hb, ih]; rfl

/-- `bytes.fromhex` reads exactly the texts of `Spells`, as the bytes they
spell. -/
theorem fromHex_eq_some_iff {s : List Char} {bs : Bytes} : fromHex s = some bs ↔ Spells s bs :=
  ⟨spells_of_fromHex, fromHex_of_spells⟩

/-- `BytesParamType.convert`. -/
def bytesConvert (value : String) : Except CliError Bytes :=
  match fromHex value.toList with
  | some bs => .ok bs
  | none => .error (.badParameter ("\"" ++ value ++ "\" is not a hex string"))

/-! ### `SizeParamType` -/

/-- `SizeUnit`. -/
inductive SizeUnit where
  | b
  | kb
  | mb
  | gb
  | tb
deriving DecidableEq, Repr

namespace SizeUnit

def value : SizeUnit → Nat
  | .b => 1
  | .kb => 1024
  | .mb => 1048576
  | .gb => 1073741824
  | .tb => 1099511627776

def name : SizeUnit → List Char
  | .b => ['B']
  | .kb => ['K', 'B']
  | .mb => ['M', 'B']
  | .gb => ['G', 'B']
  | .tb => ['T', 'B']

/-- `SizeUnit[name]`; `none` is the `KeyError`. -/
def ofName (name : List Char) : Option SizeUnit := [b, kb, mb, gb, tb].find? (·.name = name)

/-- The letter in front of `B`. -/
def letter : SizeUnit → List Char
  | .b => []
  | .kb => ['K']
  | .mb => ['M']
  | .gb => ['G']
  | .tb => ['T']

end SizeUnit

/-- The ten strings `[KMGT]?B?` matches. -/
def unitGroups : List (List Char) :=
  [[], ['B'], ['K'], ['K', 'B'], ['M'], ['M', 'B'], ['G'], ['G', 'B'], ['T'], ['T', 'B']]

/-- `[KMGT]?B?`, matching the whole of `cs`. -/
def isUnitGroup (cs : List Char) : Bool := cs ∈ unitGroups

/-- `PATTERN.fullmatch(value)` by its two groups. `[0-9]+` takes the longest run
of leading digits: `[KMGT]?B?` matches no digit, so no shorter run leads to a
match. -/
def sizeMatch (cs : List Char) : Option (List Char × List Char) :=
  let (ds, rest) := cs.span Char.isDigit
  if ds ≠ [] ∧ isUnitGroup rest then some (ds, rest) else none

/-- `SizeParamType.convert`: an `int` passes as it is; a string is digits and a
unit, `B` being added to the unit when missing. -/
def sizeConvert : String ⊕ Int → Except CliError Int
  | .inr n => .ok n
  | .inl value =>
    match sizeMatch value.toList with
    | some (ds, unit) =>
      match SizeUnit.ofName (if unit.getLast? = some 'B' then unit else unit ++ ['B']) with
      | some u => .ok (Vm.decimalValue ds * u.value : Nat)
      | none => .error .keyError
    | none => .error (.badParameter ("\"" ++ value ++ "\" is not a valid size"))

/-- The text of a unit as the pattern takes it: its letter and maybe `B`. -/
def SizeUnit.spelling (u : SizeUnit) (withB : Bool) : List Char := u.letter ++ if withB then ['B'] else []

theorem span_digits {ds rest : List Char} (hds : ∀ c ∈ ds, c.isDigit)
    (hrest : ∀ c ∈ rest.head?, c.isDigit = false) : (ds ++ rest).span Char.isDigit = (ds, rest) := by
  rw [List.span_eq_take_drop]
  induction ds with
  | nil =>
    cases rest with
    | nil => rfl
    | cons c cs => simp [List.takeWhile_cons, List.dropWhile_cons, hrest c rfl]
  | cons d ds ih =>
    rw [List.forall_mem_cons] at hds
    simpa [List.takeWhile_cons, List.dropWhile_cons, hds.1] using ih hds.2

theorem sizeMatch_eq_some {cs ds unit : List Char} (h : sizeMatch cs = some (ds, unit)) :
    cs = ds ++ unit ∧ ds ≠ [] ∧ (∀ c ∈ ds, c.isDigit) ∧ isUnitGroup unit := by
  simp only [sizeMatch, List.span_eq_take_drop] at h
  split_ifs at h with hc
  cases h
  exact ⟨(List.takeWhile_append_dropWhile _ _).symm, hc.1, fun c hc => List.mem_takeWhile_imp hc, hc.2⟩

theorem sizeMatch_spelling {ds : List Char} (hne : ds ≠ []) (hds : ∀ c ∈ ds, c.isDigit) (u : SizeUnit)
    (withB : Bool) (hunit : isUnitGroup (u.spelling withB)) :
    sizeMatch (ds ++ u.spelling withB) = some (ds, u.spelling withB) := by
  have hhead : ∀ c ∈ (u.spelling withB).head?, c.isDigit = false := by
    cases u <;> cases withB <;> decide
  simp only [sizeMatch, span_digits hds hhead]
  exact if_pos ⟨hne, hunit⟩

/-- Each of the ten unit groups is the spelling of the unit it names. -/
theorem ofName_of_unitGroup {unit : List Char} (h : isUnitGroup unit) :
    ∃ u withB, unit = u.spelling withB ∧
      SizeUnit.ofName (if unit.getLast? = some 'B' then unit else unit ++ ['B']) = some u := by
  simp only [isUnitGroup, unitGroups, decide_eq_true_eq, List.mem_cons, List.mem_singleton,
    List.not_mem_nil, or_false] at h
  rcases h with rfl | rfl | rfl | rfl | rfl | rfl | rfl | rfl | rfl | rfl
  exacts [⟨.b, false, rfl, rfl⟩, ⟨.b, true, rfl, rfl⟩, ⟨.kb, false, rfl, rfl⟩, ⟨.kb, true, rfl, rfl⟩,
    ⟨.mb, false, rfl, rfl⟩, ⟨.mb, true, rfl, rfl⟩, ⟨.gb, false, rfl, rfl⟩, ⟨.gb, true, rfl, rfl⟩,
    ⟨.tb, false, rfl, rfl⟩, ⟨.tb, true, rfl, rfl⟩]

theorem unitGroup_spelling (u : SizeUnit) (withB : Bool) :
    isUnitGroup (u.spelling withB) ∧
      SizeUnit.ofName (if (u.spelling withB).getLast? = some 'B' then u.spelling withB
        else u.spelling withB ++ ['B']) = some u := by
  cases u <;> cases withB <;> decide

theorem sizeConvert_of_spelling {value : String} {ds : List Char} (hne : ds ≠ []) (hds : ∀ c ∈ ds, c.isDigit)
    {u : SizeUnit} {withB : Bool} (hv : value.toList = ds ++ u.spelling withB) :
    sizeConvert (.inl value) = .ok (Vm.decimalValue ds * u.value : Nat) := by
  obtain ⟨hunit, hu⟩ := unitGroup_spelling u withB
  rw [sizeConvert, hv, sizeMatch_spelling hne hds u withB hunit]
  dsimp only
  rw [hu]

/-- `SizeParamType` accepts exactly the strings of decimal digits followed by a
unit letter or none, and `B` or not, as that many units. -/
theorem sizeConvert_eq_ok_iff {value : String} {n : Int} :
    sizeConvert (.inl value) = .ok n ↔
      ∃ (ds : List Char) (u : SizeUnit) (withB : Bool), ds ≠ [] ∧ (∀ c ∈ ds, c.isDigit) ∧
        value.toList = ds ++ u.spelling withB ∧ n = (Vm.decimalValue ds * u.value : Nat) := by
  constructor
  · intro h
    cases hm : sizeMatch value.toList with
    | none => rw [sizeConvert, hm] at h; cases h
    | some m =>
      obtain ⟨ds, unit⟩ := m
      obtain ⟨hv, hne, hds, hunit⟩ := sizeMatch_eq_some hm
      obtain ⟨u, withB, rfl, hu⟩ := ofName_of_unitGroup hunit
      rw [sizeConvert, hm] at h
      dsimp only at h
      rw [hu] at h
      exact ⟨ds, u, withB, hne, hds, hv, (Except.ok.inj h).symm⟩
  · rintro ⟨ds, u, withB, hne, hds, hv, rfl⟩
    exact sizeConvert_of_spelling hne hds hv

/-- Every string `SizeParamType` rejects fails with the message quoting it: the
`KeyError` of an unknown unit cannot happen. -/
theorem sizeConvert_error {value : String} {e : CliError} (h : sizeConvert (.inl value) = .error e) :
    e = .badParameter ("\"" ++ value ++ "\" is not a valid size") := by
  cases hm : sizeMatch value.toList with
  | none => rw [sizeConvert, hm] at h; exact (Except.error.inj h).symm
  | some m =>
    obtain ⟨ds, unit⟩ := m
    obtain ⟨u, withB, -, hu⟩ := ofName_of_unitGroup (sizeMatch_eq_some hm).2.2.2
    rw [sizeConvert, hm] at h
    dsimp only at h
    rw [hu] at h
    cases h

example : sizeConvert (.inl "4 GB") = .error (.badParameter "\"4 GB\" is not a valid size") := rfl

example : sizeConvert (.inl "4GB") = .ok 4294967296 := rfl

/-! ### The master keys -/

/-- The keys of `--master-keys-file`: `bytes.fromhex` of each line that is not
empty, the file read as text; a line that is no hex string raises `ValueError`. -/
def keysOfFile (text : String) : Except CliError (List Bytes) :=
  ((splitlines (universalNewlines text.toList)).filter (· ≠ [])).mapM fun line =>
    match fromHex line with
    | some key => .ok key
    | none => .error .valueError

/-- `master_keys |= set(map(lambda t: t[0] + t[1], filter(lambda t: len(t[0]) ==
len(t[1]), itertools.permutations(master_keys, 2))))`: the two keys of a
permutation are different members of the set. -/
def xtsCombine (keys : Finset Bytes) : Finset Bytes :=
  keys ∪ ((keys ×ˢ keys).filter fun p => p.1 ≠ p.2 ∧ p.1.length = p.2.length).image fun p => p.1 ++ p.2

/-- The set `main` passes as `master_keys`: the `--master-key` values, the keys
of the file, and with `--xts-combine-keys` their combinations. -/
def masterKeyCandidates (masterKey : List Bytes) (keysFile : Option String) (xtsCombineKeys : Bool) :
    Except CliError (Finset Bytes) := do
  let fromFile ← match keysFile with
    | some text => keysOfFile text
    | none => pure []
  let keys := masterKey.toFinset ∪ fromFile.toFinset
  pure (if xtsCombineKeys then xtsCombine keys else keys)

theorem mem_xtsCombine {keys : Finset Bytes} {k : Bytes} :
    k ∈ xtsCombine keys ↔ k ∈ keys ∨ ∃ a ∈ keys, ∃ b ∈ keys, a ≠ b ∧ a.length = b.length ∧ k = a ++ b := by
  simp only [xtsCombine, Finset.mem_union, Finset.mem_image, Finset.mem_filter, Finset.mem_product,
    Prod.exists]
  constructor
  · rintro (h | ⟨a, b, ⟨⟨ha, hb⟩, hab, hlen⟩, rfl⟩)
    exacts [.inl h, .inr ⟨a, ha, b, hb, hab, hlen, rfl⟩]
  · rintro (h | ⟨a, ha, b, hb, hab, hlen, rfl⟩)
    exacts [.inl h, .inr ⟨a, b, ⟨⟨ha, hb⟩, hab, hlen⟩, rfl⟩]

/-- `bytes.fromhex` reads the empty key from exactly the texts of whitespace. -/
theorem fromHex_eq_nil_iff {s : List Char} : fromHex s = some [] ↔ ∀ c ∈ s, isAsciiSpace c := by
  refine ⟨fun h => ?_, fun h => fromHex_of_spells ?_⟩
  · replace h := spells_of_fromHex h
    generalize hbs : ([] : Bytes) = bs at h
    induction h with
    | nil => simp
    | space hc _ ih => exact List.forall_mem_cons.mpr ⟨hc, ih hbs⟩
    | pair => cases hbs
  · induction s with
    | nil => exact .nil
    | cons c cs ih =>
      rw [List.forall_mem_cons] at h
      exact .space h.1 (ih h.2)

theorem mem_of_mapM_ok {α β ε : Type} {f : α → Except ε β} :
    ∀ {l : List α} {ys : List β}, l.mapM f = .ok ys → ∀ y, y ∈ ys ↔ ∃ x ∈ l, f x = .ok y
  | [], ys, h, y => by cases h; simp
  | x :: l, ys, h, y => by
    rw [List.mapM_cons] at h
    cases hx : f x with
    | error e => rw [hx] at h; cases h
    | ok y₀ =>
      cases hl : l.mapM f with
      | error e => simp only [hx, hl] at h; cases h
      | ok ys₀ =>
        simp only [hx, hl] at h
        cases h
        rw [List.mem_cons, mem_of_mapM_ok hl y]
        constructor
        · rintro (rfl | ⟨x', hx', hfx⟩)
          exacts [⟨x, List.mem_cons_self _ _, hx⟩, ⟨x', List.mem_cons_of_mem _ hx', hfx⟩]
        · rintro ⟨x', hx', hfx⟩
          rcases List.mem_cons.mp hx' with rfl | hx'
          · rw [hx] at hfx; exact .inl (Except.ok.inj hfx).symm
          · exact .inr ⟨x', hx', hfx⟩

/-- The keys of a file hold the empty key exactly when one of its lines is made
of whitespace only, without being empty. -/
theorem nil_mem_keysOfFile {text : String} {keys : List Bytes} (h : keysOfFile text = .ok keys) :
    [] ∈ keys ↔ ∃ line ∈ splitlines (universalNewlines text.toList), line ≠ [] ∧ ∀ c ∈ line, isAsciiSpace c := by
  rw [mem_of_mapM_ok h]
  constructor
  · rintro ⟨line, hmem, hline⟩
    obtain ⟨hl, hne⟩ := List.mem_filter.mp hmem
    refine ⟨line, hl, of_decide_eq_true hne, fromHex_eq_nil_iff.mp ?_⟩
    split at hline
    · rename_i key hkey
      cases hline
      exact hkey
    · cases hline
  · rintro ⟨line, hl, hne, hsp⟩
    refine ⟨line, List.mem_filter.mpr ⟨hl, decide_eq_true hne⟩, ?_⟩
    rw [fromHex_eq_nil_iff.mpr hsp]

theorem blankLine_empty_key :
    keysOfFile "aa\n \n" = .ok [[0xaa], []] ∧
      (([] : Bytes) ∈ [[0xaa], []] ↔
        ∃ line ∈ splitlines (universalNewlines "aa\n \n".toList), line ≠ [] ∧ ∀ c ∈ line, isAsciiSpace c) :=
  ⟨rfl, nil_mem_keysOfFile rfl⟩

end DiskVm
