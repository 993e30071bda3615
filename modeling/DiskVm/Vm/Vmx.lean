import DiskVm.Vm.Base

/-! The disk entries of a VMX file (`vm/vmware.py`): `DISK_PATH_PATTERN` and
`findall`.

The pattern is `(ide|sata|nvme)[0-9]+:[0-9]+\.fileName\s*=\s*"([^"]+)"`, its
first group the values of `DiskType`. Each repetition in it is greedy and is
followed by a character it cannot consume (`:` or `.` after digits, `=` or `"`
after blanks, `"` after the value), so backtracking never changes a match: the
matcher below consumes what the regex engine's first attempt consumes.
`findall` tries the pattern at each position from the left and resumes after
each match.

The VMX text is lines joined by newlines. A match begins with a disk type and
digits, so the colon it needs lies on the line it starts on
(`colon_of_matchDiskPath`), and a line without a colon starts none. The lines
`write` produces are closed (`Closed`): no match runs past their end, so
`findall` over the text is the concatenation of its runs over the lines
(`findAll_intercalate`). -/
namespace DiskVm.Vm

/-- `\s` on a `str` pattern: the characters `str.isspace` accepts. -/
def isPySpace (c : Char) : Bool :=
  [0x09, 0x0a, 0x0b, 0x0c, 0x0d, 0x1c, 0x1d, 0x1e, 0x1f, 0x20, 0x85, 0xa0, 0x1680, 0x2000, 0x2001,
    0x2002, 0x2003, 0x2004, 0x2005, 0x2006, 0x2007, 0x2008, 0x2009, 0x200a, 0x2028, 0x2029, 0x202f,
    0x205f, 0x3000].contains c.toNat

/-- The members of `DiskType` in definition order. -/
def DiskType.all : List DiskType := [.ide, .sata, .nvMe]

/-- A literal: what follows `lit` when `cs` starts with it. -/
def matchLiteral : List Char → List Char → Option (List Char)
  | [], cs => some cs
  | _ :: _, [] => none
  | l :: lit, c :: cs => if l = c then matchLiteral lit cs else none

/-- `(ide|sata|nvme)`: the first alternative that matches. -/
def matchDiskType (cs : List Char) : Option (DiskType × List Char) :=
  DiskType.all.findSome? fun t => (matchLiteral t.value.toList cs).map ((t, ·))

/-- `[0-9]+`. -/
def matchDigits : List Char → Option (List Char)
  | c :: cs => if c.isDigit then some (cs.dropWhile Char.isDigit) else none
  | [] => none

/-- `([^"]+)"`: the group and what follows the closing quote. -/
def matchQuoted (cs : List Char) : Option (List Char × List Char) :=
  match cs.takeWhile (· != '"'), cs.dropWhile (· != '"') with
  | c :: value, _ :: rest => some (c :: value, rest)
  | _, _ => none

/-- `\.fileName\s*=\s*"([^"]+)"`, the pattern's tail. -/
def matchFileName (r : List Char) : Option (List Char × List Char) := do
  let r ← matchLiteral ".fileName".toList r
  let r ← matchLiteral ['='] (r.dropWhile isPySpace)
  let r ← matchLiteral ['"'] (r.dropWhile isPySpace)
  matchQuoted r

/-- `DISK_PATH_PATTERN` at the start of `cs`: the two groups and what follows the
match. -/
def matchDiskPath (cs : List Char) : Option ((DiskType × List Char) × List Char) := do
  let (t, r) ← matchDiskType cs
  let r ← matchDigits r
  let r ← matchLiteral [':'] r
  let r ← matchDigits r
  let (value, rest) ← matchFileName r
  pure ((t, value), rest)

/-- `findall`, with `skip` the characters of the last match still to pass. -/
def findAllFrom : Nat → List Char → List (DiskType × List Char)
  | _, [] => []
  | skip + 1, _ :: cs => findAllFrom skip cs
  | 0, c :: cs =>
    match matchDiskPath (c :: cs) with
    | some (m, rest) => m :: findAllFrom (cs.length - rest.length) cs
    | none => findAllFrom 0 cs

/-- `DISK_PATH_PATTERN.findall(text)`. -/
def findAll (cs : List Char) : List (DiskType × List Char) := findAllFrom 0 cs

/-! ### The pieces of the pattern -/

@[simp] theorem matchLiteral_append (lit rest : List Char) : matchLiteral lit (lit ++ rest) = some rest := by
  induction lit with
  | nil => rfl
  | cons l lit ih => simp [matchLiteral, ih]

theorem matchDiskType_value (t : DiskType) (rest : List Char) :
    matchDiskType (t.value.toList ++ rest) = some (t, rest) := by
  cases t <;> rfl

theorem eq_of_matchLiteral {lit cs r : List Char} (h : matchLiteral lit cs = some r) : cs = lit ++ r := by
  induction lit generalizing cs with
  | nil => simpa [matchLiteral] using h
  | cons l lit ih =>
    rcases cs with _ | ⟨c, cs⟩
    · simp [matchLiteral] at h
    · simp only [matchLiteral] at h
      split at h
      · subst l; simp [ih h]
      · simp at h

theorem eq_of_matchDiskType {cs rest : List Char} {t : DiskType} (h : matchDiskType cs = some (t, rest)) :
    cs = t.value.toList ++ rest := by
  obtain ⟨t', -, h⟩ := List.exists_of_findSome?_eq_some h
  obtain ⟨r, hr, he⟩ := Option.map_eq_some'.1 h
  cases he
  exact eq_of_matchLiteral hr

theorem eq_of_matchDigits {cs rest : List Char} (h : matchDigits cs = some rest) :
    ∃ d ds, cs = d :: ds ++ rest ∧ ∀ c ∈ d :: ds, c.isDigit := by
  rcases cs with _ | ⟨d, cs⟩
  · simp [matchDigits] at h
  · simp only [matchDigits] at h
    split at h
    · refine ⟨d, cs.takeWhile Char.isDigit, ?_, ?_⟩
      · simp [← Option.some.inj h]
      · rintro c (_ | ⟨_, hc⟩)
        · assumption
        · exact List.mem_takeWhile_imp hc
    · simp at h

theorem matchDigits_append {ds : List Char} (hne : ds ≠ []) (hds : ∀ c ∈ ds, c.isDigit)
    {rest : List Char} (hrest : rest.head?.all (! ·.isDigit)) :
    matchDigits (ds ++ rest) = some rest := by
  obtain ⟨d, ds, rfl⟩ := List.exists_cons_of_ne_nil hne
  have hdrop : rest.dropWhile Char.isDigit = rest := by
    rcases rest with _ | ⟨r, rest⟩
    · rfl
    · simp_all [List.dropWhile_cons]
  simp [matchDigits, hds d (List.mem_cons_self _ _), List.dropWhile_append_of_pos
    fun c hc => hds c (List.mem_cons_of_mem _ hc), hdrop]

theorem matchQuoted_append {value : List Char} (hne : value ≠ []) (hq : '"' ∉ value) (rest : List Char) :
    matchQuoted (value ++ '"' :: rest) = some (value, rest) := by
  obtain ⟨v, vs, rfl⟩ := List.exists_cons_of_ne_nil hne
  have hne' : ∀ c ∈ v :: vs, (c != '"') = true := fun c hc => by
    simpa using fun e : c = '"' => hq (e ▸ hc)
  simp only [matchQuoted, List.takeWhile_append_of_pos hne', List.dropWhile_append_of_pos hne']
  simp

theorem toDigitsCore_isDigit (fuel n : Nat) {ds : List Char} (hds : ∀ c ∈ ds, c.isDigit) :
    ∀ c ∈ Nat.toDigitsCore 10 fuel n ds, c.isDigit := by
  induction fuel generalizing n ds with
  | zero => exact hds
  | succ fuel ih =>
    have hd : (Nat.digitChar (n % 10)).isDigit := by
      have : ∀ k < 10, (Nat.digitChar k).isDigit := by decide
      exact this _ (Nat.mod_lt _ (by decide))
    have hcons : ∀ c ∈ Nat.digitChar (n % 10) :: ds, c.isDigit := by
      simpa [List.forall_mem_cons] using ⟨hd, hds⟩
    show ∀ c ∈ (if n / 10 = 0 then Nat.digitChar (n % 10) :: ds
      else Nat.toDigitsCore 10 fuel (n / 10) (Nat.digitChar (n % 10) :: ds)), c.isDigit
    split
    · exact hcons
    · exact ih _ hcons

theorem toDigitsCore_ne_nil (fuel n : Nat) {ds : List Char} (h : ds ≠ []) :
    Nat.toDigitsCore 10 fuel n ds ≠ [] := by
  induction fuel generalizing n ds with
  | zero => exact h
  | succ fuel ih =>
    show (if n / 10 = 0 then Nat.digitChar (n % 10) :: ds
      else Nat.toDigitsCore 10 fuel (n / 10) (Nat.digitChar (n % 10) :: ds)) ≠ []
    split
    · exact List.cons_ne_nil _ _
    · exact ih _ (List.cons_ne_nil _ _)

/-- The decimal digits `str(i)`: never empty, and all digits. -/
theorem toString_digits (i : Nat) : (toString i).toList ≠ [] ∧ ∀ c ∈ (toString i).toList, c.isDigit := by
  show Nat.toDigitsCore 10 (i + 1) i [] ≠ [] ∧ ∀ c ∈ Nat.toDigitsCore 10 (i + 1) i [], c.isDigit
  refine ⟨?_, toDigitsCore_isDigit _ _ (by simp)⟩
  show (if i / 10 = 0 then [Nat.digitChar (i % 10)]
    else Nat.toDigitsCore 10 i (i / 10) [Nat.digitChar (i % 10)]) ≠ []
  split
  · exact List.cons_ne_nil _ _
  · exact toDigitsCore_ne_nil _ _ (List.cons_ne_nil _ _)

/-- The number a list of decimal digits spells, `int(s)`, read left to right. -/
def decimalValue (cs : List Char) : Nat := cs.foldl (fun acc c => acc * 10 + (c.toNat - 48)) 0

theorem decimalValue_toDigitsCore (fuel n : Nat) (ds : List Char) (h : n < fuel) :
    decimalValue (Nat.toDigitsCore 10 fuel n ds) = ds.foldl (fun acc c => acc * 10 + (c.toNat - 48)) n := by
  induction fuel generalizing n ds with
  | zero => omega
  | succ fuel ih =>
    have hd : (Nat.digitChar (n % 10)).toNat - 48 = n % 10 := by
      have : ∀ k < 10, (Nat.digitChar k).toNat - 48 = k := by decide
      exact this _ (Nat.mod_lt _ (by decide))
    show decimalValue (if n / 10 = 0 then Nat.digitChar (n % 10) :: ds
      else Nat.toDigitsCore 10 fuel (n / 10) (Nat.digitChar (n % 10) :: ds)) = _
    split
    · rw [decimalValue, List.foldl_cons, hd, Nat.zero_mul, Nat.zero_add, Nat.mod_eq_of_lt (by omega)]
    · rw [ih _ _ (by omega), List.foldl_cons, hd, show n / 10 * 10 + n % 10 = n by omega]

/-- `int(str(n)) == n`: distinct numbers print differently. -/
theorem decimalValue_toString (n : Nat) : decimalValue (toString n).toList = n :=
  decimalValue_toDigitsCore (n + 1) n [] (by omega)

theorem toString_injective {m n : Nat} (h : toString m = toString n) : m = n := by
  rw [← decimalValue_toString m, ← decimalValue_toString n, h]

/-! ### Where a match can start -/

theorem matchDiskType_cons {c : Char} (cs : List Char) (hi : c ≠ 'i') (hs : c ≠ 's') (hn : c ≠ 'n') :
    matchDiskType (c :: cs) = none := by
  simp [matchDiskType, DiskType.all, DiskType.value, matchLiteral, Ne.symm hi, Ne.symm hs, Ne.symm hn]

/-- A match's colon lies before the first newline. -/
theorem colon_of_matchDiskPath {cs : List Char} {m : (DiskType × List Char) × List Char}
    (h : matchDiskPath cs = some m) : ∃ pre post, cs = pre ++ ':' :: post ∧ '\n' ∉ pre := by
  simp only [matchDiskPath, bind, Option.bind_eq_some] at h
  obtain ⟨⟨t, r₁⟩, ht, r₂, hd, r₃, hc, -⟩ := h
  obtain ⟨d, ds, rfl, hds⟩ := eq_of_matchDigits hd
  refine ⟨t.value.toList ++ d :: ds, r₃, by simp [eq_of_matchDiskType ht, eq_of_matchLiteral hc], ?_⟩
  rw [List.mem_append, not_or]
  exact ⟨by cases t <;> decide, fun hn => absurd (hds _ hn) (by decide)⟩

/-- After the disk name `{type}0:{i}`, the match is decided by the pattern's tail. -/
theorem matchDiskPath_diskName (t : DiskType) (i : Nat) {r : List Char} (hr : r.head?.all (! ·.isDigit)) :
    matchDiskPath (t.value.toList ++ '0' :: ':' :: ((toString i).toList ++ r)) =
      (matchFileName r).map fun (value, rest) => ((t, value), rest) := by
  have hdigits := toString_digits i
  have hd₁ : matchDigits ('0' :: ':' :: ((toString i).toList ++ r)) = some (':' :: ((toString i).toList ++ r)) :=
    rfl
  have hc : matchLiteral [':'] (':' :: ((toString i).toList ++ r)) = some ((toString i).toList ++ r) := rfl
  simp only [matchDiskPath, Option.bind_eq_bind, matchDiskType_value, Option.some_bind, hd₁, hc,
    matchDigits_append hdigits.1 hdigits.2 hr]
  cases matchFileName r <;> rfl

theorem colon_mem_of_eq {xs ys pre post : List Char} (h : xs ++ ys = pre ++ ':' :: post)
    (hpre : '\n' ∉ pre) (hys : ∀ c ∈ ys.head?, c = '\n') : ':' ∈ xs := by
  induction xs generalizing pre with
  | nil =>
    rw [List.nil_append] at h
    rcases pre with _ | ⟨p, pre⟩
    · exact absurd (hys ':' (by simp [h])) (by decide)
    · exact absurd (hys p (by simp [h]) ▸ List.mem_cons_self _ _) hpre
  | cons x xs ih =>
    rcases pre with _ | ⟨p, pre⟩
    · simp only [List.cons_append, List.nil_append, List.cons.injEq] at h
      exact h.1 ▸ List.mem_cons_self _ _
    · simp only [List.cons_append, List.cons.injEq] at h
      exact List.mem_cons_of_mem _ (ih h.2 fun hn => hpre (List.mem_cons_of_mem _ hn))

/-! ### findall over lines -/

/-- What may follow a line: nothing, or the newline before the next. -/
def LineEnd (ys : List Char) : Prop := ∀ c ∈ ys.head?, c = '\n'

theorem findAllFrom_skip (xs ys : List Char) : findAllFrom xs.length (xs ++ ys) = findAll ys := by
  induction xs with
  | nil => rfl
  | cons x xs ih => exact ih

theorem findAll_cons_of_none {c : Char} {cs : List Char} (h : matchDiskPath (c :: cs) = none) :
    findAll (c :: cs) = findAll cs := by
  simp [findAll, findAllFrom, h]

theorem findAll_append_of_match {xs ys : List Char} {m : DiskType × List Char} (hxs : xs ≠ [])
    (h : matchDiskPath (xs ++ ys) = some (m, ys)) : findAll (xs ++ ys) = m :: findAll ys := by
  obtain ⟨x, xs, rfl⟩ := List.exists_cons_of_ne_nil hxs
  simp only [List.cons_append] at h ⊢
  simp only [findAll, findAllFrom, h, List.length_append, Nat.add_sub_cancel]
  exact congrArg _ (findAllFrom_skip xs ys)

theorem findAll_newline (ys : List Char) : findAll ('\n' :: ys) = findAll ys :=
  findAll_cons_of_none rfl

/-- No match starts in a stretch without a colon that ends its line. -/
theorem findAll_append_of_colonFree {xs ys : List Char} (hc : ':' ∉ xs) (hys : LineEnd ys) :
    findAll (xs ++ ys) = findAll ys := by
  induction xs with
  | nil => rfl
  | cons x xs ih =>
    have hnone : matchDiskPath (x :: (xs ++ ys)) = none := by
      cases hm : matchDiskPath (x :: (xs ++ ys)) with
      | none => rfl
      | some m =>
        obtain ⟨pre, post, he, hpre⟩ := colon_of_matchDiskPath hm
        exact absurd (@colon_mem_of_eq (x :: xs) _ _ _ he hpre hys) hc
    rw [List.cons_append, findAll_cons_of_none hnone, ih fun h => hc (List.mem_cons_of_mem _ h)]

/-- No match starts in a stretch without the first letter of a disk type. -/
theorem findAll_append_of_noType {xs ys : List Char} (h : ∀ c ∈ xs, c ≠ 'i' ∧ c ≠ 's' ∧ c ≠ 'n') :
    findAll (xs ++ ys) = findAll ys := by
  induction xs with
  | nil => rfl
  | cons x xs ih =>
    obtain ⟨hi, hs, hn⟩ := h x (List.mem_cons_self _ _)
    have hnone : matchDiskPath (x :: (xs ++ ys)) = none := by
      simp [matchDiskPath, matchDiskType_cons _ hi hs hn]
    rw [List.cons_append, findAll_cons_of_none hnone, ih fun c hc => h c (List.mem_cons_of_mem _ hc)]

/-- A line no match runs past: `findall` over it and what follows is its own
matches, then those of the rest. -/
def Closed (l : List Char) : Prop := ∀ ys, LineEnd ys → findAll (l ++ ys) = findAll l ++ findAll ys

theorem findAll_intercalate {ls : List (List Char)} (h : ∀ l ∈ ls, Closed l) :
    findAll (['\n'].intercalate ls) = ls.flatMap findAll := by
  induction ls with
  | nil => rfl
  | cons l ls ih =>
    rcases ls with _ | ⟨l', ls⟩
    · simp [List.intercalate]
    · have hsplit : ['\n'].intercalate (l :: l' :: ls) = l ++ '\n' :: ['\n'].intercalate (l' :: ls) := by
        simp [List.intercalate]
      rw [hsplit, h l (List.mem_cons_self _ _) _ (by simp [LineEnd]), findAll_newline,
        ih fun l hl => h l (List.mem_cons_of_mem _ hl)]
      simp

/-! ### The three kinds of line -/

/-- A line whose matches, followed by anything that may follow a line, are `ms`
and then the rest's is closed, and `ms` are its matches. -/
theorem closed_of_append {l : List Char} {ms : List (DiskType × List Char)}
    (h : ∀ ys, LineEnd ys → findAll (l ++ ys) = ms ++ findAll ys) : Closed l ∧ findAll l = ms := by
  have hl : findAll l = ms := by simpa [findAll, findAllFrom] using h [] (by simp [LineEnd])
  exact ⟨fun ys hys => by rw [h ys hys, hl], hl⟩

theorem closed_of_colonFree {l : List Char} (h : ':' ∉ l) : Closed l ∧ findAll l = [] :=
  closed_of_append fun _ hys => findAll_append_of_colonFree h hys

/-- Past the disk type's first letter, the line `{type}0:{i}{key}` starts no match
when `key` has no colon. -/
theorem findAll_diskKey_tail (t : DiskType) (i : Nat) {key ys : List Char} (hc : ':' ∉ key)
    (hys : LineEnd ys) : findAll ((t.value.toList ++ '0' :: ':' :: ((toString i).toList ++ key)).tail ++ ys) =
      findAll ys := by
  obtain ⟨c, tail, htv, hnoType⟩ : ∃ c tail, t.value.toList = c :: tail ∧
      ∀ x ∈ tail ++ ['0', ':'], x ≠ 'i' ∧ x ≠ 's' ∧ x ≠ 'n' := by
    cases t <;> exact ⟨_, _, rfl, by decide⟩
  have hcolon : ':' ∉ (toString i).toList ++ key := by
    rw [List.mem_append, not_or]
    exact ⟨fun h => absurd ((toString_digits i).2 _ h) (by decide), hc⟩
  rw [htv, List.cons_append, List.tail_cons, show tail ++ '0' :: ':' :: ((toString i).toList ++ key) ++ ys =
    (tail ++ ['0', ':']) ++ (((toString i).toList ++ key) ++ ys) by simp, findAll_append_of_noType hnoType,
    findAll_append_of_colonFree hcolon hys]

/-- The line `{type}0:{i}{key}`, `key` not `.fileName` and without a colon, starts
no match. -/
theorem closed_diskKey (t : DiskType) (i : Nat) {k : Char} {key : List Char} (hk : k.isDigit = false)
    (hfile : ∀ ys, matchLiteral ".fileName".toList (k :: key ++ ys) = none) (hc : ':' ∉ k :: key) :
    Closed (t.value.toList ++ '0' :: ':' :: ((toString i).toList ++ k :: key)) ∧
      findAll (t.value.toList ++ '0' :: ':' :: ((toString i).toList ++ k :: key)) = [] := by
  refine closed_of_append fun ys hys => ?_
  obtain ⟨c, tail, htv⟩ := List.exists_cons_of_ne_nil (show t.value.toList ≠ [] by cases t <;> decide)
  have hstart : matchDiskPath (t.value.toList ++ '0' :: ':' :: ((toString i).toList ++ k :: key) ++ ys) =
      none := by
    simp only [List.append_assoc, List.cons_append]
    rw [matchDiskPath_diskName t i (by simp [hk])]
    unfold matchFileName
    rw [show k :: (key ++ ys) = k :: key ++ ys from rfl, hfile ys]
    rfl
  have htail := findAll_diskKey_tail t i hc hys
  rw [htv] at hstart htail ⊢
  rw [List.cons_append, List.cons_append] at hstart ⊢
  rw [findAll_cons_of_none hstart]
  simpa using htail

/-- The line `{type}0:{i}.fileName = "{value}"` is one match, of its type and value. -/
theorem matchDiskPath_fileName (t : DiskType) (i : Nat) {value : List Char} (hv : value ≠ [])
    (hq : '"' ∉ value) (ys : List Char) :
    matchDiskPath (t.value.toList ++ '0' :: ':' :: ((toString i).toList ++
      (".fileName = \"".toList ++ (value ++ '"' :: ys)))) = some ((t, value), ys) := by
  rw [matchDiskPath_diskName t i (r := ".fileName = \"".toList ++ (value ++ '"' :: ys)) rfl,
    show matchFileName (".fileName = \"".toList ++ (value ++ '"' :: ys)) = matchQuoted (value ++ '"' :: ys) from rfl,
    matchQuoted_append hv hq]
  rfl

theorem closed_fileName (t : DiskType) (i : Nat) {value : List Char} (hv : value ≠ []) (hq : '"' ∉ value) :
    Closed (t.value.toList ++ '0' :: ':' :: ((toString i).toList ++ (".fileName = \"".toList ++ (value ++ ['"'])))) ∧
      findAll (t.value.toList ++ '0' :: ':' :: ((toString i).toList ++
        (".fileName = \"".toList ++ (value ++ ['"'])))) = [(t, value)] :=
  closed_of_append fun ys _ =>
    findAll_append_of_match (List.append_ne_nil_of_left_ne_nil (by cases t <;> decide) _)
      (by simpa using matchDiskPath_fileName t i hv hq ys)

end DiskVm.Vm
