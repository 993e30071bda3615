import Mathlib.Data.List.Basic

/-! Paths and errors, the leaves every other module stands on.

`Path` is the part of `pathlib.PurePosixPath` the program relies on: a path is
absolute or relative and is a list of components, `/` joins (an absolute right
side replaces the left), `parent` drops the last component. Parsing a string
drops empty and `.` components, as `pathlib` does; the POSIX special case of a
leading `//` is not modelled.

`DiskVmError` is the repository's error hierarchy (`errors.py`); `Exception` is
whatever a Python call may raise, the repository's errors and the built-in ones
the modelled code can run into. -/
namespace DiskVm

/-- `str.split(sep)` for a one-character separator, over the characters: the
pieces between separators, empty ones included. -/
def splitOnChar (sep : Char) : List Char → List (List Char)
  | [] => [[]]
  | c :: cs =>
    if c = sep then [] :: splitOnChar sep cs
    else match splitOnChar sep cs with
      | [] => [[c]]
      | piece :: pieces => (c :: piece) :: pieces

theorem splitOnChar_eq_splitOn (sep : Char) (cs : List Char) : splitOnChar sep cs = cs.splitOn sep := by
  induction cs with
  | nil => rfl
  | cons c cs ih =>
    rw [List.splitOn, List.splitOnP_cons, ← List.splitOn, ← ih]
    by_cases h : c = sep
    · simp [splitOnChar, h]
    · obtain ⟨piece, pieces, hs⟩ : ∃ piece pieces, splitOnChar sep cs = piece :: pieces :=
        List.exists_cons_of_ne_nil (ih ▸ List.splitOnP_ne_nil _ cs)
      simp [splitOnChar, h, hs]

theorem not_mem_of_mem_splitOnChar {sep : Char} {cs piece : List Char}
    (h : piece ∈ splitOnChar sep cs) : sep ∉ piece := by
  induction cs generalizing piece with
  | nil => simp_all [splitOnChar]
  | cons c cs ih =>
    unfold splitOnChar at h
    split at h
    · rcases List.mem_cons.1 h with rfl | h
      exacts [List.not_mem_nil _, ih h]
    · rename_i hc
      split at h
      · rcases List.mem_singleton.1 h with rfl
        simpa [eq_comm] using hc
      · rename_i hs
        rcases List.mem_cons.1 h with rfl | h
        · exact List.not_mem_cons_of_ne_of_not_mem (Ne.symm hc) (ih (hs ▸ List.mem_cons_self _ _))
        · exact ih (hs ▸ List.mem_cons_of_mem _ h)

/-- A piece's characters are the text's. -/
theorem mem_of_mem_splitOnChar {sep : Char} {cs piece : List Char} (h : piece ∈ splitOnChar sep cs)
    {x : Char} (hx : x ∈ piece) : x ∈ cs := by
  induction cs generalizing piece with
  | nil => simp_all [splitOnChar]
  | cons c cs ih =>
    unfold splitOnChar at h
    split at h
    · rcases List.mem_cons.1 h with rfl | h
      exacts [absurd hx (List.not_mem_nil _), List.mem_cons_of_mem _ (ih h hx)]
    · split at h
      · rcases List.mem_singleton.1 h with rfl
        simp_all
      · rename_i hs
        rcases List.mem_cons.1 h with rfl | h
        · rcases List.mem_cons.1 hx with rfl | hx
          exacts [List.mem_cons_self _ _, List.mem_cons_of_mem _ (ih (hs ▸ List.mem_cons_self _ _) hx)]
        · exact List.mem_cons_of_mem _ (ih (hs ▸ List.mem_cons_of_mem _ h) hx)

theorem toList_intercalate (s : String) (ls : List String) :
    (s.intercalate ls).toList = s.toList.intercalate (ls.map String.toList) := by
  have go : ∀ acc ls, (String.intercalate.go acc s ls).toList =
      s.toList.intercalate ((acc :: ls).map String.toList) := by
    intro acc ls
    induction ls generalizing acc with
    | nil => simp [String.intercalate.go, List.intercalate]
    | cons a ls ih =>
      rw [String.intercalate.go, ih]
      cases ls <;> simp [List.intercalate, String.toList]
  cases ls with
  | nil => rfl
  | cons a ls => exact go a ls

theorem toList_string_append (s t : String) : (s ++ t).toList = s.toList ++ t.toList :=
  String.data_append s t

theorem mem_of_mem_intercalate {sep : List Char} {ls : List (List Char)} {c : Char}
    (h : c ∈ sep.intercalate ls) : c ∈ sep ∨ ∃ l ∈ ls, c ∈ l := by
  induction ls with
  | nil => simp [List.intercalate] at h
  | cons l ls ih =>
    rcases ls with _ | ⟨l', ls⟩
    · exact Or.inr ⟨l, List.mem_singleton_self _, by simpa [List.intercalate] using h⟩
    · have hsplit : sep.intercalate (l :: l' :: ls) = l ++ sep ++ sep.intercalate (l' :: ls) := by
        simp [List.intercalate]
      rw [hsplit, List.mem_append, List.mem_append] at h
      rcases h with (h | h) | h
      · exact Or.inr ⟨l, List.mem_cons_self _ _, h⟩
      · exact Or.inl h
      · rcases ih h with h | ⟨l'', hl'', h⟩
        · exact Or.inl h
        · exact Or.inr ⟨l'', List.mem_cons_of_mem _ hl'', h⟩

/-- `str.strip(chars)`: the characters with those satisfying `p` dropped at both
ends. -/
def stripEnds (p : Char → Bool) (cs : List Char) : List Char :=
  ((cs.dropWhile p).reverse.dropWhile p).reverse

/-- `str.isspace()`, the characters `str.strip()` drops: tab to carriage return,
the separators `\x1c` to `\x1f`, space, next line, no-break space, and Unicode's
spaces and line and paragraph separators. -/
def isPySpace (c : Char) : Bool :=
  (0x09 ≤ c.toNat && c.toNat ≤ 0x0d) || (0x1c ≤ c.toNat && c.toNat ≤ 0x20) || c.toNat = 0x85 ||
    c.toNat = 0xa0 || c.toNat = 0x1680 || (0x2000 ≤ c.toNat && c.toNat ≤ 0x200a) || c.toNat = 0x2028 ||
    c.toNat = 0x2029 || c.toNat = 0x202f || c.toNat = 0x205f || c.toNat = 0x3000

/-- The line boundaries of `str.splitlines`. -/
def isLineBoundary (c : Char) : Bool :=
  c = '\n' || c = '\r' || c = '\x0b' || c = '\x0c' || c = '\x1c' || c = '\x1d' || c = '\x1e' ||
    c = '\x85' || c = ' ' || c = ' '

/-- `str.splitlines()` from inside a line whose characters so far are `cur`,
reversed; `afterCR` when the boundary just passed was a `\r`, which a `\n` joins.
A boundary at the end opens no line. -/
def splitlinesFrom (cur : List Char) (afterCR : Bool) : List Char → List (List Char)
  | [] => if cur = [] then [] else [cur.reverse]
  | c :: rest =>
    if afterCR && c = '\n' then splitlinesFrom cur false rest
    else if isLineBoundary c then cur.reverse :: splitlinesFrom [] (c = '\r') rest
    else splitlinesFrom (c :: cur) false rest

/-- `str.splitlines()`. -/
def splitlines (cs : List Char) : List (List Char) := splitlinesFrom [] false cs

/-- A `pathlib` path. -/
structure Path where
  absolute : Bool
  parts : List String
deriving DecidableEq, Repr

namespace Path

/-- `Path(s)`. -/
def ofString (s : String) : Path :=
  ⟨s.toList.head? = some '/',
    ((splitOnChar '/' s.toList).map String.mk).filter fun c => c != "" && c != "."⟩

/-- `str(p)`: the components joined by `/`, behind a `/` when absolute; `.` for
the empty relative path. -/
def toString (p : Path) : String :=
  if p.absolute then "/" ++ "/".intercalate p.parts
  else if p.parts = [] then "." else "/".intercalate p.parts

/-- `p / q`. -/
def div (p q : Path) : Path :=
  if q.absolute then q else ⟨p.absolute, p.parts ++ q.parts⟩

instance : HDiv Path Path Path := ⟨div⟩

/-- `p / name` for a single component. -/
def join (p : Path) (name : String) : Path := p / ofString name

def parent (p : Path) : Path := ⟨p.absolute, p.parts.dropLast⟩

def name (p : Path) : String := p.parts.getLast?.getD ""

def isAbsolute (p : Path) : Bool := p.absolute

@[simp] theorem div_absolute (p q : Path) (h : q.absolute = true) : p / q = q := by
  simp [HDiv.hDiv, div, h]

@[simp] theorem div_relative (p q : Path) (h : q.absolute = false) :
    p / q = ⟨p.absolute, p.parts ++ q.parts⟩ := by
  simp [HDiv.hDiv, div, h]

/-- A component `Path(s)` keeps: not empty, not `.`, and without `/`. -/
def ValidPart (c : String) : Prop := c ≠ "" ∧ c ≠ "." ∧ '/' ∉ c.toList

instance (c : String) : Decidable (ValidPart c) := inferInstanceAs (Decidable (_ ∧ _ ∧ _))

theorem ValidPart.head {c : String} (h : ValidPart c) : ∃ x xs, c.toList = x :: xs ∧ x ≠ '/' := by
  obtain ⟨x, xs, hc⟩ := List.exists_cons_of_ne_nil (show c.toList ≠ [] from fun hc => h.1 (String.ext hc))
  refine ⟨x, xs, hc, ?_⟩
  rintro rfl
  exact h.2.2 (hc ▸ List.mem_cons_self _ _)

theorem ofString_parts_valid (s : String) : ∀ c ∈ (ofString s).parts, ValidPart c := by
  simp only [ofString, List.mem_filter, List.mem_map, bne_iff_ne, Bool.and_eq_true, ne_eq]
  rintro _ ⟨⟨piece, hp, rfl⟩, hne, hdot⟩
  exact ⟨hne, hdot, not_mem_of_mem_splitOnChar hp⟩

theorem splitOnChar_slash {parts : List String} (hne : parts ≠ []) (h : ∀ c ∈ parts, ValidPart c) :
    (splitOnChar '/' ("/".intercalate parts).toList).map String.mk = parts := by
  rw [toList_intercalate, splitOnChar_eq_splitOn, show "/".toList = ['/'] from rfl,
    List.splitOn_intercalate _ '/' (by simpa using fun c hc => (h c hc).2.2) (by simpa using hne)]
  simp only [List.map_map]
  exact List.map_id'' (fun _ => rfl) _

/-- `Path(str(p)) == p` for a path of components `Path` keeps. -/
theorem ofString_toString {p : Path} (h : ∀ c ∈ p.parts, ValidPart c) : ofString p.toString = p := by
  obtain ⟨absolute, parts⟩ := p
  have keep : parts.filter (fun c => c != "" && c != ".") = parts :=
    List.filter_eq_self.2 fun c hc => by simp [(h c hc).1, (h c hc).2.1]
  rcases parts with _ | ⟨c, cs⟩
  · cases absolute <;> rfl
  · have hsplit := splitOnChar_slash (List.cons_ne_nil c cs) h
    cases absolute
    · obtain ⟨x, xs, hc, hx⟩ := (h c (List.mem_cons_self _ _)).head
      have hhead : ("/".intercalate (c :: cs)).toList.head? = some x := by
        rw [toList_intercalate]; cases cs <;> simp [List.intercalate, show c.data = x :: xs from hc]
      simp only [ofString, toString, if_neg Bool.false_ne_true, List.cons_ne_nil, if_false, hsplit, keep,
        hhead, Option.some.injEq, hx, decide_False]
    · simp only [ofString, toString, if_true]
      simp only [String.toList, String.data_append] at hsplit ⊢
      simp [splitOnChar, hsplit, keep]

/-- A character of `str(p)` is `/`, `.` or one of a component's. -/
theorem mem_toString {p : Path} {x : Char} (h : x ∈ p.toString.toList) :
    x = '/' ∨ x = '.' ∨ ∃ c ∈ p.parts, x ∈ c.toList := by
  have hparts : x ∈ ("/".intercalate p.parts).toList → x = '/' ∨ ∃ c ∈ p.parts, x ∈ c.toList := by
    rw [toList_intercalate]
    intro h
    rcases mem_of_mem_intercalate h with h | ⟨l, hl, h⟩
    · exact Or.inl (by simpa using h)
    · obtain ⟨c, hc, rfl⟩ := List.mem_map.1 hl
      exact Or.inr ⟨c, hc, h⟩
  unfold toString at h
  split at h
  · rw [toList_string_append] at h
    rcases List.mem_append.1 h with h | h
    · exact Or.inl (by simpa using h)
    · rcases hparts h with h | h
      exacts [Or.inl h, Or.inr (Or.inr h)]
  · split at h
    · exact Or.inr (Or.inl (by simpa using h))
    · rcases hparts h with h | h
      exacts [Or.inl h, Or.inr (Or.inr h)]

theorem toString_ne_nil {p : Path} (h : ∀ c ∈ p.parts, ValidPart c) : p.toString.toList ≠ [] := by
  unfold toString
  split
  · simp [toList_string_append]
  · split
    · simp
    · rename_i hne
      obtain ⟨c, cs, hp⟩ := List.exists_cons_of_ne_nil hne
      obtain ⟨x, xs, hc, -⟩ := (h c (hp ▸ List.mem_cons_self _ _)).head
      rw [hp, toList_intercalate]
      cases cs <;> simp [List.intercalate, show c.data = x :: xs from hc]

theorem ofString_part {c : String} (h : ValidPart c) : ofString c = ⟨false, [c]⟩ := by
  obtain ⟨x, xs, hc, hx⟩ := h.head
  have hsplit : splitOnChar '/' c.toList = [c.toList] := by
    rw [splitOnChar_eq_splitOn]
    exact List.splitOnP_eq_single _ _ fun y hy hy' => h.2.2 (by simpa using (beq_iff_eq.1 hy') ▸ hy)
  have hmk : String.mk c.toList = c := rfl
  have hh : c.toList.head? = some x := by rw [hc]; rfl
  rw [ofString, hsplit, hh]
  simp [hx, hmk, h.1, h.2.1]

theorem join_part (p : Path) {c : String} (h : ValidPart c) : p.join c = ⟨p.absolute, p.parts ++ [c]⟩ := by
  simp [join, ofString_part h]

theorem parent_join (p : Path) {c : String} (h : ValidPart c) : (p.join c).parent = p := by
  simp [join_part p h, parent]

end Path

/-- The repository's errors (`errors.py`), with the arguments they are raised with.
`subprocessFailed` is the `DiskVmError(args, stderr)` that `run_process` raises. -/
inductive DiskVmError where
  | invalidDisk (path : Path)
  | invalidDiskPart (reason : String)
  | unsupportedDiskType
  | virtualizationSoftwareNotAvailable
  | subprocessFailed (args : List String) (stderr : String)
deriving DecidableEq, Repr

/-- What a Python call may raise. -/
inductive Exception where
  | diskVm (e : DiskVmError)
  /-- An attribute the object lacks, such as any attribute of `None`. -/
  | attributeError
  | zeroDivisionError
  /-- `open(None)` and similar. -/
  | typeError
  /-- A failed filesystem call (`open`, `rmdir`, `mkdtemp`). -/
  | osError
  | recursionError
  /-- `lst[i]` past the end. -/
  | indexError
  /-- `struct.error`: a value its format code cannot hold, or a buffer of the
  wrong size. -/
  | structError
  /-- A bare `Exception(message)`. -/
  | exception (message : String)
deriving DecidableEq, Repr

/-- Python's `a // b` on integers. -/
def floorDiv (a b : Int) : Except Exception Int :=
  if b = 0 then .error .zeroDivisionError else .ok (a.fdiv b)

theorem floorDiv_mul {b : Int} (hb : 0 < b) (k : Int) : floorDiv (b * k) b = .ok k := by
  rw [floorDiv, if_neg (Int.ne_of_gt hb), Int.fdiv_eq_ediv _ (Int.le_of_lt hb), Int.mul_ediv_cancel_left k (Int.ne_of_gt hb)]

/-- `except DiskVmError`. -/
def Exception.isDiskVmError : Exception → Bool
  | .diskVm _ => true
  | _ => false

end DiskVm
