import DiskVm.Basic

/-! Blanking the Linux passwords (`plugins/password_bypass.py`:
`EtcShadowBlankPasswords.modify_filesystem`).

The hook reads `/etc/shadow` as text, cuts it into lines with `splitlines`,
every line into fields at `:`, replaces the second field of every entry that has
one and whose second field is neither `!` nor `*` by a fresh hash of the new
password, and writes back the lines joined by `\n`, the fields by `:`.

Reading in text mode turns `\r\n` and a lone `\r` into `\n`; `splitlines` cuts
at every line boundary and drops it, and `'\n'.join` puts back one `\n` between
lines and none after the last. `modifyFilesystem_fields` says what is written:
the same lines, split the same way, with the second field replaced exactly where
the code's test holds, whatever the terminators were. The test lets through an
empty field and a locked one such as `!!` or `!$6$...`; a fixture shows both
replaced and the final newline dropped. -/
namespace DiskVm

/-- Universal newlines, as `read_text` reads: `\r\n` and a lone `\r` read as
`\n`; `afterCR` when the character before was a `\r`. -/
def universalNewlinesFrom (afterCR : Bool) : List Char → List Char
  | [] => []
  | c :: rest =>
    if afterCR && c = '\n' then universalNewlinesFrom false rest
    else if c = '\r' then '\n' :: universalNewlinesFrom true rest
    else c :: universalNewlinesFrom false rest

def universalNewlines (cs : List Char) : List Char := universalNewlinesFrom false cs

/-- The loop body of `modify_filesystem` on one entry: `len(e) >= 2 and e[1] not
in ['!', '*']`. -/
def overrideEntry (hash : String) : List String → List String
  | user :: password :: rest => if password ∉ ["!", "*"] then user :: hash :: rest else user :: password :: rest
  | e => e

/-- The text `EtcShadowBlankPasswords.modify_filesystem` writes over
`/etc/shadow`, given the text it read; `hash i` is what `hash_password` returns on
the entry of line `i` (`crypt` draws a fresh salt on every call). -/
def EtcShadowBlankPasswords.modifyFilesystem (hash : Nat → String) (text : String) : String :=
  let entries := (splitlines (universalNewlines text.toList)).map fun l => (splitOnChar ':' l).map String.mk
  "\n".intercalate ((entries.mapIdx fun i e => overrideEntry (hash i) e).map (":".intercalate))

/-! ### What is written -/

theorem not_boundary_of_mem_splitlinesFrom {cur cs l : List Char} {afterCR : Bool}
    (hcur : ∀ c ∈ cur, !isLineBoundary c) (hl : l ∈ splitlinesFrom cur afterCR cs) :
    ∀ c ∈ l, !isLineBoundary c := by
  induction cs generalizing cur afterCR with
  | nil =>
    simp only [splitlinesFrom] at hl
    split_ifs at hl
    · cases hl
    · rw [List.mem_singleton.mp hl]
      exact fun c hc => hcur c (List.mem_reverse.mp hc)
  | cons c rest ih =>
    simp only [splitlinesFrom] at hl
    split_ifs at hl with hlf hb
    · exact ih hcur hl
    · rcases List.mem_cons.mp hl with rfl | hl
      · exact fun c hc => hcur c (List.mem_reverse.mp hc)
      · exact ih (by simp) hl
    · refine ih (fun x hx => ?_) hl
      rcases List.mem_cons.mp hx with rfl | hx
      exacts [by simpa using hb, hcur x hx]

/-- No line `splitlines` returns holds a `\n`. -/
theorem newline_not_mem_of_mem_splitlines {cs l : List Char} (hl : l ∈ splitlines cs) : '\n' ∉ l :=
  fun h => by simpa [isLineBoundary] using not_boundary_of_mem_splitlinesFrom (by simp) hl '\n' h

theorem map_mapIdx {α β γ : Type} (f : Nat → α → β) (g : β → γ) (l : List α) :
    (l.mapIdx f).map g = l.mapIdx fun i a => g (f i a) := by
  rw [eq_comm, List.mapIdx_eq_iff]
  intro i
  simp [Option.map_map, Function.comp_def]

theorem mapIdx_map {α β γ : Type} (f : Nat → β → γ) (g : α → β) (l : List α) :
    (l.map g).mapIdx f = l.mapIdx fun i a => f i (g a) := by
  rw [List.mapIdx_eq_iff]
  intro i
  simp [Option.map_map, Function.comp_def]

/-- `':'.join(e).split(':')` gives back the fields, when none holds a `:`. -/
theorem splitOn_colon_join {e : List String} (he : e ≠ []) (hc : ∀ f ∈ e, ':' ∉ f.toList) :
    (":".intercalate e).toList.splitOn ':' = e.map String.toList := by
  rw [toList_intercalate]
  exact List.splitOn_intercalate _ ':' (by simpa using hc) (by simpa using he)

/-- The fields of an entry after the loop body: the second replaced by `hash`
when there are two and it is neither `!` nor `*`. -/
theorem overrideEntry_fields (hash : String) (e : List String) :
    (overrideEntry hash e).map String.toList =
      if 2 ≤ e.length ∧ e.getD 1 "" ∉ ["!", "*"] then (e.set 1 hash).map String.toList
      else e.map String.toList := by
  match e with
  | [] | [_] => simp [overrideEntry]
  | user :: password :: rest =>
    by_cases h : password ∈ ["!", "*"] <;> simp [overrideEntry, h]

/-- An entry after the loop body is a non-empty list of fields, none holding a
`:` or a `\n`, when its line holds no `\n` and the hash neither. -/
theorem overrideEntry_clean {hash : String} {l : List Char} (hl : '\n' ∉ l)
    (hh : '\n' ∉ hash.toList ∧ ':' ∉ hash.toList) :
    overrideEntry hash ((splitOnChar ':' l).map String.mk) ≠ [] ∧
      ∀ f ∈ overrideEntry hash ((splitOnChar ':' l).map String.mk), ':' ∉ f.toList ∧ '\n' ∉ f.toList := by
  have hfields : ∀ f ∈ (splitOnChar ':' l).map String.mk, ':' ∉ f.toList ∧ '\n' ∉ f.toList := by
    intro f hf
    obtain ⟨piece, hp, rfl⟩ := List.mem_map.mp hf
    exact ⟨not_mem_of_mem_splitOnChar hp, fun h => hl (mem_of_mem_splitOnChar hp h)⟩
  have hne : (splitOnChar ':' l).map String.mk ≠ [] := by
    have : splitOnChar ':' l ≠ [] := by rw [splitOnChar_eq_splitOn]; exact List.splitOnP_ne_nil _ l
    simpa using this
  match hl : (splitOnChar ':' l).map String.mk with
  | [] => exact absurd hl hne
  | [f] => exact ⟨by simp [overrideEntry], by simpa [overrideEntry, hl] using hfields⟩
  | user :: password :: rest =>
    rw [hl] at hfields
    simp only [overrideEntry]
    split_ifs
    · exact ⟨List.cons_ne_nil _ _, hfields⟩
    · refine ⟨List.cons_ne_nil _ _, fun f hf => ?_⟩
      rcases List.mem_cons.mp hf with rfl | hf
      · exact hfields f (List.mem_cons_self _ _)
      rcases List.mem_cons.mp hf with rfl | hf
      · exact ⟨hh.2, hh.1⟩
      · exact hfields f (List.mem_cons_of_mem _ (List.mem_cons_of_mem _ hf))

/-- What `modify_filesystem` writes: split at `\n` and at `:`, it is the lines
`splitlines` found in the text read, every line's fields as `split(':')` cut them,
with the second field of line `i` replaced by `hash i` exactly when the line has
two fields and that field is neither `!` nor `*`. Nothing else is kept: the
terminators are gone, one `\n` stands between lines and none after the last. -/
theorem modifyFilesystem_fields (hash : Nat → String) (text : String)
    (hhash : ∀ i, '\n' ∉ (hash i).toList ∧ ':' ∉ (hash i).toList)
    (hlines : splitlines (universalNewlines text.toList) ≠ []) :
    ((EtcShadowBlankPasswords.modifyFilesystem hash text).toList.splitOn '\n').map (·.splitOn ':') =
      (splitlines (universalNewlines text.toList)).mapIdx fun i l =>
        let e := (l.splitOn ':').map String.mk
        if 2 ≤ e.length ∧ e.getD 1 "" ∉ ["!", "*"] then (e.set 1 (hash i)).map String.toList
        else e.map String.toList := by
  set L := splitlines (universalNewlines text.toList)
  set E := (L.map fun l => (splitOnChar ':' l).map String.mk).mapIdx fun i e => overrideEntry (hash i) e
  have hE : ∀ e ∈ E, e ≠ [] ∧ ∀ f ∈ e, ':' ∉ f.toList ∧ '\n' ∉ f.toList := by
    intro e he
    obtain ⟨i, hi, rfl⟩ := List.exists_of_mem_mapIdx he
    simp only [List.getElem_map]
    exact overrideEntry_clean (newline_not_mem_of_mem_splitlines (List.getElem_mem _)) (hhash i)
  have hsplit : (EtcShadowBlankPasswords.modifyFilesystem hash text).toList.splitOn '\n' =
      (E.map (":".intercalate)).map String.toList := by
    show ("\n".intercalate (E.map (":".intercalate))).toList.splitOn '\n' = _
    rw [toList_intercalate]
    refine List.splitOn_intercalate _ '\n' (fun s hs h => ?_) (by simpa [E] using hlines)
    obtain ⟨s, hs', rfl⟩ := List.mem_map.mp hs
    obtain ⟨e, he, rfl⟩ := List.mem_map.mp hs'
    rw [toList_intercalate] at h
    rcases mem_of_mem_intercalate h with h | ⟨f, hf, h⟩
    · simp at h
    · obtain ⟨f, hf', rfl⟩ := List.mem_map.mp hf
      exact ((hE e he).2 f hf').2 h
  have hfields : E.map ((fun s => (":".intercalate s).toList.splitOn ':')) = E.map (List.map String.toList) :=
    List.map_congr_left fun e he => splitOn_colon_join (hE e he).1 fun f hf => ((hE e he).2 f hf).1
  rw [hsplit, List.map_map, List.map_map]
  erw [hfields]
  simp only [E, mapIdx_map, map_mapIdx]
  rw [List.mapIdx_eq_mapIdx_iff]
  intro i _
  rw [overrideEntry_fields, splitOnChar_eq_splitOn]

/-- The lines of a file with an entry without a password (`root`) and a locked
one (`sync`, `!!`): both get the new hash. -/
theorem emptyAndLocked_rewritten :
    ((EtcShadowBlankPasswords.modifyFilesystem (fun _ => "$5$salt$hash")
        "root::19000:0:99999:7:::\nsync:!!:19000:0:99999:7:::\n").toList.splitOn '\n').map (·.splitOn ':') =
      [["root", "$5$salt$hash", "19000", "0", "99999", "7", "", "", ""].map String.toList,
        ["sync", "$5$salt$hash", "19000", "0", "99999", "7", "", "", ""].map String.toList] :=
  (modifyFilesystem_fields _ _ (fun _ => by decide) (by decide)).trans (by decide)

/-- The final newline is not written back. -/
example :
    EtcShadowBlankPasswords.modifyFilesystem (fun _ => "$5$salt$hash")
        "root::19000:0:99999:7:::\nsync:!!:19000:0:99999:7:::\n" =
      "root:$5$salt$hash:19000:0:99999:7:::\nsync:$5$salt$hash:19000:0:99999:7:::" := by
  decide

end DiskVm
