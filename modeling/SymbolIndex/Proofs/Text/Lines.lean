-- SUMMARY: The lines of a decoded file are the decoded lines of its bytes, row by row.
import SymbolIndex.Proofs.File.Spelling
import SymbolIndex.Proofs.Text.Utf8
import SymbolIndex.Syntax.Source

/-!
# Rows and lines

Rows are counted on the bytes of a file, and its lines are those of its text. A
line feed cuts broken sequences off and comes from its own byte alone, so the
parts of the text between line feeds are the decoded parts of the bytes, and
both counts agree. Only behind a last line feed there is a row without a line.
-/

namespace SymbolIndex

/-! ## Parts and lines -/

namespace Text

theorem length_splitAt [DecidableEq α] (sep : α) (xs : List α) :
    (splitAt sep xs).length = xs.count sep + 1 := by
  induction xs with
  | nil => rfl
  | cons x xs ih =>
      unfold splitAt
      split
      · rename_i h
        rw [List.length_cons, ih, h, List.count_cons_self]
      · rename_i h
        cases hs : splitAt sep xs with
        | nil => exact absurd hs (splitAt_ne_nil sep xs)
        | cons part parts =>
            rw [hs] at ih
            rw [List.count_cons_of_ne h, ← ih, List.length_cons, List.length_cons]

theorem notMem_of_mem_splitAt [DecidableEq α] {sep : α} {xs part : List α}
    (h : part ∈ splitAt sep xs) : sep ∉ part := by
  induction xs generalizing part with
  | nil =>
      rw [List.mem_singleton.1 h]
      exact List.not_mem_nil
  | cons x xs ih =>
      unfold splitAt at h
      split at h
      · rcases List.mem_cons.1 h with rfl | h
        · exact List.not_mem_nil
        · exact ih h
      · rename_i hx
        cases hs : splitAt sep xs with
        | nil => exact absurd hs (splitAt_ne_nil sep xs)
        | cons first rest =>
            rw [hs] at h ih
            rcases List.mem_cons.1 h with rfl | h
            · simp only [List.mem_cons, not_or]
              exact ⟨Ne.symm hx, ih List.mem_cons_self⟩
            · exact ih (List.mem_cons_of_mem _ h)

theorem linesOfParts_cons_cons (part next : List Char) (parts : List (List Char)) :
    linesOfParts (part :: next :: parts) = dropReturn part :: linesOfParts (next :: parts) := by
  rw [linesOfParts]
  simp

/-- A part that is not the last one had a terminator, and the last one is a line
unless it is empty. -/
theorem getElem?_linesOfParts {parts : List (List Char)} {i : Nat} {part : List Char}
    (h : parts[i]? = some part) :
    (linesOfParts parts)[i]? =
      if i + 1 < parts.length then some (dropReturn part)
      else if part = [] then none else some part := by
  induction parts generalizing i with
  | nil => simp at h
  | cons first rest ih =>
      cases rest with
      | nil =>
          have hi : i = 0 := by
            have := (List.getElem?_eq_some_iff.1 h).1
            simpa using this
          subst hi
          have hfirst : first = part := by simpa using h
          subst hfirst
          by_cases hnil : first = [] <;> simp [linesOfParts, hnil]
      | cons second rest =>
          cases i with
          | zero =>
              have hfirst : first = part := by simpa using h
              simp [linesOfParts_cons_cons, hfirst]
          | succ i =>
              rw [List.getElem?_cons_succ] at h
              rw [linesOfParts_cons_cons, List.getElem?_cons_succ, ih h]
              simp

theorem length_linesOfParts_le (parts : List (List Char)) :
    (linesOfParts parts).length ≤ parts.length := by
  fun_induction linesOfParts parts with
  | case1 => exact Nat.le_refl _
  | case2 last hlast => exact Nat.zero_le _
  | case3 last hlast => exact Nat.le_refl _
  | case4 part parts hparts ih => exact Nat.succ_le_succ ih

theorem mem_of_mem_linesOfParts {parts : List (List Char)} {line : List Char}
    (h : line ∈ linesOfParts parts) : ∃ part ∈ parts, ∀ c ∈ line, c ∈ part := by
  fun_induction linesOfParts parts with
  | case1 => exact absurd h List.not_mem_nil
  | case2 last hlast => exact absurd h List.not_mem_nil
  | case3 last hlast => exact ⟨line, h, fun _ hc => hc⟩
  | case4 part parts hparts ih =>
      rcases List.mem_cons.1 h with rfl | h
      · refine ⟨part, List.mem_cons_self, fun c hc => ?_⟩
        unfold dropReturn at hc
        split at hc
        · exact part.dropLast_subset hc
        · exact hc
      · obtain ⟨part', hmem, hsub⟩ := ih h
        exact ⟨part', List.mem_cons_of_mem _ hmem, hsub⟩

theorem newline_notMem_of_mem_lines {s line : String} (h : line ∈ lines s) :
    '\n' ∉ line.toList := by
  obtain ⟨cs, hcs, rfl⟩ := List.mem_map.1 h
  obtain ⟨part, hpart, hsub⟩ := mem_of_mem_linesOfParts hcs
  rw [String.toList_ofList]
  exact fun hc => notMem_of_mem_splitAt hpart (hsub _ hc)

end Text

/-! ## Decoded parts -/

namespace Utf8

theorem newline_mem_decodeChars {bs : Bytes} : '\n' ∈ decodeChars bs ↔ 10 ∈ bs :=
  mem_decodeChars_iff (b := 10) (by decide)

/-- Text split at line feeds is bytes split at line feeds. -/
theorem splitAt_decodeChars (bs : Bytes) :
    Text.splitAt '\n' (decodeChars bs) = (Text.splitAt 10 bs).map decodeChars := by
  induction hn : bs.length using Nat.strongRecOn generalizing bs with
  | ind n ih =>
      by_cases hmem : 10 ∈ bs
      · obtain ⟨part, rest, rfl, hpart⟩ := List.eq_append_cons_of_mem hmem
        have hshort : rest.length < n := by
          rw [← hn, List.length_append, List.length_cons]
          omega
        have hstep : decodeChars (10 :: rest) = '\n' :: decodeChars rest := by
          rw [decodeChars_cons, step_of_lt (by decide)]
          rfl
        rw [decodeChars_append (by decide), hstep,
          Text.splitAt_append_cons _ (mt newline_mem_decodeChars.1 hpart),
          Text.splitAt_append_cons _ hpart, List.map_cons, ih _ hshort rest rfl]
      · rw [Text.splitAt_of_notMem hmem,
          Text.splitAt_of_notMem (mt newline_mem_decodeChars.1 hmem)]
        rfl

/-- The `\r` of a terminator is a byte of its own. -/
theorem dropReturn_decodeChars (bs : Bytes) :
    Text.dropReturn (decodeChars bs) =
      decodeChars (if bs.getLast? = some 13 then bs.dropLast else bs) := by
  have hlast : (decodeChars bs).getLast? = some '\r' ↔ bs.getLast? = some 13 :=
    getLast?_decodeChars_iff (b := 13) (by decide)
  split
  · rename_i h
    obtain ⟨front, rfl⟩ := List.getLast?_eq_some_iff.1 h
    have hchars : decodeChars (front ++ [13]) = decodeChars front ++ ['\r'] := by
      rw [decodeChars_append (by decide), decodeChars_cons, step_of_lt (by decide)]
      simp
    rw [hchars, List.dropLast_concat]
    simp [Text.dropReturn]
  · rename_i h
    unfold Text.dropReturn
    split
    · rename_i hreturn
      exact absurd (hlast.1 hreturn) h
    · rfl

end Utf8

/-! ## Rows of bytes -/

namespace Bytes

/-- The bytes on a row, with its terminator. -/
def onRow (bs : Bytes) (row : Nat) : Bytes :=
  (bs.zipIdx.filter fun x => bs.row x.2 = row).map Prod.fst

/-- A line without the `\n` at its end and the `\r` before it. -/
def withoutTerminator (line : Bytes) : Bytes :=
  if line.getLast? = some 10 then
    if line.dropLast.getLast? = some 13 then line.dropLast.dropLast else line.dropLast
  else line

/-- The text of a row: its bytes, decoded, without the terminator. -/
def rowText (bs : Bytes) (row : Nat) : String := Utf8.decode (bs.onRow row).withoutTerminator

variable (bs : Bytes)

@[simp] theorem row_zero : bs.row 0 = 0 := by simp [row]

theorem row_cons_succ (b : UInt8) (offset : Nat) :
    Bytes.row (b :: bs) (offset + 1) = bs.row offset + if b = 10 then 1 else 0 := by
  simp [row, List.count_cons]

theorem onRow_cons (b : UInt8) (row : Nat) :
    Bytes.onRow (b :: bs) row =
      (if row = 0 then [b] else []) ++
        if b = 10 then (if row = 0 then [] else bs.onRow (row - 1)) else bs.onRow row := by
  have hrest : (((bs.zipIdx.map (Prod.map id (· + 1))).filter
        fun x => Bytes.row (b :: bs) x.2 = row).map Prod.fst) =
      (bs.zipIdx.filter fun x => bs.row x.2 + (if b = 10 then 1 else 0) = row).map Prod.fst := by
    rw [List.filter_map, List.map_map]
    simp [Function.comp_def, row_cons_succ]
  rw [onRow, List.zipIdx_cons', List.filter_cons, apply_ite (List.map Prod.fst), List.map_cons,
    hrest]
  by_cases hb : b = 10
  · cases row with
    | zero => simp [hb]
    | succ row => simp [hb, onRow]
  · cases row with
    | zero => simp [hb, onRow]
    | succ row => simp [hb, onRow]

/-- A row holds the part between two line feeds and the second of them. -/
theorem onRow_eq {row : Nat} {part : Bytes} (h : (Text.splitAt 10 bs)[row]? = some part) :
    bs.onRow row = part ++ if row + 1 < (Text.splitAt 10 bs).length then [10] else [] := by
  induction bs generalizing row part with
  | nil =>
      cases row with
      | zero =>
          have hpart : part = [] := by simpa using h.symm
          simp [hpart, onRow]
      | succ row => simp at h
  | cons b bs ih =>
      rw [onRow_cons]
      unfold Text.splitAt at h ⊢
      by_cases hb : b = 10
      · rw [if_pos hb] at h
        rw [if_pos hb]
        cases row with
        | zero =>
            have hpart : part = [] := by simpa using h.symm
            have hlen : 0 < (Text.splitAt 10 bs).length := by
              rw [Text.length_splitAt]
              omega
            simp [hb, hpart, hlen]
        | succ row =>
            rw [List.getElem?_cons_succ] at h
            simp [hb, ih h]
      · rw [if_neg hb] at h
        rw [if_neg hb]
        cases hs : Text.splitAt 10 bs with
        | nil => exact absurd hs (Text.splitAt_ne_nil 10 bs)
        | cons first rest =>
            rw [hs] at h
            cases row with
            | zero =>
                have hpart : part = b :: first := by simpa using h.symm
                have hfirst : (Text.splitAt 10 bs)[0]? = some first := by
                  rw [hs]
                  rfl
                have hrow := ih hfirst
                simp [hb, hpart, hrow, hs]
            | succ row =>
                have hrest : (Text.splitAt 10 bs)[row + 1]? = some part := by
                  rw [hs]
                  exact h
                have hrow := ih hrest
                simp [hb, hrow, hs]

theorem withoutTerminator_append (part : Bytes) :
    Bytes.withoutTerminator (part ++ [10]) =
      if part.getLast? = some 13 then part.dropLast else part := by
  simp [withoutTerminator]

theorem withoutTerminator_of_notMem {part : Bytes} (h : 10 ∉ part) :
    part.withoutTerminator = part := by
  have hlast : part.getLast? ≠ some 10 := fun hlast => h (List.mem_of_getLast? hlast)
  rw [withoutTerminator, if_neg hlast]

/-! ## Lines -/

theorem lines_eq :
    bs.lines =
      (Text.linesOfParts ((Text.splitAt 10 bs).map Utf8.decodeChars)).map String.ofList := by
  rw [lines, Text.lines, Text.linesChars, Utf8.decode, String.toList_ofList,
    Utf8.splitAt_decodeChars]

theorem row_le_count (offset : Nat) : bs.row offset ≤ bs.count 10 :=
  (List.take_sublist offset bs).count_le 10

theorem mem_onRow {row : Nat} {b : UInt8} :
    b ∈ bs.onRow row ↔ ∃ offset, bs[offset]? = some b ∧ bs.row offset = row := by
  simp [onRow, List.mem_zipIdx_iff_getElem?]

/-- The lines are the texts of the rows that hold a byte. -/
theorem getElem?_lines (row : Nat) :
    bs.lines[row]? = if bs.onRow row = [] then none else some (bs.rowText row) := by
  rw [lines_eq, List.getElem?_map]
  cases hpart : (Text.splitAt 10 bs)[row]? with
  | none =>
      have hlen : (Text.splitAt 10 bs).length ≤ row := List.getElem?_eq_none_iff.1 hpart
      have hempty : bs.onRow row = [] := by
        refine List.eq_nil_iff_forall_not_mem.2 fun b hb => ?_
        obtain ⟨offset, -, rfl⟩ := (bs.mem_onRow).1 hb
        have hcount := bs.row_le_count offset
        rw [Text.length_splitAt] at hlen
        omega
      have hshort := Text.length_linesOfParts_le ((Text.splitAt 10 bs).map Utf8.decodeChars)
      rw [List.length_map] at hshort
      rw [if_pos hempty, List.getElem?_eq_none (Nat.le_trans hshort hlen), Option.map_none]
  | some part =>
      have hfeed := Text.notMem_of_mem_splitAt (List.mem_of_getElem? hpart)
      have hchars : ((Text.splitAt 10 bs).map Utf8.decodeChars)[row]? =
          some (Utf8.decodeChars part) := by
        rw [List.getElem?_map, hpart, Option.map_some]
      rw [Text.getElem?_linesOfParts hchars, List.length_map, onRow_eq bs hpart, rowText,
        onRow_eq bs hpart]
      split
      · rw [Utf8.dropReturn_decodeChars, withoutTerminator_append]
        simp [Utf8.decode]
      · rw [List.append_nil, withoutTerminator_of_notMem hfeed]
        by_cases hnil : part = [] <;> simp [hnil, Utf8.decodeChars_eq_nil_iff, Utf8.decode]

theorem onRow_eq_nil_iff {row : Nat} : bs.onRow row = [] ↔ bs.lines.length ≤ row := by
  rw [← List.getElem?_eq_none_iff, getElem?_lines]
  split
  · rename_i h
    simp [h]
  · rename_i h
    simp [h]

/-- A line is what `rowText` says; behind the lines it says nothing. -/
theorem lines_getD (row : Nat) : (bs.lines[row]?).getD "" = bs.rowText row := by
  rw [getElem?_lines]
  split
  · rename_i h
    have hnone : Utf8.decode (withoutTerminator []) = "" := by
      simp [Utf8.decode, withoutTerminator]
    rw [rowText, h, hnone, Option.getD_none]
  · rw [Option.getD_some]

theorem newline_notMem_rowText (row : Nat) : '\n' ∉ (bs.rowText row).toList := by
  rw [← lines_getD]
  cases hline : bs.lines[row]? with
  | none => exact List.not_mem_nil
  | some line => exact Text.newline_notMem_of_mem_lines (List.mem_of_getElem? hline)

/-- Every byte stands on a line. -/
theorem row_lt_length_lines {offset : Nat} (h : offset < bs.length) :
    bs.row offset < bs.lines.length := by
  have hmem : bs[offset] ∈ bs.onRow (bs.row offset) :=
    (bs.mem_onRow).2 ⟨offset, List.getElem?_eq_getElem h, rfl⟩
  refine Nat.lt_of_not_le fun hle => ?_
  rw [(bs.onRow_eq_nil_iff).2 hle] at hmem
  exact List.not_mem_nil hmem

theorem row_concat_of_le (b : UInt8) {offset : Nat} (h : offset ≤ bs.length) :
    Bytes.row (bs ++ [b]) offset = bs.row offset := by
  rw [row, List.take_append_of_le_length h, row]

theorem row_length_concat (b : UInt8) :
    Bytes.row (bs ++ [b]) (bs.length + 1) = bs.row bs.length + if b = 10 then 1 else 0 := by
  have hall : (bs ++ [b]).take (bs.length + 1) = bs ++ [b] := List.take_of_length_le (by simp)
  rw [row, hall, List.count_append, row, List.take_length]
  simp [List.count_cons]

theorem row_mono {offset offset' : Nat} (h : offset ≤ offset') :
    bs.row offset ≤ bs.row offset' :=
  (List.take_sublist_take_left h).count_le 10

/-- Behind the last byte there is a row without a line if that byte ends a line. -/
theorem length_lines_concat_newline :
    (Bytes.lines (bs ++ [10])).length = Bytes.row (bs ++ [10]) (bs.length + 1) := by
  have hlast : Bytes.row (bs ++ [10]) bs.length < (Bytes.lines (bs ++ [10])).length :=
    row_lt_length_lines _ (by simp)
  have hbehind : Bytes.onRow (bs ++ [10]) (Bytes.row (bs ++ [10]) (bs.length + 1)) = [] := by
    refine List.eq_nil_iff_forall_not_mem.2 fun b hb => ?_
    obtain ⟨offset, hbyte, hrow⟩ := (mem_onRow _).1 hb
    have hoffset : offset < bs.length + 1 := by
      simpa using (List.getElem?_eq_some_iff.1 hbyte).1
    have hle := row_mono bs (Nat.le_of_lt_succ hoffset)
    rw [row_concat_of_le bs 10 (Nat.le_of_lt_succ hoffset), row_length_concat] at hrow
    simp only [if_true] at hrow
    omega
  have hle := (onRow_eq_nil_iff _).1 hbehind
  rw [row_concat_of_le bs 10 (Nat.le_refl _)] at hlast
  rw [row_length_concat] at hle ⊢
  simp only [if_true] at hle ⊢
  omega

/-- Only the end of the input can stand behind all lines, and it does so if it
is the end of a line as well. -/
theorem row_le_length_lines {offset : Nat} (h : offset ≤ bs.length) :
    bs.row offset ≤ bs.lines.length ∧
      (bs.row offset = bs.lines.length ↔
        offset = bs.length ∧ (bs = [] ∨ bs.getLast? = some 10)) := by
  rcases Nat.lt_or_eq_of_le h with hlt | rfl
  · have hrow := bs.row_lt_length_lines hlt
    refine ⟨Nat.le_of_lt hrow, ?_⟩
    simp [Nat.ne_of_lt hrow, Nat.ne_of_lt hlt]
  · rcases List.eq_nil_or_concat bs with rfl | ⟨front, b, rfl⟩
    · simp [lines, Utf8.decode, Text.lines, Text.linesChars, Text.linesOfParts]
    · rw [List.concat_eq_append, List.length_append, List.length_singleton]
      by_cases hb : b = 10
      · subst hb
        simp [length_lines_concat_newline]
      · have hlast : Bytes.row (front ++ [b]) front.length < (Bytes.lines (front ++ [b])).length :=
          row_lt_length_lines _ (by simp)
        rw [row_concat_of_le front b (Nat.le_refl _)] at hlast
        have hrow := row_length_concat front b
        rw [if_neg hb, Nat.add_zero] at hrow
        rw [hrow]
        refine ⟨Nat.le_of_lt hlast, ?_⟩
        simp [Nat.ne_of_lt hlast, hb]

end Bytes

end SymbolIndex
