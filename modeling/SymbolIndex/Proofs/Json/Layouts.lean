-- SUMMARY: The compact and the indented text of a value spell what the value is made of.
import SymbolIndex.Proofs.Json.Grammar

/-!
# Layouts

A value is written on one line or with one item or member a line. Both differ in their
blanks alone, so what either spells is shown for the two of them at once: the parts of a
list or an object are again in one of the two layouts.
-/

namespace SymbolIndex.Json

/-- The compact or the indented text of the value, behind blanks. -/
inductive IsLayout (v : Json) : Bytes → Prop
  | compact {before : Bytes} (h : AreBlanks before) : IsLayout v (before ++ Utf8.encode v.render)
  | indented {before : Bytes} (h : AreBlanks before) (depth : Nat) :
      IsLayout v (before ++ Utf8.encode (v.renderIndented depth))

/-! ## Strings -/

theorem spellsContent_append {plain content text : Bytes} (hplain : ∀ b ∈ plain, isPlain b = true)
    (h : SpellsContent content text) : SpellsContent (plain ++ content) (plain ++ text) := by
  induction plain with
  | nil => exact h
  | cons b plain ih =>
      obtain ⟨hb, hplain⟩ := List.forall_mem_cons.1 hplain
      exact .plain hb (ih hplain)

/-- A character that is not written as it is has an escape. -/
theorem exists_spellsEscape {c : Char} (h : escapedChar c ≠ [c]) :
    ∃ e, (escapedChar c).flatMap String.utf8EncodeChar = byte '\\' :: e ∧
      SpellsEscape (String.utf8EncodeChar c) e := by
  rcases escapedChar_cases h with ⟨⟨letter, hletter, heq, hshort⟩, hlow⟩ | ⟨heq, hlow⟩
  · have hletters : (escapeLetters.all fun e => e.toNat < 0x80 &&
        escapes.any fun p => p.1 = e && shortEscape? (byte e) = some (.ofNat p.2)) = true := by
      decide
    have hescape := List.all_eq_true.1 hletters letter hletter
    simp only [Bool.and_eq_true, decide_eq_true_eq, List.any_eq_true] at hescape
    obtain ⟨hascii, ⟨letter', code⟩, hmem, hsame, hcode⟩ := hescape
    obtain rfl : letter' = letter := hsame
    refine ⟨[byte letter'], ?_, ?_⟩
    · rw [heq, encode_ascii (by simpa using hascii)]
      rfl
    · rw [Utf8.utf8EncodeChar_of_lt hlow, Option.some.inj (hshort.symm.trans hcode)]
      exact .letter hmem
  · have hdigit : ∀ k < 16, (hexDigit k).toNat < 0x80 ∧
        hexValue? (byte (hexDigit k)) = some k := by decide
    obtain ⟨h16, hhex16⟩ := hdigit (c.toNat / 16) (by omega)
    obtain ⟨h1, hhex1⟩ := hdigit (c.toNat % 16) (by omega)
    have hzero : hexValue? (byte '0') = some 0 := by decide
    have hdigits := SpellsHex.digits hzero hzero hhex16 hhex1
    have hvalue : ((0 * 16 + 0) * 16 + c.toNat / 16) * 16 + c.toNat % 16 = c.toNat := by omega
    rw [hvalue] at hdigits
    have hescape := SpellsEscape.unicode hdigits (.inl (by omega))
    rw [Char.ofNat_toNat] at hescape
    refine ⟨_, ?_, hescape⟩
    rw [heq, encode_ascii (by simp [h16, h1])]
    rfl

theorem spellsContent_escapedBytes (cs : List Char) :
    SpellsContent (cs.flatMap String.utf8EncodeChar) (escapedBytes cs) := by
  induction cs with
  | nil => exact .nil
  | cons c cs ih =>
      rw [escapedBytes, List.flatMap_cons, List.flatMap_cons]
      by_cases hplain : escapedChar c = [c]
      · have hbytes : [c].flatMap String.utf8EncodeChar = String.utf8EncodeChar c := by simp
        rw [hplain, hbytes]
        exact spellsContent_append (fun b hb => isPlain_of_mem_utf8EncodeChar hplain hb) ih
      · obtain ⟨e, he, hspells⟩ := exists_spellsEscape hplain
        rw [he]
        exact .escaped hspells ih

theorem spellsText_renderText (s : String) : SpellsText s (Utf8.encode (renderText s)) := by
  refine padded_of_kind ⟨Utf8.encode s, escapedBytes s.toList, ?_, (Utf8.decode_encode s).symm,
    encode_renderText s⟩
  rw [Utf8.encode_eq]
  exact spellsContent_escapedBytes s.toList

theorem SpellsText.behind_blanks {s : String} {before bs : Bytes} (h : SpellsText s bs)
    (hbefore : AreBlanks before) : SpellsText s (before ++ bs) :=
  Padded.behind_blanks h hbefore

/-- A member whose key is written behind blanks. -/
def Member.written {before : Bytes} (hbefore : AreBlanks before) (name : String) (value : Bytes) :
    Member :=
  ⟨name, before ++ Utf8.encode (renderText name), value,
    (spellsText_renderText name).behind_blanks hbefore⟩

/-! ## Scalars -/

section

variable {bs : Bytes}

/-- Nothing is laid out differently without brackets. -/
theorem IsLayout.of_scalar {v : Json} (h : v.IsLayout bs) (hv : v.isNested = false) :
    ∃ before, AreBlanks before ∧ bs = before ++ v.bytes := by
  have hsame : ∀ depth, v.renderIndented depth = v.render := by
    intro depth
    cases v with
    | list items => exact absurd hv.symm Bool.false_ne_true
    | object members => exact absurd hv.symm Bool.false_ne_true
    | _ => rw [renderIndented, render]
  cases h with
  | compact hbefore => exact ⟨_, hbefore, rfl⟩
  | indented hbefore depth => exact ⟨_, hbefore, by rw [hsame, bytes]⟩

theorem IsLayout.spellsText {s : String} (h : (text s).IsLayout bs) : SpellsText s bs := by
  obtain ⟨before, hbefore, rfl⟩ := h.of_scalar rfl
  rw [bytes_text]
  exact (spellsText_renderText s).behind_blanks hbefore

theorem IsLayout.spellsNat {n : Nat} (h : (ofNat n).IsLayout bs) : SpellsNat n bs := by
  obtain ⟨before, hbefore, rfl⟩ := h.of_scalar rfl
  have hbytes : (ofNat n).bytes = numeral n := by
    rw [ofNat, bytes_integer, if_neg (Int.not_lt.2 (Int.natCast_nonneg n))]
    rfl
  exact padded_behind_blanks hbefore hbytes

theorem IsLayout.spellsNull (h : null.IsLayout bs) : Padded (· = wordBytes "null") bs := by
  obtain ⟨before, hbefore, rfl⟩ := h.of_scalar rfl
  exact padded_behind_blanks hbefore bytes_null

end

/-! ## Lists and objects -/

theorem separated_map (f : β → Bytes) (g : α → β) (xs : List α) :
    separated f (xs.map g) = separated (fun x => f (g x)) xs := by
  cases xs with
  | nil => rfl
  | cons x xs => simp [separated, afterCommas, List.flatMap_map]

/-- A line break in front of each line is as good as one behind each comma. -/
theorem newline_intercalate (line : String) (lines : List String) :
    "\n" ++ ",\n".intercalate (line :: lines) =
      ",".intercalate ((line :: lines).map ("\n" ++ ·)) := by
  induction lines generalizing line with
  | nil => simp
  | cons line' lines ih =>
      have hcomma : ",\n" = "," ++ "\n" := rfl
      rw [String.intercalate_cons_cons, List.map_cons, List.map_cons, String.intercalate_cons_cons,
        ← List.map_cons, ← ih, hcomma]
      simp only [String.append_assoc]

theorem areBlanks_indentation (depth : Nat) :
    AreBlanks (Utf8.encode ("\n" ++ indentation depth)) := by
  have hchars : ∀ c ∈ ("\n" ++ indentation depth).toList, c = '\n' ∨ c = ' ' := by
    intro c hc
    rw [String.toList_append] at hc
    refine (List.mem_append.1 hc).imp List.mem_singleton.1 fun hc => ?_
    rw [indentation, String.toList_ofList] at hc
    exact (List.mem_replicate.1 hc).2
  rw [← String.ofList_toList (s := "\n" ++ indentation depth), Utf8.encode_ofList, encode_ascii]
  · intro b hb
    obtain ⟨c, hc, rfl⟩ := List.mem_map.1 hb
    rcases hchars c hc with rfl | rfl <;> decide
  · intro c hc
    rcases hchars c hc with rfl | rfl <;> decide

/-- Indented lines are the items of their bracket, each behind blanks. -/
theorem encode_indented (opening closing : String) (depth : Nat) (line : α → String)
    (xs : List α) :
    ∃ before gap, AreBlanks before ∧ AreBlanks gap ∧
      Utf8.encode (indented opening closing depth (xs.map line)) =
        Utf8.encode opening ++ separated (fun x => before ++ Utf8.encode (line x)) xs ++
          (gap ++ Utf8.encode closing) := by
  cases xs with
  | nil =>
      refine ⟨[], [], areBlanks_nil, areBlanks_nil, ?_⟩
      simp [indented, separated]
  | cons x xs =>
      refine ⟨_, _, areBlanks_indentation (depth + 1), areBlanks_indentation depth, ?_⟩
      have hlines : "\n" ++ ",\n".intercalate
            (((x :: xs).map line).map (indentation (depth + 1) ++ ·)) =
          ",".intercalate ((x :: xs).map fun x => "\n" ++ indentation (depth + 1) ++ line x) := by
        rw [List.map_cons, List.map_cons, newline_intercalate, ← List.map_cons, ← List.map_cons,
          List.map_map, List.map_map]
        simp only [Function.comp_def, String.append_assoc]
      have htext : indented opening closing depth ((x :: xs).map line) =
          opening ++ ("\n" ++ ",\n".intercalate
              (((x :: xs).map line).map (indentation (depth + 1) ++ ·))) ++
            ("\n" ++ indentation depth ++ closing) := by
        simp [indented, String.append_assoc]
      rw [htext, hlines, Utf8.encode_append, Utf8.encode_append, encode_intercalate,
        Utf8.encode_append ("\n" ++ indentation depth)]
      simp only [Utf8.encode_append _ (line _)]

theorem indentedItems_eq (depth : Nat) (items : List Json) :
    indentedItems depth items = items.map (renderIndented depth) := by
  induction items with
  | nil => rfl
  | cons v vs ih => rw [indentedItems, ih, List.map_cons]

theorem indentedMembers_eq (depth : Nat) (members : List (String × Json)) :
    indentedMembers depth members =
      members.map fun m => renderText m.1 ++ ": " ++ m.2.renderIndented depth := by
  induction members with
  | nil => rfl
  | cons m ms ih =>
      obtain ⟨key, v⟩ := m
      rw [indentedMembers, ih, List.map_cons]

section

variable {bs : Bytes}

/-- The items of a list are laid out between its brackets. -/
theorem IsLayout.items {items : List Json} (h : (list items).IsLayout bs) :
    ∃ spell : Json → Bytes, (∀ v, IsLayout v (spell v)) ∧
      Padded (fun text => ∃ gap, AreBlanks gap ∧
        text = byte '[' :: separated spell items ++ (gap ++ [byte ']'])) bs := by
  cases h with
  | compact hbefore =>
      refine ⟨bytes, fun v => .compact areBlanks_nil, padded_behind_blanks hbefore ?_⟩
      exact ⟨[], areBlanks_nil, bytes_list items⟩
  | indented hbefore depth =>
      obtain ⟨before, gap, hbefore', hgap, htext⟩ :=
        encode_indented "[" "]" depth (renderIndented (depth + 1)) items
      have hopen : Utf8.encode "[" = [byte '['] := Utf8.encode_eq "["
      have hclose : Utf8.encode "]" = [byte ']'] := Utf8.encode_eq "]"
      refine ⟨_, fun v => .indented hbefore' (depth + 1), padded_behind_blanks hbefore ?_⟩
      refine ⟨gap, hgap, ?_⟩
      rw [renderIndented, indentedItems_eq, htext, hopen, hclose]
      rfl

/-- The members of an object are laid out between its braces. -/
theorem IsLayout.spellsObject {members : List (String × Json)} (h : (object members).IsLayout bs) :
    ∃ spell : Json → Bytes, (∀ v, IsLayout v (spell v)) ∧
      SpellsObject (members.map fun m => (m.1, spell m.2)) bs := by
  cases h with
  | compact hbefore =>
      refine ⟨bytes, fun v => .compact areBlanks_nil, padded_behind_blanks hbefore ?_⟩
      refine ⟨members.map fun m => .written areBlanks_nil m.1 (bytes m.2), [], areBlanks_nil,
        by rw [List.map_map]; rfl, ?_⟩
      rw [separated_map]
      exact bytes_object members
  | indented hbefore depth =>
      obtain ⟨before, gap, hbefore', hgap, htext⟩ := encode_indented "\x7b" "\x7d" depth
        (fun m : String × Json => renderText m.1 ++ ": " ++ m.2.renderIndented (depth + 1)) members
      have hopen : Utf8.encode "\x7b" = [byte '\x7b'] := Utf8.encode_eq "\x7b"
      have hclose : Utf8.encode "\x7d" = [byte '\x7d'] := Utf8.encode_eq "\x7d"
      have hcolon : Utf8.encode ": " = [byte ':', byte ' '] := Utf8.encode_eq ": "
      refine ⟨_, fun v => .indented areBlanks_space (depth + 1),
        padded_behind_blanks hbefore ?_⟩
      refine ⟨members.map fun m => .written hbefore' m.1 _, gap, hgap,
        by rw [List.map_map]; rfl, ?_⟩
      rw [renderIndented, indentedMembers_eq, htext, separated_map, hopen, hclose]
      simp only [Utf8.encode_append, hcolon, Member.bytes, Member.written, List.append_assoc]
      rfl

theorem IsLayout.spellsList {texts : List String} (h : (ofTexts texts).IsLayout bs) :
    SpellsList SpellsText texts bs := by
  obtain ⟨spell, hspell, before, _, after, hbefore, ⟨gap, hgap, rfl⟩, hafter, rfl⟩ := h.items
  refine ⟨before, _, after, hbefore, ?_, hafter, rfl⟩
  refine ⟨texts.map fun s => (s, spell (text s)), gap, fun item hitem => ?_, hgap, ?_, ?_⟩
  · obtain ⟨s, -, rfl⟩ := List.mem_map.1 hitem
    exact (hspell (text s)).spellsText
  · simp [Function.comp_def]
  · rw [separated_map, separated_map]

end

end SymbolIndex.Json
