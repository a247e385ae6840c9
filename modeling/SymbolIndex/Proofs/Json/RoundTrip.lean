-- SUMMARY: A value without fractions is read back from its compact text.
import SymbolIndex.Proofs.Json.Tokens

/-!
# Values read back

Each reader takes one value off the front of a text, whatever ends it: a comma,
a closing bracket or the end. With that, the items of a list and the members of
an object follow by induction on them, and nested values by induction on the
levels that the reader goes down.
-/

namespace SymbolIndex.Json

/-! ## Values within the reader's limits -/

/-- The value has at most this many brackets around each other, and its numbers
are integers that the reader keeps exact. -/
def IsReadable : (levels : Nat) → Json → Prop
  | _, null => True
  | _, boolean _ => True
  | _, text _ => True
  | _, number (.integer n) => -0x8000000000000000 ≤ n ∧ n ≤ wordLimit
  | _, number (.real _) => False
  | 0, list _ => False
  | 0, object _ => False
  | levels + 1, list items => ∀ v ∈ items, v.IsReadable levels
  | levels + 1, object members => ∀ m ∈ members, m.2.IsReadable levels

def isNested : Json → Bool
  | list _ | object _ => true
  | _ => false

/-- No bracket is opened where none may be. -/
theorem isNested_of_isReadable_zero {v : Json} (h : v.IsReadable 0) : v.isNested = false := by
  cases v with
  | list items => exact absurd h id
  | object members => exact absurd h id
  | _ => rfl

/-- What can stand behind a value inside another one, or nothing. -/
def EndsValue (rest : Bytes) : Prop :=
  ∀ b ∈ rest.head?, b = byte ',' ∨ b = byte ']' ∨ b = byte '\x7d'

theorem EndsValue.endsInteger {rest : Bytes} (h : EndsValue rest) : EndsInteger rest := by
  intro b hb
  rcases h b hb with rfl | rfl | rfl <;> decide

/-- The text is that of a value rather than of what stands around one. -/
def StartsValue (bs : Bytes) : Prop :=
  ∃ b tail, bs = b :: tail ∧ isBlank b = false ∧ b ≠ byte ']'

theorem StartsValue.append {bs : Bytes} (h : StartsValue bs) (rest : Bytes) :
    StartsValue (bs ++ rest) := by
  obtain ⟨b, tail, rfl, hb⟩ := h
  exact ⟨b, tail ++ rest, rfl, hb⟩

theorem StartsValue.ne_nil {bs : Bytes} (h : StartsValue bs) : bs ≠ [] := by
  obtain ⟨b, tail, rfl, -⟩ := h
  exact List.cons_ne_nil b tail

/-- The reader takes `x` off the bytes, whatever ends them. -/
structure ReadsBack (reader : Reader α) (bs : Bytes) (x : α) : Prop where
  starts : StartsValue bs
  reads : ∀ rest, EndsValue rest → reader (bs ++ rest) = .ok (x, rest)

/-! ## Sequences -/

/-- Texts with a comma before each of them. -/
def afterCommas (bytes : α → Bytes) (xs : List α) : Bytes := xs.flatMap fun x => byte ',' :: bytes x

theorem afterCommas_cons (bytes : α → Bytes) (x : α) (xs : List α) :
    afterCommas bytes (x :: xs) = byte ',' :: bytes x ++ afterCommas bytes xs := rfl

theorem length_le_afterCommas (bytes : α → Bytes) (xs : List α) :
    xs.length ≤ (afterCommas bytes xs).length := by
  induction xs with
  | nil => exact Nat.le_refl 0
  | cons x xs ih =>
      rw [afterCommas_cons, List.cons_append, List.length_cons, List.length_cons,
        List.length_append]
      omega

/-- Another item ends the one before it, and so does the closing bracket. -/
theorem endsValue_afterCommas (bytes : α → Bytes) (xs : List α) {b : UInt8} (rest : Bytes)
    (hb : b = byte ']' ∨ b = byte '\x7d') : EndsValue (afterCommas bytes xs ++ b :: rest) := by
  cases xs with
  | nil =>
      rintro b' hb'
      obtain rfl : b = b' := by simpa [afterCommas] using hb'
      exact .inr hb
  | cons x xs =>
      rintro b' hb'
      obtain rfl : byte ',' = b' := by simpa [afterCommas] using hb'
      exact .inl rfl

/-- The texts with commas between them. -/
def separated (bytes : α → Bytes) : List α → Bytes
  | [] => []
  | x :: xs => bytes x ++ afterCommas bytes xs

theorem length_le_separated {bytes : α → Bytes} {xs : List α} (h : ∀ x ∈ xs, bytes x ≠ []) :
    xs.length ≤ (separated bytes xs).length := by
  cases xs with
  | nil => exact Nat.le_refl 0
  | cons x xs =>
      have hx := List.length_pos_iff.2 (h x List.mem_cons_self)
      have hxs := length_le_afterCommas bytes xs
      rw [separated, List.length_cons, List.length_append]
      omega

theorem encode_intercalate (text : α → String) (xs : List α) :
    Utf8.encode (",".intercalate (xs.map text)) = separated (fun x => Utf8.encode (text x)) xs := by
  have hcomma : Utf8.encode "," = [byte ','] := Utf8.encode_eq ","
  cases xs with
  | nil => simp [separated, Utf8.encode_eq]
  | cons x xs =>
      induction xs generalizing x with
      | nil => simp [separated, afterCommas]
      | cons y ys ih =>
          rw [separated, List.map_cons, List.map_cons, String.intercalate_cons_cons,
            Utf8.encode_append, Utf8.encode_append, ← List.map_cons, ih, separated,
            afterCommas_cons, hcomma, List.append_assoc]
          rfl

/-! ## Items -/

section

variable {α : Type} {item : Reader α} {bytes : α → Bytes}

theorem nextItem_first {bs : Bytes} (h : StartsValue bs) : nextItem true bs = .ok (some bs, bs) := by
  obtain ⟨b, tail, rfl, hblank, hend⟩ := h
  simp [nextItem, skipBlanks, hblank, hend]

theorem nextItem_comma {bs : Bytes} (h : StartsValue bs) :
    nextItem false (byte ',' :: bs) = .ok (some bs, bs) := by
  obtain ⟨b, tail, rfl, hblank, hend⟩ := h
  have hcomma : isBlank (byte ',') = false ∧ byte ',' ≠ byte ']' := by decide
  simp [nextItem, skipBlanks, hblank, hend, hcomma]

theorem nextItem_end (first : Bool) (rest : Bytes) :
    nextItem first (byte ']' :: rest) = .ok (none, rest) := by
  have hend : isBlank (byte ']') = false := by decide
  simp [nextItem, skipBlanks, hend]

theorem itemsFrom_afterCommas {xs : List α} {fuel : Nat} (rest : Bytes)
    (hxs : ∀ x ∈ xs, ReadsBack item (bytes x) x) (hfuel : xs.length < fuel) :
    itemsFrom item fuel false (afterCommas bytes xs ++ byte ']' :: rest) = .ok (xs, rest) := by
  induction xs generalizing fuel with
  | nil =>
      obtain ⟨fuel, rfl⟩ := Nat.exists_eq_add_of_lt hfuel
      simp [itemsFrom, afterCommas, nextItem_end, bind, Except.bind]
  | cons x xs ih =>
      rw [List.length_cons] at hfuel
      cases fuel with
      | zero => exact absurd hfuel (Nat.not_lt_zero _)
      | succ fuel =>
          have hx := hxs x List.mem_cons_self
          have hnext := nextItem_comma (hx.starts.append (afterCommas bytes xs ++ byte ']' :: rest))
          have hread := hx.reads _ (endsValue_afterCommas bytes xs rest (.inl rfl))
          have hrest := ih (fun x' hx' => hxs x' (List.mem_cons_of_mem _ hx'))
            (Nat.lt_of_succ_lt_succ hfuel)
          rw [afterCommas_cons, List.append_assoc, List.cons_append, itemsFrom, hnext]
          simp [hread, hrest, bind, Except.bind]

/-- The items of a list are read back. -/
theorem readItems_separated {xs : List α} (rest : Bytes)
    (hxs : ∀ x ∈ xs, ReadsBack item (bytes x) x) :
    readItems item (separated bytes xs ++ byte ']' :: rest) = .ok (xs, rest) := by
  have hlen : xs.length ≤ (separated bytes xs ++ byte ']' :: rest).length := by
    have hle := length_le_separated fun x hx => (hxs x hx).starts.ne_nil
    rw [List.length_append]
    omega
  rw [readItems]
  generalize (separated bytes xs ++ byte ']' :: rest).length = fuel at hlen
  cases xs with
  | nil => simp [itemsFrom, separated, nextItem_end, bind, Except.bind]
  | cons x xs =>
      have hx := hxs x List.mem_cons_self
      have hnext := nextItem_first (hx.starts.append (afterCommas bytes xs ++ byte ']' :: rest))
      have hread := hx.reads _ (endsValue_afterCommas bytes xs rest (.inl rfl))
      have hrest := itemsFrom_afterCommas rest (fun x' hx' => hxs x' (List.mem_cons_of_mem _ hx'))
        hlen
      rw [separated, List.append_assoc, itemsFrom, hnext]
      simp [hread, hrest, bind, Except.bind]

end

/-! ## Members -/

section

variable {α : Type} {value : Reader α} {bytes : α → Bytes}

/-- A key, a colon and a value. -/
def memberBytes (bytes : α → Bytes) (m : String × α) : Bytes :=
  Utf8.encode (renderText m.1) ++ byte ':' :: bytes m.2

theorem nextKey_first (key : String) (rest : Bytes) :
    nextKey true (Utf8.encode (renderText key) ++ rest) = .ok (some key, rest) := by
  have hquote : isBlank (byte '"') = false ∧ byte '"' ≠ byte '\x7d' := by decide
  have hread := readString_renderText key rest
  simp [encode_renderText, nextKey, skipBlanks, hquote, hread, bind, Except.bind]

theorem nextKey_comma (key : String) (rest : Bytes) :
    nextKey false (byte ',' :: Utf8.encode (renderText key) ++ rest) = .ok (some key, rest) := by
  have hcomma : isBlank (byte ',') = false ∧ byte ',' ≠ byte '\x7d' := by decide
  have hquote : isBlank (byte '"') = false := by decide
  have hread := readString_renderText key rest
  simp [encode_renderText, nextKey, skipBlanks, hcomma, hquote, hread, bind, Except.bind]

theorem nextKey_end (first : Bool) (rest : Bytes) :
    nextKey first (byte '\x7d' :: rest) = .ok (none, rest) := by
  have hend : isBlank (byte '\x7d') = false := by decide
  simp [nextKey, skipBlanks, hend]

theorem colon_eq (rest : Bytes) : colon (byte ':' :: rest) = .ok rest := by
  have hcolon : isBlank (byte ':') = false := by decide
  simp [colon, skipBlanks, hcolon]

theorem membersFrom_afterCommas {ms : List (String × α)} {fuel : Nat} (rest : Bytes)
    (hms : ∀ m ∈ ms, ReadsBack value (bytes m.2) m.2) (hfuel : ms.length < fuel) :
    membersFrom value fuel false (afterCommas (memberBytes bytes) ms ++ byte '\x7d' :: rest) =
      .ok (ms, rest) := by
  induction ms generalizing fuel with
  | nil =>
      obtain ⟨fuel, rfl⟩ := Nat.exists_eq_add_of_lt hfuel
      simp [membersFrom, afterCommas, nextKey_end, bind, Except.bind]
  | cons m ms ih =>
      rw [List.length_cons] at hfuel
      cases fuel with
      | zero => exact absurd hfuel (Nat.not_lt_zero _)
      | succ fuel =>
          have hread := (hms m List.mem_cons_self).reads _
            (endsValue_afterCommas (memberBytes bytes) ms rest (.inr rfl))
          have hrest := ih (fun m' hm' => hms m' (List.mem_cons_of_mem _ hm'))
            (Nat.lt_of_succ_lt_succ hfuel)
          rw [afterCommas_cons, memberBytes, List.append_assoc, ← List.cons_append,
            List.append_assoc, membersFrom, nextKey_comma]
          simp [colon_eq, hread, hrest, bind, Except.bind]

theorem memberBytes_ne_nil (m : String × α) : memberBytes bytes m ≠ [] := by
  simp [memberBytes]

/-- The members of an object are read back. -/
theorem readMembers_separated {ms : List (String × α)} (rest : Bytes)
    (hms : ∀ m ∈ ms, ReadsBack value (bytes m.2) m.2) :
    readMembers value (separated (memberBytes bytes) ms ++ byte '\x7d' :: rest) =
      .ok (ms, rest) := by
  have hlen : ms.length ≤ (separated (memberBytes bytes) ms ++ byte '\x7d' :: rest).length := by
    have hle : ms.length ≤ (separated (memberBytes bytes) ms).length :=
      length_le_separated fun m _ => memberBytes_ne_nil m
    rw [List.length_append]
    omega
  rw [readMembers]
  generalize (separated (memberBytes bytes) ms ++ byte '\x7d' :: rest).length = fuel at hlen
  cases ms with
  | nil => simp [membersFrom, separated, nextKey_end, bind, Except.bind]
  | cons m ms =>
      have hread := (hms m List.mem_cons_self).reads _
        (endsValue_afterCommas (memberBytes bytes) ms rest (.inr rfl))
      have hrest := membersFrom_afterCommas rest
        (fun m' hm' => hms m' (List.mem_cons_of_mem _ hm')) hlen
      rw [separated, List.append_assoc, memberBytes, List.append_assoc, membersFrom, nextKey_first]
      simp [colon_eq, hread, hrest, bind, Except.bind]

end

/-! ## Values -/

theorem renderItems_eq (items : List Json) : renderItems items = items.map render := by
  induction items with
  | nil => rfl
  | cons v vs ih => rw [renderItems, ih, List.map_cons]

theorem renderMembers_eq (members : List (String × Json)) :
    renderMembers members = members.map fun m => renderText m.1 ++ ":" ++ m.2.render := by
  induction members with
  | nil => rfl
  | cons m ms ih =>
      obtain ⟨key, v⟩ := m
      rw [renderMembers, ih, List.map_cons]

/-- The bytes of a value. -/
def bytes (v : Json) : Bytes := Utf8.encode v.render

theorem bytes_null : null.bytes = "null".toList.map byte := by
  rw [bytes, render]
  exact Utf8.encode_eq "null"

theorem bytes_boolean (b : Bool) :
    (boolean b).bytes = (if b then "true" else "false").toList.map byte := by
  rw [bytes, render]
  cases b with
  | false => exact Utf8.encode_eq "false"
  | true => exact Utf8.encode_eq "true"

theorem bytes_text (s : String) : (text s).bytes = Utf8.encode (renderText s) := by
  rw [bytes, render]

theorem bytes_list (items : List Json) :
    (list items).bytes = byte '[' :: separated bytes items ++ [byte ']'] := by
  have hopen : Utf8.encode "[" = [byte '['] := Utf8.encode_eq "["
  have hclose : Utf8.encode "]" = [byte ']'] := Utf8.encode_eq "]"
  rw [bytes, render, renderItems_eq, Utf8.encode_append, Utf8.encode_append, encode_intercalate,
    hopen, hclose]
  rfl

theorem bytes_object (members : List (String × Json)) :
    (object members).bytes = byte '\x7b' :: separated (memberBytes bytes) members ++
      [byte '\x7d'] := by
  have hopen : Utf8.encode "\x7b" = [byte '\x7b'] := Utf8.encode_eq "\x7b"
  have hclose : Utf8.encode "\x7d" = [byte '\x7d'] := Utf8.encode_eq "\x7d"
  have hcolon : Utf8.encode ":" = [byte ':'] := Utf8.encode_eq ":"
  rw [bytes, render, renderMembers_eq, Utf8.encode_append, Utf8.encode_append, encode_intercalate,
    hopen, hclose]
  simp only [Utf8.encode_append, hcolon, List.append_assoc]
  rfl

theorem bytes_integer (n : Int) :
    (number (.integer n)).bytes =
      (if n < 0 then [byte '-'] else []) ++ (Nat.toDigits 10 n.natAbs).map byte := by
  have hdigits : ∀ m : Nat, Utf8.encode (toString m) = (Nat.toDigits 10 m).map byte := by
    intro m
    rw [Nat.toString_eq_ofList_toDigits, Utf8.encode_ofList, encode_ascii]
    intro c hc
    have hrange := toNat_of_isDigit (Nat.isDigit_of_mem_toDigits (by decide) (by decide) hc)
    omega
  have hminus : Utf8.encode "-" = [byte '-'] := Utf8.encode_eq "-"
  rw [bytes, render, Number.render]
  cases n with
  | ofNat m => exact hdigits m
  | negSucc m =>
      have htext : toString (Int.negSucc m) = "-" ++ toString (m + 1) := rfl
      rw [htext, Utf8.encode_append, hminus, hdigits, if_pos (Int.negSucc_lt_zero m)]
      rfl

theorem ne_of_isDigit {b c : UInt8} (hb : isDigit b = true) (hc : isDigit c = false) : b ≠ c := by
  rintro rfl
  exact Bool.false_ne_true (hc.symm.trans hb)

theorem isBlank_of_isDigit {b : UInt8} (hb : isDigit b = true) : isBlank b = false := by
  have hne : ∀ c, isDigit (byte c) = false → b ≠ byte c := fun c => ne_of_isDigit hb
  simp [isBlank, hne ' ' (by decide), hne '\n' (by decide), hne '\t' (by decide),
    hne '\r' (by decide)]

/-! ### The first byte of a value -/

section

variable (levels : Nat) (rest : Bytes)

theorem readValue_minus : readValue levels (byte '-' :: rest) =
    (readNumber false rest).map fun (n, rest) => (number n, rest) := by
  cases levels <;> rfl

theorem readValue_digit {b : UInt8} (hb : isDigit b = true) : readValue levels (b :: rest) =
    (readNumber true (b :: rest)).map fun (n, rest) => (number n, rest) := by
  have hne : ∀ c, isDigit (byte c) = false → b ≠ byte c := fun c => ne_of_isDigit hb
  have hblank := isBlank_of_isDigit hb
  unfold readValue
  simp [skipBlanks, hblank, hb, hne 'n' (by decide), hne 't' (by decide), hne 'f' (by decide),
    hne '-' (by decide)]

theorem readValue_quote : readValue levels (byte '"' :: rest) =
    (readString rest).map fun (s, rest) => (text s, rest) := by
  cases levels <;> rfl

theorem readValue_bracket : readValue (levels + 1) (byte '[' :: rest) =
    (readItems (readValue levels) rest).map fun (xs, rest) => (list xs, rest) := rfl

theorem readValue_brace : readValue (levels + 1) (byte '\x7b' :: rest) =
    (readMembers (readValue levels) rest).map fun (ms, rest) => (object ms, rest) := rfl

end

/-! ### One kind of value after the other -/

section

variable (levels : Nat)

theorem readsBack_null : ReadsBack (readValue levels) null.bytes null := by
  have hbytes : null.bytes = byte 'n' :: "ull".toList.map byte := bytes_null
  rw [hbytes]
  refine ⟨⟨_, _, rfl, by decide, by decide⟩, fun rest _ => ?_⟩
  cases levels <;> rfl

theorem readsBack_boolean (b : Bool) :
    ReadsBack (readValue levels) (boolean b).bytes (boolean b) := by
  have hfalse : (boolean false).bytes = byte 'f' :: "alse".toList.map byte :=
    bytes_boolean false
  have htrue : (boolean true).bytes = byte 't' :: "rue".toList.map byte := bytes_boolean true
  cases b with
  | false =>
      rw [hfalse]
      refine ⟨⟨_, _, rfl, by decide, by decide⟩, fun rest _ => ?_⟩
      cases levels <;> rfl
  | true =>
      rw [htrue]
      refine ⟨⟨_, _, rfl, by decide, by decide⟩, fun rest _ => ?_⟩
      cases levels <;> rfl

theorem readsBack_text (s : String) : ReadsBack (readValue levels) (text s).bytes (text s) := by
  rw [bytes_text, encode_renderText]
  refine ⟨⟨_, _, rfl, by decide, by decide⟩, fun rest _ => ?_⟩
  rw [List.cons_append, List.cons_append, List.append_assoc, readValue_quote, List.singleton_append,
    readString_renderText]
  rfl

theorem readsBack_integer {n : Int} (hlow : -0x8000000000000000 ≤ n)
    (hhigh : n ≤ wordLimit) :
    ReadsBack (readValue levels) (number (.integer n)).bytes (number (.integer n)) := by
  rw [bytes_integer]
  have hdigits : n.natAbs ≤ wordLimit := by
    unfold wordLimit at hhigh ⊢
    omega
  by_cases hneg : n < 0
  · rw [if_pos hneg, List.singleton_append]
    refine ⟨⟨_, _, rfl, by decide, by decide⟩, fun rest hrest => ?_⟩
    have hvalue : integerNumber false n.natAbs = .integer n := by
      have hzero : n ≠ 0 := by omega
      have hbound : n.natAbs ≤ 0x8000000000000000 := by omega
      have habs : -(n.natAbs : Int) = n := by omega
      unfold integerNumber
      rw [habs]
      simp [hzero, hbound]
    rw [List.cons_append, readValue_minus, readNumber_toDigits false hdigits hrest.endsInteger,
      hvalue]
    rfl
  · rw [if_neg hneg, List.nil_append]
    have hvalue : integerNumber true n.natAbs = .integer n := by
      have habs : (n.natAbs : Int) = n := by omega
      simp [integerNumber, habs]
    cases hds : Nat.toDigits 10 n.natAbs with
    | nil => exact absurd hds Nat.toDigits_ne_nil
    | cons d ds =>
        have hd : isDigit (byte d) = true :=
          isDigit_byte (Nat.isDigit_of_mem_toDigits (b := 10) (n := n.natAbs) (by decide)
            (by decide) (hds ▸ List.mem_cons_self))
        refine ⟨⟨_, _, rfl, isBlank_of_isDigit hd, ne_of_isDigit hd (by decide)⟩,
          fun rest hrest => ?_⟩
        rw [List.map_cons, List.cons_append, readValue_digit levels _ hd, ← List.cons_append,
          ← List.map_cons, ← hds, readNumber_toDigits true hdigits hrest.endsInteger, hvalue]
        rfl

theorem readsBack_scalar {v : Json} (h : v.IsReadable levels) (hv : v.isNested = false) :
    ReadsBack (readValue levels) v.bytes v := by
  cases v with
  | null => exact readsBack_null levels
  | boolean b => exact readsBack_boolean levels b
  | number n =>
      cases n with
      | integer n =>
          have hbounds : -0x8000000000000000 ≤ n ∧ n ≤ wordLimit := by
            cases levels <;> exact h
          exact readsBack_integer levels hbounds.1 hbounds.2
      | real x => cases levels <;> exact absurd h id
  | text s => exact readsBack_text levels s
  | list items => exact absurd hv.symm Bool.false_ne_true
  | object members => exact absurd hv.symm Bool.false_ne_true

end

/-- A value within the limits is read back, whatever ends it. -/
theorem readsBack {levels : Nat} {v : Json} (h : v.IsReadable levels) :
    ReadsBack (readValue levels) v.bytes v := by
  induction levels generalizing v with
  | zero => exact readsBack_scalar 0 h (isNested_of_isReadable_zero h)
  | succ levels ih =>
      cases v with
      | list items =>
          rw [bytes_list]
          refine ⟨⟨_, _, rfl, by decide, by decide⟩, fun rest _ => ?_⟩
          rw [List.cons_append, List.cons_append, List.append_assoc, readValue_bracket,
            List.singleton_append, readItems_separated rest fun v hv => ih (h v hv)]
          rfl
      | object members =>
          rw [bytes_object]
          refine ⟨⟨_, _, rfl, by decide, by decide⟩, fun rest _ => ?_⟩
          rw [List.cons_append, List.cons_append, List.append_assoc, readValue_brace,
            List.singleton_append, readMembers_separated rest fun m hm => ih (h m hm)]
          rfl
      | _ => exact readsBack_scalar _ h rfl

/-- A whole text is read as the value that it was written for. -/
theorem parse_render {v : Json} (h : v.IsReadable nestingLimit) :
    parse (Utf8.encode v.render) = .ok v := by
  have hread := (readsBack h).reads [] (fun b hb => absurd hb (by simp))
  rw [List.append_nil] at hread
  rw [parse, decode, ← bytes, hread]
  rfl

/-! ## One line -/

theorem mem_afterCommas {bytes : α → Bytes} {xs : List α} {b : UInt8}
    (h : b ∈ afterCommas bytes xs) : b = byte ',' ∨ ∃ x ∈ xs, b ∈ bytes x := by
  obtain ⟨x, hx, hb⟩ := List.mem_flatMap.1 h
  rcases List.mem_cons.1 hb with hb | hb
  · exact .inl hb
  · exact .inr ⟨x, hx, hb⟩

theorem mem_separated {bytes : α → Bytes} {xs : List α} {b : UInt8}
    (h : b ∈ separated bytes xs) : b = byte ',' ∨ ∃ x ∈ xs, b ∈ bytes x := by
  cases xs with
  | nil => exact absurd h List.not_mem_nil
  | cons x xs =>
      rcases List.mem_append.1 h with h | h
      · exact .inr ⟨x, List.mem_cons_self, h⟩
      · exact (mem_afterCommas h).imp id fun ⟨x', hx', hb⟩ => ⟨x', List.mem_cons_of_mem _ hx', hb⟩

theorem newline_mem_encode {s : String} : byte '\n' ∈ Utf8.encode s ↔ '\n' ∈ s.toList := by
  rw [← Utf8.decodeChars_encode s]
  exact (Utf8.mem_decodeChars_iff (b := 10) (by decide)).symm

theorem newline_notMem_escapedChar (c : Char) : '\n' ∉ escapedChar c := by
  by_cases hplain : escapedChar c = [c]
  · rw [hplain, List.mem_singleton]
    rintro rfl
    exact absurd hplain (by decide)
  · have hletters : (escapeLetters.all fun e => '\n' ∉ ['\\', e]) = true := by decide
    have hdigit : ∀ k < 16, '\n' ≠ hexDigit k := by decide
    rcases escapedChar_cases hplain with ⟨⟨e, he, heq, -⟩, -⟩ | ⟨heq, hlow⟩
    · rw [heq]
      exact of_decide_eq_true (List.all_eq_true.1 hletters e he)
    · have h16 := hdigit (c.toNat / 16) (by omega)
      have h1 := hdigit (c.toNat % 16) (by omega)
      simp [heq, h16, h1]

theorem newline_notMem_renderText (s : String) : byte '\n' ∉ Utf8.encode (renderText s) := by
  rw [newline_mem_encode, renderText, String.toList_ofList]
  intro h
  rcases List.mem_append.1 h with h | h
  · rcases List.mem_cons.1 h with h | h
    · exact absurd h (by decide)
    · obtain ⟨c, -, hc⟩ := List.mem_flatMap.1 h
      exact newline_notMem_escapedChar c hc
  · exact absurd h (by decide)

theorem newline_notMem_integer (n : Int) : byte '\n' ∉ (number (.integer n)).bytes := by
  rw [bytes_integer]
  intro h
  rcases List.mem_append.1 h with h | h
  · split at h
    · exact absurd h (by decide)
    · exact absurd h List.not_mem_nil
  · obtain ⟨d, hd, heq⟩ := List.mem_map.1 h
    have hdigit := isDigit_byte (Nat.isDigit_of_mem_toDigits (by decide) (by decide) hd)
    exact ne_of_isDigit hdigit (by decide) heq

theorem newline_notMem_scalar {levels : Nat} {v : Json} (h : v.IsReadable levels)
    (hv : v.isNested = false) : byte '\n' ∉ v.bytes := by
  cases v with
  | null =>
      rw [bytes_null]
      decide
  | boolean b =>
      rw [bytes_boolean]
      cases b <;> decide
  | number n =>
      cases n with
      | integer n => exact newline_notMem_integer n
      | real x => cases levels <;> exact absurd h id
  | text s =>
      rw [bytes_text]
      exact newline_notMem_renderText s
  | list items => exact absurd hv.symm Bool.false_ne_true
  | object members => exact absurd hv.symm Bool.false_ne_true

theorem newline_notMem_bytes {levels : Nat} {v : Json} (h : v.IsReadable levels) :
    byte '\n' ∉ v.bytes := by
  have hsides : ∀ {left right : UInt8} {inner : Bytes}, byte '\n' ≠ left → byte '\n' ≠ right →
      byte '\n' ∉ inner → byte '\n' ∉ left :: inner ++ [right] := by
    intro left right inner hleft hright hinner
    simp [hleft, hright, hinner]
  have hcomma : byte '\n' ≠ byte ',' := by decide
  induction levels generalizing v with
  | zero => exact newline_notMem_scalar h (isNested_of_isReadable_zero h)
  | succ levels ih =>
      cases v with
      | list items =>
          rw [bytes_list]
          refine hsides (by decide) (by decide) fun hmem => ?_
          rcases mem_separated hmem with hmem | ⟨v, hv, hmem⟩
          · exact hcomma hmem
          · exact ih (h v hv) hmem
      | object members =>
          rw [bytes_object]
          refine hsides (by decide) (by decide) fun hmem => ?_
          rcases mem_separated hmem with hmem | ⟨m, hm, hmem⟩
          · exact hcomma hmem
          · rcases List.mem_append.1 hmem with hmem | hmem
            · exact newline_notMem_renderText m.1 hmem
            · rcases List.mem_cons.1 hmem with hmem | hmem
              · exact absurd hmem (by decide)
              · exact ih (h m hm) hmem
      | _ => exact newline_notMem_scalar h rfl

/-- The compact text of a value is one line. -/
theorem newline_notMem_render {levels : Nat} {v : Json} (h : v.IsReadable levels) :
    '\n' ∉ v.render.toList :=
  fun hmem => newline_notMem_bytes h (newline_mem_encode.2 hmem)

end SymbolIndex.Json
