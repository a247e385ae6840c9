-- SUMMARY: Typed readers take what spells their values, records with members in any order.
import Mathlib.Data.List.Nodup
import SymbolIndex.Json.Record
import SymbolIndex.Proofs.Json.Skipping

/-!
# Records read from their members

Each typed reader takes any spelling of a value of its type. A record reads its members
one after the other: a member that no field is named after is passed over, any other one
changes the field. Changes of different fields commute, so the order of the members does
not matter.
-/

namespace SymbolIndex.Json

/-- The reader takes `x` off the text, whatever comes behind it, up to blanks at its end. -/
def Reads (reader : Reader α) (x : α) (text : Bytes) : Prop :=
  ∃ after, AreBlanks after ∧ ∀ rest, EndsInteger rest →
    reader (text ++ rest) = .ok (x, after ++ rest)

theorem Reads.map {reader : Reader α} {x : α} {text : Bytes} (h : Reads reader x text)
    (f : α → β) : Reads (fun bs => (reader bs).map fun (x, rest) => (f x, rest)) (f x) text := by
  obtain ⟨after, hafter, hread⟩ := h
  refine ⟨after, hafter, fun rest hrest => ?_⟩
  dsimp only
  rw [hread rest hrest]
  rfl

/-- Blanks in front of a value are no part of it. -/
def IgnoresBlanks (reader : Reader α) : Prop := ∀ bs, reader (skipBlanks bs) = reader bs

/-- Behind the blanks in front, the reader takes the text up to the blanks at its end. -/
theorem reads_of_padded {reader : Reader α} {x : α} {kind : Bytes → Prop} {text : Bytes}
    (h : Padded kind text) (hreader : IgnoresBlanks reader)
    (hcore : ∀ core, kind core → ∀ rest, EndsInteger rest → reader (core ++ rest) = .ok (x, rest)) :
    Reads reader x text := by
  obtain ⟨before, core, after, hbefore, hkind, hafter, rfl⟩ := h
  refine ⟨after, hafter, fun rest hrest => ?_⟩
  rw [← hreader, List.append_assoc, List.append_assoc, skipBlanks_append hbefore, hreader]
  exact hcore core hkind _ (hrest.append hafter)

/-! ## Strings -/

theorem encode_singleton (c : Char) : Utf8.encode (.singleton c) = String.utf8EncodeChar c := by
  rw [Utf8.encode_eq]
  simp

theorem isLeadSurrogate_iff {n : Nat} : isLeadSurrogate n = true ↔ 0xD800 ≤ n ∧ n ≤ 0xDBFF := by
  simp [isLeadSurrogate]

theorem isTrailSurrogate_iff {n : Nat} : isTrailSurrogate n = true ↔ 0xDC00 ≤ n ∧ n ≤ 0xDFFF := by
  simp [isTrailSurrogate]

theorem SpellsEscape.escape {c e : Bytes} (h : SpellsEscape c e) (rest : Bytes) :
    escape (e ++ rest) = .ok (c, rest) := by
  have hshort : shortEscape? (byte 'u') = none := by decide
  cases h with
  | letter hl => simp [Json.escape, shortEscape?_of_mem hl]
  | @unicode n digits hd hn =>
      have htrail : ¬isTrailSurrogate n = true := by
        rw [isTrailSurrogate_iff]
        omega
      have hlead : ¬isLeadSurrogate n = true := by
        rw [isLeadSurrogate_iff]
        omega
      simp [Json.escape, hshort, unicodeEscape, hd.fourHex, htrail, hlead, encode_singleton, bind,
        Except.bind]
  | @pair lead trail digits digits' hd hrange hd' hrange' =>
      have hnot : ¬isTrailSurrogate lead = true := by
        rw [isTrailSurrogate_iff]
        omega
      simp [Json.escape, hshort, unicodeEscape, hd.fourHex, hd'.fourHex, hnot,
        isLeadSurrogate_iff.2 hrange, isTrailSurrogate_iff.2 hrange', encode_singleton, bind,
        Except.bind]

theorem stringBytes_escaped {c e bs content rest : Bytes} {fuel : Nat}
    (he : escape e = .ok (c, bs)) (h : stringBytes fuel bs = .ok (content, rest)) :
    stringBytes (fuel + 1) (byte '\\' :: e) = .ok (c ++ content, rest) := by
  have hslash : isPlain (byte '\\') = false := by decide
  have hquote : byte '\\' ≠ byte '"' := by decide
  rw [stringBytes, List.takeWhile_cons, List.dropWhile_cons, hslash]
  simp [hquote, he, h, bind, Except.bind]

theorem stringBytes_append_quote {content body : Bytes} (h : SpellsContent content body)
    {fuel : Nat} (hfuel : body.length < fuel) (rest : Bytes) :
    stringBytes fuel (body ++ byte '"' :: rest) = .ok (content, rest) := by
  induction h generalizing fuel with
  | nil =>
      obtain ⟨fuel, rfl⟩ := Nat.exists_eq_add_of_lt hfuel
      rfl
  | @plain b content text hb _ ih =>
      rw [List.length_cons] at hfuel
      have hplain : ∀ b' ∈ [b], isPlain b' = true := by simpa using hb
      exact stringBytes_append hplain (ih (by omega))
  | @escaped c e content text he _ ih =>
      simp only [List.cons_append, List.length_cons, List.length_append] at hfuel
      cases fuel with
      | zero => exact absurd hfuel (Nat.not_lt_zero _)
      | succ fuel =>
          rw [List.cons_append, List.cons_append, List.append_assoc]
          exact stringBytes_escaped (he.escape _) (ih (by omega))

theorem readString_append {content body : Bytes} (h : SpellsContent content body) (rest : Bytes) :
    readString (body ++ byte '"' :: rest) = .ok (Utf8.decode content, rest) := by
  have hfuel : body.length < (body ++ byte '"' :: rest).length + 1 := by
    rw [List.length_append]
    omega
  rw [readString, stringBytes_append_quote h hfuel]
  rfl

theorem ignoresBlanks_textAs (expected : String) : IgnoresBlanks (textAs expected) := by
  intro bs
  rw [textAs, skipBlanks_skipBlanks, textAs]

theorem reads_textAs {s : String} {text : Bytes} (h : SpellsText s text) (expected : String) :
    Reads (textAs expected) s text := by
  refine reads_of_padded h (ignoresBlanks_textAs expected) ?_
  rintro _ ⟨content, body, hbody, rfl, rfl⟩ rest -
  have hquote : isBlank (byte '"') = false := by decide
  have hread := readString_append hbody rest
  rw [quoted, List.cons_append, List.cons_append, List.append_assoc, textAs, skipBlanks_cons hquote]
  simpa using hread

theorem SpellsText.opens {s : String} {text : Bytes} (h : SpellsText s text) {closing : UInt8}
    (hclosing : byte '"' ≠ closing) : Opens closing text := by
  obtain ⟨before, _, after, hbefore, ⟨content, body, -, -, rfl⟩, -, rfl⟩ := h
  exact ⟨before, byte '"', body ++ byte '"' :: after, hbefore, by decide, hclosing,
    by simp [quoted]⟩

/-! ## Numbers -/

theorem ignoresBlanks_unsigned (limit : Nat) (expected : String) :
    IgnoresBlanks (unsigned limit expected) := by
  intro bs
  rw [unsigned, skipBlanks_skipBlanks, unsigned]

theorem reads_unsigned {n limit : Nat} {text : Bytes} (h : SpellsNat n text) (hn : n ≤ limit)
    (hlimit : limit ≤ wordLimit) (expected : String) :
    Reads (unsigned limit expected) n text := by
  refine reads_of_padded h (ignoresBlanks_unsigned limit expected) ?_
  rintro _ rfl rest hrest
  obtain ⟨d, ds, hds, hd⟩ := numeral_head n
  have hminus : d ≠ byte '-' := ne_of_isDigit hd (by decide)
  have hread : readNumber true (d :: (ds ++ rest)) = .ok (.integer n, rest) := by
    have h := readNumber_toDigits true (Nat.le_trans hn hlimit) hrest
    rwa [← numeral, hds] at h
  have hbounds : (0 : Int) ≤ n ∧ (n : Int) ≤ limit := by omega
  rw [hds, List.cons_append, unsigned, skipBlanks_cons (isBlank_of_isDigit hd)]
  simp [hminus, hd, hread, bounded, hn, bind, Except.bind]

/-! ## Nothing or a value -/

section

variable {α : Type} {reader : Reader α} {x : α} {text : Bytes}

/-- A value that does not begin as `null` does is read as one. -/
theorem reads_optional {spells : α → Bytes → Prop} {o : Option α} (h : SpellsOption spells o text)
    (hreader : IgnoresBlanks reader)
    (hspells : ∀ x bs, spells x bs → Reads reader x bs ∧ Opens (byte 'n') bs) :
    Reads (optional reader) o text := by
  cases o with
  | none =>
      refine reads_of_padded h (fun bs => by rw [optional, skipBlanks_skipBlanks, optional]) ?_
      rintro _ rfl rest -
      rfl
  | some x =>
      obtain ⟨⟨after, hafter, hread⟩, hopens⟩ := hspells x text h
      refine ⟨after, hafter, fun rest hrest => ?_⟩
      obtain ⟨b, tail, hskip, hb⟩ := hopens.skipBlanks_append rest
      have hvalue : reader (b :: tail) = .ok (x, after ++ rest) := by
        rw [← hskip, hreader, hread rest hrest]
      simp [optional, hskip, hb, hvalue, Except.map]

/-! ## Lists -/

variable {items : List (α × Bytes)} {gap : Bytes}

theorem nextItem_comma_append {before text : Bytes} (h : Opens (byte ']') text)
    (hbefore : AreBlanks before) (rest : Bytes) :
    nextItem false (before ++ byte ',' :: (text ++ rest)) =
      .ok (some (skipBlanks (text ++ rest)), skipBlanks (text ++ rest)) := by
  obtain ⟨b, tail, hskip, hb⟩ := h.skipBlanks_append rest
  have hcomma : isBlank (byte ',') = false ∧ byte ',' ≠ byte ']' := by decide
  rw [nextItem, skipBlanks_append hbefore, skipBlanks_cons hcomma.1]
  simp [hcomma, hskip, hb]

theorem nextItem_first_append {text : Bytes} (h : Opens (byte ']') text) (rest : Bytes) :
    nextItem true (text ++ rest) =
      .ok (some (skipBlanks (text ++ rest)), skipBlanks (text ++ rest)) := by
  obtain ⟨b, tail, hskip, hb⟩ := h.skipBlanks_append rest
  simp [nextItem, hskip, hb]

theorem nextItem_closing (first : Bool) {before : Bytes} (hbefore : AreBlanks before)
    (rest : Bytes) : nextItem first (before ++ byte ']' :: rest) = .ok (none, rest) := by
  have hend : isBlank (byte ']') = false := by decide
  rw [nextItem, skipBlanks_append hbefore, skipBlanks_cons hend]
  simp

/-- One item is read, and then the others. -/
theorem itemsFrom_cons {first : Bool} {bs rest end' : Bytes} {xs : List α} {fuel : Nat}
    (hnext : nextItem first bs = .ok (some (skipBlanks (text ++ rest)), skipBlanks (text ++ rest)))
    (hreader : IgnoresBlanks reader) {left : Bytes} (hread : reader (text ++ rest) = .ok (x, left))
    (hrest : itemsFrom reader fuel false left = .ok (xs, end')) :
    itemsFrom reader (fuel + 1) first bs = .ok (x :: xs, end') := by
  have hitem := (hreader (text ++ rest)).trans hread
  simp [itemsFrom, hnext, hitem, hrest, bind, Except.bind]

/-- The items that are left, each behind its comma. -/
theorem itemsFrom_append (hreader : IgnoresBlanks reader)
    (h : ∀ item ∈ items, Reads reader item.1 item.2 ∧ Opens (byte ']') item.2)
    (hgap : AreBlanks gap) {fuel : Nat} (hfuel : items.length < fuel) {before : Bytes}
    (hbefore : AreBlanks before) (rest : Bytes) :
    itemsFrom reader fuel false
        (before ++ (afterCommas Prod.snd items ++ (gap ++ byte ']' :: rest))) =
      .ok (items.map Prod.fst, rest) := by
  induction items generalizing fuel before with
  | nil =>
      obtain ⟨fuel, rfl⟩ := Nat.exists_eq_add_of_lt hfuel
      have hnext := nextItem_closing false (hbefore.append hgap) rest
      rw [List.append_assoc] at hnext
      simp [itemsFrom, afterCommas, hnext, bind, Except.bind]
  | cons item items ih =>
      rw [List.length_cons] at hfuel
      cases fuel with
      | zero => exact absurd hfuel (Nat.not_lt_zero _)
      | succ fuel =>
          obtain ⟨⟨after, hafter, hread⟩, hopens⟩ := h item List.mem_cons_self
          have hends := endsInteger_afterCommas Prod.snd items hgap .list rest
          have hrest := ih (fun i hi => h i (List.mem_cons_of_mem _ hi))
            (Nat.lt_of_succ_lt_succ hfuel) hafter
          rw [afterCommas_cons, List.cons_append, List.cons_append, List.append_assoc]
          exact itemsFrom_cons (nextItem_comma_append hopens hbefore _) hreader (hread _ hends)
            hrest

theorem ignoresBlanks_sequence (reader : Reader α) : IgnoresBlanks (sequence reader) := by
  intro bs
  rw [sequence, skipBlanks_skipBlanks, sequence]

theorem reads_sequence {spells : α → Bytes → Prop} {xs : List α} (h : SpellsList spells xs text)
    (hreader : IgnoresBlanks reader)
    (hspells : ∀ x bs, spells x bs → Reads reader x bs ∧ Opens (byte ']') bs) :
    Reads (sequence reader) xs text := by
  refine reads_of_padded h (ignoresBlanks_sequence reader) ?_
  rintro _ ⟨items, gap, hitems, hgap, rfl, rfl⟩ rest -
  have hbracket : isBlank (byte '[') = false := by decide
  have hread : ∀ item ∈ items, Reads reader item.1 item.2 ∧ Opens (byte ']') item.2 :=
    fun item hitem => hspells _ _ (hitems item hitem)
  have hlen : items.length ≤ (separated Prod.snd items).length :=
    length_le_separated fun item hitem => List.length_pos_iff.1 (hread item hitem).2.length_pos
  rw [List.cons_append, List.cons_append, sequence, skipBlanks_cons hbracket]
  simp only [if_true, List.append_assoc, List.singleton_append]
  rw [readItems]
  have hfuel : items.length <
      (separated Prod.snd items ++ (gap ++ byte ']' :: rest)).length + 1 := by
    rw [List.length_append]
    omega
  generalize (separated Prod.snd items ++ (gap ++ byte ']' :: rest)).length = fuel at hfuel
  cases items with
  | nil => simp [itemsFrom, separated, nextItem_closing true hgap rest, bind, Except.bind]
  | cons item items =>
      obtain ⟨⟨after, hafter, hitem⟩, hopens⟩ := hread item List.mem_cons_self
      have hends := endsInteger_afterCommas Prod.snd items hgap .list rest
      have hrest := itemsFrom_append hreader (fun i hi => hread i (List.mem_cons_of_mem _ hi)) hgap
        (Nat.lt_of_succ_lt_succ hfuel) hafter rest
      rw [separated, List.append_assoc]
      exact itemsFrom_cons (nextItem_first_append hopens _) hreader (hitem _ hends) hrest

end

/-! ## Keys -/

section

variable {name : String} {key : Bytes}

/-- The key and the blanks in front of it are read; those behind it are left. -/
theorem SpellsText.readKey (h : SpellsText name key) :
    ∃ after, AreBlanks after ∧ ∀ rest, ∃ tail,
        skipBlanks (key ++ rest) = byte '"' :: tail ∧
          readString tail = .ok (name, after ++ rest) := by
  obtain ⟨before, _, after, hbefore, ⟨content, body, hbody, rfl, rfl⟩, hafter, rfl⟩ := h
  have hquote : isBlank (byte '"') = false := by decide
  refine ⟨after, hafter, fun rest => ⟨body ++ byte '"' :: (after ++ rest), ?_,
    readString_append hbody _⟩⟩
  rw [List.append_assoc, List.append_assoc, skipBlanks_append hbefore, quoted, List.cons_append,
    List.cons_append, skipBlanks_cons hquote, List.append_assoc, List.singleton_append]

theorem SpellsText.nextKey_first (h : SpellsText name key) :
    ∃ after, AreBlanks after ∧ ∀ rest,
      nextKey true (key ++ rest) = .ok (some name, after ++ rest) := by
  obtain ⟨after, hafter, hread⟩ := h.readKey
  refine ⟨after, hafter, fun rest => ?_⟩
  obtain ⟨tail, hskip, hname⟩ := hread rest
  have hquote : byte '"' ≠ byte '\x7d' := by decide
  simp [nextKey, hskip, hquote, hname, bind, Except.bind]

theorem SpellsText.nextKey_comma (h : SpellsText name key) :
    ∃ after, AreBlanks after ∧ ∀ before rest, AreBlanks before →
      nextKey false (before ++ byte ',' :: (key ++ rest)) = .ok (some name, after ++ rest) := by
  obtain ⟨after, hafter, hread⟩ := h.readKey
  refine ⟨after, hafter, fun before rest hbefore => ?_⟩
  obtain ⟨tail, hskip, hname⟩ := hread rest
  have hcomma : isBlank (byte ',') = false ∧ byte ',' ≠ byte '\x7d' := by decide
  rw [nextKey, skipBlanks_append hbefore, skipBlanks_cons hcomma.1]
  simp [hcomma, hskip, hname, bind, Except.bind]

theorem nextKey_closing (first : Bool) {before : Bytes} (hbefore : AreBlanks before)
    (rest : Bytes) : nextKey first (before ++ byte '\x7d' :: rest) = .ok (none, rest) := by
  have hend : isBlank (byte '\x7d') = false := by decide
  rw [nextKey, skipBlanks_append hbefore, skipBlanks_cons hend]
  simp

theorem colon_append {before : Bytes} (hbefore : AreBlanks before) (rest : Bytes) :
    colon (before ++ byte ':' :: rest) = .ok rest := by
  have hcolon : isBlank (byte ':') = false := by decide
  rw [colon, skipBlanks_append hbefore, skipBlanks_cons hcolon]
  simp

end

/-! ## Members -/

section

variable {σ : Type} {fields : List (RecordField σ)}

/-- What a member does to a record: its field reads the change, or nothing happens. -/
def Changes (fields : List (RecordField σ)) (m : Member) (change : σ → σ) : Prop :=
  match fields.find? (·.name = m.name) with
  | none => IsValue m.value ∧ change = id
  | some field => Reads field.read change m.value

variable {change : String → σ → σ} {ms : List Member} {gap : Bytes}

/-- One member is read, and then the others, which have other names. -/
theorem fieldsFrom_cons {first : Bool} {seen : List String} {bs rest : Bytes} {m : Member}
    {fuel : Nat} {s : σ} {read : σ × Bytes}
    (hkey : nextKey first bs = .ok (some m.name, gap ++ byte ':' :: (m.value ++ rest)))
    (hgap : AreBlanks gap) (hnodup : ((m :: ms).map Member.name).Nodup)
    (hseen : ∀ m' ∈ m :: ms, m'.name ∉ seen) (hchange : Changes fields m (change m.name))
    (hends : EndsInteger rest)
    (hrest : ∀ seen after, (∀ m' ∈ ms, m'.name ∉ seen) → AreBlanks after →
      fieldsFrom fields fuel false seen (change m.name s) (after ++ rest) = .ok read) :
    fieldsFrom fields (fuel + 1) first seen s bs = .ok read := by
  obtain ⟨hm, hms⟩ := List.forall_mem_cons.1 hseen
  have hcolon := colon_append hgap (m.value ++ rest)
  unfold Changes at hchange
  cases hfind : fields.find? (·.name = m.name) with
  | none =>
      rw [hfind] at hchange
      obtain ⟨hvalue, hid⟩ := hchange
      obtain ⟨after, hafter, hskip⟩ := skipValue_append hvalue
      have hlater := hrest seen after hms hafter
      rw [hid, id_eq] at hlater
      rw [fieldsFrom, hkey]
      simp [hfind, hcolon, hskip rest hends, hlater, bind, Except.bind]
  | some field =>
      rw [hfind] at hchange
      obtain ⟨after, hafter, hread⟩ := hchange
      have hfresh : ∀ m' ∈ ms, m'.name ∉ m.name :: seen := by
        intro m' hm' hmem
        rcases List.mem_cons.1 hmem with heq | hmem
        · exact (List.nodup_cons.1 (List.map_cons ▸ hnodup)).1 (heq ▸ List.mem_map_of_mem hm')
        · exact hms m' hm' hmem
      have hlater := hrest (m.name :: seen) after hfresh hafter
      rw [fieldsFrom, hkey]
      simp [hfind, hm, hcolon, hread rest hends, hlater, bind, Except.bind]

/-- The members that are left, each behind its comma. -/
theorem fieldsFrom_append (hms : ∀ m ∈ ms, Changes fields m (change m.name))
    (hnodup : (ms.map Member.name).Nodup) (hgap : AreBlanks gap) {fuel : Nat}
    (hfuel : ms.length < fuel) {seen : List String} (hseen : ∀ m ∈ ms, m.name ∉ seen)
    {before : Bytes} (hbefore : AreBlanks before) (rest : Bytes) (s : σ) :
    fieldsFrom fields fuel false seen s
        (before ++ (afterCommas Member.bytes ms ++ (gap ++ byte '\x7d' :: rest))) =
      .ok ((ms.map Member.name).foldl (fun s name => change name s) s, rest) := by
  induction ms generalizing fuel seen before s with
  | nil =>
      obtain ⟨fuel, rfl⟩ := Nat.exists_eq_add_of_lt hfuel
      have hnext := nextKey_closing false (hbefore.append hgap) rest
      rw [List.append_assoc] at hnext
      simp [fieldsFrom, afterCommas, hnext, bind, Except.bind]
  | cons m ms ih =>
      rw [List.length_cons] at hfuel
      cases fuel with
      | zero => exact absurd hfuel (Nat.not_lt_zero _)
      | succ fuel =>
          obtain ⟨hm, hms⟩ := List.forall_mem_cons.1 hms
          have hlater := (List.nodup_cons.1 (List.map_cons ▸ hnodup)).2
          obtain ⟨gap', hgap', hkey⟩ := m.spelled.nextKey_comma
          have hends := endsInteger_afterCommas Member.bytes ms hgap .object rest
          rw [afterCommas_cons, Member.bytes, List.cons_append, List.cons_append, List.append_assoc,
            List.append_assoc, List.cons_append]
          exact fieldsFrom_cons (hkey before _ hbefore) hgap' hnodup hseen hm hends
            fun _ _ hseen' hafter =>
              ih hms hlater (Nat.lt_of_succ_lt_succ hfuel) hseen' hafter (change m.name s)

/-- An object is read from its members. -/
theorem reads_object {text : Bytes} {members : List (String × Bytes)} {start : σ}
    (h : SpellsObject members text) (hnodup : (members.map Prod.fst).Nodup) (expected : String)
    (hms : ∀ m : Member, (m.name, m.value) ∈ members → Changes fields m (change m.name)) :
    Reads (record expected fields start)
      ((members.map Prod.fst).foldl (fun s name => change name s) start) text := by
  have hreader : IgnoresBlanks (record expected fields start) := by
    intro bs
    rw [record, skipBlanks_skipBlanks, record]
  refine reads_of_padded h hreader ?_
  rintro _ ⟨ms, gap, hgap, rfl, rfl⟩ rest -
  have hbrace : isBlank (byte '\x7b') = false := by decide
  have hchanges : ∀ m ∈ ms, Changes fields m (change m.name) :=
    fun m hm => hms m (List.mem_map_of_mem hm)
  have hlen : ms.length ≤ (separated Member.bytes ms).length :=
    length_le_separated fun m _ => by simp [Member.bytes]
  have hnames : (ms.map fun m => (m.name, m.value)).map Prod.fst = ms.map Member.name := by
    rw [List.map_map]
    rfl
  rw [hnames] at hnodup ⊢
  rw [List.cons_append, List.cons_append, record, skipBlanks_cons hbrace]
  simp only [if_true, List.append_assoc, List.singleton_append]
  have hfuel : ms.length <
      (separated Member.bytes ms ++ (gap ++ byte '\x7d' :: rest)).length + 1 := by
    rw [List.length_append]
    omega
  generalize (separated Member.bytes ms ++ (gap ++ byte '\x7d' :: rest)).length = fuel at hfuel
  cases ms with
  | nil => simp [fieldsFrom, separated, nextKey_closing true hgap rest, bind, Except.bind]
  | cons m ms =>
      obtain ⟨hm, hms⟩ := List.forall_mem_cons.1 hchanges
      have hlater := (List.nodup_cons.1 (List.map_cons ▸ hnodup)).2
      obtain ⟨gap', hgap', hkey⟩ := m.spelled.nextKey_first
      have hends := endsInteger_afterCommas Member.bytes ms hgap .object rest
      rw [separated, Member.bytes, List.append_assoc, List.append_assoc, List.cons_append]
      exact fieldsFrom_cons (hkey _) hgap' hnodup (fun _ _ => List.not_mem_nil) hm hends
        fun _ _ hseen hafter => fieldsFrom_append hms hlater hgap (Nat.lt_of_succ_lt_succ hfuel)
          hseen hafter rest (change m.name start)

end

/-! ## Records -/

section

variable {σ : Type} {members : List (String × Bytes)}

/-- What the members do to a record through one of its fields. -/
structure IsChange (members : List (String × Bytes)) (field : RecordField σ) (change : σ → σ) :
    Prop where
  reads : ∀ value, (field.name, value) ∈ members → Reads field.read change value
  missing : field.name ∉ members.map Prod.fst → change = id

/-- A field that is set to the value that the members give, or else keeps its own. -/
theorem Gives.isChange {spells : α → Bytes → Prop} {name : String} {o : Option α}
    (h : Gives members name spells o) (hnodup : (members.map Prod.fst).Nodup) {reader : Reader α}
    (hreads : ∀ x value, spells x value → Reads reader x value) {update : σ → α → σ}
    {get : σ → α} (hget : ∀ s, update s (get s) = s) :
    IsChange members (.set name reader update) fun s => update s (o.getD (get s)) := by
  cases o with
  | none =>
      exact ⟨fun value hvalue => absurd (List.mem_map_of_mem hvalue) h, fun _ => funext hget⟩
  | some x =>
      obtain ⟨value, hvalue, hspells⟩ := h
      refine ⟨fun value' hvalue' => ?_,
        fun hmissing => absurd (List.mem_map_of_mem hvalue) hmissing⟩
      obtain rfl : value' = value :=
        congrArg Prod.snd (List.inj_on_of_nodup_map hnodup hvalue' hvalue rfl)
      exact (hreads x value' hspells).map fun x s => update s x

/-- The change of the field of that name. -/
def changeOf (changes : List (RecordField σ × (σ → σ))) (name : String) : σ → σ :=
  ((changes.find? (·.1.name = name)).map Prod.snd).getD id

variable {changes : List (RecordField σ × (σ → σ))}

/-- The change of a name is that of a field, or there is none. -/
theorem changeOf_cases (changes : List (RecordField σ × (σ → σ))) (name : String) :
    changeOf changes name = id ∨ ∃ p ∈ changes, changeOf changes name = p.2 := by
  cases hfind : changes.find? (·.1.name = name) with
  | none => exact .inl (by simp [changeOf, hfind])
  | some p => exact .inr ⟨p, List.mem_of_find?_eq_some hfind, by simp [changeOf, hfind]⟩

theorem changeOf_comm (hcomm : ∀ p ∈ changes, ∀ q ∈ changes, ∀ s, p.2 (q.2 s) = q.2 (p.2 s))
    (name name' : String) (s : σ) :
    changeOf changes name (changeOf changes name' s) =
      changeOf changes name' (changeOf changes name s) := by
  rcases changeOf_cases changes name with h | ⟨p, hp, h⟩
  · rw [h]
    rfl
  · rcases changeOf_cases changes name' with h' | ⟨q, hq, h'⟩
    · rw [h']
      rfl
    · rw [h, h', hcomm p hp q hq]

/-- In any order, the named fields change as all fields do: the others keep their values. -/
theorem foldl_changeOf {names : List String} (hnames : names.Nodup)
    (hfields : (changes.map (·.1.name)).Nodup)
    (hmissing : ∀ p ∈ changes, p.1.name ∉ names → p.2 = id)
    (hcomm : ∀ p ∈ changes, ∀ q ∈ changes, ∀ s, p.2 (q.2 s) = q.2 (p.2 s)) (start : σ) :
    names.foldl (fun s name => changeOf changes name s) start =
      changes.foldl (fun s p => p.2 s) start := by
  induction changes generalizing names start with
  | nil => exact List.foldl_fixed' (fun _ => rfl) names
  | cons p changes ih =>
      obtain ⟨hfresh, hfields⟩ := List.nodup_cons.1 (List.map_cons ▸ hfields)
      -- The change of this field comes first.
      have hfirst : names.foldl (fun s name => changeOf (p :: changes) name s) start =
          (names.erase p.1.name).foldl (fun s name => changeOf (p :: changes) name s)
            (p.2 start) := by
        have hown : changeOf (p :: changes) p.1.name = p.2 := by simp [changeOf]
        by_cases hmem : p.1.name ∈ names
        · rw [← hown]
          exact (List.perm_cons_erase hmem).foldl_eq'
            (fun name _ name' _ s => changeOf_comm hcomm name' name s) start
        · rw [List.erase_of_not_mem hmem, hmissing p List.mem_cons_self hmem]
          rfl
      have hothers : ∀ s, ∀ name ∈ names.erase p.1.name,
          changeOf (p :: changes) name s = changeOf changes name s := by
        intro s name hname
        have hne : p.1.name ≠ name := ((hnames.mem_erase_iff).1 hname).1.symm
        simp [changeOf, hne]
      rw [hfirst, List.foldl_cons, List.foldl_ext _ _ _ hothers]
      refine ih (hnames.erase _) hfields (fun q hq hq' => ?_)
        (fun q hq r hr => hcomm q (List.mem_cons_of_mem _ hq) r (List.mem_cons_of_mem _ hr)) _
      refine hmissing q (List.mem_cons_of_mem _ hq) fun hmem => hq' ?_
      have hne : q.1.name ≠ p.1.name := fun heq => hfresh (heq ▸ List.mem_map_of_mem hq)
      exact (List.mem_erase_of_ne hne).2 hmem

/-- A record is read with the changes of its fields, in any order of the members. -/
theorem reads_record {text : Bytes} {names : List String}
    (hnames : changes.map (·.1.name) = names) (hfields : names.Nodup)
    (h : SpellsObject members text) (hnodup : (members.map Prod.fst).Nodup)
    (hunknown : ∀ m ∈ members, m.1 ∉ names → IsValue m.2)
    (hchanges : ∀ p ∈ changes, IsChange members p.1 p.2)
    (hcomm : ∀ p ∈ changes, ∀ q ∈ changes, ∀ s, p.2 (q.2 s) = q.2 (p.2 s)) (expected : String)
    (start : σ) :
    Reads (record expected (changes.map Prod.fst) start)
      (changes.foldl (fun s p => p.2 s) start) text := by
  subst hnames
  have hmissing : ∀ p ∈ changes, p.1.name ∉ members.map Prod.fst → p.2 = id :=
    fun p hp => (hchanges p hp).missing
  rw [← foldl_changeOf hnodup hfields hmissing hcomm]
  refine reads_object h hnodup expected fun m hm => ?_
  rw [Changes, List.find?_map]
  cases hfind : changes.find? ((fun field => decide (field.name = m.name)) ∘ Prod.fst) with
  | none =>
      refine ⟨hunknown _ hm fun hmem => ?_, ?_⟩
      · obtain ⟨p, hp, hname⟩ := List.mem_map.1 hmem
        simpa [hname] using List.find?_eq_none.1 hfind p hp
      · have hnone : changes.find? (fun p => decide (p.1.name = m.name)) = none := hfind
        simp [changeOf, hnone]
  | some p =>
      have hsome : changes.find? (fun p => decide (p.1.name = m.name)) = some p := hfind
      have hname : p.1.name = m.name := by simpa using List.find?_some hfind
      have hchange : changeOf changes m.name = p.2 := by simp [changeOf, hsome]
      rw [hchange]
      exact (hchanges p (List.mem_of_find?_eq_some hfind)).reads _ (hname ▸ hm)

end

/-- A whole text is read as what it spells. -/
theorem Reads.decode {reader : Reader α} {x : α} {text : Bytes} (h : Reads reader x text) :
    Json.decode reader text = .ok x := by
  obtain ⟨after, hafter, hread⟩ := h
  have hall := hread [] fun b hb => absurd hb (by simp)
  have hend : skipBlanks after = [] := List.dropWhile_eq_nil_iff.2 hafter
  rw [List.append_nil, List.append_nil] at hall
  rw [Json.decode, hall]
  simp [hend]

end SymbolIndex.Json
