-- SUMMARY: What the store in memory reads off a filter, and when that is the subsystem asked for.
import SymbolIndex.Store.Memory

/-!
# Filters on the subsystem

A request joins its conditions with a separator, and the store in memory splits
the filter there again. Nothing escapes a separator inside a name, so that the
store may read other conditions than were written.
-/

namespace SymbolIndex

namespace MemoryStore

/-! ## Pieces -/

section

variable {α : Type} [DecidableEq α] {sep : List α}

theorem stripFront?_eq_none_iff {xs : List α} : Text.stripFront? sep xs = none ↔ ¬ sep <+: xs := by
  rw [Option.eq_none_iff_forall_ne_some]
  constructor
  · rintro h ⟨rest, rfl⟩
    exact h rest (Text.stripFront?_eq_some_iff.2 rfl)
  · intro h rest hrest
    exact h ⟨rest, (Text.stripFront?_eq_some_iff.1 hrest).symm⟩

/-- Fuel for every element is enough. -/
theorem splitOnList_congr (hsep : sep ≠ []) {xs : List α} {fuel fuel' : Nat}
    (h : xs.length ≤ fuel) (h' : xs.length ≤ fuel') :
    splitOnList sep fuel xs = splitOnList sep fuel' xs := by
  induction fuel generalizing xs fuel' with
  | zero =>
      obtain rfl : xs = [] := List.length_eq_zero_iff.1 (Nat.le_zero.1 h)
      cases fuel' <;> rfl
  | succ fuel ih =>
      cases xs with
      | nil => cases fuel' <;> rfl
      | cons x xs =>
          cases fuel' with
          | zero => exact absurd h' (Nat.not_succ_le_zero _)
          | succ fuel' =>
              rw [List.length_cons] at h h'
              unfold splitOnList
              cases hstrip : Text.stripFront? sep (x :: xs) with
              | some rest =>
                  have hrest := congrArg List.length (Text.stripFront?_eq_some_iff.1 hstrip)
                  have hpos := List.length_pos_iff.2 hsep
                  rw [List.length_cons, List.length_append] at hrest
                  have hparts : splitOnList sep fuel rest = splitOnList sep fuel' rest :=
                    ih (by omega) (by omega)
                  simp only [hparts]
              | none =>
                  have hparts : splitOnList sep fuel xs = splitOnList sep fuel' xs :=
                    ih (by omega) (by omega)
                  simp only [hparts]

/-- The parts of a list between the separators. -/
def pieces (sep xs : List α) : List (List α) := splitOnList sep xs.length xs

theorem pieces_append_sep (hsep : sep ≠ []) (rest : List α) :
    pieces sep (sep ++ rest) = [] :: pieces sep rest := by
  cases hxs : sep ++ rest with
  | nil => exact absurd (List.append_eq_nil_iff.1 hxs).1 hsep
  | cons x xs =>
      have hstrip : Text.stripFront? sep (x :: xs) = some rest :=
        Text.stripFront?_eq_some_iff.2 hxs.symm
      have hlen := congrArg List.length hxs
      have hpos := List.length_pos_iff.2 hsep
      rw [List.length_cons, List.length_append] at hlen
      rw [pieces, List.length_cons, splitOnList, hstrip]
      have hparts : splitOnList sep xs.length rest = splitOnList sep rest.length rest :=
        splitOnList_congr hsep (by omega) (Nat.le_refl _)
      simp only [pieces, hparts]

theorem pieces_cons_of_not_isPrefixOf {x : α} {xs : List α} (h : ¬ sep <+: x :: xs) :
    pieces sep (x :: xs) =
      match pieces sep xs with
      | [] => [[x]]
      | part :: parts => (x :: part) :: parts := by
  rw [pieces, List.length_cons, splitOnList, stripFront?_eq_none_iff.2 h]
  rfl

theorem pieces_ne_nil (hsep : sep ≠ []) (xs : List α) : pieces sep xs ≠ [] := by
  cases xs with
  | nil => exact List.cons_ne_nil _ _
  | cons x xs =>
      by_cases hprefix : sep <+: x :: xs
      · obtain ⟨rest, hrest⟩ := hprefix
        rw [← hrest, pieces_append_sep hsep]
        exact List.cons_ne_nil _ _
      · rw [pieces_cons_of_not_isPrefixOf hprefix]
        split <;> exact List.cons_ne_nil _ _

/-- A list without the separator is its only part. -/
theorem pieces_of_not_infix {xs : List α} (h : ¬ sep <:+: xs) : pieces sep xs = [xs] := by
  induction xs with
  | nil => rfl
  | cons x xs ih =>
      rw [List.infix_cons_iff, not_or] at h
      rw [pieces_cons_of_not_isPrefixOf h.1, ih h.2]

/-- The separator behind a list counts unless one begins before it. -/
theorem pieces_append {xs : List α} (hsep : sep ≠ []) (h : ¬ sep <:+: xs ++ sep.dropLast)
    (rest : List α) : pieces sep (xs ++ (sep ++ rest)) = xs :: pieces sep rest := by
  induction xs with
  | nil => exact pieces_append_sep hsep rest
  | cons x xs ih =>
      rw [List.cons_append, List.infix_cons_iff, not_or] at h
      have hprefix : ¬ sep <+: x :: (xs ++ (sep ++ rest)) := by
        intro hsep'
        have hfront : x :: (xs ++ sep.dropLast) <+: x :: (xs ++ (sep ++ rest)) :=
          List.prefix_cons_inj x |>.2 ((List.prefix_append_right_inj xs).2
            ((List.dropLast_prefix sep).trans (List.prefix_append sep rest)))
        have hlen : sep.length ≤ (x :: (xs ++ sep.dropLast)).length := by
          rw [List.length_cons, List.length_append, List.length_dropLast]
          omega
        exact h.1 (List.prefix_of_prefix_length_le hsep' hfront hlen)
      rw [List.cons_append, pieces_cons_of_not_isPrefixOf hprefix, ih h.2]

/-- No part is longer than the list, and with a separator inside all are shorter. -/
theorem length_of_mem_pieces (hsep : sep ≠ []) {xs part : List α} (hpart : part ∈ pieces sep xs) :
    part.length ≤ xs.length ∧ (sep <:+: xs → part.length < xs.length) := by
  induction hn : xs.length using Nat.strongRecOn generalizing xs part with
  | ind n ih =>
      cases xs with
      | nil =>
          obtain rfl : part = [] := List.mem_singleton.1 hpart
          refine ⟨Nat.zero_le n, fun h => absurd (List.eq_nil_of_infix_nil h) hsep⟩
      | cons x xs =>
          rw [List.length_cons] at hn
          by_cases hprefix : sep <+: x :: xs
          · obtain ⟨rest, hrest⟩ := hprefix
            have hlen := congrArg List.length hrest
            have hpos := List.length_pos_iff.2 hsep
            rw [List.length_append, List.length_cons] at hlen
            rw [← hrest, pieces_append_sep hsep] at hpart
            rcases List.mem_cons.1 hpart with rfl | hpart
            · exact ⟨Nat.zero_le n, fun _ => by rw [List.length_nil]; omega⟩
            · have hle := (ih rest.length (by omega) hpart rfl).1
              exact ⟨by omega, fun _ => by omega⟩
          · rw [pieces_cons_of_not_isPrefixOf hprefix] at hpart
            rw [List.infix_cons_iff, or_iff_right hprefix]
            have hxs : ∀ part ∈ pieces sep xs,
                part.length ≤ xs.length ∧ (sep <:+: xs → part.length < xs.length) :=
              fun part h => ih xs.length (by omega) h rfl
            cases hp : pieces sep xs with
            | nil => exact absurd hp (pieces_ne_nil hsep xs)
            | cons first parts =>
                rw [hp] at hpart hxs
                rcases List.mem_cons.1 hpart with rfl | hpart
                · obtain ⟨hle, hlt⟩ := hxs first List.mem_cons_self
                  rw [List.length_cons]
                  exact ⟨by omega, fun h => by have := hlt h; omega⟩
                · have hle := (hxs part (List.mem_cons_of_mem _ hpart)).1
                  exact ⟨by omega, fun _ => by omega⟩

end

/-! ## Conditions -/

/-- What stands between conditions. -/
def separator : List Char := [' ', '&', '&', ' ']

theorem toList_separator : " && ".toList = separator := rfl

theorem separator_ne_nil : separator ≠ [] := List.cons_ne_nil _ _

/-- What a condition on the subsystem starts with. -/
def subsystemTag : List Char := ['s', 'u', 'b', 's', 'y', 's', 't', 'e', 'm', ':', '=']

theorem toList_subsystemTag : "subsystem:=".toList = subsystemTag := rfl

/-- What a condition on the extension starts with. -/
def extensionTag : List Char := ['e', 'x', 't', 'e', 'n', 's', 'i', 'o', 'n', ':', '=']

theorem toList_extensionTag : "extension:=".toList = extensionTag := rfl

theorem wantedSubsystems_eq (filter : String) :
    wantedSubsystems filter =
      ((pieces separator filter.toList).filterMap (Text.stripFront? subsystemTag)).map
        String.ofList := by
  rw [wantedSubsystems, toList_separator, toList_subsystemTag, pieces]

theorem mem_wantedSubsystems {filter c : String} :
    c ∈ wantedSubsystems filter ↔
      subsystemTag ++ c.toList ∈ pieces separator filter.toList := by
  rw [wantedSubsystems_eq, List.mem_map]
  simp only [List.mem_filterMap, Text.stripFront?_eq_some_iff]
  constructor
  · rintro ⟨cs, ⟨part, hpart, rfl⟩, rfl⟩
    rwa [String.toList_ofList]
  · intro h
    exact ⟨c.toList, ⟨_, h, rfl⟩, String.ofList_toList⟩

end MemoryStore

namespace SearchRequest

open MemoryStore (separator subsystemTag extensionTag pieces)

variable (r : SearchRequest)

/-- The subsystems that a store reads off the filter. -/
def subsystemsRead : List String := MemoryStore.wantedSubsystems (r.filterBy?.getD "")

/-- The condition on the extension. -/
def extensionCondition (e : String) : List Char :=
  extensionTag ++ e.toList.dropWhile (· = '.')

theorem toList_filterBy? {s : String} (hs : r.wantedSubsystem? = some s) :
    (r.filterBy?.getD "").toList =
      match r.wantedExtension? with
      | some e => extensionCondition e ++ (separator ++ (subsystemTag ++ s.toList))
      | none => subsystemTag ++ s.toList := by
  unfold filterBy? filters
  rw [hs]
  cases r.wantedExtension? with
  | none =>
      dsimp only [Option.map_none, Option.map_some, Option.toList_none, Option.toList_some,
        List.nil_append, Option.getD_some]
      rw [String.intercalate_singleton, String.toList_append, MemoryStore.toList_subsystemTag]
  | some e =>
      dsimp only [Option.map_some, Option.toList_some, List.cons_append, List.nil_append,
        Option.getD_some]
      rw [String.intercalate_cons_cons, String.intercalate_singleton, String.toList_append,
        String.toList_append, String.toList_append, String.toList_append, List.append_assoc,
        MemoryStore.toList_separator, MemoryStore.toList_subsystemTag,
        MemoryStore.toList_extensionTag, String.toList_ofList, extensionCondition]

theorem separator_infix_append_iff {front : List Char} (h : ' ' ∉ front) (xs : List Char) :
    separator <:+: front ++ xs ↔ separator <:+: xs := by
  induction front with
  | nil => rfl
  | cons c cs ih =>
      rw [List.mem_cons, not_or] at h
      rw [List.cons_append, List.infix_cons_iff, ih h.2, or_iff_right]
      rintro ⟨rest, hrest⟩
      exact h.1 (List.cons.inj hrest).1

/-- The extension keeps off the separator behind it. -/
theorem not_infix_extensionCondition {e : String}
    (h : ¬ separator <:+: e.toList ++ separator.dropLast) :
    ¬ separator <:+: extensionCondition e ++ separator.dropLast := by
  rw [extensionCondition, List.append_assoc, separator_infix_append_iff (by decide)]
  obtain ⟨dots, hdots⟩ := List.dropWhile_suffix (fun c : Char => decide (c = '.')) (l := e.toList)
  have hsuffix : e.toList.dropWhile (· = '.') ++ separator.dropLast <:+
      e.toList ++ separator.dropLast :=
    ⟨dots, by rw [← List.append_assoc, hdots]⟩
  exact fun hsep => h (hsep.trans hsuffix.isInfix)

/-- Behind an extension that keeps off the separator, the parts of the rest are
those that count. -/
theorem mem_subsystemsRead {s c : String} (hs : r.wantedSubsystem? = some s)
    (hext : ∀ e ∈ r.wantedExtension?, ¬ separator <:+: e.toList ++ separator.dropLast) :
    c ∈ r.subsystemsRead ↔
      subsystemTag ++ c.toList ∈ pieces separator (subsystemTag ++ s.toList) := by
  rw [subsystemsRead, MemoryStore.mem_wantedSubsystems, r.toList_filterBy? hs]
  cases he : r.wantedExtension? with
  | none => rfl
  | some e =>
      have hother : subsystemTag ++ c.toList ≠ extensionCondition e := by
        intro h
        exact absurd (List.cons.inj h).1 (by decide)
      rw [MemoryStore.pieces_append MemoryStore.separator_ne_nil
        (not_infix_extensionCondition (hext e he)), List.mem_cons, or_iff_right hother]

theorem toList_filterBy?_of_none (hs : r.wantedSubsystem? = none) :
    (r.filterBy?.getD "").toList =
      match r.wantedExtension? with
      | some e => extensionCondition e
      | none => [] := by
  unfold filterBy? filters
  rw [hs]
  cases r.wantedExtension? with
  | none => rfl
  | some e =>
      dsimp only [Option.map_some, Option.map_none, Option.toList_some, Option.toList_none,
        List.cons_append, List.nil_append, Option.getD_some]
      rw [String.intercalate_singleton, String.toList_append, MemoryStore.toList_extensionTag,
        String.toList_ofList, extensionCondition]

/-- Where no subsystem is asked for the store reads none, unless a separator is in the
extension. -/
theorem subsystemsRead_eq_nil (hs : r.wantedSubsystem? = none)
    (hext : ∀ e ∈ r.extension, ¬ separator <:+: e.toList) : r.subsystemsRead = [] := by
  rw [List.eq_nil_iff_forall_not_mem]
  intro c hc
  rw [subsystemsRead, MemoryStore.mem_wantedSubsystems, r.toList_filterBy?_of_none hs] at hc
  cases he : r.wantedExtension? with
  | none =>
      rw [he] at hc
      exact absurd (List.mem_singleton.1 hc) (List.cons_ne_nil _ _)
  | some e =>
      have hsep : ¬ separator <:+: extensionCondition e := by
        rw [extensionCondition, separator_infix_append_iff (by decide)]
        exact fun h => hext e (Option.filter_eq_some_iff.1 he).1
          (h.trans (List.dropWhile_suffix _).isInfix)
      rw [he, MemoryStore.pieces_of_not_infix hsep] at hc
      exact absurd (List.cons.inj (List.mem_singleton.1 hc)).1 (by decide)

/-- The store reads the subsystem asked for exactly if no separator is in it. -/
theorem reads_subsystem_iff {s : String} (hs : r.wantedSubsystem? = some s)
    (hext : ∀ e ∈ r.wantedExtension?, ¬ separator <:+: e.toList ++ separator.dropLast) :
    (r.subsystemsRead ≠ [] ∧ ∀ c ∈ r.subsystemsRead, c = s) ↔ ¬ separator <:+: s.toList := by
  have hmem : ∀ c, c ∈ r.subsystemsRead ↔ _ := fun c => r.mem_subsystemsRead (c := c) hs hext
  have htag : separator <:+: subsystemTag ++ s.toList ↔ separator <:+: s.toList :=
    separator_infix_append_iff (by decide) _
  constructor
  · rintro ⟨hne, hall⟩ hsep
    obtain ⟨c, hc⟩ := List.exists_mem_of_ne_nil _ hne
    have hlt := (MemoryStore.length_of_mem_pieces MemoryStore.separator_ne_nil
      ((hmem c).1 hc)).2 (htag.2 hsep)
    rw [hall c hc] at hlt
    exact absurd hlt (Nat.lt_irrefl _)
  · intro hsep
    have hpieces := MemoryStore.pieces_of_not_infix (mt htag.1 hsep)
    have hread : ∀ c, c ∈ r.subsystemsRead ↔ c = s := by
      intro c
      rw [hmem, hpieces, List.mem_singleton, List.append_cancel_left_eq, String.toList_inj]
    exact ⟨List.ne_nil_of_mem ((hread s).2 rfl), fun c hc => (hread c).1 hc⟩

/-! ## Answers -/

theorem param_query : MemoryStore.param r.params "q" = r.query := rfl

theorem param_filterBy : MemoryStore.param r.params "filter_by" = r.filterBy?.getD "" := by
  unfold MemoryStore.param params
  cases r.filterBy? with
  | none =>
      split <;> simp
  | some filter => simp

/-- The store answers with the documents that have the type asked for and all
the subsystems that it reads. -/
theorem hits_responseTo (s : MemoryStore) :
    (s.responseTo r.params).hits =
      (s.documents.filter fun d =>
        (r.query = "*" || d.classNames.contains r.query) &&
          r.subsystemsRead.all (d.subsystem = ·)).map MemoryStore.hitOf := by
  unfold MemoryStore.responseTo MemoryStore.isHit
  rw [param_query, param_filterBy]
  rfl

/-- The store answers with the documents that have the type asked for and the
subsystem `s`, in its order. -/
def IsExact (s : String) : Prop :=
  ∀ store : MemoryStore,
    ((MemoryStore.operations.search r.params store).value.1.map (·.hits)) =
      .ok ((store.documents.filter fun d =>
        d.classNames.contains r.query && d.subsystem = s).map MemoryStore.hitOf)

/-- A store with one document tells whether its subsystem is let through. -/
theorem IsExact.all_subsystemsRead {s : String} (h : r.IsExact s) (subsystem : String) :
    r.subsystemsRead.all (subsystem = ·) = decide (subsystem = s) := by
  let d : IndexDocument := { classNames := [r.query], subsystem }
  have hits := Except.ok.inj (h { documents := [d] })
  dsimp only at hits
  rw [hits_responseTo] at hits
  have hcontains : d.classNames.contains r.query = true := by simp [d]
  have hlength := congrArg List.length hits
  simp only [List.length_map, List.filter_cons, List.filter_nil, hcontains, Bool.or_true,
    Bool.true_and] at hlength
  change (if r.subsystemsRead.all (subsystem = ·) then [d] else []).length =
    (if decide (subsystem = s) then [d] else []).length at hlength
  revert hlength
  cases r.subsystemsRead.all (subsystem = ·) <;> cases decide (subsystem = s) <;> simp

theorem all_subsystemsRead_of_reads {s : String} (hne : r.subsystemsRead ≠ [])
    (hall : ∀ c ∈ r.subsystemsRead, c = s) (subsystem : String) :
    r.subsystemsRead.all (subsystem = ·) = decide (subsystem = s) := by
  obtain ⟨c, hc⟩ := List.exists_mem_of_ne_nil _ hne
  rw [Bool.eq_iff_iff, List.all_eq_true, decide_eq_true_eq]
  constructor
  · intro h
    rw [← hall c hc]
    exact of_decide_eq_true (h c hc)
  · rintro rfl c hc
    exact decide_eq_true (hall c hc).symm

theorem isExact_iff_reads {s : String} (hq : r.query ≠ "*") (hs : s ≠ "") :
    r.IsExact s ↔ r.subsystemsRead ≠ [] ∧ ∀ c ∈ r.subsystemsRead, c = s := by
  constructor
  · intro h
    constructor
    · intro hnone
      -- a document without a subsystem would be found too
      have hempty := h.all_subsystemsRead r ""
      rw [hnone, List.all_nil] at hempty
      exact hs (of_decide_eq_true hempty.symm).symm
    · intro c hc
      have hall := (h.all_subsystemsRead r s).trans (decide_eq_true rfl)
      exact (of_decide_eq_true (List.all_eq_true.1 hall c hc)).symm
  · rintro ⟨hne, hall⟩ store
    have hits := r.hits_responseTo store
    simp only [r.all_subsystemsRead_of_reads hne hall, hq, decide_false, Bool.false_or] at hits
    exact congrArg Except.ok hits

/-- Hits come in the order of the documents, that is in ascending order of ids. -/
theorem sorted_hits {store : MemoryStore} (h : store.documents.Pairwise (·.id < ·.id)) :
    (store.responseTo r.params).hits.Pairwise (·.document.id < ·.document.id) := by
  rw [hits_responseTo, List.pairwise_map]
  exact h.sublist List.filter_sublist

/-- A search for a subsystem is exact if the store reads that subsystem and no
other one. Unless the extension runs into the separator behind it, that is if no
separator is in the name of the subsystem. -/
theorem subsystem_filter_exact_iff {s : String} (hq : r.query ≠ "*") (hsub : r.subsystem = some s)
    (hs : s ≠ "") :
    (r.IsExact s ↔ r.subsystemsRead ≠ [] ∧ ∀ c ∈ r.subsystemsRead, c = s) ∧
    ((∀ e ∈ r.extension, ¬ separator <:+: e.toList ++ separator.dropLast) →
      (r.IsExact s ↔ ¬ separator <:+: s.toList)) ∧
    ∀ store : MemoryStore,
      (store.responseTo r.params).hits =
        (store.documents.filter fun d =>
          d.classNames.contains r.query && r.subsystemsRead.all (d.subsystem = ·)).map
            MemoryStore.hitOf ∧
      (store.documents.Pairwise (·.id < ·.id) →
        (store.responseTo r.params).hits.Pairwise (·.document.id < ·.document.id)) := by
  have hwanted : r.wantedSubsystem? = some s := by
    rw [wantedSubsystem?, hsub, Option.filter_some]
    exact if_pos (decide_eq_true hs)
  refine ⟨r.isExact_iff_reads hq hs, fun hext => ?_, fun store => ⟨?_, r.sorted_hits⟩⟩
  · rw [r.isExact_iff_reads hq hs]
    refine r.reads_subsystem_iff hwanted fun e he => hext e ?_
    exact (Option.filter_eq_some_iff.1 he).1
  · rw [hits_responseTo]
    simp only [hq, decide_false, Bool.false_or]

/-- A directory named like two conditions: its files are not found, and those of
another directory are. -/
theorem misses_joined_subsystem :
    let r : SearchRequest := { query := "A", subsystem := some "a && b" }
    let d : IndexDocument := { id := "1", classNames := ["A"], subsystem := "a && b" }
    let d' : IndexDocument := { id := "2", classNames := ["A"], subsystem := "a" }
    ((MemoryStore.operations.search r.params { documents := [d, d'] }).value.1.map (·.hits)) =
        .ok [MemoryStore.hitOf d'] ∧
      ¬ r.IsExact "a && b" := by
  intro r d d'
  have hits : (MemoryStore.responseTo { documents := [d, d'] } r.params).hits =
      [MemoryStore.hitOf d'] := by decide +kernel
  refine ⟨congrArg Except.ok hits, fun h => ?_⟩
  have hexact := Except.ok.inj (h { documents := [d, d'] })
  dsimp only at hexact
  rw [hits] at hexact
  exact absurd hexact (by decide +kernel)

/-- With an extension in front, a plain name is read back and one with a separator
is not. -/
theorem subsystem_filter_exact_iff_twoNames :
    ({ query := "A", extension := some ".cs", subsystem := some "core" } : SearchRequest).IsExact
        "core" ∧
      ¬ ({ query := "A", extension := some ".cs", subsystem := some "a && b" } :
        SearchRequest).IsExact "a && b" := by
  have hext : ∀ e ∈ some ".cs", ¬ separator <:+: e.toList ++ separator.dropLast := by
    intro e he
    rw [← Option.some.inj he]
    decide +kernel
  constructor
  · refine ((subsystem_filter_exact_iff _ ?_ rfl ?_).2.1 hext).2 ?_ <;> decide +kernel
  · refine mt ((subsystem_filter_exact_iff _ ?_ rfl ?_).2.1 hext).1 ?_ <;> decide +kernel

end SearchRequest

end SymbolIndex
