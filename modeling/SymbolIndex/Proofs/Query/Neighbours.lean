-- SUMMARY: The lines printed around a hit are its neighbours, and printing panics at the first hit whose window does not end at a word.
import Mathlib.Data.List.Basic
import SymbolIndex.Query.Display

/-!
# Neighbours of hits

With context the lines around a hit are printed. As long as the end of the window on
them is a 64-bit word, the lines are the neighbours of the hit, whatever the file and the
row of the hit. At the first hit whose window ends beyond that, printing panics behind
the line of the hit itself.
-/

namespace SymbolIndex

/-! ## Windows -/

/-- What is left of numbered items when some are dropped behind a place and some in front
of another one. -/
theorem filterMap_window (f : α × Nat → Option β) (xs : List α) (first behind k : Nat) :
    (((xs.zipIdx k).take behind).drop first).filterMap f =
      (xs.zipIdx k).filterMap fun x =>
        if k + first ≤ x.2 ∧ x.2 < k + behind then f x else none := by
  induction xs generalizing first behind k with
  | nil => simp
  | cons x xs ih =>
      -- the rest is numbered from one more, so both places move one to the front
      have hlater : ∀ y ∈ xs.zipIdx (k + 1), k + 1 ≤ y.2 := fun y hy =>
        (List.mem_zipIdx hy).1
      cases behind with
      | zero =>
          rw [List.take_zero, List.drop_nil, List.filterMap_nil, eq_comm,
            List.filterMap_eq_nil_iff]
          intro y hy
          have hle : k ≤ y.2 := (List.mem_zipIdx hy).1
          exact if_neg fun h => by omega
      | succ behind =>
          have htail : (((xs.zipIdx (k + 1)).take behind).drop (first - 1)).filterMap f =
              (xs.zipIdx (k + 1)).filterMap fun y =>
                if k + first ≤ y.2 ∧ y.2 < k + (behind + 1) then f y else none := by
            rw [ih]
            refine List.filterMap_congr fun y hy => if_congr ?_ rfl rfl
            have := hlater y hy
            omega
          rw [List.zipIdx_cons, List.take_succ_cons, List.filterMap_cons (l := xs.zipIdx (k + 1)),
            ← htail]
          cases first with
          | zero => simp [List.filterMap_cons]
          | succ first =>
              have hskipped : ¬ k + (first + 1) ≤ k := by omega
              simp [hskipped]

/-- The lines within `n` rows of a row, but for the line of that row, each with its number
from 1. -/
def neighbours (lines : List String) (row n : Nat) : List (Nat × String) :=
  lines.zipIdx.filterMap fun (line, i) =>
    if i ≠ row ∧ row ≤ i + n ∧ i ≤ row + n then some (i + 1, line) else none

/-- The neighbours of a row are shown if the end of the window is a word. -/
theorem contextLines_eq_neighbours (lines : List String) {row : Nat} {context : UInt64}
    (h : row + context.toNat + 1 < UInt64.size) :
    contextLines lines row context = .ok (neighbours lines row context.toNat) := by
  have hwindow : contextWindow row context =
      .ok (row - context.toNat, row + context.toNat + 1) := if_pos h
  unfold contextLines neighbours
  rw [hwindow]
  refine congrArg Except.ok ?_
  dsimp only
  rw [filterMap_window]
  refine List.filterMap_congr fun x _ => ?_
  obtain ⟨line, i⟩ := x
  by_cases hrow : i = row
  · simp [hrow]
  · simp only [hrow, if_false]
    exact if_congr (by omega) rfl rfl

theorem contextLines_eq_panic (lines : List String) {row : Nat} {context : UInt64}
    (h : UInt64.size ≤ row + context.toNat + 1) :
    contextLines lines row context = .error .additionOverflow := by
  have hwindow : contextWindow row context = .error .additionOverflow := if_neg (by omega)
  rw [contextLines, hwindow]
  rfl

/-! ## Blocks -/

/-- The lines as a text, every one with its `\n`. -/
def textOf (lines : List String) : String := String.join (lines.map (· ++ "\n"))

/-- The window on the hit does not end at a word. -/
def DisplayOptions.Overflows (options : DisplayOptions) (hit : Hit) : Prop :=
  0 < options.context.toNat ∧ 1 ≤ hit.line ∧ UInt64.size ≤ hit.line + options.context.toNat

instance (options : DisplayOptions) (hit : Hit) : Decidable (options.Overflows hit) :=
  inferInstanceAs (Decidable (_ ∧ _ ∧ _))

namespace FileHits

variable (file : FileHits) (options : DisplayOptions)

/-- A hit as it is to be shown: its entry and, with context, its neighbours and a blank
line. -/
def neighbourhood (hit : Hit) : List String :=
  file.hitLine options hit ::
    if 0 < options.context.toNat ∧ 1 ≤ hit.line then
      (neighbours file.lines (hit.line - 1) options.context.toNat).map
        (file.contextLine options) ++ [""]
    else []

variable {file options} {mode : QueryMode} {hit : Hit} {hits : List Hit}

theorem hitLines_of_bare (h : ¬ (0 < options.context.toNat ∧ 1 ≤ hit.line)) :
    file.hitLines mode options hit = ([file.hitLine options hit], none) := by
  have hbare : (options.context = 0 || !mode.supportsContext || hit.line = 0) = true := by
    have hzero : options.context.toNat = 0 ∨ hit.line = 0 := by omega
    rcases hzero with hzero | hzero
    · simp [UInt64.toNat_inj.1 (hzero.trans UInt64.toNat_zero.symm)]
    · simp [hzero]
  rw [hitLines, if_pos hbare]

theorem hitLines_of_around (hmode : mode.supportsContext = true)
    (h : 0 < options.context.toNat ∧ 1 ≤ hit.line) :
    file.hitLines mode options hit =
      match contextLines file.lines (hit.line - 1) options.context with
      | .error p => ([file.hitLine options hit], some p)
      | .ok around =>
          (file.hitLine options hit :: around.map (file.contextLine options) ++ [""], none) := by
  have hne : options.context ≠ 0 := by
    intro hzero
    rw [hzero] at h
    exact absurd h.1 (by decide)
  have hline : hit.line ≠ 0 := Nat.one_le_iff_ne_zero.1 h.2
  unfold hitLines
  exact (if_neg (by simp [hne, hmode, hline])).trans rfl

theorem hitLines_eq_neighbourhood (hmode : mode.supportsContext = true)
    (h : ¬ options.Overflows hit) :
    file.hitLines mode options hit = (file.neighbourhood options hit, none) := by
  unfold neighbourhood
  by_cases haround : 0 < options.context.toNat ∧ 1 ≤ hit.line
  · have hword : hit.line - 1 + options.context.toNat + 1 < UInt64.size := by
      unfold DisplayOptions.Overflows at h
      omega
    rw [hitLines_of_around hmode haround, contextLines_eq_neighbours _ hword, if_pos haround]
    rfl
  · rw [hitLines_of_bare haround, if_neg haround]

/-- The line of the hit itself is written before the panic. -/
theorem hitLines_eq_panic (hmode : mode.supportsContext = true) (h : options.Overflows hit) :
    file.hitLines mode options hit = ([file.hitLine options hit], some .additionOverflow) := by
  obtain ⟨hcontext, hline, hover⟩ := h
  rw [hitLines_of_around hmode ⟨hcontext, hline⟩, contextLines_eq_panic _ (by omega)]

/-! ## Printing -/

theorem linesOfHits_eq_neighbourhoods (hmode : mode.supportsContext = true)
    (h : ∀ hit ∈ hits, ¬ options.Overflows hit) :
    file.linesOfHits mode options hits = (hits.flatMap (file.neighbourhood options), none) := by
  induction hits with
  | nil => rfl
  | cons hit hits ih =>
      rw [linesOfHits, hitLines_eq_neighbourhood hmode (h hit List.mem_cons_self),
        ih fun hit' hmem => h hit' (List.mem_cons_of_mem _ hmem)]
      rfl

/-- What stands in front of the first hit that overflows is shown, and the line of that
hit. -/
theorem linesOfHits_eq_panic (hmode : mode.supportsContext = true) {before after : List Hit}
    (hbefore : ∀ hit' ∈ before, ¬ options.Overflows hit') (h : options.Overflows hit) :
    file.linesOfHits mode options (before ++ hit :: after) =
      (before.flatMap (file.neighbourhood options) ++ [file.hitLine options hit],
        some .additionOverflow) := by
  induction before with
  | nil =>
      rw [List.nil_append, linesOfHits, hitLines_eq_panic hmode h]
      rfl
  | cons first before ih =>
      rw [List.cons_append, linesOfHits,
        hitLines_eq_neighbourhood hmode (hbefore first List.mem_cons_self),
        ih fun hit' hmem => hbefore hit' (List.mem_cons_of_mem _ hmem)]
      simp

theorem supportsContext_of_ne_find (h : ∀ name, mode ≠ .find name) :
    mode.supportsContext = true := by
  cases mode with
  | find name => exact absurd rfl (h name)
  | _ => rfl

theorem displayLines_eq_linesOfHits (hcount : options.countOnly = false) :
    file.displayLines mode options = file.linesOfHits mode options file.hits := by
  unfold displayLines
  split
  case isTrue hnil =>
    rw [List.isEmpty_iff.1 hnil]
    rfl
  case isFalse => rw [hcount, if_neg (by simp)]

/-- Printing a file in any mode but one for whole declarations, and not for the counts.
If every window ends at a word it tells the number of hits, and shows each of them in
order with its neighbourhood. Otherwise it panics at the first hit whose window does not,
behind the neighbourhoods of the hits in front of it and the line of the hit. -/
theorem print_eq_neighbourhoods (file : FileHits) {mode : QueryMode} {options : DisplayOptions}
    (hmode : ∀ name, mode ≠ .find name) (hcount : options.countOnly = false) :
    ((∀ hit ∈ file.hits, ¬ options.Overflows hit) →
      file.print mode options =
        (textOf (file.hits.flatMap (file.neighbourhood options)), .ok file.hits.length)) ∧
    ∀ before hit after, file.hits = before ++ hit :: after →
      (∀ hit' ∈ before, ¬ options.Overflows hit') → options.Overflows hit →
      file.print mode options =
        (textOf (before.flatMap (file.neighbourhood options) ++ [file.hitLine options hit]),
          .error .additionOverflow) := by
  have hcontext := supportsContext_of_ne_find hmode
  constructor
  · intro hwords
    rw [print, displayLines_eq_linesOfHits hcount, linesOfHits_eq_neighbourhoods hcontext hwords]
    rfl
  · intro before hit after hhits hbefore hover
    rw [print, displayLines_eq_linesOfHits hcount, hhits,
      linesOfHits_eq_panic hcontext hbefore hover]
    rfl

/-- Three hits with one line of context: in the middle, behind the last line, and
nowhere. With the largest context the first of them is shown alone. -/
theorem print_eq_neighbourhoods_threeHits :
    let file : FileHits :=
      { path := .ofString "A.cs", hits := [⟨0, "x"⟩, ⟨2, "b"⟩, ⟨5, "e"⟩],
        lines := ["a", "b", "c", "d"] }
    file.print .usings { context := 1 } =
        ("0: x\n2: b\n  1- a\n  3- c\n\n5: e\n  4- d\n\n", .ok 3) ∧
      file.print .usings { context := 18446744073709551615 } =
        ("0: x\n2: b\n", .error .additionOverflow) := by
  intro file
  have hmode : ∀ name, QueryMode.usings ≠ .find name := fun _ => nofun
  have hcount : ∀ context, ({ context } : DisplayOptions).countOnly = false := fun _ => rfl
  constructor
  · obtain ⟨hshown, -⟩ := file.print_eq_neighbourhoods hmode (hcount 1)
    rw [hshown (by decide)]
    rfl
  · obtain ⟨-, hpanics⟩ :=
      file.print_eq_neighbourhoods hmode (hcount 18446744073709551615)
    rw [hpanics [⟨0, "x"⟩] ⟨2, "b"⟩ [⟨5, "e"⟩] rfl (by decide) (by decide)]
    rfl

/-- With the largest context printing panics behind a hit on the first of two lines,
although the second one is its neighbour. -/
theorem print_panics_withNeighbour :
    let file : FileHits := { path := .ofString "A.cs", hits := [⟨1, "x"⟩], lines := ["x", "y"] }
    let options : DisplayOptions := { context := 18446744073709551615 }
    file.print .usings options = ("1: x\n", .error .additionOverflow) ∧
      textOf (file.hits.flatMap (file.neighbourhood options)) = "1: x\n  2- y\n\n" := by
  intro file options
  exact ⟨by rfl, by rfl⟩

end FileHits

end SymbolIndex
