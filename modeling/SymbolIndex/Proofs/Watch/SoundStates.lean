-- SUMMARY: States with a flush and intakes under way that have to do with paths of the index only.
import SymbolIndex.Proofs.Watch.Interleaving

/-!
# Sound interleaved states

No links come up, and events carry normal paths. Then the buffer, the plan of the
running flush and what intakes have found hold paths of the index only, whatever
steps come in between.
-/

namespace SymbolIndex

/-! ## Sound states -/

/-- A path of the index, written as a real path. -/
def Scope.Tracks (scope : Scope) (p : Path) : Prop := p.IsNormal ∧ scope.isEligible p = true

/-- A path of the index, with the id of its document. -/
def Scope.IsTarget (scope : Scope) (top : RealPath) (id : String) (p : Path) : Prop :=
  scope.Tracks p ∧ ∃ key : RealPath, key.IsProper ∧ p = key.toPath ∧ id = key.documentId top

structure FlushPlan.IsSound (plan : FlushPlan) (scope : Scope) (top : RealPath) : Prop where
  upserts : ∀ doc p, (doc, p) ∈ plan.upserts → scope.IsTarget top doc.id p
  deletes : ∀ id p, (id, p) ∈ plan.deletes → scope.IsTarget top id p

def FlushStage.IsSound (scope : Scope) (top : RealPath) : FlushStage → Prop
  | rest _ => True
  | planning todo plan => (∀ p ∈ todo, scope.Tracks p.1) ∧ plan.IsSound scope top
  | remembering plan _ => plan.IsSound scope top
  | deleting targets _ => ∀ id p, (id, p) ∈ targets → scope.IsTarget top id p

namespace Intake

/-- The actions that an intake still has to look at. -/
def todo : Intake → List PathAction
  | looking todo _ => todo
  | readingIndexed _ todo _ => todo
  | readingPending _ _ todo _ => todo
  | done => []

/-- The paths that an intake is going to fill in. -/
def found : Intake → List Path
  | looking _ found => found.map Prod.fst
  | readingIndexed _ _ found => found.map Prod.fst
  | readingPending _ known _ found => found.map Prod.fst ++ known
  | done => []

structure IsSound (intake : Intake) (scope : Scope) : Prop where
  todo : ∀ p ∈ intake.todo, p.1.IsNormal
  found : ∀ p ∈ intake.found, scope.Tracks p

variable {fs : FileSystem} {scope : Scope} {b : Buffer} {intake : Intake} {q : Path}

theorem indexed_advance : (intake.advance fs scope b).1.indexed = b.indexed := by
  cases intake with
  | looking todo found =>
      cases todo with
      | nil => exact Buffer.indexed_insertAll b found
      | cons p todo =>
          dsimp only [advance]
          split <;> rfl
  | _ => rfl

theorem mem_pending_advance (h : q ∈ b.pendingPaths) :
    q ∈ (intake.advance fs scope b).1.pendingPaths := by
  cases intake with
  | looking todo found =>
      cases todo with
      | nil =>
          dsimp only [advance]
          rw [Buffer.pendingPaths_insertAll]
          exact Path.mem_extend_of_mem h
      | cons p todo =>
          dsimp only [advance]
          split <;> exact h
  | _ => exact h

theorem mem_of_mem_pending_advance (h : q ∈ (intake.advance fs scope b).1.pendingPaths) :
    q ∈ b.pendingPaths ∨ q ∈ intake.found := by
  cases intake with
  | looking todo found =>
      cases todo with
      | nil =>
          dsimp only [advance] at h
          rcases Buffer.mem_pendingPaths_insertAll h with h | ⟨a, ha, rfl⟩
          · exact .inl h
          · exact .inr (List.mem_map.2 ⟨a, ha, rfl⟩)
      | cons p todo =>
          dsimp only [advance] at h
          split at h <;> exact .inl h
  | _ => exact .inl h

theorem todo_advance : (intake.advance fs scope b).2.todo ⊆ intake.todo := by
  cases intake with
  | looking todo found =>
      cases todo with
      | nil => exact List.nil_subset _
      | cons p todo =>
          dsimp only [advance]
          split <;> exact List.subset_cons_self p todo
  | readingIndexed dir todo found => exact List.Subset.refl _
  | readingPending dir known todo found => exact List.Subset.refl _
  | done => exact List.Subset.refl _

theorem found_readingPending_advance {dir : Path} {known : List Path}
    {todo found : List PathAction} :
    ((readingPending dir known todo found).advance fs scope b).2.found =
      (readingPending dir known todo found).found ++
        b.pendingPaths.filter (Buffer.isUnder dir) := by
  simp [advance, Intake.found, Function.comp_def]

/-- What an intake finds is in its event, in a directory that the event names, or in the buffer. -/
theorem mem_found_advance (h : q ∈ (intake.advance fs scope b).2.found) :
    q ∈ intake.found ∨ b.Knows q ∨
      (scope.isEligible q = true ∧ ∃ p ∈ intake.todo, q = p.1 ∨ q ∈ fs.walk p.1) := by
  cases intake with
  | looking todo found =>
      cases todo with
      | nil => cases h
      | cons p todo =>
          dsimp only [advance] at h
          split at h
          · exact .inl h
          · simp only [Intake.found, List.map_append, List.mem_append] at h
            rcases h with h | h
            · exact .inl h
            · obtain ⟨a, ha, rfl⟩ := List.mem_map.1 h
              rcases Buffer.mem_expand.1 ha with ⟨-, -, -, hunder⟩ | ⟨-, heligible, rfl⟩ | hknown
              · obtain ⟨hwalk, heligible⟩ := List.mem_filter.1 hunder
                exact .inr (.inr ⟨heligible, p, List.mem_cons_self, .inr hwalk⟩)
              · exact .inr (.inr ⟨heligible, a, List.mem_cons_self, .inl rfl⟩)
              · exact .inr (.inl hknown.2.2.2.2.2.2)
  | readingIndexed dir todo found =>
      simp only [advance, Intake.found, List.mem_append] at h
      exact h.imp id fun h => .inl (.inl (List.mem_of_mem_filter h))
  | readingPending dir known todo found =>
      rw [found_readingPending_advance, List.mem_append] at h
      exact h.imp id fun h => .inl (.inr (List.mem_of_mem_filter h))
  | done => cases h

/-- What an intake has found it keeps until it fills it in. -/
theorem mem_found_or_pending_advance (fs : FileSystem) (scope : Scope)
    (hb : ∀ p ∈ b.pendingPaths, p.IsNormal)
    (hfound : ∀ p ∈ intake.found, p.IsNormal) (h : q ∈ intake.found) :
    q ∈ (intake.advance fs scope b).2.found ∨ q ∈ (intake.advance fs scope b).1.pendingPaths := by
  cases intake with
  | looking todo found =>
      cases todo with
      | nil =>
          -- an equal key that is pending already stays, and is the same path as both are normal
          right
          have hmem : q ∈ found.map Prod.fst := h
          obtain ⟨q', hq', hsame⟩ :
              ∃ q' ∈ Path.extend b.pendingPaths (found.map Prod.fst), q.same q' = true :=
            Path.exists_same_mem_extend hmem
          have hnormal : q'.IsNormal :=
            (Path.mem_or_mem_of_mem_extend hq').elim (hb q') (hfound q')
          rw [← Buffer.pendingPaths_insertAll] at hq'
          rwa [(hfound q h).eq_of_same hnormal hsame]
      | cons p todo =>
          left
          dsimp only [advance]
          split
          · exact h
          · simp only [Intake.found, List.map_append, List.mem_append]
            exact .inl h
  | readingIndexed dir todo found => exact .inl (List.mem_append_left _ h)
  | readingPending dir known todo found =>
      rw [found_readingPending_advance]
      exact .inl (List.mem_append_left _ h)
  | done => cases h

/-- Intakes bring nothing to mind but paths of the index. -/
theorem IsSound.advance (h : intake.IsSound scope) (hfs : fs.WellFormed)
    (hb : ∀ p, b.Knows p → scope.Tracks p) :
    (intake.advance fs scope b).2.IsSound scope ∧
      ∀ p, (intake.advance fs scope b).1.Knows p → scope.Tracks p := by
  refine ⟨⟨fun p hp => h.todo p (todo_advance hp), fun q hq => ?_⟩, fun q hq => ?_⟩
  · rcases mem_found_advance hq with hq | hq | ⟨heligible, p, hp, rfl | hwalk⟩
    · exact h.found q hq
    · exact hb q hq
    · exact ⟨h.todo p hp, heligible⟩
    · exact ⟨hfs.isNormal_of_mem_walk (h.todo p hp) hwalk, heligible⟩
  · rcases hq with hq | hq
    · rw [indexed_advance] at hq
      exact hb q (.inl hq)
    · exact (mem_of_mem_pending_advance hq).elim (fun hq => hb q (.inr hq)) (h.found q)

end Intake

section Plans

variable {parse : Parser} {fs : FileSystem} {scope : Scope} {top : RealPath} {p : Path}

theorem Scope.Tracks.isTarget (h : scope.Tracks p) (free : fs.IsLinkFree top)
    (hroot : scope.root = top.toPath) {id : String} (hid : fs.IsIdOf scope.root p id) :
    scope.IsTarget top id p := by
  refine ⟨h, ?_⟩
  obtain ⟨⟨key, hkey, rfl⟩, heligible⟩ := h
  have hstarts := Scope.startsWith_of_isEligible heligible
  rw [hroot] at hstarts hid
  have hunder := (RealPath.startsWith_toPath hkey free.isProper_top).1 hstarts
  exact ⟨key, hkey, rfl, (free.isIdOf_iff hkey hunder).1 hid⟩

theorem FlushPlan.IsSound.note {plan : FlushPlan} (h : plan.IsSound scope top)
    (free : fs.IsLinkFree top) (hroot : scope.root = top.toPath) (hp : scope.Tracks p) :
    (plan.note p (scope.fate parse fs p)).IsSound scope top := by
  cases hfate : scope.fate parse fs p with
  | upsert doc =>
      refine ⟨fun doc' q hq => ?_, h.deletes⟩
      rcases List.mem_append.1 hq with hq | hq
      · exact h.upserts doc' q hq
      · cases List.mem_singleton.1 hq
        exact hp.isTarget free hroot (id_of_buildDocument (Scope.fate_eq_upsert hfate).2)
  | delete id =>
      refine ⟨h.upserts, fun id' q hq => ?_⟩
      rcases List.mem_append.1 hq with hq | hq
      · exact h.deletes id' q hq
      · cases List.mem_singleton.1 hq
        exact hp.isTarget free hroot (Scope.fate_eq_delete hfate).2
  | skip => exact ⟨h.upserts, h.deletes⟩
  | fail => exact ⟨h.upserts, h.deletes⟩
  | nothing => exact h

end Plans

/-- No links come up around the root, and events carry normal paths. -/
def BusyAct.IsLinkFree (top : RealPath) : BusyAct → Prop
  | .change after => after.IsLinkFree top
  | .event e => ∀ p ∈ e.paths, p.IsNormal
  | _ => True

namespace BusyWorld

variable {σ : Type} {ops : DocumentStore σ} {parse : Parser} {top : RealPath} {s t : BusyWorld σ}

/-- A world without links, in which flush and intakes have to do with paths of the
index only. -/
structure IsSound (s : BusyWorld σ) (top : RealPath) : Prop extends s.toWorld.IsLinkFree top where
  stage : s.stage.IsSound s.scope top
  intakes : ∀ intake ∈ s.intakes, intake.IsSound s.scope

namespace IsSound

theorem tracks (h : s.IsSound top) : ∀ p, s.buffer.Knows p → s.scope.Tracks p := h.known

/-- The disk and the scope stay. -/
theorem of_eq (h : s.IsSound top) (hfs : t.fs = s.fs) (hscope : t.scope = s.scope)
    (hknown : ∀ p, t.buffer.Knows p → s.scope.Tracks p) (hstage : t.stage.IsSound s.scope top)
    (hintakes : ∀ intake ∈ t.intakes, intake.IsSound s.scope) : t.IsSound top := by
  rw [← hscope] at hknown hstage hintakes
  exact {
    wellFormed := hfs ▸ h.wellFormed
    known := hknown
    linkFree := hfs ▸ h.linkFree
    root_eq := (congrArg Scope.root hscope).trans h.root_eq
    stage := hstage
    intakes := hintakes }

theorem startFlush (h : s.IsSound top) : s.startFlush.IsSound top := by
  unfold BusyWorld.startFlush
  split
  · split
    · exact h.of_eq rfl rfl h.tracks trivial h.intakes
    · refine h.of_eq rfl rfl (fun p hp => ?_) ⟨fun p hp => ?_, ?_⟩ h.intakes
      · rcases hp with hp | hp
        · exact h.tracks p (.inl hp)
        · cases hp
      · exact h.tracks p.1 (.inr (List.mem_map.2 ⟨p, hp, rfl⟩))
      · exact ⟨fun _ _ hmem => absurd hmem List.not_mem_nil,
          fun _ _ hmem => absurd hmem List.not_mem_nil⟩
  · exact h

theorem flushStep (h : s.IsSound top) : (s.flushStep ops parse).IsSound top := by
  have hstage := h.stage
  unfold BusyWorld.flushStep
  split
  · exact h
  · rename_i p todo plan hplanning
    rw [hplanning] at hstage
    obtain ⟨htodo, hplan⟩ := hstage
    refine h.of_eq rfl rfl h.tracks ⟨fun q hq => htodo q (List.mem_cons_of_mem _ hq), ?_⟩ h.intakes
    rw [FlushPlan.value_add]
    exact hplan.note h.linkFree h.root_eq (htodo p List.mem_cons_self)
  · rename_i plan hplanning
    rw [hplanning] at hstage
    unfold importStep
    split
    · exact h.of_eq rfl rfl h.tracks hstage.2.deletes h.intakes
    · refine h.of_eq rfl rfl h.tracks ?_ h.intakes
      dsimp only
      split
      · exact hstage.2
      · exact hstage.2.deletes
  · rename_i plan report hremembering
    rw [hremembering] at hstage
    refine h.of_eq rfl rfl (fun p hp => ?_) hstage.deletes h.intakes
    rcases hp with hp | hp
    · rcases Buffer.mem_remember hp with hp | hp
      · exact h.tracks p (.inl hp)
      · obtain ⟨⟨doc, q⟩, hmem, rfl⟩ := List.mem_map.1 hp
        exact (hstage.upserts doc q hmem).1
    · exact h.tracks p (.inr hp)
  · rename_i target rest report hdeleting
    rw [hdeleting] at hstage
    refine h.of_eq rfl rfl (fun p hp => h.tracks p ?_)
      (fun id q hq => hstage id q (List.mem_cons_of_mem _ hq)) h.intakes
    have hafter :
        (FlushRun.deleteOne ops ⟨report, s.buffer, s.store⟩ target).value.buffer.Knows p := hp
    rcases FlushRun.buffer_deleteOne ops ⟨report, s.buffer, s.store⟩ target with hb | hb
    · rwa [hb] at hafter
    · rw [hb] at hafter
      exact hafter.imp (fun hp => (Buffer.mem_forget.1 hp).1) id
  · exact h.of_eq rfl rfl h.tracks trivial h.intakes

theorem intakeStep (h : s.IsSound top) (i : Nat) : (s.intakeStep i).IsSound top := by
  unfold BusyWorld.intakeStep
  split
  · exact h
  · rename_i intake hi
    obtain ⟨hnext, hknown⟩ :=
      (h.intakes intake (List.mem_of_getElem? hi)).advance h.wellFormed h.tracks
    refine h.of_eq rfl rfl hknown h.stage fun intake' hmem => ?_
    rcases List.mem_or_eq_of_mem_set hmem with hmem | rfl
    · exact h.intakes intake' hmem
    · exact hnext

theorem step (h : s.IsSound top) {act : BusyAct} (hact : act.IsLinkFree top) :
    (s.step ops parse act).IsSound top := by
  cases act with
  | change after =>
      exact ⟨⟨⟨hact.wellFormed, h.known⟩, hact, h.root_eq⟩, h.stage, h.intakes⟩
  | event e =>
      refine h.of_eq rfl rfl h.tracks h.stage fun intake hmem => ?_
      rcases List.mem_append.1 hmem with hmem | hmem
      · exact h.intakes intake hmem
      · rw [List.mem_singleton.1 hmem]
        exact ⟨fun p hp => hact p.1 (ChangeEvent.mem_paths_of_mem_actions hp),
          fun p hp => absurd hp List.not_mem_nil⟩
  | intake i => exact h.intakeStep i
  | startFlush => exact h.startFlush
  | flush => exact h.flushStep

theorem run (h : s.IsSound top) {acts : List BusyAct} (hacts : ∀ act ∈ acts, act.IsLinkFree top) :
    (s.run ops parse acts).IsSound top := by
  induction acts generalizing s with
  | nil => exact h
  | cons act acts ih =>
      exact ih (h.step (hacts act List.mem_cons_self)) fun a ha =>
        hacts a (List.mem_cons_of_mem _ ha)

end IsSound

end BusyWorld

end SymbolIndex
