-- SUMMARY: No buffered change is stranded or dropped, however intake, flushes and the timer interleave.
import SymbolIndex.Proofs.Watch.Calls
import SymbolIndex.Proofs.Watch.Run

/-!
# Debouncing

The timer runs beside the intake of events and flushes by hand. An intake first
fills the buffer and then tells the timer, and a signal waits in a queue until
the timer receives it; anything can come in between. Still, as long as the timer
lives, a change that nobody is about to report has a signal on its way or a
quiet period running, and on its way out the timer takes along what is left.
-/

namespace SymbolIndex

/-! ## Interleavings -/

/-- What can happen while a timer runs. -/
inductive TimedAct where
  /-- The disk changes. Nobody is told. -/
  | change (after : FileSystem)
  /-- An intake fills the buffer with what its event amounts to. It may have
  looked at the disk and at the buffer at any time before. -/
  | accept (actions : List PathAction)
  /-- An intake that has filled the buffer tells the timer. -/
  | tell
  | flushByHand
  | askToStop
  /-- The timer receives the oldest signal. -/
  | receive
  /-- The quiet period is over. -/
  | quiet

/-- Nothing is accepted after the timer was asked to stop. -/
def TimedAct.StopsLast (acts : List TimedAct) : Prop :=
  acts.Pairwise fun act act' => act = .askToStop → ∀ actions, act' = .accept actions → actions = []

/-- A world and the signals on their way to its timer. -/
structure TimedWorld (σ : Type) extends World σ where
  /-- The oldest first. -/
  queue : List Signal := []
  /-- Intakes that have filled the buffer and not yet told the timer. -/
  underway : Nat := 0
  /-- The paths that each flush took out of the buffer, the oldest flush first. -/
  batches : List (List Path) := []

namespace TimedWorld

variable {σ : Type} (ops : DocumentStore σ) (parse : Parser)

def timer (s : TimedWorld σ) : Option Phase := s.maintainer.timer

def pendingPaths (s : TimedWorld σ) : List Path := s.maintainer.buffer.pendingPaths

/-- Fills the buffer. -/
def insertAll (s : TimedWorld σ) (actions : List PathAction) : TimedWorld σ :=
  { s with maintainer := { s.maintainer with buffer := s.maintainer.buffer.insertAll actions } }

def flush (s : TimedWorld σ) : TimedWorld σ :=
  { s with toWorld := s.toWorld.step ops parse .flush, batches := s.batches ++ [s.pendingPaths] }

/-- The timer passes to another phase, and flushes if that takes a flush. -/
def pass (s : TimedWorld σ) (next : Phase × Bool) : TimedWorld σ :=
  let s := if next.2 then s.flush ops parse else s
  { s with maintainer := { s.maintainer with timer := some next.1 } }

/-- What cannot happen changes nothing. -/
def step (s : TimedWorld σ) : TimedAct → TimedWorld σ
  | .change after => { s with fs := after }
  | .accept actions =>
      if actions = [] then s else { s.insertAll actions with underway := s.underway + 1 }
  | .tell =>
      match s.underway with
      | 0 => s
      | n + 1 => { s with queue := s.queue ++ [.touch], underway := n }
  | .flushByHand => s.flush ops parse
  | .askToStop => { s with queue := s.queue ++ [.stop] }
  | .receive =>
      match s.timer, s.queue with
      | some phase, signal :: rest => { s with queue := rest }.pass ops parse (phase.receive signal)
      | _, _ => s
  | .quiet =>
      match s.timer, s.queue with
      | some phase, [] => s.pass ops parse phase.quiet
      | _, _ => s

def run (s : TimedWorld σ) (acts : List TimedAct) : TimedWorld σ := acts.foldl (step ops parse) s

@[simp] theorem run_nil (s : TimedWorld σ) : s.run ops parse [] = s := rfl

@[simp] theorem run_cons (s : TimedWorld σ) (act : TimedAct) (acts : List TimedAct) :
    s.run ops parse (act :: acts) = (s.step ops parse act).run ops parse acts := rfl

@[simp] theorem run_append (s : TimedWorld σ) (acts acts' : List TimedAct) :
    s.run ops parse (acts ++ acts') = (s.run ops parse acts).run ops parse acts' := by
  simp [run]

section

variable {ops parse} {s : TimedWorld σ} {phase : Phase} {n : Nat} {p : Path}

@[simp] theorem pendingPaths_flush (s : TimedWorld σ) : (s.flush ops parse).pendingPaths = [] :=
  congrArg (List.map Prod.fst) (Buffer.pending_flush ops parse _ _ _ _)

@[simp] theorem timer_pass (s : TimedWorld σ) (next : Phase × Bool) :
    (s.pass ops parse next).timer = some next.1 := rfl

@[simp] theorem queue_pass (s : TimedWorld σ) (next : Phase × Bool) :
    (s.pass ops parse next).queue = s.queue := by
  cases h : next.2 <;> simp [pass, h, flush]

theorem pendingPaths_pass (s : TimedWorld σ) (next : Phase × Bool) :
    (s.pass ops parse next).pendingPaths = if next.2 then [] else s.pendingPaths := by
  cases h : next.2 with
  | true =>
      simp only [pass, h, if_true]
      exact pendingPaths_flush s
  | false => simp [pass, h, pendingPaths]

theorem pendingPaths_pass_of_empty (h : s.pendingPaths = []) (next : Phase × Bool) :
    (s.pass ops parse next).pendingPaths = [] := by
  rw [pendingPaths_pass, h, ite_self]

theorem batches_pass (s : TimedWorld σ) (next : Phase × Bool) :
    (s.pass ops parse next).batches =
      if next.2 then s.batches ++ [s.pendingPaths] else s.batches := by
  cases h : next.2 <;> simp [pass, h, flush]

/-! ### Steps of the maintainer -/

/-- An event that nothing comes in between is handled at once. -/
theorem toWorld_run_event (htimer : s.timer = some phase) (hqueue : s.queue = [])
    (hunderway : s.underway = 0) (e : ChangeEvent) :
    (s.run ops parse
      [.accept ((e.actions s.fs).flatMap (s.maintainer.buffer.expand s.fs s.maintainer.scope)),
        .tell, .receive]).toWorld = s.toWorld.step ops parse (.event e) := by
  obtain ⟨⟨fs, ⟨scope, buffer, _, isWatching⟩, store⟩, _, _, batches⟩ := s
  cases htimer
  cases hqueue
  cases hunderway
  cases hactions : (e.actions fs).flatMap (buffer.expand fs scope) with
  | nil =>
      simp [TimedWorld.step, World.step, Maintainer.handle, Buffer.record, hactions,
        Buffer.insertAll]
  | cons a actions =>
      have hflushes : (phase.receive .touch).2 = false := by cases phase <;> rfl
      simp [TimedWorld.step, World.step, Maintainer.handle, Buffer.record, hactions,
        TimedWorld.insertAll, TimedWorld.timer, TimedWorld.pass, hflushes]

/-- A quiet period passes as it does for the maintainer alone. -/
theorem toWorld_step_quiet (hqueue : s.queue = []) :
    ((s.step ops parse .quiet).maintainer, (s.step ops parse .quiet).store) =
      (s.maintainer.settle ops parse s.fs s.store).value := by
  obtain ⟨⟨fs, ⟨scope, buffer, timer, isWatching⟩, store⟩, _, _, batches⟩ := s
  cases hqueue
  rcases timer with - | (- | - | -)
  · rfl
  · rfl
  · rfl
  · rfl

/-- The end is what it is for the maintainer alone, which then lets go of the
timer. -/
theorem maintainer_run_stop (htimer : s.timer = some phase) (hlive : phase ≠ .ended)
    (hqueue : s.queue = []) :
    let t := s.run ops parse [.askToStop, .receive]
    ({ t.maintainer with timer := none, isWatching := false }, t.store) =
      (s.maintainer.stop ops parse s.fs s.store).value := by
  obtain ⟨⟨fs, ⟨scope, buffer, timer, isWatching⟩, store⟩, _, _, batches⟩ := s
  cases htimer
  cases hqueue
  cases phase with
  | idle => rfl
  | buffering => rfl
  | ended => exact absurd rfl hlive

/-! ## Stranded changes -/

/-- If something is pending, and all intakes have told the timer of it, then the
timer waits for silence or will learn of it. -/
def Attended (s : TimedWorld σ) : Prop :=
  s.timer ≠ some .ended → s.pendingPaths ≠ [] → s.underway = 0 →
    s.timer = some .buffering ∨ s.queue ≠ []

theorem Attended.step (h : s.Attended) (act : TimedAct) : (s.step ops parse act).Attended := by
  cases act with
  | change after => exact h
  | accept actions =>
      dsimp only [TimedWorld.step]
      split
      · exact h
      · exact fun _ _ hunderway => absurd hunderway (Nat.succ_ne_zero _)
  | tell =>
      dsimp only [TimedWorld.step]
      split
      · exact h
      · exact fun _ _ _ => .inr (by simp)
  | flushByHand => exact fun _ hpending => absurd (pendingPaths_flush s) hpending
  | askToStop => exact fun _ _ _ => .inr (by simp [TimedWorld.step])
  | receive =>
      dsimp only [TimedWorld.step]
      split
      · rename_i phase signal rest htimer hqueue
        intro hlive _ _
        -- the timer waits for silence after a touch, and ends otherwise
        cases phase <;> cases signal <;> simp_all [Phase.receive]
      · exact h
  | quiet =>
      dsimp only [TimedWorld.step]
      split
      · rename_i phase htimer hqueue
        intro hlive hpending hunderway
        cases phase with
        | idle =>
            rw [pendingPaths_pass] at hpending
            exact absurd (h (by simp [htimer]) hpending hunderway) (by simp [htimer, hqueue])
        | buffering => exact absurd (pendingPaths_pass s _) hpending
        | ended => exact absurd rfl hlive
      · exact h

theorem Attended.run (h : s.Attended) (acts : List TimedAct) :
    (s.run ops parse acts).Attended := by
  induction acts generalizing s with
  | nil => exact h
  | cons act acts ih => exact ih (h.step act)

/-! ## Flushes of the timer -/

/-- A flush that nobody does by hand ends a quiet period, or the timer. -/
theorem flushes_step {act : TimedAct} (hact : act ≠ .flushByHand)
    (h : (s.step ops parse act).batches ≠ s.batches) :
    (s.step ops parse act).batches = s.batches ++ [s.pendingPaths] ∧
      ((act = .quiet ∧ s.timer = some .buffering ∧ s.queue = []) ∨
        (act = .receive ∧ s.queue.head? = some .stop ∧
          (s.step ops parse act).timer = some .ended)) := by
  cases act with
  | change after => exact absurd rfl h
  | accept actions =>
      dsimp only [TimedWorld.step] at h
      split at h <;> exact absurd rfl h
  | tell =>
      dsimp only [TimedWorld.step] at h
      split at h <;> exact absurd rfl h
  | flushByHand => exact absurd rfl hact
  | askToStop => exact absurd rfl h
  | receive =>
      dsimp only [TimedWorld.step] at h ⊢
      split at h
      · rename_i phase signal rest htimer hqueue
        rw [batches_pass] at h ⊢
        split at h
        · rename_i hflushes
          obtain ⟨hlive, rfl⟩ := Phase.flushes_receive_iff.1 hflushes
          rw [if_pos hflushes, hqueue]
          exact ⟨rfl, .inr ⟨rfl, rfl, congrArg some (Phase.receive_eq_ended_iff.2 (.inr rfl))⟩⟩
        · exact absurd rfl h
      · exact absurd rfl h
  | quiet =>
      dsimp only [TimedWorld.step] at h ⊢
      split at h
      · rename_i phase htimer hqueue
        rw [batches_pass] at h ⊢
        split at h
        · rename_i hflushes
          rw [if_pos hflushes, htimer, Phase.flushes_quiet_iff.1 hflushes]
          exact ⟨rfl, .inl ⟨rfl, rfl, hqueue⟩⟩
        · exact absurd rfl h
      · exact absurd rfl h

/-! ## Calls for a batch -/

section

variable {s : TimedWorld (σ × List StoreCall)}

/-- The calls that carry out a batch on the disk of its flush. -/
def callsOf (parse : Parser) (scope : Scope) (taken : FileSystem × List Path) : List StoreCall :=
  (FlushPlan.forPaths parse taken.1 scope taken.2).calls

/-- Nothing was flushed and the store is as it was, or the batch is what was pending, and
the calls are those that carry it out on the disk as it is. -/
def Flushes (parse : Parser) (s s' : TimedWorld (σ × List StoreCall)) : Prop :=
  (s'.batches = s.batches ∧ s'.store = s.store) ∨
    (s'.batches = s.batches ++ [s.pendingPaths] ∧
      s'.store.2 = s.store.2 ++ callsOf parse s.maintainer.scope (s.fs, s.pendingPaths))

variable (ops parse) in
theorem flushes_flush (s : TimedWorld (σ × List StoreCall)) :
    Flushes parse s (s.flush ops.recording parse) := by
  refine .inr ⟨rfl, ?_⟩
  have hflush := Buffer.value_flush_recording ops parse s.fs s.maintainer.scope s.maintainer.buffer
    s.store.1 s.store.2
  exact congrArg (fun run => run.store.2) hflush

theorem flushes_pass (s : TimedWorld (σ × List StoreCall)) (next : Phase × Bool) :
    Flushes parse s (s.pass ops.recording parse next) := by
  have hflush := flushes_flush ops parse s
  unfold TimedWorld.pass
  cases next.2 with
  | true => exact hflush
  | false => exact .inl ⟨rfl, rfl⟩

variable (ops parse) in
theorem flushes_step_recording (s : TimedWorld (σ × List StoreCall)) (act : TimedAct) :
    Flushes parse s (s.step ops.recording parse act) := by
  have hsame : Flushes parse s s := .inl ⟨rfl, rfl⟩
  cases act with
  | change after => exact hsame
  | accept actions =>
      dsimp only [TimedWorld.step]
      split
      · exact hsame
      · exact .inl ⟨rfl, rfl⟩
  | tell =>
      dsimp only [TimedWorld.step]
      split
      · exact hsame
      · exact .inl ⟨rfl, rfl⟩
  | flushByHand => exact flushes_flush ops parse s
  | askToStop => exact .inl ⟨rfl, rfl⟩
  | receive =>
      dsimp only [TimedWorld.step]
      split
      · exact flushes_pass _ _
      · exact hsame
  | quiet =>
      dsimp only [TimedWorld.step]
      split
      · exact flushes_pass _ _
      · exact hsame

theorem scope_pass (s : TimedWorld σ) (next : Phase × Bool) :
    (s.pass ops parse next).maintainer.scope = s.maintainer.scope := by
  unfold TimedWorld.pass
  cases next.2 <;> rfl

theorem scope_step (s : TimedWorld σ) (act : TimedAct) :
    (s.step ops parse act).maintainer.scope = s.maintainer.scope := by
  cases act with
  | accept actions =>
      dsimp only [TimedWorld.step]
      split <;> rfl
  | tell =>
      dsimp only [TimedWorld.step]
      split <;> rfl
  | receive =>
      dsimp only [TimedWorld.step]
      split
      · exact scope_pass _ _
      · rfl
  | quiet =>
      dsimp only [TimedWorld.step]
      split
      · exact scope_pass _ _
      · rfl
  | _ => rfl

variable (ops parse) in
theorem scope_run (s : TimedWorld σ) (acts : List TimedAct) :
    (s.run ops parse acts).maintainer.scope = s.maintainer.scope := by
  induction acts generalizing s with
  | nil => rfl
  | cons act acts ih => rw [run_cons, ih, scope_step]

/-- The calls of a run carry out its batches one after the other, each on the disk that
there was at its flush. -/
theorem calls_run (hbatches : s.batches = []) (hcalls : s.store.2 = []) (acts : List TimedAct) :
    ∃ disks : List FileSystem,
      disks.length = (s.run ops.recording parse acts).batches.length ∧
      (s.run ops.recording parse acts).store.2 =
        (disks.zip (s.run ops.recording parse acts).batches).flatMap
          (callsOf parse s.maintainer.scope) := by
  induction acts using List.reverseRecOn with
  | nil => exact ⟨[], by simp [hbatches], by simp [hcalls]⟩
  | append_singleton acts act ih =>
      have hscope := scope_run ops.recording parse s acts
      rw [run_append, run_cons, run_nil]
      generalize s.run ops.recording parse acts = mid at ih hscope ⊢
      obtain ⟨disks, hlength, hrecord⟩ := ih
      rcases flushes_step_recording ops parse mid act with
        ⟨hsame, hstore⟩ | ⟨hflushed, hstore⟩
      · rw [hsame, hstore]
        exact ⟨disks, hlength, hrecord⟩
      · refine ⟨disks ++ [mid.fs], ?_, ?_⟩
        · rw [hflushed, List.length_append, List.length_append, hlength, List.length_singleton,
            List.length_singleton]
        · rw [hstore, hflushed, hrecord, hscope, List.zip_append hlength, List.flatMap_append]
          simp

end

/-! ## Dropped changes -/

/-- The path is pending, or one of the flushes after the first `n` took it along. -/
structure Carries (s : TimedWorld σ) (n : Nat) (p : Path) : Prop where
  le_length : n ≤ s.batches.length
  held : (∃ q ∈ s.pendingPaths, p.same q = true) ∨
    ∃ batch ∈ s.batches.drop n, ∃ q ∈ batch, p.same q = true

theorem Carries.flush (h : s.Carries n p) : (s.flush ops parse).Carries n p := by
  have hdrop : (s.flush ops parse).batches.drop n = s.batches.drop n ++ [s.pendingPaths] :=
    List.drop_append_of_le_length h.le_length
  have hle : s.batches.length ≤ (s.flush ops parse).batches.length := by simp [TimedWorld.flush]
  refine ⟨Nat.le_trans h.le_length hle, .inr ?_⟩
  rw [hdrop]
  -- what was pending is in the batch of this flush
  rcases h.held with hpending | ⟨batch, hbatch, hmem⟩
  · exact ⟨s.pendingPaths, by simp, hpending⟩
  · exact ⟨batch, List.mem_append_left _ hbatch, hmem⟩

theorem Carries.pass (h : s.Carries n p) (next : Phase × Bool) :
    (s.pass ops parse next).Carries n p := by
  have hflush : (s.flush ops parse).Carries n p := h.flush
  unfold TimedWorld.pass
  cases next.2 with
  | true => exact ⟨hflush.le_length, hflush.held⟩
  | false => exact ⟨h.le_length, h.held⟩

theorem Carries.insertAll (h : s.Carries n p) (actions : List PathAction) :
    (s.insertAll actions).Carries n p := by
  refine ⟨h.le_length, h.held.imp ?_ id⟩
  rintro ⟨q, hq, hsame⟩
  refine ⟨q, ?_, hsame⟩
  have hpending : (s.insertAll actions).pendingPaths =
      Path.extend s.pendingPaths (actions.map Prod.fst) := Buffer.pendingPaths_insertAll _ _
  rw [hpending]
  exact Path.mem_extend_of_mem hq

/-- What an intake filled in is pending at first. -/
theorem carries_insertAll {actions : List PathAction} {a : PathAction} (ha : a ∈ actions) :
    (s.insertAll actions).Carries s.batches.length a.1 := by
  have hpending : (s.insertAll actions).pendingPaths =
      Path.extend s.pendingPaths (actions.map Prod.fst) := Buffer.pendingPaths_insertAll _ _
  refine ⟨Nat.le_refl _, .inl ?_⟩
  rw [hpending]
  exact Path.exists_same_mem_extend (List.mem_map.2 ⟨a, ha, rfl⟩)

theorem Carries.step (h : s.Carries n p) (act : TimedAct) :
    (s.step ops parse act).Carries n p := by
  cases act with
  | change after => exact ⟨h.le_length, h.held⟩
  | accept actions =>
      have hinserted := h.insertAll actions
      dsimp only [TimedWorld.step]
      split
      · exact h
      · exact ⟨hinserted.le_length, hinserted.held⟩
  | tell =>
      dsimp only [TimedWorld.step]
      split
      · exact h
      · exact ⟨h.le_length, h.held⟩
  | flushByHand => exact h.flush
  | askToStop => exact ⟨h.le_length, h.held⟩
  | receive =>
      dsimp only [TimedWorld.step]
      split
      · rename_i rest _ _
        have hrest : Carries { s with queue := rest } n p := ⟨h.le_length, h.held⟩
        exact hrest.pass _
      · exact h
  | quiet =>
      dsimp only [TimedWorld.step]
      split
      · exact h.pass _
      · exact h

theorem Carries.run (h : s.Carries n p) (acts : List TimedAct) :
    (s.run ops parse acts).Carries n p := by
  induction acts generalizing s with
  | nil => exact h
  | cons act acts ih => exact ih (h.step act)

/-! ## The end -/

/-- A timer ends only when it is asked to, and leaves nothing behind. -/
structure Closes (s : TimedWorld σ) (acts : List TimedAct) : Prop where
  asked_of_mem : .stop ∈ s.queue → .askToStop ∈ acts
  asked_of_ended : s.timer = some .ended → .askToStop ∈ acts
  empty_of_ended : s.timer = some .ended → s.pendingPaths = []

theorem Closes.step {acts : List TimedAct} (h : s.Closes acts) {act : TimedAct}
    (hlate : .askToStop ∈ acts → ∀ actions, act = .accept actions → actions = []) :
    (s.step ops parse act).Closes (acts ++ [act]) := by
  have hmem : .askToStop ∈ acts → .askToStop ∈ acts ++ [act] := List.mem_append_left [act]
  have hsame : s.Closes (acts ++ [act]) :=
    ⟨fun hq => hmem (h.asked_of_mem hq), fun ht => hmem (h.asked_of_ended ht), h.empty_of_ended⟩
  cases act with
  | change after => exact ⟨hsame.asked_of_mem, hsame.asked_of_ended, hsame.empty_of_ended⟩
  | accept actions =>
      dsimp only [TimedWorld.step]
      split
      · exact hsame
      · rename_i hne
        refine ⟨hsame.asked_of_mem, hsame.asked_of_ended, fun hended => ?_⟩
        exact absurd (hlate (h.asked_of_ended hended) actions rfl) hne
  | tell =>
      dsimp only [TimedWorld.step]
      split
      · exact hsame
      · refine ⟨fun hq => hsame.asked_of_mem ?_, hsame.asked_of_ended, hsame.empty_of_ended⟩
        simpa using hq
  | flushByHand =>
      exact ⟨hsame.asked_of_mem, hsame.asked_of_ended, fun _ => pendingPaths_flush s⟩
  | askToStop =>
      have hasked : .askToStop ∈ acts ++ [TimedAct.askToStop] := by simp
      exact ⟨fun _ => hasked, fun _ => hasked, hsame.empty_of_ended⟩
  | receive =>
      dsimp only [TimedWorld.step]
      split
      · rename_i phase signal rest htimer hqueue
        have hstop : signal = .stop → .askToStop ∈ acts ++ [TimedAct.receive] := by
          rintro rfl
          exact hsame.asked_of_mem (by simp [hqueue])
        refine ⟨fun hq => hsame.asked_of_mem ?_, fun hended => ?_, fun hended => ?_⟩
        · rw [queue_pass] at hq
          rw [hqueue]
          exact List.mem_cons_of_mem _ hq
        · rcases Phase.receive_eq_ended_iff.1 (Option.some.inj hended) with rfl | hsignal
          · exact hsame.asked_of_ended htimer
          · exact hstop hsignal
        · -- an ended timer stays empty as nothing is accepted any more, a live one flushes first
          by_cases hphase : phase = .ended
          · have hempty := hsame.empty_of_ended (htimer.trans (congrArg some hphase))
            exact pendingPaths_pass_of_empty (s := { s with queue := rest }) hempty _
          · have hsignal :=
              (Phase.receive_eq_ended_iff.1 (Option.some.inj hended)).resolve_left hphase
            rw [pendingPaths_pass, if_pos (Phase.flushes_receive_iff.2 ⟨hphase, hsignal⟩)]
      · exact hsame
  | quiet =>
      dsimp only [TimedWorld.step]
      split
      · rename_i phase htimer hqueue
        have hended : (s.pass ops parse phase.quiet).timer = some .ended → s.timer = some .ended :=
          fun h => htimer.trans (congrArg some (Phase.quiet_eq_ended_iff.1 (Option.some.inj h)))
        refine ⟨fun hq => hsame.asked_of_mem ?_, fun h => hsame.asked_of_ended (hended h),
          fun h => ?_⟩
        · rwa [queue_pass] at hq
        · exact pendingPaths_pass_of_empty (hsame.empty_of_ended (hended h)) _
      · exact hsame

theorem Closes.run (h : s.Closes []) (acts : List TimedAct) (hlast : TimedAct.StopsLast acts) :
    (s.run ops parse acts).Closes acts := by
  induction acts using List.reverseRecOn with
  | nil => exact h
  | append_singleton acts act ih =>
      obtain ⟨hbefore, -, hlate⟩ := List.pairwise_append.1 hlast
      rw [run_append]
      refine (ih hbefore).step fun hasked actions hact => ?_
      exact hlate _ hasked act List.mem_cons_self rfl actions hact

end

/-! ## Runs -/

/-- From a start with nothing pending, whatever is done in whatever order: while
the timer lives, a change that all intakes have told of is waited for or will be;
the timer flushes only after a quiet period and at its end; and if nothing is
accepted after it was asked to stop, then at its end nothing is pending, and each
path was in the batch of a flush after its acceptance. -/
theorem debounced_run (ops : DocumentStore σ) (parse : Parser) {w : World σ}
    (htimer : w.maintainer.timer = some .idle) (hpending : w.maintainer.buffer.pending = [])
    (acts : List TimedAct) :
    let start : TimedWorld σ := { toWorld := w }
    let s := start.run ops parse acts
    (s.timer ≠ some .ended → s.pendingPaths ≠ [] → s.underway = 0 →
        s.timer = some .buffering ∨ s.queue ≠ []) ∧
      (∀ act, act ≠ .flushByHand → (s.step ops parse act).batches ≠ s.batches →
        (s.step ops parse act).batches = s.batches ++ [s.pendingPaths] ∧
          ((act = .quiet ∧ s.timer = some .buffering ∧ s.queue = []) ∨
            (act = .receive ∧ s.queue.head? = some .stop ∧
              (s.step ops parse act).timer = some .ended))) ∧
      (s.timer = some .ended → TimedAct.StopsLast acts →
        s.pendingPaths = [] ∧
          ∀ before actions after, acts = before ++ .accept actions :: after →
            ∀ a ∈ actions, ∃ batch ∈ s.batches.drop (start.run ops parse before).batches.length,
              ∃ q ∈ batch, a.1.same q = true) := by
  intro start s
  have hempty : start.pendingPaths = [] := congrArg (List.map Prod.fst) hpending
  have hstart : start.Closes [] := by
    refine ⟨fun h => absurd h List.not_mem_nil, fun h => ?_, fun _ => hempty⟩
    exact absurd (htimer.symm.trans h) (by simp)
  refine ⟨?_, fun act hact h => flushes_step hact h, fun hended hlast => ?_⟩
  · have hattended : start.Attended := fun _ hpending _ => absurd hempty hpending
    exact hattended.run acts
  · have hnone : s.pendingPaths = [] := (hstart.run acts hlast).empty_of_ended hended
    refine ⟨hnone, ?_⟩
    intro before actions after hacts a ha
    let mid := start.run ops parse before
    have haccepted : (mid.step ops parse (.accept actions)).Carries mid.batches.length a.1 := by
      have hcarries := carries_insertAll (s := mid) ha
      dsimp only [TimedWorld.step]
      rw [if_neg (List.ne_nil_of_mem ha)]
      exact ⟨hcarries.le_length, hcarries.held⟩
    have hheld : s.Carries mid.batches.length a.1 := by
      have hrun : ((mid.step ops parse (.accept actions)).run ops parse after).Carries
          mid.batches.length a.1 := haccepted.run after
      rwa [← run_cons, ← run_append, ← hacts] at hrun
    rcases hheld.held with ⟨q, hq, -⟩ | h
    · rw [hnone] at hq
      cases hq
    · exact h

/-- The second of two changes comes while the quiet period is running, and its
intake tells the timer only after the timer was asked to stop. -/
theorem debounced_run_lateTouch :
    let a : PathAction := (.ofString "/r/a.txt", .upsert)
    let b : PathAction := (.ofString "/r/b.txt", .delete)
    let w : World MemoryStore :=
      ⟨⟨[([[114]], .directory)], []⟩,
        { scope := ⟨.ofString "/r", {}, []⟩, timer := some .idle }, {}⟩
    let s := TimedWorld.run MemoryStore.operations (fun _ => none) { toWorld := w }
      [.accept [a], .tell, .receive, .flushByHand, .accept [b], .askToStop, .tell, .receive]
    s.timer = some .ended ∧ s.pendingPaths = [] ∧
      ∃ batch ∈ s.batches.drop 1, ∃ q ∈ batch, b.1.same q = true := by
  intro a b w s
  have hended : s.timer = some .ended := by decide +kernel
  obtain ⟨-, -, hclosed⟩ := debounced_run MemoryStore.operations (fun _ => none) (w := w) rfl rfl
    [.accept [a], .tell, .receive, .flushByHand, .accept [b], .askToStop, .tell, .receive]
  obtain ⟨hnone, hcarried⟩ := hclosed hended (by simp [TimedAct.StopsLast])
  refine ⟨hended, hnone, ?_⟩
  exact hcarried [.accept [a], .tell, .receive, .flushByHand] [b] [.askToStop, .tell, .receive] rfl
    b List.mem_cons_self

end TimedWorld

end SymbolIndex
