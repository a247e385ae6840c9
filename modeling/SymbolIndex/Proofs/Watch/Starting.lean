-- SUMMARY: Starting and stopping a maintainer: a start whose watch fails leaves the timer behind, and only a stop takes it away.
import SymbolIndex.Proofs.Watch.Run

/-!
# Starting

A start makes the timer first and installs the watch then. If there is no thread for the
timer, the start is an error and nothing has changed. If the watch cannot be installed,
the start is an error, and the timer is there all the same: the maintainer
counts as running without being told of anything, and refuses to start until it was
stopped. How a maintainer stands follows from its starts and stops alone.
-/

namespace SymbolIndex

/-! ## Standings -/

/-- How a maintainer stands to its timer and its watch. -/
inductive Standing where
  /-- There is no timer and no watch. -/
  | off
  /-- There is a timer, but nothing is watched. -/
  | deaf
  | on
  deriving DecidableEq, Repr

namespace Maintainer

def standing (m : Maintainer) : Standing :=
  if m.isRunning then if m.isWatching then .on else .deaf else .off

/-- Only what runs watches. -/
def IsSettled (m : Maintainer) : Prop := m.isWatching = true → m.isRunning = true

theorem standing_eq_off_iff {m : Maintainer} : m.standing = .off ↔ m.isRunning = false := by
  unfold standing
  cases m.isRunning <;> cases m.isWatching <;> simp

theorem standing_ne_off_iff {m : Maintainer} : m.standing ≠ .off ↔ m.isRunning = true := by
  rw [Ne, standing_eq_off_iff, Bool.not_eq_false]

theorem IsSettled.isWatching_eq_false {m : Maintainer} (h : m.IsSettled)
    (hrunning : m.isRunning = false) : m.isWatching = false := by
  cases hwatching : m.isWatching with
  | true => simp [h hwatching] at hrunning
  | false => rfl

/-! ## Starts -/

variable {m : Maintainer} {thread : Except IoError Unit} {install : Except String Unit}

/-- What runs already does not start again. -/
theorem value_start_of_running (h : m.isRunning = true) (thread : Except IoError Unit)
    (install : Except String Unit) :
    (m.start thread install).value = (.error (.watch "already running"), m) := by
  simp [start, h]

/-- Without a thread nothing is made. -/
theorem value_start_of_no_thread (h : m.isRunning = false) (cause : IoError)
    (install : Except String Unit) :
    (m.start (.error cause) install).value = (.error (.io cause), m) := by
  simp [start, h]

theorem value_start_of_installed (h : m.isRunning = false) :
    (m.start (.ok ()) (.ok ())).value =
      (.ok (), { m with timer := some .idle, isWatching := true }) := by
  simp [start, h]

/-- Without a watch the timer stays. -/
theorem value_start_of_problem (h : m.isRunning = false) (problem : String) :
    (m.start (.ok ()) (.error problem)).value =
      (.error (.watch problem), { m with timer := some .idle }) := by
  simp [start, h]

theorem start_ok_iff :
    (m.start thread install).value.1 = .ok () ↔
      m.isRunning = false ∧ thread = .ok () ∧ install = .ok () := by
  cases hrunning : m.isRunning with
  | true => simp [value_start_of_running hrunning]
  | false =>
      cases thread with
      | error cause => simp [value_start_of_no_thread hrunning]
      | ok _ =>
          cases install with
          | ok _ => simp [value_start_of_installed hrunning]
          | error problem => simp [value_start_of_problem hrunning]

/-- All that a failed start can be. There is a timer afterwards unless there was no
thread for it. -/
theorem start_error_cases {e : Error} (h : (m.start thread install).value.1 = .error e) :
    (m.isRunning = true ∧ e = .watch "already running" ∧ (m.start thread install).value.2 = m) ∨
    (m.isRunning = false ∧ ∃ cause, thread = .error cause ∧ e = .io cause ∧
      (m.start thread install).value.2 = m) ∨
    (m.isRunning = false ∧ thread = .ok () ∧ ∃ problem, install = .error problem ∧
      e = .watch problem ∧
      (m.start thread install).value.2 = { m with timer := some .idle }) := by
  cases hrunning : m.isRunning with
  | true =>
      rw [value_start_of_running hrunning] at h ⊢
      exact .inl ⟨rfl, (Except.error.inj h).symm, rfl⟩
  | false =>
      cases thread with
      | error cause =>
          rw [value_start_of_no_thread hrunning] at h ⊢
          exact .inr (.inl ⟨rfl, cause, rfl, (Except.error.inj h).symm, rfl⟩)
      | ok _ =>
          cases install with
          | ok _ =>
              rw [value_start_of_installed hrunning] at h
              cases h
          | error problem =>
              rw [value_start_of_problem hrunning] at h ⊢
              exact .inr (.inr ⟨rfl, rfl, problem, rfl, (Except.error.inj h).symm, rfl⟩)

end Maintainer

/-! ## Lives -/

/-- What happens to a maintainer that is started and stopped. -/
inductive LifeAct where
  | act (a : Act)
  /-- A quiet period passes. -/
  | settle
  /-- A start, for which a thread is to be had or not and the watch is installed or not. -/
  | start (thread : Except IoError Unit) (install : Except String Unit)
  | stop

namespace Standing

/-- How a maintainer stands after something has happened to it. -/
def after (standing : Standing) : LifeAct → Standing
  | .start thread install =>
      if standing ≠ off ∨ ¬ thread.isOk then standing
      else if install.isOk then on
      else deaf
  | .stop => off
  | _ => standing

/-- Only a stop takes the timer away. -/
theorem foldl_after_ne_off {standing : Standing} {acts : List LifeAct} (h : standing ≠ off)
    (hacts : .stop ∉ acts) : acts.foldl after standing ≠ off := by
  induction acts generalizing standing with
  | nil => exact h
  | cons act acts ih =>
      simp only [List.mem_cons, not_or] at hacts
      refine ih ?_ hacts.2
      cases act with
      | act a => exact h
      | settle => exact h
      | start thread install => rwa [after, if_pos (.inl h)]
      | stop => exact absurd rfl hacts.1

end Standing

namespace World

variable {σ : Type} (ops : DocumentStore σ) (parse : Parser)

def live (w : World σ) : LifeAct → World σ
  | .act a => w.step ops parse a
  | .settle =>
      let settled := (w.maintainer.settle ops parse w.fs w.store).value
      { w with maintainer := settled.1, store := settled.2 }
  | .start thread install => { w with maintainer := (w.maintainer.start thread install).value.2 }
  | .stop =>
      let stopped := (w.maintainer.stop ops parse w.fs w.store).value
      { w with maintainer := stopped.1, store := stopped.2 }

def liveAll (w : World σ) (acts : List LifeAct) : World σ := acts.foldl (live ops parse) w

@[simp] theorem liveAll_nil (w : World σ) : w.liveAll ops parse [] = w := rfl

@[simp] theorem liveAll_cons (w : World σ) (act : LifeAct) (acts : List LifeAct) :
    w.liveAll ops parse (act :: acts) = (w.live ops parse act).liveAll ops parse acts := rfl

end World

/-! ## What keeps timer and watch -/

namespace Maintainer

variable {m m' : Maintainer}

/-- Both have a timer or neither, and so for the watch. -/
def StandsAs (m' m : Maintainer) : Prop :=
  m'.isRunning = m.isRunning ∧ m'.isWatching = m.isWatching

theorem StandsAs.standing_eq (h : m'.StandsAs m) : m'.standing = m.standing := by
  rw [standing, standing, h.1, h.2]

theorem StandsAs.isSettled (h : m'.StandsAs m) (hm : m.IsSettled) : m'.IsSettled := by
  rwa [IsSettled, h.1, h.2]

/-- An event tells the timer at most. -/
theorem standsAs_handle (fs : FileSystem) (m : Maintainer) (e : ChangeEvent) :
    (m.handle fs e).value.StandsAs m := by
  refine ⟨?_, rfl⟩
  simp only [handle, Logged.value_bind, Logged.value_pure, isRunning]
  split
  · exact Option.isSome_map
  · rfl

variable {σ : Type} {ops : DocumentStore σ} {parse : Parser}

theorem standsAs_settle (fs : FileSystem) (m : Maintainer) (store : σ) :
    (m.settle ops parse fs store).value.1.StandsAs m := by
  obtain ⟨scope, buffer, timer, isWatching⟩ := m
  rcases timer with - | (- | - | -) <;> exact ⟨rfl, rfl⟩

theorem running_stop (fs : FileSystem) (m : Maintainer) (store : σ) :
    (m.stop ops parse fs store).value.1.isRunning = false ∧
      (m.stop ops parse fs store).value.1.isWatching = false := by
  obtain ⟨scope, buffer, timer, isWatching⟩ := m
  cases timer <;> exact ⟨rfl, rfl⟩

end Maintainer

/-! ## Runs -/

namespace World

variable {σ : Type} {ops : DocumentStore σ} {parse : Parser} {w : World σ}

theorem standsAs_step (a : Act) : (w.step ops parse a).maintainer.StandsAs w.maintainer := by
  cases a with
  | change after => exact ⟨rfl, rfl⟩
  | event e => exact Maintainer.standsAs_handle _ _ e
  | flush => exact ⟨rfl, rfl⟩

theorem isSettled_live (h : w.maintainer.IsSettled) (act : LifeAct) :
    (w.live ops parse act).maintainer.IsSettled := by
  cases act with
  | act a => exact (standsAs_step a).isSettled h
  | settle => exact (Maintainer.standsAs_settle _ _ _).isSettled h
  | start thread install =>
      show (w.maintainer.start thread install).value.2.IsSettled
      cases hrunning : w.maintainer.isRunning with
      | true =>
          rw [Maintainer.value_start_of_running hrunning]
          exact h
      | false =>
          cases thread with
          | error cause =>
              rw [Maintainer.value_start_of_no_thread hrunning]
              exact h
          | ok _ =>
              cases install with
              | ok _ =>
                  rw [Maintainer.value_start_of_installed hrunning]
                  exact fun _ => rfl
              | error problem =>
                  rw [Maintainer.value_start_of_problem hrunning]
                  exact fun _ => rfl
  | stop =>
      intro hwatching
      exact absurd hwatching (by simp [live, (Maintainer.running_stop _ _ _).2])

theorem standing_live (h : w.maintainer.IsSettled) (act : LifeAct) :
    (w.live ops parse act).maintainer.standing = w.maintainer.standing.after act := by
  cases act with
  | act a => exact (standsAs_step a).standing_eq
  | settle => exact (Maintainer.standsAs_settle _ _ _).standing_eq
  | start thread install =>
      show (w.maintainer.start thread install).value.2.standing = _
      cases hrunning : w.maintainer.isRunning with
      | true =>
          rw [Maintainer.value_start_of_running hrunning, Standing.after,
            if_pos (.inl (Maintainer.standing_ne_off_iff.2 hrunning))]
      | false =>
          have hwatching := h.isWatching_eq_false hrunning
          cases thread with
          | error cause =>
              rw [Maintainer.value_start_of_no_thread hrunning, Standing.after,
                if_pos (.inr (by simp [Except.isOk, Except.toBool]))]
          | ok _ =>
              rw [Standing.after, Maintainer.standing_eq_off_iff.2 hrunning]
              cases install with
              | ok _ =>
                  rw [Maintainer.value_start_of_installed hrunning]
                  rfl
              | error problem =>
                  rw [Maintainer.value_start_of_problem hrunning]
                  simp [Maintainer.standing, Maintainer.isRunning, hwatching, Except.isOk,
                    Except.toBool]
  | stop => exact Maintainer.standing_eq_off_iff.2 (Maintainer.running_stop _ _ _).1

variable (ops parse) in
/-- How a maintainer stands after a run follows from its starts and stops. -/
theorem standing_liveAll (h : w.maintainer.IsSettled) (acts : List LifeAct) :
    (w.liveAll ops parse acts).maintainer.standing =
        acts.foldl Standing.after w.maintainer.standing ∧
      (w.liveAll ops parse acts).maintainer.IsSettled := by
  induction acts generalizing w with
  | nil => exact ⟨rfl, h⟩
  | cons act acts ih =>
      obtain ⟨hstanding, hsettled⟩ := ih (isSettled_live h act)
      exact ⟨by rw [liveAll_cons, hstanding, standing_live h, List.foldl_cons], hsettled⟩

/-- What runs is not started again before it is stopped. -/
theorem start_of_running (h : w.maintainer.IsSettled) (hrunning : w.maintainer.isRunning = true)
    {acts : List LifeAct} (hacts : .stop ∉ acts) (thread : Except IoError Unit)
    (install : Except String Unit) :
    ((w.liveAll ops parse acts).maintainer.start thread install).value.1 =
      .error (.watch "already running") := by
  have hlater : (w.liveAll ops parse acts).maintainer.standing ≠ .off := by
    rw [(standing_liveAll ops parse h acts).1]
    exact Standing.foldl_after_ne_off (Maintainer.standing_ne_off_iff.2 hrunning) hacts
  rw [Maintainer.value_start_of_running (Maintainer.standing_ne_off_iff.1 hlater)]

end World

/-- A new maintainer has no timer and no watch. -/
theorem Maintainer.standing_ofRoot {fs : FileSystem} {config : Config} {root : Path}
    {m : Maintainer} (hm : (ofRoot fs config root).value = .ok m) :
    m.standing = .off ∧ m.IsSettled := by
  unfold ofRoot at hm
  rw [Logged.value_bind] at hm
  cases hscope : (Scope.ofRoot fs config root).value with
  | error e =>
      rw [hscope] at hm
      cases hm
  | ok scope =>
      rw [hscope] at hm
      obtain rfl := Except.ok.inj hm
      exact ⟨rfl, fun h => h⟩

/-- Whatever has happened to a maintainer, a start goes through exactly if it does not
run, there is a thread for its timer and the watch is installed, and then it runs and
watches. A start that fails changes nothing if the maintainer runs or there is no thread.
Otherwise the start leaves a timer. While there is one no start goes through before a
stop, whether or not its watch could be installed. After a stop the thread and the watch
decide alone. -/
theorem start_after_run {σ : Type} {fs : FileSystem} {config : Config} {root : Path}
    {m : Maintainer} (hm : (Maintainer.ofRoot fs config root).value = .ok m)
    (ops : DocumentStore σ) (parse : Parser) (store : σ) (acts : List LifeAct) :
    let w := World.liveAll ops parse ⟨fs, m, store⟩ acts
    w.maintainer.standing = acts.foldl Standing.after .off ∧
    (∀ thread install, (w.maintainer.start thread install).value.1 = .ok () ↔
      w.maintainer.isRunning = false ∧ thread = .ok () ∧ install = .ok ()) ∧
    (∀ thread install, (w.maintainer.start thread install).value.1 = .ok () →
      (w.maintainer.start thread install).value.2.standing = .on) ∧
    (∀ thread install e, (w.maintainer.start thread install).value.1 = .error e →
      (w.maintainer.isRunning = true ∧ e = .watch "already running" ∧
          (w.maintainer.start thread install).value.2 = w.maintainer) ∨
      (w.maintainer.isRunning = false ∧ ∃ cause, thread = .error cause ∧ e = .io cause ∧
          (w.maintainer.start thread install).value.2 = w.maintainer) ∨
      (w.maintainer.isRunning = false ∧ thread = .ok () ∧ ∃ problem, install = .error problem ∧
          e = .watch problem ∧
          (w.maintainer.start thread install).value.2 =
            { w.maintainer with timer := some .idle })) ∧
    (∀ thread install, (w.maintainer.start thread install).value.2.isRunning = true →
      ∀ acts', .stop ∉ acts' → ∀ thread' install',
        (((w.live ops parse (.start thread install)).liveAll ops parse acts').maintainer.start
          thread' install').value.1 = .error (.watch "already running")) ∧
    ∀ thread install, ((w.live ops parse .stop).maintainer.start thread install).value.1 =
      .ok () ↔ thread = .ok () ∧ install = .ok () := by
  intro w
  obtain ⟨hoff, hnew⟩ := Maintainer.standing_ofRoot hm
  obtain ⟨hstanding, hsettled⟩ :=
    World.standing_liveAll ops parse (w := ⟨fs, m, store⟩) hnew acts
  refine ⟨?_, fun thread install => Maintainer.start_ok_iff, ?_,
    fun thread install e => Maintainer.start_error_cases, ?_, ?_⟩
  · rw [hstanding, hoff]
  · intro thread install hstart
    obtain ⟨hrunning, rfl, rfl⟩ := Maintainer.start_ok_iff.1 hstart
    rw [Maintainer.value_start_of_installed hrunning]
    rfl
  · intro thread install hrunning acts' hacts
    have hlater : (w.live ops parse (.start thread install)).maintainer.IsSettled :=
      World.isSettled_live hsettled _
    exact World.start_of_running hlater hrunning hacts
  · intro thread install
    have hstopped : (w.live ops parse .stop).maintainer.isRunning = false :=
      (Maintainer.running_stop _ _ _).1
    rw [Maintainer.start_ok_iff, hstopped, eq_self, true_and]

/-- There is no thread at first, and the watch cannot be installed then. A quiet period
later both could be had, but the maintainer has to be stopped before it starts. -/
theorem start_after_run_noWatch :
    let fs : FileSystem := ⟨[([[114]], .directory)], []⟩
    ∃ m, (Maintainer.ofRoot fs {} (.ofString "/r")).value = .ok m ∧
      let w : World MemoryStore := ⟨fs, m, {}⟩
      let ops := MemoryStore.operations
      let parse : Parser := fun _ => none
      let failed := w.live ops parse (.start (.ok ()) (.error "no space left"))
      (w.live ops parse (.start (.error .temporarilyUnavailable) (.ok ()))).maintainer = m ∧
      failed.maintainer = { m with timer := some .idle } ∧
      ((failed.live ops parse .settle).maintainer.start (.ok ()) (.ok ())).value.1 =
        .error (.watch "already running") ∧
      ((failed.live ops parse .stop).maintainer.start (.ok ()) (.ok ())).value.1 = .ok () := by
  intro fs
  obtain ⟨hroot, hdir⟩ : fs.resolve (.ofString "/r") = .ok [[114]] ∧
      fs.isDir (.ofString "/r") = true := by decide +kernel
  have hm : (Maintainer.ofRoot fs {} (.ofString "/r")).value = .ok (.atTop fs {} [[114]]) := by
    rw [Maintainer.value_ofRoot hroot, if_pos hdir]
  refine ⟨_, hm, ?_⟩
  intro w ops parse failed
  let unwatched : LifeAct := .start (.ok ()) (.error "no space left")
  obtain ⟨-, -, -, hfails, hrefuses, -⟩ := start_after_run hm ops parse {} []
  obtain ⟨-, -, -, -, -, hstops⟩ := start_after_run hm ops parse {} [unwatched]
  have hthread : (w.live ops parse
      (.start (.error .temporarilyUnavailable) (.ok ()))).maintainer = w.maintainer := by
    obtain ⟨hrunning, -⟩ | ⟨-, -, -, -, hkept⟩ | ⟨-, hthread, -⟩ :=
      hfails (.error .temporarilyUnavailable) (.ok ()) (.io .temporarilyUnavailable) rfl
    · cases hrunning
    · exact hkept
    · cases hthread
  have hleft : failed.maintainer = { w.maintainer with timer := some .idle } := by
    obtain ⟨hrunning, -⟩ | ⟨-, cause, hcause, -⟩ | ⟨-, -, problem, -, -, hleft⟩ :=
      hfails (.ok ()) (.error "no space left") (.watch "no space left") rfl
    · cases hrunning
    · cases hcause
    · exact hleft
  exact ⟨hthread, hleft, hrefuses _ _ rfl [.settle] (by simp) (.ok ()) (.ok ()),
    (hstops (.ok ()) (.ok ())).2 ⟨rfl, rfl⟩⟩

/-- A file stands in the way to the root when the maintainer starts, and the root is
there again when it is to start once more. -/
theorem start_failure_keeps_timer :
    let there : FileSystem :=
      ⟨[([[114]], .directory), ([[114], Utf8.encode "s"], .directory)], []⟩
    let blocked : FileSystem := ⟨[([[114]], .file [114] 5)], []⟩
    ∃ m, (Maintainer.ofRoot there {} (.ofString "/r/s")).value = .ok m ∧
      m.isRunning = false ∧
      let failed := (m.start (.ok ()) (m.install blocked)).value
      failed.1 = .error (.watch "Not a directory (os error 20)") ∧
      failed.2.isRunning = true ∧ failed.2.install there = .ok () ∧
      (failed.2.start (.ok ()) (failed.2.install there)).value.1 =
        .error (.watch "already running") := by
  intro there blocked
  let m : Maintainer := .atTop there {} [[114], [115]]
  let deaf : Maintainer := { m with timer := some .idle }
  obtain ⟨⟨hroot, hdir⟩, hblocked, hthere⟩ :
      (there.resolve (.ofString "/r/s") = .ok [[114], [115]] ∧
        there.isDir (.ofString "/r/s") = true) ∧
      m.install blocked = .error "Not a directory (os error 20)" ∧
      deaf.install there = .ok () := by decide +kernel
  have hm : (Maintainer.ofRoot there {} (.ofString "/r/s")).value = .ok m := by
    rw [Maintainer.value_ofRoot hroot, if_pos hdir]
  have hfailed : (m.start (.ok ()) (m.install blocked)).value =
      (.error (.watch "Not a directory (os error 20)"), deaf) := by
    rw [hblocked, Maintainer.value_start_of_problem rfl]
  have hrunning : deaf.isRunning = true := rfl
  refine ⟨m, hm, rfl, ?_⟩
  rw [hfailed]
  refine ⟨rfl, hrunning, hthere, ?_⟩
  rw [Maintainer.value_start_of_running hrunning]

end SymbolIndex
