/-
  Mocktail.Session.Transitions — what one turn of `GameSessionCoordinator` can do.

  `Begins` lists every outcome of a method's first turn with the guards that hold there,
  `Finishes` those of its second turn, `Records` those of a present. The three inversion
  lemmas (`begin_begins`, `finish_finishes`, `record_records`) read the source's guard
  ladders once; every invariant of the component is then a case analysis on these lists.
-/

import Mocktail.Session.Coordinator

namespace Mocktail.Session

variable (cfg : Config) (c : Coordinator)

/-! ## First turns -/

/-- `SurfaceChanged` or `RebindSurface`. -/
def Op.changes : Op → Bool
  | .surfaceChanged _ | .rebindSurface _ => true
  | _ => false

inductive Begins : Op → Turn → Prop
  /-- A duplicate or a refusal: nothing changes. -/
  | idle (o : Op) (r : UpdateResult) : r.status ≠ .applied → Begins o (.done (c, r))
  | fails (o : Op) (cause : Status) (m : String) : Begins o (.done (c.failLocked cause m))
  | principal (p : GameSessionPrincipal) (m : String) : c.state = .created → c.principalReady = false →
      cfg.capabilities.complete = true →
      Begins (.setPrincipal p) (.done ({ c with principal := p, principalReady := true }.applyLocked .principalReady m))
  | joined (r : GameJoinRequest) (m : String) : c.isForwardTerminalLocked = false → c.principalReady = true →
      c.joinRequestQueued = false → c.pendingSurfaceAvailable = false →
      Begins (.queueJoinRequest r)
        (.done ({ c with request := r, joinRequestQueued := true }.applyLocked .joinRequestQueued m))
  /-- The start prerequisites `StartIfReadyLocked` tests again are not met. -/
  | joinFails (r : GameJoinRequest) (cause : Status) (m : String) : c.isForwardTerminalLocked = false →
      Begins (.queueJoinRequest r) (.done ({ c with request := r, joinRequestQueued := true }.failLocked cause m))
  | joinStarts (r : GameJoinRequest) (m : String) : c.isForwardTerminalLocked = false → c.principalReady = true →
      c.joinRequestQueued = false → c.pendingSurfaceAvailable = true → c.surfaceCreated = true →
      c.initialStartCompleted = false →
      Begins (.queueJoinRequest r)
        (.call ({ c with request := r, joinRequestQueued := true }.enter .starting).discardPendingPresentLocked
          (.starting c.principal r c.pendingSurface m))
  | creates (g : Nat) : c.isForwardTerminalLocked = false → c.principalReady = true → g ≠ 0 →
      (c.initialStartCompleted = true → c.state = .paused ∧ g ≠ c.activeSurface.generation ∧
        g ≠ c.lastDestroyedSurfaceGeneration) →
      (c.initialStartCompleted = false → c.surfaceCreated = false) →
      Begins (.surfaceCreated g) (.call (c.enter .preparingSurface) (.creating g))
  | candidate (o : Op) (s : GameSurface) (m : String) : c.isForwardTerminalLocked = false → c.principalReady = true →
      validSurface s = true → c.surfaceCreated = true → s.generation = c.preparedSurfaceGeneration →
      c.initialStartCompleted = false → c.joinRequestQueued = false → o.changes = true →
      Begins o (.done ({ c with pendingSurface := s, pendingSurfaceAvailable := true }.applyLocked
        .surfaceAvailable m))
  | changeStarts (o : Op) (s : GameSurface) (m : String) : c.isForwardTerminalLocked = false →
      c.principalReady = true → validSurface s = true → c.surfaceCreated = true →
      s.generation = c.preparedSurfaceGeneration → c.initialStartCompleted = false → c.joinRequestQueued = true →
      o.changes = true →
      Begins o (.call ({ c with pendingSurface := s, pendingSurfaceAvailable := true }.enter
          .starting).discardPendingPresentLocked (.starting c.principal c.request s m))
  | resumes (o : Op) (s : GameSurface) : c.principalReady = true → validSurface s = true → c.surfaceCreated = true →
      s.generation = c.preparedSurfaceGeneration → c.initialStartCompleted = true → c.state = .paused →
      o.changes = true →
      Begins o (.call (({ c with pendingSurface := s, pendingSurfaceAvailable := true }.discardPendingPresentLocked).enter
        .resuming) (.resuming s))
  | updates (o : Op) (s : GameSurface) : c.principalReady = true → validSurface s = true → c.surfaceCreated = true →
      s.generation = c.preparedSurfaceGeneration → c.initialStartCompleted = true → c.state = .running →
      o.changes = true →
      Begins o (.call (({ c with pendingSurface := s, pendingSurfaceAvailable := true }.discardPendingPresentLocked).enter
        .updatingSurface) (.updating s))
  | unused (g : Nat) (m : String) : c.isForwardTerminalLocked = false → g ≠ 0 → c.initialStartCompleted = false →
      (c.surfaceCreated = true ∧ g = c.preparedSurfaceGeneration ∨
        c.pendingSurfaceAvailable = true ∧ g = c.pendingSurface.generation) →
      Begins (.surfaceDestroyed g)
        (.done ((c.forgetSurface g).applyLocked (c.forgetSurface g).preStartStateLocked m))
  | pauses (g : Nat) : g ≠ 0 → c.initialStartCompleted = true → c.state = .running →
      c.activeSurfaceAvailable = true → g = c.activeSurface.generation →
      Begins (.surfaceDestroyed g)
        (.call (({ c with activeSurfaceAvailable := false }.forgetSurface g).enter .pausing) .pausing)
  | leaves : c.returnedToLuaApp = false → c.initialStartCompleted = true → c.state = .running ∨ c.state = .paused →
      Begins .leaveGame (.call (c.enter .leaving) .leaving)
  | stops : c.state ≠ .stopped → c.shutdownAttempted = false →
      Begins .shutdown (.call ({ c with shutdownAttempted := true }.enter .stopping) .stopping)

theorem startIfReady_cases (m : String) : (∃ cause m', startIfReadyLocked c m = .done (c.failLocked cause m')) ∨
    c.principalReady = true ∧ c.joinRequestQueued = true ∧ c.surfaceCreated = true ∧
      c.pendingSurfaceAvailable = true ∧ c.initialStartCompleted = false ∧
      startIfReadyLocked c m = .call (c.enter .starting).discardPendingPresentLocked
        (.starting c.principal c.request c.pendingSurface m) := by
  unfold startIfReadyLocked
  split
  · exact Or.inl ⟨_, _, rfl⟩
  · rename_i h
    simp only [Bool.or_eq_true, Bool.not_eq_true', not_or, Bool.not_eq_false, Bool.not_eq_true] at h
    obtain ⟨⟨⟨⟨h1, h2⟩, h3⟩, h4⟩, h5⟩ := h
    exact Or.inr ⟨h1, h2, h3, h4, h5, rfl⟩

theorem updateSurface_begins {o : Op} (ho : o.changes = true) (s : GameSurface) (force : Bool) :
    Begins cfg c o (updateSurface c s force) := by
  unfold updateSurface
  by_cases ht : c.isForwardTerminalLocked = true
  · rw [if_pos ht]
    exact .idle _ _ (by simp)
  rw [if_neg ht]
  by_cases hp : c.principalReady = true
  swap
  · rw [if_pos (by simpa using hp)]
    exact .fails _ _ _
  rw [if_neg (by simp [hp])]
  by_cases hv : validSurface s = true
  swap
  · rw [if_pos (by simpa using hv)]
    exact .fails _ _ _
  rw [if_neg (by simp [hv])]
  by_cases hc : (!c.surfaceCreated || s.generation != c.preparedSurfaceGeneration) = true
  · rw [if_pos hc]
    exact .fails _ _ _
  rw [if_neg hc]
  simp only [Bool.not_eq_true] at ht
  simp only [Bool.or_eq_true, Bool.not_eq_true', bne_iff_ne, ne_eq, not_or, Bool.not_eq_false, Decidable.not_not] at hc
  obtain ⟨hcr, hg⟩ := hc
  by_cases hi : c.initialStartCompleted = true
  swap
  -- before the initial start: a candidate surface, which starts the game once a join waits for it
  · have hi : c.initialStartCompleted = false := by simpa using hi
    rw [if_pos (by simp [hi])]
    split
    · exact .idle _ _ (by simp)
    simp only
    split
    · rename_i hj
      exact .candidate _ _ _ ht hp hv hcr hg hi (by simpa using hj) ho
    · rename_i hj
      have hj : c.joinRequestQueued = true := by simpa using hj
      rcases startIfReady_cases { c with pendingSurface := s, pendingSurfaceAvailable := true }
          "changed surface completed start prerequisites" with ⟨cause, m, h⟩ | ⟨-, -, -, -, -, h⟩
      · simp [startIfReadyLocked, hp, hcr, hi, hj] at h
      · rw [h]; exact .changeStarts _ _ _ ht hp hv hcr hg hi hj ho
  rw [if_neg (by simp [hi])]
  split
  · rename_i hs; exact .resumes _ _ hp hv hcr hg hi (by simpa using hs) ho
  split
  · exact .fails _ _ _
  rename_i hr
  split
  · exact .idle _ _ (by simp)
  · exact .updates _ _ hp hv hcr hg hi (by simpa using hr) ho

theorem surfaceCreated_begins (g : Nat) : Begins cfg c (.surfaceCreated g) (surfaceCreated c g) := by
  unfold surfaceCreated
  split
  · exact .idle _ _ (by simp)
  split
  · exact .idle _ _ (by simp)
  rename_i ht
  split
  · exact .fails _ _ _
  rename_i hp
  split
  · exact .fails _ _ _
  rename_i hg
  split
  · exact .fails _ _ _
  rename_i h1
  split
  · exact .fails _ _ _
  rename_i h2
  split
  · exact .fails _ _ _
  rename_i h3
  refine .creates g (by simpa using ht) (by simpa using hp) (by simpa using hg) (fun hi => ?_) (fun hi => ?_)
  · simp only [hi, Bool.true_and, bne_iff_ne, ne_eq, Decidable.not_not] at h1
    simpa [hi, h1, not_or] using h2
  · simpa [hi] using h3

theorem surfaceDestroyed_begins (g : Nat) : Begins cfg c (.surfaceDestroyed g) (surfaceDestroyed c g) := by
  unfold surfaceDestroyed
  split
  · exact .idle _ _ (by simp)
  split
  · exact .idle _ _ (by simp)
  rename_i ht
  split
  · exact .fails _ _ _
  rename_i hg
  split
  · rename_i hi
    simp only
    split
    · exact .fails _ _ _
    rename_i hm
    refine .unused g _ (by simpa using ht) (by simpa using hg) (by simpa using hi) ?_
    simp only [Bool.and_eq_true, Bool.not_eq_true', not_and_or, Bool.not_eq_false, beq_iff_eq] at hm
    exact hm
  rename_i hi
  split
  · exact .fails _ _ _
  rename_i hr
  simp only [Bool.or_eq_true, bne_iff_ne, ne_eq, Bool.not_eq_true', not_or, Decidable.not_not, Bool.not_eq_false] at hr
  split
  · exact .fails _ _ _
  rename_i hga
  exact .pauses g (by simpa using hg) (by simpa using hi) hr.1 hr.2 (by simpa using hga)

theorem queueJoinRequest_begins (r : GameJoinRequest) : Begins cfg c (.queueJoinRequest r) (queueJoinRequest c r) := by
  unfold queueJoinRequest
  split
  · split
    · exact .idle _ _ (by simp)
    split
    · exact .idle _ _ (by simp)
    · exact .fails _ _ _
  rename_i hj
  split
  · exact .idle _ _ (by simp)
  rename_i ht
  split
  · exact .fails _ _ _
  rename_i hp
  split
  · exact .fails _ _ _
  split
  · exact .fails _ _ _
  simp only
  simp only [Bool.not_eq_true] at ht hj
  have hp : c.principalReady = true := by simpa using hp
  split
  · rename_i hs; exact .joined r _ ht hp hj (by simpa using hs)
  · rename_i hs
    have hs : c.pendingSurfaceAvailable = true := by simpa using hs
    rcases startIfReady_cases { c with request := r, joinRequestQueued := true }
        "game join request completed start prerequisites" with ⟨cause, m, h⟩ | ⟨-, -, hc, -, hi, h⟩
    · rw [h]; exact .joinFails r _ _ ht
    · rw [h]; exact .joinStarts r _ ht hp hj hs hc hi

theorem begin_begins (o : Op) : Begins cfg c o (begin cfg c o) := by
  cases o with
  | setPrincipal p =>
    simp only [begin, setPrincipal]
    split
    · split
      · exact .idle _ _ (by simp)
      split
      · exact .idle _ _ (by simp)
      · exact .fails _ _ _
    rename_i hp
    split
    · exact .idle _ _ (by simp)
    split
    · exact .fails _ _ _
    rename_i hs
    split
    · exact .fails _ _ _
    rename_i hk
    split
    · exact .fails _ _ _
    · exact .principal p _ (by simpa using hs) (by simpa using hp) (by simpa using hk)
  | queueJoinRequest r => exact queueJoinRequest_begins cfg c r
  | surfaceCreated g => exact surfaceCreated_begins cfg c g
  | surfaceChanged s => exact updateSurface_begins cfg c rfl s false
  | rebindSurface s => exact updateSurface_begins cfg c rfl s true
  | surfaceDestroyed g => exact surfaceDestroyed_begins cfg c g
  | leaveGame =>
    simp only [begin, leaveGame]
    split
    · exact .idle _ _ (by simp)
    rename_i hr
    split
    · exact .idle _ _ (by simp)
    split
    · exact .fails _ _ _
    rename_i h
    simp only [Bool.or_eq_true, Bool.not_eq_true', Bool.and_eq_true, bne_iff_ne, ne_eq, not_or, not_and_or,
      Decidable.not_not, Bool.not_eq_false] at h
    exact .leaves (by simpa using hr) h.1 h.2
  | shutdown =>
    simp only [begin, shutdown]
    split
    · exact .idle _ _ (by simp)
    rename_i hs
    split
    · exact .idle _ _ (by simp)
    rename_i ha
    split
    · exact .fails _ _ _
    · exact .stops (by simpa using hs) (by simpa using ha)

/-! ## Second turns -/

/-- The calls that carry a candidate surface; evidence of it is parked until they return. -/
def Frame.parks : Frame → Bool
  | .starting .. | .updating _ | .resuming _ => true
  | _ => false

/-- What a method does once its capability returned `status`. -/
inductive Finishes : Frame → Status → Coordinator × UpdateResult → Prop
  | failed (f : Frame) (st : Status) (m : String) : f.parks = false → st.ok = false → Finishes f st (c.failLocked st m)
  /-- A failed start, resume or update also forgets its candidate surface and evidence. -/
  | dropped (f : Frame) (st : Status) (m : String) : f.parks = true → st.ok = false →
      Finishes f st (c.discardPending.failLocked st m)
  | created (g : Nat) (st : Status) (m : String) : st.ok = true →
      Finishes (.creating g) st ({ c with surfaceCreated := true, preparedSurfaceGeneration := g }.applyLocked
        (if c.initialStartCompleted then .paused
          else { c with surfaceCreated := true, preparedSurfaceGeneration := g }.preStartStateLocked) m)
  | started (p : GameSessionPrincipal) (r : GameJoinRequest) (s : GameSurface) (a m : String) (st : Status) :
      st.ok = true →
      Finishes (.starting p r s a) st
        (({ c.promotePendingSurfaceLocked with initialStartCompleted := true,
                                               gamePaused := false }.commitPendingPresentLocked).applyLocked .running m)
  | resumed (s : GameSurface) (m : String) (st : Status) : st.ok = true →
      Finishes (.resuming s) st
        (({ c.promotePendingSurfaceLocked with gamePaused := false }.commitPendingPresentLocked).applyLocked .running m)
  | updated (s : GameSurface) (m : String) (st : Status) : st.ok = true →
      Finishes (.updating s) st ((c.promotePendingSurfaceLocked.commitPendingPresentLocked).applyLocked .running m)
  | paused (m : String) (st : Status) : st.ok = true →
      Finishes .pausing st ({ c with gamePaused := true }.applyLocked .paused m)
  | left (m : String) (st : Status) : st.ok = true →
      Finishes .leaving st (({ c with returnedToLuaApp := true }.releaseSession).applyLocked .returnedToLuaApp m)
  | stopped (m : String) (st : Status) : st.ok = true →
      Finishes .stopping st (c.releaseSession.applyLocked .stopped m)

theorem finish_finishes (f : Frame) (st : Status) : Finishes c f st (finish c f st) := by
  cases h : st.ok with
  | false =>
    cases f <;> simp only [finish, h, Bool.not_false, if_true]
    case starting => exact .dropped _ _ _ rfl h
    case resuming => exact .dropped _ _ _ rfl h
    case updating => exact .dropped _ _ _ rfl h
    all_goals exact .failed _ _ _ rfl h
  | true =>
    cases f <;> simp only [finish, h, Bool.not_true, Bool.false_eq_true, if_false]
    case creating g => exact .created g _ _ h
    case starting p r s a => exact .started p r s a _ _ h
    case updating s => exact .updated s _ _ h
    case pausing => exact .paused _ _ h
    case resuming s => exact .resumed s _ _ h
    case leaving => exact .left _ _ h
    case stopping => exact .stopped _ _ h

/-- A commit writes the presented frame, if evidence is parked, and no other field. -/
theorem commit_eq : c.commitPendingPresentLocked =
    { c with gamePresented := c.gamePresented || c.pendingPresent,
             firstPresentedFrame := if c.pendingPresent && !c.gamePresented then c.pendingPresentEvidence.frameSerial
               else c.firstPresentedFrame,
             revision := if c.pendingPresent && !c.gamePresented then c.revision + 1 else c.revision,
             pendingPresent := false,
             pendingPresentEvidence := {} } := by
  unfold Coordinator.commitPendingPresentLocked
  cases hp : c.pendingPresent <;> cases hg : c.gamePresented <;> simp [hp, hg]

/-! ## Presents -/

inductive Records (e : GamePresentEvidence) : Coordinator × UpdateResult → Prop
  | idle (r : UpdateResult) : r.status ≠ .applied → Records e (c, r)
  | parks (r : UpdateResult) : Coordinator.isPresentShapeValidLocked cfg e = true → deferred c e = true →
      c.gamePresented = false → c.pendingPresent = false → r.status = .applied →
      Records e ({ c with pendingPresent := true, pendingPresentEvidence := e, revision := c.revision + 1 }, r)
  | observes (r : UpdateResult) : Coordinator.isPresentShapeValidLocked cfg e = true → immediate c e = true →
      c.gamePresented = false → r.status = .applied →
      Records e (c.markPresented e.frameSerial, r)

theorem record_records (e : GamePresentEvidence) : Records cfg c e (recordGamePresent cfg c e) := by
  unfold recordGamePresent
  split
  · exact .idle _ (by simp)
  rename_i hv
  split
  · exact .idle _ (by simp)
  rename_i hd
  split
  · exact .idle _ (by simp)
  rename_i hp
  have hv : Coordinator.isPresentShapeValidLocked cfg e = true := by simpa using hv
  have hp : c.gamePresented = false := by simpa using hp
  split
  · rename_i h
    split
    · exact .idle _ (by simp)
    · rename_i hn; exact .parks _ hv h hp (by simpa using hn) rfl
  · rename_i h
    exact .observes _ hv (by simpa [h] using hd) hp rfl

end Mocktail.Session
