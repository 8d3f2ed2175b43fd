import QrTrust.Lib.Runs
import Mathlib.Data.List.Induction
import Mathlib.Logic.Function.Basic

/-! # Row locks

    A keyed table that sessions change in transactions, one row a session.  A
    session that updates a row reads it under an exclusive lock, checks it, and
    changes the row as its statement then finds it; one that inserts a row looks
    it up first, without a lock.  Sessions interleave between any two of their
    statements, and may give up at each of them.

    What is committed changes by one job at a time, and an update's check held of
    the very row that it replaces (`change_apply`, `change_run`). -/

namespace RowLocks

variable {T K V : Type}

/-- An exclusive lock on a row: its holder, and the version the holder wrote. -/
structure Lock (T V : Type) where
  holder : T
  written : Option V

/-- What a session is to do with one row.  An update sees the row that its
    `where` clause admits. -/
inductive Job (K V : Type) where
  | insert (key : K) (row : V)
  | update (key : K) (sees check : V → Bool) (change : V → V)

/-- The row of a job. -/
def Job.key : Job K V → K
  | insert key _ => key
  | update key _ _ _ => key

/-- How far a session is. -/
inductive Phase (V : Type) where
  | waiting
  | absent
  | read (row : V)
  | written
  | done

/-- The committed rows, the locks, and the sessions. -/
structure System (T K V : Type) where
  committed : K → Option V
  locks : K → Option (Lock T V)
  phases : T → Phase V

/-- Nothing is locked, and no session has begun. -/
def start (committed : K → Option V) : System T K V where
  committed := committed
  locks := fun _ => none
  phases := fun _ => .waiting

/-- A session advances by its next statement, or gives up. -/
inductive Action (T : Type) where
  | advance (session : T)
  | leave (session : T)

/-- The session of an action. -/
def Action.session : Action T → T
  | advance t => t
  | leave t => t

section Steps

variable [DecidableEq T] [DecidableEq K]

/-- A session goes on. -/
def System.to (s : System T K V) (t : T) (phase : Phase V) : System T K V :=
  { s with phases := Function.update s.phases t phase }

/-- A session holds a lock, with what it wrote. -/
def System.lock (s : System T K V) (t : T) (key : K) (written : Option V) : System T K V :=
  { s with locks := Function.update s.locks key (some ⟨t, written⟩) }

/-- Does the session hold the lock? -/
def System.holds (s : System T K V) (t : T) (key : K) : Bool :=
  (s.locks key).any fun lock => lock.holder = t

/-- The end of a transaction without its writes. -/
def System.rollback (s : System T K V) (t : T) (key : K) : System T K V :=
  if s.holds t key then { s with locks := Function.update s.locks key none } else s

/-- The end of a transaction with its writes. -/
def System.commit (s : System T K V) (t : T) (key : K) : System T K V :=
  match s.locks key with
  | some ⟨holder, some row⟩ =>
      if holder = t then
        { s with
          committed := Function.update s.committed key (some row)
          locks := Function.update s.locks key none }
      else s
  | _ => s

variable (raises : V → V → Bool) (jobs : T → Option (Job K V))

/-- The next statement of a session; it waits where another holds the lock. -/
def advance (s : System T K V) (t : T) : System T K V :=
  match jobs t, s.phases t with
  | some (.insert key _), .waiting =>
      if (s.committed key).isSome then s.to t .done else s.to t .absent
  | some (.insert key row), .absent =>
      match s.locks key with
      | some _ => s
      | none =>
          -- the unique index
          if (s.committed key).isSome then s.to t .done
          else (s.lock t key (some row)).to t .written
  | some (.update key sees _ _), .waiting =>
      match (s.committed key).filter sees with
      | none => s.to t .done
      | some row =>
          match s.locks key with
          | some _ => s
          | none => (s.lock t key none).to t (.read row)
  | some (.update key _ check change), .read row =>
      if !check row then (s.rollback t key).to t .done
      else
        match s.committed key with
        | none => (s.rollback t key).to t .done
        | some current =>
            -- the trigger
            if raises current (change current) then (s.rollback t key).to t .done
            else (s.lock t key (some (change current))).to t .written
  | some job, .written => (s.commit t job.key).to t .done
  | _, _ => s

/-- A session ends without its writes. -/
def leave (s : System T K V) (t : T) : System T K V :=
  match jobs t with
  | some job => (s.rollback t job.key).to t .done
  | none => s

/-- One action. -/
def apply (s : System T K V) : Action T → System T K V
  | .advance t => advance raises jobs s t
  | .leave t => leave jobs s t

/-- The table, as a machine. -/
def machine : Runs.Machine (System T K V) (Action T) (Action T) where
  plan _ action := [action]
  apply := apply raises jobs

/-! ## What a session relies on -/

/-- What a session that holds a lock relies on: the row it read is still the
    committed one, and what it wrote is its job's. -/
def Sound (s : System T K V) (t : T) : Prop :=
  match jobs t, s.phases t with
  | some (.update key _ _ _), .read row =>
      s.locks key = some ⟨t, none⟩ ∧ s.committed key = some row
  | some (.insert key row), .written =>
      s.locks key = some ⟨t, some row⟩ ∧ s.committed key = none
  | some (.update key _ check change), .written =>
      ∃ row, s.committed key = some row ∧ check row = true ∧ raises row (change row) = false
        ∧ s.locks key = some ⟨t, some (change row)⟩
  | _, _ => True

/-- **CHANGE**: how one action may change what is committed for a row. -/
inductive Change (key : K) : Option V → Option V → Prop where
  | same (row : Option V) : Change key row row
  | inserted {t : T} {row : V} (job : jobs t = some (.insert key row)) : Change key none (some row)
  | updated {t : T} {sees check : V → Bool} {change : V → V} {row : V}
      (job : jobs t = some (.update key sees check change)) (checked : check row = true)
      (quiet : raises row (change row) = false) : Change key (some row) (some (change row))

/-! ## One action -/

variable {raises : V → V → Bool} {jobs : T → Option (Job K V)} {s s' s'' : System T K V}
  {t other : T} {key : K}

/-- **ONE STATEMENT**: what a session that advances does. -/
inductive Advanced (raises : V → V → Bool) (jobs : T → Option (Job K V)) (s : System T K V) (t : T) :
    System T K V → Prop where
  | waits : Advanced raises jobs s t s
  | ends : Advanced raises jobs s t (s.to t .done)
  | gives (key : K) : Advanced raises jobs s t ((s.rollback t key).to t .done)
  | misses {key : K} {row : V} (job : jobs t = some (.insert key row)) :
      Advanced raises jobs s t (s.to t .absent)
  | inserts {key : K} {row : V} (job : jobs t = some (.insert key row))
      (free : s.locks key = none) (new : s.committed key = none) :
      Advanced raises jobs s t ((s.lock t key (some row)).to t .written)
  | reads {key : K} {sees check : V → Bool} {change : V → V} {row : V}
      (job : jobs t = some (.update key sees check change)) (free : s.locks key = none)
      (found : s.committed key = some row) :
      Advanced raises jobs s t ((s.lock t key none).to t (.read row))
  | updates {key : K} {sees check : V → Bool} {change : V → V} {row current : V}
      (job : jobs t = some (.update key sees check change)) (phase : s.phases t = .read row)
      (checked : check row = true) (found : s.committed key = some current)
      (quiet : raises current (change current) = false) :
      Advanced raises jobs s t ((s.lock t key (some (change current))).to t .written)
  | commits {job : Job K V} (hjob : jobs t = some job) (phase : s.phases t = .written) :
      Advanced raises jobs s t ((s.commit t job.key).to t .done)

theorem advanced (s : System T K V) (t : T) : Advanced raises jobs s t (advance raises jobs s t) := by
  rw [advance]
  split
  · split
    · exact .ends
    · exact .misses ‹_›
  · split
    · exact .waits
    · rename_i job _ _ hfree
      split
      · exact .ends
      · rename_i hnew
        exact .inserts job hfree (Option.not_isSome_iff_eq_none.mp hnew)
  · rename_i job _
    split
    · exact .ends
    · rename_i row hfound
      split
      · exact .waits
      · rename_i hfree
        exact .reads job hfree (Option.filter_eq_some_iff.mp hfound).1
  · rename_i key _ check _ row job hphase
    split
    · exact .gives key
    · rename_i hchecked
      have hchecked : check row = true := by simpa using hchecked
      split
      · exact .gives key
      · rename_i current hfound
        split
        · exact .gives key
        · rename_i hquiet
          exact .updates job hphase hchecked hfound (Bool.eq_false_iff.mpr hquiet)
  · exact .commits ‹_› ‹_›
  · exact .waits

/-! ## The other sessions -/

/-- **LEAVES OTHERS**: whatever another session has locked stays as it is, and so
    does how far that session is. -/
def LeavesOthers (s s' : System T K V) (t : T) : Prop :=
  ∀ other, other ≠ t → s'.phases other = s.phases other
    ∧ ∀ key written, s.locks key = some ⟨other, written⟩ →
        s'.locks key = some ⟨other, written⟩ ∧ s'.committed key = s.committed key

omit [DecidableEq T] [DecidableEq K] in
theorem LeavesOthers.refl (s : System T K V) (t : T) : LeavesOthers s s t :=
  fun _ _ => ⟨rfl, fun _ _ h => ⟨h, rfl⟩⟩

omit [DecidableEq T] [DecidableEq K] in
theorem LeavesOthers.trans (h : LeavesOthers s s' t) (h' : LeavesOthers s' s'' t) :
    LeavesOthers s s'' t := by
  intro other hne
  obtain ⟨hphase, hlocked⟩ := h other hne
  obtain ⟨hphase', hlocked'⟩ := h' other hne
  refine ⟨hphase'.trans hphase, fun key written hlock => ?_⟩
  obtain ⟨hlock', hrow⟩ := hlocked key written hlock
  obtain ⟨hlock'', hrow'⟩ := hlocked' key written hlock'
  exact ⟨hlock'', hrow'.trans hrow⟩

omit [DecidableEq K] in
theorem leavesOthers_to (s : System T K V) (t : T) (phase : Phase V) :
    LeavesOthers s (s.to t phase) t :=
  fun _ hne => ⟨Function.update_of_ne hne .., fun _ _ h => ⟨h, rfl⟩⟩

omit [DecidableEq T] in
/-- A lock that is taken was free, or held by the session. -/
theorem leavesOthers_lock {written : Option V}
    (h : ∀ lock, s.locks key = some lock → lock.holder = t) :
    LeavesOthers s (s.lock t key written) t := by
  intro other hne
  refine ⟨rfl, fun locked version hlock => ⟨?_, rfl⟩⟩
  have hkey : locked ≠ key := by
    rintro rfl
    exact hne (h _ hlock)
  exact (Function.update_of_ne hkey ..).trans hlock

theorem leavesOthers_rollback (s : System T K V) (t : T) (key : K) :
    LeavesOthers s (s.rollback t key) t := by
  rw [System.rollback]
  split
  · rename_i hholds
    intro other hne
    refine ⟨rfl, fun locked version hlock => ⟨?_, rfl⟩⟩
    have hkey : locked ≠ key := by
      rintro rfl
      rw [System.holds, hlock] at hholds
      exact hne (of_decide_eq_true hholds)
    exact (Function.update_of_ne hkey ..).trans hlock
  · exact .refl s t

theorem leavesOthers_commit (s : System T K V) (t : T) (key : K) :
    LeavesOthers s (s.commit t key) t := by
  rw [System.commit]
  split
  · rename_i holder row hheld
    split
    · rename_i hholder
      intro other hne
      refine ⟨rfl, fun locked version hlock => ?_⟩
      have hkey : locked ≠ key := by
        rintro rfl
        obtain rfl := (Lock.mk.inj (Option.some.inj (hheld.symm.trans hlock))).1
        exact hne hholder
      exact ⟨(Function.update_of_ne hkey ..).trans hlock, Function.update_of_ne hkey ..⟩
    · exact .refl s t
  · exact .refl s t

omit [DecidableEq T] [DecidableEq K] in
/-- What a session relies on outlives what leaves it alone. -/
theorem Sound.leave (h : Sound raises jobs s other) (hleaves : LeavesOthers s s' t)
    (hne : other ≠ t) : Sound raises jobs s' other := by
  obtain ⟨hphase, hlocked⟩ := hleaves other hne
  simp only [Sound, hphase] at h ⊢
  split
  · rename_i hjob hread
    simp only [hjob, hread] at h
    obtain ⟨hlock, hrow⟩ := h
    obtain ⟨hlock', hrow'⟩ := hlocked _ _ hlock
    exact ⟨hlock', hrow'.trans hrow⟩
  · rename_i hjob hwritten
    simp only [hjob, hwritten] at h
    obtain ⟨hlock, hrow⟩ := h
    obtain ⟨hlock', hrow'⟩ := hlocked _ _ hlock
    exact ⟨hlock', hrow'.trans hrow⟩
  · rename_i hjob hwritten
    simp only [hjob, hwritten] at h
    obtain ⟨row, hrow, hchecked, hquiet, hlock⟩ := h
    obtain ⟨hlock', hrow'⟩ := hlocked _ _ hlock
    exact ⟨row, hrow'.trans hrow, hchecked, hquiet, hlock'⟩
  · trivial

/-! ## The session itself -/

omit [DecidableEq K] in
theorem phases_to (s : System T K V) (t : T) (phase : Phase V) : (s.to t phase).phases t = phase :=
  Function.update_self ..

omit [DecidableEq K] in
/-- A session that is done relies on nothing. -/
theorem sound_done (s : System T K V) (t : T) : Sound raises jobs (s.to t .done) t := by
  rw [Sound, phases_to]
  split
  · rename_i hphase
    cases hphase
  · rename_i hphase
    cases hphase
  · rename_i hphase
    cases hphase
  · trivial

/-- What a session relies on after its own statement. -/
theorem Advanced.sound (h : Advanced raises jobs s t s') (hsound : Sound raises jobs s t) :
    Sound raises jobs s' t := by
  cases h with
  | waits => exact hsound
  | ends => exact sound_done s t
  | gives key => exact sound_done _ t
  | misses job => simp only [Sound, job, phases_to]
  | inserts job free new =>
      simp only [Sound, job, phases_to]
      exact ⟨Function.update_self .., new⟩
  | reads job free found =>
      simp only [Sound, job, phases_to]
      exact ⟨Function.update_self .., found⟩
  | @updates key sees check change row current job phase checked found quiet =>
      -- the row that the check accepted is the row the statement finds
      simp only [Sound, job, phase] at hsound
      obtain rfl := Option.some.inj (hsound.2.symm.trans found)
      simp only [Sound, job, phases_to]
      exact ⟨row, found, checked, quiet, Function.update_self ..⟩
  | commits hjob phase => exact sound_done _ t

/-- A session's statement leaves the other sessions alone. -/
theorem Advanced.leavesOthers (h : Advanced raises jobs s t s') (hsound : Sound raises jobs s t) :
    LeavesOthers s s' t := by
  cases h with
  | waits => exact .refl s t
  | ends => exact leavesOthers_to s t _
  | gives key => exact (leavesOthers_rollback s t key).trans (leavesOthers_to _ t _)
  | misses job => exact leavesOthers_to s t _
  | inserts job free new =>
      refine (leavesOthers_lock fun lock hlock => ?_).trans (leavesOthers_to _ t _)
      rw [free] at hlock
      cases hlock
  | reads job free found =>
      refine (leavesOthers_lock fun lock hlock => ?_).trans (leavesOthers_to _ t _)
      rw [free] at hlock
      cases hlock
  | updates job phase checked found quiet =>
      simp only [Sound, job, phase] at hsound
      refine (leavesOthers_lock fun lock hlock => ?_).trans (leavesOthers_to _ t _)
      rw [hsound.1] at hlock
      rw [← Option.some.inj hlock]
  | commits hjob phase => exact (leavesOthers_commit s t _).trans (leavesOthers_to _ t _)

/-- A commit writes what the job of the session makes of the committed row. -/
theorem change_commit {job : Job K V} (hjob : jobs t = some job) (hphase : s.phases t = .written)
    (hsound : Sound raises jobs s t) (key : K) :
    Change raises jobs key (s.committed key) ((s.commit t job.key).committed key) := by
  -- the other keys keep their rows
  have hother : ∀ {row : V}, s.locks job.key = some ⟨t, some row⟩ → key ≠ job.key →
      (s.commit t job.key).committed key = s.committed key := by
    intro row hlock hne
    rw [System.commit, hlock]
    simp only [if_true]
    exact Function.update_of_ne hne ..
  have hself : ∀ {row : V}, s.locks job.key = some ⟨t, some row⟩ →
      (s.commit t job.key).committed job.key = some row := by
    intro row hlock
    rw [System.commit, hlock]
    simp only [if_true]
    exact Function.update_self ..
  cases job with
  | insert locked row =>
      simp only [Sound, hjob, hphase] at hsound
      obtain ⟨hlock, hnew⟩ := hsound
      by_cases hkey : key = locked
      · subst hkey
        have hrow : (s.commit t (Job.insert key row).key).committed key = some row := hself hlock
        rw [hrow, hnew]
        exact .inserted hjob
      · rw [hother hlock hkey]
        exact .same _
  | update locked sees check change =>
      simp only [Sound, hjob, hphase] at hsound
      obtain ⟨row, hrow, hchecked, hquiet, hlock⟩ := hsound
      by_cases hkey : key = locked
      · subst hkey
        have hnew : (s.commit t (Job.update key sees check change).key).committed key
            = some (change row) := hself hlock
        rw [hnew, hrow]
        exact .updated hjob hchecked hquiet
      · rw [hother hlock hkey]
        exact .same _

omit [DecidableEq K] in
theorem committed_to (s : System T K V) (t : T) (phase : Phase V) :
    (s.to t phase).committed = s.committed := rfl

theorem committed_rollback (s : System T K V) (t : T) (key : K) :
    (s.rollback t key).committed = s.committed := by
  rw [System.rollback]
  split
  · rfl
  · rfl

/-- **CHANGE**: a statement changes committed rows as jobs do. -/
theorem Advanced.change (h : Advanced raises jobs s t s') (hsound : Sound raises jobs s t)
    (key : K) : Change raises jobs key (s.committed key) (s'.committed key) := by
  cases h with
  | commits hjob phase => exact change_commit hjob phase hsound key
  | gives locked =>
      rw [committed_to, committed_rollback]
      exact .same _
  | waits => exact .same _
  | ends => exact .same _
  | misses job => exact .same _
  | inserts job free new => exact .same _
  | reads job free found => exact .same _
  | updates job phase checked found quiet => exact .same _

/-! ## Runs -/

/-- **SOUND**: every session is right about what it relies on. -/
def AllSound (raises : V → V → Bool) (jobs : T → Option (Job K V)) (s : System T K V) : Prop :=
  ∀ t, Sound raises jobs s t

omit [DecidableEq T] [DecidableEq K] in
/-- Before any session has begun there is nothing to rely on. -/
theorem allSound_start (committed : K → Option V) :
    AllSound raises jobs (start (T := T) committed) := by
  intro t
  rw [Sound]
  split
  · rename_i hphase
    cases hphase
  · rename_i hphase
    cases hphase
  · rename_i hphase
    cases hphase
  · trivial

theorem allSound_advance (h : AllSound raises jobs s) (t : T) :
    AllSound raises jobs (advance raises jobs s t) := by
  have hstep : Advanced raises jobs s t (advance raises jobs s t) := advanced s t
  intro other
  by_cases hother : other = t
  · subst hother
    exact hstep.sound (h other)
  · exact (h other).leave (hstep.leavesOthers (h t)) hother

theorem allSound_leave (h : AllSound raises jobs s) (t : T) :
    AllSound raises jobs (leave jobs s t) := by
  rw [RowLocks.leave]
  split
  · rename_i job _
    intro other
    by_cases hother : other = t
    · subst hother
      exact sound_done _ other
    · exact (h other).leave ((leavesOthers_rollback s t _).trans (leavesOthers_to _ t _)) hother
  · exact h

theorem allSound_apply (h : AllSound raises jobs s) (action : Action T) :
    AllSound raises jobs (apply raises jobs s action) := by
  cases action with
  | advance t => exact allSound_advance h t
  | leave t => exact allSound_leave h t

/-- **ONE ACTION**: what is committed for a row changes as a job changes it. -/
theorem change_apply (h : AllSound raises jobs s) (action : Action T) (key : K) :
    Change raises jobs key (s.committed key) ((apply raises jobs s action).committed key) := by
  cases action with
  | advance t => exact (advanced s t).change (h t) key
  | leave t =>
      rw [apply, RowLocks.leave]
      split
      · rw [committed_to, committed_rollback]
        exact .same _
      · exact .same _

theorem allSound_run (committed : K → Option V) (actions : List (Action T)) :
    AllSound raises jobs ((machine raises jobs).applyAll (start committed) actions) := by
  refine @Runs.Machine.applyAll_invariant _ _ _ (machine raises jobs) (AllSound raises jobs) _ ?_ _
    (allSound_start committed)
  intro s action _ h
  exact allSound_apply h action

/-- **EVERY RUN**: between any two actions of a run, what is committed for a row
    changes as a job changes it. -/
theorem change_run (committed : K → Option V) (before : List (Action T)) (action : Action T)
    (key : K) :
    Change raises jobs key
      (((machine raises jobs).applyAll (start committed) before).committed key)
      (((machine raises jobs).applyAll (start committed) (before ++ [action])).committed key) := by
  rw [Runs.Machine.applyAll_append]
  exact change_apply (allSound_run committed before) action key

/-- What every change of a row keeps to, a run keeps to between any two points. -/
theorem run_keeps {R : Option V → Option V → Prop} (key : K) (hrefl : ∀ row, R row row)
    (htrans : ∀ a b c, R a b → R b c → R a c)
    (hchange : ∀ a b, Change raises jobs key a b → R a b) (committed : K → Option V)
    (before between : List (Action T)) :
    R (((machine raises jobs).applyAll (start committed) before).committed key)
      (((machine raises jobs).applyAll (start committed) (before ++ between)).committed key) := by
  induction between using List.reverseRecOn with
  | nil =>
      rw [List.append_nil]
      exact hrefl _
  | append_singleton between action ih =>
      rw [← List.append_assoc]
      exact htrans _ _ _ ih (hchange _ _ (change_run committed (before ++ between) action key))

end Steps

end RowLocks
