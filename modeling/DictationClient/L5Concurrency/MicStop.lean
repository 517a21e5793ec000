import DictationClient.L5Concurrency.MicStream

/-!
# The end of a microphone recording

`generator()` blocks in `queue.get()` while nothing is recorded. "Signal the
generator to terminate so that the client's streaming_recognize method will not
block the process termination" is what `__exit__` puts the sentinel for
(python/utils/mic_stream.py:40-42).

* `SentinelPut.none_mem`: until the generator has ended, the sentinel stays queued.
* `rank_step`: it is a bounded number of the generator's own steps away,
  whatever the other threads do.
* `generator_ends`: hence the generator never blocks again, and ends.
-/
namespace DictationClient.L5.MicStream

/-- The generator has ended. -/
def GenPc.Ended (pc : GenPc) : Prop := pc = .left ∨ pc = .returned

instance (pc : GenPc) : Decidable pc.Ended := inferInstanceAs (Decidable (_ ∨ _))

/-- The generator is inside a `queue.get()` that has nothing to return. -/
def Blocked (s : State) : Prop := s.pc = .get ∧ s.queue = []

theorem genStep_eq_none_iff {s : State} : genStep s = none ↔ Blocked s ∨ s.pc.Ended := by
  unfold genStep Blocked GenPc.Ended
  cases hpc : s.pc with
  | test => simp
  | get => cases hq : s.queue with
    | nil => simp
    | cons item rest => cases item <;> simp
  | drain data => cases hq : s.queue with
    | nil => simp
    | cons item rest => cases item <;> simp
  | yield data => simp
  | left => simp
  | returned => simp

/-- `__exit__` has put the sentinel. -/
structure SentinelPut (s : State) : Prop where
  accounted : Accounted s
  put : none ∈ puts s.log

/-- Only the end of the generator takes the sentinel out of the queue. -/
theorem SentinelPut.none_mem {s : State} (h : SentinelPut s) (hpc : s.pc ≠ .returned) :
    none ∈ s.queue := by
  have hput := h.put
  rw [h.accounted.of_running hpc] at hput
  rcases List.mem_append.mp hput with hmem | hmem
  · simp at hmem
  · exact hmem

theorem sentinelPut_step {s s' : State} {l : Lbl} (h : SentinelPut s) (hst : Step s l s') :
    SentinelPut s' := by
  refine ⟨accounted_step h.accounted hst, ?_⟩
  cases hst <;> simp [State.put, State.setClosed, h.put]

/-- The generator's own steps to its end, with `n` chunks queued in front of the
sentinel. -/
def GenPc.rank (n : Nat) : GenPc → Nat
  | .yield _ => n + 3
  | .test => n + 2
  | .get => n + 1
  | .drain _ => n + 1
  | .left => 0
  | .returned => 0

def State.rank (s : State) : Nat := s.pc.rank (beforeSentinel s.queue).length

/-- Another thread puts behind the sentinel. -/
theorem SentinelPut.rank_put {s : State} (h : SentinelPut s) (item : Option Bytes) (exiting : Bool) :
    State.rank { s.put item with exiting } = s.rank := by
  by_cases hpc : s.pc = .returned
  · simp only [State.rank, State.put, hpc, GenPc.rank]
  · simp only [State.rank, State.put, beforeSentinel_append_of_mem (h.none_mem hpc)]

theorem rank_step {s s' : State} {l : Lbl} (h : SentinelPut s) (hst : Step s l s') :
    s'.rank + (if l = .generator then 1 else 0) ≤ s.rank := by
  cases hst with
  | fillBuffer inData => exact (h.rank_put (some inData) s.exiting).le
  | close => exact Nat.le_refl _
  | exitClose => exact Nat.le_refl _
  | exitPut => exact (h.rank_put none false).le
  | enter hpc hc => simp [State.rank, hpc, GenPc.rank]
  | leave hpc hc => simp [State.rank, hpc, GenPc.rank]
  | get hpc hq => simp [State.rank, hpc, hq, GenPc.rank, beforeSentinel]
  | getNone hpc hq => simp [State.rank, hpc, GenPc.rank]
  | drain hpc hq => simp [State.rank, hpc, hq, GenPc.rank, beforeSentinel]
  | drainNone hpc hq => simp [State.rank, hpc, GenPc.rank]
  | drainEmpty hpc hq =>
    -- the sentinel is still queued
    have hmem := h.none_mem (by simp [hpc])
    rw [hq] at hmem; cases hmem
  | yield hpc => simp [State.rank, hpc, GenPc.rank]

/-- **The sentinel ends the generator.** In any run behind the put of the
sentinel, the generator takes at most three steps more than there are chunks
queued in front of the sentinel; when it cannot take a step, it has ended. -/
theorem generator_ends {ls ls' : List Lbl} {s s' : State} (hr : lts.Run start ls s)
    (hput : none ∈ puts s.log) (hr' : lts.Run s ls' s') :
    ls'.count .generator ≤ (beforeSentinel s.queue).length + 3 ∧ ¬ Blocked s' ∧
      (genStep s' = none → s'.pc.Ended) := by
  have hs : SentinelPut s := ⟨accounted_inductive.run rfl hr, hput⟩
  have hstep : ∀ s l s', SentinelPut s → lts.step s l s' → SentinelPut s' :=
    fun s l s' h hst => sentinelPut_step h (step_cases hst)
  have hrank : ∀ s l s', SentinelPut s → lts.step s l s' →
      s'.rank + (if l == .generator then 1 else 0) ≤ s.rank :=
    fun s l s' h hst => by simpa using rank_step h (step_cases hst)
  obtain ⟨hs', hle⟩ := LTS.countP_add_rank_le (p := (· == .generator))
    (q := fun _ => false) hstep hrank hs hr'
  have hblocked : ¬ Blocked s' := by
    rintro ⟨hpc, hq⟩
    have hmem := hs'.none_mem (by simp [hpc])
    rw [hq] at hmem; cases hmem
  refine ⟨?_, hblocked, fun h => (genStep_eq_none_iff.mp h).resolve_left hblocked⟩
  have hmost : s.rank ≤ (beforeSentinel s.queue).length + 3 := by
    unfold State.rank
    cases s.pc <;> simp only [GenPc.rank] <;> omega
  rw [List.countP_false, Function.const_apply] at hle
  rw [List.count]
  omega

/-- Two chunks and the sentinel are queued before the generator is resumed. -/
def queued : State :=
  ⟨true, [some [1], some [2], none], false, .get,
    [.put (some [1]), .put (some [2]), .setClosed, .put none]⟩

theorem queued_run :
    lts.Run start [.fillBuffer [1], .generator, .fillBuffer [2], .exitClose, .exitPut] queued :=
  LTS.run_of_exec rfl

theorem generator_ends_at : ∃ s', lts.Run queued [.generator, .fillBuffer [3], .generator, .generator] s' ∧
    3 ≤ (beforeSentinel queued.queue).length + 3 ∧ ¬ Blocked s' ∧ (genStep s' = none → s'.pc.Ended) := by
  have hrun : lts.Run queued [.generator, .fillBuffer [3], .generator, .generator]
      ⟨true, [some [3]], false, .returned, queued.log ++ [.put (some [3])]⟩ := LTS.run_of_exec rfl
  exact ⟨_, hrun, generator_ends queued_run (by decide) hrun⟩

end DictationClient.L5.MicStream
