import DictationClient.Core.FixedCodec
import DictationClient.Core.LTS

/-!
# The microphone source of the Python client (`MicrophoneStream`)

Three threads meet in a queue. PortAudio's callback puts the chunks it has
recorded; gRPC's thread resumes `generator()`, which blocks for one chunk, takes
whatever else is queued without blocking, and yields the chunks joined; the
thread that reads the responses calls `close()`, and leaves the `with` block,
where `__exit__` sets `closed` and puts the sentinel `None`.

A put, a get and a read or write of `closed` are one step each (`queue.Queue` is
FIFO). The log keeps the puts, the writes of `closed` and the yields. It starts
where `__enter__` has returned; what the callback has put by then are the first
puts of a run.

* `Step`, `step_cases`: everything a step can do.
* `inOrder`: what was yielded is a prefix of what was recorded, and at most one
  chunk is yielded once `closed` is set.
* `drained_iff`: a generator that has taken the sentinel has yielded everything
  recorded before it exactly when no non-blocking get met the sentinel with
  recorded bytes in hand: that branch returns and drops them.
-/
namespace DictationClient.L5.MicStream

/-- Where the generator stands; the argument is its list `data`. `left`: the loop
condition has failed; `returned`: a get has taken the sentinel.
mirrors python/utils/mic_stream.py:59-79 -/
inductive GenPc where
  | test
  | get
  | drain (data : List Bytes)
  | yield (data : List Bytes)
  | left
  | returned
  deriving DecidableEq, Repr

/-- `put none` puts the sentinel; `yield data` yields `b''.join(data)`. -/
inductive Event where
  | put (item : Option Bytes)
  | setClosed
  | yield (data : List Bytes)
  deriving DecidableEq, Repr

def Event.isSetClosed : Event → Bool
  | .put _ => false
  | .setClosed => true
  | .yield _ => false

def Event.isYield : Event → Bool
  | .put _ => false
  | .setClosed => false
  | .yield _ => true

def Event.item? : Event → Option (Option Bytes)
  | .put item => some item
  | .setClosed => none
  | .yield _ => none

def Event.chunks : Event → List Bytes
  | .put _ => []
  | .setClosed => []
  | .yield data => data

/-- The items put into the queue, in order. -/
def puts (log : List Event) : List (Option Bytes) := log.filterMap Event.item?

/-- The chunks of all yields, in order. -/
def yieldedChunks (log : List Event) : List Bytes := log.flatMap Event.chunks

/-- The data yielded, in order. -/
def yielded (log : List Event) : List Bytes :=
  log.filterMap fun | .yield data => some data.flatten | .put _ => none | .setClosed => none

/-- The items in front of the first sentinel. -/
def beforeSentinel {α : Type} : List (Option α) → List α
  | [] => []
  | none :: _ => []
  | some a :: items => a :: beforeSentinel items

/-- The chunks put before the first sentinel. -/
def recorded (log : List Event) : List Bytes := beforeSentinel (puts log)

/-- `exiting`: `__exit__` has set `closed` and not yet put the sentinel. -/
structure State where
  closed : Bool
  queue : List (Option Bytes)
  exiting : Bool
  pc : GenPc
  log : List Event
  deriving DecidableEq, Repr

/-- The callback, `close()`, the two steps of `__exit__`, the generator. -/
inductive Lbl where
  | fillBuffer (inData : Bytes)
  | close
  | exitClose
  | exitPut
  | generator
  deriving DecidableEq, Repr

def State.put (s : State) (item : Option Bytes) : State :=
  { s with queue := s.queue ++ [item], log := s.log ++ [.put item] }

def State.setClosed (s : State) : State := { s with closed := true, log := s.log ++ [.setClosed] }

/-- mirrors python/utils/mic_stream.py:59-79 -/
def genStep (s : State) : Option State :=
  match s.pc with
  | .test => some { s with pc := if s.closed then .left else .get }
  | .get =>
    match s.queue with
    | [] => none
    | none :: rest => some { s with queue := rest, pc := .returned }
    | some chunk :: rest => some { s with queue := rest, pc := .drain [chunk] }
  | .drain data =>
    match s.queue with
    | [] => some { s with pc := .yield data }
    | none :: rest => some { s with queue := rest, pc := .returned }
    | some chunk :: rest => some { s with queue := rest, pc := .drain (data ++ [chunk]) }
  | .yield data => some { s with pc := .test, log := s.log ++ [.yield data] }
  | .left => none
  | .returned => none

/-- mirrors python/utils/mic_stream.py:36-51 -/
def step (s : State) : Lbl → Option State
  | .fillBuffer inData => some (s.put (some inData))
  | .close => some s.setClosed
  | .exitClose => if s.exiting then none else some { s.setClosed with exiting := true }
  | .exitPut => if s.exiting then some { s.put none with exiting := false } else none
  | .generator => genStep s

/-- A stream just entered, and a generator nobody has resumed.
mirrors python/utils/mic_stream.py:13-34 -/
def start : State := { closed := false, queue := [], exiting := false, pc := .test, log := [] }

def lts : LTS State Lbl := LTS.ofFn (· = start) step

/-! ## What a step can do -/

inductive Step (s : State) : Lbl → State → Prop
  | fillBuffer (inData : Bytes) : Step s (.fillBuffer inData) (s.put (some inData))
  | close : Step s .close s.setClosed
  | exitClose : Step s .exitClose { s.setClosed with exiting := true }
  | exitPut : Step s .exitPut { s.put none with exiting := false }
  | enter (hpc : s.pc = .test) (hc : s.closed = false) : Step s .generator { s with pc := .get }
  | leave (hpc : s.pc = .test) (hc : s.closed = true) : Step s .generator { s with pc := .left }
  | get {chunk rest} (hpc : s.pc = .get) (hq : s.queue = some chunk :: rest) :
      Step s .generator { s with queue := rest, pc := .drain [chunk] }
  | getNone {rest} (hpc : s.pc = .get) (hq : s.queue = none :: rest) :
      Step s .generator { s with queue := rest, pc := .returned }
  | drain {data chunk rest} (hpc : s.pc = .drain data) (hq : s.queue = some chunk :: rest) :
      Step s .generator { s with queue := rest, pc := .drain (data ++ [chunk]) }
  | drainNone {data rest} (hpc : s.pc = .drain data) (hq : s.queue = none :: rest) :
      Step s .generator { s with queue := rest, pc := .returned }
  | drainEmpty {data} (hpc : s.pc = .drain data) (hq : s.queue = []) :
      Step s .generator { s with pc := .yield data }
  | yield {data} (hpc : s.pc = .yield data) :
      Step s .generator { s with pc := .test, log := s.log ++ [.yield data] }

theorem genStep_cases {s s' : State} (h : genStep s = some s') : Step s .generator s' := by
  unfold genStep at h
  cases hpc : s.pc with
  | test =>
    simp only [hpc, Option.some.injEq] at h
    by_cases hc : s.closed = true
    · rw [if_pos hc] at h; subst h; exact .leave hpc hc
    · rw [if_neg hc] at h; subst h; exact .enter hpc (Bool.eq_false_iff.mpr hc)
  | get =>
    simp only [hpc] at h
    split at h
    case h_1 => cases h
    case h_2 rest hq => cases h; exact .getNone hpc hq
    case h_3 chunk rest hq => cases h; exact .get hpc hq
  | drain data =>
    simp only [hpc] at h
    split at h
    case h_1 hq => cases h; exact .drainEmpty hpc hq
    case h_2 rest hq => cases h; exact .drainNone hpc hq
    case h_3 chunk rest hq => cases h; exact .drain hpc hq
  | yield data => simp only [hpc, Option.some.injEq] at h; subst h; exact .yield hpc
  | left => simp [hpc] at h
  | returned => simp [hpc] at h

theorem step_cases {s s' : State} {l : Lbl} (h : step s l = some s') : Step s l s' := by
  cases l with
  | fillBuffer inData => simp only [step, Option.some.injEq] at h; subst h; exact .fillBuffer inData
  | close => simp only [step, Option.some.injEq] at h; subst h; exact .close
  | exitClose =>
    simp only [step, Option.ite_none_left_eq_some, Option.some.injEq] at h
    obtain ⟨-, rfl⟩ := h
    exact .exitClose
  | exitPut =>
    simp only [step, Option.ite_none_right_eq_some, Option.some.injEq] at h
    obtain ⟨-, rfl⟩ := h
    exact .exitPut
  | generator => exact genStep_cases h

/-! ## Logs -/

section Sentinel
variable {α : Type}

theorem beforeSentinel_map_some_append (l : List α) (items : List (Option α)) :
    beforeSentinel (l.map some ++ items) = l ++ beforeSentinel items := by
  induction l with
  | nil => rfl
  | cons a l ih => rw [List.map_cons, List.cons_append, beforeSentinel, ih, List.cons_append]

theorem beforeSentinel_append_of_mem {items : List (Option α)} (h : none ∈ items)
    (more : List (Option α)) : beforeSentinel (items ++ more) = beforeSentinel items := by
  induction items with
  | nil => cases h
  | cons item items ih =>
    cases item with
    | none => rfl
    | some a =>
      have h' : none ∈ items := by simpa using h
      rw [List.cons_append, beforeSentinel, beforeSentinel, ih h']

end Sentinel

@[simp] theorem puts_snoc (log : List Event) (e : Event) :
    puts (log ++ [e]) = puts log ++ e.item?.toList := by
  cases e <;> simp [puts, Event.item?]

@[simp] theorem yieldedChunks_snoc (log : List Event) (e : Event) :
    yieldedChunks (log ++ [e]) = yieldedChunks log ++ e.chunks := by
  simp [yieldedChunks]

theorem flatten_yielded (log : List Event) : (yielded log).flatten = (yieldedChunks log).flatten := by
  induction log with
  | nil => rfl
  | cons e log ih => cases e <;> simpa [yielded, yieldedChunks, Event.chunks] using ih

/-! ## Every item is accounted for -/

/-- The chunks taken since the last yield. -/
def GenPc.held : GenPc → List Bytes
  | .test => []
  | .get => []
  | .drain data => data
  | .yield data => data
  | .left => []
  | .returned => []

/-- The items taken from the queue: what was yielded, and what the generator
holds; once it has returned, what it dropped, and the sentinel. -/
def Taken (s : State) (items : List (Option Bytes)) : Prop :=
  if s.pc = .returned then
    ∃ dropped, items = (yieldedChunks s.log ++ dropped).map some ++ [none]
  else items = (yieldedChunks s.log ++ s.pc.held).map some

/-- What was put is what was taken and what is queued, in this order. -/
def Accounted (s : State) : Prop := ∃ items, Taken s items ∧ puts s.log = items ++ s.queue

theorem Accounted.of_running {s : State} (h : Accounted s) (hpc : s.pc ≠ .returned) :
    puts s.log = (yieldedChunks s.log ++ s.pc.held).map some ++ s.queue := by
  obtain ⟨items, ht, hputs⟩ := h
  rw [Taken, if_neg hpc] at ht
  rw [hputs, ht]

theorem Accounted.running {s : State} (hpc : s.pc ≠ .returned)
    (h : puts s.log = (yieldedChunks s.log ++ s.pc.held).map some ++ s.queue) : Accounted s :=
  ⟨_, by rw [Taken, if_neg hpc], h⟩

/-- Putting an item touches neither the generator nor what it has taken. -/
theorem Accounted.put {s : State} (h : Accounted s) (item : Option Bytes) (exiting : Bool) :
    Accounted { s.put item with exiting } := by
  obtain ⟨items, ht, hputs⟩ := h
  refine ⟨items, ?_, ?_⟩
  · simpa [Taken, State.put, Event.chunks] using ht
  · simp [State.put, hputs, Event.item?]

theorem Accounted.setClosed {s : State} (h : Accounted s) (exiting : Bool) :
    Accounted { s.setClosed with exiting } := by
  obtain ⟨items, ht, hputs⟩ := h
  refine ⟨items, ?_, ?_⟩
  · simpa [Taken, State.setClosed, Event.chunks] using ht
  · simp [State.setClosed, hputs, Event.item?]

/-- The generator moves on with what it holds. -/
theorem Accounted.move {s : State} (h : Accounted s) (hpc : s.pc ≠ .returned) {pc : GenPc}
    (hpc' : pc ≠ .returned) (hheld : s.pc.held = pc.held) : Accounted { s with pc } := by
  have hputs := h.of_running hpc
  rw [hheld] at hputs
  exact .running hpc' hputs

/-- A get of a chunk moves it from the queue to what the generator holds. -/
theorem Accounted.take {s : State} (h : Accounted s) (hpc : s.pc ≠ .returned) {chunk : Bytes}
    {rest : List (Option Bytes)} (hq : s.queue = some chunk :: rest) {data : List Bytes}
    (hdata : data = s.pc.held ++ [chunk]) : Accounted { s with queue := rest, pc := .drain data } := by
  have hputs := h.of_running hpc
  rw [hq] at hputs
  apply Accounted.running (by simp)
  rw [hdata]
  simpa [GenPc.held] using hputs

/-- A get of the sentinel drops what the generator holds. -/
theorem Accounted.takeSentinel {s : State} (h : Accounted s) (hpc : s.pc ≠ .returned)
    {rest : List (Option Bytes)} (hq : s.queue = none :: rest) :
    Accounted { s with queue := rest, pc := .returned } := by
  refine ⟨(yieldedChunks s.log ++ s.pc.held).map some ++ [none], ?_, ?_⟩
  · rw [Taken, if_pos rfl]; exact ⟨s.pc.held, rfl⟩
  · rw [h.of_running hpc, hq, List.append_assoc]; rfl

theorem accounted_step {s s' : State} {l : Lbl} (h : Accounted s) (hst : Step s l s') :
    Accounted s' := by
  cases hst with
  | fillBuffer inData => exact h.put (some inData) s.exiting
  | close => exact h.setClosed s.exiting
  | exitClose => exact h.setClosed true
  | exitPut => exact h.put none false
  | enter hpc hc => exact h.move (by simp [hpc]) (by simp) (by rw [hpc]; rfl)
  | leave hpc hc => exact h.move (by simp [hpc]) (by simp) (by rw [hpc]; rfl)
  | get hpc hq => exact h.take (by simp [hpc]) hq (by rw [hpc]; rfl)
  | getNone hpc hq => exact h.takeSentinel (by simp [hpc]) hq
  | drain hpc hq => exact h.take (by simp [hpc]) hq (by rw [hpc]; rfl)
  | drainNone hpc hq => exact h.takeSentinel (by simp [hpc]) hq
  | drainEmpty hpc hq => exact h.move (by simp [hpc]) (by simp) (by rw [hpc]; rfl)
  | yield hpc =>
    -- what was held is now yielded
    have hputs := h.of_running (by simp [hpc])
    rw [hpc] at hputs
    exact .running (by simp) (by simpa [GenPc.held, Event.item?, Event.chunks] using hputs)

theorem accounted_inductive : lts.Inductive Accounted where
  init := by rintro s rfl; exact .running (by simp [start]) rfl
  step s l s' h hst := accounted_step h (step_cases hst)

/-- What was yielded comes first in what was recorded. -/
theorem Accounted.recorded_eq {s : State} (h : Accounted s) :
    ∃ more, recorded s.log = yieldedChunks s.log ++ more := by
  obtain ⟨items, ht, hputs⟩ := h
  rw [recorded, hputs]
  by_cases hpc : s.pc = .returned
  · rw [Taken, if_pos hpc] at ht
    obtain ⟨dropped, rfl⟩ := ht
    exact ⟨dropped, by rw [List.append_assoc, beforeSentinel_map_some_append]; simp [beforeSentinel]⟩
  · rw [Taken, if_neg hpc] at ht
    rw [ht, beforeSentinel_map_some_append, List.append_assoc]
    exact ⟨_, rfl⟩

/-! ## Stopping -/

/-- The loop condition has held and the yield is still to come. -/
def GenPc.inFlight : GenPc → Bool
  | .test => false
  | .get => true
  | .drain _ => true
  | .yield _ => true
  | .left => false
  | .returned => false

/-- No yield has followed a write of `closed` while one is in flight, and at most
one otherwise. -/
structure Stopping (s : State) : Prop where
  flag : s.closed = s.log.any Event.isSetClosed
  count : countAfter Event.isSetClosed Event.isYield s.log ≤ if s.pc.inFlight then 0 else 1

theorem Stopping.put {s : State} (h : Stopping s) (item : Option Bytes) (exiting : Bool) :
    Stopping { s.put item with exiting } where
  flag := h.flag.trans (any_snoc_of_not _ rfl).symm
  count := (countAfter_snoc_of_not _ _ rfl).trans_le h.count

theorem Stopping.setClosed {s : State} (h : Stopping s) (exiting : Bool) :
    Stopping { s.setClosed with exiting } where
  flag := (any_snoc_self _ rfl).symm
  count := (countAfter_snoc_of_not _ _ rfl).trans_le h.count

/-- The generator moves on between two reads of `closed`. -/
theorem Stopping.move {s : State} (h : Stopping s) {pc : GenPc} (queue : List (Option Bytes))
    (hpc : pc.inFlight = true → s.pc.inFlight = true) : Stopping { s with queue, pc } where
  flag := h.flag
  count := by
    have hc := h.count
    cases hi : pc.inFlight with
    | true => simpa [hi, hpc hi] using hc
    | false => exact hc.trans (by split <;> decide)

theorem stopping_step {s s' : State} {l : Lbl} (h : Stopping s) (hst : Step s l s') : Stopping s' := by
  cases hst with
  | fillBuffer inData => exact h.put (some inData) s.exiting
  | close => exact h.setClosed s.exiting
  | exitClose => exact h.setClosed true
  | exitPut => exact h.put none false
  | enter hpc hc =>
    -- `closed` was read as false, so nothing is counted yet
    exact ⟨h.flag, (countAfter_of_any_eq_false _ _ (h.flag ▸ hc)).le⟩
  | leave hpc hc => exact h.move _ (by simp [GenPc.inFlight])
  | get hpc hq => exact h.move _ (by simp [hpc, GenPc.inFlight])
  | getNone hpc hq => exact h.move _ (by simp [GenPc.inFlight])
  | drain hpc hq => exact h.move _ (by simp [hpc, GenPc.inFlight])
  | drainNone hpc hq => exact h.move _ (by simp [GenPc.inFlight])
  | drainEmpty hpc hq => exact h.move _ (by simp [hpc, GenPc.inFlight])
  | @yield data hpc =>
    have hc : countAfter Event.isSetClosed Event.isYield s.log = 0 := by
      simpa [hpc, GenPc.inFlight] using h.count
    refine ⟨h.flag.trans (any_snoc_of_not _ rfl).symm, ?_⟩
    rw [countAfter_snoc, hc]
    simp only [GenPc.inFlight, Bool.false_eq_true, if_false]
    split <;> decide

theorem stopping_inductive : lts.Inductive Stopping where
  init := by rintro s rfl; exact ⟨rfl, by decide⟩
  step s l s' h hst := stopping_step h (step_cases hst)

/-! ## Order and stopping -/

/-- Chunk by chunk, and byte by byte, the yields are the beginning of what was
put before the sentinel; at most one follows a write of `closed`. -/
structure InOrder (s : State) : Prop where
  chunks : yieldedChunks s.log <+: recorded s.log
  bytes : (yielded s.log).flatten <+: (recorded s.log).flatten
  atMostOne : countAfter Event.isSetClosed Event.isYield s.log ≤ 1

/-- **Order and stopping**, at every moment of every run. -/
theorem inOrder {ls : List Lbl} {s : State} (hr : lts.Run start ls s) : InOrder s := by
  obtain ⟨more, hmore⟩ := (accounted_inductive.run rfl hr).recorded_eq
  refine ⟨?_, ?_, ?_⟩
  · exact ⟨more, hmore.symm⟩
  · rw [flatten_yielded, hmore, List.flatten_append]
    exact List.prefix_append _ _
  · exact (stopping_inductive.run rfl hr).count.trans (by split <;> omega)

theorem inOrder_at : ∃ s, lts.Run start [.fillBuffer [1], .generator, .generator, .fillBuffer [2],
    .generator, .generator, .close, .generator] s ∧ yielded s.log = [[1, 2]] ∧ InOrder s := by
  have hrun : lts.Run start [.fillBuffer [1], .generator, .generator, .fillBuffer [2], .generator,
      .generator, .close, .generator]
      ⟨true, [], false, .test, [.put (some [1]), .put (some [2]), .setClosed, .yield [[1], [2]]]⟩ :=
    LTS.run_of_exec (by decide)
  exact ⟨_, hrun, rfl, inOrder hrun⟩

/-! ## What the sentinel drops -/

/-- What a generator that has taken the sentinel is for. -/
def Drained (s : State) : Prop :=
  s.pc = .returned → (yielded s.log).flatten = (recorded s.log).flatten

/-- No non-blocking get meets the sentinel while the generator holds recorded
bytes. -/
def Guard (s : State) : Lbl → Prop
  | .fillBuffer _ => True
  | .close => True
  | .exitClose => True
  | .exitPut => True
  | .generator => ∀ data, s.pc = .drain data → s.queue.head? = some none → data.flatten = []

/-- The generator has returned, and bytes recorded before the sentinel are lost. -/
structure Lossy (s : State) : Prop where
  accounted : Accounted s
  returned : s.pc = .returned
  lost : (yielded s.log).flatten ≠ (recorded s.log).flatten

/-- Where the sentinel has been taken, it has been put. -/
theorem Accounted.none_mem {s : State} (h : Accounted s) (hpc : s.pc = .returned) :
    none ∈ puts s.log := by
  obtain ⟨items, ht, hputs⟩ := h
  rw [Taken, if_pos hpc] at ht
  obtain ⟨dropped, rfl⟩ := ht
  simp [hputs]

/-- Once the sentinel has been put, what was recorded before it is fixed. -/
theorem recorded_snoc {log : List Event} (h : none ∈ puts log) (e : Event) :
    recorded (log ++ [e]) = recorded log := by
  rw [recorded, puts_snoc, beforeSentinel_append_of_mem h, recorded]

/-- A get of the sentinel loses exactly what the generator holds. -/
theorem Accounted.recorded_of_sentinel {s : State} (h : Accounted s) (hpc : s.pc ≠ .returned)
    {rest : List (Option Bytes)} (hq : s.queue = none :: rest) :
    (recorded s.log).flatten = (yielded s.log).flatten ++ s.pc.held.flatten := by
  rw [recorded, h.of_running hpc, hq, beforeSentinel_map_some_append, beforeSentinel,
    List.append_nil, List.flatten_append, flatten_yielded]

/-- After the generator has returned, nothing is yielded and nothing more counts
as recorded. -/
theorem Step.of_returned {s s' : State} {l : Lbl} (hst : Step s l s') (h : Accounted s)
    (hpc : s.pc = .returned) : s'.pc = .returned ∧
      (yielded s'.log).flatten = (yielded s.log).flatten ∧ recorded s'.log = recorded s.log := by
  have hmem := h.none_mem hpc
  cases hst with
  | fillBuffer inData => exact ⟨hpc, by simp [State.put, yielded], recorded_snoc hmem _⟩
  | close => exact ⟨hpc, by simp [State.setClosed, yielded], recorded_snoc hmem _⟩
  | exitClose => exact ⟨hpc, by simp [State.setClosed, yielded], recorded_snoc hmem _⟩
  | exitPut => exact ⟨hpc, by simp [State.put, yielded], recorded_snoc hmem _⟩
  | enter hpc' | leave hpc' | get hpc' | getNone hpc' | drain hpc' | drainNone hpc'
  | drainEmpty hpc' | yield hpc' => rw [hpc] at hpc'; cases hpc'

theorem drained_step {s s' : State} {l : Lbl} (h : Accounted s) (hd : Drained s) (hst : Step s l s')
    (hg : Guard s l) : Drained s' := by
  intro hpc'
  by_cases hret : s.pc = .returned
  · obtain ⟨-, hy, hrec⟩ := hst.of_returned h hret
    rw [hy, hrec, hd hret]
  · cases hst with
    | getNone hpc hq =>
      rw [h.recorded_of_sentinel hret hq, hpc, GenPc.held, List.flatten_nil, List.append_nil]
    | drainNone hpc hq =>
      -- the guard: what is dropped is empty
      have hdata := hg _ hpc (by rw [hq]; rfl)
      rw [h.recorded_of_sentinel hret hq, hpc, GenPc.held, hdata, List.append_nil]
    | fillBuffer | close | exitClose | exitPut => exact absurd hpc' hret
    | enter | leave | get | drain | drainEmpty | yield => cases hpc'

/-- The step the guard does not allow loses bytes. -/
theorem lossy_of_not_guard {s s' : State} {l : Lbl} (h : Accounted s) (hst : Step s l s')
    (hg : ¬ Guard s l) : Lossy s' := by
  cases l <;> simp only [Guard, not_true_eq_false, not_forall] at hg
  obtain ⟨data, hpc, hhead, hdata⟩ := hg
  obtain ⟨rest, hq⟩ := List.head?_eq_some_iff.mp hhead
  have hacc := accounted_step h hst
  cases hst with
  | drainNone hpc' hq' =>
    refine ⟨hacc, rfl, fun he => hdata ?_⟩
    have hloss := h.recorded_of_sentinel (by rw [hpc]; simp) hq
    rw [hpc, GenPc.held, ← he, List.self_eq_append_right] at hloss
    exact hloss
  | drain _ hq' | drainEmpty _ hq' => rw [hq] at hq'; cases hq'
  | enter hpc' | leave hpc' | get hpc' | getNone hpc' | yield hpc' => rw [hpc] at hpc'; cases hpc'

theorem lossy_step {s s' : State} {l : Lbl} (h : Lossy s) (hst : Step s l s') : Lossy s' := by
  obtain ⟨hpc, hy, hrec⟩ := hst.of_returned h.accounted h.returned
  exact ⟨accounted_step h.accounted hst, hpc, by rw [hy, hrec]; exact h.lost⟩

theorem guarded_inductive : (lts.guard Guard).Inductive fun s => Accounted s ∧ Drained s where
  init := by rintro s rfl; exact ⟨accounted_inductive.init _ rfl, fun h => by cases h⟩
  step := by
    intro s l s' h hst
    obtain ⟨hst, hg⟩ := hst
    exact ⟨accounted_step h.1 (step_cases hst), drained_step h.1 h.2 (step_cases hst) hg⟩

/-- **When everything recorded is yielded.** In a run from the start, a generator
that has taken the sentinel has yielded all bytes put before it if and only if
every step of the run met the guard. -/
theorem drained_iff {ls : List Lbl} {s : State} (hr : lts.Run start ls s) :
    Drained s ↔ (lts.guard Guard).Run start ls s := by
  refine ⟨fun hd => ?_, fun hg => (guarded_inductive.run rfl hg).2⟩
  have hdich := LTS.run_dichotomy guarded_inductive
    (fun _ _ _ h hst hg => lossy_of_not_guard h.1 (step_cases hst) hg)
    (fun _ _ _ h hst => lossy_step h (step_cases hst)) rfl hr
  rcases hdich with hg | hl
  · exact hg
  · exact absurd (hd hl.returned) hl.lost

/-- One chunk, and the sentinel behind it while the generator drains the queue. -/
def cutShort : List Lbl :=
  [.fillBuffer [1], .generator, .generator, .exitClose, .exitPut, .generator]

theorem cutShort_run : lts.Run start cutShort ⟨true, [], false, .returned,
    [.put (some [1]), .setClosed, .put none]⟩ := LTS.run_of_exec (by decide)

theorem drained_iff_at : Drained ⟨true, [], false, .returned, [.put (some [1]), .setClosed, .put none]⟩ ↔
    (lts.guard Guard).Run start cutShort
      ⟨true, [], false, .returned, [.put (some [1]), .setClosed, .put none]⟩ :=
  drained_iff cutShort_run

/-- The generator takes the chunk, meets the sentinel, and returns without a yield. -/
theorem recording_lost : ¬ ∀ ls s, lts.Run start ls s → .close ∉ ls → Drained s := by
  intro h
  have hd := h _ _ cutShort_run (by decide) rfl
  exact absurd hd (by decide)

end DictationClient.L5.MicStream
