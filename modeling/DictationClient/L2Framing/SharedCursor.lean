import DictationClient.Core.Cursor
import DictationClient.Core.LTS
import DictationClient.L2Framing.AudioStream

/-!
# One index, many readers (`AudioStream`)

`AudioStream` can be read with `next()` and with any number of generators, each
a copy of the same loop that keeps no index of its own. `close()` and
`__enter__` set the index under all of them.

Seen from outside the stream is a `Cursor` over its frames: reading pulls,
`__enter__` rewinds, `close()` stops, and a generator that has ended refuses.

A generator sleeps behind its store of the index, and `time.sleep` raises for a
negative delay. A resumption that raises reaches neither a yield nor the end of
the generator; it is no operation here.

* `step_cases`: everything an operation can do.
* `readersAgree`: in any run of operations, what was returned since the last
  `__enter__` are leading frames of the audio, nothing is returned between a
  `close()` and the next `__enter__`, and reading through an unfinished generator
  or through `next()` makes no difference.
-/
namespace DictationClient.L2.SharedCursor

open AudioStream Cursor

/-- `time.sleep(self.delay)`, for a delay in milliseconds. It refuses centuries too, which
are left out.
mirrors python/utils/audio_stream.py:13,67 -/
def sleep (delay : Int) : Except PyErr Unit :=
  if delay < 0 then .error (.valueError "sleep length must be non-negative") else .ok ()

/-- `next(g)` with the delay; a generator that raises has finished.
mirrors python/utils/audio_stream.py:59-68 -/
def resumeSlowly (delay : Int) (g : Generator) (st : AudioStream) :
    Except PyErr (Option Bytes) × Generator × AudioStream :=
  match resume g st with
  | (none, g', st') => (.ok none, g', st')
  | (some data, g', st') =>
    match sleep delay with
    | .ok () => (.ok (some data), g', st')
    | .error e => (.error e, { finished := true }, st')

/-- `log`: what was returned, `__enter__` as `rewind` and `close()` as `stop`. -/
structure State where
  stream : AudioStream
  generators : List Generator
  log : List (Act Bytes)
  deriving DecidableEq, Repr

/-- `resume k`: `next` of the `k`-th generator created. -/
inductive Op where
  | next
  | newGenerator
  | resume (k : Nat)
  | close
  | enter
  deriving DecidableEq, Repr

section Model
variable (delay : Int)

/-- mirrors python/utils/audio_stream.py:30-45,56-68 -/
def step (s : State) : Op → Option State
  | .next =>
    some { s with stream := s.stream.next.2, log := s.log ++ [.pull s.stream.next.1] }
  | .newGenerator => some { s with generators := s.generators ++ [generator] }
  | .resume k =>
    match s.generators[k]? with
    | none => none
    | some g =>
      match resumeSlowly delay g s.stream with
      | (.ok out, g', stream) =>
        some { stream, generators := s.generators.set k g', log := s.log ++ [.pull out] }
      | (.error _, _, _) => none
  | .close => some { s with stream := s.stream.close, log := s.log ++ [.stop] }
  | .enter => some { s with stream := s.stream.enter, log := s.log ++ [.rewind] }

/-- A stream as `__init__` leaves it.
mirrors python/utils/audio_stream.py:21 -/
def start (src : AudioStream) : State :=
  { stream := { src with dataIndex := 0 }, generators := [], log := [] }

def lts (src : AudioStream) : LTS State Op := LTS.ofFn (· = start src) (step delay)

end Model

/-! ## What an operation can do -/

inductive Step (s : State) : Op → State → Prop
  | next : Step s .next { s with stream := s.stream.next.2, log := s.log ++ [.pull s.stream.next.1] }
  | newGenerator : Step s .newGenerator { s with generators := s.generators ++ [generator] }
  | read {k g g'} (hk : s.generators[k]? = some g) (hg : g.finished = false) :
      Step s (.resume k) { stream := s.stream.next.2, generators := s.generators.set k g',
                           log := s.log ++ [.pull s.stream.next.1] }
  | refused {k g g'} (hk : s.generators[k]? = some g) (hg : g.finished = true) :
      Step s (.resume k) { s with generators := s.generators.set k g', log := s.log ++ [.pull none] }
  | close : Step s .close { s with stream := s.stream.close, log := s.log ++ [.stop] }
  | enter : Step s .enter { s with stream := s.stream.enter, log := s.log ++ [.rewind] }

/-- A resumption that does not raise is one without the delay. -/
theorem resumeSlowly_ok {delay : Int} {g g' : Generator} {st st' : AudioStream} {out : Option Bytes}
    (h : resumeSlowly delay g st = (.ok out, g', st')) : resume g st = (out, g', st') := by
  unfold resumeSlowly at h
  rcases hr : resume g st with ⟨none | data, g'', st''⟩
  · rw [hr] at h
    cases h; rfl
  · rw [hr] at h
    cases hs : sleep delay with
    | error e => rw [hs] at h; cases h
    | ok u => rw [hs] at h; cases h; rfl

theorem sleep_of_nonneg {delay : Int} (hd : 0 ≤ delay) : sleep delay = .ok () := if_neg (by omega)

theorem sleep_of_neg {delay : Int} (hd : delay < 0) :
    sleep delay = .error (.valueError "sleep length must be non-negative") := if_pos hd

theorem resumeSlowly_of_nonneg {delay : Int} (hd : 0 ≤ delay) {g g' : Generator}
    {st st' : AudioStream} {out : Option Bytes} (h : resume g st = (out, g', st')) :
    resumeSlowly delay g st = (.ok out, g', st') := by
  unfold resumeSlowly
  rw [h]
  cases out with
  | none => rfl
  | some data => simp only [sleep_of_nonneg hd]

/-- The end of a generator is in front of the sleep. -/
theorem resumeSlowly_of_none {delay : Int} {g g' : Generator} {st st' : AudioStream}
    (h : resume g st = (none, g', st')) : resumeSlowly delay g st = (.ok none, g', st') := by
  unfold resumeSlowly
  rw [h]

/-- The index has moved when the sleep raises. -/
theorem resumeSlowly_of_neg {delay : Int} (hd : delay < 0) {g g' : Generator} {st st' : AudioStream}
    {data : Bytes} (h : resume g st = (some data, g', st')) :
    resumeSlowly delay g st =
      (.error (.valueError "sleep length must be non-negative"), { finished := true }, st') := by
  unfold resumeSlowly
  simp only [h, sleep_of_neg hd]

theorem step_cases {delay : Int} {s s' : State} {op : Op} (h : step delay s op = some s') :
    Step s op s' := by
  cases op with
  | next => cases h; exact .next
  | newGenerator => cases h; exact .newGenerator
  | close => cases h; exact .close
  | enter => cases h; exact .enter
  | resume k =>
    simp only [step] at h
    cases hk : s.generators[k]? with
    | none => rw [hk] at h; cases h
    | some g =>
      rcases hr : resumeSlowly delay g s.stream with ⟨e | out, g', st'⟩
      · simp only [hk, hr, reduceCtorEq] at h
      · simp only [hk, hr, Option.some.injEq] at h
        subst h
        have hres := resumeSlowly_ok hr
        cases hg : g.finished with
        | true =>
          rw [resume, if_pos hg] at hres
          cases hres
          exact .refused hk hg
        | false =>
          obtain ⟨g'', heq⟩ := resume_eq_next hg s.stream
          rw [heq] at hres
          cases hres
          exact .read hk hg

/-! ## The stream as a cursor -/

/-- Where `next()` leaves the stream, and what it returns: a pull of the frames
that are left. -/
theorem next_pull {st : AudioStream} (h : st.Forward) {n : Nat} (hn : st.frameSamplesSize = n)
    {all : List Bytes} {c : Cursor all} (hc : c.left = chunks n st.rest) :
    c.pull.1 = st.next.1 ∧ c.pull.2.left = chunks n st.next.2.rest ∧
      st.next.2.Forward ∧ st.next.2 = { st with dataIndex := st.next.2.dataIndex } := by
  have hs : 0 < n := by have := h.size; omega
  by_cases hnil : st.rest = []
  · have hstop := resume_stops (g := generator) rfl ((rest_eq_nil_iff h.index).mp hnil)
    have hnext := next_of_resume rfl hstop
    rw [hnil, chunks_nil] at hc
    rw [pull_of_nil hc, hnext, hnil, chunks_nil]
    exact ⟨rfl, hc, h, rfl⟩
  · obtain ⟨st', hres, hf, hrest, hst'⟩ := resume_yields (g := generator) rfl h hnil
    rw [hn, Int.toNat_natCast] at hres hrest
    have hnext := next_of_resume rfl hres
    rw [chunks_of_ne_nil hs hnil] at hc
    obtain ⟨hpull, -, hleft⟩ := pull_of_cons hc
    rw [hpull, hleft, hnext, hrest]
    exact ⟨rfl, rfl, hf, by rw [hst']⟩

/-- The stream moves its index only, and its operations are those of a cursor
over the frames of the audio. -/
structure Inv (src : AudioStream) (s : State) : Prop where
  stream : s.stream = { src with dataIndex := s.stream.dataIndex }
  forward : s.stream.Forward
  cursor : ∃ c : Cursor (chunks src.frameSamplesSize.toNat src.audio), Run _ s.log c ∧
    c.left = chunks src.frameSamplesSize.toNat s.stream.rest

section Inv
variable {src : AudioStream} {s : State}

theorem inv_start (hs : 0 < src.frameSamplesSize) : Inv src (start src) where
  stream := rfl
  forward := ⟨hs, Int.le_refl 0⟩
  cursor := ⟨_, .start, by simp [Cursor.rewind, start, rest]⟩

/-- Reading through the stream, whatever becomes of the generators. -/
theorem Inv.next (h : Inv src s) (generators : List Generator) :
    Inv src { stream := s.stream.next.2, generators, log := s.log ++ [.pull s.stream.next.1] } := by
  obtain ⟨hst, hf, c, hrun, hleft⟩ := h
  have hsize : s.stream.frameSamplesSize = src.frameSamplesSize.toNat := by
    have hpos := hf.size
    rw [hst] at hpos ⊢
    exact (Int.toNat_of_nonneg hpos.le).symm
  obtain ⟨hout, hleft', hf', hst'⟩ := next_pull hf hsize hleft
  refine ⟨?_, hf', c.pull.2, ?_, hleft'⟩
  · rw [hst']; simp only; rw [hst]
  · rw [← hout]; exact hrun.pull

theorem Inv.close (h : Inv src s) :
    Inv src { s with stream := s.stream.close, log := s.log ++ [.stop] } := by
  obtain ⟨hst, hf, c, hrun, -⟩ := h
  refine ⟨?_, hf.close, c.stop, hrun.stop, ?_⟩
  · simp only [AudioStream.close]; rw [hst]
  · rw [rest_close, chunks_nil]; rfl

theorem Inv.enter (h : Inv src s) :
    Inv src { s with stream := s.stream.enter, log := s.log ++ [.rewind] } := by
  obtain ⟨hst, hf, c, hrun, -⟩ := h
  have hrest : s.stream.enter.rest = src.audio := by rw [hst]; simp [AudioStream.enter, rest]
  refine ⟨?_, ⟨hf.size, Int.le_refl 0⟩, _, hrun.rewind, ?_⟩
  · simp only [AudioStream.enter]; rw [hst]
  · rw [hrest]; rfl

theorem inv_step {s' : State} {op : Op} (h : Inv src s) (hst : Step s op s') : Inv src s' := by
  cases hst with
  | next => exact h.next s.generators
  | newGenerator => exact ⟨h.stream, h.forward, h.cursor⟩
  | read hk hg => exact h.next _
  | refused hk hg =>
    obtain ⟨c, hrun, hleft⟩ := h.cursor
    exact ⟨h.stream, h.forward, c, hrun.refuse, hleft⟩
  | close => exact h.close
  | enter => exact h.enter

theorem inv_inductive {delay : Int} (hs : 0 < src.frameSamplesSize) :
    (lts delay src).Inductive (Inv src) where
  init := by rintro s rfl; exact inv_start hs
  step s op s' h hst := inv_step h (step_cases hst)

end Inv

/-! ## Reading -/

/-- In the state `s`, a resumption of the `k`-th generator and a `next()` return
the same and leave the index the same; the resumption does not raise if the delay
is one. -/
structure Interchangeable (delay : Int) (s : State) (k : Nat) : Prop where
  same : ∀ s₁ s₂, step delay s (.resume k) = some s₁ → step delay s .next = some s₂ →
    s₁.log = s₂.log ∧ s₁.stream = s₂.stream
  resumes : 0 ≤ delay → ∃ s₁, step delay s (.resume k) = some s₁
  nexts : ∃ s₂, step delay s .next = some s₂

theorem interchangeable {delay : Int} {s : State} {k : Nat} {g : Generator}
    (hk : s.generators[k]? = some g) (hg : g.finished = false) : Interchangeable delay s k where
  same s₁ s₂ h₁ h₂ := by
    cases step_cases h₂
    cases step_cases h₁ with
    | read hk' hg' => exact ⟨rfl, rfl⟩
    | refused hk' hg' =>
      rw [hk, Option.some.injEq] at hk'
      rw [hk', hg'] at hg; cases hg
  resumes hd := by
    rcases h : resume g s.stream with ⟨out, g', st'⟩
    have hr := resumeSlowly_of_nonneg hd h
    refine ⟨{ stream := st', generators := s.generators.set k g', log := s.log ++ [.pull out] }, ?_⟩
    simp only [step, hk, hr]
  nexts := ⟨_, rfl⟩

/-- What the readers of a stream can rely on. -/
structure ReadersAgree (delay : Int) (src : AudioStream) (s : State) : Prop where
  isPrefix : (collected s.log).flatten <+: src.audio
  framed : ∀ front data back, collected s.log = front ++ data :: back →
    data ≠ [] ∧ ((data.length : Int) = src.frameSamplesSize ∨
      (front.flatten ++ data).length = src.audio.length)
  quiet : Quiet s.log
  interchange : ∀ (k : Nat) g, s.generators[k]? = some g → g.finished = false →
    Interchangeable delay s k

/-- **One index, many readers**, after any operations. -/
theorem readersAgree (delay : Int) {src : AudioStream} (hs : 0 < src.frameSamplesSize) {ops : List Op}
    {s : State} (hr : (lts delay src).Run (start src) ops s) : ReadersAgree delay src s := by
  have hsize : 0 < src.frameSamplesSize.toNat := by omega
  obtain ⟨c, hrun, -⟩ := ((inv_inductive hs).run rfl hr).cursor
  have hprefix := hrun.collected_prefix
  refine ⟨?_, ?_, hrun.quiet, fun k g hk hg => interchangeable hk hg⟩
  · obtain ⟨more, hmore⟩ := hprefix
    exact ⟨more.flatten, by rw [← List.flatten_append, hmore, flatten_chunks hsize]⟩
  · intro front data back he
    rw [he] at hprefix
    obtain ⟨hne, hlen⟩ := frame_of_prefix hsize hprefix
    exact ⟨hne, hlen.imp_left (by omega)⟩

/-- Three bytes in frames of two. -/
def shortTail : AudioStream :=
  { audioPath := "a.wav", audio := [1, 2, 3], frameRate := 1000, frameSamplesSize := 2, dataIndex := 0 }

/-- A generator and `next()` in turns, a restart under the generator, and a
`close()` under a second one. -/
theorem readersAgree_at : ReadersAgree 20 shortTail
    { stream := { shortTail with dataIndex := 4 }, generators := [⟨false⟩, ⟨true⟩],
      log := [.pull (some [1, 2]), .pull (some [3]), .rewind, .pull (some [1, 2]), .stop,
        .pull none] } := by
  have hrun : (lts 20 shortTail).Run (start shortTail)
      [.newGenerator, .resume 0, .next, .enter, .newGenerator, .resume 0, .close, .resume 1]
      { stream := { shortTail with dataIndex := 4 }, generators := [⟨false⟩, ⟨true⟩],
        log := [.pull (some [1, 2]), .pull (some [3]), .rewind, .pull (some [1, 2]), .stop,
          .pull none] } := LTS.run_of_exec (by decide)
  exact readersAgree 20 (by decide) hrun

end DictationClient.L2.SharedCursor
