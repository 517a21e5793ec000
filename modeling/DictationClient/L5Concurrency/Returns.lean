import DictationClient.L5Concurrency.Delivery

/-!
# `StreamingRecognize` returns

The calling thread joins the writer, and the writer leaves its loop on a failed
`Write`, on the flag, or behind the last request. Taking for granted that each
call on the stream returns, a second `WritesDone` too, and that the server ends
its responses, the function returns in every interleaving.

* `rank_step`: each step leaves less to do (`State.rank`).
* `not_stuck`: while a thread has not finished, one of them can move.
* `returns`: hence no run is longer than what there was to do, and every run can
  be continued to one in which both threads have finished.
-/
namespace DictationClient.L5.StreamingRecognize

open DictationClient.Api

variable {F : Type} {requests : List StreamingRecognizeRequest}
  {responses : List (StreamingRecognizeResponse F)}

/-- Steps the writer has at most in front of it, for `n` requests. -/
def WriterPc.rank (n : Nat) : WriterPc → Nat
  | .notStarted => 2 * n + 6
  | .loopLoad i => 2 * (n - sizeT i) + 5
  | .write i => 2 * (n - sizeT i) + 4
  | .guardLoad => 3
  | .guardStore => 2
  | .writesDone => 1
  | .finished => 0

/-- The same of the calling thread, apart from the responses still to come. -/
def ReaderPc.rank : ReaderPc F → Nat
  | .writeConfig => 5
  | .spawn => 4
  | .read => 3
  | .load _ => 6
  | .store _ => 5
  | .writesDone _ => 4
  | .join => 2
  | .finish => 1
  | .returned => 0

def State.rank (n : Nat) (s : State F) : Nat :=
  s.writer.rank n + s.reader.rank + 4 * s.incoming.length

theorem rank_enterLoop (requests : List StreamingRecognizeRequest) {k : Nat} (hk : k < 2 ^ 31) :
    (enterLoop requests (Int32.ofNat k)).rank requests.length ≤ 2 * (requests.length - k) + 5 := by
  rw [enterLoop_ofNat requests hk]
  by_cases h : k < requests.length
  · rw [if_pos h, WriterPc.rank, sizeT_ofNat hk]
  · rw [if_neg h, WriterPc.rank]; omega

/-- Behind an accepted `Write` one request less is left. -/
theorem AtIndex.rank_next {s : State F} {i : Int32} (hlen : requests.length < 2 ^ 31)
    (h : AtIndex requests s i) :
    (enterLoop requests (i + 1)).rank requests.length < (WriterPc.write i).rank requests.length := by
  obtain ⟨k, -, hk, rfl, -⟩ := h
  have hnext : Int32.ofNat k + 1 = Int32.ofNat (k + 1) := by rw [Int32.ofNat_add]; rfl
  have hle := rank_enterLoop requests (show k + 1 < 2 ^ 31 by omega)
  rw [hnext, WriterPc.rank, sizeT_ofNat (by omega)]
  omega

theorem rank_step {s s' : State F} {l : Lbl} (hlen : requests.length < 2 ^ 31) (hp : Phase s)
    (hi : Position requests s) (hst : step requests s l = some s') :
    s'.rank requests.length < s.rank requests.length := by
  unfold Position at hi
  cases step_cases hst with
  | loopOpen hw hf => simp only [State.rank, hw, WriterPc.rank]; omega
  | loopClosed hw hf => simp only [State.rank, hw, WriterPc.rank]; omega
  | writeOk hw hm hok =>
    rw [hw] at hi
    have hnext := AtIndex.rank_next hlen hi
    simp only [State.rank, hw]; omega
  | writeFail hw hm hok => simp only [State.rank, hw, WriterPc.rank]; omega
  | guardOpen hw hf => simp only [State.rank, hw, WriterPc.rank]; omega
  | guardClosed hw hf => simp only [State.rank, hw, WriterPc.rank]; omega
  | writerStore hw => simp only [State.rank, hw, WriterPc.rank]; omega
  | writerDone hw => simp only [State.rank, hw, WriterPc.rank]; omega
  | config hr hm => simp only [State.rank, hr, ReaderPc.rank]; omega
  | spawn hr =>
    have hn := hp.notStarted.mpr (.inr hr)
    have hle := rank_enterLoop requests (show 1 < 2 ^ 31 by decide)
    have hrank : WriterPc.notStarted.rank requests.length = 2 * requests.length + 6 := rfl
    rw [show (Int32.ofNat 1) = 1 from rfl] at hle
    simp only [State.rank, hn, hr, hrank, ReaderPc.rank]
    omega
  | readEnd hr hin => simp only [State.rank, hr, hin, ReaderPc.rank]; omega
  | readResult hr hin hs => simp only [State.rank, hr, hin, List.length_cons]; omega
  | readStop hr hin hs => simp only [State.rank, hr, hin, ReaderPc.rank, List.length_cons]; omega
  | loadOpen hr hf => simp only [State.rank, hr, ReaderPc.rank]; omega
  | loadClosed hr hf => simp only [State.rank, hr, ReaderPc.rank]; omega
  | readerStore hr => simp only [State.rank, hr, ReaderPc.rank]; omega
  | readerDone hr => simp only [State.rank, hr, ReaderPc.rank]; omega
  | join hr hw => simp only [State.rank, hr, ReaderPc.rank]; omega
  | finish hr => simp only [State.rank, hr, ReaderPc.rank]; omega

/-! ## No deadlock -/

/-- Once it has been started, the writer waits for nobody. -/
theorem writerStep_isSome {s : State F} (hi : Position requests s) (hlen : requests.length < 2 ^ 31)
    (hn : s.writer ≠ .notStarted) (hf : s.writer ≠ .finished) (ok : Bool) :
    (writerStep requests s ok).isSome := by
  unfold Position at hi
  unfold writerStep
  cases hw : s.writer with
  | notStarted => exact absurd hw hn
  | loopLoad i => rfl
  | write i =>
    rw [hw] at hi
    obtain ⟨k, -, hk, rfl, -⟩ := hi
    simp only [sizeT_ofNat (show k < 2 ^ 31 by omega), List.getElem?_eq_getElem hk, Option.isSome_some]
  | guardLoad => rfl
  | guardStore => rfl
  | writesDone => rfl
  | finished => exact absurd hw hf

/-- The calling thread waits for the writer only. -/
theorem readerStep_isSome {s : State F} (hne : requests ≠ []) (hr : s.reader ≠ .returned)
    (hj : s.reader = .join → s.writer = .finished) (ok : Bool) : (readerStep requests s ok).isSome := by
  unfold readerStep
  cases hpc : s.reader with
  | writeConfig =>
    obtain ⟨m, ms, rfl⟩ := List.exists_cons_of_ne_nil hne
    rfl
  | spawn => rfl
  | read =>
    cases s.incoming with
    | nil => rfl
    | cons r rs => simp only; split <;> rfl
  | load r => simp only; split <;> rfl
  | store r => rfl
  | writesDone r => rfl
  | join => rw [if_pos (hj hpc)]; rfl
  | finish => rfl
  | returned => exact absurd hpc hr

theorem not_stuck {s : State F} (hne : requests ≠ []) (hlen : requests.length < 2 ^ 31)
    (hi : Inv requests responses s) (hfin : ¬ s.Finished) : ¬ (lts requests responses).Stuck s := by
  intro hstuck
  by_cases hw : s.writer = .notStarted ∨ s.writer = .finished
  · have hr : (readerStep requests s true).isSome := by
      refine readerStep_isSome hne ?_ ?_ true
      · intro hret
        rcases hw with hw | hw
        · rcases hi.phase.notStarted.mp hw with h | h <;> rw [hret] at h <;> cases h
        · exact hfin ⟨hw, hret⟩
      · intro hj
        refine hw.resolve_left fun hw => ?_
        rcases hi.phase.notStarted.mp hw with h | h <;> rw [hj] at h <;> cases h
    obtain ⟨s', hs'⟩ := Option.isSome_iff_exists.mp hr
    exact hstuck (.reader true) s' hs'
  · rw [not_or] at hw
    obtain ⟨s', hs'⟩ := Option.isSome_iff_exists.mp (writerStep_isSome hi.position hlen hw.1 hw.2 true)
    exact hstuck (.writer true) s' hs'

theorem stuck_of_finished {s : State F} (hfin : s.Finished) : (lts requests responses).Stuck s := by
  intro l s' hst
  have hst' : step requests s l = some s' := hst
  cases l with
  | writer ok => rw [step, writerStep, hfin.1] at hst'; cases hst'
  | reader ok => rw [step, readerStep, hfin.2] at hst'; cases hst'

/-- **The call returns.** No run has more steps than two for a request, four for a
response and eleven; it ends exactly where both threads have finished, and can be
continued to such an end from wherever it stands. -/
theorem returns (hne : requests ≠ []) (hlen : requests.length < 2 ^ 31) {ls : List Lbl} {s : State F}
    (hr : (lts requests responses).Run (start responses) ls s) :
    ls.length ≤ 2 * requests.length + 4 * responses.length + 11 ∧
    ((lts requests responses).Stuck s ↔ s.Finished) ∧
    ∃ ls' s', (lts requests responses).Run s ls' s' ∧ s'.Finished := by
  have hstep : ∀ s l s', Inv requests responses s → (lts requests responses).step s l s' →
      Inv requests responses s' := (inv_inductive hlen).step
  have hi : Inv requests responses s := (inv_inductive hlen).run rfl hr
  have hrank : ∀ s l s', Inv requests responses s → (lts requests responses).step s l s' →
      s'.rank requests.length < s.rank requests.length :=
    fun s l s' hi hst => rank_step hlen hi.phase hi.position hst
  have hstuck : ∀ s, Inv requests responses s → ((lts requests responses).Stuck s ↔ s.Finished) :=
    fun s hi => ⟨fun h => by_contra fun hfin => not_stuck hne hlen hi hfin h, stuck_of_finished⟩
  refine ⟨?_, hstuck s hi, ?_⟩
  · obtain ⟨-, hle⟩ := LTS.countP_add_rank_le (p := fun _ => true) (q := fun _ => false) hstep
      (fun s l s' hi hst => hrank s l s' hi hst) inv_start hr
    rw [List.countP_true, List.countP_false, Function.const_apply] at hle
    simp only [State.rank, start, WriterPc.rank, ReaderPc.rank] at hle
    omega
  · obtain ⟨ls', s', hr', hs'⟩ := LTS.exists_stuck hstep hrank hi
    exact ⟨ls', s', hr', (hstuck s' ((inv_inductive hlen).run rfl (hr.append hr'))).mp hs'⟩

theorem returns_at : 13 ≤ 2 * twoFrames.length + 4 * [utteranceEnd (F := Nat)].length + 11 ∧
    ((lts twoFrames [utteranceEnd]).Stuck endedEarly ↔ endedEarly.Finished) ∧
    ∃ ls' s', (lts twoFrames [utteranceEnd]).Run endedEarly ls' s' ∧ s'.Finished :=
  returns (by decide) (by decide) endedEarly_run

end DictationClient.L5.StreamingRecognize
