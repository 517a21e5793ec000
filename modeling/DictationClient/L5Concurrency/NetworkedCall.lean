import DictationClient.Core.Link
import DictationClient.L5Concurrency.Returns

/-!
# `StreamingRecognize` opposite a server

The two threads of the call, and a server on the other side of the network that
answers as it likes. `Read` waits for a response or for the end of the call, which
can come at any time (`grpc_timeout` sets a deadline); nothing bounds how long a
request or a response is under way. What a `Write` reports is left open throughout.
A second `WritesDone`, which the race of the two threads can bring about, is misuse
of the stream, on which the library aborts the process.

* `client`: the two threads as a client of `Link`.
* `Accepted`, `Tidy`: what the writes and half-closes put on the stream.
* `Ended`: the reader leaves its loop when it has seen the end of the call.
* `call_delivers`: what the server has at every moment, and what both sides have
  in the end.
* `call_ends`: the two sides never wait for each other for good.
-/
namespace DictationClient.L5.StreamingRecognize

open DictationClient.Api
open Link (Item)

variable {F : Type} {requests : List StreamingRecognizeRequest}

/-- What a call on the stream puts on it. -/
def Event.item? : Event F → Option (Item StreamingRecognizeRequest)
  | .write m ok => if ok then some (.message m) else none
  | .writesDone _ => some .halfClose
  | .store _ => none
  | .read _ => none

/-- What the calls on the stream have put on it. -/
def items (log : List (Event F)) : List (Item StreamingRecognizeRequest) := log.filterMap Event.item?

/-- What the client has put on the stream; nothing gets on it behind the half-close. -/
def uplink (log : List (Event F)) : List (Item StreamingRecognizeRequest) := Link.cut (items log)

@[simp] theorem items_snoc (log : List (Event F)) (e : Event F) :
    items (log ++ [e]) = items log ++ e.item?.toList := by
  rw [items, List.filterMap_append, items]
  cases he : e.item? <;> simp [he]

def State.deliver (rs : List (StreamingRecognizeResponse F)) (s : State F) : State F :=
  { s with incoming := s.incoming ++ rs }

/-- `WritesDone` has been called twice. -/
def State.aborted (s : State F) : Bool := decide (2 ≤ s.log.countP Event.isWritesDone)

/-- The step is a `Read` with nothing to read. -/
def atEnd (s : State F) : Lbl → Bool
  | .writer _ => false
  | .reader _ => match s.reader with
    | .read => s.incoming.isEmpty
    | _ => false

/-- A `Read` that finds nothing returns when it sees the end of the call. -/
def callStep (requests : List StreamingRecognizeRequest) (v : Option Link.Ending) (s : State F) (l : Lbl) :
    Option (State F) :=
  if s.aborted || (v.isNone && atEnd s l) then none else step requests s l

/-- A step that is possible is one of the two threads. -/
theorem callStep_cases {v : Option Link.Ending} {s s' : State F} {l : Lbl}
    (h : callStep requests v s l = some s') :
    step requests s l = some s' ∧ s.aborted = false ∧ (atEnd s l = true → v.isSome = true) := by
  unfold callStep at h
  split at h
  · cases h
  · rename_i hb
    simp only [Bool.or_eq_true, Bool.and_eq_true, not_or, not_and, Bool.not_eq_true,
      Option.isNone_iff_eq_none] at hb
    refine ⟨h, hb.1, fun hend => ?_⟩
    cases v with
    | none => rw [hb.2 rfl] at hend; cases hend
    | some st => rfl

theorem callStep_eq {v : Option Link.Ending} {s : State F} {l : Lbl} (ha : s.aborted = false)
    (hv : atEnd s l = true → v.isSome = true) : callStep requests v s l = step requests s l := by
  unfold callStep
  rw [if_neg]
  cases v with
  | none => simpa [ha] using hv
  | some st => simp [ha]

theorem step_deliver {s s' : State F} {l : Lbl} (rs : List (StreamingRecognizeResponse F))
    (h : step requests s l = some s') (hend : atEnd s l = false) :
    step requests (s.deliver rs) l = some (s'.deliver rs) := by
  cases l with
  | writer ok =>
    simp only [step, writerStep, State.deliver] at h ⊢
    cases hw : s.writer <;> simp only [hw, reduceCtorEq, Option.some.injEq] at h ⊢
    case write i =>
      cases hm : requests[sizeT i]? with
      | none => rw [hm] at h; cases h
      | some m => rw [hm] at h; cases h; rfl
    all_goals subst h; rfl
  | reader ok =>
    simp only [step, readerStep, State.deliver] at h ⊢
    cases hr : s.reader <;> simp only [hr, reduceCtorEq, Option.some.injEq] at h ⊢
    case writeConfig =>
      cases hm : requests.head? with
      | none => rw [hm] at h; cases h
      | some m => rw [hm] at h; cases h; rfl
    case read =>
      cases hin : s.incoming with
      | nil => simp [atEnd, hr, hin] at hend
      | cons r rest =>
        rw [hin] at h
        simp only [List.cons_append] at h ⊢
        split at h <;> cases h <;> simp_all
    case load r => split at h <;> cases h <;> simp_all
    case join =>
      split at h
      · cases h; simp_all
      · cases h
    all_goals subst h; rfl

theorem callStep_deliver {s s' : State F} {l : Lbl} (rs : List (StreamingRecognizeResponse F))
    (h : callStep requests none s l = some s') :
    callStep requests none (s.deliver rs) l = some (s'.deliver rs) := by
  obtain ⟨hst, ha, hend⟩ := callStep_cases h
  have hend : atEnd s l = false := by simpa using hend
  have hend' : atEnd (s.deliver rs) l = false := by
    cases l with
    | writer ok => rfl
    | reader ok =>
      cases hr : s.reader <;> simp_all [atEnd, State.deliver]
  exact (callStep_eq (s := s.deliver rs) ha (by simp [hend'])).trans (step_deliver rs hst hend)

/-- The two threads as one end of the call. -/
def client (requests : List StreamingRecognizeRequest) :
    Link.Client (State F) Lbl StreamingRecognizeRequest (StreamingRecognizeResponse F) where
  step := callStep requests
  uplink s := uplink s.log
  deliver := State.deliver
  deliver_nil s := by rw [State.deliver, List.append_nil]
  deliver_append rs rs' s := by simp only [State.deliver, List.append_assoc]
  uplink_deliver _ _ := rfl
  uplink_step h := Link.cut_mono ((step_log_le (callStep_cases h).1).filterMap _)
  step_deliver rs h := callStep_deliver rs h

/-! ## What the client has put on the stream -/

def messages (items : List (Item StreamingRecognizeRequest)) : List StreamingRecognizeRequest :=
  items.filterMap Item.message?

/-- Behind a failed `Write` none is accepted. -/
structure Accepted (s : State F) : Prop where
  isPrefix : messages (items s.log) <+: written s.log
  all : s.broken = false → messages (items s.log) = written s.log

/-- Steps that do not write. -/
theorem Accepted.frame {s s' : State F} (hi : Accepted s) (hb : s'.broken = s.broken)
    (hm : messages (items s'.log) = messages (items s.log)) (hw : written s'.log = written s.log) :
    Accepted s' where
  isPrefix := by rw [hm, hw]; exact hi.isPrefix
  all h := by rw [hm, hw]; exact hi.all (hb ▸ h)

/-- A `Write` of `m`. -/
theorem Accepted.write {s s' : State F} {m : StreamingRecognizeRequest} {ok : Bool} (hi : Accepted s)
    (hb : s'.broken = !ok) (hok : ok = true → s.broken = false) (hl : s'.log = s.log ++ [.write m ok]) :
    Accepted s' := by
  have hw : written s'.log = written s.log ++ [m] := by rw [hl, written_snoc]; rfl
  cases ok with
  | false =>
    have hm : messages (items s'.log) = messages (items s.log) := by
      rw [hl, items_snoc]; simp [Event.item?]
    exact ⟨by rw [hm, hw]; exact hi.isPrefix.trans (List.prefix_append _ _), by simp [hb]⟩
  | true =>
    have hm : messages (items s'.log) = written s'.log := by
      rw [hl, items_snoc, messages, List.filterMap_append, written_snoc, ← hi.all (hok rfl)]
      rfl
    exact ⟨by simp only [hm, List.prefix_rfl], fun _ => hm⟩

theorem accepted_step {s s' : State F} {l : Lbl} (hi : Accepted s)
    (hst : step requests s l = some s') : Accepted s' := by
  cases step_cases hst with
  | writeOk hw hm hok => exact hi.write rfl (fun _ => by simp_all) rfl
  | writeFail hw hm hok => exact hi.write rfl (by simp) rfl
  | config hr hm => exact hi.write rfl (fun h => by simp_all) rfl
  | writerDone hw | readerDone hr =>
    refine hi.frame rfl ?_ (by simp [Event.request?])
    rw [items_snoc, messages, List.filterMap_append]
    exact List.append_nil _
  | writerStore hw | readerStore hr | readResult hr hin hs | readStop hr hin hs =>
    exact hi.frame rfl (by simp [Event.item?]) (by simp [Event.request?])
  | loopOpen hw hf | loopClosed hw hf | guardOpen hw hf | guardClosed hw hf | spawn hr
  | readEnd hr hin | loadOpen hr hf | loadClosed hr hf | join hr hw | finish hr =>
    exact hi.frame rfl rfl rfl

/-- Nothing has failed and nothing asks to stop: what is on the stream is what was
written, and the half-close when the writer has finished. -/
def Tidy (s : State F) : Prop :=
  items s.log = (written s.log).map .message ++ if s.writer = .finished then [.halfClose] else []

theorem enterLoop_ne_finished (requests : List StreamingRecognizeRequest) (i : Int32) :
    enterLoop requests i ≠ .finished := by
  unfold enterLoop; split <;> simp

theorem tidy_step {s s' : State F} {l : Lbl} (hp : Phase s) (hs : Steady requests s) (hi : Tidy s)
    (hst : step requests s l = some s') (hs' : s'.log.all Event.isSteady = true) : Tidy s' := by
  obtain ⟨hfl, hr, -, -⟩ := hs
  unfold Tidy at hi ⊢
  cases step_cases hst with
  | loopOpen hw hf => simpa [hw] using hi
  | loopClosed hw hf => simpa [hw] using hi
  | writeOk hw hm hok =>
    simp only [hw, reduceCtorEq, if_false, List.append_nil] at hi
    simp [enterLoop_ne_finished, hi, Event.item?, Event.request?]
  | writeFail hw hm hok => simp [Event.isSteady] at hs'
  | guardOpen hw hf => simpa [hw] using hi
  | guardClosed hw hf => exact absurd (hfl hf) (by simp [hw])
  | writerStore hw => simpa [hw, Event.item?, Event.request?] using hi
  | writerDone hw => simpa [hw, Event.item?, Event.request?] using hi
  | config hrd hm =>
    have hn := hp.notStarted.mpr (.inl hrd)
    simp only [hn, reduceCtorEq, if_false, List.append_nil] at hi
    simp only [List.all_append, List.all_cons, List.all_nil, Event.isSteady, Bool.and_eq_true] at hs'
    simp [hn, hi, Event.item?, Event.request?, hs'.2.1]
  | spawn hrd =>
    have hn := hp.notStarted.mpr (.inr hrd)
    simpa [hn, enterLoop_ne_finished] using hi
  | readEnd hrd hin => exact hi
  | readResult hrd hin hstop => simpa [Event.item?, Event.request?] using hi
  | readStop hrd hin hstop => simp [Event.isSteady, hstop] at hs'
  | loadOpen hrd hf => rw [hrd] at hr; cases hr
  | loadClosed hrd hf => rw [hrd] at hr; cases hr
  | readerStore hrd => rw [hrd] at hr; cases hr
  | readerDone hrd => rw [hrd] at hr; cases hr
  | join hrd hw => exact hi
  | finish hrd => exact hi

/-- The invariant of the delivery, and what is on the stream. -/
structure Sent (requests : List StreamingRecognizeRequest)
    (responses : List (StreamingRecognizeResponse F)) (s : State F) : Prop where
  inv : Inv requests responses s
  accepted : Accepted s
  tidy : s.log.all Event.isSteady = true → Tidy s

theorem sent_inductive (hlen : requests.length < 2 ^ 31)
    (responses : List (StreamingRecognizeResponse F)) :
    (lts requests responses).Inductive (Sent requests responses) where
  init := by
    rintro s rfl
    exact ⟨inv_start, ⟨List.prefix_rfl, fun _ => rfl⟩, fun _ => rfl⟩
  step := by
    intro s l s' hi hst
    refine ⟨(inv_inductive hlen).step s l s' hi.inv hst, accepted_step hi.accepted hst, fun hs' => ?_⟩
    have hs : s.log.all Event.isSteady = true := by
      obtain ⟨tl, htl⟩ := step_log_le hst
      rw [← htl, List.all_append, Bool.and_eq_true] at hs'
      exact hs'.1
    exact tidy_step hi.inv.phase (hi.inv.steady hs) (hi.tidy hs) hst hs'

/-! ## Over the network -/

section Network

/-- The two threads, the network and the server. -/
abbrev Net (F : Type) :=
  Link.State (State F) StreamingRecognizeRequest (StreamingRecognizeResponse F)

abbrev NetLbl (F : Type) := Link.Lbl Lbl (StreamingRecognizeResponse F)

def net (F : Type) (requests : List StreamingRecognizeRequest) : LTS (Net F) (NetLbl F) :=
  Link.lts (client requests) (start [])

def netStart : Net F := Link.start (start [])

/-- The reader has left its loop. -/
def Ended (s : State F) : Prop := s.reader = .join ∨ s.reader = .finish ∨ s.reader = .returned

theorem ended_step {v : Option Link.Ending} {s s' : State F} {l : Lbl}
    (h : callStep requests v s l = some s') (he : Ended s') : Ended s ∨ v.isSome = true := by
  obtain ⟨hst, -, hend⟩ := callStep_cases h
  cases step_cases hst with
  | readEnd hr hin => exact .inr (hend (by simp [atEnd, hr, hin]))
  | join hr hw => exact .inl (.inl hr)
  | finish hr => exact .inl (.inr (.inl hr))
  | config hr hm | spawn hr | readResult hr hin hs | readStop hr hin hs | loadOpen hr hf
  | loadClosed hr hf | readerStore hr | readerDone hr => simp [Ended, *] at he
  | loopOpen hw hf | loopClosed hw hf | writeOk hw hm hok | writeFail hw hm hok | guardOpen hw hf
  | guardClosed hw hf | writerStore hw | writerDone hw => exact .inl he

theorem not_ended_start : ¬ Ended (start [] : State F) := by simp [Ended, start]

/-- Every fact about the client alone. -/
theorem sent_of_run (hlen : requests.length < 2 ^ 31) {ls : List (NetLbl F)} {s : Net F}
    (hr : (net F requests).Run netStart ls s) : Sent requests s.delivered s.client := by
  have hstart : ∀ rs, Sent requests rs ((client requests).deliver rs (start [] : State F)) :=
    fun rs => (sent_inductive hlen rs).init (start rs) rfl
  exact Link.invariant_of_run hstart
    (fun hi hst => (sent_inductive hlen _).step _ _ _ hi (callStep_cases hst).1) hr

theorem all_isSteady {log : List (Event F)} (hread : ∀ r, .read r ∈ log → stops r = false)
    (hwrite : ∀ m ok, .write m ok ∈ log → ok = true) : log.all Event.isSteady = true := by
  rw [List.all_eq_true]
  intro e he
  cases e with
  | write m ok => exact hwrite m ok he
  | read r => simpa [Event.isSteady] using hread r he
  | store t => rfl
  | writesDone t => rfl

theorem received_items {ls : List (NetLbl F)} {s : Net F} (hr : (net F requests).Run netStart ls s) :
    s.received <+: items s.client.log :=
  (Link.received_le hr).trans (Link.cut_le _)

theorem received_messages (hlen : requests.length < 2 ^ 31) {ls : List (NetLbl F)} {s : Net F}
    (hr : (net F requests).Run netStart ls s) : messages s.received <+: requests := by
  have hsent := sent_of_run hlen hr
  have hwritten := hsent.inv.position.written_prefix hsent.inv.phase
  exact (((received_items hr).filterMap _).trans hsent.accepted.isPrefix).trans hwritten

/-- With the half-close the server has everything. -/
theorem received_eq (hlen : requests.length < 2 ^ 31) {ls : List (NetLbl F)} {s : Net F}
    (hr : (net F requests).Run netStart ls s) (hread : ∀ r, .read r ∈ s.client.log → stops r = false)
    (hwrite : ∀ m ok, .write m ok ∈ s.client.log → ok = true) (hc : .halfClose ∈ s.received) :
    s.received = requests.map .message ++ [.halfClose] := by
  have hsent := sent_of_run hlen hr
  have hsteady := all_isSteady hread hwrite
  have hpre := received_items hr
  rw [hsent.tidy hsteady, ← ite_not] at hpre
  obtain ⟨hall, hfin⟩ := Link.prefix_with_halfClose (b := decide (¬ s.client.writer = .finished))
    (by simpa only [decide_eq_true_eq] using hpre) hc
  have hw : s.client.writer = .finished := by simpa using hfin
  rw [hall, (hsent.inv.steady hsteady).all (by rw [hw]; rfl)]

/-- What the reader has pushed back has been delivered, in order. -/
theorem pushed_of_run (hlen : requests.length < 2 ^ 31) {ls : List (NetLbl F)} {s : Net F}
    (hr : (net F requests).Run netStart ls s) : s.client.received <+: s.delivered := by
  have hhanded := (sent_of_run hlen hr).inv.handed
  refine ⟨s.client.reader.inHand.toList ++ s.client.incoming, ?_⟩
  rw [← List.append_assoc, ← hhanded.all]
  exact congrArg (· ++ s.client.incoming) hhanded.pushed

/-- When the call has returned, the client has seen the end, and the result is what has
been delivered. -/
theorem result_eq (hlen : requests.length < 2 ^ 31) {ls : List (NetLbl F)} {s : Net F}
    (hr : (net F requests).Run netStart ls s) (hfin : s.client.Finished) :
    (s.ended = some .ok ∧ s.client.received = s.sent) ∨
      (s.ended = some .failed ∧ s.client.received = s.delivered) := by
  have hresult := ((sent_of_run hlen hr).inv.handed.result hfin).2
  obtain ⟨st, hv, -⟩ := Link.view_of_seen (V := fun _ => True) not_ended_start
    (fun hst h => (ended_step hst h).imp_right fun hv => by simpa [Option.isSome_iff_exists] using hv) id hr
    (.inr (.inr hfin.2))
  obtain ⟨he, hall⟩ := Link.view_cases hv
  cases st with
  | ok => exact .inl ⟨he, hresult.trans (hall rfl).2⟩
  | failed => exact .inr ⟨he, hresult⟩

/-- **Delivery over the network.** Whatever the server does, it has a prefix of the
requests. When the call has returned, it had ended: if the server had finished it, the
result is what the server sent; if it has failed, it is what has been delivered of
that. If nothing has failed on the stream and nothing has asked to stop, a server that
has seen the half-close has all the requests in front of it. -/
theorem call_delivers (hlen : requests.length < 2 ^ 31) {ls : List (NetLbl F)} {s : Net F}
    (hr : (net F requests).Run netStart ls s) :
    messages s.received <+: requests ∧
    s.client.received <+: s.sent ∧
    (s.client.Finished → (s.ended = some .ok ∧ s.client.received = s.sent) ∨
      (s.ended = some .failed ∧ s.client.received = s.delivered)) ∧
    ((∀ r, .read r ∈ s.client.log → stops r = false) → (∀ m ok, .write m ok ∈ s.client.log → ok = true) →
      .halfClose ∈ s.received → s.received = requests.map .message ++ [.halfClose]) :=
  ⟨received_messages hlen hr, (pushed_of_run hlen hr).trans (List.prefix_append _ _), result_eq hlen hr,
    received_eq hlen hr⟩

/-! ## The call ends -/

/-- What the threads owe each other, the responses apart. -/
structure Going (requests : List StreamingRecognizeRequest) (s : State F) : Prop where
  phase : Phase s
  position : Position requests s
  flag : HalfClosed s

theorem Going.halfClosed {s : State F} (hi : Going requests s) (hw : s.writer = .finished)
    (hr : s.reader = .read) : .halfClose ∈ uplink s.log := by
  rw [uplink, Link.mem_cut]
  rcases hi.flag.done (hi.flag.writer (.inr hw)) with h | h | ⟨r, h⟩
  · obtain ⟨e, he, hd⟩ := List.any_eq_true.mp h
    refine List.mem_filterMap.mpr ⟨e, he, ?_⟩
    cases e <;> simp only [Event.isWritesDone, reduceCtorEq] at hd
    rfl
  · rw [hw] at h; cases h
  · rw [hr] at h; cases h

/-- The call is over: both threads have finished, or the process has been aborted. -/
def Over (s : State F) : Prop := s.Finished ∨ s.aborted = true

/-- The calling thread waits for the server only when the writer has finished. -/
theorem Going.progress (hne : requests ≠ []) (hlen : requests.length < 2 ^ 31) {s : State F}
    (hi : Going requests s) (hfin : ¬ s.Finished) : ∃ l s', step requests s l = some s' ∧
      (atEnd s l = true → .halfClose ∈ uplink s.log) := by
  by_cases hn : s.writer = .notStarted
  · have hpc := hi.phase.notStarted.mp hn
    have hr : (readerStep requests s true).isSome := by
      refine readerStep_isSome hne (fun h => ?_) (fun h => ?_) true <;> rw [h] at hpc <;> simp at hpc
    obtain ⟨s', hs'⟩ := Option.isSome_iff_exists.mp hr
    refine ⟨.reader true, s', hs', fun hend => ?_⟩
    rcases hpc with hpc | hpc <;> simp [atEnd, hpc] at hend
  by_cases hw : s.writer = .finished
  · obtain ⟨s', hs'⟩ := Option.isSome_iff_exists.mp
      (readerStep_isSome hne (fun hret => hfin ⟨hw, hret⟩) (fun _ => hw) true)
    refine ⟨.reader true, s', hs', fun hend => hi.halfClosed hw ?_⟩
    simp only [atEnd] at hend
    split at hend
    · assumption
    · cases hend
  · obtain ⟨s', hs'⟩ := Option.isSome_iff_exists.mp (writerStep_isSome hi.position hlen hn hw true)
    exact ⟨.writer true, s', hs', by simp [atEnd]⟩

theorem uplink_length {s s' : State F} {l : Lbl} (hst : step requests s l = some s') :
    (uplink s'.log).length ≤ (uplink s.log).length + 1 := by
  have hsnoc : ∀ e : Event F, (uplink (s.log ++ [e])).length ≤ (uplink s.log).length + 1 := by
    intro e
    rw [uplink, items_snoc, uplink]
    cases e.item? with
    | none => simp
    | some item => exact Link.length_cut_le _ item
  cases step_cases hst <;> first | exact hsnoc _ | exact Nat.le_succ _

theorem live (hne : requests ≠ []) (hlen : requests.length < 2 ^ 31) :
    Link.Live (client (F := F) requests) (Going requests) Over Ended (State.rank requests.length) 4 where
  step hi h :=
    have hst := (callStep_cases h).1
    ⟨phase_step hi.phase hst, position_step hlen hi.phase hi.position hst,
      halfClosed_step hi.phase hi.flag hst⟩
  deliver _ hi := ⟨⟨hi.phase.notStarted, hi.phase.silent, hi.phase.halfOpen⟩, hi.position,
    ⟨hi.flag.done, hi.flag.writer⟩⟩
  rank_step hi h := rank_step hlen hi.phase hi.position (callStep_cases h).1
  rank_deliver s r := by
    simp only [client, State.deliver, State.rank, List.length_append, List.length_singleton]
    omega
  uplink_step _ h := uplink_length (callStep_cases h).1
  closedLast _ := Link.closedLast_cut _
  seen_step h he := ended_step h he
  seen_deliver h := h
  waits hi hover _ hclose := by
    obtain ⟨hfin, ha⟩ := not_or.mp hover
    obtain ⟨l, s', hst, hend⟩ := hi.progress hne hlen hfin
    exact ⟨l, s', (callStep_eq (Bool.eq_false_iff.mpr ha) fun h => absurd (hend h) hclose).trans hst⟩
  ends st hi hover := by
    obtain ⟨hfin, ha⟩ := not_or.mp hover
    obtain ⟨l, s', hst, -⟩ := hi.progress hne hlen hfin
    exact ⟨l, s', (callStep_eq (Bool.eq_false_iff.mpr ha) fun _ => rfl).trans hst⟩

/-- **The two sides do not wait for each other for good.** While the call has not
returned, nor been aborted by a second `WritesDone`, some step is possible that does not
depend on another response, the server finishing the call only after the half-close; so
every run can be continued to one in which the call is over, and everything put on the
stream has arrived unless the call had been ended before. A run has at most four steps
for a request, ten for a response and 24. -/
theorem call_ends (hne : requests ≠ []) (hlen : requests.length < 2 ^ 31) {ls : List (NetLbl F)}
    {s : Net F} (hr : (net F requests).Run netStart ls s) :
    ls.length ≤ 4 * requests.length + 10 * s.sent.length + 24 ∧
    (Over s.client ∨ ∃ l s', ((net F requests).guard Link.Quiet).step s l s') ∧
    ∃ ls' s', ((net F requests).guard Link.Quiet).Run s ls' s' ∧ Over s'.client ∧
      (Link.Uncut s → s'.received = uplink s'.client.log) := by
  have hl := live (F := F) hne hlen
  have hstart : Inv requests [] (start [] : State F) := inv_start
  have h₀ : Going requests (start [] : State F) := ⟨hstart.phase, hstart.position, hstart.flag⟩
  refine ⟨?_, hl.progress h₀ not_ended_start hr, hl.completes h₀ not_ended_start hr⟩
  have hle := hl.steps_le h₀ rfl hr
  have hrank : State.rank requests.length (start [] : State F) = 2 * requests.length + 11 := rfl
  rw [hrank] at hle
  omega

/-! ## A call -/

def partialResult : StreamingRecognizeResponse F :=
  { error := none, results := [], speechEventType := speechEventUnspecified }

/-- The server answers the first frame, and finishes the call when it has seen the
half-close. -/
def answered : Net Nat :=
  { client :=
      { halfClosedStream := true, broken := false, incoming := [], writer := .finished,
        reader := .returned, received := [partialResult],
        log := (twoFrames.take 2).map (.write · true) ++ [.read partialResult] ++
          (twoFrames.drop 2).map (.write · true) ++ [.store .writer, .writesDone .writer] }
    received := twoFrames.map .message ++ [.halfClose]
    delivered := [partialResult]
    inFlight := []
    ended := some .ok }

def answeredSteps : List (NetLbl Nat) :=
  [.client (.reader true), .client (.reader true), .arrive, .client (.writer true),
    .client (.writer true), .arrive, .respond partialResult, .deliver, .client (.reader true),
    .client (.writer true), .client (.writer true), .client (.writer true), .client (.writer true),
    .client (.writer true), .arrive, .arrive, .finish, .client (.reader true), .client (.reader true),
    .client (.reader true)]

theorem answered_run : (net Nat twoFrames).Run netStart answeredSteps answered :=
  LTS.run_of_exec rfl

/-- Nothing has failed or asked to stop there. -/
theorem steady_answered : (∀ r, .read r ∈ answered.client.log → stops r = false) ∧
    ∀ m ok, .write m ok ∈ answered.client.log → ok = true := by
  constructor
  · intro r hr
    have hr : r = partialResult := by simpa [answered, twoFrames] using hr
    rw [hr]; rfl
  · intro m ok hm
    simp only [answered, twoFrames] at hm
    grind

theorem halfClosed_answered : .halfClose ∈ answered.received := by simp [answered]

/-- The deadline passes while the second frame is still to be sent; of two responses
one has been delivered. -/
def timedOut : Net Nat :=
  { client :=
      { halfClosedStream := true, broken := true, incoming := [], writer := .finished,
        reader := .returned, received := [partialResult],
        log := (twoFrames.take 2).map (.write · true) ++
          [.read partialResult, .write (.audioContent [2]) false, .store .writer, .writesDone .writer] }
    received := (twoFrames.take 2).map .message
    delivered := [partialResult]
    inFlight := [partialResult]
    ended := some .failed }

def timedOutSteps : List (NetLbl Nat) :=
  [.client (.reader true), .client (.reader true), .arrive, .client (.writer true),
    .client (.writer true), .arrive, .respond partialResult, .respond partialResult, .deliver, .fail,
    .client (.reader true), .client (.reader true), .client (.writer true), .client (.writer false),
    .client (.writer true), .client (.writer true), .client (.writer true), .client (.reader true),
    .client (.reader true)]

theorem timedOut_run : (net Nat twoFrames).Run netStart timedOutSteps timedOut :=
  LTS.run_of_exec rfl

/-- All requests and all responses of one call, and what a deadline leaves of another. -/
theorem call_delivers_at :
    (answered.received = twoFrames.map .message ++ [.halfClose] ∧
      answered.client.received = answered.sent) ∧
    messages timedOut.received <+: twoFrames ∧ timedOut.client.received = timedOut.delivered ∧
      timedOut.delivered ≠ timedOut.sent := by
  obtain ⟨-, -, hresult, hall⟩ := call_delivers (by decide) answered_run
  obtain ⟨hpre, -, hresult', -⟩ := call_delivers (by decide) timedOut_run
  refine ⟨⟨hall steady_answered.1 steady_answered.2 halfClosed_answered, ?_⟩, hpre, ?_, by decide⟩
  · exact ((hresult ⟨rfl, rfl⟩).resolve_right fun h => absurd h.1 (by decide)).2
  · exact ((hresult' ⟨rfl, rfl⟩).resolve_left fun h => absurd h.1 (by decide)).2

/-- Where the first response has been read. -/
theorem half_answered_run : ∃ s : Net Nat, (net Nat twoFrames).Run netStart (answeredSteps.take 9) s ∧
    s.ended = none ∧ ¬ Over s.client :=
  ⟨_, LTS.run_of_exec rfl, rfl, by rintro (⟨-, h⟩ | h) <;> cases h⟩

/-- From there the call can go on, and be brought to an end with everything arrived. -/
theorem call_ends_at : ∃ s : Net Nat, (∃ l s', ((net Nat twoFrames).guard Link.Quiet).step s l s') ∧
    ∃ ls' s', ((net Nat twoFrames).guard Link.Quiet).Run s ls' s' ∧ Over s'.client ∧
      s'.received = uplink s'.client.log := by
  obtain ⟨s, hr, he, hover⟩ := half_answered_run
  obtain ⟨-, hstep, ls', s', hr', hover', hall⟩ := call_ends (by decide) (by decide) hr
  exact ⟨s, hstep.resolve_left hover, ls', s', hr', hover', hall (.inl he)⟩

end Network

end DictationClient.L5.StreamingRecognize
