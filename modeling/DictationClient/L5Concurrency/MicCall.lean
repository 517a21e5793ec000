import DictationClient.L3Protocol.PyConfig
import DictationClient.L5Concurrency.Consumer
import DictationClient.L5Concurrency.MicStop
import DictationClient.L5Concurrency.ResponseLoop

/-!
# The Python streaming call from the microphone

`RequestIterator` draws from the generator of a `MicrophoneStream`: behind the
configuration request, each `__next__` of gRPC's thread (`Consumer`) resumes the
generator, whose steps are those of `MicStream`. PortAudio's callback goes on
recording meanwhile, the calling thread walks the responses and sets `closed` on an
error or a speech event, and leaves the `with` block when the call has returned or
raised.

* `client`: the threads as a client of `Link`.
* `Fed`: what gRPC has put on the stream is the configuration request and what the
  generator has yielded.
* `mic_delivers`: what both sides have.
* `close_ends`: the half-close is a bounded number of gRPC's steps away once the stream
  is closed, but for the chunk the generator may be waiting for.
-/
namespace DictationClient.L5.MicCall

open DictationClient.Api DictationClient.L3 DictationClient.L3.PyConfig DictationClient.L4
open MicStream (GenPc genStep yielded recorded)
open Link (Item Ending)

/-- `consumer`: gRPC's thread, inside `next` where the generator stands; `stream`: what
it has put on the stream. -/
structure State (F : Type) where
  mic : MicStream.State
  isInitialRequest : Bool
  consumer : Consumer Unit
  stream : List (Item StreamingRecognizeRequest)
  reader : ResponseLoop.State F

inductive Lbl where
  | fillBuffer (inData : Bytes)
  | consumer
  | reader
  | exitClose
  | exitPut
  deriving DecidableEq, Repr

/-- What a step of the generator makes `next` return or raise. -/
def reply? (pc pc' : GenPc) : Option (Except PyErr StreamingRecognizeRequest) :=
  match pc with
  | .yield data => some (.ok (.audioContent data.flatten))
  | _ => if pc'.Ended then some (.error .stopIteration) else none

section Model
variable {F : Type} [One F] [LT F] [DecidableLT F] (rate : Int) (settings : DictationSettings)
  (v : Option Ending)

/-- gRPC's thread, on the configuration request or inside the generator.
mirrors python/service/streaming_recognizer.py:31-48 -/
def consumerStep (s : State F) : Option (State F) :=
  match s.consumer with
  | .ask => some { s with consumer := .enter v () }
  | .inside () =>
    if s.isInitialRequest then
      let reply := buildConfigurationRequest rate settings
      some { s with isInitialRequest := !reply.isOk, consumer := (Consumer.reply v s.stream reply).1
                    stream := (Consumer.reply v s.stream reply : Consumer Unit × _).2 }
    else (genStep s.mic).map fun mic =>
      match reply? s.mic.pc mic.pc with
      | none => { s with mic }
      | some reply => { s with mic, consumer := (Consumer.reply v s.stream reply).1
                               stream := (Consumer.reply v s.stream reply : Consumer Unit × _).2 }
  | _ => none

def readerStep (s : State F) : Option (State F) :=
  (ResponseLoop.step settings v s.reader).map fun (reader, closes) =>
    if closes then { s with reader, mic := s.mic.setClosed } else { s with reader }

/-- The `with` block is left when the call has returned or raised. -/
def step (s : State F) : Lbl → Option (State F)
  | .fillBuffer inData => (MicStream.step s.mic (.fillBuffer inData)).map fun mic => { s with mic }
  | .consumer => consumerStep rate settings v s
  | .reader => readerStep settings v s
  | .exitClose =>
    if s.reader.outcome.isSome then
      (MicStream.step s.mic .exitClose).map fun mic => { s with mic }
    else none
  | .exitPut =>
    if s.reader.outcome.isSome then (MicStream.step s.mic .exitPut).map fun mic => { s with mic } else none

def start : State F :=
  { mic := MicStream.start, isInitialRequest := true, consumer := .ask, stream := [],
    reader := ResponseLoop.start }

def State.deliver (rs : List (StreamingRecognizeResponse F)) (s : State F) : State F :=
  { s with reader := s.reader.deliver rs }

/-- Everything a step can do. -/
inductive Step (s : State F) : Lbl → State F → Prop
  | fillBuffer (inData : Bytes) : Step s (.fillBuffer inData) { s with mic := s.mic.put (some inData) }
  | asks (hc : s.consumer = .ask) : Step s .consumer { s with consumer := .enter v () }
  | config {reply} (hc : s.consumer = .inside ()) (hi : s.isInitialRequest = true)
      (hreq : buildConfigurationRequest rate settings = reply) :
      Step s .consumer { s with isInitialRequest := !reply.isOk
                                consumer := (Consumer.reply v s.stream reply).1
                                stream := (Consumer.reply v s.stream reply : Consumer Unit × _).2 }
  | moves {mic} (hc : s.consumer = .inside ()) (hi : s.isInitialRequest = false)
      (hgen : genStep s.mic = some mic) (hr : reply? s.mic.pc mic.pc = none) :
      Step s .consumer { s with mic }
  | replies {mic reply} (hc : s.consumer = .inside ()) (hi : s.isInitialRequest = false)
      (hgen : genStep s.mic = some mic) (hr : reply? s.mic.pc mic.pc = some reply) :
      Step s .consumer { s with mic, consumer := (Consumer.reply v s.stream reply).1
                                stream := (Consumer.reply v s.stream reply : Consumer Unit × _).2 }
  | reads {reader} (hread : ResponseLoop.step settings v s.reader = some (reader, false)) :
      Step s .reader { s with reader }
  | closes {reader} (hread : ResponseLoop.step settings v s.reader = some (reader, true)) :
      Step s .reader { s with reader, mic := s.mic.setClosed }
  | exitClose {mic} (ho : s.reader.outcome.isSome = true)
      (hmic : MicStream.step s.mic .exitClose = some mic) :
      Step s .exitClose { s with mic }
  | exitPut {mic} (ho : s.reader.outcome.isSome = true) (hmic : MicStream.step s.mic .exitPut = some mic) :
      Step s .exitPut { s with mic }

variable {rate settings v}

theorem consumerStep_cases {s s' : State F} (h : consumerStep rate settings v s = some s') :
    Step rate settings v s .consumer s' := by
  unfold consumerStep at h
  split at h
  · rename_i hc; cases h; exact .asks hc
  · rename_i hc
    split at h
    · rename_i hi; cases h; exact .config hc hi rfl
    · rename_i hi
      obtain ⟨mic, hgen, rfl⟩ := Option.map_eq_some_iff.mp h
      have hi : s.isInitialRequest = false := by simpa using hi
      split
      · rename_i hr; exact .moves hc hi hgen hr
      · rename_i reply hr; exact .replies hc hi hgen hr
  · cases h

theorem step_cases {s s' : State F} {l : Lbl} (h : step rate settings v s l = some s') :
    Step rate settings v s l s' := by
  cases l with
  | fillBuffer inData => cases h; exact .fillBuffer inData
  | consumer => exact consumerStep_cases h
  | reader =>
    obtain ⟨⟨reader, closes⟩, hread, rfl⟩ := Option.map_eq_some_iff.mp h
    cases closes with
    | true => exact .closes hread
    | false => exact .reads hread
  | exitClose =>
    simp only [step, Option.ite_none_right_eq_some] at h
    obtain ⟨mic, hmic, rfl⟩ := Option.map_eq_some_iff.mp h.2
    exact .exitClose h.1 hmic
  | exitPut =>
    simp only [step, Option.ite_none_right_eq_some] at h
    obtain ⟨mic, hmic, rfl⟩ := Option.map_eq_some_iff.mp h.2
    exact .exitPut h.1 hmic

theorem step_deliver {s s' : State F} {l : Lbl} (rs : List (StreamingRecognizeResponse F))
    (h : step rate settings none s l = some s') :
    step rate settings none (s.deliver rs) l = some (s'.deliver rs) := by
  cases step_cases h with
  | fillBuffer inData => rfl
  | asks hc => simp only [step, consumerStep, State.deliver, hc]
  | config hc hi hreq => simp only [step, consumerStep, State.deliver, hc, hi, hreq, if_true]
  | moves hc hi hgen hr | replies hc hi hgen hr =>
    simp only [step, consumerStep, State.deliver, hc, hi, hgen, hr, Bool.false_eq_true, if_false,
      Option.map_some]
  | reads hread | closes hread =>
    have hdeliver := ResponseLoop.step_deliver rs hread
    simp only [step, readerStep, State.deliver, hdeliver]
    rfl
  | exitClose ho hmic | exitPut ho hmic =>
    simp only [step, State.deliver, ResponseLoop.State.deliver, ho, if_true, hmic]
    rfl

/-- A step only adds to the stream. -/
theorem stream_step {s s' : State F} {l : Lbl} (h : step rate settings v s l = some s') :
    s.stream <+: s'.stream := by
  cases step_cases h with
  | config | replies => exact Consumer.stream_le_reply v s.stream _
  | fillBuffer | asks | moves | reads | closes | exitClose | exitPut => exact List.prefix_rfl

/-- The threads as one end of the call. -/
def client (rate : Int) (settings : DictationSettings) :
    Link.Client (State F) Lbl StreamingRecognizeRequest (StreamingRecognizeResponse F) where
  step := step rate settings
  uplink := State.stream
  deliver := State.deliver
  deliver_nil s := by rw [State.deliver, ResponseLoop.State.deliver, List.append_nil]
  deliver_append rs rs' s := by simp only [State.deliver, ResponseLoop.State.deliver, List.append_assoc]
  uplink_deliver _ _ := rfl
  uplink_step := stream_step
  step_deliver := step_deliver

end Model

/-! ## What gRPC has put on the stream -/

section Fed
variable {F : Type} {c : StreamingRecognitionConfig} {v : Option Ending}

/-- The configuration request and what has been yielded. -/
def messages (c : StreamingRecognitionConfig) (mic : MicStream.State) :
    List (Item StreamingRecognizeRequest) :=
  (.streamingConfig c :: (yielded mic.log).map .audioContent).map .message

theorem messages_le (c : StreamingRecognitionConfig) {mic mic' : MicStream.State} {more : List Bytes}
    (hy : yielded mic'.log = yielded mic.log ++ more) : messages c mic <+: messages c mic' := by
  rw [messages, messages, hy]
  exact ((List.prefix_cons_inj _).mpr ((List.prefix_append _ _).map _)).map _

/-- Where gRPC's thread stands, and what it has put on the stream; a reply that comes
behind the end of the call is dropped. -/
def Placed (c : StreamingRecognitionConfig) (initial : Bool)
    (stream : List (Item StreamingRecognizeRequest))
    (mic : MicStream.State) : Consumer Unit → Prop
  | .ask => mic.pc = .test ∧ stream = if initial then [] else messages c mic
  | .inside () => ¬ mic.pc.Ended ∧ stream = if initial then [] else messages c mic
  | .halfClosed => initial = false ∧ stream = messages c mic ++ [.halfClose]
  | .raised _ => False
  | .stopped => stream <+: messages c mic

/-- The microphone has been used as in `MicStream`, by gRPC only behind the
configuration request. -/
structure Fed (c : StreamingRecognitionConfig) (s : State F) : Prop where
  run : ∃ ls, MicStream.lts.Run MicStream.start ls s.mic
  fresh : s.isInitialRequest = true → s.mic.pc = .test ∧ yielded s.mic.log = []
  placed : Placed c s.isInitialRequest s.stream s.mic s.consumer

theorem stream_le (c : StreamingRecognitionConfig) (initial : Bool) (mic : MicStream.State) :
    (if initial then [] else messages c mic) <+: messages c mic := by
  cases initial with
  | true => exact List.nil_prefix
  | false => exact List.prefix_rfl

theorem fed_start : Fed c (start : State F) :=
  ⟨⟨[], .nil _⟩, fun _ => ⟨rfl, rfl⟩, rfl, rfl⟩

theorem Fed.deliver {s : State F} (h : Fed c s) (rs : List (StreamingRecognizeResponse F)) :
    Fed c (s.deliver rs) := ⟨h.run, h.fresh, h.placed⟩

/-- The other threads neither yield nor move the generator. -/
theorem other_step {mic mic' : MicStream.State} {m : MicStream.Lbl} (hm : m ≠ .generator)
    (hst : MicStream.step mic m = some mic') : mic'.pc = mic.pc ∧ yielded mic'.log = yielded mic.log := by
  cases MicStream.step_cases hst with
  | fillBuffer | exitPut => simp [MicStream.State.put, yielded]
  | close | exitClose => simp [MicStream.State.setClosed, yielded]
  | enter | leave | get | getNone | drain | drainNone | drainEmpty | yield => exact absurd rfl hm

theorem Fed.other {s : State F} (hi : Fed c s) {m : MicStream.Lbl} (hm : m ≠ .generator)
    {mic : MicStream.State} (hst : MicStream.step s.mic m = some mic) (reader : ResponseLoop.State F) :
    Fed c { s with mic, reader } := by
  obtain ⟨⟨ls, hr⟩, hfresh, hplaced⟩ := hi
  obtain ⟨hpc, hy⟩ := other_step hm hst
  refine ⟨⟨ls ++ [m], .snoc hr hst⟩, by rw [hpc, hy]; exact hfresh, ?_⟩
  simp only [Placed, messages] at hplaced ⊢
  rw [hpc, hy]
  exact hplaced

/-- A step of the generator yields, which `next` returns, or ends it, which `next`
raises, or neither. -/
inductive Generated (mic mic' : MicStream.State) : Option (Except PyErr StreamingRecognizeRequest) → Prop
  | yields {data} (hpc : mic'.pc = .test) (hy : yielded mic'.log = yielded mic.log ++ [data]) :
      Generated mic mic' (some (.ok (.audioContent data)))
  | ends (hpc : mic'.pc.Ended) (hy : yielded mic'.log = yielded mic.log) :
      Generated mic mic' (some (.error .stopIteration))
  | moves (hpc : ¬ mic'.pc.Ended) (hy : yielded mic'.log = yielded mic.log) : Generated mic mic' none

theorem generated_step {mic mic' : MicStream.State} (hgen : genStep mic = some mic') :
    Generated mic mic' (reply? mic.pc mic'.pc) := by
  cases MicStream.genStep_cases hgen with
  | @yield data hpc => rw [hpc]; exact .yields rfl (by simp [yielded])
  | leave hpc | getNone hpc | drainNone hpc => rw [hpc]; exact .ends (by simp [GenPc.Ended]) rfl
  | enter hpc | get hpc | drain hpc | drainEmpty hpc => rw [hpc]; exact .moves (by simp [GenPc.Ended]) rfl

variable [One F] [LT F] [DecidableLT F] {rate : Int} {settings : DictationSettings}

theorem fed_step (hcfg : buildConfigurationRequest rate settings = .ok (.streamingConfig c))
    {s s' : State F}
    {l : Lbl} (hi : Fed c s) (hst : step rate settings v s l = some s') : Fed c s' := by
  have ⟨⟨ls, hr⟩, hfresh, hplaced⟩ := hi
  have hrun : ∀ {mic}, genStep s.mic = some mic → ∃ ls, MicStream.lts.Run MicStream.start ls mic :=
    fun hgen => ⟨ls ++ [.generator], .snoc hr (show MicStream.lts.step s.mic .generator _ from hgen)⟩
  cases step_cases hst with
  | fillBuffer inData => exact hi.other (m := .fillBuffer inData) (by simp) rfl s.reader
  | closes hread => exact hi.other (m := .close) (by simp) rfl _
  | exitClose ho hmic | exitPut ho hmic => exact hi.other (by simp) hmic s.reader
  | reads hread => exact ⟨hi.run, hfresh, hplaced⟩
  | asks hc =>
    rw [hc] at hplaced
    refine ⟨hi.run, hfresh, ?_⟩
    cases v with
    | none => exact ⟨by rw [hplaced.1]; simp [GenPc.Ended], hplaced.2⟩
    | some _ => exact hplaced.2 ▸ stream_le c s.isInitialRequest s.mic
  | @config reply hc hinit hreq =>
    rw [hc] at hplaced
    rw [hcfg] at hreq
    subst hreq
    refine ⟨hi.run, by simp [Except.isOk, Except.toBool], ?_⟩
    rw [hinit] at hplaced
    have hnil : s.stream = [] := hplaced.2
    cases v with
    | none =>
      refine ⟨(hfresh hinit).1, ?_⟩
      simp [Consumer.reply, hnil, messages, (hfresh hinit).2, Except.isOk, Except.toBool]
    | some _ => exact hnil ▸ List.nil_prefix
  | @moves mic hc hinit hgen hrep =>
    rw [hc] at hplaced
    have hgenerated := generated_step hgen
    rw [hrep] at hgenerated
    cases hgenerated with
    | moves hpc hy =>
      refine ⟨hrun hgen, by rw [hinit]; simp, ?_⟩
      rw [hc]
      exact ⟨hpc, by rw [hplaced.2, messages, messages, hy]⟩
  | @replies mic reply hc hinit hgen hrep =>
    rw [hc, hinit] at hplaced
    have hgenerated := generated_step hgen
    rw [hrep] at hgenerated
    refine ⟨hrun hgen, by rw [hinit]; simp, ?_⟩
    rw [hinit]
    cases hgenerated with
    | @yields data hpc hy =>
      cases v with
      | none => exact ⟨hpc, by simp [Consumer.reply, hplaced.2, messages, hy]⟩
      | some _ => exact hplaced.2 ▸ messages_le c hy
    | ends hpc hy =>
      cases v with
      | none => exact ⟨rfl, by simp [Consumer.reply, hplaced.2, messages, hy]⟩
      | some _ => exact hplaced.2 ▸ messages_le c (hy.trans (List.append_nil _).symm)

end Fed

/-! ## Over the network -/

section Network
variable {F : Type} [One F] [LT F] [DecidableLT F] {rate : Int} {settings : DictationSettings}
  {c : StreamingRecognitionConfig}

/-- The threads, the network and the server. -/
abbrev Net (F : Type) :=
  Link.State (State F) StreamingRecognizeRequest (StreamingRecognizeResponse F)

abbrev NetLbl (F : Type) := Link.Lbl Lbl (StreamingRecognizeResponse F)

def net (F : Type) [One F] [LT F] [DecidableLT F] (rate : Int) (settings : DictationSettings) :
    LTS (Net F) (NetLbl F) :=
  Link.lts (client rate settings) start

def netStart : Net F := Link.start start

theorem runs : ResponseLoop.Runs settings (client (F := F) rate settings) State.reader start where
  start := rfl
  step hst := by
    cases step_cases hst with
    | reads hread | closes hread => exact .inr ⟨_, hread⟩
    | fillBuffer | asks | config | moves | replies | exitClose | exitPut => exact .inl rfl
  deliver := rfl

section Received
variable {ls : List (NetLbl F)} {s : Net F}
  (hcfg : buildConfigurationRequest rate settings = .ok (.streamingConfig c))
  (hr : (net F rate settings).Run netStart ls s)

include hcfg hr

theorem fed_of_run : Fed c s.client :=
  Link.invariant_of_run (I := fun _ => Fed c) (fun rs => fed_start.deliver rs)
    (fun hi hst => fed_step hcfg hi hst) hr

theorem received_messages : s.received.filterMap Item.message? <+:
    .streamingConfig c :: (yielded s.client.mic.log).map .audioContent := by
  have hpre : s.received <+: s.client.stream := Link.received_le hr
  have hle : s.client.stream <+: messages c s.client.mic ++
      if s.client.consumer.running then [] else [.halfClose] := by
    have hplaced := (fed_of_run hcfg hr).placed
    cases hc : s.client.consumer with
    | ask | inside _ =>
      rw [hc] at hplaced
      exact (hplaced.2 ▸ stream_le c _ _).trans (List.prefix_append _ _)
    | halfClosed => rw [hc] at hplaced; rw [hplaced.2]; exact List.prefix_rfl
    | raised _ => rw [hc] at hplaced; exact hplaced.elim
    | stopped => rw [hc] at hplaced; exact hplaced.trans (List.prefix_append _ _)
  have h := (hpre.trans hle).filterMap Item.message?
  rwa [messages, Link.filterMap_message?_le] at h

/-- With the half-close the server has all that was yielded. -/
theorem received_of_halfClose (hc : .halfClose ∈ s.received) : s.received =
    (.streamingConfig c :: (yielded s.client.mic.log).map .audioContent).map .message ++ [.halfClose] := by
  have hpre : s.received <+: s.client.stream := Link.received_le hr
  have hno : .halfClose ∉ messages c s.client.mic := by simp [messages]
  have hopen : ∀ {stream : List (Item StreamingRecognizeRequest)}, s.client.stream = stream →
      ¬ stream <+: messages c s.client.mic := by
    rintro _ rfl hle
    exact hno ((hpre.trans hle).subset hc)
  have hplaced := (fed_of_run hcfg hr).placed
  cases hcons : s.client.consumer with
  | ask | inside _ =>
    rw [hcons] at hplaced
    exact absurd (stream_le c _ _) (hopen hplaced.2)
  | raised _ => rw [hcons] at hplaced; exact hplaced.elim
  | stopped => rw [hcons] at hplaced; exact absurd hplaced (hopen rfl)
  | halfClosed =>
    rw [hcons] at hplaced
    rw [hplaced.2] at hpre
    exact (Link.prefix_with_halfClose (b := false) hpre hc).1

/-- What gRPC was given is the beginning of what was recorded, with one frame at most
behind a `close()`. -/
theorem recorded_of_run : (yielded s.client.mic.log).flatten <+: (recorded s.client.mic.log).flatten ∧
    countAfter MicStream.Event.isSetClosed MicStream.Event.isYield s.client.mic.log ≤ 1 := by
  obtain ⟨ls', hmic⟩ := (fed_of_run hcfg hr).run
  have hin := MicStream.inOrder hmic
  exact ⟨hin.bytes, hin.atMostOne⟩

end Received

/-- **Delivery over the network.** Whatever the server and the callback do, the server
has a prefix of the configuration request and the frames yielded, which are the
beginning of the recording, one at most behind a `close()`; with the half-close it has
all of them. What the call returns or raises is what `recognizeAudioContent` does on
what the server sent, or an `RpcError` if the call has failed. -/
theorem mic_delivers (hset : settings.Fits) (hrate : FitsInt32 rate) {ls : List (NetLbl F)} {s : Net F}
    (hr : (net F rate settings).Run netStart ls s) :
    ∃ c : StreamingRecognitionConfig, c.config.sampleRateHertz.toInt = rate ∧
      s.received.filterMap Item.message? <+:
        .streamingConfig c :: (yielded s.client.mic.log).map .audioContent ∧
      (yielded s.client.mic.log).flatten <+: (recorded s.client.mic.log).flatten ∧
      countAfter MicStream.Event.isSetClosed MicStream.Event.isYield s.client.mic.log ≤ 1 ∧
      (.halfClose ∈ s.received → s.received = (.streamingConfig c ::
        (yielded s.client.mic.log).map .audioContent).map .message ++ [.halfClose]) ∧
      ∀ out, s.client.reader.outcome = some out →
        ResponseLoop.Outcome settings s.ended s.sent s.delivered out := by
  obtain ⟨c, hcfg, hsent⟩ := buildConfigurationRequest_of_fits hrate hset
  obtain ⟨hrecorded, hone⟩ := recorded_of_run hcfg hr
  exact ⟨c, hsent, received_messages hcfg hr, hrecorded, hone, received_of_halfClose hcfg hr,
    fun out ho => ResponseLoop.outcome_cases runs hr ho⟩

/-! ## Closing the stream -/

def isConsumer : NetLbl F → Bool
  | .client .consumer => true
  | _ => false

/-- A chunk or the sentinel is put into the queue. -/
def isPut : NetLbl F → Bool
  | .client (.fillBuffer _) => true
  | .client .exitPut => true
  | _ => false

/-- What the generator can still do once `closed` is set, with `n` items queued: a
drain takes them all, and behind the yield gRPC asks once more. -/
def generatorRank (n : Nat) : GenPc → Nat
  | .yield _ => 3
  | .test => 1
  | .get => n + 4
  | .drain _ => n + 4
  | .left => 0
  | .returned => 0

def State.closedRank (s : State F) : Nat :=
  match s.consumer with
  | .ask => if s.isInitialRequest then 4 else 2
  | .inside () => if s.isInitialRequest then 3 else generatorRank s.mic.queue.length s.mic.pc
  | _ => 0

omit [One F] [LT F] [DecidableLT F] in
theorem closedRank_put (s : State F) (item : Option Bytes) (exiting : Bool) :
    State.closedRank { s with mic := { s.mic.put item with exiting } } ≤ s.closedRank + 1 := by
  simp only [State.closedRank, MicStream.State.put, List.length_append, List.length_singleton]
  split
  · exact Nat.le_succ _
  · split
    · exact Nat.le_succ _
    · cases s.mic.pc <;> simp only [generatorRank] <;> omega
  · exact Nat.zero_le _

theorem generatorRank_pos {mic mic' : MicStream.State} (hgen : genStep mic = some mic') :
    0 < generatorRank mic.queue.length mic.pc := by
  cases MicStream.genStep_cases hgen with
  | enter hpc | leave hpc | get hpc | getNone hpc | drain hpc | drainNone hpc | drainEmpty hpc
  | yield hpc =>
    simp [hpc, generatorRank]

theorem generatorRank_moves {mic mic' : MicStream.State} (hc : mic.closed = true)
    (hgen : genStep mic = some mic') (hrep : reply? mic.pc mic'.pc = none) :
    generatorRank mic'.queue.length mic'.pc < generatorRank mic.queue.length mic.pc := by
  cases MicStream.genStep_cases hgen with
  | enter hpc hopen => rw [hc] at hopen; cases hopen
  | get hpc hq | drain hpc hq | drainEmpty hpc hq => simp [hpc, hq, generatorRank]
  | leave hpc | getNone hpc | drainNone hpc => rw [hpc] at hrep; cases hrep
  | yield hpc => rw [hpc] at hrep; cases hrep

/-- Behind a yield gRPC asks once more. -/
theorem generatorRank_yields {pc pc' : GenPc} {n : Nat} {req : StreamingRecognizeRequest}
    (hrep : reply? pc pc' = some (.ok req)) : generatorRank n pc = 3 := by
  unfold reply? at hrep
  split at hrep
  · rfl
  · split at hrep <;> cases hrep

theorem closed_gen {mic mic' : MicStream.State} (hgen : genStep mic = some mic') :
    mic'.closed = mic.closed := by
  cases MicStream.genStep_cases hgen <;> rfl

theorem closed_step {v : Option Ending} {s s' : State F} {l : Lbl} (hc : s.mic.closed = true)
    (hst : step rate settings v s l = some s') : s'.mic.closed = true := by
  cases step_cases hst with
  | fillBuffer | asks | config | reads => exact hc
  | closes => rfl
  | moves _ _ hgen | replies _ _ hgen => exact (closed_gen hgen).trans hc
  | exitClose ho hmic => cases MicStream.step_cases hmic; rfl
  | exitPut ho hmic => cases MicStream.step_cases hmic; exact hc

theorem closedRank_step (hcfg : buildConfigurationRequest rate settings = .ok (.streamingConfig c))
    {v : Option Ending} {s s' : State F} {l : Lbl} (hi : Fed c s) (hc : s.mic.closed = true)
    (hst : step rate settings v s l = some s') :
    s'.closedRank + (if isConsumer (.client l : NetLbl F) then 1 else 0) ≤
      s.closedRank + if isPut (.client l : NetLbl F) then 1 else 0 := by
  cases step_cases hst with
  | fillBuffer inData => exact closedRank_put s (some inData) s.mic.exiting
  | exitPut ho hmic =>
    cases MicStream.step_cases hmic
    exact closedRank_put s none false
  | exitClose ho hmic =>
    cases MicStream.step_cases hmic
    exact Nat.le_refl _
  | reads | closes => exact Nat.le_refl _
  | asks hcons =>
    have hplaced := hi.placed
    rw [hcons] at hplaced
    cases hinit : s.isInitialRequest <;> cases v <;>
      simp [State.closedRank, hcons, hinit, hplaced.1, Consumer.enter, isConsumer, isPut, generatorRank]
  | config hcons hinit hreq =>
    rw [hcfg] at hreq
    subst hreq
    cases v <;>
      simp [State.closedRank, hcons, hinit, Consumer.reply, isConsumer, isPut, Except.isOk, Except.toBool]
  | moves hcons hinit hgen hrep =>
    have hlt := generatorRank_moves hc hgen hrep
    simpa [State.closedRank, hcons, hinit, isConsumer, isPut] using Nat.succ_le_of_lt hlt
  | @replies mic reply hcons hinit hgen hrep =>
    have hpos := Nat.succ_le_of_lt (generatorRank_pos hgen)
    have hgenerated := generated_step hgen
    rw [hrep] at hgenerated
    cases v with
    | some _ => simpa [State.closedRank, hcons, hinit, Consumer.reply, isConsumer, isPut] using hpos
    | none =>
      cases hgenerated with
      | yields hpc hy =>
        have hthree := generatorRank_yields (n := s.mic.queue.length) hrep
        simp [State.closedRank, hcons, hinit, Consumer.reply, isConsumer, isPut, hthree]
      | ends hpc hy => simpa [State.closedRank, hcons, hinit, Consumer.reply, isConsumer, isPut] using hpos

omit [One F] [LT F] [DecidableLT F] in
theorem closedRank_le {s : State F} : s.closedRank ≤ s.mic.queue.length + 4 := by
  unfold State.closedRank
  split
  · split <;> omega
  · split
    · omega
    · cases s.mic.pc <;> simp only [generatorRank] <;> omega
  · exact Nat.zero_le _

/-- The thread has stopped: the call had ended. -/
theorem stopped_step {v : Option Ending} {s s' : State F} {l : Lbl}
    (hst : step rate settings v s l = some s')
    (h : s'.consumer = .stopped) : s.consumer = .stopped ∨ ∃ st, v = some st ∧ True := by
  cases step_cases hst with
  | asks hc =>
    cases v with
    | none => cases h
    | some st => exact .inr ⟨st, rfl, trivial⟩
  | config | replies =>
    obtain ⟨st, hv⟩ := Option.isSome_iff_exists.mp (Consumer.isSome_of_stopped h)
    exact .inr ⟨st, hv, trivial⟩
  | fillBuffer | moves | reads | closes | exitClose | exitPut => exact .inl h

/-- gRPC's thread stops behind the half-close or the end of the call, or in a `get` of
the empty queue. -/
theorem of_blocked (hcfg : buildConfigurationRequest rate settings = .ok (.streamingConfig c))
    {ls : List (NetLbl F)} {s : Net F} (hr : (net F rate settings).Run netStart ls s)
    (h : consumerStep rate settings s.view s.client = none) :
    .halfClose ∈ s.client.stream ∨ s.ended.isSome = true ∨ MicStream.Blocked s.client.mic := by
  have hplaced := (fed_of_run hcfg hr).placed
  cases hc : s.client.consumer with
  | ask => simp only [consumerStep, hc, reduceCtorEq] at h
  | inside _ =>
    rw [hc] at hplaced
    simp only [consumerStep, hc] at h
    split at h
    · cases h
    · have hgen := MicStream.genStep_eq_none_iff.mp (Option.map_eq_none_iff.mp h)
      exact .inr (.inr (hgen.resolve_right hplaced.1))
  | halfClosed =>
    rw [hc] at hplaced
    exact .inl (by rw [hplaced.2]; simp)
  | raised _ => rw [hc] at hplaced; exact hplaced.elim
  | stopped =>
    obtain ⟨st, hv, -⟩ := Link.view_of_seen (P := fun s => s.consumer = .stopped) (V := fun _ => True)
      (by simp [start]) stopped_step id hr hc
    exact .inr (.inl (by rw [(Link.view_cases hv).1]; rfl))

/-- **Closing the stream ends the drawing.** In any run behind the write of `closed`,
gRPC's thread takes at most four steps more than there are items queued or put
meanwhile. When it cannot go on, the half-close is on the stream, or the call had ended,
or the generator waits for a chunk, which it does not behind the sentinel. -/
theorem close_ends (hset : settings.Fits) (hrate : FitsInt32 rate) {ls ls' : List (NetLbl F)} {s s' : Net F}
    (hr : (net F rate settings).Run netStart ls s) (hclosed : s.client.mic.closed = true)
    (hr' : (net F rate settings).Run s ls' s') :
    ls'.countP isConsumer ≤ s.client.mic.queue.length + 4 + ls'.countP isPut ∧
    (consumerStep rate settings s'.view s'.client = none →
      .halfClose ∈ s'.client.stream ∨ s'.ended.isSome = true ∨ MicStream.Blocked s'.client.mic) ∧
    (none ∈ MicStream.puts s'.client.mic.log → ¬ MicStream.Blocked s'.client.mic) := by
  obtain ⟨c, hcfg, -⟩ := buildConfigurationRequest_of_fits hrate hset
  refine ⟨?_, of_blocked hcfg (hr.append hr'), fun hput hblocked => ?_⟩
  · have hstep : ∀ s l s', Fed c s.client ∧ s.client.mic.closed = true → (net F rate settings).step s l s' →
        Fed c s'.client ∧ s'.client.mic.closed = true := by
      intro s l s' ⟨hi, hc⟩ hst
      cases Link.step_cases hst with
      | client hcl => exact ⟨fed_step hcfg hi hcl, closed_step hc hcl⟩
      | deliver _ _ => exact ⟨hi.deliver _, hc⟩
      | arrive | respond | finish | fail => exact ⟨hi, hc⟩
    have hrank : ∀ s l s', Fed c s.client ∧ s.client.mic.closed = true → (net F rate settings).step s l s' →
        s'.client.closedRank + (if isConsumer l then 1 else 0) ≤
          s.client.closedRank + if isPut l then 1 else 0 := by
      intro s l s' ⟨hi, hc⟩ hst
      cases Link.step_cases hst with
      | client hcl => exact closedRank_step hcfg hi hc hcl
      | arrive | respond | deliver | finish | fail => exact Nat.le_refl _
    obtain ⟨-, hle⟩ := LTS.countP_add_rank_le hstep hrank ⟨fed_of_run hcfg hr, hclosed⟩ hr'
    have hmost := closedRank_le (s := s.client)
    omega
  · obtain ⟨ls₀, hmic⟩ := (fed_of_run hcfg (hr.append hr')).run
    have hsentinel : MicStream.SentinelPut s'.client.mic :=
      ⟨MicStream.accounted_inductive.run rfl hmic, hput⟩
    have hmem := hsentinel.none_mem (by simp [hblocked.1])
    rw [hblocked.2] at hmem; cases hmem

/-! ## A session -/

def micConfig : StreamingRecognitionConfig where
  config := {
    encoding := .linear16
    sampleRateHertz := 16000
    languageCode := "pl-PL"
    maxAlternatives := 1
    speechContexts := []
    enableWordTimeOffsets := false
    configFields := [⟨"no-input-timeout", "5000"⟩, ⟨"speech-complete-timeout", "2000"⟩,
      ⟨"speech-incomplete-timeout", "4000"⟩, ⟨"recognition-timeout", "10000"⟩] }
  singleUtterance := false
  interimResults := false

def utteranceEnd : StreamingRecognizeResponse Nat :=
  { error := none, results := [], speechEventType := endOfSingleUtterance }

/-- Two chunks are sent as one; with a third in the hands of the generator an end of
utterance closes the stream. -/
def untilClosed : List (NetLbl Nat) :=
  [.client .consumer, .client .consumer, .client (.fillBuffer [1, 2]), .client (.fillBuffer [3, 4])] ++
    List.replicate 6 (.client .consumer) ++ [.client (.fillBuffer [5, 6])] ++
    List.replicate 3 (.client .consumer) ++
    [.arrive, .arrive, .respond utteranceEnd, .deliver, .client .reader]

/-- It is sent, with a fourth one, before the half-close; the call returns and the `with`
block is left. -/
def goodbye : List (NetLbl Nat) :=
  [.client (.fillBuffer [7, 8])] ++ List.replicate 5 (.client .consumer) ++
    [.arrive, .arrive, .finish, .client .reader, .client .exitClose, .client .exitPut]

/-- Where the stream has been closed. -/
def closedMid : Net Nat :=
  { client :=
      { mic :=
          { closed := true, queue := [], exiting := false, pc := .drain [[5, 6]]
            log := [.put (some [1, 2]), .put (some [3, 4]), .yield [[1, 2], [3, 4]], .put (some [5, 6]),
              .setClosed] }
        isInitialRequest := false
        consumer := .inside ()
        stream := (.streamingConfig micConfig :: [[1, 2, 3, 4]].map .audioContent).map .message
        reader := { incoming := [], loop := { results := [], closes := 1 }, outcome := none } }
    received := (.streamingConfig micConfig :: [[1, 2, 3, 4]].map .audioContent).map .message
    delivered := [utteranceEnd]
    inFlight := []
    ended := none }

def goneHome : Net Nat :=
  { client :=
      { mic :=
          { closed := true, queue := [none], exiting := false, pc := .left
            log := closedMid.client.mic.log ++
              [.put (some [7, 8]), .yield [[5, 6], [7, 8]], .setClosed, .put none] }
        isInitialRequest := false
        consumer := .halfClosed
        stream := (.streamingConfig micConfig ::
          [[1, 2, 3, 4], [5, 6, 7, 8]].map .audioContent).map .message ++
          [.halfClose]
        reader := { incoming := [], loop := { results := [], closes := 1 }, outcome := some (.ok []) } }
    received := (.streamingConfig micConfig ::
      [[1, 2, 3, 4], [5, 6, 7, 8]].map .audioContent).map .message ++
      [.halfClose]
    delivered := [utteranceEnd]
    inFlight := []
    ended := some .ok }

theorem untilClosed_run : (net Nat 16000 {}).Run netStart untilClosed closedMid := LTS.run_of_exec rfl

theorem goodbye_run : (net Nat 16000 {}).Run closedMid goodbye goneHome := LTS.run_of_exec rfl

/-- Both frames, the second one behind the `close()`. -/
theorem mic_delivers_at : ∃ c : StreamingRecognitionConfig, c.config.sampleRateHertz.toInt = 16000 ∧
    goneHome.received.filterMap Item.message? <+:
      .streamingConfig c :: [[1, 2, 3, 4], [5, 6, 7, 8]].map .audioContent ∧
    (yielded goneHome.client.mic.log).flatten <+: (recorded goneHome.client.mic.log).flatten ∧
    countAfter MicStream.Event.isSetClosed MicStream.Event.isYield goneHome.client.mic.log ≤ 1 ∧
    goneHome.received =
      (.streamingConfig c :: [[1, 2, 3, 4], [5, 6, 7, 8]].map .audioContent).map .message ++ [.halfClose] ∧
    ResponseLoop.Outcome {} (some .ok) [utteranceEnd] [utteranceEnd] (.ok []) := by
  obtain ⟨c, hrate, hpre, hrec, hone, hall, hout⟩ := mic_delivers (by decide) (by decide)
    (untilClosed_run.append goodbye_run)
  exact ⟨c, hrate, hpre, hrec, hone, hall (by simp [goneHome]), hout _ rfl⟩

/-- Five steps of gRPC's thread, to the half-close. -/
theorem close_ends_at : closedMid.client.mic.closed = true ∧ goodbye.countP isConsumer = 5 ∧
    goodbye.countP isConsumer ≤ closedMid.client.mic.queue.length + 4 + goodbye.countP isPut ∧
    (.halfClose ∈ goneHome.client.stream ∨ goneHome.ended.isSome = true ∨
      MicStream.Blocked goneHome.client.mic) ∧
    ¬ MicStream.Blocked goneHome.client.mic := by
  obtain ⟨hle, hstop, hput⟩ := close_ends (by decide) (by decide) untilClosed_run rfl goodbye_run
  exact ⟨rfl, rfl, hle, hstop rfl, hput (by decide)⟩

end Network

end DictationClient.L5.MicCall
