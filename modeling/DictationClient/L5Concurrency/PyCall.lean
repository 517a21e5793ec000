import DictationClient.L5Concurrency.Consumer
import DictationClient.L5Concurrency.LockedIterator
import DictationClient.L5Concurrency.ResponseLoop
import Mathlib.Data.List.Flatten
import Mathlib.Data.List.Forall2

/-!
# The Python streaming call opposite a server

gRPC draws the requests on a thread of its own (`Consumer`), step by step through
`__next__` and the generator (`LockedIterator.bodyStep`), while
`recognize_audio_content` walks the responses and closes the audio stream on an error or
a speech event. Nothing keeps that `close()` from falling between the generator's test
of its loop condition and its store of the index (`CloseRace`); the frame may then be
lost or the `close()` undone.

* `client`: the two threads as a client of `Link`.
* `Stands`: where the index is, and what has been read, at each step of `__next__`.
* `Drawn`: what gRPC has put on the stream.
* `session_delivers`, `session_ends`: what both sides have, and that the call ends.
-/
namespace DictationClient.L5.PyCall

open DictationClient.Api DictationClient.L2 DictationClient.L3 DictationClient.L3.PyConfig
open DictationClient.L4
open LockedIterator (IterPc bodyStep generatorStep)
open CloseRace (GenPc)
open RequestIterator (new)
open Link (Item Ending)

/-- Between the test of the loop condition and the store of the index. -/
def window : Consumer IterPc → Bool
  | .inside (.generator .readEnd) => true
  | .inside (.generator (.slice _)) => true
  | .inside (.generator (.store _ _)) => true
  | _ => false

/-- `stream`: what has been put on the stream; `raced`: a `close()` has fallen into the
window, which no step asks for. -/
structure State (F : Type) where
  iterator : RequestIterator
  consumer : Consumer IterPc
  stream : List (Item StreamingRecognizeRequest)
  raced : Bool
  reader : ResponseLoop.State F

inductive Lbl where
  | consumer
  | reader
  deriving DecidableEq, Repr

section Model
variable {F : Type} [One F] [LT F] [DecidableLT F] (settings : DictationSettings) (v : Option Ending)

/-- A step of gRPC's thread. -/
def consumerStep (s : State F) : Option (State F) :=
  match s.consumer with
  | .ask => some { s with consumer := .enter v .dispatch }
  | .inside k =>
    match bodyStep s.iterator k with
    | (iterator, .inl k') => some { s with iterator, consumer := .inside k' }
    | (iterator, .inr reply) =>
      some { s with iterator, consumer := (Consumer.reply v s.stream reply).1
                    stream := (Consumer.reply v s.stream reply : Consumer IterPc × _).2 }
  | _ => none

def readerStep (s : State F) : Option (State F) :=
  (ResponseLoop.step settings v s.reader).map fun (reader, closes) =>
    if closes then { s with reader, iterator := s.iterator.close, raced := s.raced || window s.consumer }
    else { s with reader }

def step (s : State F) : Lbl → Option (State F)
  | .consumer => consumerStep v s
  | .reader => readerStep settings v s

def start (st : AudioStream) (delay : Int) (settings : DictationSettings) : State F :=
  { iterator := new st.enter delay settings, consumer := .ask, stream := [], raced := false,
    reader := ResponseLoop.start }

def State.deliver (rs : List (StreamingRecognizeResponse F)) (s : State F) : State F :=
  { s with reader := s.reader.deliver rs }

/-- Everything a step can do. -/
inductive Step (s : State F) : Lbl → State F → Prop
  | asks (hc : s.consumer = .ask) : Step s .consumer { s with consumer := .enter v .dispatch }
  | moves {k iterator k'} (hc : s.consumer = .inside k) (hb : bodyStep s.iterator k = (iterator, .inl k')) :
      Step s .consumer { s with iterator, consumer := .inside k' }
  | replies {k iterator reply} (hc : s.consumer = .inside k)
      (hb : bodyStep s.iterator k = (iterator, .inr reply)) :
      Step s .consumer { s with iterator, consumer := (Consumer.reply v s.stream reply).1
                                stream := (Consumer.reply v s.stream reply : Consumer IterPc × _).2 }
  | reads {reader} (hread : ResponseLoop.step settings v s.reader = some (reader, false)) :
      Step s .reader { s with reader }
  | closes {reader} (hread : ResponseLoop.step settings v s.reader = some (reader, true)) :
      Step s .reader { s with reader, iterator := s.iterator.close, raced := s.raced || window s.consumer }

variable {settings v}

theorem step_cases {s s' : State F} {l : Lbl} (h : step settings v s l = some s') :
    Step settings v s l s' := by
  cases l with
  | consumer =>
    simp only [step, consumerStep] at h
    split at h
    · rename_i hc; cases h; exact .asks hc
    · rename_i k hc
      split at h
      · rename_i iterator k' hb; cases h; exact .moves hc hb
      · rename_i iterator reply hb; cases h; exact .replies hc hb
    · cases h
  | reader =>
    obtain ⟨⟨reader, closes⟩, hst, rfl⟩ := Option.map_eq_some_iff.mp h
    cases closes with
    | true => exact .closes hst
    | false => exact .reads hst

theorem step_deliver {s s' : State F} {l : Lbl} (rs : List (StreamingRecognizeResponse F))
    (h : step settings none s l = some s') :
    step settings none (s.deliver rs) l = some (s'.deliver rs) := by
  cases step_cases h with
  | asks hc => simp only [step, consumerStep, State.deliver, hc]
  | moves hc hb | replies hc hb => simp only [step, consumerStep, State.deliver, hc, hb]
  | reads hread | closes hread =>
    have hd := ResponseLoop.step_deliver rs hread
    simp only [step, readerStep, State.deliver, hd]
    rfl

/-- A step only adds to the stream. -/
theorem stream_step {s s' : State F} {l : Lbl} (h : step settings v s l = some s') :
    s.stream <+: s'.stream := by
  cases step_cases h with
  | replies hc hb => exact Consumer.stream_le_reply v s.stream _
  | asks _ | moves _ _ | reads _ | closes _ => exact List.prefix_rfl

variable (settings)

/-- The two threads as one end of the call. -/
def client : Link.Client (State F) Lbl StreamingRecognizeRequest (StreamingRecognizeResponse F) where
  step := step settings
  uplink := State.stream
  deliver := State.deliver
  deliver_nil s := by rw [State.deliver, ResponseLoop.State.deliver, List.append_nil]
  deliver_append rs rs' s := by simp only [State.deliver, ResponseLoop.State.deliver, List.append_assoc]
  uplink_deliver _ _ := rfl
  uplink_step := stream_step
  step_deliver := step_deliver

end Model

/-! ## Where the index is -/

section Position
variable {st : AudioStream} {p closes : Nat} {raced : Bool} {i : Int}

/-- The frames of the audio. -/
def frames (st : AudioStream) : List Bytes := chunks st.frameSamplesSize.toNat st.audio

/-- In front of the index `i` are `p` frames. -/
def Live (st : AudioStream) (p : Nat) (i : Int) : Prop :=
  0 ≤ i ∧ chunks st.frameSamplesSize.toNat (st.audio.drop i.toNat) = (frames st).drop p

/-- So it is, or a `close()` has moved the index. -/
def Ahead (st : AudioStream) (p closes : Nat) (i : Int) : Prop :=
  Live st p i ∨ ((st.audio.length : Int) ≤ i ∧ closes ≠ 0)

/-- The loop condition has held, and a `close()` may have come behind it. -/
def Inside (st : AudioStream) (p : Nat) (raced : Bool) (i : Int) : Prop :=
  (Live st p i ∧ i < st.audio.length) ∨ ((st.audio.length : Int) ≤ i ∧ raced = true)

/-- The frame has been read, or nothing behind such a `close()`. -/
def Reads (st : AudioStream) (p : Nat) (raced : Bool) (data : Bytes) : Prop :=
  (frames st)[p]? = some data ∨ (data = [] ∧ raced = true)

/-- The frame behind the index. -/
theorem Live.frame (hs : 0 < st.frameSamplesSize) (h : Live st p i) (hi : i < st.audio.length) :
    (frames st)[p]? = some (pySlice st.audio i (st.endSample i)) ∧ Live st (p + 1) (st.endSample i) := by
  obtain ⟨h0, hcut⟩ := h
  have hf : ({ st with dataIndex := i } : AudioStream).Forward := ⟨hs, h0⟩
  have hslice : pySlice st.audio i (st.endSample i) =
      (st.audio.drop i.toNat).take st.frameSamplesSize.toNat :=
    AudioStream.slice_eq_take hf hi
  have hdrop : st.audio.drop (st.endSample i).toNat =
      (st.audio.drop i.toNat).drop st.frameSamplesSize.toNat := AudioStream.drop_endSample hf hi
  have hne : st.audio.drop i.toNat ≠ [] := by rw [ne_eq, List.drop_eq_nil_iff]; omega
  rw [chunks_of_ne_nil (by omega) hne, ← hslice, ← hdrop] at hcut
  refine ⟨?_, ?_, (take_drop_succ hcut).2⟩
  · rw [← List.head?_drop, ← hcut]; rfl
  · have := AudioStream.endSample_bounds hs hi
    omega

theorem Live.lt_length (hs : 0 < st.frameSamplesSize) (h : Live st p i) (hi : i < st.audio.length) :
    p < (frames st).length := by
  obtain ⟨hframe, -⟩ := h.frame hs hi
  exact (List.getElem?_eq_some_iff.mp hframe).1

/-- At the end of the audio nothing is left to send. -/
theorem Live.length_le (h : Live st p i) (hi : ¬ i < st.audio.length) : (frames st).length ≤ p := by
  have hnil : st.audio.drop i.toNat = [] := List.drop_eq_nil_of_le (by omega)
  rw [← List.drop_eq_nil_iff, ← h.2, hnil, chunks_nil]

theorem Ahead.closed {closes' : Nat} (hc : closes' ≠ 0) (h : Ahead st p closes i) : Ahead st p closes' i :=
  h.imp_right fun h => ⟨h.1, hc⟩

theorem Reads.mono {raced' : Bool} (hr : raced = true → raced' = true) {data : Bytes}
    (h : Reads st p raced data) : Reads st p raced' data := h.imp_right fun h => ⟨h.1, hr h.2⟩

/-- The end of the frame that is about to be read. -/
theorem Inside.endSample (hs : 0 < st.frameSamplesSize) (hr : raced = true → closes ≠ 0)
    (h : Inside st p raced i) : Ahead st (p + 1) closes (st.endSample i) := by
  rcases h with ⟨hl, hi⟩ | ⟨hpast, hraced⟩
  · exact .inl (hl.frame hs hi).2
  · rw [CloseRace.endSample_past_end hs hpast]
    exact .inr ⟨Int.le_refl _, hr hraced⟩

/-- What the slice takes. -/
theorem Inside.slice (hs : 0 < st.frameSamplesSize) {e : Int} (h : Inside st p raced i)
    (he : i < st.audio.length → e = st.endSample i) : Reads st p raced (pySlice st.audio i e) := by
  rcases h with ⟨hl, hi⟩ | ⟨hpast, hraced⟩
  · rw [he hi]; exact .inl (hl.frame hs hi).1
  · exact .inr ⟨CloseRace.slice_past_end hpast e, hraced⟩

end Position

/-! ## At each step of `__next__` -/

section Stands
variable {st : AudioStream} {delay : Int} {settings : DictationSettings} {c : StreamingRecognitionConfig}
  {p closes : Nat} {raced : Bool} {it it' : RequestIterator} {k k' : IterPc}

/-- What no step changes. -/
structure Same (st : AudioStream) (delay : Int) (settings : DictationSettings) (it : RequestIterator) :
    Prop where
  stream : it.audioStream = { st with dataIndex := it.audioStream.dataIndex }
  delay_eq : it.delay = delay
  settings_eq : it.settings = settings

theorem Same.audio (h : Same st delay settings it) : it.audioStream.audio = st.audio := by
  rw [h.stream]

theorem Same.close (h : Same st delay settings it) : Same st delay settings it.close := by
  obtain ⟨hst, hd, hset⟩ := h
  exact ⟨by rw [RequestIterator.close, hst]; rfl, hd, hset⟩

/-- `close()` moves the index behind the audio. -/
theorem Same.past (h : Same st delay settings it) :
    (st.audio.length : Int) ≤ it.close.audioStream.dataIndex := by
  simp only [RequestIterator.close, AudioStream.close, h.audio]
  omega

/-- A call that builds the configuration request has sent nothing yet; one behind it has
sent `p` frames, and at its `yield` a frame more is behind the index. -/
def Stands (st : AudioStream) (c : StreamingRecognitionConfig) (p closes : Nat) (raced : Bool)
    (it : RequestIterator) : IterPc → Prop
  | .dispatch => Ahead st p closes it.audioStream.dataIndex
  | .build => it.isInitialRequest = true ∧ Ahead st p closes it.audioStream.dataIndex
  | .setFlag req => it.isInitialRequest = true ∧ req = .streamingConfig c ∧
      Ahead st p closes it.audioStream.dataIndex
  | .resume => it.isInitialRequest = false ∧ Ahead st p closes it.audioStream.dataIndex
  | .generator pc => it.isInitialRequest = false ∧ match pc with
    | .test => Ahead st p closes it.audioStream.dataIndex
    | .readEnd => p < (frames st).length ∧ Inside st p raced it.audioStream.dataIndex
    | .slice e => p < (frames st).length ∧ Inside st p raced it.audioStream.dataIndex ∧
        Ahead st (p + 1) closes e ∧
        (it.audioStream.dataIndex < st.audio.length → e = st.endSample it.audioStream.dataIndex)
    | .store e data => p < (frames st).length ∧ Ahead st (p + 1) closes e ∧ Reads st p raced data
    | .yield data => p < (frames st).length ∧ Ahead st (p + 1) closes it.audioStream.dataIndex ∧
        Reads st p raced data
    | .done => False

/-- The loop condition has held. -/
theorem Ahead.inside (hs : 0 < st.frameSamplesSize) (h : Ahead st p closes it.audioStream.dataIndex)
    (hi : it.audioStream.dataIndex < st.audio.length) :
    p < (frames st).length ∧ Inside st p raced it.audioStream.dataIndex := by
  have hl := h.resolve_right fun h => absurd hi (not_lt.mpr h.1)
  exact ⟨hl.lt_length hs hi, .inl ⟨hl, hi⟩⟩

/-- A step inside a call. -/
theorem stands_next (hcfg : buildConfigurationRequest st.frameRate settings = .ok (.streamingConfig c))
    (hs : 0 < st.frameSamplesSize) (hr : raced = true → closes ≠ 0) (hsame : Same st delay settings it)
    (hk : Stands st c p closes raced it k) (hb : bodyStep it k = (it', .inl k')) :
    Same st delay settings it' ∧ it'.audioGenerator = it.audioGenerator ∧
      it'.isInitialRequest = it.isInitialRequest ∧ Stands st c p closes raced it' k' := by
  obtain ⟨hst, hd, hset⟩ := hsame
  have haudio : it.audioStream.audio = st.audio := by rw [hst]
  have hend : ∀ i, it.audioStream.endSample i = st.endSample i := fun i => by rw [hst]; rfl
  have hrate : it.audioStream.frameRate = st.frameRate := by rw [hst]
  cases k with
  | dispatch =>
    cases hb
    refine ⟨⟨hst, hd, hset⟩, rfl, rfl, ?_⟩
    cases hi : it.isInitialRequest with
    | true => exact ⟨hi, hk⟩
    | false => exact ⟨hi, hk⟩
  | build =>
    simp only [bodyStep, hrate, hset, hcfg] at hb
    cases hb
    exact ⟨⟨hst, hd, hset⟩, rfl, rfl, hk.1, rfl, hk.2⟩
  | setFlag req => simp only [bodyStep, Prod.mk.injEq, reduceCtorEq, and_false] at hb
  | resume =>
    simp only [bodyStep] at hb
    split at hb
    · cases hb
    · cases hb; exact ⟨⟨hst, hd, hset⟩, rfl, rfl, hk⟩
  | generator pc =>
    obtain ⟨hi, hk⟩ := hk
    cases pc with
    | test =>
      simp only [bodyStep, generatorStep, haudio] at hb
      split at hb
      · rename_i hlt
        cases hb
        exact ⟨⟨hst, hd, hset⟩, rfl, rfl, hi, hk.inside hs hlt⟩
      · cases hb
    | readEnd =>
      cases hb
      refine ⟨⟨hst, hd, hset⟩, rfl, rfl, hi, hk.1, hk.2, ?_, fun _ => hend _⟩
      rw [hend]
      exact hk.2.endSample hs hr
    | slice e =>
      obtain ⟨hp, hin, he, heq⟩ := hk
      cases hb
      refine ⟨⟨hst, hd, hset⟩, rfl, rfl, hi, hp, he, ?_⟩
      rw [haudio]
      exact hin.slice hs heq
    | store e data =>
      cases hb
      exact ⟨⟨by rw [hst], hd, hset⟩, rfl, rfl, hi, hk⟩
    | yield data =>
      rcases LockedIterator.step_yield it data with ⟨-, hy⟩ | ⟨-, hy⟩ <;> rw [hy] at hb <;> cases hb
    | done => exact hk.elim

/-- What a call returns or raises: the configuration request, `StopIteration` behind
the last frame or a `close()`, or the next frame. -/
inductive Replies (st : AudioStream) (c : StreamingRecognitionConfig) (p closes : Nat) (raced : Bool)
    (it it' : RequestIterator) : RequestIterator.Reply → Prop
  | config (hi : it.isInitialRequest = true) (hi' : it'.isInitialRequest = false)
      (hg : it'.audioGenerator = it.audioGenerator) (ha : Ahead st p closes it'.audioStream.dataIndex) :
      Replies st c p closes raced it it' (.ok (.streamingConfig c))
  | audio {data} (hi : it.isInitialRequest = false) (hi' : it'.isInitialRequest = false)
      (hg : it'.audioGenerator = it.audioGenerator) (hp : p < (frames st).length)
      (ha : Ahead st (p + 1) closes it'.audioStream.dataIndex) (hread : Reads st p raced data) :
      Replies st c p closes raced it it' (.ok (.audioContent data))
  | stops (hi : it.isInitialRequest = false) (hi' : it'.isInitialRequest = false)
      (hall : closes = 0 → (frames st).length ≤ p) :
      Replies st c p closes raced it it' (.error .stopIteration)

theorem stands_reply (hcfg : buildConfigurationRequest st.frameRate settings = .ok (.streamingConfig c))
    (hd : 0 ≤ delay) (hg : it.audioGenerator.finished = false) (hsame : Same st delay settings it)
    (hk : Stands st c p closes raced it k) {reply : RequestIterator.Reply}
    (hb : bodyStep it k = (it', .inr reply)) :
    Same st delay settings it' ∧ Replies st c p closes raced it it' reply := by
  obtain ⟨hst, hdel, hset⟩ := hsame
  have haudio : it.audioStream.audio = st.audio := by rw [hst]
  have hrate : it.audioStream.frameRate = st.frameRate := by rw [hst]
  cases k with
  | dispatch => cases hb
  | build => simp only [bodyStep, hrate, hset, hcfg, Prod.mk.injEq, reduceCtorEq, and_false] at hb
  | setFlag req =>
    obtain ⟨hi, rfl, ha⟩ := hk
    cases hb
    exact ⟨⟨hst, hdel, hset⟩, .config hi rfl rfl ha⟩
  | resume =>
    simp only [bodyStep, hg, Bool.false_eq_true, if_false, Prod.mk.injEq, reduceCtorEq, and_false] at hb
  | generator pc =>
    obtain ⟨hi, hk⟩ := hk
    cases pc with
    | test =>
      simp only [bodyStep, generatorStep, haudio] at hb
      split at hb
      · cases hb
      · rename_i hover
        cases hb
        refine ⟨⟨hst, hdel, hset⟩, .stops hi hi fun hc => ?_⟩
        exact (hk.resolve_right fun h => h.2 hc).length_le hover
    | readEnd => cases hb
    | slice e => cases hb
    | store e data => cases hb
    | yield data =>
      rcases LockedIterator.step_yield it data with ⟨-, hy⟩ | ⟨hneg, -⟩
      · rw [hy] at hb
        cases hb
        exact ⟨⟨hst, hdel, hset⟩, .audio hi hi rfl hk.1 hk.2.1 hk.2.2⟩
      · omega
    | done => exact hk.elim

/-- A `close()` beside a call; in the window it may cost a frame. -/
theorem stands_close {closes' : Nat} (hc : closes' ≠ 0) (hsame : Same st delay settings it)
    (hk : Stands st c p closes raced it k) :
    Stands st c p closes' (raced || window (.inside k)) it.close k := by
  have hpast := hsame.past
  have hahead : ∀ p, Ahead st p closes' it.close.audioStream.dataIndex := fun p => .inr ⟨hpast, hc⟩
  cases k with
  | dispatch => exact hahead p
  | build => exact ⟨hk.1, hahead p⟩
  | setFlag req => exact ⟨hk.1, hk.2.1, hahead p⟩
  | resume => exact ⟨hk.1, hahead p⟩
  | generator pc =>
    obtain ⟨hi, hk⟩ := hk
    refine ⟨hi, ?_⟩
    cases pc with
    | test => exact hahead p
    | readEnd => exact ⟨hk.1, .inr ⟨hpast, Bool.or_true _⟩⟩
    | slice e =>
      exact ⟨hk.1, .inr ⟨hpast, Bool.or_true _⟩, hk.2.2.1.closed hc, fun h => absurd h (not_lt.mpr hpast)⟩
    | store e data =>
      exact ⟨hk.1, hk.2.1.closed hc, hk.2.2.mono fun h => by rw [h]; rfl⟩
    | yield data => exact ⟨hk.1, hahead (p + 1), hk.2.2.mono fun h => by rw [h]; rfl⟩
    | done => exact hk

end Stands

/-! ## What is on the stream -/

/-- The frames in order; after a `close()` in the window some may be empty. -/
def Framed (fs : List Bytes) (raced : Bool) (sent : List Bytes) : Prop :=
  List.Forall₂ (fun data frame => data = frame ∨ (data = [] ∧ raced = true)) sent (fs.take sent.length)

theorem framed_nil (fs : List Bytes) (raced : Bool) : Framed fs raced [] := .nil

theorem Framed.mono {fs sent : List Bytes} {raced raced' : Bool} (h : Framed fs raced sent)
    (hr : raced = true → raced' = true) : Framed fs raced' sent :=
  h.imp fun _ _ h => h.imp_right fun h => ⟨h.1, hr h.2⟩

theorem Framed.snoc {st : AudioStream} {sent : List Bytes} {raced : Bool} {data : Bytes}
    (h : Framed (frames st) raced sent) (hp : sent.length < (frames st).length)
    (hd : Reads st sent.length raced data) : Framed (frames st) raced (sent ++ [data]) := by
  rw [Framed, List.length_append, List.length_singleton, List.take_add_one,
    List.getElem?_eq_getElem hp]
  refine List.rel_append h (.cons ?_ .nil)
  rw [Reads, List.getElem?_eq_getElem hp, Option.some.injEq] at hd
  exact hd.imp_left Eq.symm

/-- Without such a `close()` they are the frames. -/
theorem Framed.eq {fs sent : List Bytes} {raced : Bool} (h : Framed fs raced sent) (hr : raced = false) :
    sent = fs.take sent.length := by
  rw [← List.forall₂_eq_eq_eq]
  exact h.imp fun _ _ h => h.resolve_right fun h => by rw [hr] at h; cases h.2

theorem Framed.sublist {fs sent : List Bytes} {raced : Bool} (h : Framed fs raced sent) :
    sent.flatten.Sublist fs.flatten := by
  have hfront : sent.flatten.Sublist (fs.take sent.length).flatten :=
    flatten_sublist (h.imp fun _ _ h => h.imp_right And.left)
  exact hfront.trans (List.take_sublist _ _).flatten

theorem Framed.length_le {fs sent : List Bytes} {raced : Bool} {n : Nat} (h : Framed fs raced sent)
    (hfs : ∀ frame ∈ fs, frame.length ≤ n) : ∀ data ∈ sent, data.length ≤ n := by
  have hfront : ∀ frame ∈ fs.take sent.length, frame.length ≤ n :=
    fun frame h => hfs frame (List.mem_of_mem_take h)
  unfold Framed at h
  generalize fs.take sent.length = front at h hfront
  induction h with
  | nil => exact fun data hdata => absurd hdata List.not_mem_nil
  | @cons data frame sent front hone _ ih =>
    rw [List.forall_mem_cons] at hfront ⊢
    refine ⟨?_, ih hfront.2⟩
    rcases hone with rfl | ⟨rfl, -⟩
    · exact hfront.1
    · exact Nat.zero_le n

section Drawn
variable {F : Type} {st : AudioStream} {delay : Int}
  {settings : DictationSettings} {c : StreamingRecognitionConfig} {sent : List Bytes}

/-- Where gRPC's thread stands, with `sent` on the stream. -/
def Placed (st : AudioStream) (c : StreamingRecognitionConfig) (sent : List Bytes) (closes : Nat)
    (raced : Bool) (it : RequestIterator) : Consumer IterPc → Prop
  | .ask => it.audioGenerator.finished = false ∧ Ahead st sent.length closes it.audioStream.dataIndex
  | .inside k => it.audioGenerator.finished = false ∧ Stands st c sent.length closes raced it k
  | .halfClosed => closes = 0 → (frames st).length ≤ sent.length
  | .raised _ => False
  | .stopped => True

theorem placed_close {closes closes' : Nat} {raced : Bool} {it : RequestIterator}
    {consumer : Consumer IterPc}
    (hc : closes' ≠ 0) (hsame : Same st delay settings it)
    (h : Placed st c sent closes raced it consumer) :
    Placed st c sent closes' (raced || window consumer) it.close consumer := by
  cases consumer with
  | ask => exact ⟨h.1, .inr ⟨hsame.past, hc⟩⟩
  | inside k => exact ⟨h.1, stands_close hc hsame h.2⟩
  | halfClosed => exact fun h => absurd h hc
  | raised _ => exact h
  | stopped => trivial

/-- Nothing, or the configuration request and the audio, and the half-close if gRPC's
thread has seen the end of the iterator. -/
def OnStream (c : StreamingRecognitionConfig) (sent : List Bytes)
    (stream : List (Item StreamingRecognizeRequest))
    (initial : Bool) (consumer : Consumer IterPc) : Prop :=
  (stream = [] ∧ sent = [] ∧ consumer.running = true ∧ (initial = true ∨ consumer = .stopped)) ∨
  (initial = false ∧ stream = (.streamingConfig c :: sent.map .audioContent).map .message ++
    if consumer.running then [] else [.halfClose])

theorem OnStream.moves {stream : List (Item StreamingRecognizeRequest)} {initial : Bool}
    {consumer consumer' : Consumer IterPc} (h : OnStream c sent stream initial consumer)
    (hrun : consumer'.running = consumer.running) (hstop : consumer = .stopped → consumer' = .stopped) :
    OnStream c sent stream initial consumer' := by
  rw [OnStream, hrun]
  exact h.imp_left fun ⟨hnil, hsent, hr, hi⟩ => ⟨hnil, hsent, hr, hi.imp_right hstop⟩

/-- What gRPC has drawn: `sent` is the audio on the stream, a request each. -/
structure Drawn (st : AudioStream) (delay : Int) (settings : DictationSettings)
    (c : StreamingRecognitionConfig) (sent : List Bytes) (s : State F) : Prop where
  same : Same st delay settings s.iterator
  raced : s.raced = true → s.reader.closes ≠ 0
  framed : Framed (frames st) s.raced sent
  onStream : OnStream c sent s.stream s.iterator.isInitialRequest s.consumer
  placed : Placed st c sent s.reader.closes s.raced s.iterator s.consumer

theorem drawn_start : Drawn st delay settings c [] (start st delay settings : State F) where
  same := ⟨rfl, rfl, rfl⟩
  raced h := by cases h
  framed := framed_nil _ _
  onStream := .inl ⟨rfl, rfl, rfl, .inl rfl⟩
  placed := ⟨rfl, .inl ⟨Int.le_refl 0, rfl⟩⟩

theorem Drawn.deliver {s : State F} (h : Drawn st delay settings c sent s)
    (rs : List (StreamingRecognizeResponse F)) : Drawn st delay settings c sent (s.deliver rs) :=
  ⟨h.same, h.raced, h.framed, h.onStream, h.placed⟩

/-- A reply that gRPC takes goes on the stream. -/
theorem Drawn.reply {s : State F} {k : IterPc} {it : RequestIterator} {reply : RequestIterator.Reply}
    (hi : Drawn st delay settings c sent s) (hc : s.consumer = .inside k)
    (hg : s.iterator.audioGenerator.finished = false) (hsame : Same st delay settings it)
    (h : Replies st c sent.length s.reader.closes s.raced s.iterator it reply) :
    ∃ sent', Drawn st delay settings c sent'
      { s with iterator := it, consumer := (Consumer.reply none s.stream reply).1
               stream := (Consumer.reply none s.stream reply : Consumer IterPc × _).2 } := by
  obtain ⟨-, hraced, hframed, hon, -⟩ := hi
  rw [hc] at hon
  cases h with
  | config hi hi' hg' ha =>
    have hnil : s.stream = [] ∧ sent = [] := by
      rcases hon with ⟨hnil, hsent, -⟩ | ⟨hno, -⟩
      · exact ⟨hnil, hsent⟩
      · rw [hi] at hno; cases hno
    obtain ⟨hnil, rfl⟩ := hnil
    refine ⟨[], hsame, hraced, hframed, .inr ⟨hi', ?_⟩, hg'.symm ▸ hg, ha⟩
    rw [hnil]; rfl
  | @audio data hi hi' hg' hp ha hread =>
    have hstream := (hon.resolve_left fun h => h.2.2.2.elim (by rw [hi]; simp) (by simp)).2
    refine ⟨sent ++ [data], hsame, hraced, hframed.snoc hp hread, .inr ⟨hi', ?_⟩, hg'.symm ▸ hg, ?_⟩
    · change s.stream ++ [Item.message _] = _
      rw [hstream]
      simp [Consumer.reply, Consumer.running]
    · rw [List.length_append]; exact ha
  | stops hi hi' hall =>
    have hstream := (hon.resolve_left fun h => h.2.2.2.elim (by rw [hi]; simp) (by simp)).2
    refine ⟨sent, hsame, hraced, hframed, .inr ⟨hi', ?_⟩, hall⟩
    change s.stream ++ [Item.halfClose] = _
    rw [hstream]
    simp [Consumer.reply, Consumer.running]

variable [One F] [LT F] [DecidableLT F]

/-- A step of gRPC's thread or of the loop draws at most one request. -/
theorem drawn_step (hcfg : buildConfigurationRequest st.frameRate settings = .ok (.streamingConfig c))
    (hd : 0 ≤ delay) (hs : 0 < st.frameSamplesSize) {v : Option Ending} {s s' : State F} {l : Lbl}
    (hi : Drawn st delay settings c sent s) (hst : step settings v s l = some s') :
    ∃ sent', Drawn st delay settings c sent' s' := by
  have ⟨hsame, hraced, hframed, hon, hplaced⟩ := hi
  cases step_cases hst with
  | asks hc =>
    rw [hc] at hplaced hon
    refine ⟨sent, hsame, hraced, hframed, hon.moves ?_ (by simp), ?_⟩
    · cases v <;> rfl
    · cases v with
      | none => exact hplaced
      | some _ => exact trivial
  | @moves k it k' hc hb =>
    rw [hc] at hplaced hon
    obtain ⟨hsame', hg, hinit, hk⟩ := stands_next hcfg hs hraced hsame hplaced.2 hb
    refine ⟨sent, hsame', hraced, hframed, ?_, by rw [hg]; exact hplaced.1, hk⟩
    rw [hinit]
    exact hon.moves rfl (by simp)
  | @replies k it reply hc hb =>
    rw [hc] at hplaced hon
    obtain ⟨hsame', hreply⟩ := stands_reply hcfg hd hplaced.1 hsame hplaced.2 hb
    cases v with
    | none => exact hi.reply hc hplaced.1 hsame' hreply
    | some _ =>
      -- the call has ended: the reply is dropped
      refine ⟨sent, hsame', hraced, hframed, ?_, trivial⟩
      rcases hon with ⟨hnil, hsent, -⟩ | ⟨hinit, hstream⟩
      · exact .inl ⟨hnil, hsent, rfl, .inr rfl⟩
      · refine .inr ⟨?_, hstream⟩
        cases hreply with
        | config hinit' _ _ _ => rw [hinit] at hinit'; cases hinit'
        | audio _ hinit' _ _ _ _ => exact hinit'
        | stops _ hinit' _ => exact hinit'
  | @reads reader hread =>
    rcases ResponseLoop.closes_step hread with ⟨-, hcl⟩ | ⟨h, -⟩
    · exact ⟨sent, hsame, by rw [hcl]; exact hraced, hframed, hon, by rw [hcl]; exact hplaced⟩
    · cases h
  | @closes reader hread =>
    rcases ResponseLoop.closes_step hread with ⟨h, -⟩ | ⟨-, hne⟩
    · cases h
    · have hle := ResponseLoop.closes_mono hread
      have hpos : reader.closes ≠ 0 := by omega
      exact ⟨sent, hsame.close, fun _ => hpos, hframed.mono fun h => by rw [h]; rfl, hon,
        placed_close hpos hsame hplaced⟩

end Drawn

/-! ## Over the network -/

section Network
variable {F : Type} [One F] [LT F] [DecidableLT F] {st : AudioStream} {delay : Int}
  {settings : DictationSettings}

/-- The two threads, the network and the server. -/
abbrev Net (F : Type) :=
  Link.State (State F) StreamingRecognizeRequest (StreamingRecognizeResponse F)

abbrev NetLbl (F : Type) := Link.Lbl Lbl (StreamingRecognizeResponse F)

def net (F : Type) [One F] [LT F] [DecidableLT F] (st : AudioStream) (delay : Int)
    (settings : DictationSettings) : LTS (Net F) (NetLbl F) :=
  Link.lts (client settings) (start st delay settings)

def netStart (st : AudioStream) (delay : Int) (settings : DictationSettings) : Net F :=
  Link.start (start st delay settings)

theorem runs : ResponseLoop.Runs settings (client (F := F) settings) State.reader
    (start st delay settings) where
  start := rfl
  step hst := by
    cases step_cases hst with
    | asks _ | moves _ _ | replies _ _ => exact .inl rfl
    | reads hread | closes hread => exact .inr ⟨_, hread⟩
  deliver := rfl

section Received
variable {c : StreamingRecognitionConfig} {sent : List Bytes} {ls : List (NetLbl F)} {s : Net F}

theorem drawn_of_run (hcfg : buildConfigurationRequest st.frameRate settings = .ok (.streamingConfig c))
    (hd : 0 ≤ delay) (hs : 0 < st.frameSamplesSize)
    (hr : (net F st delay settings).Run (netStart st delay settings) ls s) :
    ∃ sent, Drawn st delay settings c sent s.client :=
  Link.invariant_of_run (I := fun _ s => ∃ sent, Drawn st delay settings c sent s)
    (fun rs => ⟨[], drawn_start.deliver rs⟩) (fun ⟨_, hi⟩ hst => drawn_step hcfg hd hs hi hst) hr

variable (hi : Drawn st delay settings c sent s.client)
  (hr : (net F st delay settings).Run (netStart st delay settings) ls s)

include hi hr

theorem received_messages : s.received.filterMap Item.message? <+:
    .streamingConfig c :: sent.map .audioContent := by
  have hpre : s.received <+: s.client.stream := Link.received_le hr
  rcases hi.onStream with ⟨hnil, -⟩ | ⟨-, hstream⟩
  · rw [hnil, List.prefix_nil] at hpre
    rw [hpre]; exact List.nil_prefix
  · have hmessages := hpre.filterMap Item.message?
    rw [hstream, Link.filterMap_message?_le] at hmessages
    exact hmessages

/-- With the half-close the server has all that was drawn. -/
theorem received_of_halfClose (hc : .halfClose ∈ s.received) :
    s.received = (.streamingConfig c :: sent.map .audioContent).map .message ++ [.halfClose] ∧
      (s.client.reader.closes = 0 → sent = frames st) := by
  have hpre : s.received <+: s.client.stream := Link.received_le hr
  rcases hi.onStream with ⟨hnil, -⟩ | ⟨-, hstream⟩
  · rw [hnil, List.prefix_nil] at hpre
    rw [hpre] at hc; cases hc
  · rw [hstream] at hpre
    obtain ⟨heq, hrun⟩ := Link.prefix_with_halfClose hpre hc
    refine ⟨heq, fun hopen => ?_⟩
    have hplaced := hi.placed
    have hall : (frames st).length ≤ sent.length := by
      cases hcons : s.client.consumer with
      | halfClosed => rw [hcons] at hplaced; exact hplaced hopen
      | ask | inside _ | raised _ | stopped => rw [hcons] at hrun; cases hrun
    have hraced : s.client.raced = false := Bool.eq_false_iff.mpr fun h => hi.raced h hopen
    rw [hi.framed.eq hraced, List.take_of_length_le hall]

end Received

/-- **Delivery over the network.** Whatever the server does, and wherever a `close()`
falls, the server has a prefix of the configuration request and of frames of the audio
in order; only a `close()` in the window can have left some of them empty. With the
half-close it has all that was drawn, which is every frame if the stream has not been
closed. What the call returns or raises is what `recognizeAudioContent` does on what
the server sent, or an `RpcError` if the call has failed. -/
theorem session_delivers (hd : 0 ≤ delay) (hset : settings.Fits) (hrate : FitsInt32 st.frameRate)
    (hs : 0 < st.frameSamplesSize) {ls : List (NetLbl F)} {s : Net F}
    (hr : (net F st delay settings).Run (netStart st delay settings) ls s) :
    ∃ (c : StreamingRecognitionConfig) (sent : List Bytes), c.config.sampleRateHertz.toInt = st.frameRate ∧
      Framed (frames st) s.client.raced sent ∧
      s.received.filterMap Item.message? <+: .streamingConfig c :: sent.map .audioContent ∧
      (.halfClose ∈ s.received →
        s.received = (.streamingConfig c :: sent.map .audioContent).map .message ++ [.halfClose] ∧
        (s.client.reader.closes = 0 → sent = frames st)) ∧
      ∀ out, s.client.reader.outcome = some out →
        ResponseLoop.Outcome settings s.ended s.sent s.delivered out := by
  obtain ⟨c, hcfg, hsent⟩ := buildConfigurationRequest_of_fits hrate hset
  obtain ⟨sent, hi⟩ := drawn_of_run hcfg hd hs hr
  exact ⟨c, sent, hsent, hi.framed, received_messages hi hr, received_of_halfClose hi hr,
    fun out ho => ResponseLoop.outcome_cases runs hr ho⟩

/-! ## The call ends -/

/-- The steps of `__next__` that are left. -/
def pcRank : IterPc → Nat
  | .dispatch => 7
  | .build => 6
  | .setFlag _ => 5
  | .resume => 6
  | .generator pc => match pc with
    | .test => 5
    | .readEnd => 4
    | .slice _ => 3
    | .store _ _ => 2
    | .yield _ => 1
    | .done => 0

/-- What gRPC's thread has in front of it, with `m` requests still to come. -/
def consumerRank (m : Nat) : Consumer IterPc → Nat
  | .ask => 8 * m + 8
  | .inside k => 8 * m + pcRank k
  | _ => 0

/-- `n` is the number of frames. -/
def State.rank (n : Nat) (s : State F) : Nat :=
  consumerRank (n + 1 - s.stream.length) s.consumer + s.reader.rank

theorem pcRank_next {it it' : RequestIterator} {k k' : IterPc} (hb : bodyStep it k = (it', .inl k')) :
    pcRank k' < pcRank k := by
  cases k with
  | dispatch =>
    cases hb
    cases it.isInitialRequest <;> decide
  | build =>
    simp only [bodyStep] at hb
    split at hb <;> cases hb
    exact Nat.lt_succ_self 5
  | setFlag req => cases hb
  | resume =>
    simp only [bodyStep] at hb
    split at hb <;> cases hb
    decide
  | generator pc =>
    cases pc with
    | test =>
      simp only [bodyStep, generatorStep] at hb
      split at hb <;> cases hb
      decide
    | readEnd | slice _ | store _ _ => cases hb; exact Nat.lt_succ_self _
    | yield data =>
      rcases LockedIterator.step_yield it data with ⟨-, hy⟩ | ⟨-, hy⟩ <;> rw [hy] at hb <;> cases hb
    | done => cases hb

theorem pcRank_pos {c : StreamingRecognitionConfig} {p closes : Nat} {raced : Bool} {it : RequestIterator}
    {k : IterPc} (hk : Stands st c p closes raced it k) : 0 < pcRank k := by
  cases k with
  | dispatch | build | setFlag _ | resume => exact Nat.succ_pos _
  | generator pc =>
    cases pc with
    | done => exact hk.2.elim
    | test | readEnd | slice _ | store _ _ | yield _ => exact Nat.succ_pos _

omit [One F] [LT F] [DecidableLT F] in
/-- A request is drawn only while there are fewer than the configuration and the frames. -/
theorem Drawn.length_le {c : StreamingRecognitionConfig} {sent : List Bytes} {s : State F} {k : IterPc}
    {it : RequestIterator} {req : StreamingRecognizeRequest} (hi : Drawn st delay settings c sent s)
    (hc : s.consumer = .inside k)
    (h : Replies st c sent.length s.reader.closes s.raced s.iterator it (.ok req)) :
    s.stream.length ≤ (frames st).length := by
  rcases hi.onStream with ⟨hnil, -⟩ | ⟨hinit, hstream⟩
  · rw [hnil]; exact Nat.zero_le _
  · rw [hc] at hstream
    cases h with
    | config hinit' => rw [hinit] at hinit'; cases hinit'
    | audio _ _ _ hp _ _ =>
      rw [hstream]
      simpa [Consumer.running] using Nat.succ_le_of_lt hp

theorem rank_step {c : StreamingRecognitionConfig} {sent : List Bytes}
    (hcfg : buildConfigurationRequest st.frameRate settings = .ok (.streamingConfig c))
    (hd : 0 ≤ delay) {v : Option Ending} {s s' : State F} {l : Lbl}
    (hi : Drawn st delay settings c sent s) (hst : step settings v s l = some s') :
    s'.rank (frames st).length < s.rank (frames st).length := by
  cases step_cases hst with
  | asks hc =>
    refine Nat.add_lt_add_right ?_ _
    rw [hc]
    cases v with
    | none => exact Nat.lt_succ_self _
    | some _ => exact Nat.succ_pos _
  | moves hc hb =>
    refine Nat.add_lt_add_right ?_ _
    rw [hc]
    exact Nat.add_lt_add_left (pcRank_next hb) _
  | @replies k it reply hc hb =>
    have hplaced := hi.placed
    rw [hc] at hplaced
    have hpos := pcRank_pos hplaced.2
    obtain ⟨-, hreply⟩ := stands_reply hcfg hd hplaced.1 hi.same hplaced.2 hb
    refine Nat.add_lt_add_right ?_ _
    rw [hc]
    cases v with
    | some _ => exact Nat.lt_of_lt_of_le hpos (Nat.le_add_left _ _)
    | none =>
      cases reply with
      | ok req =>
        have hle := hi.length_le hc hreply
        simp only [Consumer.reply, consumerRank, Option.isSome_none, Bool.false_eq_true, if_false,
          List.length_append, List.length_singleton]
        omega
      | error e =>
        cases hreply
        exact Nat.lt_of_lt_of_le hpos (Nat.le_add_left _ _)
  | reads hread | closes hread => exact Nat.add_lt_add_left (ResponseLoop.rank_step hread) _

/-- The thread has stopped: the call had ended. -/
theorem stopped_step {v : Option Ending} {s s' : State F} {l : Lbl} (hst : step settings v s l = some s')
    (h : s'.consumer = .stopped) : s.consumer = .stopped ∨ v.isSome = true := by
  cases step_cases hst with
  | asks hc =>
    cases v with
    | none => cases h
    | some _ => exact .inr rfl
  | moves _ _ => cases h
  | replies hc hb => exact .inr (Consumer.isSome_of_stopped h)
  | reads _ | closes _ => exact .inl h

omit [One F] [LT F] [DecidableLT F] in
theorem Drawn.closedLast {c : StreamingRecognitionConfig} {sent : List Bytes} {s : State F}
    (hi : Drawn st delay settings c sent s) : Link.ClosedLast s.stream := by
  rcases hi.onStream with ⟨hnil, -⟩ | ⟨-, hstream⟩
  · rw [hnil]
    exact fun front hp _ => List.prefix_nil.mp hp
  · rw [hstream]
    exact Link.closedLast_messages _ _

/-- Until it has half-closed or the call has ended, gRPC's thread does not wait for the
server. -/
theorem Drawn.draws {c : StreamingRecognitionConfig} {sent : List Bytes} {s : State F}
    (hi : Drawn st delay settings c sent s) (hrun : s.consumer ≠ .stopped)
    (hclose : .halfClose ∉ s.stream) : ∃ s', step settings none s .consumer = some s' := by
  cases hc : s.consumer with
  | ask => exact ⟨_, by simp only [step, consumerStep, hc]; rfl⟩
  | inside k =>
    simp only [step, consumerStep, hc]
    split <;> exact ⟨_, rfl⟩
  | halfClosed =>
    refine absurd ?_ hclose
    have hstream := (hi.onStream.resolve_left fun h => by rw [hc] at h; cases h.2.2.1).2
    rw [hstream, hc]
    simp [Consumer.running]
  | raised e =>
    have hplaced := hi.placed
    rw [hc] at hplaced
    exact hplaced.elim
  | stopped => exact absurd hc hrun

theorem live {c : StreamingRecognitionConfig}
    (hcfg : buildConfigurationRequest st.frameRate settings = .ok (.streamingConfig c))
    (hd : 0 ≤ delay) (hs : 0 < st.frameSamplesSize) :
    Link.Live (client (F := F) settings) (fun s => ∃ sent, Drawn st delay settings c sent s)
      (fun s => s.reader.outcome.isSome = true) (fun s => s.consumer = .stopped)
      (State.rank (frames st).length) 1 where
  step := fun ⟨_, hi⟩ hst => drawn_step hcfg hd hs hi hst
  deliver := fun rs ⟨sent, hi⟩ => ⟨sent, hi.deliver rs⟩
  rank_step := fun ⟨_, hi⟩ hst => rank_step hcfg hd hi hst
  rank_deliver s r := by
    simp only [client, State.deliver, State.rank, ResponseLoop.rank_deliver]
    omega
  uplink_step _ hst := by
    cases step_cases hst with
    | replies hc hb => exact Consumer.length_reply_le _ _ _
    | asks _ | moves _ _ | reads _ | closes _ => exact Nat.le_succ _
  closedLast := fun ⟨_, hi⟩ => hi.closedLast
  seen_step := stopped_step
  seen_deliver h := h
  waits := fun ⟨_, hi⟩ _ hrun hclose => ⟨.consumer, hi.draws hrun hclose⟩
  ends v _ hout := by
    refine ⟨.reader, Option.isSome_iff_exists.mp ?_⟩
    change (readerStep settings (some v) _).isSome = true
    rw [readerStep, Option.isSome_map]
    exact ResponseLoop.isSome_step (by simpa using hout) v

/-- **The two sides do not wait for each other for good.** Until the call has returned
or raised, some step is possible that does not depend on another response, the server
finishing the call only after the half-close; so every run can be continued to one in
which it has, and everything drawn has arrived unless the call had been ended before. A
run has at most 16 steps for a frame, four for a response and 36. -/
theorem session_ends (hd : 0 ≤ delay) (hset : settings.Fits) (hrate : FitsInt32 st.frameRate)
    (hs : 0 < st.frameSamplesSize) {ls : List (NetLbl F)} {s : Net F}
    (hr : (net F st delay settings).Run (netStart st delay settings) ls s) :
    ls.length ≤ 16 * (frames st).length + 4 * s.sent.length + 36 ∧
    (s.client.reader.outcome.isSome = true ∨
      ∃ l s', ((net F st delay settings).guard Link.Quiet).step s l s') ∧
    ∃ ls' s', ((net F st delay settings).guard Link.Quiet).Run s ls' s' ∧
      s'.client.reader.outcome.isSome = true ∧ (Link.Uncut s → s'.received = s'.client.stream) := by
  obtain ⟨c, hcfg, -⟩ := buildConfigurationRequest_of_fits hrate hset
  have hl := live (F := F) hcfg hd hs
  have h₀ : ∃ sent, Drawn st delay settings c sent (start st delay settings : State F) := ⟨[], drawn_start⟩
  have hseen : ¬ (start st delay settings : State F).consumer = .stopped := by simp [start]
  refine ⟨?_, hl.progress h₀ hseen hr, hl.completes h₀ hseen hr⟩
  have hle := hl.steps_le h₀ rfl hr
  have hrank : State.rank (frames st).length (start st delay settings : State F) =
      8 * ((frames st).length + 1) + 8 + 1 := rfl
  rw [hrank] at hle
  omega

/-! ## A session -/

open LockedIterator (shortIterator shortConfig)

theorem frames_shortStream : frames RequestIterator.shortStream = [[1, 2], [3, 4], [5]] := by
  simp [frames, RequestIterator.shortStream, chunks]

/-- One final result. -/
def finalResponse : StreamingRecognizeResponse Nat :=
  { error := none, results := [⟨[⟨"tak", 1, []⟩], true⟩], speechEventType := speechEventUnspecified }

/-- Three frames are sent, and the server answers behind the half-close. -/
def answered : Net Nat :=
  { client :=
      { iterator := { shortIterator with
          isInitialRequest := false
          audioGenerator := { finished := true }
          audioStream := { RequestIterator.shortStream with dataIndex := 5 } }
        consumer := .halfClosed
        stream := (.streamingConfig shortConfig :: [[1, 2], [3, 4], [5]].map .audioContent).map .message ++
          [.halfClose]
        raced := false
        reader :=
          { incoming := []
            loop := { results := [⟨"tak", [[]], 1⟩], closes := 0 }
            outcome := some (.ok [⟨"tak", [[]], 1⟩]) } }
    received := (.streamingConfig shortConfig :: [[1, 2], [3, 4], [5]].map .audioContent).map .message ++
      [.halfClose]
    delivered := [finalResponse]
    inFlight := []
    ended := some .ok }

/-- The configuration takes four steps, a frame eight, the end of the audio four. -/
def answeredSteps : List (NetLbl Nat) :=
  List.replicate 32 (.client .consumer) ++ List.replicate 5 .arrive ++
    [.respond finalResponse, .deliver, .finish, .client .reader, .client .reader]

theorem answered_run : (net Nat RequestIterator.shortStream 20 {}).Run
    (netStart RequestIterator.shortStream 20 {}) answeredSteps answered :=
  LTS.run_of_exec rfl

def utteranceEnd : StreamingRecognizeResponse Nat :=
  { error := none, results := [], speechEventType := endOfSingleUtterance }

/-- Between the two reads of the index for the second frame an end of utterance closes
the stream; that frame is sent empty, and the third one is sent all the same. -/
def overtaken : Net Nat :=
  { answered with
    client := { answered.client with
      stream := (.streamingConfig shortConfig :: [[1, 2], [], [5]].map .audioContent).map .message ++
        [.halfClose]
      raced := true
      reader :=
        { incoming := []
          loop := { results := [], closes := 1 }
          outcome := some (.ok []) } }
    received := (.streamingConfig shortConfig :: [[1, 2], [], [5]].map .audioContent).map .message ++
      [.halfClose]
    delivered := [utteranceEnd] }

def overtakenSteps : List (NetLbl Nat) :=
  List.replicate 17 (.client .consumer) ++ [.respond utteranceEnd, .deliver, .client .reader] ++
    List.replicate 15 (.client .consumer) ++ List.replicate 5 .arrive ++ [.finish, .client .reader]

theorem overtaken_run : (net Nat RequestIterator.shortStream 20 {}).Run
    (netStart RequestIterator.shortStream 20 {}) overtakenSteps overtaken :=
  LTS.run_of_exec rfl

/-- All three frames of one call; of the other, with the `close()` in the window, a
request for each frame, the second one empty. -/
theorem session_delivers_at :
    (∃ (c : StreamingRecognitionConfig) (sent : List Bytes), c.config.sampleRateHertz.toInt = 1000 ∧
      Framed [[1, 2], [3, 4], [5]] false sent ∧
      answered.received.filterMap Item.message? <+: .streamingConfig c :: sent.map .audioContent ∧
      answered.received = (.streamingConfig c :: sent.map .audioContent).map .message ++ [.halfClose] ∧
      sent = [[1, 2], [3, 4], [5]] ∧
      ResponseLoop.Outcome {} (some .ok) [finalResponse] [finalResponse] (.ok [⟨"tak", [[]], 1⟩])) ∧
    ∃ (c : StreamingRecognitionConfig) (sent : List Bytes), c.config.sampleRateHertz.toInt = 1000 ∧
      Framed [[1, 2], [3, 4], [5]] true sent ∧
      overtaken.received.filterMap Item.message? <+: .streamingConfig c :: sent.map .audioContent ∧
      overtaken.received = (.streamingConfig c :: sent.map .audioContent).map .message ++ [.halfClose] ∧
      ResponseLoop.Outcome {} (some .ok) [utteranceEnd] [utteranceEnd] (.ok []) := by
  obtain ⟨c, sent, hrate, hframed, hpre, hall, hout⟩ := session_delivers (by decide) (by decide) (by decide)
    (by decide) answered_run
  obtain ⟨c', sent', hrate', hframed', hpre', hall', hout'⟩ := session_delivers (by decide) (by decide)
    (by decide) (by decide) overtaken_run
  rw [frames_shortStream] at hframed hframed' hall
  obtain ⟨heq, hopen⟩ := hall (by simp [answered])
  obtain ⟨heq', -⟩ := hall' (by simp [overtaken])
  exact ⟨⟨c, sent, hrate, hframed, hpre, heq, hopen rfl, hout _ rfl⟩, c', sent', hrate', hframed',
    hpre', heq',
    hout' _ rfl⟩

/-- Inside the second frame of that call. -/
theorem inside_frame_run : ∃ s : Net Nat, (net Nat RequestIterator.shortStream 20 {}).Run
    (netStart RequestIterator.shortStream 20 {}) (overtakenSteps.take 20) s ∧
      s.ended = none ∧ s.client.reader.outcome = none ∧ s.sent = [utteranceEnd] :=
  ⟨_, LTS.run_of_exec rfl, rfl, rfl, rfl⟩

/-- From there the call can go on, and be brought to an end with everything arrived. -/
theorem session_ends_at : ∃ s : Net Nat, (overtakenSteps.take 20).length ≤ 16 * 3 + 4 * s.sent.length + 36 ∧
    (∃ l s', ((net Nat RequestIterator.shortStream 20 {}).guard Link.Quiet).step s l s') ∧
    ∃ ls' s', ((net Nat RequestIterator.shortStream 20 {}).guard Link.Quiet).Run s ls' s' ∧
      s'.client.reader.outcome.isSome = true ∧ s'.received = s'.client.stream := by
  obtain ⟨s, hr, he, ho, hsent⟩ := inside_frame_run
  obtain ⟨hle, hstep, ls', s', hr', ho', hall⟩ :=
    session_ends (by decide) (by decide) (by decide) (by decide) hr
  rw [frames_shortStream] at hle
  exact ⟨s, hle, hstep.resolve_left (by rw [ho]; simp), ls', s', hr', ho', hall (.inl he)⟩

end Network

end DictationClient.L5.PyCall
